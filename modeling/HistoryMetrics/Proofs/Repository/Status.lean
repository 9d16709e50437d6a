import HistoryMetrics.Proofs.Text.Pieces
import HistoryMetrics.Repository.Churn

/-! # Lists of changed paths, printed and read back

    Git prints a status and one path, or a status and two paths, and closes each of them with a null
    character. How many paths there are is told by the first letter of the status alone, so a reader
    that counts them wrong takes a path for a status and is lost from there on. Here the printed form
    is defined and read back. Nothing is asked of the paths but that they hold no null character: they
    may be empty or blank, and they may look like a status.

    - `PrintedChange`: what git prints of one changed path
    - `ofPieces_pieces`: reading takes up just the pieces of one entry
    - `listed_print`: reading a printed list
-/

namespace HistoryMetrics

/-! ## The printed form -/

/-- The first character of a status that is not blank. -/
def statusLetter? (status : String) : Option Char := status.toList.find? fun c => !Text.isBlank c

/-- **What git prints of one changed path**: a status, the old path of moves and copies, and the path. -/
structure PrintedChange where
  status : String
  letter : Char
  oldPath : Option String
  path : String
  letter_eq : statusLetter? status = some letter
  oldPath_isSome : oldPath.isSome = true ↔ letter = 'R' ∨ letter = 'C'
  status_noNull : '\x00' ∉ status.toList
  oldPath_noNull : ∀ p ∈ oldPath, '\x00' ∉ p.toList
  path_noNull : '\x00' ∉ path.toList

namespace PrintedChange

/-- The letters that are known, and what they stand for. -/
def letterKinds : List (Char × ChangeKind) :=
  [('A', .add), ('D', .delete), ('M', .modify), ('T', .modify), ('R', .move), ('C', .copy)]

/-- The pieces of an entry, in their order. -/
def pieces (e : PrintedChange) : List (List Char) :=
  e.status.toList :: (e.oldPath.toList ++ [e.path]).map String.toList

/-- **The printed list.** -/
def print (es : List PrintedChange) : String :=
  String.ofList ((es.flatMap pieces).flatMap fun p => p ++ ['\x00'])

/-- **The change that an entry stands for**, if its letter is known. -/
def change? (e : PrintedChange) : Option Change :=
  (letterKinds.lookup e.letter).map fun kind => .uncounted e.path kind e.oldPath

/-- The entry that is read. -/
def entry (e : PrintedChange) : StatusEntry :=
  match e.change? with
  | some c => .change c
  | none => .unknown (Text.stripped e.status) e.path

end PrintedChange

namespace StatusList

/-! ## One entry -/

theorem kindOfLetter_eq (c : Char) : kindOfLetter c = PrintedChange.letterKinds.lookup c := by
  unfold kindOfLetter
  split
  case h_7 hA hD hM hT hR hC =>
    simp [PrintedChange.letterKinds, List.lookup_cons, beq_false_of_ne hA, beq_false_of_ne hD,
      beq_false_of_ne hM, beq_false_of_ne hT, beq_false_of_ne hR, beq_false_of_ne hC]
  all_goals rfl

/-- Only two letters stand for entries with two paths. -/
theorem kindOfLetter_of_single {letter : Char} (hR : letter ≠ 'R') (hC : letter ≠ 'C') :
    kindOfLetter letter ≠ some .move ∧ kindOfLetter letter ≠ some .copy := by
  unfold kindOfLetter
  split <;> simp_all

theorem ofPieces_single {status path : List Char} {letter : Char} {more : List Char}
    (hstatus : Text.strip status = letter :: more) (hR : letter ≠ 'R') (hC : letter ≠ 'C')
    (rest : List (List Char)) :
    ofPieces (status :: path :: rest) =
      cons (entry (kindOfLetter letter) (letter :: more) path) (ofPieces rest) := by
  obtain ⟨hmove, hcopy⟩ := kindOfLetter_of_single hR hC
  rw [ofPieces, hstatus]
  cases hkind : kindOfLetter letter with
  | none => simp only [hkind]
  | some kind =>
    cases kind with
    | move => exact absurd hkind hmove
    | copy => exact absurd hkind hcopy
    | add => simp only [hkind]
    | delete => simp only [hkind]
    | modify => simp only [hkind]

theorem ofPieces_pair {status old new : List Char} {letter : Char} {more : List Char}
    (hstatus : Text.strip status = letter :: more) {kind : ChangeKind}
    (hkind : kindOfLetter letter = some kind) (htwo : hasTwoPaths (some kind) = true)
    (rest : List (List Char)) :
    ofPieces (status :: old :: new :: rest) = cons (pairEntry kind old new) (ofPieces rest) := by
  rw [ofPieces, hstatus]
  cases kind with
  | move => simp only [hkind]
  | copy => simp only [hkind]
  | add => cases htwo
  | delete => cases htwo
  | modify => cases htwo

/-- **Reading takes up just the pieces of one entry**, whatever its paths look like. -/
theorem ofPieces_pieces (e : PrintedChange) (rest : List (List Char)) :
    ofPieces (e.pieces ++ rest) = cons e.entry (ofPieces rest) := by
  obtain ⟨more, hstatus⟩ := Text.strip_of_find? e.letter_eq
  have hletter := kindOfLetter_eq e.letter
  cases hold : e.oldPath with
  | none =>
    -- one path, so the letter is neither of the two that stand for two
    have hsingle : ¬(e.letter = 'R' ∨ e.letter = 'C') := by
      rw [← e.oldPath_isSome, hold]
      exact Bool.false_ne_true
    obtain ⟨hR, hC⟩ := not_or.1 hsingle
    have hpieces : e.pieces ++ rest = e.status.toList :: e.path.toList :: rest := by
      simp [PrintedChange.pieces, hold]
    rw [hpieces, ofPieces_single hstatus hR hC, hletter]
    congr 1
    unfold PrintedChange.entry PrintedChange.change?
    cases PrintedChange.letterKinds.lookup e.letter with
    | none => simp [entry, Text.stripped, hstatus]
    | some kind => simp [entry, hold]
  | some old =>
    have hpieces : e.pieces ++ rest = e.status.toList :: old.toList :: e.path.toList :: rest := by
      simp [PrintedChange.pieces, hold]
    have hletter' : e.letter = 'R' ∨ e.letter = 'C' := e.oldPath_isSome.1 (by rw [hold]; rfl)
    obtain ⟨kind, hkind, htwo⟩ : ∃ kind, PrintedChange.letterKinds.lookup e.letter = some kind ∧
        hasTwoPaths (some kind) = true := by
      rcases hletter' with hR | hC
      · exact ⟨.move, by rw [hR]; rfl, rfl⟩
      · exact ⟨.copy, by rw [hC]; rfl, rfl⟩
    rw [hpieces, ofPieces_pair hstatus (hletter.trans hkind) htwo]
    simp [PrintedChange.entry, PrintedChange.change?, hkind, pairEntry, hold]

/-! ## The whole list -/

theorem ofPieces_flatMap_pieces (es : List PrintedChange) :
    ofPieces (es.flatMap PrintedChange.pieces ++ [[]]) = ⟨es.map PrintedChange.entry, false⟩ := by
  induction es with
  | nil => rfl
  | cons e es ih =>
    rw [List.flatMap_cons, List.append_assoc, ofPieces_pieces, ih]
    rfl

end StatusList

namespace PrintedChange

theorem pieces_noNull (e : PrintedChange) : ∀ p ∈ e.pieces, '\x00' ∉ p := by
  intro p hp
  rcases List.mem_cons.1 hp with rfl | hp
  · exact e.status_noNull
  · obtain ⟨q, hq, rfl⟩ := List.mem_map.1 hp
    rcases List.mem_append.1 hq with hq | hq
    · exact e.oldPath_noNull q (Option.mem_toList.1 hq)
    · rw [List.mem_singleton.1 hq]
      exact e.path_noNull

theorem ofText_print (es : List PrintedChange) :
    StatusList.ofText (print es) = ⟨es.map entry, false⟩ := by
  have hpieces : ∀ p ∈ es.flatMap pieces, '\x00' ∉ p := by
    intro p hp
    obtain ⟨e, _, hpe⟩ := List.mem_flatMap.1 hp
    exact e.pieces_noNull p hpe
  rw [StatusList.ofText, print, String.toList_ofList, Text.splitOn_flatMap_sep hpieces,
    StatusList.ofPieces_flatMap_pieces]

/-- Entries with letters that are not known make no changes, and all others make one. -/
theorem changes_map_entry (es : List PrintedChange) :
    StatusList.changes ⟨es.map entry, false⟩ = es.filterMap change? := by
  rw [StatusList.changes, List.filterMap_map]
  congr 1
  funext e
  show StatusList.change? e.entry = e.change?
  unfold entry
  cases e.change? <;> rfl

end PrintedChange

/-- **Reading a printed list.** It is read to its end, entry by entry; the changes are those of the
    entries whose letters are known, in their order. -/
theorem listed_print {σ : Type} (es : List PrintedChange) (w : World σ) :
    StatusList.ofText (PrintedChange.print es) = ⟨es.map PrintedChange.entry, false⟩ ∧
      (Repository.listed (PrintedChange.print es) w).1 =
        .ok (es.filterMap PrintedChange.change?) := by
  have hread := PrintedChange.ofText_print es
  refine ⟨hread, ?_⟩
  rw [Repository.listed, hread, Action.bind_apply, PrintedChange.changes_map_entry]
  rfl

/-- An entry with a letter that is not known, a move from a path that is empty, and a path of blanks;
    two of the paths look like statuses. -/
def lookalikes : List PrintedChange :=
  [⟨"X", 'X', none, "R100", by decide, by decide, by decide, by decide, by decide⟩,
    ⟨"R090", 'R', some "", "M", by decide, by decide, by decide, by decide, by decide⟩,
    ⟨" D", 'D', none, "  ", by decide, by decide, by decide, by decide, by decide⟩]

/-- The move and the deletion are read in every world, and nothing else. -/
theorem listed_print_lookalikes :
    let printed := "X\x00R100\x00R090\x00\x00M\x00 D\x00  \x00"
    printed = PrintedChange.print lookalikes ∧
      (fun w : World Unit => (Repository.listed printed w).1) =
        fun _ => .ok [.uncounted "M" .move (some ""), .uncounted "  " .delete none] := by
  have hprint : "X\x00R100\x00R090\x00\x00M\x00 D\x00  \x00" = PrintedChange.print lookalikes := by
    decide
  refine ⟨hprint, funext fun w => ?_⟩
  rw [hprint]
  exact (listed_print lookalikes w).2

end HistoryMetrics
