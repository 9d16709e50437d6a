import HistoryMetrics.Proofs.Git.Run
import HistoryMetrics.Proofs.Session.Lifecycle
import HistoryMetrics.Proofs.Text.Pieces
import HistoryMetrics.Repository.Churn

/-! # Patches, printed and read back

    Git ends each line of a patch with a line feed, and a line of a file may hold any other character.
    The readers of patches cut at every line boundary. Where a line holds another one, they see what
    follows it as a line of its own, and they lose the boundary. Here the printed form is defined, and
    what the readers make of it: the counts are right as long as nothing that follows a boundary inside
    a line looks like a line of the patch, and the bytes are right just when there is no such boundary.

    - `HunkLine`, `Hunk`, `FileSection`: what git prints of a patch of texts
    - `Patch.roles`, `countLines_eq`, `measure_eq`: the two readers see the same lines
    - `Patch.after`, `Patch.roles_append`: reading goes on from where it stands
    - `Patch.IsRead`: lines that are read as they are printed
    - `Patch.signs_sections`, `Patch.sizeFrom_sections`: what is read of a whole patch
    - `withLines_print`: the counts of a printed patch
-/

namespace HistoryMetrics

open Text (IsPlain printed byteLength)

/-! ## The printed form -/

/-- **A line of a hunk**: an added line or a removed one, which may be the last line of a file that does
    not end with a line feed. -/
structure HunkLine where
  isAddition : Bool
  content : String
  isUnended : Bool
  content_noLineFeed : '\n' ∉ content.toList

/-- **A hunk**: what its title says, and its lines. -/
structure Hunk where
  heading : String
  lines : List HunkLine
  heading_noLineFeed : '\n' ∉ heading.toList

/-- **The section of a file**: the names in its title, the other lines before the first hunk, and the
    hunks. -/
structure FileSection where
  names : String
  headers : List String
  hunks : List Hunk
  names_noLineFeed : '\n' ∉ names.toList
  headers_noLineFeed : ∀ l ∈ headers, '\n' ∉ l.toList
  headers_inert : ∀ l ∈ headers,
    Patch.startsHunk l.toList = false ∧ Patch.isBinaryLine l.toList = false

/-- The mark of a line without a line feed. -/
def unendedMark : List Char := "\\ No newline at end of file".toList

/-- The line with its sign. -/
def HunkLine.line (l : HunkLine) : List Char :=
  (if l.isAddition then '+' else '-') :: l.content.toList

/-- The mark after the line, if it has one. -/
def HunkLine.marks (l : HunkLine) : List (List Char) := if l.isUnended then [unendedMark] else []

/-- The printed lines of a line of a hunk. -/
def HunkLine.print (l : HunkLine) : List (List Char) := l.line :: l.marks

/-- The bytes of a line and its end. -/
def HunkLine.size (l : HunkLine) : Nat := l.content.utf8ByteSize + 1

/-- The first line of a hunk. -/
def Hunk.title (h : Hunk) : List Char := "@@".toList ++ h.heading.toList

/-- The printed lines of a hunk. -/
def Hunk.print (h : Hunk) : List (List Char) := h.title :: h.lines.flatMap HunkLine.print

namespace FileSection

/-- The first line of a section. -/
def title (s : FileSection) : List Char := "diff --git ".toList ++ s.names.toList

/-- The lines that come before hunks. -/
def heads (s : FileSection) : List (List Char) := s.title :: s.headers.map String.toList

/-- The printed lines of a section. -/
def print (s : FileSection) : List (List Char) := s.heads ++ s.hunks.flatMap Hunk.print

/-- The lines that belong to neither file. -/
def titles (s : FileSection) : List (List Char) := s.heads ++ s.hunks.map Hunk.title

/-- The lines of all hunks. -/
def lines (s : FileSection) : List HunkLine := s.hunks.flatMap Hunk.lines

end FileSection

namespace Patch

-- Sums start at the zero of the core library, whatever other zeros are in scope.
attribute [local instance (high)] Zero.ofOfNat0

/-- **The printed patch.** -/
def print (p : List FileSection) : String :=
  String.ofList ((p.flatMap FileSection.print).flatMap fun l => l ++ ['\n'])

/-- The number of `+` lines of a patch. -/
def additions (p : List FileSection) : Nat :=
  (p.flatMap FileSection.lines).countP HunkLine.isAddition

/-- The number of `-` lines of a patch. -/
def deletions (p : List FileSection) : Nat :=
  (p.flatMap FileSection.lines).countP fun l => !l.isAddition

/-- The bytes of the lines of a patch. -/
def size (p : List FileSection) : Nat := ((p.flatMap FileSection.lines).map HunkLine.size).sum

theorem lines_print (p : List FileSection) :
    Text.lines (print p).toList = p.flatMap fun s => s.print.flatMap printed := by
  rw [print, String.toList_ofList, Text.lines_flatMap_lineFeed, List.flatMap_assoc]

/-! ## Lines and their roles -/

end Patch

/-- **The role of a line in a patch.** -/
inductive PatchLine where
  | added (content : List Char)
  | removed (content : List Char)
  | other
deriving Repr, DecidableEq

namespace Patch

/-- The role of a line inside a hunk. -/
def hunkLine : List Char → PatchLine
  | '+' :: content => .added content
  | '-' :: content => .removed content
  | _ => .other

/-- The roles of lines; `inHunk` tells whether they continue a hunk. -/
def roles : (inHunk : Bool) → List (List Char) → List PatchLine
  | _, [] => []
  | inHunk, line :: rest =>
    if startsFile line then .other :: roles false rest
    else if startsHunk line then .other :: roles true rest
    else (if inHunk then hunkLine line else .other) :: roles inHunk rest

/-- **The lines of a patch**, each with its role. -/
def ofText (patch : String) : List PatchLine := roles false (Text.lines patch.toList)

/-- Is this an added line? -/
def isAdded : PatchLine → Bool
  | .added _ => true
  | _ => false

/-- Is this a removed line? -/
def isRemoved : PatchLine → Bool
  | .removed _ => true
  | _ => false

/-- The bytes of the content of a line and its end. -/
def lineSize : PatchLine → Nat
  | .added content | .removed content => Text.byteLength content + 1
  | .other => 0

/-- A line is added, or removed, or it has no sign. -/
theorem hunkLine_cases (l : List Char) :
    (l.head? = some '+' ∧ hunkLine l = .added l.tail) ∨
      (l.head? = some '-' ∧ hunkLine l = .removed l.tail) ∨
      (l.head? ≠ some '+' ∧ l.head? ≠ some '-' ∧ hunkLine l = .other) := by
  unfold hunkLine
  split
  · exact .inl ⟨rfl, rfl⟩
  · exact .inr (.inl ⟨rfl, rfl⟩)
  · next hplus hminus =>
    refine .inr (.inr ⟨fun h => ?_, fun h => ?_, rfl⟩)
    · obtain ⟨content, rfl⟩ := List.head?_eq_some_iff.1 h
      exact hplus content rfl
    · obtain ⟨content, rfl⟩ := List.head?_eq_some_iff.1 h
      exact hminus content rfl

/-- **Counting goes by the roles.** -/
theorem countLines_eq (inHunk : Bool) (added removed : Nat) (ls : List (List Char)) :
    countLines inHunk added removed ls =
      (added + (roles inHunk ls).countP isAdded, removed + (roles inHunk ls).countP isRemoved) := by
  induction ls generalizing inHunk added removed with
  | nil => rfl
  | cons l ls ih =>
    unfold countLines roles
    split
    · simp [ih, isAdded, isRemoved]
    split
    · simp [ih, isAdded, isRemoved]
    cases inHunk with
    | false => simp [ih, isAdded, isRemoved]
    | true =>
      rcases hunkLine_cases l with ⟨hsign, hrole⟩ | ⟨hsign, hrole⟩ | ⟨hplus, hminus, hrole⟩
      · simp [ih, hsign, hrole, List.countP_cons, isAdded, isRemoved]
        omega
      · simp [ih, hsign, hrole, List.countP_cons, isAdded, isRemoved]
        omega
      · simp [ih, hplus, hminus, hrole, isAdded, isRemoved]

/-- **Measuring goes by the same roles.** -/
theorem measure_eq (inHunk : Bool) (size : Nat) (ls : List (List Char)) :
    measure inHunk size ls = size + ((roles inHunk ls).map lineSize).sum := by
  induction ls generalizing inHunk size with
  | nil => rfl
  | cons l ls ih =>
    unfold measure roles
    split
    · simp [ih, lineSize]
    split
    · simp [ih, lineSize]
    cases inHunk with
    | false => simp [ih, lineSize]
    | true =>
      rcases hunkLine_cases l with ⟨hsign, hrole⟩ | ⟨hsign, hrole⟩ | ⟨hplus, hminus, hrole⟩
      · simp [ih, hsign, hrole, lineSize, Nat.add_assoc]
      · simp [ih, hsign, hrole, lineSize, Nat.add_assoc]
      · simp [ih, hplus, hminus, hrole, lineSize]

theorem added_eq_countP (patch : String) : added patch = (ofText patch).countP isAdded := by
  simp only [added, churn, countLines_eq, Nat.zero_add, ofText]

theorem removed_eq_countP (patch : String) : removed patch = (ofText patch).countP isRemoved := by
  simp only [removed, churn, countLines_eq, Nat.zero_add, ofText]

theorem contentSize_eq_sum (patch : String) :
    contentSize patch = ((ofText patch).map lineSize).sum := by
  rw [contentSize, measure_eq, Nat.zero_add, ofText]

/-! ## Reading from where one stands -/

/-- Is a hunk open after one more line? -/
def next (inHunk : Bool) (l : List Char) : Bool :=
  if startsFile l then false else if startsHunk l then true else inHunk

/-- Is a hunk open after some lines? -/
def after (inHunk : Bool) (ls : List (List Char)) : Bool := ls.foldl next inHunk

theorem after_append (b : Bool) (ls rest : List (List Char)) :
    after b (ls ++ rest) = after (after b ls) rest :=
  List.foldl_append

/-- A line has a role, and the others are read from where it leads. -/
theorem roles_cons (b : Bool) (l : List Char) (ls : List (List Char)) :
    roles b (l :: ls) = roles b [l] ++ roles (next b l) ls := by
  unfold next
  by_cases hfile : startsFile l = true
  · simp [roles, hfile]
  · by_cases hhunk : startsHunk l = true
    · simp [roles, hfile, hhunk]
    · simp [roles, hfile, hhunk]

/-- **Reading goes on from where it stands.** -/
theorem roles_append (b : Bool) (ls rest : List (List Char)) :
    roles b (ls ++ rest) = roles b ls ++ roles (after b ls) rest := by
  induction ls generalizing b with
  | nil => rfl
  | cons l ls ih =>
    rw [List.cons_append, roles_cons, ih, roles_cons b l ls, List.append_assoc]
    rfl

/-- Is a line added? Lines that are neither added nor removed have no sign. -/
def sign? : PatchLine → Option Bool
  | .added _ => some true
  | .removed _ => some false
  | .other => none

/-- The signs that are read in some lines. -/
def signs (b : Bool) (ls : List (List Char)) : List Bool := (roles b ls).filterMap sign?

/-- The bytes that are read in some lines. -/
def sizeFrom (b : Bool) (ls : List (List Char)) : Nat := ((roles b ls).map lineSize).sum

theorem signs_append (b : Bool) (ls rest : List (List Char)) :
    signs b (ls ++ rest) = signs b ls ++ signs (after b ls) rest := by
  rw [signs, roles_append, List.filterMap_append]
  rfl

theorem sizeFrom_append (b : Bool) (ls rest : List (List Char)) :
    sizeFrom b (ls ++ rest) = sizeFrom b ls + sizeFrom (after b ls) rest := by
  rw [sizeFrom, roles_append, List.map_append, List.sum_append]
  rfl

theorem added_eq (patch : String) :
    added patch = (signs false (Text.lines patch.toList)).countP id := by
  rw [signs, List.countP_filterMap, added_eq_countP, ofText]
  congr 1
  funext r
  cases r <;> rfl

theorem removed_eq (patch : String) :
    removed patch = (signs false (Text.lines patch.toList)).countP not := by
  rw [signs, List.countP_filterMap, removed_eq_countP, ofText]
  congr 1
  funext r
  cases r <;> rfl

/-! ### One part after the other -/

section parts

variable {α : Type} {part : α → List (List Char)} {I : Bool → Prop} {as : List α}

/-- When each part, read from a state in `I`, shows its signs and leads to `I` again, then all of them
    do. -/
theorem signs_flatMap {f : α → List Bool}
    (h : ∀ a ∈ as, ∀ b, I b → signs b (part a) = f a ∧ I (after b (part a))) {b : Bool} (hb : I b) :
    signs b (as.flatMap part) = as.flatMap f ∧ I (after b (as.flatMap part)) := by
  induction as generalizing b with
  | nil => exact ⟨rfl, hb⟩
  | cons a as ih =>
    obtain ⟨hsigns, hafter⟩ := h a List.mem_cons_self b hb
    obtain ⟨hsigns', hafter'⟩ := ih (fun a' ha' => h a' (List.mem_cons_of_mem a ha')) hafter
    rw [List.flatMap_cons, List.flatMap_cons, signs_append, after_append, hsigns, hsigns']
    exact ⟨rfl, hafter'⟩

/-- No part shows more bytes than it has, from whatever state it is read. From a state in `I` it shows
    all of them just when it is faithful, and a faithful part leads to `I` again. Then the parts together
    show all bytes just when each of them is faithful. -/
theorem sizeFrom_flatMap {f : α → Nat} {P : α → Prop}
    (hle : ∀ a ∈ as, ∀ b, sizeFrom b (part a) ≤ f a)
    (heq : ∀ a ∈ as, ∀ b, I b → (sizeFrom b (part a) = f a ↔ P a))
    (hI : ∀ a ∈ as, P a → ∀ b, I b → I (after b (part a))) (b : Bool) :
    sizeFrom b (as.flatMap part) ≤ (as.map f).sum ∧
      (I b → (sizeFrom b (as.flatMap part) = (as.map f).sum ↔ ∀ a ∈ as, P a)) := by
  induction as generalizing b with
  | nil => exact ⟨Nat.le_refl 0, fun _ => ⟨fun _ a ha => absurd ha List.not_mem_nil, fun _ => rfl⟩⟩
  | cons a as ih =>
    obtain ⟨hle', heq'⟩ := ih (fun a' ha' => hle a' (List.mem_cons_of_mem a ha'))
      (fun a' ha' => heq a' (List.mem_cons_of_mem a ha'))
      (fun a' ha' => hI a' (List.mem_cons_of_mem a ha')) (after b (part a))
    have hfirst := hle a List.mem_cons_self b
    rw [List.flatMap_cons, sizeFrom_append, List.map_cons, List.sum_cons, List.forall_mem_cons]
    refine ⟨by omega, fun hb => ?_⟩
    have hfirst' := heq a List.mem_cons_self b hb
    constructor
    · intro hsum
      -- neither part can make up for what the other has lost
      have hP : P a := hfirst'.1 (by omega)
      exact ⟨hP, (heq' (hI a List.mem_cons_self hP b hb)).1 (by omega)⟩
    · rintro ⟨hP, hrest⟩
      rw [hfirst'.2 hP, (heq' (hI a List.mem_cons_self hP b hb)).2 hrest]

end parts

/-! ### Lines that pass unnoticed -/

/-- **Lines in which nothing is added or removed**, and the state that they lead to. -/
structure Passes (b : Bool) (ls : List (List Char)) (b' : Bool) : Prop where
  roles_eq : ∀ r ∈ roles b ls, r = .other
  after_eq : after b ls = b'

namespace Passes

variable {b b' b'' : Bool} {ls rest : List (List Char)}

theorem nil : Passes b [] b := ⟨fun _ hr => absurd hr List.not_mem_nil, rfl⟩

theorem append (h : Passes b ls b') (hrest : Passes b' rest b'') : Passes b (ls ++ rest) b'' := by
  refine ⟨fun r hr => ?_, by rw [after_append, h.after_eq, hrest.after_eq]⟩
  rw [roles_append, h.after_eq] at hr
  rcases List.mem_append.1 hr with hr | hr
  · exact h.roles_eq r hr
  · exact hrest.roles_eq r hr

theorem signs_eq (h : Passes b ls b') : signs b ls = [] := by
  refine List.filterMap_eq_nil_iff.2 fun r hr => ?_
  rw [h.roles_eq r hr]
  rfl

theorem sizeFrom_eq (h : Passes b ls b') : sizeFrom b ls = 0 := by
  rw [sizeFrom, List.sum_eq_zero_iff_forall_eq_nat]
  intro n hn
  obtain ⟨r, hr, rfl⟩ := List.mem_map.1 hn
  rw [h.roles_eq r hr]
  rfl

theorem of_startsFile {l : List Char} (h : startsFile l = true) : Passes b [l] false := by
  constructor
  · simp [roles, h]
  · simp [after, next, h]

theorem of_startsHunk {l : List Char} (hfile : startsFile l = false) (hhunk : startsHunk l = true) :
    Passes b [l] true := by
  constructor
  · simp [roles, hfile, hhunk]
  · simp [after, next, hfile, hhunk]

/-- Before the first hunk nothing counts but its title. -/
theorem of_header {l : List Char} (h : startsHunk l = false) : Passes false [l] false := by
  constructor
  · simp [roles, h]
  · simp [after, next, h]

theorem flatMap {α : Type} {part : α → List (List Char)} {as : List α}
    (h : ∀ a ∈ as, Passes b (part a) b) : Passes b (as.flatMap part) b := by
  induction as with
  | nil => exact nil
  | cons a as ih =>
    obtain ⟨ha, has⟩ := List.forall_mem_cons.1 h
    exact ha.append (ih has)

/-- **A line that is no title and has no sign passes unnoticed** wherever it stands. -/
theorem of_quiet (h : ∀ l ∈ ls, startsFile l = false ∧ startsHunk l = false ∧ hunkLine l = .other) :
    Passes b ls b := by
  induction ls with
  | nil => exact nil
  | cons l ls ih =>
    obtain ⟨⟨hfile, hhunk, hline⟩, hrest⟩ := List.forall_mem_cons.1 h
    have hl : Passes b [l] b := by
      constructor
      · simp [roles, hfile, hhunk, hline]
      · simp [after, next, hfile, hhunk]
    exact hl.append (ih hrest)

end Passes

/-! ## Lines that are read as they are printed -/

/-- **A line that is read as it is printed.** What follows a line boundary inside it is no title and has
    no sign, and nothing in it stands for contents that are no text. -/
structure IsRead (l : List Char) : Prop where
  isText : ∀ t ∈ printed l, isBinaryLine t = false
  rest_quiet : ∀ t ∈ (printed l).tail,
    startsFile t = false ∧ startsHunk t = false ∧ hunkLine t = .other

instance (l : List Char) : Decidable (IsRead l) :=
  decidable_of_iff ((∀ t ∈ printed l, isBinaryLine t = false) ∧ ∀ t ∈ (printed l).tail,
      startsFile t = false ∧ startsHunk t = false ∧ hunkLine t = .other)
    ⟨fun h => ⟨h.1, h.2⟩, fun h => ⟨h.isText, h.rest_quiet⟩⟩

theorem isRead_of_isPlain {l : List Char} (h : IsPlain l) (htext : isBinaryLine l = false) :
    IsRead l := by
  constructor
  · rw [Text.printed_of_isPlain h]
    simpa using htext
  · rw [Text.printed_of_isPlain h]
    exact fun t ht => absurd ht List.not_mem_nil

/-- Lines that are read as they are printed pass when their beginnings do. -/
theorem IsRead.passes {before l : List Char} {b b' : Bool} (h : IsRead (before ++ l))
    (hbefore : IsPlain before) (hfirst : ∀ first, first <+: l → Passes b [before ++ first] b') :
    Passes b (printed (before ++ l)) b' := by
  cases hl : printed l with
  | nil => exact absurd hl (Text.printed_ne_nil l)
  | cons first rest =>
    -- the first line does what is asked of it, and those after it are quiet
    have hline := Text.printed_append_of_isPlain hbefore hl
    have hrest := h.rest_quiet
    rw [hline] at hrest ⊢
    exact (hfirst first (Text.isPrefix_of_printed hl)).append (.of_quiet hrest)

theorem passes_title {s : FileSection} (h : IsRead s.title) (b : Bool) :
    Passes b (printed s.title) false := by
  refine h.passes (by decide) fun first _ => Passes.of_startsFile ?_
  exact List.isPrefixOf_iff_prefix.2 (List.prefix_append _ first)

theorem passes_hunkTitle {h : Hunk} (hread : IsRead h.title) (b : Bool) :
    Passes b (printed h.title) true := by
  refine hread.passes (by decide) fun first _ => Passes.of_startsHunk rfl ?_
  exact List.isPrefixOf_iff_prefix.2 (List.prefix_append _ first)

theorem passes_header {l : List Char} (hread : IsRead l) (h : startsHunk l = false) :
    Passes false (printed l) false := by
  have hread' : IsRead ([] ++ l) := hread
  refine hread'.passes (by decide) fun first hfirst => Passes.of_header ?_
  rw [List.nil_append, Bool.eq_false_iff]
  -- if the first line began a hunk, so would the whole header
  intro hstarts
  have hprefix : "@@".toList <+: l := (List.isPrefixOf_iff_prefix.1 hstarts).trans hfirst
  rw [startsHunk, List.isPrefixOf_iff_prefix.2 hprefix] at h
  cases h

theorem passes_heads {s : FileSection} (h : ∀ l ∈ s.heads, IsRead l) (b : Bool) :
    Passes b (s.heads.flatMap printed) false := by
  obtain ⟨htitle, hheaders⟩ := List.forall_mem_cons.1 h
  refine (passes_title htitle b).append (Passes.flatMap fun l hl => ?_)
  refine passes_header (hheaders l hl) ?_
  obtain ⟨l', hl', rfl⟩ := List.mem_map.1 hl
  exact (s.headers_inert l' hl').1

/-! ### The lines of hunks -/

theorem passes_marks (l : HunkLine) (b : Bool) : Passes b (l.marks.flatMap printed) b := by
  refine Passes.of_quiet ?_
  unfold HunkLine.marks
  cases l.isUnended <;> decide

/-- A line with its sign begins its first line. -/
theorem printed_line (l : HunkLine) : ∃ first rest,
    printed l.line = ((if l.isAddition then '+' else '-') :: first) :: rest := by
  have hsign : Text.isLineBreak (if l.isAddition then '+' else '-') = false := by
    cases l.isAddition <;> rfl
  unfold HunkLine.line
  rw [Text.printed_cons_of_not_break hsign]
  cases hl : printed l.content.toList with
  | nil => exact absurd hl (Text.printed_ne_nil _)
  | cons first rest => exact ⟨first, rest, rfl⟩

/-- **A line shows its sign**, and the hunk stays open. -/
theorem signs_print {l : HunkLine} (h : IsRead l.line) :
    signs true (l.print.flatMap printed) = [l.isAddition] ∧
      after true (l.print.flatMap printed) = true := by
  obtain ⟨first, rest, hl⟩ := printed_line l
  have hquiet := h.rest_quiet
  rw [hl] at hquiet
  have hrest : Passes true rest true := .of_quiet hquiet
  have hmarks := passes_marks l true
  rw [HunkLine.print, List.flatMap_cons, hl, List.cons_append]
  rw [← List.singleton_append, signs_append, after_append]
  have hall := hrest.append hmarks
  cases l.isAddition with
  | true =>
    refine ⟨?_, hall.after_eq⟩
    exact congrArg (List.cons true) hall.signs_eq
  | false =>
    refine ⟨?_, hall.after_eq⟩
    exact congrArg (List.cons false) hall.signs_eq

/-! ### The bytes of lines -/

theorem lineSize_hunkLine_le (l : List Char) : lineSize (hunkLine l) ≤ byteLength l := by
  unfold hunkLine
  split
  · rw [Text.byteLength_cons, Nat.add_comm]
    exact Nat.le_refl _
  · rw [Text.byteLength_cons, Nat.add_comm]
    exact Nat.le_refl _
  · exact Nat.zero_le _

theorem roles_singleton (b : Bool) (l : List Char) :
    roles b [l] = [.other] ∨ roles b [l] = [hunkLine l] := by
  simp only [roles]
  split
  · exact .inl rfl
  · split
    · exact .inl rfl
    · cases b with
      | false => exact .inl rfl
      | true => exact .inr rfl

/-- No line shows more bytes than it has. -/
theorem sizeFrom_le (b : Bool) (ls : List (List Char)) :
    sizeFrom b ls ≤ (ls.map byteLength).sum := by
  induction ls generalizing b with
  | nil => exact Nat.le_refl 0
  | cons l ls ih =>
    have hl : sizeFrom b [l] ≤ byteLength l := by
      rcases roles_singleton b l with hrole | hrole
      · rw [sizeFrom, hrole]
        exact Nat.zero_le _
      · rw [sizeFrom, hrole]
        exact lineSize_hunkLine_le l
    have hrest := ih (next b l)
    rw [← List.singleton_append, sizeFrom_append, List.map_append, List.sum_append]
    exact Nat.add_le_add hl hrest

theorem size_eq (l : HunkLine) : l.size = byteLength l.line := by
  unfold HunkLine.size HunkLine.line
  rw [Text.byteLength_cons, Text.byteLength_toList, Nat.add_comm]
  cases l.isAddition <;> rfl

theorem isPlain_line (l : HunkLine) : IsPlain l.line ↔ IsPlain l.content.toList := by
  rw [HunkLine.line, Text.isPlain_cons]
  cases l.isAddition <;> simp [Text.isLineBreak]

theorem isRead_line {l : HunkLine} (h : IsPlain l.content.toList) : IsRead l.line := by
  refine isRead_of_isPlain ((isPlain_line l).2 h) ?_
  unfold HunkLine.line
  cases l.isAddition <;> rfl

theorem sizeFrom_print (l : HunkLine) (b : Bool) :
    sizeFrom b (l.print.flatMap printed) = sizeFrom b (printed l.line) := by
  rw [HunkLine.print, List.flatMap_cons, sizeFrom_append, (passes_marks l _).sizeFrom_eq,
    Nat.add_zero]

theorem sizeFrom_print_le (l : HunkLine) (b : Bool) :
    sizeFrom b (l.print.flatMap printed) ≤ l.size := by
  rw [sizeFrom_print, size_eq]
  exact Nat.le_trans (sizeFrom_le b _) (Text.byteLength_printed l.line).1

/-- **A line shows all its bytes** just when it holds no line boundary. -/
theorem sizeFrom_print_eq_iff (l : HunkLine) :
    sizeFrom true (l.print.flatMap printed) = l.size ↔ IsPlain l.content.toList := by
  rw [sizeFrom_print, ← isPlain_line]
  obtain ⟨hle, heq⟩ := Text.byteLength_printed l.line
  have hread := sizeFrom_le true (printed l.line)
  constructor
  · -- all bytes are read, so none was lost when the line was cut
    intro h
    rw [size_eq] at h
    exact heq.1 (by omega)
  · intro h
    rw [Text.printed_of_isPlain h]
    unfold HunkLine.line HunkLine.size
    rw [← Text.byteLength_toList]
    cases l.isAddition <;> simp [sizeFrom, roles, startsFile, startsHunk, hunkLine, lineSize]

/-! ## The whole patch -/

theorem sum_size_flatMap {α : Type} (f : α → List HunkLine) (as : List α) :
    ((as.flatMap f).map HunkLine.size).sum =
      (as.map fun a => ((f a).map HunkLine.size).sum).sum := by
  rw [List.map_flatMap, List.flatMap, List.sum_flatten, List.map_map]
  rfl

theorem flatMap_print_hunk (h : Hunk) : h.print.flatMap printed =
    printed h.title ++ h.lines.flatMap fun l => l.print.flatMap printed := by
  rw [Hunk.print, List.flatMap_cons, List.flatMap_assoc]

theorem flatMap_print_section (s : FileSection) : s.print.flatMap printed =
    s.heads.flatMap printed ++ s.hunks.flatMap fun h => h.print.flatMap printed := by
  rw [FileSection.print, List.flatMap_append, List.flatMap_assoc]

theorem signs_hunk {h : Hunk} (htitle : IsRead h.title) (hlines : ∀ l ∈ h.lines, IsRead l.line)
    (b : Bool) : signs b (h.print.flatMap printed) = h.lines.map HunkLine.isAddition := by
  have hpasses := passes_hunkTitle htitle b
  have hsigns : signs true (h.lines.flatMap fun l => l.print.flatMap printed) =
      h.lines.flatMap fun l => [l.isAddition] := by
    refine (signs_flatMap (I := (· = true)) (fun l hl b hb => ?_) rfl).1
    subst hb
    exact signs_print (hlines l hl)
  rw [flatMap_print_hunk, signs_append, hpasses.signs_eq, hpasses.after_eq, hsigns,
    List.map_eq_flatMap]
  rfl

theorem signs_section {s : FileSection} (htitles : ∀ l ∈ s.titles, IsRead l)
    (hlines : ∀ l ∈ s.lines, IsRead l.line) (b : Bool) :
    signs b (s.print.flatMap printed) = s.lines.map HunkLine.isAddition := by
  obtain ⟨hheads, hhunks⟩ := List.forall_mem_append.1 htitles
  have hpasses := passes_heads hheads b
  -- each hunk has a title of its own, so it does not matter where the one before it ended
  have hsigns : signs false (s.hunks.flatMap fun h => h.print.flatMap printed) =
      s.hunks.flatMap fun h => h.lines.map HunkLine.isAddition := by
    refine (signs_flatMap (I := fun _ => True) (fun h hh b _ => ⟨?_, trivial⟩) trivial).1
    refine signs_hunk (hhunks _ (List.mem_map_of_mem hh)) (fun l hl => ?_) b
    exact hlines l (List.mem_flatMap.2 ⟨h, hh, hl⟩)
  rw [flatMap_print_section, signs_append, hpasses.signs_eq, hpasses.after_eq, hsigns,
    FileSection.lines, List.map_flatMap]
  rfl

/-- **The signs of a printed patch** are read in their order. -/
theorem signs_sections {p : List FileSection} (htitles : ∀ s ∈ p, ∀ l ∈ s.titles, IsRead l)
    (hlines : ∀ s ∈ p, ∀ l ∈ s.lines, IsRead l.line) :
    signs false (Text.lines (print p).toList) =
      (p.flatMap FileSection.lines).map HunkLine.isAddition := by
  have hsigns : signs false (p.flatMap fun s => s.print.flatMap printed) =
      p.flatMap fun s => s.lines.map HunkLine.isAddition := by
    refine (signs_flatMap (I := fun _ => True) (fun s hs b _ => ⟨?_, trivial⟩) trivial).1
    exact signs_section (htitles s hs) (hlines s hs) b
  rw [lines_print, hsigns, List.map_flatMap]

theorem sizeFrom_hunk {h : Hunk} (htitle : IsRead h.title) (b : Bool) :
    sizeFrom b (h.print.flatMap printed) ≤ (h.lines.map HunkLine.size).sum ∧
      (sizeFrom b (h.print.flatMap printed) = (h.lines.map HunkLine.size).sum ↔
        ∀ l ∈ h.lines, IsPlain l.content.toList) := by
  have hpasses := passes_hunkTitle htitle b
  rw [flatMap_print_hunk, sizeFrom_append, hpasses.sizeFrom_eq, hpasses.after_eq, Nat.zero_add]
  obtain ⟨hle, heq⟩ := sizeFrom_flatMap (I := (· = true)) (P := fun l => IsPlain l.content.toList)
    (fun l _ b => sizeFrom_print_le l b)
    (fun l _ b hb => hb ▸ sizeFrom_print_eq_iff l)
    (fun l _ hl b hb => hb ▸ (signs_print (isRead_line hl)).2) true
  exact ⟨hle, heq rfl⟩

theorem sizeFrom_section {s : FileSection} (htitles : ∀ l ∈ s.titles, IsRead l) (b : Bool) :
    sizeFrom b (s.print.flatMap printed) ≤ (s.lines.map HunkLine.size).sum ∧
      (sizeFrom b (s.print.flatMap printed) = (s.lines.map HunkLine.size).sum ↔
        ∀ l ∈ s.lines, IsPlain l.content.toList) := by
  obtain ⟨hheads, hhunks⟩ := List.forall_mem_append.1 htitles
  have hpasses := passes_heads hheads b
  have hhunk := fun h hh => sizeFrom_hunk (hhunks _ (List.mem_map_of_mem (a := h) hh))
  rw [flatMap_print_section, sizeFrom_append, hpasses.sizeFrom_eq, hpasses.after_eq, Nat.zero_add]
  obtain ⟨hle, heq⟩ := sizeFrom_flatMap (I := fun _ => True)
    (P := fun h => ∀ l ∈ h.lines, IsPlain l.content.toList)
    (fun h hh b => (hhunk h hh b).1) (fun h hh b _ => (hhunk h hh b).2)
    (fun _ _ _ _ _ => trivial) false
  rw [FileSection.lines, sum_size_flatMap, List.forall_mem_flatMap]
  exact ⟨hle, heq trivial⟩

/-- **All bytes of a printed patch** are read just when no line holds a line boundary. -/
theorem contentSize_print_eq_iff {p : List FileSection}
    (htitles : ∀ s ∈ p, ∀ l ∈ s.titles, IsRead l) :
    contentSize (print p) = size p ↔ ∀ s ∈ p, ∀ l ∈ s.lines, IsPlain l.content.toList := by
  obtain ⟨-, heq⟩ := sizeFrom_flatMap (I := fun _ => True)
    (P := fun s => ∀ l ∈ s.lines, IsPlain l.content.toList)
    (fun s hs b => (sizeFrom_section (htitles s hs) b).1)
    (fun s hs b _ => (sizeFrom_section (htitles s hs) b).2)
    (fun _ _ _ _ _ => trivial) false
  rw [contentSize_eq_sum, ofText, lines_print, size, sum_size_flatMap]
  exact heq trivial

/-! ## Contents that are no text -/

theorem isRead_print {s : FileSection} (htitles : ∀ l ∈ s.titles, IsRead l)
    (hlines : ∀ l ∈ s.lines, IsRead l.line) :
    ∀ l ∈ s.print, ∀ t ∈ printed l, isBinaryLine t = false := by
  obtain ⟨hheads, hhunks⟩ := List.forall_mem_append.1 htitles
  refine List.forall_mem_append.2 ⟨fun l hl => (hheads l hl).isText, ?_⟩
  refine List.forall_mem_flatMap.2 fun h hh => List.forall_mem_cons.2 ⟨?_, ?_⟩
  · exact (hhunks _ (List.mem_map_of_mem hh)).isText
  · refine List.forall_mem_flatMap.2 fun l hl => List.forall_mem_cons.2 ⟨?_, ?_⟩
    · exact (hlines l (List.mem_flatMap.2 ⟨h, hh, hl⟩)).isText
    · unfold HunkLine.marks
      cases l.isUnended <;> decide

theorem isBinary_print {p : List FileSection} (htitles : ∀ s ∈ p, ∀ l ∈ s.titles, IsRead l)
    (hlines : ∀ s ∈ p, ∀ l ∈ s.lines, IsRead l.line) : isBinary (print p) = false := by
  rw [isBinary, lines_print, List.any_eq_false]
  intro t ht
  obtain ⟨s, hs, ht⟩ := List.mem_flatMap.1 ht
  obtain ⟨l, hl, ht⟩ := List.mem_flatMap.1 ht
  exact Bool.not_eq_true _ ▸ isRead_print (htitles s hs) (hlines s hs) l hl t ht

end Patch

/-! ## One change -/

namespace Repository

/-- A limit of zero allows all patches. -/
theorem counted_of_zero {c : Change} {patch : String} (h : Patch.isBinary patch = false) :
    counted (.int 0) c patch =
      .ok { c with added := Patch.added patch, removed := Patch.removed patch } := by
  have hexceeds : exceeds (.int 0) patch = .ok false := rfl
  rw [counted, countsAsBinary, h, hexceeds]
  rfl

/-- A change has its lines when git has shown its patch and the lines could be counted. -/
theorem withLines_ok_iff {σ : Type} {r : Repository} {base commit : String} {c c' : Change}
    {w w' : World σ} : r.withLines base commit c w = (.ok c', w') ↔
      ∃ patch, r.run (patchArguments base commit c) none w = (.ok patch, w') ∧
        counted r.threshold c patch = .ok c' := by
  rw [withLines, Action.bind_ok_iff]
  constructor
  · rintro ⟨patch, t, hrun, hcounted⟩
    obtain ⟨hresult, rfl⟩ := Action.ofResult_ok_iff.1 hcounted
    exact ⟨patch, Action.renamed_ok_iff.1 hrun, Action.mapError_ok_iff.1 hresult⟩
  · rintro ⟨patch, hrun, hcounted⟩
    refine ⟨patch, w', Action.renamed_ok_iff.2 hrun, ?_⟩
    exact Action.ofResult_ok_iff.2 ⟨Action.mapError_ok_iff.2 hcounted, rfl⟩

end Repository

/-- **The counts of a printed patch.** Let the lines around the contents be read as they are printed.

    When all contents are read as they are printed too, the patch is no binary one, each line counts
    once, under its own sign, and a change that is not limited is reported with these counts. The bytes
    are right just when no content holds a line boundary of any kind. -/
theorem withLines_print (p : List FileSection)
    (htitles : ∀ s ∈ p, ∀ l ∈ s.titles, Patch.IsRead l) :
    ((∀ s ∈ p, ∀ l ∈ s.lines, Patch.IsRead l.line) →
      Patch.isBinary (Patch.print p) = false ∧
      Patch.added (Patch.print p) = Patch.additions p ∧
      Patch.removed (Patch.print p) = Patch.deletions p ∧
      ∀ {σ : Type} (r : Repository) (base commit path : String) (kind : ChangeKind)
        (old : Option String) (w w' : World σ), r.threshold = .int 0 →
        r.run (Repository.patchArguments base commit (.uncounted path kind old)) none w =
          (.ok (Patch.print p), w') →
        r.withLines base commit (.uncounted path kind old) w =
          (.ok ⟨path, kind, old, Patch.additions p, Patch.deletions p, false⟩, w')) ∧
    (Patch.contentSize (Patch.print p) = Patch.size p ↔
      ∀ s ∈ p, ∀ l ∈ s.lines, IsPlain l.content.toList) := by
  refine ⟨fun hlines => ?_, Patch.contentSize_print_eq_iff htitles⟩
  have hbinary := Patch.isBinary_print htitles hlines
  have hsigns := Patch.signs_sections htitles hlines
  have hadded : Patch.added (Patch.print p) = Patch.additions p := by
    rw [Patch.added_eq, hsigns, List.countP_map]
    rfl
  have hremoved : Patch.removed (Patch.print p) = Patch.deletions p := by
    rw [Patch.removed_eq, hsigns, List.countP_map]
    rfl
  refine ⟨hbinary, hadded, hremoved, ?_⟩
  intro σ r base commit path kind old w w' hthreshold hrun
  refine Repository.withLines_ok_iff.2 ⟨Patch.print p, hrun, ?_⟩
  rw [hthreshold, Repository.counted_of_zero hbinary, hadded, hremoved]
  rfl

/-- A patch that adds one line to an empty file. -/
def addingLine (content : String) (h : '\n' ∉ content.toList) : List FileSection :=
  [{ names := "a/f b/f"
     headers := ["index e69de29..587be6b 100644", "--- a/f", "+++ b/f"]
     hunks := [⟨" -0,0 +1 @@", [⟨true, content, false, h⟩], by decide⟩]
     names_noLineFeed := by decide
     headers_noLineFeed := by decide
     headers_inert := by decide }]

/-- A form feed with harmless text after it: git prints the patch, and the change is reported with the
    one line that was added, but a byte is missing. -/
theorem withLines_print_formFeed :
    let p := addingLine "x\x0cy" (by decide)
    let r : Repository := ⟨⟨"/", ["project"]⟩, .null, .int 0, 0⟩
    let w : World Unit := .start oneRepository (.answering fun _ => Patch.print p)
    (∀ s ∈ p, ∀ l ∈ s.titles, Patch.IsRead l) ∧ (∀ s ∈ p, ∀ l ∈ s.lines, Patch.IsRead l.line) ∧
      (∃ w', r.withLines "1" "2" (.uncounted "f" .modify none) w =
        (.ok ⟨"f", .modify, none, 1, 0, false⟩, w')) ∧
      Patch.contentSize (Patch.print p) ≠ Patch.size p := by
  intro p r w
  have htitles : ∀ s ∈ p, ∀ l ∈ s.titles, Patch.IsRead l := by decide
  have hlines : ∀ s ∈ p, ∀ l ∈ s.lines, Patch.IsRead l.line := by decide
  have hgit : w.git = .answering fun _ => Patch.print p := rfl
  obtain ⟨w', hrun, -⟩ := r.run_answering
    (Repository.patchArguments "1" "2" (.uncounted "f" .modify none)) hgit (by decide)
    (by decide +kernel : Git.text (Text.encode (Patch.print p).toList) = Patch.print p)
  obtain ⟨hcounts, hsize⟩ := withLines_print p htitles
  obtain ⟨-, -, -, hreported⟩ := hcounts hlines
  refine ⟨htitles, hlines, ⟨w', hreported r "1" "2" "f" .modify none w w' rfl hrun⟩, fun heq => ?_⟩
  exact absurd (hsize.1 heq) (by decide)

/-- **A line may show a line of its own**: where a sign follows a line boundary inside a content, two
    lines are counted for the one that was added, and their bytes are not those of the content. -/
theorem print_miscounted :
    ¬∀ p : List FileSection, Patch.isBinary (Patch.print p) = false ∧
      Patch.added (Patch.print p) = Patch.additions p ∧
      Patch.removed (Patch.print p) = Patch.deletions p ∧
      Patch.contentSize (Patch.print p) = Patch.size p := by
  intro h
  obtain ⟨-, hadded, -, -⟩ := h (addingLine "x\x0c+y" (by decide))
  exact absurd hadded (by decide)

end HistoryMetrics
