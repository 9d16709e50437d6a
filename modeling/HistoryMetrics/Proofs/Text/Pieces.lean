import HistoryMetrics.Text.Blank
import HistoryMetrics.Text.Lines
import HistoryMetrics.Text.Utf8
import Mathlib.Data.List.Basic

/-! # Texts that are put together and cut again

    A text that was put together from pieces, each closed by a separator, falls into the same pieces
    when it is cut, as long as no piece holds the separator. With lines this is so only for pieces
    without line boundaries: any other piece falls into several lines, and the boundaries between them
    are lost.

    - `splitOn_flatMap_sep`, `splitAtMost_append_sep`: pieces that are closed by separators
    - `afterLast_append_sep`: the piece after the last separator
    - `not_mem_of_mem_splitOn`: no piece holds the separator
    - `printed`: the lines of a text that is printed on a line of its own
    - `lines_flatMap_lineFeed`: the lines of texts that are printed one after the other
    - `IsPlain`, `printed_of_isPlain`, `isPlain_of_mem_lines`: texts of a single line
    - `byteLength_printed`: the bytes that are left in the lines
    - `words_append_blank`, `words_intercalate`: words with white space between them
-/

namespace HistoryMetrics.Text

-- Sums start at the zero of the core library, whatever other zeros are in scope.
attribute [local instance (high)] Zero.ofOfNat0

/-! ## Pieces -/

@[simp] theorem joinLine_cons (c : Char) (l : List Char) (ls : List (List Char)) :
    joinLine c (l :: ls) = (c :: l) :: ls := rfl

section pieces

variable {sep : Char} {piece : List Char}

/-- Cutting is what the library calls splitting. -/
theorem splitOn_eq (sep : Char) (cs : List Char) : splitOn sep cs = cs.splitOn sep := by
  induction cs with
  | nil => rfl
  | cons c cs ih =>
    rw [splitOn, List.splitOn_cons_eq_if_modifyHead, ih]
    cases hcs : cs.splitOn sep with
    | nil => exact absurd hcs (List.splitOn_ne_nil sep cs)
    | cons p ps => rfl

theorem splitOn_append_sep (h : sep ∉ piece) (rest : List Char) :
    splitOn sep (piece ++ sep :: rest) = piece :: splitOn sep rest := by
  rw [splitOn_eq, splitOn_eq, List.splitOn_append_cons_self_of_not_mem h]

/-- Pieces that are each closed by a separator. -/
theorem splitOn_flatMap_sep {pieces : List (List Char)} (h : ∀ p ∈ pieces, sep ∉ p) :
    splitOn sep (pieces.flatMap fun p => p ++ [sep]) = pieces ++ [[]] := by
  induction pieces with
  | nil => rfl
  | cons p ps ih =>
    obtain ⟨hp, hps⟩ := List.forall_mem_cons.1 h
    rw [List.flatMap_cons, List.append_assoc, List.singleton_append, splitOn_append_sep hp, ih hps,
      List.cons_append]

/-- The first separators cut, as long as the pieces before them hold none. -/
theorem splitAtMost_append_sep (h : sep ∉ piece) (n : Nat) (rest : List Char) :
    splitAtMost sep (n + 1) (piece ++ sep :: rest) = piece :: splitAtMost sep n rest := by
  induction piece with
  | nil => simp [splitAtMost]
  | cons c cs ih =>
    have hc : (c == sep) = false := beq_false_of_ne (Ne.symm (List.ne_of_not_mem_cons h))
    rw [List.cons_append, splitAtMost, hc, ih (List.not_mem_of_not_mem_cons h)]
    rfl

theorem mem_joinLine {c : Char} {ls : List (List Char)} {p : List Char} (hp : p ∈ joinLine c ls) :
    p = [c] ∨ p ∈ ls ∨ ∃ l ∈ ls, p = c :: l := by
  cases ls with
  | nil => exact .inl (List.mem_singleton.1 hp)
  | cons l ls =>
    rcases List.mem_cons.1 hp with rfl | hp
    · exact .inr (.inr ⟨l, List.mem_cons_self, rfl⟩)
    · exact .inr (.inl (List.mem_cons_of_mem l hp))

theorem not_mem_of_mem_splitOn {cs : List Char} (hp : piece ∈ splitOn sep cs) : sep ∉ piece := by
  induction cs generalizing piece with
  | nil =>
    rw [List.mem_singleton.1 hp]
    exact List.not_mem_nil
  | cons c cs ih =>
    rw [splitOn] at hp
    by_cases hc : (c == sep) = true
    · rw [if_pos hc] at hp
      rcases List.mem_cons.1 hp with rfl | hp
      · exact List.not_mem_nil
      · exact ih hp
    · rw [if_neg hc] at hp
      have hne : sep ≠ c := fun heq => hc (by simp [heq])
      rcases mem_joinLine hp with rfl | hp | ⟨l, hl, rfl⟩
      · simpa using hne
      · exact ih hp
      · exact List.not_mem_cons_of_ne_of_not_mem hne (ih hl)

theorem mem_of_mem_splitOn {cs : List Char} {c : Char} (hp : piece ∈ splitOn sep cs)
    (hc : c ∈ piece) : c ∈ cs := by
  induction cs generalizing piece with
  | nil => rwa [List.mem_singleton.1 hp] at hc
  | cons d cs ih =>
    rw [splitOn] at hp
    split at hp
    · rcases List.mem_cons.1 hp with rfl | hp
      · exact absurd hc List.not_mem_nil
      · exact List.mem_cons_of_mem d (ih hp hc)
    · rcases mem_joinLine hp with rfl | hp | ⟨l, hl, rfl⟩
      · rw [List.mem_singleton.1 hc]
        exact List.mem_cons_self
      · exact List.mem_cons_of_mem d (ih hp hc)
      · rcases List.mem_cons.1 hc with rfl | hc
        · exact List.mem_cons_self
        · exact List.mem_cons_of_mem d (ih hl hc)

/-- **The text after the last separator.** -/
theorem afterLast_append_sep {last : List Char} (h : sep ∉ last) (before : List Char) :
    afterLast sep (before ++ sep :: last) = last := by
  rw [afterLast, splitOn_eq, List.splitOn_append_cons_self, List.splitOn_eq_singleton h,
    List.getLastD_eq_getLast?, List.getLast?_append]
  rfl

/-- What a piece holds was in the text. -/
theorem mem_of_mem_splitAtMost {n : Nat} {cs : List Char} {c : Char}
    (hp : piece ∈ splitAtMost sep n cs) (hc : c ∈ piece) : c ∈ cs := by
  induction cs generalizing n piece with
  | nil =>
    cases n with
    | zero => rwa [List.mem_singleton.1 hp] at hc
    | succ n => rwa [List.mem_singleton.1 hp] at hc
  | cons d cs ih =>
    cases n with
    | zero => rwa [List.mem_singleton.1 hp] at hc
    | succ n =>
      rw [splitAtMost] at hp
      split at hp
      · rcases List.mem_cons.1 hp with rfl | hp
        · exact absurd hc List.not_mem_nil
        · exact List.mem_cons_of_mem d (ih hp hc)
      · rcases mem_joinLine hp with rfl | hp | ⟨l, hl, rfl⟩
        · rw [List.mem_singleton.1 hc]
          exact List.mem_cons_self
        · exact List.mem_cons_of_mem d (ih hp hc)
        · rcases List.mem_cons.1 hc with rfl | hc
          · exact List.mem_cons_self
          · exact List.mem_cons_of_mem d (ih hl hc)

/-- What texts with a separator between them hold. -/
theorem mem_intercalate {sep : List Char} {pieces : List (List Char)} {c : Char}
    (h : c ∈ sep.intercalate pieces) : c ∈ sep ∨ ∃ p ∈ pieces, c ∈ p := by
  induction pieces with
  | nil => exact absurd h List.not_mem_nil
  | cons p ps ih =>
    cases ps with
    | nil => exact .inr ⟨p, List.mem_cons_self, by simpa using h⟩
    | cons q qs =>
      rw [List.intercalate_cons_cons, List.mem_append, List.mem_append] at h
      rcases h with (h | h) | h
      · exact .inr ⟨p, List.mem_cons_self, h⟩
      · exact .inl h
      · exact (ih h).imp_right fun ⟨q', hq', hc⟩ => ⟨q', List.mem_cons_of_mem p hq', hc⟩

end pieces

/-! ## Lines -/

theorem lines_cons_of_not_break {c : Char} (h : isLineBreak c = false) (cs : List Char) :
    lines (c :: cs) = joinLine c (lines cs) := by
  have hc : c ≠ '\r' := by
    rintro rfl
    exact absurd h (by decide)
  rw [lines, h]
  · rfl
  · intro rest heq
    exact absurd heq hc

theorem lines_ne_nil {cs : List Char} (h : cs ≠ []) : lines cs ≠ [] := by
  fun_cases lines cs with
  | case1 => exact absurd rfl h
  | case2 rest => simp
  | case3 c rest => simp
  | case4 c rest => cases lines rest <;> simp [joinLine]

/-- **The lines of a text that is printed on a line of its own.** -/
def printed (l : List Char) : List (List Char) := lines (l ++ ['\n'])

theorem printed_ne_nil (l : List Char) : printed l ≠ [] := lines_ne_nil (by simp)

theorem printed_cons_of_not_break {c : Char} (h : isLineBreak c = false) (l : List Char) :
    printed (c :: l) = joinLine c (printed l) :=
  lines_cons_of_not_break h (l ++ ['\n'])

/-- A line boundary ends a line, unless it is a carriage return before a line feed. -/
theorem lines_append_of_break {c : Char} {l : List Char} (h : isLineBreak c = true)
    (hpair : ∀ rest, c = '\r' → l = '\n' :: rest → False) (hlast : ¬(c = '\r' ∧ l = []))
    (rest : List Char) : lines (c :: l ++ '\n' :: rest) = [] :: lines (l ++ '\n' :: rest) := by
  rw [List.cons_append, lines, if_pos h]
  intro rest' hr heq
  cases l with
  | nil => exact hlast ⟨hr, rfl⟩
  | cons d l => exact hpair l hr (by rw [(List.cons.inj heq).1])

/-- What follows after a line feed changes nothing about the lines before it. -/
theorem lines_append_lineFeed (l rest : List Char) :
    lines (l ++ '\n' :: rest) = printed l ++ lines rest := by
  -- the cases of the reader: nothing, a pair of two boundaries, one boundary, any other character
  induction l using lines.induct with
  | case1 => rfl
  | case2 l ih =>
    show [] :: lines (l ++ '\n' :: rest) = [] :: (printed l ++ lines rest)
    rw [ih]
  | case3 c l hpair hc ih =>
    -- a carriage return at the end makes one boundary with the line feed that follows
    by_cases hlast : c = '\r' ∧ l = []
    · obtain ⟨rfl, rfl⟩ := hlast
      rfl
    · rw [printed, lines_append_of_break hc hpair hlast, ih, lines_append_of_break hc hpair hlast]
      rfl
  | case4 c l _ hc ih =>
    have hc' : isLineBreak c = false := by simpa using hc
    rw [List.cons_append, lines_cons_of_not_break hc', ih, printed_cons_of_not_break hc']
    cases hl : printed l with
    | nil => exact absurd hl (printed_ne_nil l)
    | cons p ps => rfl

/-- A text begins with its first line. -/
theorem isPrefix_of_printed {l first : List Char} {rest : List (List Char)}
    (h : printed l = first :: rest) : first <+: l := by
  induction l using lines.induct generalizing first rest with
  | case1 =>
    cases h
    exact List.prefix_rfl
  | case2 l _ =>
    cases h
    exact List.nil_prefix
  | case3 c l hpair hc _ =>
    by_cases hlast : c = '\r' ∧ l = []
    · obtain ⟨rfl, rfl⟩ := hlast
      cases h
      exact List.nil_prefix
    · rw [printed, lines_append_of_break hc hpair hlast] at h
      cases h
      exact List.nil_prefix
  | case4 c l _ hc ih =>
    have hc' : isLineBreak c = false := by simpa using hc
    rw [printed_cons_of_not_break hc'] at h
    cases hl : printed l with
    | nil => exact absurd hl (printed_ne_nil l)
    | cons p ps =>
      rw [hl] at h
      cases h
      exact List.cons_prefix_cons.2 ⟨rfl, ih hl⟩

/-- **Texts printed one after the other**, each on a line of its own. -/
theorem lines_flatMap_lineFeed (ls : List (List Char)) :
    lines (ls.flatMap fun l => l ++ ['\n']) = ls.flatMap printed := by
  induction ls with
  | nil => rfl
  | cons l ls ih =>
    rw [List.flatMap_cons, List.flatMap_cons, List.append_assoc, List.singleton_append,
      lines_append_lineFeed, ih]

/-! ### Texts of a single line -/

/-- **A text of a single line**: it holds no line boundary of any kind. -/
def IsPlain (cs : List Char) : Prop := ∀ c ∈ cs, isLineBreak c = false

instance (cs : List Char) : Decidable (IsPlain cs) :=
  List.decidableBAll (fun c => isLineBreak c = false) cs

theorem isPlain_cons {c : Char} {cs : List Char} :
    IsPlain (c :: cs) ↔ isLineBreak c = false ∧ IsPlain cs :=
  List.forall_mem_cons

theorem printed_of_isPlain {l : List Char} (h : IsPlain l) : printed l = [l] := by
  induction l with
  | nil => rfl
  | cons c l ih =>
    obtain ⟨hc, hl⟩ := isPlain_cons.1 h
    rw [printed_cons_of_not_break hc, ih hl]
    rfl

/-- Every line of a text is plain. -/
theorem isPlain_of_mem_lines {cs l : List Char} (h : l ∈ lines cs) : IsPlain l := by
  have hnil : IsPlain [] := fun _ hc => absurd hc List.not_mem_nil
  induction cs using lines.induct generalizing l with
  | case1 => exact absurd h List.not_mem_nil
  | case2 cs ih =>
    rcases List.mem_cons.1 h with rfl | h
    · exact hnil
    · exact ih h
  | case3 c cs hpair hc ih =>
    rw [lines, if_pos hc] at h
    · rcases List.mem_cons.1 h with rfl | h
      · exact hnil
      · exact ih h
    · exact hpair
  | case4 c cs hpair hc ih =>
    have hc' : isLineBreak c = false := by simpa using hc
    rw [lines_cons_of_not_break hc'] at h
    rcases mem_joinLine h with rfl | h | ⟨first, hfirst, rfl⟩
    · exact isPlain_cons.2 ⟨hc', hnil⟩
    · exact ih h
    · exact isPlain_cons.2 ⟨hc', ih hfirst⟩

/-- What stands in front of the first line boundary stands in the first line. -/
theorem printed_append_of_isPlain {before l first : List Char} {rest : List (List Char)}
    (h : IsPlain before) (hl : printed l = first :: rest) :
    printed (before ++ l) = (before ++ first) :: rest := by
  induction before with
  | nil => exact hl
  | cons c before ih =>
    obtain ⟨hc, hbefore⟩ := isPlain_cons.1 h
    rw [List.cons_append, printed_cons_of_not_break hc, ih hbefore]
    rfl

/-! ### Bytes -/

theorem charBytes_pos (c : Char) : 0 < charBytes c := by
  unfold charBytes
  split <;> [skip; split <;> [skip; split]] <;> decide

theorem charBytes_eq (c : Char) : charBytes c = c.utf8Size := by
  unfold charBytes
  have hval : c.toNat = c.val.toNat := rfl
  rcases Char.utf8Size_eq c with h | h | h | h
  · have hc := Char.utf8Size_eq_one_iff.1 h
    rw [UInt32.le_iff_toNat_le] at hc
    rw [h, if_pos (by simp at hc; omega)]
  · have hc := Char.utf8Size_eq_two_iff.1 h
    rw [UInt32.lt_iff_toNat_lt, UInt32.le_iff_toNat_le] at hc
    simp at hc
    rw [h, if_neg (by omega), if_pos (by omega)]
  · have hc := Char.utf8Size_eq_three_iff.1 h
    rw [UInt32.lt_iff_toNat_lt, UInt32.le_iff_toNat_le] at hc
    simp at hc
    rw [h, if_neg (by omega), if_neg (by omega), if_pos (by omega)]
  · have hc := Char.utf8Size_eq_four_iff.1 h
    rw [UInt32.lt_iff_toNat_lt] at hc
    simp at hc
    rw [h, if_neg (by omega), if_neg (by omega), if_neg (by omega)]

@[simp] theorem byteLength_nil : byteLength [] = 0 := rfl

@[simp] theorem byteLength_cons (c : Char) (cs : List Char) :
    byteLength (c :: cs) = charBytes c + byteLength cs := by
  simp [byteLength]

/-- The length in bytes is that of the library. -/
theorem byteLength_toList (s : String) : byteLength s.toList = s.utf8ByteSize := by
  obtain ⟨cs, rfl⟩ : ∃ cs, s = String.ofList cs := ⟨s.toList, String.ofList_toList.symm⟩
  rw [String.toList_ofList]
  induction cs with
  | nil => rfl
  | cons c cs ih =>
    rw [byteLength_cons, charBytes_eq, ih, String.ofList_cons, String.utf8ByteSize_append,
      String.utf8ByteSize_singleton]

/-- **The bytes that are left in the lines of a printed text**: all of them when it is a single line,
    and fewer when line boundaries are lost. -/
theorem byteLength_printed (l : List Char) :
    ((printed l).map byteLength).sum ≤ byteLength l ∧
      (((printed l).map byteLength).sum = byteLength l ↔ IsPlain l) := by
  induction l using lines.induct with
  | case1 => simp [printed, lines, isLineBreak, IsPlain]
  | case2 l ih =>
    have hbreak : ¬IsPlain ('\r' :: '\n' :: l) := fun h => absurd (isPlain_cons.1 h).1 (by decide)
    have hprinted : printed ('\r' :: '\n' :: l) = [] :: printed l := rfl
    have hpos := charBytes_pos '\r'
    simp only [hprinted, List.map_cons, List.sum_cons, byteLength_nil, byteLength_cons]
    refine ⟨by omega, ⟨fun heq => by omega, fun h => absurd h hbreak⟩⟩
  | case3 c l hpair hc ih =>
    have hbreak : ¬IsPlain (c :: l) := by
      intro h
      rw [(isPlain_cons.1 h).1] at hc
      cases hc
    have hpos := charBytes_pos c
    -- the bytes of the line boundary are lost
    have hlost : ((printed (c :: l)).map byteLength).sum < byteLength (c :: l) := by
      by_cases hlast : c = '\r' ∧ l = []
      · obtain ⟨rfl, rfl⟩ := hlast
        decide
      · have hprinted : printed (c :: l) = [] :: printed l :=
          lines_append_of_break hc hpair hlast []
        simp only [hprinted, List.map_cons, List.sum_cons, byteLength_nil, byteLength_cons]
        omega
    exact ⟨Nat.le_of_lt hlost, fun heq => absurd heq (Nat.ne_of_lt hlost), fun h => absurd h hbreak⟩
  | case4 c l _ hc ih =>
    have hc' : isLineBreak c = false := by simpa using hc
    rw [printed_cons_of_not_break hc', isPlain_cons, ← ih.2]
    cases hl : printed l with
    | nil => exact absurd hl (printed_ne_nil l)
    | cons p ps =>
      rw [hl] at ih
      simp only [joinLine_cons, List.map_cons, List.sum_cons, byteLength_cons] at ih ⊢
      refine ⟨by omega, ⟨fun heq => ⟨hc', by omega⟩, fun h => by omega⟩⟩

/-! ## Ends and words -/

/-- A character that is to stay keeps everything before it. -/
theorem trimEnd_cons_of_not {drop : Char → Bool} {c : Char} (h : drop c = false) (cs : List Char) :
    trimEnd drop (c :: cs) = c :: trimEnd drop cs := by
  rw [trimEnd, trimEnd, List.reverse_cons, List.dropWhile_append]
  -- read from the end, either all of `cs` is dropped or some of it stays
  by_cases hempty : (cs.reverse.dropWhile drop).isEmpty = true
  · rw [if_pos hempty, List.isEmpty_iff.1 hempty, List.dropWhile_cons_of_neg (by simp [h])]
    rfl
  · rw [if_neg hempty, List.reverse_append]
    rfl

/-- What is left of a text without the white space around it begins with the first character that is
    not blank. -/
theorem strip_of_find? {cs : List Char} {c : Char}
    (h : (cs.find? fun c => !isBlank c) = some c) : ∃ more, strip cs = c :: more := by
  obtain ⟨hc, before, after, rfl, hbefore⟩ := List.find?_eq_some_iff_append.1 h
  have hblank : ∀ b ∈ before, isBlank b = true := fun b hb => by simpa using hbefore b hb
  have hkept : isBlank c = false := by simpa using hc
  refine ⟨trimEnd isBlank after, ?_⟩
  rw [strip, trimStart, List.dropWhile_append_of_pos hblank,
    List.dropWhile_cons_of_neg (by simp [hkept]), trimEnd_cons_of_not hkept]

theorem wordsStep_open (c : Char) (w : List Char) (ws : List (List Char)) :
    wordsStep c (true, w :: ws) = if isBlank c then (false, w :: ws) else (true, (c :: w) :: ws) :=
  rfl

theorem wordsStep_closed (c : Char) (ws : List (List Char)) :
    wordsStep c (false, ws) = if isBlank c then (false, ws) else (true, [c] :: ws) := rfl

theorem foldr_wordsStep {w : List Char} (hne : w ≠ []) (hw : ∀ c ∈ w, isBlank c = false)
    (ws : List (List Char)) : w.foldr wordsStep (false, ws) = (true, w :: ws) := by
  induction w with
  | nil => exact absurd rfl hne
  | cons c w ih =>
    obtain ⟨hc, hw'⟩ := List.forall_mem_cons.1 hw
    rw [List.foldr_cons]
    by_cases hlast : w = []
    · rw [hlast, List.foldr_nil, wordsStep_closed, hc]
      rfl
    · rw [ih hlast hw', wordsStep_open, hc]
      rfl

/-- White space closes the word that follows it. -/
theorem wordsStep_of_blank {c : Char} (h : isBlank c = true) (state : Bool × List (List Char)) :
    wordsStep c state = (false, state.2) := by
  obtain ⟨isOpen, ws⟩ := state
  cases isOpen with
  | false => rw [wordsStep_closed, if_pos h]
  | true =>
    cases ws with
    | nil => exact if_pos h
    | cons w ws => rw [wordsStep_open, if_pos h]

/-- **White space keeps words apart**: those before it, and those after it. -/
theorem words_append_blank {c : Char} (h : isBlank c = true) (before after : List Char) :
    words (before ++ c :: after) = words before ++ words after := by
  -- an open word is one of the words that were found
  have hfold : ∀ ws, ∃ isOpen found, before.foldr wordsStep (false, []) = (isOpen, found) ∧
      before.foldr wordsStep (false, ws) = (isOpen, found ++ ws) ∧ (isOpen = true → found ≠ []) := by
    intro ws
    induction before with
    | nil => exact ⟨false, [], rfl, rfl, nofun⟩
    | cons d before ih =>
      obtain ⟨isOpen, found, hfound, hws, hopen⟩ := ih
      rw [List.foldr_cons, List.foldr_cons, hfound, hws]
      by_cases hd : isBlank d = true
      · rw [wordsStep_of_blank hd, wordsStep_of_blank hd]
        exact ⟨false, found, rfl, rfl, nofun⟩
      · cases isOpen with
        | false =>
          rw [wordsStep_closed, wordsStep_closed, if_neg hd, if_neg hd]
          exact ⟨true, [d] :: found, rfl, rfl, nofun⟩
        | true =>
          cases found with
          | nil => exact absurd rfl (hopen rfl)
          | cons w found =>
            rw [List.cons_append, wordsStep_open, wordsStep_open, if_neg hd, if_neg hd]
            exact ⟨true, (d :: w) :: found, rfl, rfl, nofun⟩
  obtain ⟨isOpen, found, hfound, hafter, -⟩ := hfold (words after)
  have hbefore : words before = found := congrArg Prod.snd hfound
  rw [hbefore, words, List.foldr_append, List.foldr_cons, wordsStep_of_blank h]
  exact congrArg Prod.snd hafter

/-- A word on its own. -/
theorem words_of_word {w : List Char} (hne : w ≠ []) (hw : ∀ c ∈ w, isBlank c = false) :
    words w = [w] := by
  rw [words, foldr_wordsStep hne hw]

/-- A word at the end of a text ends the last one of its words. -/
theorem words_append_word {w : List Char} (hne : w ≠ []) (hw : ∀ c ∈ w, isBlank c = false)
    (before : List Char) : ∃ ws rest, words (before ++ w) = ws ++ [rest ++ w] := by
  -- no word is lost, and the last one grows at its front only
  have hfold : ∃ isOpen ws rest, before.foldr wordsStep (true, [w]) = (isOpen, ws ++ [rest ++ w]) := by
    induction before with
    | nil => exact ⟨true, [], [], rfl⟩
    | cons d before ih =>
      obtain ⟨isOpen, ws, rest, hstate⟩ := ih
      rw [List.foldr_cons, hstate]
      by_cases hd : isBlank d = true
      · rw [wordsStep_of_blank hd]
        exact ⟨false, ws, rest, rfl⟩
      · cases isOpen with
        | false =>
          rw [wordsStep_closed, if_neg hd]
          exact ⟨true, [d] :: ws, rest, rfl⟩
        | true =>
          cases ws with
          | nil =>
            rw [List.nil_append, wordsStep_open, if_neg hd]
            exact ⟨true, [], d :: rest, rfl⟩
          | cons v ws =>
            rw [List.cons_append, wordsStep_open, if_neg hd]
            exact ⟨true, (d :: v) :: ws, rest, rfl⟩
  obtain ⟨isOpen, ws, rest, hstate⟩ := hfold
  refine ⟨ws, rest, ?_⟩
  rw [words, List.foldr_append, foldr_wordsStep hne hw, hstate]

theorem words_append_space {w : List Char} (hne : w ≠ []) (hw : ∀ c ∈ w, isBlank c = false)
    (rest : List Char) : words (w ++ ' ' :: rest) = w :: words rest := by
  rw [words_append_blank (by decide), words_of_word hne hw]
  rfl

/-- **Words with single spaces between them** are found again. -/
theorem words_intercalate {ws : List (List Char)} (hne : ∀ w ∈ ws, w ≠ [])
    (hws : ∀ w ∈ ws, ∀ c ∈ w, isBlank c = false) : words ([' '].intercalate ws) = ws := by
  induction ws with
  | nil => rfl
  | cons w ws ih =>
    have hw := hws w List.mem_cons_self
    cases ws with
    | nil => rw [List.intercalate_singleton, words_of_word (hne w List.mem_cons_self) hw]
    | cons v ws =>
      rw [List.intercalate_cons_cons, List.append_assoc, List.singleton_append,
        words_append_space (hne w List.mem_cons_self) hw]
      rw [ih (fun u hu => hne u (List.mem_cons_of_mem w hu))
        fun u hu => hws u (List.mem_cons_of_mem w hu)]

end HistoryMetrics.Text
