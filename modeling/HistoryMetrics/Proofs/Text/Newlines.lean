import HistoryMetrics.Proofs.Text.Pieces

/-! # Line ends that are made alike

    What a program writes is read with one kind of line ends: carriage returns, with and without a line
    feed after them, become line feeds. So a text stays what it is just when it holds no carriage return.
    Other separators are not affected, and each piece between them is read for itself.

    - `not_mem_universalNewlines`: nothing but line feeds comes in
    - `universalNewlines_eq_self_iff`: the texts that stay what they are
    - `universalNewlines_append_sep`, `universalNewlines_flatMap_sep`: pieces between separators
-/

namespace HistoryMetrics.Text

variable {c sep : Char}

theorem universalNewlines_cons (hc : c ≠ '\r') (cs : List Char) :
    universalNewlines (c :: cs) = c :: universalNewlines cs := by
  have hne : (c == '\r') = false := beq_false_of_ne hc
  rw [universalNewlines, hne]
  · rfl
  · intro rest h
    exact absurd h hc

/-- No carriage return is left. -/
theorem return_not_mem_universalNewlines (cs : List Char) : '\r' ∉ universalNewlines cs := by
  -- the cases of the reader: nothing, a pair that makes one line end, any other character
  induction cs using universalNewlines.induct with
  | case1 => exact List.not_mem_nil
  | case2 cs ih => exact List.not_mem_cons_of_ne_of_not_mem (by decide) ih
  | case3 c cs hpair ih =>
    rw [universalNewlines]
    · refine List.not_mem_cons_of_ne_of_not_mem ?_ ih
      by_cases hc : c = '\r'
      · simp [hc]
      · simpa [hc] using Ne.symm hc
    · exact hpair

/-- Characters other than line feeds were there before. -/
theorem not_mem_universalNewlines (hc : c ≠ '\n') {cs : List Char} (h : c ∉ cs) :
    c ∉ universalNewlines cs := by
  induction cs using universalNewlines.induct with
  | case1 => exact List.not_mem_nil
  | case2 cs ih =>
    have hrest : c ∉ cs := fun hmem => h (List.mem_cons_of_mem _ (List.mem_cons_of_mem _ hmem))
    exact List.not_mem_cons_of_ne_of_not_mem hc (ih hrest)
  | case3 d cs hpair ih =>
    have hd : c ≠ d := List.ne_of_not_mem_cons h
    rw [universalNewlines]
    · refine List.not_mem_cons_of_ne_of_not_mem ?_ (ih (List.not_mem_of_not_mem_cons h))
      split
      · exact hc
      · exact hd
    · exact hpair

theorem universalNewlines_eq_nil_iff {cs : List Char} : universalNewlines cs = [] ↔ cs = [] := by
  fun_cases universalNewlines cs <;> simp

theorem universalNewlines_of_not_mem {cs : List Char} (h : '\r' ∉ cs) : universalNewlines cs = cs := by
  induction cs with
  | nil => rfl
  | cons c cs ih =>
    have hc : c ≠ '\r' := Ne.symm (List.ne_of_not_mem_cons h)
    rw [universalNewlines_cons hc, ih (List.not_mem_of_not_mem_cons h)]

/-- **A text stays what it is** just when it holds no carriage return. -/
theorem universalNewlines_eq_self_iff {cs : List Char} : universalNewlines cs = cs ↔ '\r' ∉ cs := by
  constructor
  · intro h
    rw [← h]
    exact return_not_mem_universalNewlines cs
  · exact universalNewlines_of_not_mem

/-! ## Pieces -/

/-- **A separator keeps apart** what is read before it and after it. -/
theorem universalNewlines_append_sep (hreturn : sep ≠ '\r') (hfeed : sep ≠ '\n')
    (piece rest : List Char) :
    universalNewlines (piece ++ sep :: rest) =
      universalNewlines piece ++ sep :: universalNewlines rest := by
  induction piece using universalNewlines.induct with
  | case1 => exact universalNewlines_cons hreturn rest
  | case2 piece ih =>
    show '\n' :: universalNewlines (piece ++ sep :: rest) = _
    rw [ih]
    rfl
  | case3 c piece hpair ih =>
    have hpair' : ∀ rest', c = '\r' → piece ++ sep :: rest = '\n' :: rest' → False := by
      intro rest' hc h
      -- the separator is no line feed, so a pair would have been one before
      cases piece with
      | nil => exact hfeed (List.cons.inj h).1
      | cons d piece => exact hpair piece hc (by rw [(List.cons.inj h).1])
    rw [List.cons_append, universalNewlines, universalNewlines, ih]
    · rfl
    · exact hpair
    · exact hpair'

/-- Pieces that are each closed by a separator. -/
theorem universalNewlines_flatMap_sep (hreturn : sep ≠ '\r') (hfeed : sep ≠ '\n')
    (pieces : List (List Char)) :
    universalNewlines (pieces.flatMap fun p => p ++ [sep]) =
      (pieces.map universalNewlines).flatMap fun p => p ++ [sep] := by
  induction pieces with
  | nil => rfl
  | cons p ps ih =>
    rw [List.flatMap_cons, List.append_assoc, List.singleton_append,
      universalNewlines_append_sep hreturn hfeed, ih, List.map_cons, List.flatMap_cons,
      List.append_assoc, List.singleton_append]

end HistoryMetrics.Text
