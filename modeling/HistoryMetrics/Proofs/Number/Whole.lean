import HistoryMetrics.Number.Whole
import Mathlib.Data.List.Basic

/-! # Whole numbers, printed and read back

    A number that is printed in decimal is read as this number, unless it has more digits than are
    accepted.

    - `Unicode.digitValue?_of_isDigit`, `Unicode.digitValue?_eq_none`: the digits that numbers are printed
      with
    - `Whole.parts?_toString`: a printed number has no sign
    - `Whole.read_toString`: it is read back
    - `Whole.read_eq_error`: what is said about a text that does not begin with a digit
-/

namespace HistoryMetrics

namespace Unicode

-- The characters of the table are taken out of it first: what is left is evaluated at once.
set_option maxRecDepth 4000 in
/-- The digits that numbers are printed with are the first ones, and the others come long after them. -/
theorem zeros_eq_cons : ∃ others, zeros = '0'.toNat :: others ∧ ∀ z ∈ others, 0x660 ≤ z := by
  have hzeros : zeros = ((Text.words (String.ofList _).toList).map fun w => w.splitOn '-').map
      fun w => (Ranges.range w).1 := rfl
  rw [String.toList_ofList] at hzeros
  rw [hzeros]
  refine ⟨_, List.cons_head?_tail (a := '0'.toNat) ?_ |>.symm, ?_⟩ <;> decide +kernel

/-- A digit is worth its distance from zero. -/
theorem digitValue?_of_isDigit {c : Char} (h : c.isDigit = true) :
    digitValue? c = some (c.toNat - '0'.toNat) := by
  obtain ⟨others, hzeros, -⟩ := zeros_eq_cons
  have hrange : '0'.toNat ≤ c.toNat ∧ c.toNat < '0'.toNat + 10 := by
    have := Char.isDigit_iff_toNat.1 h
    simp at this ⊢
    omega
  rw [digitValue?, hzeros, List.find?_cons_of_pos (by simpa using hrange), Option.map_some]

/-- Other characters are worth nothing, up to the digits of other scripts. -/
theorem digitValue?_eq_none {c : Char} (h : c.isDigit = false) (hc : c.toNat < 0x660) :
    digitValue? c = none := by
  obtain ⟨others, hzeros, hothers⟩ := zeros_eq_cons
  have hrange : ¬('0'.toNat ≤ c.toNat ∧ c.toNat ≤ '9'.toNat) := by
    rw [← Char.isDigit_iff_toNat, h]
    decide
  have hfind : ∀ z ∈ zeros, ¬(z ≤ c.toNat ∧ c.toNat < z + 10) := by
    intro z hz
    rw [hzeros] at hz
    rcases List.mem_cons.1 hz with rfl | hz
    · simp at hrange ⊢
      omega
    · have := hothers z hz
      omega
  rw [digitValue?, List.find?_eq_none.2 (by simpa using hfind), Option.map_none]

end Unicode

namespace Whole

theorem digits_of_isDigit {cs : List Char} (hne : cs ≠ []) (h : ∀ c ∈ cs, c.isDigit = true) :
    digits cs = some (cs.map fun c => c.toNat - '0'.toNat) := by
  induction cs using digits.induct with
  | case1 => exact absurd rfl hne
  | case2 c =>
    have hc : c.isDigit = true := h c List.mem_cons_self
    have hone : digits [c] = (Unicode.digitValue? c).map fun d => [d] := rfl
    rw [hone, Unicode.digitValue?_of_isDigit hc]
    simp only [Option.map_some, List.map_cons, List.map_nil]
  | case3 c rest _ =>
    -- a low line is no digit
    have hline := h '_' (List.mem_cons_of_mem _ List.mem_cons_self)
    exact absurd hline (by decide)
  | case4 c rest hend hline ih =>
    obtain ⟨hc, hrest⟩ := List.forall_mem_cons.1 h
    rw [digits.eq_def]
    split
    · next heq => cases heq
    · next heq => exact absurd (List.cons.inj heq).2 hend
    · next heq => exact absurd (List.cons.inj heq).2 (hline _)
    · next heq =>
      cases heq
      rw [Unicode.digitValue?_of_isDigit hc, ih hend hrest, List.map_cons]
      rfl

/-- Digits are read from the first one on. -/
theorem digits_eq_none {c : Char} (hc : Unicode.digitValue? c = none) (rest : List Char) :
    digits (c :: rest) = none := by
  -- one of three cases, by what stands behind the character
  rw [digits.eq_def]
  split
  · next heq => cases heq
  · next heq => cases heq; rw [hc, Option.map_none]
  · next heq => cases heq; rw [hc]; rfl
  · next heq => cases heq; rw [hc]; rfl

theorem not_isBlank_of_isDigit {c : Char} (h : c.isDigit = true) : Text.isBlank c = false := by
  have hrange := Char.isDigit_iff_toNat.1 h
  simp at hrange
  simp [Text.isBlank]
  omega

/-- A text that does not begin with a digit writes no number. -/
theorem read_eq_error {text : String} {negative : Bool} {c : Char} {rest : List Char}
    (hbody : sign (Text.trimEnd isMargin (Text.trimStart isMargin text.toList)) = (negative, c :: rest))
    (hc : Unicode.digitValue? c = none) : read text = .error (.wrongValue (noNumber text)) := by
  have hparts : parts? text = none := by
    simp only [parts?, hbody, digits_eq_none hc, Option.map_none]
  rw [read, hparts]

/-- A printed number has neither a sign nor white space around it. -/
theorem parts?_toString (n : Nat) : parts? (toString n) =
    some (false, (Nat.toDigits 10 n).map fun c => c.toNat - '0'.toNat) := by
  have hdigit : ∀ c ∈ Nat.toDigits 10 n, c.isDigit = true :=
    fun c hc => Nat.isDigit_of_mem_toDigits (by decide) (by decide) hc
  have hmargin : ∀ cs : List Char, (∀ c ∈ cs, c.isDigit = true) → cs.dropWhile isMargin = cs := by
    intro cs hcs
    cases cs with
    | nil => rfl
    | cons c cs =>
      have hc : isMargin c = false := by
        rw [isMargin, not_isBlank_of_isDigit (hcs c List.mem_cons_self), Bool.false_and]
      exact List.dropWhile_cons_of_neg (by simp [hc])
  have htrimmed : Text.trimEnd isMargin (Text.trimStart isMargin (Nat.toDigits 10 n)) =
      Nat.toDigits 10 n := by
    rw [Text.trimStart, hmargin _ hdigit, Text.trimEnd,
      hmargin _ fun c hc => hdigit c (List.mem_reverse.1 hc), List.reverse_reverse]
  -- no sign is a digit
  have hsign : sign (Nat.toDigits 10 n) = (false, Nat.toDigits 10 n) := by
    rcases hcs : Nat.toDigits 10 n with _ | ⟨c, cs⟩
    · rfl
    · have hc : c.isDigit = true := hdigit c (by rw [hcs]; exact List.mem_cons_self)
      unfold sign
      split
      · next heq =>
        cases heq
        exact absurd hc (by decide)
      · next heq =>
        cases heq
        exact absurd hc (by decide)
      · rfl
  rw [parts?, Nat.toString_eq_ofList_toDigits, String.toList_ofList, htrimmed, hsign]
  simp only [digits_of_isDigit Nat.toDigits_ne_nil hdigit, Option.map_some]

/-- **A printed number is read back**, unless it has too many digits. -/
theorem read_toString (n : Nat) : read (toString n) =
    if maxDigits < (Nat.toDigits 10 n).length then
      .error (.wrongValue (tooManyDigits (Nat.toDigits 10 n).length))
    else .ok (n : Int) := by
  -- the library counts the digits up in the same way, with its factors the other way round
  have hvalue : ((Nat.toDigits 10 n).map fun c => c.toNat - '0'.toNat).foldl
      (fun n d => n * 10 + d) 0 = n := by
    have hread := Nat.ofDigitChars_toDigits (b := 10) (n := n) (by decide) (by decide)
    rw [Nat.ofDigitChars_eq_foldl] at hread
    rw [List.foldl_map]
    simpa only [Nat.mul_comm] using hread
  simp only [read, parts?_toString, List.length_map, ofParts, hvalue, Bool.false_eq_true, if_false]

end Whole

end HistoryMetrics
