import HistoryMetrics.Number
import Mathlib.Algebra.Order.Field.Power
import Mathlib.Data.Option.NAry
import Mathlib.Data.Rat.Cast.Order
import Mathlib.Order.WithBot
import Mathlib.Tactic.Positivity

/-! # The order of numbers

    Numbers of both kinds stand for rational numbers; a number may be infinite as well, or none at all.
    They compare by what they stand for, without rounding. So comparisons that hold have the laws of a
    linear order. One that does not hold says less, for one of the two may be no number at all.

    - `Number.value?`: what a number stands for
    - `compareScaled_eq`, `compare?_eq`: numbers compare by what they stand for
    - `ExtendedRat.rational`, `ExtendedRat.extreme`: the rational line with its two ends
    - `gt_iff`, `ge_iff`, `lt_iff`: the comparisons of the program
    - `ge_trans`, `gt_of_gt_of_ge`, `gt_of_ge_of_gt`: their laws
-/

namespace HistoryMetrics

/-- **What a number can stand for**: a rational number, or one of the two ends of the line. -/
abbrev ExtendedRat : Type := WithBot (WithTop ℚ)

namespace ExtendedRat

/-- A rational number on the line. -/
def rational (q : ℚ) : ExtendedRat := ((q : WithTop ℚ) : WithBot (WithTop ℚ))

/-- An end of the line. -/
def extreme (negative : Bool) : ExtendedRat := if negative then ⊥ else ((⊤ : WithTop ℚ) : ExtendedRat)

theorem rational_or_extreme (x : ExtendedRat) :
    (∃ q, x = rational q) ∨ ∃ negative, x = extreme negative := by
  rcases x with _ | _ | q
  · exact .inr ⟨true, rfl⟩
  · exact .inr ⟨false, rfl⟩
  · exact .inl ⟨q, rfl⟩

theorem strictMono_rational : StrictMono rational :=
  WithBot.coe_strictMono.comp WithTop.coe_strictMono

@[simp] theorem rational_le_iff {p q : ℚ} : rational p ≤ rational q ↔ p ≤ q :=
  strictMono_rational.le_iff_le

theorem extreme_true_lt (q : ℚ) : extreme true < rational q := WithBot.bot_lt_coe _

theorem lt_extreme_false (q : ℚ) : rational q < extreme false :=
  WithBot.coe_lt_coe.2 (WithTop.coe_lt_top q)

theorem cmp_extreme_rational (negative : Bool) (q : ℚ) :
    cmp (extreme negative) (rational q) = if negative then .lt else .gt := by
  cases negative with
  | true => exact (cmp_eq_lt_iff _ _).2 (extreme_true_lt q)
  | false => exact (cmp_eq_gt_iff _ _).2 (lt_extreme_false q)

theorem cmp_rational_extreme (q : ℚ) (negative : Bool) :
    cmp (rational q) (extreme negative) = if negative then .gt else .lt := by
  cases negative with
  | true => exact (cmp_eq_gt_iff _ _).2 (extreme_true_lt q)
  | false => exact (cmp_eq_lt_iff _ _).2 (lt_extreme_false q)

end ExtendedRat

open ExtendedRat

/-! ## What numbers stand for -/

namespace Binary64

/-- What a double-precision number stands for, if it is a number. -/
def value? : Binary64 → Option ExtendedRat
  | .nan => none
  | .infinite negative => some (.extreme negative)
  | .finite negative m e => some (.rational (signed negative m * 2 ^ e))

/-- **Scaled integers compare by what they stand for.** -/
theorem compareScaled_eq (a d b e : ℤ) :
    compareScaled a d b e = cmp ((a : ℚ) * 2 ^ d) (b * 2 ^ e) := by
  -- both are whole multiples of the smaller power of the two
  have hpower : (0 : ℚ) < 2 ^ min d e := by positivity
  have hscale : StrictMono fun z : ℤ => (z : ℚ) * 2 ^ min d e := fun x y hxy =>
    mul_lt_mul_of_pos_right (Int.cast_lt.2 hxy) hpower
  have hmultiple : ∀ (z f : ℤ), min d e ≤ f →
      (z : ℚ) * 2 ^ f = ((z * 2 ^ (f - min d e).toNat : ℤ) : ℚ) * 2 ^ min d e := by
    intro z f hf
    obtain ⟨k, hk⟩ := Int.eq_ofNat_of_zero_le (by omega : 0 ≤ f - min d e)
    rw [hk, show f = k + min d e by omega, zpow_add₀ two_ne_zero]
    push_cast
    simp [mul_assoc]
  rw [hmultiple a d (min_le_left d e), hmultiple b e (min_le_right d e), hscale.cmp_map_eq,
    cmp_eq_compare]
  rfl

theorem cmp_extreme (a b : Bool) :
    cmp (extreme a) (extreme b) = compare (signed a 1) (signed b 1) := by
  cases a <;> cases b <;> rfl

/-- **Double-precision numbers compare by what they stand for.** -/
theorem compare?_eq (x y : Binary64) : compare? x y = Option.map₂ cmp x.value? y.value? := by
  cases x with
  | nan => cases y <;> rfl
  | infinite a =>
    cases y with
    | nan => rfl
    | infinite b => exact congrArg some (cmp_extreme a b).symm
    | finite t n e => exact congrArg some (cmp_extreme_rational a _).symm
  | finite s m d =>
    cases y with
    | nan => rfl
    | infinite b => exact congrArg some (cmp_rational_extreme _ b).symm
    | finite t n e =>
      refine congrArg some ((compareScaled_eq _ _ _ _).trans ?_)
      exact (strictMono_rational.cmp_map_eq _ _).symm

end Binary64

namespace Number

/-- **What a number stands for**, if it is a number. -/
def value? : Number → Option ExtendedRat
  | .whole i => some (.rational i)
  | .real x => x.value?

/-- **Numbers compare by what they stand for**, whatever kinds they are of. -/
theorem compare?_eq (a b : Number) : compare? a b = Option.map₂ cmp a.value? b.value? := by
  have hunscaled : ∀ i : ℤ, (i : ℚ) * 2 ^ (0 : ℤ) = i := fun i => by rw [zpow_zero, mul_one]
  cases a with
  | whole a =>
    cases b with
    | whole b =>
      refine congrArg some ((cmp_eq_compare a b).symm.trans ?_)
      exact ((strictMono_rational.comp Int.cast_strictMono).cmp_map_eq a b).symm
    | real y =>
      cases y with
      | nan => rfl
      | infinite negative => exact congrArg some (cmp_rational_extreme _ negative).symm
      | finite t n e =>
        refine congrArg some ((Binary64.compareScaled_eq _ _ _ _).trans ?_)
        rw [hunscaled]
        exact (strictMono_rational.cmp_map_eq _ _).symm
  | real x =>
    cases b with
    | whole b =>
      cases x with
      | nan => rfl
      | infinite negative => exact congrArg some (cmp_extreme_rational negative _).symm
      | finite s m d =>
        refine congrArg some ((Binary64.compareScaled_eq _ _ _ _).trans ?_)
        rw [hunscaled]
        exact (strictMono_rational.cmp_map_eq _ _).symm
    | real y => exact Binary64.compare?_eq x y

/-! ## The comparisons of the program -/

theorem compare?_eq_some_iff {a b : Number} {o : Ordering} :
    compare? a b = some o ↔ ∃ x ∈ a.value?, ∃ y ∈ b.value?, o.Compares x y := by
  rw [compare?_eq, Option.map₂_eq_some_iff]
  constructor
  · rintro ⟨x, y, hx, hy, rfl⟩
    exact ⟨x, hx, y, hy, cmp_compares x y⟩
  · rintro ⟨x, hx, y, hy, h⟩
    exact ⟨x, y, hx, hy, h.cmp_eq⟩

theorem gt_iff {a b : Number} : gt a b = true ↔ ∃ x ∈ a.value?, ∃ y ∈ b.value?, y < x :=
  beq_iff_eq.trans compare?_eq_some_iff

theorem lt_iff {a b : Number} : lt a b = true ↔ ∃ x ∈ a.value?, ∃ y ∈ b.value?, x < y :=
  beq_iff_eq.trans compare?_eq_some_iff

theorem ge_iff {a b : Number} : ge a b = true ↔ ∃ x ∈ a.value?, ∃ y ∈ b.value?, y ≤ x := by
  rw [ge, Bool.or_eq_true, beq_iff_eq, beq_iff_eq, compare?_eq_some_iff, compare?_eq_some_iff]
  constructor
  · rintro (⟨x, hx, y, hy, hlt⟩ | ⟨x, hx, y, hy, heq⟩)
    · exact ⟨x, hx, y, hy, le_of_lt hlt⟩
    · exact ⟨x, hx, y, hy, ge_of_eq heq⟩
  · rintro ⟨x, hx, y, hy, hle⟩
    rcases hle.lt_or_eq with hlt | heq
    · exact .inl ⟨x, hx, y, hy, hlt⟩
    · exact .inr ⟨x, hx, y, hy, heq.symm⟩

theorem ge_trans {a b c : Number} (hab : ge a b = true) (hbc : ge b c = true) : ge a c = true := by
  obtain ⟨x, hx, y, hy, hyx⟩ := ge_iff.1 hab
  obtain ⟨y', hy', z, hz, hzy⟩ := ge_iff.1 hbc
  cases Option.mem_unique hy hy'
  exact ge_iff.2 ⟨x, hx, z, hz, hzy.trans hyx⟩

theorem gt_of_gt_of_ge {a b c : Number} (hab : gt a b = true) (hbc : ge b c = true) :
    gt a c = true := by
  obtain ⟨x, hx, y, hy, hyx⟩ := gt_iff.1 hab
  obtain ⟨y', hy', z, hz, hzy⟩ := ge_iff.1 hbc
  cases Option.mem_unique hy hy'
  exact gt_iff.2 ⟨x, hx, z, hz, hzy.trans_lt hyx⟩

theorem gt_of_ge_of_gt {a b c : Number} (hab : ge a b = true) (hbc : gt b c = true) :
    gt a c = true := by
  obtain ⟨x, hx, y, hy, hyx⟩ := ge_iff.1 hab
  obtain ⟨y', hy', z, hz, hzy⟩ := gt_iff.1 hbc
  cases Option.mem_unique hy hy'
  exact gt_iff.2 ⟨x, hx, z, hz, hzy.trans_le hyx⟩

end Number

end HistoryMetrics
