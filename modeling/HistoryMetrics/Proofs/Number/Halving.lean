import HistoryMetrics.Proofs.Number.Order
import HistoryMetrics.Proofs.Number.Rounding
import Mathlib.Data.Rat.Floor

/-! # Halves of numbers

    Half of a number is rounded down to an integer. For double-precision numbers the result is rounded
    once more, to a number of the format; but halves are numbers of the format already, and so there is
    nothing to round. So halving keeps the order, across whole numbers and double-precision ones.

    - `Binary64.IsDouble`: numbers whose significand and exponent fit
    - `ofRatio_exact`, `value?_ofScaled`: a quotient that is a number of the format is not rounded
    - `Number.value?_half_eq_some_iff`: what a half stands for
    - `Number.gt_half_of_ge`: what is above half of a number is above half of a lower one
-/

namespace HistoryMetrics

open ExtendedRat

namespace Binary64

/-! ## Numbers of the format -/

/-- **A number of the format**: the significand of a finite one is below 2 ^ 53, and its exponent is one
    of those that there are. -/
def IsDouble : Binary64 → Prop
  | .finite _ m e => m < 2 ^ 53 ∧ minExponent ≤ e ∧ e ≤ maxExponent
  | _ => True

/-! ## Quotients that need no rounding -/

/-- **A quotient that is a number of the format is not rounded.** -/
theorem ofRatio_exact {negative : Bool} {num den m' : Nat} {e' : ℤ} (hnum : 0 < num) (hden : 0 < den)
    (hm' : m' < 2 ^ 53) (hmin : minExponent ≤ e') (hmax : e' ≤ maxExponent)
    (h : (num : ℚ) / den = m' * 2 ^ e') :
    ∃ m e, ofRatio negative num den = .finite negative m e ∧ (m : ℚ) * 2 ^ e = num / den := by
  obtain ⟨e₀, hexponent, hlow, hhigh⟩ := exponentFor_spec hnum hden
  generalize hE : exponentFor num den = E at hexponent
  obtain ⟨hpos, hscaled⟩ := unscale_spec num hden E
  generalize hn : (unscale num den E).1 = n at hscaled
  generalize hd : (unscale num den E).2 = d at hscaled hpos
  have hpower : (0 : ℚ) < 2 ^ E := by positivity
  -- the exponent of the result is no greater than the one that is known to do
  have hle : E ≤ e' := by
    by_contra hgt
    have hbelow : (m' : ℚ) * 2 ^ e' < 2 ^ (e₀ + 52) := by
      have hm : (m' : ℚ) < 2 ^ (53 : ℤ) := by exact_mod_cast hm'
      calc (m' : ℚ) * 2 ^ e' < 2 ^ (53 : ℤ) * 2 ^ e' := by gcongr
        _ = 2 ^ (53 + e') := (zpow_add₀ two_ne_zero _ _).symm
        _ ≤ 2 ^ (e₀ + 52) := zpow_le_zpow_right₀ one_le_two (by omega)
    rw [h] at hlow
    exact absurd hlow (not_le.2 hbelow)
  obtain ⟨k, hk⟩ := Int.eq_ofNat_of_zero_le (by omega : 0 ≤ e' - E)
  -- so the scaled quotient is an integer, and a significand
  have hinteger : (n : ℚ) / d = (m' * 2 ^ k : Nat) := by
    rw [hscaled, h, div_eq_iff hpower.ne', show e' = k + E by omega, zpow_add₀ two_ne_zero]
    push_cast
    rw [zpow_natCast]
    ring
  have hround : roundDiv n d = m' * 2 ^ k := by
    have hnearest := roundDiv_nearest n hpos (m' * 2 ^ k)
    rw [hinteger, sub_self, abs_zero] at hnearest
    have heq := sub_eq_zero.1 (abs_eq_zero.1 (le_antisymm hnearest (abs_nonneg _)))
    exact_mod_cast heq.symm
  have hvalue : ((m' * 2 ^ k : Nat) : ℚ) * 2 ^ E = num / den := by
    rw [← hinteger, hscaled]
    field_simp
  have hsmall : m' * 2 ^ k < 2 ^ 53 := by
    have hlt : ((m' * 2 ^ k : Nat) : ℚ) * 2 ^ E < 2 ^ (53 : ℤ) * 2 ^ E := by
      rw [hvalue, ← zpow_add₀ two_ne_zero]
      exact hhigh.trans_le (zpow_le_zpow_right₀ one_le_two (by omega))
    exact_mod_cast lt_of_mul_lt_mul_right hlt hpower.le
  refine ⟨m' * 2 ^ k, E, ?_, hvalue⟩
  have hnonzero : (num == 0) = false := by simpa using hnum.ne'
  have hnotfull : (m' * 2 ^ k == 2 ^ 53) = false := by simpa using hsmall.ne
  have hfits : ¬maxExponent < E := by omega
  simp only [ofRatio, hnonzero, Bool.false_eq_true, if_false, hE, hn, hd, hround, pack, hnotfull, hfits]

theorem signed_natAbs (n : ℤ) : signed (decide (n < 0)) n.natAbs = n := by
  rcases lt_or_ge n 0 with hn | hn
  · rw [signed, if_pos (decide_eq_true hn)]
    omega
  · rw [signed, if_neg (by simpa using hn)]
    omega

theorem natAbs_signed (negative : Bool) (m : Nat) : (signed negative m).natAbs = m := by
  cases negative <;> simp [signed]

section Exact

variable {n e : ℤ} (hn : n.natAbs < 2 ^ 53) (hmin : minExponent ≤ e) (hmax : e ≤ maxExponent)

include hn hmin hmax

theorem value?_ofRatio {num den : Nat} (hden : 0 < den) (h : (num : ℚ) / den = n.natAbs * 2 ^ e) :
    (ofRatio (n < 0) num den).value? = some (rational (n * 2 ^ e)) := by
  rcases Nat.eq_zero_or_pos num with rfl | hnum
  · have hzero : n = 0 := by simpa [zpow_ne_zero] using h
    subst hzero
    simp [ofRatio, zero, value?, signed]
  · obtain ⟨m, e', hresult, hvalue⟩ : ∃ m e', ofRatio (n < 0) num den = .finite (n < 0) m e' ∧
        (m : ℚ) * 2 ^ e' = num / den := ofRatio_exact hnum hden hn hmin hmax h
    have hsigned : ∀ (negative : Bool) (k : Nat),
        (signed negative k : ℚ) = (if negative then -1 else 1) * k := by
      intro negative k
      cases negative <;> simp [signed]
    have hwhole : (n : ℚ) = (if decide (n < 0) = true then -1 else 1) * n.natAbs := by
      rw [← hsigned, signed_natAbs]
    rw [hresult, value?, hsigned, mul_assoc, hvalue, h, ← mul_assoc, ← hwhole]

/-- **A scaled integer that is a number of the format is not rounded.** -/
theorem value?_ofScaled : (ofScaled n e).value? = some (rational (n * 2 ^ e)) := by
  unfold ofScaled
  split
  · next hpos =>
    obtain ⟨k, rfl⟩ := Int.eq_ofNat_of_zero_le hpos
    refine value?_ofRatio hn hmin hmax Nat.one_pos ?_
    simp
  · next hneg =>
    obtain ⟨k, hk⟩ := Int.eq_ofNat_of_zero_le (by omega : 0 ≤ -e)
    refine value?_ofRatio hn hmin hmax (Nat.two_pow_pos _) ?_
    rw [hk, show e = -k by omega]
    simp [div_eq_mul_inv]

end Exact

theorem value?_ofInt {n : ℤ} (hn : n.natAbs < 2 ^ 53) : (ofInt n).value? = some (rational n) := by
  have hquotient : (n.natAbs : ℚ) / (1 : Nat) = n.natAbs * 2 ^ (0 : ℤ) := by simp
  have h := value?_ofRatio hn (by decide) (by decide) Nat.one_pos hquotient
  simpa [ofInt] using h

/-! ## Halves -/

/-- **Half of a double-precision number** is exact. -/
theorem value?_half {x : Binary64} (hx : x.IsDouble) {q : ℚ} (hq : x.value? = some (rational q)) :
    x.half.value? = some (rational ⌊q / 2⌋) := by
  cases x with
  | nan => cases hq
  | infinite negative =>
    cases negative <;> cases hq
  | finite s m e =>
    obtain ⟨hm, hmin, hmax⟩ := hx
    have hvalue : (signed s m : ℚ) * 2 ^ e = q := strictMono_rational.injective (Option.some.inj hq)
    have hsigned : (signed s m).natAbs < 2 ^ 53 := by rwa [natAbs_signed]
    simp only [half]
    split_ifs with hzero hscale
    · have hq : q = 0 := by
        rw [← hvalue, beq_iff_eq.1 hzero]
        cases s <;> simp [signed]
      subst hq
      cases s <;> simp [zero, value?, signed]
    · -- halving lowers the exponent, and what is left is an integer
      have hleast : minExponent ≤ 0 := by decide
      rw [value?_ofScaled hsigned (by omega) (by omega)]
      obtain ⟨k, hk⟩ := Int.eq_ofNat_of_zero_le (by omega : 0 ≤ e - 1)
      have hhalf : q / 2 = ((signed s m * 2 ^ k : ℤ) : ℚ) := by
        rw [← hvalue, show e = k + 1 by omega, zpow_add_one₀ two_ne_zero]
        push_cast
        rw [zpow_natCast]
        ring
      rw [hhalf, Int.floor_intCast, hk]
      push_cast
      rw [zpow_natCast]
    · obtain ⟨k, hk⟩ := Int.eq_ofNat_of_zero_le (by omega : 0 ≤ 1 - e)
      have hhalf : q / 2 = (signed s m : ℚ) / ((2 ^ k : Nat) : ℚ) := by
        rw [← hvalue, show e = 1 - k by omega, zpow_sub₀ two_ne_zero, zpow_natCast]
        push_cast
        field_simp
      have hfloor : ⌊q / 2⌋ = (signed s m).fdiv (2 ^ k) := by
        rw [hhalf, Rat.floor_intCast_div_natCast, Int.fdiv_eq_ediv_of_nonneg _ (by positivity)]
        push_cast
        rfl
      rw [hk, Int.toNat_natCast, hfloor]
      exact value?_ofInt (Int.natAbs_fdiv_le_natAbs _ _ |>.trans_lt hsigned)

end Binary64

namespace Number

/-- A number that is whole, or of the format. -/
def IsDouble : Number → Prop
  | .whole _ => True
  | .real x => x.IsDouble

/-- **What half of a number stands for**: half of what the number stands for, rounded down. What is
    infinite has no half. -/
theorem value?_half_eq_some_iff {a : Number} (ha : a.IsDouble) {x : ExtendedRat} :
    a.half.value? = some x ↔ ∃ q : ℚ, a.value? = some (rational q) ∧ x = rational ⌊q / 2⌋ := by
  have hhalf : ∀ q : ℚ, a.value? = some (rational q) → a.half.value? = some (rational ⌊q / 2⌋) := by
    intro q hq
    cases a with
    | whole i =>
      have hvalue : (i : ℚ) = q := strictMono_rational.injective (Option.some.inj hq)
      have hfloor : ⌊q / 2⌋ = i.fdiv 2 := by
        rw [← hvalue, Int.fdiv_eq_ediv_of_nonneg _ (by decide)]
        exact Rat.floor_intCast_div_natCast i 2
      rw [hfloor]
      rfl
    | real x => exact Binary64.value?_half ha hq
  constructor
  · intro hx
    suffices hq : ∃ q, a.value? = some (rational q) by
      obtain ⟨q, hq⟩ := hq
      exact ⟨q, hq, Option.some.inj (hx.symm.trans (hhalf q hq))⟩
    cases a with
    | whole i => exact ⟨i, rfl⟩
    | real y =>
      cases y with
      | nan => cases hx
      | infinite => cases hx
      | finite s m e => exact ⟨_, rfl⟩
  · rintro ⟨q, hq, rfl⟩
    exact hhalf q hq

/-- **Halving keeps the order**: what is above half of a number is above half of a lower one that is
    not negative. -/
theorem gt_half_of_ge {n a b : Number} (ha : a.IsDouble) (hb : b.IsDouble)
    (hpos : lt a (.whole 0) = false) (hab : ge b a = true) (h : gt n b.half = true) :
    gt n a.half = true := by
  obtain ⟨y, hy, x, hx, hxy⟩ := ge_iff.1 hab
  obtain ⟨z, hz, w, hw, hwz⟩ := gt_iff.1 h
  obtain ⟨q, hq, rfl⟩ := (value?_half_eq_some_iff hb).1 hw
  cases Option.mem_unique hy hq
  -- the lower one is finite as well, being neither negative nor above a finite number
  obtain ⟨p, rfl⟩ : ∃ p, x = rational p := by
    rcases rational_or_extreme x with hfinite | ⟨_ | _, rfl⟩
    · exact hfinite
    · exact absurd hxy (not_le.2 (lt_extreme_false q))
    · have hnegative : lt a (.whole 0) = true :=
        lt_iff.2 ⟨_, hx, _, rfl, extreme_true_lt _⟩
      rw [hpos] at hnegative
      cases hnegative
  have hfloor : (⌊p / 2⌋ : ℚ) ≤ ⌊q / 2⌋ := by
    have hpq : p ≤ q := rational_le_iff.1 hxy
    exact Int.cast_le.2 (Int.floor_mono (by linarith))
  refine gt_iff.2 ⟨z, hz, _, (value?_half_eq_some_iff ha).2 ⟨p, hx, rfl⟩, ?_⟩
  exact (rational_le_iff.2 hfloor).trans_lt hwz

end Number

end HistoryMetrics
