import HistoryMetrics.Number.Binary64
import Mathlib.Algebra.Order.Field.Power
import Mathlib.Data.Rat.Cast.Order
import Mathlib.Tactic.FieldSimp
import Mathlib.Tactic.Linarith
import Mathlib.Tactic.Positivity
import Mathlib.Tactic.Ring

/-! # Quotients rounded once

    A quotient of integers is scaled until its integer part has 53 binary digits, and then it is
    rounded to an integer. Numbers of a lower exponent are all below the scaled quotient, so the result
    is the nearest of all double-precision numbers and not only of those with its exponent.

    - `roundDiv_nearest`: the nearest integer to a quotient
    - `exponentFor_spec`: how the exponent is chosen
    - `ofRatio_nearest`: the nearest number to a quotient
-/

namespace HistoryMetrics.Binary64

/-! ## Integers -/

/-- A quotient is rounded by half at most. -/
theorem roundDiv_error (num : Nat) {den : Nat} (h : 0 < den) :
    |(num : ℚ) / den - roundDiv num den| ≤ 1 / 2 := by
  have hden : (0 : ℚ) < den := by exact_mod_cast h
  have hquotient : (num : ℚ) / den = (num / den : Nat) + ((num % den : Nat) : ℚ) / den := by
    have hsplit : (num : ℚ) = den * (num / den : Nat) + (num % den : Nat) := by
      exact_mod_cast (Nat.div_add_mod num den).symm
    rw [hsplit]
    field_simp
  have hrest : ((num % den : Nat) : ℚ) < den := by exact_mod_cast Nat.mod_lt num h
  rw [abs_le, hquotient]
  by_cases hup : den < 2 * (num % den) ∨ 2 * (num % den) = den ∧ num / den % 2 = 1
  · have hround : roundDiv num den = num / den + 1 := by simp [roundDiv, hup]
    have hhalf : (den : ℚ) ≤ 2 * (num % den : Nat) := by
      exact_mod_cast (by omega : den ≤ 2 * (num % den))
    have hlow : 1 / 2 ≤ ((num % den : Nat) : ℚ) / den := by
      rw [le_div_iff₀ hden]
      linarith
    have hhigh : ((num % den : Nat) : ℚ) / den ≤ 1 := by
      rw [div_le_one hden]
      exact hrest.le
    rw [hround]
    push_cast
    constructor <;> linarith
  · have hround : roundDiv num den = num / den := by simp [roundDiv, hup]
    have hhalf : 2 * ((num % den : Nat) : ℚ) ≤ den := by
      exact_mod_cast (by omega : 2 * (num % den) ≤ den)
    have hlow : 0 ≤ ((num % den : Nat) : ℚ) / den := by positivity
    have hhigh : ((num % den : Nat) : ℚ) / den ≤ 1 / 2 := by
      rw [div_le_iff₀ hden]
      linarith
    rw [hround]
    constructor <;> linarith

/-- **The nearest integer** to a quotient. -/
theorem roundDiv_nearest (num : Nat) {den : Nat} (h : 0 < den) (z : Nat) :
    |(num : ℚ) / den - roundDiv num den| ≤ |(num : ℚ) / den - z| := by
  have herror := roundDiv_error num h
  by_cases hz : z = roundDiv num den
  · rw [hz]
  · -- another integer is at least one away
    have hapart : (1 : ℚ) ≤ |(z : ℚ) - roundDiv num den| := by
      have hne : (z : ℤ) - roundDiv num den ≠ 0 := by omega
      exact_mod_cast Int.one_le_abs hne
    have htriangle := abs_sub_le (z : ℚ) ((num : ℚ) / den) (roundDiv num den)
    rw [abs_sub_comm (z : ℚ) ((num : ℚ) / den)] at htriangle
    linarith

/-! ## Scaling -/

theorem unscale_spec (num : Nat) {den : Nat} (h : 0 < den) (e : ℤ) :
    0 < (unscale num den e).2 ∧
      ((unscale num den e).1 : ℚ) / (unscale num den e).2 = num / den / 2 ^ e := by
  have hden : (den : ℚ) ≠ 0 := by positivity
  cases e with
  | ofNat k => exact ⟨by simp [unscale, h], by simp [unscale, div_div]⟩
  | negSucc k =>
    refine ⟨by simp [unscale, h], ?_⟩
    simp [unscale, zpow_negSucc]
    field_simp

/-- Powers of two around a quotient, by the binary digits of numerator and denominator. -/
theorem quotient_bounds {num den : Nat} (hnum : 0 < num) (hden : 0 < den) :
    (2 : ℚ) ^ ((Nat.log2 num : ℤ) - Nat.log2 den - 1) < num / den ∧
      (num : ℚ) / den < 2 ^ ((Nat.log2 num : ℤ) - Nat.log2 den + 1) := by
  have hnumLow : (2 : ℚ) ^ Nat.log2 num ≤ num := by exact_mod_cast Nat.log2_self_le hnum.ne'
  have hnumHigh : (num : ℚ) < 2 ^ (Nat.log2 num + 1) := by exact_mod_cast Nat.lt_log2_self
  have hdenLow : (2 : ℚ) ^ Nat.log2 den ≤ den := by exact_mod_cast Nat.log2_self_le hden.ne'
  have hdenHigh : (den : ℚ) < 2 ^ (Nat.log2 den + 1) := by exact_mod_cast Nat.lt_log2_self
  have hpos : (0 : ℚ) < den := by exact_mod_cast hden
  constructor
  · rw [lt_div_iff₀ hpos]
    calc (2 : ℚ) ^ ((Nat.log2 num : ℤ) - Nat.log2 den - 1) * den
        < 2 ^ ((Nat.log2 num : ℤ) - Nat.log2 den - 1) * 2 ^ (Nat.log2 den + 1) := by gcongr
      _ = 2 ^ Nat.log2 num := by
        rw [← zpow_natCast, ← zpow_natCast, ← zpow_add₀ two_ne_zero]
        congr 1
        push_cast
        ring
      _ ≤ num := hnumLow
  · rw [div_lt_iff₀ hpos]
    calc (num : ℚ) < 2 ^ (Nat.log2 num + 1) := hnumHigh
      _ = 2 ^ ((Nat.log2 num : ℤ) - Nat.log2 den + 1) * 2 ^ Nat.log2 den := by
        rw [← zpow_natCast, ← zpow_natCast, ← zpow_add₀ two_ne_zero]
        congr 1
        push_cast
        ring
      _ ≤ 2 ^ ((Nat.log2 num : ℤ) - Nat.log2 den + 1) * den := by gcongr

/-- **How the exponent is chosen**: the integer part of the scaled quotient has 53 binary digits,
    unless that takes a lower exponent than there is. -/
theorem exponentFor_spec {num den : Nat} (hnum : 0 < num) (hden : 0 < den) :
    ∃ e : ℤ, exponentFor num den = max e minExponent ∧
      (2 : ℚ) ^ (e + 52) ≤ num / den ∧ (num : ℚ) / den < 2 ^ (e + 53) := by
  obtain ⟨hlow, hhigh⟩ := quotient_bounds hnum hden
  obtain ⟨hpos, hscaled⟩ := unscale_spec num hden ((Nat.log2 num : ℤ) - Nat.log2 den)
  set k := (Nat.log2 num : ℤ) - Nat.log2 den with hk
  have hscale : (0 : ℚ) < 2 ^ k := by positivity
  -- the comparison of integers tells whether the quotient reaches the power between its bounds
  have hcompare : (unscale num den k).2 ≤ (unscale num den k).1 ↔ (2 : ℚ) ^ k ≤ num / den := by
    rw [← Nat.cast_le (α := ℚ), ← one_le_div (by exact_mod_cast hpos), hscaled, one_le_div hscale]
  by_cases hdigit : (unscale num den k).2 ≤ (unscale num den k).1
  · refine ⟨k - 52, by simp [exponentFor, ← hk, hdigit], ?_, ?_⟩
    · rw [sub_add_cancel]
      exact hcompare.1 hdigit
    · rwa [show k - 52 + 53 = k + 1 by ring]
  · refine ⟨k - 53, by simp [exponentFor, ← hk, hdigit], ?_, ?_⟩
    · rw [show k - 53 + 52 = k - 1 by ring]
      exact hlow.le
    · rw [sub_add_cancel]
      exact not_le.1 fun h => hdigit (hcompare.2 h)

/-! ## Numbers -/

/-- A significand that has grown to 2 ^ 53 is halved, and the number stays what it is. -/
theorem pack_eq_finite {negative s : Bool} {m₀ m : Nat} {e₀ e : ℤ} (hm₀ : m₀ ≤ 2 ^ 53)
    (h : pack negative m₀ e₀ = .finite s m e) :
    s = negative ∧ m < 2 ^ 53 ∧ e₀ ≤ e ∧ e ≤ maxExponent ∧ (m : ℚ) * 2 ^ e = m₀ * 2 ^ e₀ := by
  by_cases hfull : m₀ = 2 ^ 53
  · subst hfull
    simp only [pack, beq_self_eq_true, if_true] at h
    split at h <;> cases h
    refine ⟨rfl, by norm_num, by omega, by omega, ?_⟩
    rw [zpow_add_one₀ two_ne_zero]
    push_cast
    ring
  · have hne : (m₀ == 2 ^ 53) = false := by simpa using hfull
    simp only [pack, hne, Bool.false_eq_true, if_false] at h
    split at h <;> cases h
    exact ⟨rfl, by omega, le_rfl, by omega, rfl⟩

/-- An integer that a number is when it is scaled is no nearer than the rounded quotient. A number of a
    lower exponent is no nearer either, for it is below 2 ^ 52 and so below the quotient. -/
theorem roundDiv_nearest_scaled {num den : Nat} (hden : 0 < den) {e e' : ℤ} {m' : Nat}
    (hm' : m' < 2 ^ 53) (hlow : e' < e → (2 : ℚ) ^ 52 ≤ num / den) :
    |(num : ℚ) / den - roundDiv num den| ≤ |(num : ℚ) / den - m' * 2 ^ (e' - e)| := by
  by_cases he : e ≤ e'
  · obtain ⟨k, hk⟩ := Int.eq_ofNat_of_zero_le (by omega : 0 ≤ e' - e)
    have hinteger : (m' : ℚ) * 2 ^ (e' - e) = (m' * 2 ^ k : Nat) := by
      rw [hk]
      push_cast
      rfl
    rw [hinteger]
    exact roundDiv_nearest num hden _
  · have hbelow : (m' : ℚ) * 2 ^ (e' - e) ≤ 2 ^ 52 := by
      have hm : (m' : ℚ) ≤ 2 ^ 53 := by exact_mod_cast hm'.le
      have hpower : (2 : ℚ) ^ (e' - e) ≤ 2 ^ (-1 : ℤ) :=
        zpow_le_zpow_right₀ one_le_two (by omega)
      calc (m' : ℚ) * 2 ^ (e' - e) ≤ 2 ^ 53 * 2 ^ (-1 : ℤ) := by gcongr
        _ = 2 ^ 52 := by norm_num
    have habove := hlow (by omega)
    have hnearest := roundDiv_nearest num hden (2 ^ 52)
    rw [Nat.cast_pow, Nat.cast_ofNat] at hnearest
    rw [abs_of_nonneg (by linarith : (0 : ℚ) ≤ num / den - 2 ^ 52)] at hnearest
    rw [abs_of_nonneg (by linarith : (0 : ℚ) ≤ num / den - m' * 2 ^ (e' - e))]
    linarith

/-- **The nearest number to a quotient**: no number of the format is nearer, whatever its significand
    and its exponent. -/
theorem ofRatio_nearest {negative s : Bool} {num den m : Nat} {e : ℤ} (hnum : 0 < num)
    (hden : 0 < den) (h : ofRatio negative num den = .finite s m e) :
    s = negative ∧ m < 2 ^ 53 ∧ minExponent ≤ e ∧ e ≤ maxExponent ∧
      ∀ (m' : Nat) (e' : ℤ), m' < 2 ^ 53 → minExponent ≤ e' →
        |(num : ℚ) / den - m * 2 ^ e| ≤ |(num : ℚ) / den - m' * 2 ^ e'| := by
  obtain ⟨e₀, hexponent, hlow, hhigh⟩ := exponentFor_spec hnum hden
  generalize hE : exponentFor num den = E at hexponent
  obtain ⟨hpos, hscaled⟩ := unscale_spec num hden E
  generalize hn : (unscale num den E).1 = n at hscaled
  generalize hd : (unscale num den E).2 = d at hscaled hpos
  have hpower : (0 : ℚ) < 2 ^ E := by positivity
  have hbelow : (n : ℚ) / d < 2 ^ 53 := by
    rw [hscaled, div_lt_iff₀ hpower, ← zpow_natCast, ← zpow_add₀ two_ne_zero]
    refine hhigh.trans_le (zpow_le_zpow_right₀ one_le_two ?_)
    omega
  have hsignificand : roundDiv n d ≤ 2 ^ 53 := by
    have herror := (abs_le.1 (roundDiv_error n hpos)).1
    have hlt : (roundDiv n d : ℚ) < (2 ^ 53 + 1 : Nat) := by
      push_cast
      linarith
    exact Nat.lt_succ_iff.1 (by exact_mod_cast hlt)
  have hpack : pack negative (roundDiv n d) E = .finite s m e := by
    have hne : (num == 0) = false := by simpa using hnum.ne'
    simpa only [ofRatio, hne, Bool.false_eq_true, if_false, hE, hn, hd] using h
  obtain ⟨hs, hm, hle, hmax, hvalue⟩ := pack_eq_finite hsignificand hpack
  refine ⟨hs, hm, by omega, hmax, fun m' e' hm' he' => ?_⟩
  -- all is compared after scaling
  have hscale : ∀ y : ℚ, |(num : ℚ) / den - y * 2 ^ E| = |(n : ℚ) / d - y| * 2 ^ E := by
    intro y
    rw [hscaled, ← abs_of_pos hpower, ← abs_mul, abs_of_pos hpower]
    congr 1
    field_simp
  have hother : (m' : ℚ) * 2 ^ e' = m' * 2 ^ (e' - E) * 2 ^ E := by
    rw [mul_assoc, ← zpow_add₀ two_ne_zero, sub_add_cancel]
  rw [hvalue, hother, hscale, hscale]
  refine mul_le_mul_of_nonneg_right (roundDiv_nearest_scaled hpos hm' fun hlt => ?_) hpower.le
  -- a number of a lower exponent exists only if the exponent is not the least
  have he₀ : E = e₀ := by omega
  rw [hscaled, le_div_iff₀ hpower, ← zpow_natCast, ← zpow_add₀ two_ne_zero]
  exact le_trans (le_of_eq (by rw [he₀, add_comm]; rfl)) hlow

end HistoryMetrics.Binary64
