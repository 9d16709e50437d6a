import HistoryMetrics.Setting.Comparison
import Mathlib.Data.Int.Order.Basic
import Mathlib.Order.Compare

/-! # Comparing whole numbers

    Numbers of any kind compare by value. For two whole numbers this is the order of the integers.

    - `gt_whole_iff`, `ge_whole_iff`: whole numbers
    - `Value.isAbove_int`: values that are whole numbers always compare
    - `Value.isBelow_int_ok_iff`, `Value.isBelow_int_error_iff`: values of any kind
-/

namespace HistoryMetrics

namespace Number

theorem gt_whole_iff (a b : Int) : gt (.whole a) (.whole b) = true ↔ b < a := by
  simp [gt, compare?, compare_gt_iff_gt]

theorem ge_whole_iff (a b : Int) : ge (.whole a) (.whole b) = true ↔ b ≤ a := by
  simp only [ge, compare?, Bool.or_eq_true, beq_iff_eq, Option.some.injEq, compare_gt_iff_gt,
    compare_eq_iff_eq]
  omega

end Number

theorem Value.isAbove_int (a b : Int) : (int a).isAbove (int b) = .ok (decide (b < a)) := by
  show Except.ok (Number.gt (.whole a) (.whole b)) = _
  rw [Bool.eq_iff_iff.2 ((Number.gt_whole_iff a b).trans decide_eq_true_iff.symm)]

/-- Only numbers compare with a whole number. -/
theorem Value.isBelow_int_ok_iff {v : Value} {bound : Int} {below : Bool} :
    v.isBelow (.int bound) = .ok below ↔
      ∃ n, v.number? = some n ∧ n.lt (.whole bound) = below := by
  have hbound : (Value.int bound).number? = some (.whole bound) := rfl
  unfold isBelow compareWith
  rw [hbound]
  cases v.number? with
  | none => exact ⟨nofun, nofun⟩
  | some n =>
    constructor
    · intro h
      exact ⟨n, rfl, Except.ok.inj h⟩
    · intro ⟨m, hm, h⟩
      cases hm
      exact congrArg Except.ok h

theorem Value.isBelow_int_error_iff {v : Value} {bound : Int} {f : Fault} :
    v.isBelow (.int bound) = .error f ↔
      v.number? = none ∧ f = incomparable "<" v (.int bound) := by
  have hbound : (Value.int bound).number? = some (.whole bound) := rfl
  unfold isBelow compareWith
  rw [hbound]
  cases v.number? with
  | none =>
    constructor
    · intro h
      cases h
      exact ⟨rfl, rfl⟩
    · intro ⟨_, h⟩
      rw [h]
  | some n => exact ⟨nofun, nofun⟩

end HistoryMetrics
