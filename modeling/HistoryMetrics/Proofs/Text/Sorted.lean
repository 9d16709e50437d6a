import Mathlib.Data.List.Nodup

/-! # Texts in ascending order

    Texts are compared character by character. Sorting keeps what is in a list and how often, so the
    sorted form of texts that are all different depends on nothing but which texts there are.

    - `ascending_mergeSort`: a sorted list ascends
    - `strictlyAscending_mergeSort`: it ascends strictly when no text comes twice
    - `eq_of_strictlyAscending`: at most one strictly ascending list has given members
-/

namespace HistoryMetrics

/-- A sorted list of texts ascends. -/
theorem ascending_mergeSort (xs : List String) :
    (xs.mergeSort fun a b => decide (a ≤ b)).Pairwise fun a b => a ≤ b := by
  have htrans : ∀ a b c : String, decide (a ≤ b) = true → decide (b ≤ c) = true →
      decide (a ≤ c) = true := by
    simp only [decide_eq_true_eq]
    exact fun _ _ _ => String.le_trans
  have htotal : ∀ a b : String, (decide (a ≤ b) || decide (b ≤ a)) = true := by
    simpa using String.le_total
  exact (List.pairwise_mergeSort htrans htotal xs).imp of_decide_eq_true

/-- A sorted list of different texts ascends strictly. -/
theorem strictlyAscending_mergeSort {xs : List String} (h : xs.Nodup) :
    (xs.mergeSort fun a b => decide (a ≤ b)).Pairwise fun a b => a < b := by
  have hnodup : (xs.mergeSort fun a b => decide (a ≤ b)).Nodup :=
    (List.mergeSort_perm xs _).nodup_iff.2 h
  refine (ascending_mergeSort xs).imp₂ ?_ hnodup
  intro a b hle hne
  exact Std.lt_of_le_of_ne hle hne

/-- **Ascending lists of different texts** with the same members are the same list. -/
theorem eq_of_ascending {xs ys : List String} (hxs : xs.Pairwise fun a b => a ≤ b)
    (hys : ys.Pairwise fun a b => a ≤ b) (hxs' : xs.Nodup) (hys' : ys.Nodup)
    (h : ∀ s, s ∈ xs ↔ s ∈ ys) : xs = ys := by
  have hperm : xs.Perm ys := (List.perm_ext_iff_of_nodup hxs' hys').2 h
  exact hperm.eq_of_pairwise (fun a b _ _ hab hba => String.le_antisymm hab hba) hxs hys

/-- At most one strictly ascending list has given members. -/
theorem eq_of_strictlyAscending {xs ys : List String} (hxs : xs.Pairwise fun a b => a < b)
    (hys : ys.Pairwise fun a b => a < b) (h : ∀ s, s ∈ xs ↔ s ∈ ys) : xs = ys := by
  have hle : ∀ {a b : String}, a < b → a ≤ b := fun hab => Std.le_of_lt hab
  have hne : ∀ {a b : String}, a < b → a ≠ b := fun hab => Std.ne_of_lt hab
  exact eq_of_ascending (hxs.imp hle) (hys.imp hle) (hxs.imp hne) (hys.imp hne) h

end HistoryMetrics
