import Mathlib.Data.List.Basic

/-! # Entries by name

    Settings, tables and disks are lists of entries, each with a name. The first entry of a name is the
    one that counts.

    - `lookup_cons_eq`: the first entry is tried first
    - `lookup_eq_none_iff_names`: names without an entry
    - `lookup_replace`: the entries of one name replaced
    - `mem_of_lookup`: what is found is there
    - `lookup_of_mem`: in a list in which no name stands twice, all entries count
-/

namespace HistoryMetrics.Entries

variable {α β : Type} [BEq α] [LawfulBEq α] [DecidableEq α]

theorem lookup_cons_eq (name other : α) (b : β) (entries : List (α × β)) :
    ((name, b) :: entries).lookup other =
      if other = name then some b else entries.lookup other := by
  rw [List.lookup_cons]
  by_cases h : other = name
  · simp [h]
  · simp [h, beq_false_of_ne h]

theorem lookup_eq_none_iff_names {entries : List (α × β)} {name : α} :
    entries.lookup name = none ↔ name ∉ entries.map Prod.fst := by
  induction entries with
  | nil => simp
  | cons x rest ih =>
    obtain ⟨other, b⟩ := x
    rw [lookup_cons_eq]
    by_cases h : name = other
    · simp [h]
    · simp [h, ih]

/-- **The entries of one name replaced.** -/
theorem lookup_replace (entries : List (α × β)) (name other : α) (b : β) :
    (entries.map fun x => if x.1 == name then (name, b) else x).lookup other =
      if other = name then (entries.lookup other).map fun _ => b else entries.lookup other := by
  induction entries with
  | nil => simp
  | cons x rest ih =>
    obtain ⟨first, old⟩ := x
    rw [List.map_cons, lookup_cons_eq]
    by_cases hfirst : first = name
    · subst hfirst
      by_cases hother : other = first
      · simp [hother]
      · simp only [beq_self_eq_true, if_true, lookup_cons_eq, if_neg hother, ih]
    · have hname : (first == name) = false := beq_false_of_ne hfirst
      simp only [hname, Bool.false_eq_true, if_false, lookup_cons_eq, ih]
      by_cases hother : other = first
      · subst hother
        simp [hfirst]
      · simp [hother]

omit [DecidableEq α] in
/-- An entry that is found is one of the list. -/
theorem mem_of_lookup {entries : List (α × β)} {name : α} {b : β}
    (h : entries.lookup name = some b) : (name, b) ∈ entries := by
  obtain ⟨before, after, rfl, -⟩ := List.lookup_eq_some_iff.1 h
  exact List.mem_append_right _ List.mem_cons_self

/-- **When no name stands twice, all entries count.** -/
theorem lookup_of_mem {entries : List (α × β)} (h : (entries.map Prod.fst).Nodup) {name : α} {b : β}
    (hmem : (name, b) ∈ entries) : entries.lookup name = some b := by
  induction entries with
  | nil => exact absurd hmem List.not_mem_nil
  | cons x rest ih =>
    obtain ⟨first, old⟩ := x
    rw [List.map_cons, List.nodup_cons] at h
    rw [lookup_cons_eq]
    rcases List.mem_cons.1 hmem with heq | hrest
    · cases heq
      simp
    · have hne : name ≠ first := by
        rintro rfl
        exact h.1 (List.mem_map.2 ⟨(name, b), hrest, rfl⟩)
      rw [if_neg hne]
      exact ih h.2 hrest

end HistoryMetrics.Entries
