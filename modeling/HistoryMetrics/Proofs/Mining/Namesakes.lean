import HistoryMetrics.Mining.Record
import HistoryMetrics.Proofs.Metric.Values

/-! # Methods of one name in a record

    A record keeps the metrics of methods by name. The methods of a type may share names, as the
    accessors of a property do; then one entry stands for all of them, in the place of the first and
    with the metrics of the last. So of the methods of a type some are kept and the others are lost.

    - `lastNamed`, `overshadowed`: the methods that are kept and those that are lost
    - `methodEntries_perm`: the entries are those of the kept methods
    - `map_fst_methodEntries`: each name has its entry, in the order in which names are first used
    - `overshadowed_eq_nil_iff`: nothing is lost just when no name is used twice
-/

namespace HistoryMetrics

/-! ## Kept and lost -/

/-- **The methods whose names no later method has.** -/
def lastNamed : List Method → List Method
  | [] => []
  | m :: ms => if m.name ∈ ms.map Method.name then lastNamed ms else m :: lastNamed ms

/-- **The methods whose names a later method has.** -/
def overshadowed : List Method → List Method
  | [] => []
  | m :: ms => if m.name ∈ ms.map Method.name then m :: overshadowed ms else overshadowed ms

/-- Every method is kept or lost. -/
theorem lastNamed_append_overshadowed_perm (ms : List Method) :
    (lastNamed ms ++ overshadowed ms).Perm ms := by
  induction ms with
  | nil => exact .refl []
  | cons m ms ih =>
    by_cases hlater : m.name ∈ ms.map Method.name
    · simp only [lastNamed, overshadowed, if_pos hlater]
      exact List.perm_middle.trans (ih.cons m)
    · simp only [lastNamed, overshadowed, if_neg hlater]
      exact ih.cons m

/-- **Nothing is lost just when no name is used twice.** -/
theorem overshadowed_eq_nil_iff (ms : List Method) :
    overshadowed ms = [] ↔ (ms.map Method.name).Nodup := by
  induction ms with
  | nil => simp [overshadowed]
  | cons m ms ih =>
    rw [List.map_cons, List.nodup_cons, ← ih]
    by_cases hlater : m.name ∈ ms.map Method.name
    · simp [overshadowed, hlater]
    · simp [overshadowed, hlater]

section Bare

variable (ms : List Method)

theorem map_name_bare : (ms.map Method.bare).map Method.name = ms.map Method.name := by
  rw [List.map_map]
  rfl

theorem lastNamed_bare : lastNamed (ms.map Method.bare) = (lastNamed ms).map Method.bare := by
  induction ms with
  | nil => rfl
  | cons m ms ih =>
    have hname : m.bare.name = m.name := rfl
    simp only [List.map_cons, lastNamed, map_name_bare, hname, ih]
    split <;> rfl

theorem overshadowed_bare :
    overshadowed (ms.map Method.bare) = (overshadowed ms).map Method.bare := by
  induction ms with
  | nil => rfl
  | cons m ms ih =>
    have hname : m.bare.name = m.name := rfl
    simp only [List.map_cons, overshadowed, map_name_bare, hname, ih]
    split <;> rfl

end Bare

/-! ## Entries -/

section Entries

variable {α : Type}

/-- The names of entries after one was put in its place. -/
theorem map_fst_putEntry (name : String) (v : α) (es : List (String × α)) :
    (putEntry name v es).map Prod.fst =
      if name ∈ es.map Prod.fst then es.map Prod.fst else es.map Prod.fst ++ [name] := by
  induction es with
  | nil => rfl
  | cons e es ih =>
    by_cases hname : e.1 = name
    · simp [putEntry, hname]
    · have hne : ¬name = e.1 := Ne.symm hname
      simp only [putEntry, beq_iff_eq, hname, if_false, List.map_cons, ih, List.mem_cons, hne,
        false_or]
      split <;> rfl

theorem nodup_putEntry (name : String) (v : α) {es : List (String × α)}
    (h : (es.map Prod.fst).Nodup) : ((putEntry name v es).map Prod.fst).Nodup := by
  rw [map_fst_putEntry]
  split
  · exact h
  · next hfresh =>
    exact List.nodup_append.2 ⟨h, List.nodup_singleton name, fun a ha b hb heq =>
      hfresh (List.mem_singleton.1 hb ▸ heq ▸ ha)⟩

/-- An entry that is put among others takes the place of the one with its name. -/
theorem putEntry_perm (name : String) (v : α) {es : List (String × α)}
    (h : (es.map Prod.fst).Nodup) :
    (putEntry name v es).Perm ((name, v) :: es.filter fun e => e.1 != name) := by
  induction es with
  | nil => exact .refl _
  | cons e es ih =>
    obtain ⟨hfresh, hrest⟩ := List.nodup_cons.1 h
    by_cases hname : e.1 = name
    · -- no other entry has the name
      have hothers : (es.filter fun e => e.1 != name) = es := by
        refine List.filter_eq_self.2 fun e' he' => ?_
        have hne : e'.1 ≠ name := fun heq => hfresh (hname ▸ heq ▸ List.mem_map_of_mem he')
        simpa using hne
      simp [putEntry, hname, hothers]
    · simp only [putEntry, beq_iff_eq, hname, if_false, List.filter_cons, bne_iff_ne, ne_eq,
        not_false_eq_true, if_true]
      exact ((ih hrest).cons e).trans (List.Perm.swap _ _ _)

end Entries

/-- **The entry of a method.** -/
def Method.entry (m : Method) : String × Metrics := (m.name, m.metrics)

/-- Methods are put in one after the other: the last of each name stays, and so does what was there
    under other names. -/
theorem foldl_putEntry_perm (ms : List Method) {es : List (String × Metrics)}
    (h : (es.map Prod.fst).Nodup) :
    (ms.foldl (fun es m => putEntry m.name m.metrics es) es).Perm
      ((lastNamed ms).map Method.entry ++ es.filter fun e => e.1 ∉ ms.map Method.name) := by
  induction ms generalizing es with
  | nil => simp [lastNamed]
  | cons m ms ih =>
    have hput := (putEntry_perm m.name m.metrics h).filter fun e => e.1 ∉ ms.map Method.name
    have hothers : ((es.filter fun e => e.1 != m.name).filter fun e => e.1 ∉ ms.map Method.name) =
        es.filter fun e => e.1 ∉ (m :: ms).map Method.name := by
      rw [List.filter_filter]
      refine List.filter_congr fun e _ => ?_
      by_cases he : e.1 = m.name <;> simp [he]
    rw [List.foldl_cons]
    refine (ih (nodup_putEntry m.name m.metrics h)).trans ((hput.append_left _).trans ?_)
    rw [List.filter_cons, hothers]
    by_cases hlater : m.name ∈ ms.map Method.name
    · simp [lastNamed, hlater]
    · simp only [lastNamed, hlater, not_false_eq_true, decide_true, if_true, if_false, List.map_cons]
      exact List.perm_middle

/-- **The entries of a record are those of the methods that are kept.** -/
theorem methodEntries_perm (ms : List Method) :
    (methodEntries ms).Perm ((lastNamed ms).map Method.entry) := by
  have hnone : (([] : List (String × Metrics)).map Prod.fst).Nodup := List.nodup_nil
  simpa [methodEntries] using foldl_putEntry_perm ms hnone

theorem map_fst_foldl_putEntry (ms : List Method) {es : List (String × Metrics)}
    (h : (es.map Prod.fst).eraseDups = es.map Prod.fst) :
    (ms.foldl (fun es m => putEntry m.name m.metrics es) es).map Prod.fst =
      (es.map Prod.fst ++ ms.map Method.name).eraseDups := by
  induction ms generalizing es with
  | nil => rw [List.map_nil, List.append_nil, h]; rfl
  | cons m ms ih =>
    have hkeys := map_fst_putEntry m.name m.metrics es
    rw [List.foldl_cons, List.map_cons]
    by_cases hname : m.name ∈ es.map Prod.fst
    · -- a name that is there already does not count
      rw [if_pos hname] at hkeys
      rw [ih (by rwa [hkeys]), hkeys, List.eraseDups_append, List.eraseDups_append]
      simp [List.removeAll, hname]
    · rw [if_neg hname] at hkeys
      have herase : (es.map Prod.fst ++ [m.name]).eraseDups = es.map Prod.fst ++ [m.name] := by
        rw [List.eraseDups_append, h]
        simp [List.removeAll, hname, List.eraseDups_cons]
      rw [ih (by rw [hkeys, herase]), hkeys, List.append_assoc, List.singleton_append]

/-- **Each name has one entry**, in the order in which names are first used. -/
theorem map_fst_methodEntries (ms : List Method) :
    (methodEntries ms).map Prod.fst = (ms.map Method.name).eraseDups := by
  have hnone : (([] : List (String × Metrics)).map Prod.fst).eraseDups = [] := rfl
  simpa [methodEntries] using map_fst_foldl_putEntry ms hnone

end HistoryMetrics
