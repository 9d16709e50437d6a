import HistoryMetrics.Proofs.Action.Returns
import HistoryMetrics.Proofs.Lookup
import HistoryMetrics.Setting.Load

/-! # Settings over settings

    Settings that come later replace those before them. Only the sections of thresholds are merged when
    both are tables, limit by limit. In what comes later no name may stand twice: then what is found
    under a name depends only on what each of the two has under this name.

    - `combined`: what becomes of the two
    - `lookup_mergeLimits`: limits over limits
    - `lookup_merge`: settings over settings
    - `names_merge`: no other names come in
    - `Environment.lookup_settings`: what the environment gives
-/

namespace HistoryMetrics

namespace Setting

variable {settings new : Settings} {name other : String} {v : Value}

/-! ## One entry -/

theorem lookup_put (settings : Settings) (name other : String) (v : Value) :
    (put name v settings).lookup other = if other = name then some v else settings.lookup other := by
  induction settings with
  | nil => rw [put, Entries.lookup_cons_eq]
  | cons e rest ih =>
    obtain ⟨first, w⟩ := e
    rw [put]
    by_cases hfirst : first = name
    · subst hfirst
      rw [if_pos (beq_self_eq_true _), Entries.lookup_cons_eq, Entries.lookup_cons_eq]
      by_cases hother : other = first
      · rw [if_pos hother, if_pos hother]
      · rw [if_neg hother, if_neg hother, if_neg hother]
    · have hne : ¬ (first == name) = true := by simpa using hfirst
      rw [if_neg hne, Entries.lookup_cons_eq, Entries.lookup_cons_eq, ih]
      by_cases hother : other = first
      · have hname : other ≠ name := hother ▸ hfirst
        rw [if_pos hother, if_neg hname, if_pos hother]
      · rw [if_neg hother]
        exact if_congr Iff.rfl rfl (if_neg hother).symm

theorem mem_names_put : other ∈ (put name v settings).map Prod.fst ↔
    other = name ∨ other ∈ settings.map Prod.fst := by
  rw [← not_iff_not, not_or, ← Entries.lookup_eq_none_iff_names, ← Entries.lookup_eq_none_iff_names,
    lookup_put]
  by_cases hother : other = name
  · simp [hother]
  · simp [hother]

/-- **Limits over limits.** -/
theorem lookup_mergeLimits {limits : List (String × Value)} (hnew : (limits.map Prod.fst).Nodup)
    (old : List (String × Value)) (name : String) :
    (mergeLimits old limits).lookup name = (limits.lookup name).or (old.lookup name) := by
  unfold mergeLimits
  induction limits generalizing old with
  | nil => rfl
  | cons l rest ih =>
    obtain ⟨first, v⟩ := l
    rw [List.map_cons, List.nodup_cons] at hnew
    rw [List.foldl_cons, ih hnew.2, lookup_put, Entries.lookup_cons_eq]
    by_cases hname : name = first
    · -- the name does not occur again, so nothing replaces it
      have hrest : rest.lookup name = none := by
        rw [Entries.lookup_eq_none_iff_names, hname]
        exact hnew.1
      rw [hrest, if_pos hname, if_pos hname]
      rfl
    · rw [if_neg hname, if_neg hname]

/-! ## Settings over settings -/

/-- **What becomes of a setting that is given again.** -/
def combined (name : String) (v : Value) (old : Option Value) : Value :=
  match isSection name, v, old with
  | true, .table new, some (.table old) => .table (mergeLimits old new)
  | _, _, _ => v

theorem override_eq (settings : Settings) (name : String) (v : Value) :
    override settings name v = put name (combined name v (settings.lookup name)) settings := by
  unfold override combined
  cases isSection name with
  | false => rfl
  | true =>
    cases v with
    | table new =>
      cases settings.lookup name with
      | none => rfl
      | some old => cases old <;> rfl
    | _ => rfl

/-- **Settings over settings.** -/
theorem lookup_merge (hnew : (new.map Prod.fst).Nodup) (settings : Settings) (name : String) :
    (merge settings new).lookup name =
      match new.lookup name with
      | some v => some (combined name v (settings.lookup name))
      | none => settings.lookup name := by
  unfold merge
  induction new generalizing settings with
  | nil => rfl
  | cons e rest ih =>
    obtain ⟨first, v⟩ := e
    rw [List.map_cons, List.nodup_cons] at hnew
    rw [List.foldl_cons, ih hnew.2, override_eq, lookup_put, Entries.lookup_cons_eq]
    by_cases hname : name = first
    · subst hname
      have hrest : rest.lookup name = none := Entries.lookup_eq_none_iff_names.2 hnew.1
      simp only [hrest, if_true]
    · simp only [if_neg hname]

/-- **No other names come in.** -/
theorem names_merge : other ∈ (merge settings new).map Prod.fst ↔
    other ∈ new.map Prod.fst ∨ other ∈ settings.map Prod.fst := by
  unfold merge
  induction new generalizing settings with
  | nil => simp
  | cons e rest ih =>
    rw [List.foldl_cons, ih, override_eq, mem_names_put, List.map_cons, List.mem_cons]
    constructor
    · intro h
      rcases h with h | h | h
      · exact .inl (.inr h)
      · exact .inl (.inl h)
      · exact .inr h
    · intro h
      rcases h with (h | h) | h
      · exact .inr (.inl h)
      · exact .inl h
      · exact .inr (.inr h)

theorem combined_of_not_section (h : isSection name = false) (old : Option Value) :
    combined name v old = v := by
  unfold combined
  rw [h]

theorem combined_none (name : String) (v : Value) : combined name v none = v := by
  unfold combined
  split
  · next h => cases h
  · rfl

theorem combined_thresholds (name : String) (s : Smell) (limits : List (String × Value))
    (old : Option Value) : combined name (.thresholds s limits) old = .thresholds s limits := by
  unfold combined
  split
  · next h => cases h
  · rfl

/-- **A setting that is no section**: what comes later counts. -/
theorem lookup_merge_of_not_section (hnew : (new.map Prod.fst).Nodup) (h : isSection name = false)
    (settings : Settings) :
    (merge settings new).lookup name = (new.lookup name).or (settings.lookup name) := by
  rw [lookup_merge hnew]
  cases new.lookup name with
  | none => rfl
  | some v => exact congrArg some (combined_of_not_section h _)

/-! ## The caller -/

/-- What is said for a setting: nothing is as if it were not given. -/
def said : Option Value → Option Value
  | some .null => none
  | o => o

/-- **What the caller gives counts, unless it is nothing.** -/
theorem lookup_given {overrides : Settings} (hnames : (overrides.map Prod.fst).Nodup)
    (name : String) : (given overrides).lookup name = said (overrides.lookup name) := by
  unfold given
  induction overrides with
  | nil => rfl
  | cons e rest ih =>
    obtain ⟨first, v⟩ := e
    rw [List.map_cons, List.nodup_cons] at hnames
    rw [Entries.lookup_cons_eq]
    by_cases hname : name = first
    · have hrest : rest.lookup name = none := Entries.lookup_eq_none_iff_names.2 (hname ▸ hnames.1)
      cases v with
      | null =>
        rw [List.filter_cons_of_neg (by simp), ih hnames.2, hrest, if_pos hname]
        rfl
      | _ =>
        rw [List.filter_cons_of_pos rfl, Entries.lookup_cons_eq, if_pos hname, if_pos hname]
        rfl
    · cases v with
      | null => rw [List.filter_cons_of_neg (by simp), ih hnames.2, if_neg hname]
      | _ =>
        rw [List.filter_cons_of_pos rfl, Entries.lookup_cons_eq, if_neg hname, if_neg hname]
        exact ih hnames.2

theorem nodup_given {overrides : Settings} (hnames : (overrides.map Prod.fst).Nodup) :
    ((given overrides).map Prod.fst).Nodup :=
  (List.filter_sublist.map _).nodup hnames

end Setting

/-! ## The environment -/

namespace Environment

open HistoryMetrics.Action

variable {vars : Variables} {env : List (String × Value)}
  {known : List (String × (String → Except Fault Value))}

/-- **What the environment says for a setting**, if it has a variable. -/
def value? (vars : Variables) (name : String) : Option Value :=
  (readers.lookup name).bind fun reader =>
    (vars (variableOf name)).bind fun text => (reader text).toOption

/-- Reading takes one variable after the other. -/
theorem lookup_readAll (hnames : (known.map Prod.fst).Nodup) (h : readAll vars known = .ok env)
    (name : String) : env.lookup name = (known.lookup name).bind fun reader =>
      (vars (variableOf name)).bind fun text => (reader text).toOption := by
  induction known generalizing env with
  | nil =>
    cases h
    rfl
  | cons r rest ih =>
    obtain ⟨setting, reader⟩ := r
    rw [List.map_cons, List.nodup_cons] at hnames
    rw [readAll] at h
    rw [Entries.lookup_cons_eq]
    have hrest : name = setting → rest.lookup name = none := by
      intro hname
      rw [Entries.lookup_eq_none_iff_names, hname]
      exact hnames.1
    cases hvar : vars (variableOf setting) with
    | none =>
      simp only [hvar] at h
      rw [ih hnames.2 h]
      by_cases hname : name = setting
      · rw [hrest hname, if_pos hname, hname, Option.bind_some, hvar]
        rfl
      · rw [if_neg hname]
    | some text =>
      simp only [hvar] at h
      cases hread : reader text with
      | error e =>
        simp only [hread] at h
        cases h
      | ok v =>
        simp only [hread] at h
        obtain ⟨vs, hvs, rfl⟩ := except_map_ok_iff.1 h
        rw [Entries.lookup_cons_eq]
        by_cases hname : name = setting
        · simp only [hname, hvar, hread, if_true, Option.bind_some]
          rfl
        · rw [if_neg hname, if_neg hname, ih hnames.2 hvs]

theorem names_readAll (h : readAll vars known = .ok env) :
    (env.map Prod.fst).Sublist (known.map Prod.fst) := by
  induction known generalizing env with
  | nil =>
    cases h
    exact .slnil
  | cons r rest ih =>
    obtain ⟨setting, reader⟩ := r
    rw [readAll] at h
    cases hvar : vars (variableOf setting) with
    | none =>
      simp only [hvar] at h
      exact (ih h).cons _
    | some text =>
      simp only [hvar] at h
      cases hread : reader text with
      | error e =>
        simp only [hread] at h
        cases h
      | ok v =>
        simp only [hread] at h
        obtain ⟨vs, hvs, rfl⟩ := except_map_ok_iff.1 h
        exact (ih hvs).cons_cons _

/-- When each variable that is set can be read, all of them are. -/
theorem exists_readAll (h : ∀ r ∈ known, ∀ text, vars (variableOf r.1) = some text →
    ∃ v, r.2 text = .ok v) : ∃ env, readAll vars known = .ok env := by
  induction known with
  | nil => exact ⟨[], rfl⟩
  | cons r rest ih =>
    obtain ⟨hr, hrest⟩ := List.forall_mem_cons.1 h
    obtain ⟨env, henv⟩ := ih hrest
    obtain ⟨setting, reader⟩ := r
    rw [readAll]
    cases hvar : vars (variableOf setting) with
    | none => exact ⟨env, henv⟩
    | some text =>
      obtain ⟨v, hv⟩ := hr text hvar
      simp only at hv
      simp only [hv, henv]
      exact ⟨_, rfl⟩

theorem nodup_readers : (readers.map Prod.fst).Nodup := by decide

/-- **What the environment gives.** -/
theorem lookup_settings (h : settings vars = .ok env) (name : String) :
    env.lookup name = value? vars name :=
  lookup_readAll nodup_readers h name

end Environment

end HistoryMetrics
