import HistoryMetrics.Metric.Registry

/-! # What targets lead to

    A registry leads from a plug-in to what it requires. The closure of some targets is found with a
    list of wishes: a wish is a target, or something that a plug-in found before requires. Either all
    wishes are fulfilled and nothing is missing, or the first wish that cannot be fulfilled is
    complained about.

    - `Registry.Reaches`: the ids that targets lead to
    - `ClosureInv`: the plug-ins found and the wishes together cover all of them
    - `Registry.Complaint`: an unknown metric that targets lead to, and who requires it
    - `closure_spec`: the closure, or a complaint
-/

namespace HistoryMetrics

namespace Registry

/-- **The ids that targets lead to.** Only registered plug-ins lead any further. -/
inductive Reaches (r : Registry) (targets : List String) : String → Prop where
  | target {id : String} : id ∈ targets → Reaches r targets id
  | required {p : Plugin} {id : String} : Reaches r targets p.id → r.get? p.id = some p →
      id ∈ p.requires → Reaches r targets id

theorem id_of_get? {r : Registry} {id : String} {p : Plugin} (h : r.get? id = some p) :
    p.id = id := by
  simpa using List.find?_some h

/-- A plug-in that is found under some id is found under its own. -/
theorem get?_id {r : Registry} {id : String} {p : Plugin} (h : r.get? id = some p) :
    r.get? p.id = some p := by
  rwa [id_of_get? h]

theorem mem_of_get? {r : Registry} {id : String} {p : Plugin} (h : r.get? id = some p) :
    p ∈ r.plugins :=
  List.mem_of_find?_eq_some h

end Registry

theorem holdsId_iff {ps : List Plugin} {id : String} :
    holdsId ps id = true ↔ ∃ p ∈ ps, p.id = id := by
  simp [holdsId]

section Closure

variable (r : Registry) (targets : List String)

/-! ## Wishes -/

/-- **Where a wish comes from**: it is a target, or a plug-in that targets lead to requires it. -/
def Registry.Wished (w : Wish) : Prop :=
  (w.requiredBy = none ∧ w.id ∈ targets) ∨
    ∃ q, w.requiredBy = some q.id ∧ r.Reaches targets q.id ∧ r.get? q.id = some q ∧
      w.id ∈ q.requires

/-- **A complaint about an unknown metric**: targets lead to it, and the metric that it names as the
    one in need requires it. None is named for a target, and none that has an empty id. -/
def Registry.Complaint (e : Problem) : Prop :=
  ∃ id requiredBy, e = .unknownMetric id requiredBy ∧ r.Reaches targets id ∧ r.get? id = none ∧
    ((requiredBy = none ∧ id ∈ targets) ∨
      ∃ q, r.Reaches targets q.id ∧ r.get? q.id = some q ∧ id ∈ q.requires ∧
        requiredBy = if q.id.isEmpty then none else some q.id)

/-- **The invariant of the closure**, for the plug-ins found so far and the wishes that are left.

    - `nodup`: no plug-in was found twice
    - `sound`: targets lead to all that was found
    - `wished`: every wish comes from a target or from a plug-in
    - `targets_covered`, `requires_covered`: what was not found yet is wished for
-/
structure ClosureInv (found : List Plugin) (wishes : List Wish) : Prop where
  nodup : (found.map Plugin.id).Nodup
  sound : ∀ p ∈ found, r.Reaches targets p.id ∧ r.get? p.id = some p
  wished : ∀ w ∈ wishes, r.Wished targets w
  targets_covered : ∀ id ∈ targets, holdsId found id = true ∨ id ∈ wishes.map Wish.id
  requires_covered : ∀ p ∈ found, ∀ id ∈ p.requires,
    holdsId found id = true ∨ id ∈ wishes.map Wish.id

variable {r targets}

theorem Registry.Wished.reaches {w : Wish} (h : r.Wished targets w) : r.Reaches targets w.id := by
  rcases h with ⟨_, htarget⟩ | ⟨q, _, hq, hget, hreq⟩
  · exact .target htarget
  · exact .required hq hget hreq

theorem ClosureInv.start : ClosureInv r targets [] (targets.map fun t => ⟨t, none⟩).reverse where
  nodup := List.nodup_nil
  sound := by simp
  wished := by
    intro w hw
    simp only [List.mem_reverse, List.mem_map] at hw
    obtain ⟨t, ht, rfl⟩ := hw
    exact .inl ⟨rfl, ht⟩
  targets_covered := by
    intro id hid
    right
    simp [Function.comp_def, hid]
  requires_covered := by simp

/-- A wish that is fulfilled already can be dropped. -/
theorem ClosureInv.skip {found : List Plugin} {w : Wish} {ws : List Wish}
    (h : ClosureInv r targets found (w :: ws)) (hw : holdsId found w.id = true) :
    ClosureInv r targets found ws := by
  -- what was covered by the wish is covered by the plug-in that fulfils it
  have hcovered : ∀ id, holdsId found id = true ∨ id ∈ (w :: ws).map Wish.id →
      holdsId found id = true ∨ id ∈ ws.map Wish.id := by
    rintro id (hfound | hwish)
    · exact .inl hfound
    · rcases List.mem_cons.1 hwish with rfl | hwish
      · exact .inl hw
      · exact .inr hwish
  refine ⟨h.nodup, h.sound, ?wished, ?targets, ?requires⟩
  case wished => exact fun w' hw' => h.wished w' (List.mem_cons_of_mem _ hw')
  case targets => exact fun id hid => hcovered id (h.targets_covered id hid)
  case requires => exact fun p hp id hid => hcovered id (h.requires_covered p hp id hid)

/-- A wish is fulfilled by a plug-in, which brings its own wishes. -/
theorem ClosureInv.find {found : List Plugin} {w : Wish} {ws : List Wish} {p : Plugin}
    (h : ClosureInv r targets found (w :: ws)) (hw : ¬holdsId found w.id = true)
    (hp : r.get? w.id = some p) : ClosureInv r targets (found ++ [p]) (p.wishes ++ ws) := by
  have hid : p.id = w.id := Registry.id_of_get? hp
  have hreaches : r.Reaches targets p.id := by
    rw [hid]
    exact (h.wished w List.mem_cons_self).reaches
  -- the wish goes, and the plug-in comes in its place
  have hcovered : ∀ id, holdsId found id = true ∨ id ∈ (w :: ws).map Wish.id →
      holdsId (found ++ [p]) id = true ∨ id ∈ (p.wishes ++ ws).map Wish.id := by
    rintro id (hfound | hwish)
    · obtain ⟨q, hq, hqid⟩ := holdsId_iff.1 hfound
      exact .inl (holdsId_iff.2 ⟨q, List.mem_append_left _ hq, hqid⟩)
    · rcases List.mem_cons.1 hwish with rfl | hwish
      · exact .inl (holdsId_iff.2 ⟨p, by simp, hid⟩)
      · right
        rw [List.map_append]
        exact List.mem_append_right _ hwish
  refine ⟨?nodup, ?sound, ?wished, ?targets, ?requires⟩
  case nodup =>
    rw [List.map_append, List.nodup_append]
    refine ⟨h.nodup, by simp, ?_⟩
    rintro a ha b hb rfl
    obtain ⟨q, hq, rfl⟩ := List.mem_map.1 ha
    have hqid : q.id = w.id := by
      rw [← hid]
      simpa using hb
    exact hw (holdsId_iff.2 ⟨q, hq, hqid⟩)
  case sound =>
    intro q hq
    rcases List.mem_append.1 hq with hq | hq
    · exact h.sound q hq
    · rw [List.mem_singleton.1 hq]
      exact ⟨hreaches, Registry.get?_id hp⟩
  case wished =>
    intro w' hw'
    rcases List.mem_append.1 hw' with hw' | hw'
    · simp only [Plugin.wishes, List.mem_reverse, List.mem_map] at hw'
      obtain ⟨id, hreq, rfl⟩ := hw'
      exact .inr ⟨p, rfl, hreaches, Registry.get?_id hp, hreq⟩
    · exact h.wished w' (List.mem_cons_of_mem _ hw')
  case targets => exact fun id hid => hcovered id (h.targets_covered id hid)
  case requires =>
    intro q hq id hreq
    rcases List.mem_append.1 hq with hq | hq
    · exact hcovered id (h.requires_covered q hq id hreq)
    · -- what the new plug-in requires is wished for now
      right
      rw [List.mem_singleton.1 hq] at hreq
      simp [Plugin.wishes, Function.comp_def, hreq]

/-- A wish that cannot be fulfilled is complained about. -/
theorem ClosureInv.complaint {found : List Plugin} {w : Wish} {ws : List Wish}
    (h : ClosureInv r targets found (w :: ws)) (hw : r.get? w.id = none) :
    r.Complaint targets (.unknownMetric w.id w.complainant) := by
  have hwished := h.wished w List.mem_cons_self
  refine ⟨w.id, w.complainant, rfl, hwished.reaches, hw, ?_⟩
  rcases hwished with ⟨hnone, htarget⟩ | ⟨q, hsome, hq, hget, hreq⟩
  · refine .inl ⟨?_, htarget⟩
    rw [Wish.complainant, hnone]
    rfl
  · refine .inr ⟨q, hq, hget, hreq, ?_⟩
    rw [Wish.complainant, hsome, Option.filter_some]
    by_cases hempty : q.id.isEmpty = true <;> simp [hempty]

/-! ## The closure -/

/-- The invariant holds all along the search, which follows the wishes. -/
theorem closureFrom_spec (found : List Plugin) (wishes : List Wish)
    (h : ClosureInv r targets found wishes) :
    (∃ ps, r.closureFrom found wishes = .ok ps ∧ ClosureInv r targets ps []) ∨
      ∃ e, r.closureFrom found wishes = .error e ∧ r.Complaint targets e := by
  fun_induction Registry.closureFrom r found wishes with
  | case1 found => exact .inl ⟨found, rfl, h⟩
  | case2 found w ws hw ih => exact ih (h.skip hw)
  | case3 found w ws hw hnone => exact .inr ⟨_, rfl, h.complaint hnone⟩
  | case4 found w ws hw p hp ih => exact ih (h.find hw hp)

/-- **The closure of targets**, or a complaint about an unknown metric. -/
theorem closure_spec (r : Registry) (targets : List String) :
    (∃ ps, r.closure targets = .ok ps ∧ ClosureInv r targets ps []) ∨
      ∃ e, r.closure targets = .error e ∧ r.Complaint targets e :=
  closureFrom_spec [] _ .start

/-- When no wish is left, all that targets lead to has been found. -/
theorem ClosureInv.holdsId_of_reaches {ps : List Plugin} (h : ClosureInv r targets ps []) {id : String}
    (hid : r.Reaches targets id) : holdsId ps id = true := by
  induction hid with
  | target htarget => exact (h.targets_covered _ htarget).resolve_right (by simp)
  | @required p id _ hget hreq ih =>
    obtain ⟨q, hq, hqid⟩ := holdsId_iff.1 ih
    have hqp : q = p := by
      have hq' := (h.sound q hq).2
      rw [hqid, hget] at hq'
      exact (Option.some.inj hq').symm
    rw [hqp] at hq
    exact (h.requires_covered p hq id hreq).resolve_right (by simp)

/-- **The closure holds the plug-ins that targets lead to**, and no others. -/
theorem ClosureInv.mem_iff {ps : List Plugin} (h : ClosureInv r targets ps []) (p : Plugin) :
    p ∈ ps ↔ r.Reaches targets p.id ∧ r.get? p.id = some p := by
  constructor
  · exact h.sound p
  · rintro ⟨hreaches, hget⟩
    obtain ⟨q, hq, hqid⟩ := holdsId_iff.1 (h.holdsId_of_reaches hreaches)
    have hq' := (h.sound q hq).2
    rw [hqid, hget] at hq'
    rwa [Option.some.inj hq']

/-- With a closure, nothing that targets lead to is unknown. -/
theorem ClosureInv.get?_of_reaches {ps : List Plugin} (h : ClosureInv r targets ps []) {id : String}
    (hid : r.Reaches targets id) : ∃ p ∈ ps, p.id = id ∧ r.get? id = some p := by
  obtain ⟨q, hq, rfl⟩ := holdsId_iff.1 (h.holdsId_of_reaches hid)
  exact ⟨q, hq, rfl, (h.sound q hq).2⟩

end Closure

end HistoryMetrics
