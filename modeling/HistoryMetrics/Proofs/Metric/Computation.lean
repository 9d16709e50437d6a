import HistoryMetrics.Proofs.Metric.Builtins
import HistoryMetrics.Proofs.Metric.Resolution
import HistoryMetrics.Proofs.Mining.Passes

/-! # Computing metrics

    Plug-ins speak to each other through stored values: one reads what another has stored. They are
    run in an order in which each comes after all that it requires, so each finds values that hold.
    By induction on the order all its metrics hold in the end, whatever was stored before.

    - `Spares`: what a pass leaves alone
    - `Engine.runAll_holds`: what holds after a run of plug-ins
    - `Registry.IsBuiltIn`: registries of built-in plug-ins, which have an order for all their targets
    - `compute_refreshes`: a pass of an engine of built-in plug-ins
-/

namespace HistoryMetrics

open HistoryMetrics.Action
open Relation

/-! ## Runs of plug-ins -/

/-- **All is left alone but the values of some metrics.** -/
def Spares (ids : List String) (a b : Analysis) : Prop :=
  b.outline.without ids = a.outline.without ids

instance (ids : List String) : Std.Refl (Spares ids) := ⟨fun _ => rfl⟩

instance (ids : List String) : IsTrans Analysis (Spares ids) := ⟨fun _ _ _ hab hbc => hbc.trans hab⟩

theorem spares_logged (ids : List String) (a : Analysis) (r : LogRecord) :
    Spares ids a (a.logged r) := rfl

theorem Plugin.Refreshes.moves_spares {p : Plugin} (h : p.Refreshes) {ids : List String}
    (hid : p.id ∈ ids) : Moves (Spares ids) p.calculate :=
  fun a => h.keeps ids a hid

namespace Engine

/-- **A run along a right order**: some metrics hold before, and every plug-in comes after those that
    make hold what it requires besides. Then the metrics of all plug-ins hold in the end. -/
theorem runAll_holds {plan : List Plugin} (h : ∀ p ∈ plan, p.Refreshes) {done : List String}
    {a : Analysis} (hdone : a.outline.Holds done)
    (hfirst : ∀ before p after, plan = before ++ p :: after →
      ∀ req ∈ p.requires, req ∈ done ∨ req ∈ before.map Plugin.id) :
    ∃ b, runAll plan a = (.ok (), b) ∧ b.outline.Holds (done ++ plan.map Plugin.id) := by
  induction plan generalizing done a with
  | nil => exact ⟨a, rfl, by simpa using hdone⟩
  | cons p ps ih =>
    -- the first plug-in finds what it requires among the metrics that hold already
    have hready : ∀ req ∈ p.requires, req ∈ done := fun req hreq =>
      (hfirst [] p ps rfl req hreq).resolve_right List.not_mem_nil
    obtain ⟨b, hb, hholds⟩ := (h p List.mem_cons_self).ends done a hdone hready
    have hrest : ∀ before q after, ps = before ++ q :: after →
        ∀ req ∈ q.requires, req ∈ p.id :: done ∨ req ∈ before.map Plugin.id := by
      rintro before q after rfl req hreq
      rcases hfirst (p :: before) q after rfl req hreq with hmem | hmem
      · exact .inl (List.mem_cons_of_mem _ hmem)
      · rcases List.mem_cons.1 hmem with rfl | hmem
        · exact .inl List.mem_cons_self
        · exact .inr hmem
    obtain ⟨c, hc, hall⟩ := ih (fun q hq => h q (List.mem_cons_of_mem p hq)) hholds hrest
    refine ⟨c, by simp only [runAll, runPlugin, hb, hc], hall.mono fun id hid => ?_⟩
    simp only [List.mem_append, List.map_cons, List.mem_cons] at hid ⊢
    tauto

/-- **A pass along an order of its targets**: it returns the metrics of the order, they hold after
    it, and all else is left alone. -/
theorem compute_of_orders {e : Engine} {targets : Option (List String)} {ts : List String}
    {order : List Plugin} (hplan : e.plan targets = .ok order) (horder : e.registry.Orders ts order)
    (h : ∀ p ∈ order, p.Refreshes) (a : Analysis) :
    ∃ b, e.compute targets a = (.ok (order.map Plugin.id), b) ∧
      b.outline.Holds (order.map Plugin.id) ∧ Spares (order.map Plugin.id) a b := by
  obtain ⟨b, hrun, hholds⟩ := runAll_holds h (a := a) (SourceOutline.holds_nil _)
    fun before p after heq req hreq => .inr (horder.first before p after heq req hreq)
  have hcompute : e.compute targets a =
      (.ok (order.map Plugin.id), b.logged (record order.length b.outline.path)) := by
    simp only [compute, hplan, hrun]
  have hspares : Moves (Spares (order.map Plugin.id)) (e.compute targets) := by
    refine moves_compute (spares_logged _) fun plan hplan' p hp => ?_
    rw [hplan] at hplan'
    cases hplan'
    exact (h p hp).moves_spares (List.mem_map_of_mem hp)
  exact ⟨_, hcompute, hholds, hspares.of_eq hcompute⟩

theorem registry_of_make {r : Registry} {e : Engine} (h : make r = .ok e) : e.registry = r := by
  unfold make at h
  cases hr : r.resolve none <;> rw [hr] at h <;> cases h
  rfl

/-- The plan of an engine is what its registry gives, with targets or without. -/
theorem plan_of_make {r : Registry} {e : Engine} (h : make r = .ok e)
    (targets : Option (List String)) : e.plan targets = r.resolve targets := by
  cases targets with
  | some ts => rw [plan, registry_of_make h]
  | none =>
    unfold make at h
    cases hr : r.resolve none <;> rw [hr] at h <;> cases h
    rfl

end Engine

/-! ## Registries of built-in plug-ins -/

/-- **The rank of a built-in metric**: above those of all that it requires. -/
def builtinRank (id : String) : Nat := if id = "AMW" then 2 else if id = "WMC" then 1 else 0

theorem builtinRank_lt_of_requires :
    ∀ p ∈ Plugin.builtins, ∀ req ∈ p.requires, builtinRank req < builtinRank p.id := by
  decide

namespace Registry

/-- **A registry of built-in plug-ins**, with all that they require. -/
structure IsBuiltIn (r : Registry) : Prop where
  builtin : ∀ p ∈ r.plugins, p ∈ Plugin.builtins
  closed : ∀ p ∈ r.plugins, ∀ req ∈ p.requires, req ∈ r.ids

theorem get?_eq_none_iff (r : Registry) (id : String) : r.get? id = none ↔ id ∉ r.ids := by
  simp [get?, ids]

/-- Registering plug-ins succeeds just when no id is taken twice. -/
theorem registerAll_eq_ok_iff {r r' : Registry} {ps : List Plugin} (hr : r.ids.Nodup) :
    r.registerAll ps = .ok r' ↔
      ((r.plugins ++ ps).map Plugin.id).Nodup ∧ r' = ⟨r.plugins ++ ps⟩ := by
  induction ps generalizing r with
  | nil =>
    rw [List.append_nil, registerAll, Except.ok.injEq]
    exact ⟨fun h => ⟨hr, h.symm⟩, fun h => h.2.symm⟩
  | cons p ps ih =>
    by_cases hp : r.has p.id = true
    · -- the id is taken already
      obtain ⟨q, hq, hid⟩ := List.any_eq_true.1 hp
      have htwice : ¬((r.plugins ++ p :: ps).map Plugin.id).Nodup := by
        rw [List.map_append, List.map_cons, List.nodup_append]
        rintro ⟨-, -, hdisjoint⟩
        exact hdisjoint q.id (List.mem_map_of_mem hq) p.id List.mem_cons_self (by simpa using hid)
      simp only [registerAll, register, hp, if_true]
      exact ⟨nofun, fun h => absurd h.1 htwice⟩
    · have hfree : p.id ∉ r.ids := by
        simpa [has, ids] using hp
      have hnext : (Registry.mk (r.plugins ++ [p])).ids.Nodup := by
        rw [ids, List.map_append, List.map_singleton, List.nodup_append]
        refine ⟨hr, List.nodup_singleton _, fun a ha b hb heq => hfree ?_⟩
        rwa [← List.mem_singleton.1 hb, ← heq]
      simp only [registerAll, register, hp, Bool.false_eq_true, if_false]
      rw [ih hnext, List.append_assoc, List.singleton_append]

/-- The registry of some plug-ins, no two of which have one id. -/
theorem registerAll_empty_eq_ok_iff {r : Registry} {ps : List Plugin} :
    empty.registerAll ps = .ok r ↔ (ps.map Plugin.id).Nodup ∧ r = ⟨ps⟩ :=
  registerAll_eq_ok_iff List.nodup_nil

/-- Plug-ins without a common id are found in any order of registration. -/
theorem get?_perm {ps ps' : List Plugin} (hps : (ps.map Plugin.id).Nodup) (h : ps'.Perm ps)
    (id : String) : (Registry.mk ps').get? id = (Registry.mk ps).get? id := by
  cases hfound : (Registry.mk ps').get? id with
  | none =>
    rw [get?_eq_none_iff] at hfound
    exact ((get?_eq_none_iff _ id).2 fun hid => hfound ((h.map Plugin.id).mem_iff.2 hid)).symm
  | some p =>
    have hp : p ∈ ps := h.mem_iff.1 (mem_of_get? hfound)
    rw [← id_of_get? hfound]
    exact (findPlugin?_id hps hp).symm

theorem Reaches.mono {r r' : Registry} {ts ts' : List String} (hget : ∀ id, r.get? id = r'.get? id)
    (hts : ∀ t ∈ ts, t ∈ ts') {id : String} (h : r.Reaches ts id) : r'.Reaches ts' id := by
  induction h with
  | target ht => exact .target (hts _ ht)
  | required _ hfound hreq ih => exact .required ih (by rwa [← hget]) hreq

theorem mem_ids_perm {ps ps' : List Plugin} (h : ps'.Perm ps) (id : String) :
    id ∈ (Registry.mk ps').ids ↔ id ∈ (Registry.mk ps).ids :=
  (h.map Plugin.id).mem_iff

/-- Targets are the same in any order of registration, also when they are all that is registered. -/
theorem mem_getD_ids_perm {ps ps' : List Plugin} (h : ps'.Perm ps) (targets : Option (List String))
    (t : String) :
    t ∈ targets.getD (Registry.mk ps').ids ↔ t ∈ targets.getD (Registry.mk ps).ids := by
  cases targets with
  | none => exact mem_ids_perm h t
  | some ts => exact Iff.rfl

/-- **What targets lead to does not depend on the order of registration.** -/
theorem reaches_perm_iff {ps ps' : List Plugin} (hps : (ps.map Plugin.id).Nodup) (h : ps'.Perm ps)
    (targets : Option (List String)) (id : String) :
    (Registry.mk ps').Reaches (targets.getD (Registry.mk ps').ids) id ↔
      (Registry.mk ps).Reaches (targets.getD (Registry.mk ps).ids) id := by
  have hget := get?_perm hps h
  have hts := mem_getD_ids_perm h targets
  exact ⟨.mono hget fun t => (hts t).1, .mono (fun id => (hget id).symm) fun t => (hts t).2⟩

namespace IsBuiltIn

variable {r : Registry} (hr : r.IsBuiltIn) {ts : List String}

include hr

theorem perm {ps' : List Plugin} (h : ps'.Perm r.plugins) : (Registry.mk ps').IsBuiltIn where
  builtin p hp := hr.builtin p (h.mem_iff.1 hp)
  closed p hp req hreq := (mem_ids_perm h req).2 (hr.closed p (h.mem_iff.1 hp) req hreq)

theorem mem_ids_of_reaches (hts : ∀ t ∈ ts, t ∈ r.ids) {id : String} (h : r.Reaches ts id) :
    id ∈ r.ids := by
  cases h with
  | target ht => exact hts _ ht
  | required _ hfound hreq => exact hr.closed _ (mem_of_get? hfound) _ hreq

/-- What leads from a metric to another leads down in rank. -/
theorem not_isCyclicFrom : ¬r.IsCyclicFrom ts := by
  rintro ⟨id, hcycle⟩
  have hdown : ∀ {a b}, TransGen (r.Needs ts) a b → builtinRank b < builtinRank a := by
    intro a b h
    induction h with
    | single hneeds =>
      obtain ⟨-, p, hfound, hreq⟩ := hneeds
      rw [← id_of_get? hfound]
      exact builtinRank_lt_of_requires p (hr.builtin p (mem_of_get? hfound)) _ hreq
    | tail _ hneeds ih =>
      obtain ⟨-, p, hfound, hreq⟩ := hneeds
      rw [← id_of_get? hfound] at ih
      exact (builtinRank_lt_of_requires p (hr.builtin p (mem_of_get? hfound)) _ hreq).trans ih
  exact Nat.lt_irrefl _ (hdown hcycle)

theorem not_isIncomplete (hts : ∀ t ∈ ts, t ∈ r.ids) : ¬r.IsIncomplete ts := by
  rintro ⟨id, hreaches, hnone⟩
  exact (get?_eq_none_iff r id).1 hnone (hr.mem_ids_of_reaches hts hreaches)

/-- **Registered targets have an order**, and its metrics are those that they lead to. -/
theorem resolve_ok {targets : Option (List String)} (hts : ∀ t ∈ targets.getD r.ids, t ∈ r.ids) :
    ∃ order, r.resolve targets = .ok order ∧ r.Orders (targets.getD r.ids) order ∧
      (∀ p ∈ order, p.Refreshes) ∧
      ∀ id, id ∈ order.map Plugin.id ↔ r.Reaches (targets.getD r.ids) id := by
  rcases resolve_cases r targets with
    ⟨hunknown, -⟩ | ⟨-, hcyclic, -⟩ | ⟨-, -, order, hresolve, horder⟩
  · exact absurd hunknown (hr.not_isIncomplete hts)
  · exact absurd hcyclic hr.not_isCyclicFrom
  · refine ⟨order, hresolve, horder, fun p hp => ?_, fun id => ?_⟩
    · exact Plugin.refreshes_builtins p (hr.builtin p (mem_of_resolve_ok hresolve hp))
    · constructor
      · intro hid
        obtain ⟨p, hp, rfl⟩ := List.mem_map.1 hid
        exact ((horder.mem_iff p).1 hp).1
      · intro hreaches
        obtain ⟨p, hp, rfl⟩ := List.mem_map.1 (hr.mem_ids_of_reaches hts hreaches)
        cases hfound : r.get? p.id with
        | none => exact absurd (List.mem_map_of_mem hp) ((get?_eq_none_iff r _).1 hfound)
        | some q =>
          rw [← id_of_get? hfound] at hreaches ⊢
          exact List.mem_map_of_mem ((horder.mem_iff q).2 ⟨hreaches, get?_id hfound⟩)

theorem make_ok : ∃ e, Engine.make r = .ok e := by
  have hids : ∀ t ∈ Option.getD none r.ids, t ∈ r.ids := fun t ht => ht
  obtain ⟨order, hresolve, -⟩ := hr.resolve_ok hids
  exact ⟨⟨r, order⟩, by rw [Engine.make, hresolve]⟩

end IsBuiltIn

end Registry

/-! ## Passes of an engine -/

namespace Engine

variable {r : Registry} (hr : r.IsBuiltIn) {e : Engine} (he : make r = .ok e)
  {targets : Option (List String)}

include he

/-- **A target that is not registered is complained about before anything is computed.** -/
theorem compute_of_unregistered (h : ∃ t ∈ targets.getD r.ids, t ∉ r.ids) :
    ∃ p, ∀ a, e.compute targets a = (.error (.problem p), a) := by
  obtain ⟨t, ht, hunregistered⟩ := h
  have hunknown : r.IsIncomplete (targets.getD r.ids) :=
    ⟨t, .target ht, (r.get?_eq_none_iff t).2 hunregistered⟩
  obtain ⟨p, hresolve⟩ := (resolve_error_iff r targets).2 (.inl hunknown)
  exact ⟨p, fun a => by simp only [compute, plan_of_make he, hresolve]⟩

include hr

/-- **The metrics that registered targets lead to hold after a pass**, and all else is left alone. -/
theorem compute_holds (hts : ∀ t ∈ targets.getD r.ids, t ∈ r.ids) :
    ∃ ids, (∀ id, id ∈ ids ↔ r.Reaches (targets.getD r.ids) id) ∧
      ∀ a, ∃ b, e.compute targets a = (.ok ids, b) ∧ b.outline.Holds ids ∧ Spares ids a b := by
  obtain ⟨order, hresolve, horder, hrefreshes, hids⟩ := hr.resolve_ok hts
  refine ⟨order.map Plugin.id, hids, fun a => ?_⟩
  rw [← plan_of_make he] at hresolve
  rw [← registry_of_make he] at horder
  exact compute_of_orders hresolve horder hrefreshes a

end Engine

/-- The values that hold do not depend on the order of their metrics. -/
theorem SourceOutline.sameValues_of_spares {ids ids' : List String} (hids : ∀ id, id ∈ ids ↔ id ∈ ids')
    {a b b' : Analysis} (hb : b.outline.Holds ids) (hspares : Spares ids a b)
    (hb' : b'.outline.Holds ids') (hspares' : Spares ids' a b') :
    b.outline.SameValues b'.outline := by
  have hsame : ∀ o : SourceOutline, o.without ids' = o.without ids :=
    without_congr fun id => (hids id).symm
  refine sameValues_of_holds hb (hb'.mono fun id hid => (hids id).1 hid) ?_
  rw [hspares, ← hsame b'.outline, hspares', hsame]

/-- **Metric values depend on the structure only.** Some of the built-in plug-ins are registered, in
    any order, with all that they require. Then a pass for registered targets makes hold the metrics
    that they lead to, and leaves alone all else. -/
theorem compute_refreshes {ps : List Plugin} {r : Registry}
    (hbuiltin : ∀ p ∈ ps, p ∈ Plugin.builtins)
    (hclosed : ∀ p ∈ ps, ∀ req ∈ p.requires, req ∈ ps.map Plugin.id)
    (hregister : Registry.empty.registerAll ps = .ok r) :
    -- every metric has a value on each type or on each method, as its scope says
    (∀ p ∈ ps, isTypeMetric p.id = (p.scope == .type) ∧
      isMethodMetric p.id = (p.scope == .method)) ∧
    ∃ e, Engine.make r = .ok e ∧ ∀ targets : Option (List String),
      ((∃ t ∈ targets.getD r.ids, t ∉ r.ids) →
        ∃ p, ∀ a, e.compute targets a = (.error (.problem p), a)) ∧
      ((∀ t ∈ targets.getD r.ids, t ∈ r.ids) →
        (∃ ids, (∀ id, id ∈ ids ↔ r.Reaches (targets.getD r.ids) id) ∧
          (∀ a, ∃ b, e.compute targets a = (.ok ids, b) ∧ b.outline.Holds ids ∧
            b.outline.without ids = a.outline.without ids) ∧
          -- whatever is stored before
          ∀ a a', a.outline.bare = a'.outline.bare →
            (e.compute targets a).2.outline.SameValuesFor ids (e.compute targets a').2.outline) ∧
        -- computing once more
        (∀ a, (e.compute targets (e.compute targets a).2).2.outline.SameValues
          (e.compute targets a).2.outline) ∧
        -- another order of registration
        ∀ ps', ps'.Perm ps → ∃ r' e', Registry.empty.registerAll ps' = .ok r' ∧
          Engine.make r' = .ok e' ∧ ∀ a,
            (e'.compute targets a).2.outline.SameValues (e.compute targets a).2.outline) := by
  obtain ⟨hnodup, rfl⟩ := Registry.registerAll_empty_eq_ok_iff.1 hregister
  have hr : (Registry.mk ps).IsBuiltIn := ⟨hbuiltin, hclosed⟩
  obtain ⟨e, he⟩ := hr.make_ok
  refine ⟨fun p hp => Plugin.scope_builtins p (hbuiltin p hp), e, he, fun targets =>
    ⟨Engine.compute_of_unregistered he, fun hts => ?_⟩⟩
  obtain ⟨ids, hids, hcompute⟩ := Engine.compute_holds hr he hts
  refine ⟨⟨ids, hids, hcompute, fun a a' hbare => ?stale⟩, fun a => ?again, fun ps' hperm => ?order⟩
  case stale =>
    obtain ⟨b, hb, hholds, hspares⟩ := hcompute a
    obtain ⟨b', hb', hholds', hspares'⟩ := hcompute a'
    rw [hb, hb']
    refine SourceOutline.sameValuesFor_of_holds hholds hholds' ?_
    rw [SourceOutline.bare_eq_of_without_eq hspares, hbare,
      SourceOutline.bare_eq_of_without_eq hspares']
  case again =>
    obtain ⟨b, hb, hholds, hspares⟩ := hcompute a
    obtain ⟨c, hc, hholds', hspares'⟩ := hcompute b
    rw [hb, hc]
    exact SourceOutline.sameValues_of_holds hholds' hholds hspares'
  case order =>
    have hnodup' : (ps'.map Plugin.id).Nodup := (hperm.map Plugin.id).nodup_iff.2 hnodup
    have hts' : ∀ t ∈ targets.getD (Registry.mk ps').ids, t ∈ (Registry.mk ps').ids := fun t ht =>
      (Registry.mem_ids_perm hperm t).2 (hts t ((Registry.mem_getD_ids_perm hperm targets t).1 ht))
    obtain ⟨e', he'⟩ := (hr.perm hperm).make_ok
    obtain ⟨ids', hids', hcompute'⟩ := Engine.compute_holds (hr.perm hperm) he' hts'
    refine ⟨_, e', Registry.registerAll_empty_eq_ok_iff.2 ⟨hnodup', rfl⟩, he', fun a => ?_⟩
    -- both orders lead the targets to the same metrics
    have hsame : ∀ id, id ∈ ids' ↔ id ∈ ids := fun id => by
      rw [hids', hids, Registry.reaches_perm_iff hnodup hperm]
    obtain ⟨b, hb, hholds, hspares⟩ := hcompute a
    obtain ⟨b', hb', hholds', hspares'⟩ := hcompute' a
    rw [hb, hb']
    exact SourceOutline.sameValues_of_spares hsame hholds' hspares' hholds hspares

/-! ### Values of another time -/

/-- Four of the built-in plug-ins, each before those that it requires. -/
def reversedPlugins : List Plugin :=
  [.averageWeight, .methodCount, .methodWeight, .complexity]

/-- A class with two methods, one of which branches, with values that were stored for another. -/
def staleOutline : SourceOutline where
  path := "stale.py"
  language := "python"
  types := [
    { name := "Stale", archetype := .classOrInterface, modifiers := default, extent := ⟨1, 6⟩
      methods := [
        { name := "branching", modifiers := default, parameters := [], extent := ⟨2, 4⟩
          body := [.mk .ifThen ⟨3, 4⟩ [] [.mk .simple ⟨4, 4⟩ [] []]], metrics := [("CYCLO", .int 40)] },
        { name := "plain", modifiers := default, parameters := [], extent := ⟨5, 6⟩
          body := [.mk .simple ⟨6, 6⟩ [] []], metrics := [] }]
      fields := [], metrics := [("NOM", .text "two"), ("WMC", .null), ("LOC", .int 7)] }]

/-- The average weight of the class is three halves, and its stale number of lines stays. -/
theorem compute_refreshes_staleOutline : ∃ r e b ids,
    Registry.empty.registerAll reversedPlugins = .ok r ∧ Engine.make r = .ok e ∧
      e.compute (some ["AMW"]) ⟨staleOutline, [], []⟩ = (.ok ids, b) ∧
      b.outline.typeValue 0 "AMW" = some (.real (.finite false (3 * 2 ^ 51) (-52))) ∧
      b.outline.typeValue 0 "LOC" = some (.int 7) := by
  have hbuiltin : ∀ p ∈ reversedPlugins, p ∈ Plugin.builtins := by
    simp [reversedPlugins, Plugin.builtins]
  have hclosed : ∀ p ∈ reversedPlugins, ∀ req ∈ p.requires, req ∈ reversedPlugins.map Plugin.id := by
    decide
  obtain ⟨-, e, he, hpass⟩ := compute_refreshes (r := ⟨reversedPlugins⟩) hbuiltin hclosed rfl
  obtain ⟨⟨ids, hids, hcompute, -⟩, -⟩ := (hpass (some ["AMW"])).2 (by decide)
  obtain ⟨b, hb, hholds, hrest⟩ := hcompute ⟨staleOutline, [], []⟩
  have hbare : b.outline.bare = staleOutline.bare := SourceOutline.bare_eq_of_without_eq hrest
  refine ⟨_, e, b, ids, rfl, he, hb, ?_, ?_⟩
  · have hmem : "AMW" ∈ ids := (hids "AMW").2 (.target List.mem_cons_self)
    have hdrop : isAmong isTypeMetric ids "AMW" = true := isAmong_iff.2 ⟨hmem, rfl⟩
    rw [SourceOutline.typeValue_eq hholds, if_pos hdrop, hbare]
    rfl
  · -- the number of lines is not registered, so the target does not lead to it
    have hlines : "LOC" ∉ ids := fun hid => absurd
      (Registry.IsBuiltIn.mem_ids_of_reaches ⟨hbuiltin, hclosed⟩ (by decide) ((hids "LOC").1 hid))
      (by decide)
    have hdrop : isAmong isTypeMetric ids "LOC" = false := by
      simp only [isAmong, List.contains_eq_mem, hlines, decide_false, Bool.false_and]
    rw [← SourceOutline.typeValue_without _ _ hdrop, hrest, SourceOutline.typeValue_without _ _ hdrop]
    rfl

end HistoryMetrics
