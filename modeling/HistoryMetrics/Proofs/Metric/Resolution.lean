import HistoryMetrics.Metric.Engine
import HistoryMetrics.Proofs.Metric.Closure
import HistoryMetrics.Proofs.Metric.Order
import Mathlib

/-! # The order of metrics

    For any targets a registry gives the plug-ins that they lead to in an order that can be run, or
    it says why there is none: something is unknown, or there is a cycle. The first reason goes before
    the second.

    - `Registry.IsIncomplete`, `Registry.IsCyclicFrom`: why there is no order
    - `Registry.Orders`: what a right order is
    - `resolve_cases`: the three ways in which it can end
    - `resolve_order`: the specification, with what follows for engines
-/

namespace HistoryMetrics

open Relation

namespace Registry

/-! ## What a registry looks like from some targets -/

/-- Targets lead to something that is not registered. -/
def IsIncomplete (r : Registry) (targets : List String) : Prop :=
  ∃ id, r.Reaches targets id ∧ r.get? id = none

/-- Something that targets lead to requires something else. -/
def Needs (r : Registry) (targets : List String) (a b : String) : Prop :=
  r.Reaches targets a ∧ ∃ p, r.get? a = some p ∧ b ∈ p.requires

/-- **Targets lead to a cycle.** -/
def IsCyclicFrom (r : Registry) (targets : List String) : Prop :=
  ∃ id, TransGen (r.Needs targets) id id

/-- **An order of what targets need**: just the plug-ins that they lead to, each once, and each after
    all that it requires. -/
structure Orders (r : Registry) (targets : List String) (order : List Plugin) : Prop where
  nodup : (order.map Plugin.id).Nodup
  mem_iff : ∀ p, p ∈ order ↔ r.Reaches targets p.id ∧ r.get? p.id = some p
  first : ∀ before p after, order = before ++ p :: after →
    ∀ req ∈ p.requires, req ∈ before.map Plugin.id

end Registry

section Resolution

variable {r : Registry} {targets : List String} {ps : List Plugin}

/-- A complaint is only made when something is unknown. -/
theorem Registry.Complaint.isIncomplete {e : Problem} (h : r.Complaint targets e) :
    r.IsIncomplete targets := by
  obtain ⟨id, _, _, hreaches, hnone, _⟩ := h
  exact ⟨id, hreaches, hnone⟩

namespace ClosureInv

variable (h : ClosureInv r targets ps [])

include h

theorem not_isIncomplete : ¬r.IsIncomplete targets := by
  rintro ⟨id, hreaches, hnone⟩
  obtain ⟨p, _, _, hget⟩ := h.get?_of_reaches hreaches
  rw [hnone] at hget
  cases hget

/-- All that the plug-ins of a closure require is among them. -/
theorem isComplete : IsComplete ps := by
  intro p hp req hreq
  obtain ⟨hreaches, hget⟩ := h.sound p hp
  obtain ⟨q, hq, hid, _⟩ := h.get?_of_reaches (.required hreaches hget hreq)
  exact List.mem_map.2 ⟨q, hq, hid⟩

/-- The closure is the registry as it looks from the targets. -/
theorem requires_iff_needs (a b : String) : Requires ps a b ↔ r.Needs targets a b := by
  constructor
  · rintro ⟨p, hp, rfl, hreq⟩
    obtain ⟨hreaches, hget⟩ := h.sound p hp
    exact ⟨hreaches, p, hget, hreq⟩
  · rintro ⟨hreaches, p, hget, hreq⟩
    obtain ⟨q, hq, hid, hget'⟩ := h.get?_of_reaches hreaches
    rw [hget] at hget'
    cases hget'
    exact ⟨p, hq, hid, hreq⟩

theorem isCyclic_iff : IsCyclic ps ↔ r.IsCyclicFrom targets := by
  have hsame : Requires ps = r.Needs targets := by
    funext a b
    exact propext (h.requires_iff_needs a b)
  rw [IsCyclic, Registry.IsCyclicFrom, hsame]

end ClosureInv

/-- **The three ways for the search for an order to end.** -/
theorem resolve_cases (r : Registry) (targets : Option (List String)) :
    (r.IsIncomplete (targets.getD r.ids) ∧
        ∃ e, r.resolve targets = .error e ∧ r.Complaint (targets.getD r.ids) e) ∨
      (¬r.IsIncomplete (targets.getD r.ids) ∧ r.IsCyclicFrom (targets.getD r.ids) ∧
        ∃ cycle, r.resolve targets = .error (.metricCycle cycle)) ∨
      (¬r.IsIncomplete (targets.getD r.ids) ∧ ¬r.IsCyclicFrom (targets.getD r.ids) ∧
        ∃ order, r.resolve targets = .ok order ∧ r.Orders (targets.getD r.ids) order) := by
  unfold Registry.resolve
  -- a closure has no unknown metrics, and it shows the cycles that targets lead to
  rcases closure_spec r (targets.getD r.ids) with ⟨ps, hclosure, hps⟩ | ⟨e, hclosure, he⟩
  · simp only [hclosure]
    have hcomplete := hps.not_isIncomplete
    rcases inOrder_spec hps.nodup hps.isComplete with
      ⟨hacyclic, order, horder, hnodup, hmem, hfirst⟩ | ⟨hcyclic, cycle, herror⟩
    · refine .inr (.inr ⟨hcomplete, ?_, order, horder, hnodup, fun p => ?_, hfirst⟩)
      · rwa [← hps.isCyclic_iff]
      · rw [hmem, hps.mem_iff]
    · exact .inr (.inl ⟨hcomplete, hps.isCyclic_iff.1 hcyclic, cycle, herror⟩)
  · simp only [hclosure]
    exact .inl ⟨he.isIncomplete, e, rfl, he⟩

/-- There is no order just when something is unknown or there is a cycle. -/
theorem resolve_error_iff (r : Registry) (targets : Option (List String)) :
    (∃ e, r.resolve targets = .error e) ↔
      r.IsIncomplete (targets.getD r.ids) ∨ r.IsCyclicFrom (targets.getD r.ids) := by
  rcases resolve_cases r targets with
    ⟨hunknown, e, herror, _⟩ | ⟨_, hcyclic, cycle, herror⟩ | ⟨hknown, hacyclic, order, horder, _⟩
  · exact ⟨fun _ => .inl hunknown, fun _ => ⟨e, herror⟩⟩
  · exact ⟨fun _ => .inr hcyclic, fun _ => ⟨_, herror⟩⟩
  · constructor
    · rintro ⟨e, herror⟩
      rw [horder] at herror
      cases herror
    · rintro (hunknown | hcyclic)
      · exact absurd hunknown hknown
      · exact absurd hcyclic hacyclic

/-- Only registered plug-ins are put in order. -/
theorem mem_of_resolve_ok {targets : Option (List String)} {order : List Plugin}
    (h : r.resolve targets = .ok order) {p : Plugin} (hp : p ∈ order) : p ∈ r.plugins := by
  rcases resolve_cases r targets with
    ⟨_, e, herror, _⟩ | ⟨_, _, cycle, herror⟩ | ⟨_, _, order', horder, hright⟩
  · rw [herror] at h
    cases h
  · rw [herror] at h
    cases h
  · rw [horder] at h
    cases h
    exact Registry.mem_of_get? ((hright.mem_iff p).1 hp).2

/-- An engine can be made just when the whole registry has an order. -/
theorem make_error_iff (r : Registry) :
    (∃ e, Engine.make r = .error e) ↔ r.IsIncomplete r.ids ∨ r.IsCyclicFrom r.ids := by
  refine Iff.trans ?_ (resolve_error_iff r none)
  unfold Engine.make
  cases r.resolve none with
  | ok order => exact ⟨nofun, nofun⟩
  | error e => exact ⟨fun _ => ⟨e, rfl⟩, fun _ => ⟨e, rfl⟩⟩

/-- Without an order for its targets an engine runs no plug-in. -/
theorem compute_of_resolve_error {e : Engine} {ts : List String} {p : Problem}
    (h : e.registry.resolve (some ts) = .error p) (a : Analysis) :
    e.compute (some ts) a = (.error (.problem p), a) := by
  simp only [Engine.compute, Engine.plan, h]

/-- **The order of metrics**, for every registry and all targets. -/
theorem resolve_order (r : Registry) :
    (∀ targets : Option (List String),
      -- something unknown is complained about first
      (r.IsIncomplete (targets.getD r.ids) →
        ∃ e, r.resolve targets = .error e ∧ r.Complaint (targets.getD r.ids) e) ∧
      -- then a cycle
      (¬r.IsIncomplete (targets.getD r.ids) → r.IsCyclicFrom (targets.getD r.ids) →
        ∃ cycle, r.resolve targets = .error (.metricCycle cycle)) ∧
      -- otherwise there is an order
      (¬r.IsIncomplete (targets.getD r.ids) → ¬r.IsCyclicFrom (targets.getD r.ids) →
        ∃ order, r.resolve targets = .ok order ∧ r.Orders (targets.getD r.ids) order)) ∧
    -- what follows for engines
    ((∃ e, Engine.make r = .error e) ↔ r.IsIncomplete r.ids ∨ r.IsCyclicFrom r.ids) ∧
    ∀ order ts, r.IsIncomplete ts ∨ r.IsCyclicFrom ts → ∃ p, ∀ a,
      Engine.compute ⟨r, order⟩ (some ts) a = (.error (.problem p), a) := by
  refine ⟨fun targets => ?_, make_error_iff r, fun order ts hbad => ?_⟩
  · rcases resolve_cases r targets with
      ⟨hunknown, hcomplaint⟩ | ⟨hknown, hcyclic, hcycle⟩ | ⟨hknown, hacyclic, horder⟩
    · exact ⟨fun _ => hcomplaint, fun h => absurd hunknown h, fun h => absurd hunknown h⟩
    · exact ⟨fun h => absurd h hknown, fun _ _ => hcycle, fun _ h => absurd hcyclic h⟩
    · exact ⟨fun h => absurd h hknown, fun _ h => absurd h hacyclic, fun _ _ => horder⟩
  · obtain ⟨p, herror⟩ := (resolve_error_iff r (some ts)).2 hbad
    exact ⟨p, compute_of_resolve_error herror⟩

/-! ### A plug-in with an empty id -/

/-- A registry with one plug-in, which has an empty id and requires something unknown. -/
def emptyIdRegistry : Registry := ⟨[⟨"", none, .type, ["Z"], fun a => (.ok (), a)⟩]⟩

/-- A complaint does not name a plug-in with an empty id, although no target is unknown. -/
theorem resolve_names_no_empty_id :
    ¬∀ id requiredBy, emptyIdRegistry.resolve none = .error (.unknownMetric id requiredBy) →
      (requiredBy = none ∧ id ∈ emptyIdRegistry.ids) ∨
        ∃ q ∈ emptyIdRegistry.plugins, requiredBy = some q.id ∧ id ∈ q.requires := by
  intro h
  have herror : emptyIdRegistry.resolve none = .error (.unknownMetric "Z" none) := by cbv
  rcases h "Z" none herror with ⟨_, hid⟩ | ⟨q, _, hq, _⟩
  · exact absurd hid (by decide)
  · cases hq

end Resolution

end HistoryMetrics
