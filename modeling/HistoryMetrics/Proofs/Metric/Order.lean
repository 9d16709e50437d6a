import HistoryMetrics.Metric.Registry
import Mathlib.Data.Fintype.Card
import Mathlib.Data.Fintype.EquivFin
import Mathlib.Data.Fintype.Sets
import Mathlib.Data.List.Nodup
import Mathlib.Data.List.Perm.Subperm
import Mathlib.Logic.Relation
import Mathlib.Order.WellFounded

/-! # Putting plug-ins in order

    Plug-ins are placed one after the other, each when all that it requires has been placed. As long
    as something is ready the placing goes on; what is left in the end waits for something else that
    is left, so it goes round in a cycle.

    - `Requires`, `IsCyclic`: the plug-ins as a graph
    - `PlacingInv`: the invariant of the placing
    - `arranged_inv`: the placing ends when nothing is ready any more
    - `mem_arranged_of_acyclic`, `acyclic_of_mem_arranged`: all is placed if and only if there is no
      cycle
    - `inOrder_spec`: an order, or the complaint that there is a cycle
-/

namespace HistoryMetrics

open Relation

/-! ## The graph -/

/-- A plug-in requires something. -/
def Requires (ps : List Plugin) (a b : String) : Prop := ∃ p ∈ ps, p.id = a ∧ b ∈ p.requires

/-- **Some plug-in requires itself**, perhaps by way of others. -/
def IsCyclic (ps : List Plugin) : Prop := ∃ id, TransGen (Requires ps) id id

/-- **Each id stands after what its plug-in requires.** -/
def PrerequisitesFirst (ps : List Plugin) (ids : List String) : Prop :=
  ∀ before id after, ids = before ++ id :: after →
    ∀ p ∈ ps, p.id = id → ∀ req ∈ p.requires, req ∈ before

/-- All that plug-ins require is there. -/
def IsComplete (ps : List Plugin) : Prop := ∀ p ∈ ps, ∀ req ∈ p.requires, req ∈ ps.map Plugin.id

/-- **The invariant of the placing.**

    - `known`: only plug-ins are placed or ready
    - `first`: what is placed stands after its prerequisites
    - `ready_met`: all prerequisites of what is ready are placed
    - `complete`: a plug-in whose prerequisites are all placed is itself placed or ready
-/
structure PlacingInv (ps : List Plugin) (placed ready : List String) : Prop where
  nodup : (placed ++ ready).Nodup
  known : ∀ id ∈ placed ++ ready, id ∈ ps.map Plugin.id
  first : PrerequisitesFirst ps placed
  ready_met : ∀ id ∈ ready, ∀ p ∈ ps, p.id = id → ∀ req ∈ p.requires, req ∈ placed
  complete : ∀ p ∈ ps, (∀ req ∈ p.requires, req ∈ placed) → p.id ∈ placed ++ ready

section Placing

variable {ps : List Plugin} {placed ready : List String}

/-- Plug-ins with different ids are told apart by them. -/
theorem eq_of_id_eq (hps : (ps.map Plugin.id).Nodup) {p q : Plugin} (hp : p ∈ ps) (hq : q ∈ ps)
    (h : p.id = q.id) : p = q :=
  List.inj_on_of_nodup_map hps hp hq h

theorem mem_released_iff {id a : String} :
    a ∈ released ps placed id ↔
      ∃ p ∈ ps, p.id = a ∧ id ∈ p.requires ∧ ∀ req ∈ p.requires, req ∈ placed := by
  simp only [released, List.mem_map, List.mem_filter, Bool.and_eq_true, List.contains_iff_mem,
    List.all_eq_true]
  constructor
  · rintro ⟨p, ⟨hp, hid, hall⟩, rfl⟩
    exact ⟨p, hp, rfl, hid, hall⟩
  · rintro ⟨p, hp, rfl, hid, hall⟩
    exact ⟨p, ⟨hp, hid, hall⟩, rfl⟩

theorem nodup_eraseDups (as : List String) : as.eraseDups.Nodup := by
  -- each step keeps one item and goes on with those that differ from it
  generalize hn : as.length = n
  induction n using Nat.strong_induction_on generalizing as with
  | _ n ih =>
    cases as with
    | nil => simp
    | cons a as =>
      rw [List.eraseDups_cons, List.nodup_cons]
      have hlt : (as.filter fun b => !b == a).length < n := by
        rw [← hn, List.length_cons]
        exact Nat.lt_succ_of_le (List.length_filter_le _ _)
      refine ⟨?_, ih _ hlt _ rfl⟩
      rw [List.mem_eraseDups]
      simp

namespace PlacingInv

/-- Whatever is placed or ready has its prerequisites placed. -/
theorem met (h : PlacingInv ps placed ready) {a : String} (ha : a ∈ placed ++ ready) {p : Plugin}
    (hp : p ∈ ps) (hid : p.id = a) : ∀ req ∈ p.requires, req ∈ placed := by
  intro req hreq
  rcases List.mem_append.1 ha with hplaced | hready
  · obtain ⟨before, after, hsplit⟩ := List.append_of_mem hplaced
    have hbefore := h.first before a after hsplit p hp hid req hreq
    rw [hsplit]
    exact List.mem_append_left _ hbefore
  · exact h.ready_met a hready p hp hid req hreq

theorem start (hps : (ps.map Plugin.id).Nodup) : PlacingInv ps [] (readyAtOnce ps) where
  nodup := (nodup_eraseDups _).filter _
  known := by
    intro id hid
    simp only [List.nil_append, readyAtOnce, List.mem_filter, List.any_eq_true] at hid
    obtain ⟨_, p, hp, hcond⟩ := hid
    simp only [Bool.and_eq_true, beq_iff_eq] at hcond
    exact List.mem_map.2 ⟨p, hp, hcond.1⟩
  first := by
    intro before id after h
    exact absurd h (by simp)
  ready_met := by
    intro id hid p hp hpid req hreq
    simp only [readyAtOnce, List.mem_filter, List.any_eq_true] at hid
    obtain ⟨_, q, hq, hcond⟩ := hid
    simp only [Bool.and_eq_true, beq_iff_eq, List.isEmpty_iff] at hcond
    have hpq : p = q := eq_of_id_eq hps hp hq (hpid.trans hcond.1.symm)
    rw [hpq, hcond.2] at hreq
    cases hreq
  complete := by
    intro p hp hall
    have hnone : p.requires = [] := by
      cases hreqs : p.requires with
      | nil => rfl
      | cons req rest => exact absurd (hall req (by simp [hreqs])) (by simp)
    simp only [List.nil_append, readyAtOnce, List.mem_filter, mentioned, List.mem_eraseDups,
      List.mem_flatMap, List.any_eq_true]
    exact ⟨⟨p, hp, by simp⟩, p, hp, by simp [hnone]⟩

/-- **Placing what is ready keeps the invariant.** -/
theorem step {id : String} (hps : (ps.map Plugin.id).Nodup)
    (h : PlacingInv ps placed (id :: ready)) :
    PlacingInv ps (placed ++ [id]) (ready ++ released ps (placed ++ [id]) id) := by
  have hassoc : placed ++ [id] ++ (ready ++ released ps (placed ++ [id]) id) =
      (placed ++ id :: ready) ++ released ps (placed ++ [id]) id := by simp
  have hid : id ∉ placed := by
    intro hmem
    have hdisjoint := (List.nodup_append.1 h.nodup).2.2
    exact hdisjoint id hmem id List.mem_cons_self rfl
  refine ⟨?nodup, ?known, ?first, ?ready_met, ?complete⟩
  case nodup =>
    rw [hassoc, List.nodup_append]
    refine ⟨h.nodup, (List.filter_sublist.map Plugin.id).nodup hps, ?_⟩
    -- what is released requires the new one, and nothing placed or ready did
    rintro a ha b hb rfl
    obtain ⟨p, hp, hpid, hreq, _⟩ := mem_released_iff.1 hb
    exact hid (h.met ha hp hpid id hreq)
  case known =>
    intro a ha
    rw [hassoc] at ha
    rcases List.mem_append.1 ha with ha | ha
    · exact h.known a ha
    · obtain ⟨p, hp, hpid, _⟩ := mem_released_iff.1 ha
      exact List.mem_map.2 ⟨p, hp, hpid⟩
  case first =>
    intro before a after hsplit p hp hpid req hreq
    -- it is the new one, or it was placed before
    rcases List.eq_nil_or_concat after with rfl | ⟨after', z, rfl⟩
    · obtain ⟨hbefore, ha⟩ := List.append_inj' hsplit rfl
      rw [← hbefore]
      have haid : a = id := by simpa using ha.symm
      exact h.ready_met id List.mem_cons_self p hp (hpid.trans haid) req hreq
    · have hsplit' : placed ++ [id] = (before ++ a :: after') ++ [z] := by simpa using hsplit
      obtain ⟨hplaced, _⟩ := List.append_inj' hsplit' rfl
      exact h.first before a after' hplaced p hp hpid req hreq
  case ready_met =>
    intro a ha p hp hpid req hreq
    rcases List.mem_append.1 ha with ha | ha
    · have hmet := h.ready_met a (List.mem_cons_of_mem _ ha) p hp hpid req hreq
      exact List.mem_append_left _ hmet
    · obtain ⟨q, hq, hqid, _, hall⟩ := mem_released_iff.1 ha
      have hpq : p = q := eq_of_id_eq hps hp hq (hpid.trans hqid.symm)
      rw [hpq] at hreq
      exact hall req hreq
  case complete =>
    intro p hp hall
    rw [hassoc]
    by_cases hreq : id ∈ p.requires
    · exact List.mem_append_right _ (mem_released_iff.2 ⟨p, hp, rfl, hreq, hall⟩)
    · refine List.mem_append_left _ (h.complete p hp fun req hmem => ?_)
      rcases List.mem_append.1 (hall req hmem) with hplaced | hlast
      · exact hplaced
      · rw [List.mem_singleton.1 hlast] at hmem
        exact absurd hmem hreq

/-- No more ids are placed or ready than there are plug-ins. -/
theorem length_le (h : PlacingInv ps placed ready) : placed.length + ready.length ≤ ps.length := by
  have hle := (h.nodup.subperm h.known).length_le
  rwa [List.length_append, List.length_map] at hle

end PlacingInv

/-- **The placing ends when nothing is ready any more.** It may go on for as many steps as there are
    plug-ins that are not placed. -/
theorem placeReady_inv (hps : (ps.map Plugin.id).Nodup) {fuel : Nat}
    (hfuel : fuel + placed.length = ps.length) (h : PlacingInv ps placed ready) :
    PlacingInv ps (placeReady ps fuel placed ready) [] := by
  induction fuel generalizing placed ready with
  | zero =>
    -- all plug-ins are placed, so there is no room for another
    have hle := h.length_le
    have hready : ready = [] := List.eq_nil_of_length_eq_zero (by omega)
    rw [hready] at h
    exact h
  | succ fuel ih =>
    cases ready with
    | nil => exact h
    | cons id ready =>
      have hfuel' : fuel + (placed ++ [id]).length = ps.length := by
        rw [List.length_append, List.length_singleton]
        omega
      exact ih hfuel' (h.step hps)

theorem arranged_inv (hps : (ps.map Plugin.id).Nodup) : PlacingInv ps (arranged ps) [] :=
  placeReady_inv hps rfl (.start hps)

/-! ## Cycles -/

/-- What is required stands before what requires it. -/
theorem idxOf_lt_of_requires (hfirst : PrerequisitesFirst ps placed) (hnodup : placed.Nodup)
    {a b : String} (ha : a ∈ placed) (h : Requires ps a b) :
    b ∈ placed ∧ placed.idxOf b < placed.idxOf a := by
  obtain ⟨p, hp, hid, hreq⟩ := h
  obtain ⟨before, after, hsplit⟩ := List.append_of_mem ha
  have hb : b ∈ before := hfirst before a after hsplit p hp hid b hreq
  have hna : a ∉ before := by
    rw [hsplit] at hnodup
    intro hmem
    exact (List.nodup_append.1 hnodup).2.2 a hmem a List.mem_cons_self rfl
  rw [hsplit]
  refine ⟨List.mem_append_left _ hb, ?_⟩
  rw [List.idxOf_append_of_mem hb, List.idxOf_append_of_notMem hna, List.idxOf_cons_self]
  exact List.idxOf_lt_length_iff.2 hb

/-- **When all plug-ins can be placed there is no cycle.** -/
theorem acyclic_of_mem (hfirst : PrerequisitesFirst ps placed) (hnodup : placed.Nodup)
    (hall : ∀ p ∈ ps, p.id ∈ placed) : ¬IsCyclic ps := by
  -- along a chain of requirements the places go down
  have hchain : ∀ a b, TransGen (Requires ps) a b → placed.idxOf b < placed.idxOf a := by
    intro a b h
    induction h using TransGen.head_induction_on with
    | single h =>
      obtain ⟨p, hp, hid, _⟩ := id h
      exact (idxOf_lt_of_requires hfirst hnodup (hid ▸ hall p hp) h).2
    | head h _ ih =>
      obtain ⟨p, hp, hid, _⟩ := id h
      exact Nat.lt_trans ih (idxOf_lt_of_requires hfirst hnodup (hid ▸ hall p hp) h).2
  rintro ⟨id, h⟩
  exact Nat.lt_irrefl _ (hchain id id h)

/-- An id is needed by another, perhaps by way of others; both are ids of plug-ins. -/
def NeededBy (ps : List Plugin) (a b : {id // id ∈ ps.map Plugin.id}) : Prop :=
  TransGen (Requires ps) b.1 a.1

theorem wellFounded_neededBy (hacyclic : ¬IsCyclic ps) : WellFounded (NeededBy ps) := by
  have htrans : IsTrans _ (NeededBy ps) := ⟨fun _ _ _ hab hbc => hbc.trans hab⟩
  have hirrefl : Std.Irrefl (NeededBy ps) := ⟨fun a ha => hacyclic ⟨a.1, ha⟩⟩
  -- there are no more ids than plug-ins
  exact Finite.wellFounded_of_trans_of_irrefl (NeededBy ps)

/-- **When there is no cycle all plug-ins are placed.** Otherwise there would be one among those that
    are left whose prerequisites are all placed. -/
theorem PlacingInv.mem_of_acyclic (h : PlacingInv ps placed []) (hcomplete : IsComplete ps)
    (hacyclic : ¬IsCyclic ps) : ∀ p ∈ ps, p.id ∈ placed := by
  intro p hp
  by_contra hnot
  obtain ⟨⟨id, hid⟩, hleft, hfirst⟩ := (wellFounded_neededBy hacyclic).has_min {a | a.1 ∉ placed}
    ⟨⟨p.id, List.mem_map_of_mem hp⟩, hnot⟩
  obtain ⟨q, hq, rfl⟩ := List.mem_map.1 hid
  have hmet : ∀ req ∈ q.requires, req ∈ placed := by
    intro req hreq
    by_contra hreqs
    exact hfirst ⟨req, hcomplete q hq req hreq⟩ hreqs (.single ⟨q, hq, rfl, hreq⟩)
  have hplaced := h.complete q hq hmet
  rw [List.append_nil] at hplaced
  exact hleft hplaced

/-! ## Plug-ins in order -/

theorem findPlugin?_id (hps : (ps.map Plugin.id).Nodup) {p : Plugin} (hp : p ∈ ps) :
    findPlugin? ps p.id = some p := by
  cases hfind : findPlugin? ps p.id with
  | none =>
    have hnone := List.find?_eq_none.1 hfind p hp
    simp at hnone
  | some q =>
    have hq : q ∈ ps := List.mem_of_find?_eq_some hfind
    have hid : q.id = p.id := by simpa using List.find?_some hfind
    rw [eq_of_id_eq hps hq hp hid]

theorem filterMap_findPlugin? (hps : (ps.map Plugin.id).Nodup) {ids : List String}
    (hids : ∀ id ∈ ids, id ∈ ps.map Plugin.id) :
    (ids.filterMap (findPlugin? ps)).map Plugin.id = ids ∧
      ∀ p, p ∈ ids.filterMap (findPlugin? ps) ↔ p ∈ ps ∧ p.id ∈ ids := by
  induction ids with
  | nil => simp
  | cons id ids ih =>
    obtain ⟨hmap, hmem⟩ := ih fun a ha => hids a (List.mem_cons_of_mem _ ha)
    obtain ⟨q, hq, rfl⟩ := List.mem_map.1 (hids id List.mem_cons_self)
    rw [List.filterMap_cons_some (findPlugin?_id hps hq)]
    refine ⟨by rw [List.map_cons, hmap], fun p => ?_⟩
    rw [List.mem_cons, hmem, List.mem_cons]
    constructor
    · rintro (rfl | ⟨hp, hid⟩)
      · exact ⟨hq, .inl rfl⟩
      · exact ⟨hp, .inr hid⟩
    · rintro ⟨hp, hid | hid⟩
      · exact .inl (eq_of_id_eq hps hp hq hid)
      · exact .inr ⟨hp, hid⟩

/-- **Plug-ins are put in order, each once and each after its prerequisites**, unless there is a
    cycle. -/
theorem inOrder_spec (hps : (ps.map Plugin.id).Nodup) (hcomplete : IsComplete ps) :
    (¬IsCyclic ps ∧ ∃ order, inOrder ps = .ok order ∧ (order.map Plugin.id).Nodup ∧
        (∀ p, p ∈ order ↔ p ∈ ps) ∧
        ∀ before p after, order = before ++ p :: after →
          ∀ req ∈ p.requires, req ∈ before.map Plugin.id) ∨
      (IsCyclic ps ∧ ∃ cycle, inOrder ps = .error (.metricCycle cycle)) := by
  have hinv := arranged_inv hps
  have hnodup : (arranged ps).Nodup := by simpa using hinv.nodup
  have hknown : ∀ id ∈ arranged ps, id ∈ ps.map Plugin.id := by simpa using hinv.known
  by_cases hlength : (arranged ps).length = ps.length
  · -- as many were placed as there are, so all of them were
    have hperm : (arranged ps).Perm (ps.map Plugin.id) :=
      (hnodup.subperm hknown).perm_of_length_le (by rw [List.length_map, hlength])
    have hall : ∀ p ∈ ps, p.id ∈ arranged ps := by
      intro p hp
      exact hperm.mem_iff.2 (List.mem_map_of_mem hp)
    obtain ⟨hmap, hmem⟩ := filterMap_findPlugin? hps hknown
    refine .inl ⟨acyclic_of_mem hinv.first hnodup hall,
      (arranged ps).filterMap (findPlugin? ps), ?_, ?_, ?_, ?_⟩
    · simp only [inOrder, hlength, beq_self_eq_true, if_true]
    · rwa [hmap]
    · intro p
      rw [hmem]
      exact ⟨And.left, fun hp => ⟨hp, hall p hp⟩⟩
    · intro before p after hsplit req hreq
      have hp : p ∈ ps := by
        have horder : p ∈ (arranged ps).filterMap (findPlugin? ps) := by
          rw [hsplit]
          simp
        exact ((hmem p).1 horder).1
      rw [hsplit, List.map_append, List.map_cons] at hmap
      exact hinv.first _ _ _ hmap.symm p hp rfl req hreq
  · have hcyclic : IsCyclic ps := by
      by_contra hacyclic
      have hall := hinv.mem_of_acyclic hcomplete hacyclic
      have hsubperm : (ps.map Plugin.id).Subperm (arranged ps) := by
        refine hps.subperm fun id hid => ?_
        obtain ⟨p, hp, rfl⟩ := List.mem_map.1 hid
        exact hall p hp
      have hle := hsubperm.length_le
      have hge := hinv.length_le
      rw [List.length_map] at hle
      exact hlength (Nat.le_antisymm (Nat.le_of_add_right_le hge) hle)
    refine .inr ⟨hcyclic, cycleOf ps, ?_⟩
    simp only [inOrder, beq_eq_false_iff_ne.2 hlength, Bool.false_eq_true, if_false]

end Placing

end HistoryMetrics
