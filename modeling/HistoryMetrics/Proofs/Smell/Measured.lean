import HistoryMetrics.Proofs.Smell.Verdicts

/-! # Source files that have been measured

    After a pass over all metrics these hold, and then there is nothing left to store: another pass,
    for whatever targets, puts every value in the place where it is already. A detection of smells is
    such a pass, followed by detectors that only look. So it leaves a measured source file as it is,
    and all that it does beside its findings is to write to the journal.

    - `Plugin.Rests`: a plug-in that finds its metric stored and leaves the source file as it is
    - `Engine.compute_rests`: a pass over a measured source file
    - `GoesByOutline`: calculations that see nothing but the source file
    - `Engine.compute_measures`, `detectSmells_rests`: measuring, and looking for smells after it
-/

namespace HistoryMetrics

open HistoryMetrics.Action

/-! ## Storing what is stored -/

/-- A value that is stored already stays in its place. -/
theorem Metrics.set_of_get? {m : Metrics} {id : String} {v : Value} (h : m.get? id = some v) :
    m.set id v = m := by
  induction m with
  | nil => cases h
  | cons e rest ih =>
    obtain ⟨key, old⟩ := e
    by_cases hkey : key = id
    · subst hkey
      have hold : old = v := by simpa [get?] using h
      simp [set, hold]
    · have hb : (id == key) = false := by simpa using Ne.symm hkey
      have hrest : get? rest id = some v := by simpa [get?, List.lookup_cons, hb] using h
      simp [set, hkey, ih hrest]

theorem Method.store_of_holds {ids : List String} {m : Method} (h : m.Holds ids) {id : String}
    (hid : id ∈ ids) {v : Value} (hv : m.reference id = some v) : m.store id v = m := by
  rw [store, Metrics.set_of_get? (h id hid v hv)]

namespace TypeOutline

variable {ids : List String} {t : TypeOutline} (h : t.Holds ids)

include h

theorem Holds.store_eq {id : String} (hid : id ∈ ids) {v : Value}
    (hv : t.reference id = some v) : t.store id v = t := by
  rw [TypeOutline.store, Metrics.set_of_get? (h.metrics id hid v hv)]

theorem Holds.storeMethods_eq {id : String} (hid : id ∈ ids) {measure : Method → Value}
    (hmeasure : ∀ m : Method, m.reference id = some (measure m)) : t.storeMethods id measure = t := by
  have hmethods : (t.methods.map fun m => m.store id (measure m)) = t.methods := by
    refine (List.map_congr_left fun m hm => ?_).trans (List.map_id _)
    exact Method.store_of_holds (h.methods m hm) hid (hmeasure m)
  rw [TypeOutline.storeMethods, hmethods]

end TypeOutline

/-! ## Plug-ins that rest -/

/-- **A plug-in leaves a source file as it is** on which its metric holds, with those that it
    requires. -/
def Plugin.Rests (p : Plugin) : Prop :=
  ∀ (ids : List String) (a : Analysis), a.outline.Holds ids → p.id ∈ ids →
    (∀ req ∈ p.requires, req ∈ ids) → p.calculate a = (.ok (), a)

namespace Plugin

theorem rests_ofMethods {id : String} (name : String) {measure : Method → Value}
    (hmeasure : ∀ m : Method, m.reference id = some (measure m)) : (ofMethods id name measure).Rests := by
  intro ids a h hid _
  have htypes : (a.outline.types.map fun t => t.storeMethods id measure) = a.outline.types :=
    (List.map_congr_left fun t ht => (h t ht).storeMethods_eq hid hmeasure).trans
      (List.map_id _)
  simp only [ofMethods, htypes]
  rfl

theorem rests_ofTypes {id : String} (name : String) {requires : List String}
    {measure : TypeOutline → Except Fault Value}
    (hmeasure : ∀ ids t, t.Holds ids → (∀ req ∈ requires, req ∈ ids) →
      ∃ v, measure t = .ok v ∧ t.reference id = some v) :
    (ofTypes id name requires measure).Rests := by
  intro ids a h hid hreq
  have hvalues : ∀ t ∈ a.outline.types, ∃ v, measure t = .ok v ∧ t.reference id = some v :=
    fun t ht => hmeasure ids t (h t ht) hreq
  have htypes : (a.outline.types.map fun t => t.store id ((t.reference id).getD .null)) =
      a.outline.types := by
    refine (List.map_congr_left fun t ht => ?_).trans (List.map_id _)
    obtain ⟨v, -, hv⟩ := hvalues t ht
    rw [hv]
    exact (h t ht).store_eq hid hv
  simp only [ofTypes, storeTypes_eq hvalues, htypes]
  rfl

theorem rests_ofTypes_plain {id : String} (name : String) {value : TypeOutline → Value}
    (hvalue : ∀ t : TypeOutline, t.reference id = some (value t)) :
    (ofTypes id name [] fun t => .ok (value t)).Rests :=
  rests_ofTypes name fun _ t _ _ => ⟨value t, rfl, hvalue t⟩

theorem rests_methodWeight : methodWeight.Rests :=
  rests_ofTypes _ fun _ _ h hreq => ⟨_, weight_eq h (hreq "CYCLO" List.mem_cons_self), rfl⟩

theorem rests_averageWeight : averageWeight.Rests := by
  refine rests_ofTypes _ fun ids t h hreq => ?_
  have hweight : "WMC" ∈ ids := hreq "WMC" List.mem_cons_self
  have hcount : "NOM" ∈ ids := hreq "NOM" (List.mem_cons_of_mem _ List.mem_cons_self)
  exact ⟨_, averageWeight_eq h hweight hcount, rfl⟩

theorem rests_builtins : ∀ p ∈ builtins, p.Rests := by
  simp only [builtins, List.forall_mem_cons]
  refine ⟨rests_ofTypes_plain _ TypeOutline.reference_protected,
    rests_ofMethods _ Method.reference_lines,
    rests_ofMethods _ Method.reference_complexity,
    rests_ofMethods _ Method.reference_nesting,
    rests_ofMethods _ Method.reference_variables,
    rests_ofMethods _ fun _ => rfl, rests_ofTypes_plain _ fun _ => rfl,
    rests_ofTypes_plain _ fun _ => rfl,
    rests_ofTypes_plain _ TypeOutline.reference_lines,
    rests_methodWeight, rests_averageWeight, ?_⟩
  exact fun p hp => absurd hp List.not_mem_nil

end Plugin

namespace Engine

/-- Plug-ins that rest, one after the other. -/
theorem runAll_rests {plan : List Plugin} {ids : List String} {a : Analysis} (ha : a.outline.Holds ids)
    (h : ∀ p ∈ plan, p.Rests ∧ p.id ∈ ids ∧ ∀ req ∈ p.requires, req ∈ ids) :
    runAll plan a = (.ok (), a) := by
  induction plan with
  | nil => rfl
  | cons p ps ih =>
    obtain ⟨hrests, hid, hreq⟩ := h p List.mem_cons_self
    have hp := hrests ids a ha hid hreq
    have hps := ih fun q hq => h q (List.mem_cons_of_mem p hq)
    simp only [runAll, runPlugin, hp, hps]

/-- **A pass over a source file on which all registered metrics hold stores nothing new.** -/
theorem compute_rests {r : Registry} (hr : r.IsBuiltIn) {e : Engine} (he : make r = .ok e)
    {a : Analysis} (ha : a.outline.Holds r.ids) (targets : Option (List String)) :
    (e.compute targets a).2.outline = a.outline := by
  cases hplan : e.plan targets with
  | error p => simp only [compute, hplan]
  | ok plan =>
    have hresolve : r.resolve targets = .ok plan := (plan_of_make he targets).symm.trans hplan
    have hrun : runAll plan a = (.ok (), a) := by
      refine runAll_rests ha fun p hp => ?_
      have hmem : p ∈ r.plugins := mem_of_resolve_ok hresolve hp
      exact ⟨Plugin.rests_builtins p (hr.builtin p hmem), List.mem_map_of_mem hmem,
        hr.closed p hmem⟩
    simp only [compute, hplan, hrun]
    rfl

end Engine

/-! ## Calculations that see nothing but the source file -/

/-- **A calculation goes by the outline**: the source file decides how it ends, what it leaves stored
    and what it writes to the journal. Notes are neither read nor written. -/
def GoesByOutline {α : Type} (c : Calculation α) : Prop :=
  ∀ o, ∃ r o' written, ∀ notes before, c ⟨o, notes, before⟩ = (r, ⟨o', notes, before ++ written⟩)

namespace Plugin

theorem goesByOutline_ofMethods (id name : String) (measure : Method → Value) :
    GoesByOutline (ofMethods id name measure).calculate := by
  intro o
  refine ⟨.ok (), { o with types := o.types.map fun t => t.storeMethods id measure }, [], ?_⟩
  intro notes before
  rw [List.append_nil]
  rfl

theorem goesByOutline_ofTypes (id name : String) (requires : List String)
    (measure : TypeOutline → Except Fault Value) :
    GoesByOutline (ofTypes id name requires measure).calculate := by
  intro o
  refine ⟨(storeTypes id measure o.types).2.mapError .fault,
    { o with types := (storeTypes id measure o.types).1 }, [], ?_⟩
  intro notes before
  rw [List.append_nil]
  rfl

theorem goesByOutline_builtins : ∀ p ∈ builtins, GoesByOutline p.calculate := by
  simp only [builtins, List.forall_mem_cons]
  refine ⟨goesByOutline_ofTypes _ _ _ _, goesByOutline_ofMethods _ _ _,
    goesByOutline_ofMethods _ _ _, goesByOutline_ofMethods _ _ _, goesByOutline_ofMethods _ _ _,
    goesByOutline_ofMethods _ _ _, goesByOutline_ofTypes _ _ _ _, goesByOutline_ofTypes _ _ _ _,
    goesByOutline_ofTypes _ _ _ _, goesByOutline_ofTypes _ _ _ _, goesByOutline_ofTypes _ _ _ _, ?_⟩
  exact fun p hp => absurd hp List.not_mem_nil

end Plugin

namespace Engine

theorem goesByOutline_runAll {plan : List Plugin} (h : ∀ p ∈ plan, GoesByOutline p.calculate) :
    GoesByOutline (runAll plan) := by
  induction plan with
  | nil => exact fun o => ⟨.ok (), o, [], fun _ before => by rw [List.append_nil]; rfl⟩
  | cons p ps ih =>
    intro o
    obtain ⟨r, o₁, written, hp⟩ := h p List.mem_cons_self o
    cases r with
    | error f =>
      exact ⟨_, o₁, written, fun notes before => by simp only [runAll, runPlugin, hp]; rfl⟩
    | ok u =>
      obtain ⟨r, o₂, written', hps⟩ := ih (fun q hq => h q (List.mem_cons_of_mem p hq)) o₁
      refine ⟨r, o₂, written ++ written', fun notes before => ?_⟩
      simp only [runAll, runPlugin, hp, hps, List.append_assoc]

theorem goesByOutline_compute {e : Engine} {targets : Option (List String)}
    (h : ∀ plan, e.plan targets = .ok plan → ∀ p ∈ plan, GoesByOutline p.calculate) :
    GoesByOutline (e.compute targets) := by
  intro o
  cases hplan : e.plan targets with
  | error p =>
    exact ⟨_, o, [], fun _ before => by simp only [compute, hplan, List.append_nil]; rfl⟩
  | ok plan =>
    obtain ⟨r, o', written, hrun⟩ := goesByOutline_runAll (h plan hplan) o
    cases r with
    | error f => exact ⟨_, o', written, fun notes before => by simp only [compute, hplan, hrun]; rfl⟩
    | ok u =>
      refine ⟨.ok (plan.map Plugin.id), o', written ++ [record plan.length o'.path], ?_⟩
      intro notes before
      simp only [compute, hplan, hrun, Analysis.logged, List.append_assoc]

/-- A pass of an engine with built-in plug-ins. -/
theorem goesByOutline_of_make {r : Registry} (hr : r.IsBuiltIn) {e : Engine} (he : make r = .ok e)
    (targets : Option (List String)) : GoesByOutline (e.compute targets) := by
  refine goesByOutline_compute fun plan hplan p hp => ?_
  rw [plan_of_make he] at hplan
  exact Plugin.goesByOutline_builtins p (hr.builtin p (mem_of_resolve_ok hplan hp))

end Engine

/-! ## Measuring and looking -/

section Standard

variable {e : Engine} (he : Engine.make .standard = .ok e)

include he

/-- **Measuring** makes all metrics hold, and beside that it only writes to the journal. -/
theorem Engine.compute_measures (o : SourceOutline) : ∃ ids measured written,
    measured.Holds Registry.standard.ids ∧
      ∀ notes, e.compute none ⟨o, notes, []⟩ = (.ok ids, ⟨measured, notes, written⟩) := by
  have hregistered : ∀ t ∈ Option.getD none Registry.standard.ids, t ∈ Registry.standard.ids :=
    fun _ ht => ht
  obtain ⟨ids, hids, hcompute⟩ := compute_holds Registry.isBuiltIn_standard he hregistered
  obtain ⟨b, hb, hholds, -⟩ := hcompute ⟨o, [], []⟩
  obtain ⟨r, measured, written, hall⟩ :=
    goesByOutline_of_make Registry.isBuiltIn_standard he none o
  have heq := (hall [] []).symm.trans hb
  cases heq
  exact ⟨ids, measured, written, hholds.mono fun id hid => (hids id).2 (.target hid),
    fun notes => by rw [hall, List.nil_append]⟩

omit he in
/-- Detectors that look at the types of a measured source file only write to the journal. -/
theorem Detection.scan_rests {ids : List String} {settings : List (Thresholds × Option Engine)}
    (haccepted : ∀ s ∈ settings, s.1.IsAccepted)
    (hrequires : ∀ s ∈ settings, ∀ id ∈ s.1.smell.requires, id ∈ ids) {o : SourceOutline}
    (ho : o.Holds ids) {count place : Nat} (hcount : place + count = o.types.length)
    (notes : List String) (before : List LogRecord) : ∃ written,
    (scan (detectorsOf settings) count place ⟨o, notes, before⟩).2 = ⟨o, notes, before ++ written⟩ := by
  induction count generalizing place before with
  | zero => exact ⟨[], by rw [List.append_nil]; rfl⟩
  | succ count ih =>
    have hlt : place < o.types.length := by omega
    have hrun := runDetectors_eq haccepted hrequires (a := ⟨o, notes, before⟩)
      (List.getElem?_eq_getElem hlt) (ho _ (List.getElem_mem hlt))
    simp only [scan, hrun]
    split
    · exact ih (by omega) before
    · -- verdicts are written down before the next type is looked at
      generalize record _ _ _ = note
      obtain ⟨written, hwritten⟩ := ih (by omega : place + 1 + count = _) (before ++ [note])
      refine ⟨note :: written, ?_⟩
      rcases hrest : scan (detectorsOf settings) count (place + 1) ⟨o, notes, before ++ [note]⟩
        with ⟨r, b⟩
      rw [hrest] at hwritten
      simp only [Analysis.logged, hrest]
      cases r <;> simpa [List.append_assoc] using hwritten

/-- **A detection of smells leaves a measured source file as it is**, and only writes to the
    journal. -/
theorem detectSmells_rests {settings : List (Thresholds × Option Engine)}
    (haccepted : ∀ s ∈ settings, s.1.IsAccepted) {o : SourceOutline}
    (ho : o.Holds Registry.standard.ids) (notes : List String) : ∃ findings written,
    detectSmells (detectorsOf settings) e ⟨o, notes, []⟩ = (.ok findings, ⟨o, notes, written⟩) := by
  obtain ⟨b, hdetect, -⟩ := detectSmells_eq he haccepted ⟨o, notes, []⟩
  -- the findings are known, and it remains to say what is left behind
  suffices hleft : ∃ written, b = ⟨o, notes, written⟩ by
    obtain ⟨written, rfl⟩ := hleft
    exact ⟨_, written, hdetect⟩
  cases settings with
  | nil =>
    exact ⟨[], (congrArg Prod.snd hdetect).symm⟩
  | cons s settings =>
    have hsome : (detectorsOf (s :: settings)).isEmpty = false := rfl
    -- the pass that comes first stores nothing new
    obtain ⟨ids, c, hcompute, hholds, -⟩ :=
      Engine.compute_requiredMetrics he (s :: settings) ⟨o, notes, []⟩
    have hout := Engine.compute_rests Registry.isBuiltIn_standard he (a := ⟨o, notes, []⟩) ho
      (some (requiredMetrics (detectorsOf (s :: settings))))
    obtain ⟨r, o', written, hall⟩ := Engine.goesByOutline_of_make Registry.isBuiltIn_standard he
      (some (requiredMetrics (detectorsOf (s :: settings)))) o
    rw [hall, List.nil_append] at hcompute hout
    cases hcompute
    cases hout
    have hrequires : ∀ s' ∈ s :: settings, ∀ id ∈ s'.1.smell.requires,
        id ∈ requiredMetrics (detectorsOf (s :: settings)) :=
      fun s' hs' id hid => mem_requiredMetrics_detectorsOf.2 ⟨s', hs', hid⟩
    obtain ⟨more, hscan⟩ := Detection.scan_rests haccepted hrequires hholds
      (Nat.zero_add o.types.length) notes written
    simp only [detectSmells, hsome, Bool.false_eq_true, if_false, hall, List.nil_append] at hdetect
    exact ⟨written ++ more, (congrArg Prod.snd hdetect).symm.trans hscan⟩

end Standard

end HistoryMetrics
