import HistoryMetrics.Proofs.Metric.Values

/-! # What the built-in plug-ins do

    A built-in plug-in makes its metric hold, if those that it requires hold already, whatever was
    stored before; and it leaves alone all that is stored for other metrics. Only the weights read
    stored values, so only for them does it matter what holds before.

    - `Plugin.Refreshes`: what a plug-in is to do
    - `refreshes_ofMethods`, `refreshes_ofTypes`: the two ways in which plug-ins are built
    - `weight_eq`, `averageWeight_eq`: the weights, from stored values that hold
    - `refreshes_builtins`: all built-in plug-ins do so
-/

namespace HistoryMetrics

/-! ## Plug-ins that store -/

/-- **What a plug-in is to do.**

    - `ends`: it makes its metric hold, if those that it requires hold, and does not fail then
    - `keeps`: however it ends, it leaves alone all but the values of its metric
-/
structure Plugin.Refreshes (p : Plugin) : Prop where
  ends : ∀ (ids : List String) (a : Analysis), a.outline.Holds ids → (∀ req ∈ p.requires, req ∈ ids) →
    ∃ b, p.calculate a = (.ok (), b) ∧ b.outline.Holds (p.id :: ids)
  keeps : ∀ (ids : List String) (a : Analysis), p.id ∈ ids →
    (p.calculate a).2.outline.without ids = a.outline.without ids

namespace Plugin

theorem refreshes_ofMethods {id : String} (name : String) {measure : Method → Value}
    (hmethod : ∀ m : Method, m.reference id = some (measure m))
    (htype : ∀ t : TypeOutline, t.reference id = none) : (ofMethods id name measure).Refreshes where
  ends ids a h _ := by
    refine ⟨_, rfl, fun t' ht' => ?_⟩
    obtain ⟨t, ht, rfl⟩ := List.mem_map.1 ht'
    exact (h t ht).storeMethods (fun m _ => hmethod m) (htype t)
  keeps ids a hid := by
    -- any method shows that this is a metric of methods
    have hmetric := (Method.isMethodMetric_iff default id).2 ⟨_, hmethod default⟩
    have hstore : ∀ t : TypeOutline, (t.storeMethods id measure).without ids = t.without ids :=
      fun t => TypeOutline.without_storeMethods hid hmetric measure
    simp only [ofMethods, SourceOutline.without, Analysis.withTypes, List.map_map, Function.comp_def,
      hstore]

/-- Storing values on types one after the other, when none of them is missing. -/
theorem storeTypes_eq {id : String} {measure : TypeOutline → Except Fault Value}
    {ts : List TypeOutline} (h : ∀ t ∈ ts, ∃ v, measure t = .ok v ∧ t.reference id = some v) :
    storeTypes id measure ts = (ts.map fun t => t.store id ((t.reference id).getD .null), .ok ()) := by
  induction ts with
  | nil => rfl
  | cons t ts ih =>
    obtain ⟨v, hmeasure, hv⟩ := h t List.mem_cons_self
    have hts := ih fun t' ht' => h t' (List.mem_cons_of_mem t ht')
    simp only [storeTypes, hmeasure, hts, hv, List.map_cons, Option.getD_some]

/-- Storing a metric on types leaves all else alone, also when it fails. -/
theorem map_without_storeTypes {id : String} {ids : List String} (hid : id ∈ ids)
    (hmetric : isTypeMetric id = true) (measure : TypeOutline → Except Fault Value)
    (ts : List TypeOutline) :
    (storeTypes id measure ts).1.map (TypeOutline.without ids) =
      ts.map (TypeOutline.without ids) := by
  induction ts with
  | nil => rfl
  | cons t ts ih =>
    unfold storeTypes
    cases measure t with
    | error e => rfl
    | ok v =>
      show (t.store id v).without ids :: _ = t.without ids :: _
      rw [TypeOutline.without_store hid hmetric, ih]

theorem refreshes_ofTypes {id : String} (name : String) {requires : List String}
    {measure : TypeOutline → Except Fault Value}
    (hmeasure : ∀ ids t, t.Holds ids → (∀ req ∈ requires, req ∈ ids) →
      ∃ v, measure t = .ok v ∧ t.reference id = some v)
    (hmetric : isTypeMetric id = true) (hmethod : ∀ m : Method, m.reference id = none) :
    (ofTypes id name requires measure).Refreshes where
  ends ids a h hreq := by
    -- no type lacks what the measure reads, so the loop over the types goes to its end
    have hvalues : ∀ t ∈ a.outline.types, ∃ v, measure t = .ok v ∧ t.reference id = some v :=
      fun t ht => hmeasure ids t (h t ht) hreq
    refine ⟨_, by simp only [ofTypes, storeTypes_eq hvalues]; rfl, fun t' ht' => ?_⟩
    obtain ⟨t, ht, rfl⟩ := List.mem_map.1 ht'
    obtain ⟨v, -, hv⟩ := hvalues t ht
    have hstored : t.reference id = some ((t.reference id).getD .null) := by
      rw [hv, Option.getD_some]
    exact (h t ht).store hstored fun m _ => hmethod m
  keeps ids a hid := by
    have hmem : id ∈ ids := hid
    have htypes := map_without_storeTypes hmem hmetric measure a.outline.types
    simp only [ofTypes, SourceOutline.without, Analysis.withTypes]
    rw [htypes]

/-! ## Weights -/

theorem weightFrom_eq {ids : List String} (hid : "CYCLO" ∈ ids) {ms : List Method}
    (h : ∀ m ∈ ms, m.Holds ids) (n : Nat) :
    weightFrom (.int n) ms = .ok (.int (n + (ms.map Method.complexity).sum : Nat)) := by
  induction ms generalizing n with
  | nil => rfl
  | cons m ms ih =>
    have hm : m.metrics.require "CYCLO" = .ok (.int m.complexity) :=
      (h m List.mem_cons_self).require_eq hid m.reference_complexity
    have hms := ih (fun m' hm' => h m' (List.mem_cons_of_mem m hm')) (n + m.complexity)
    simp only [weightFrom, hm]
    show weightFrom (.int ((n : Int) + (m.complexity : Int))) ms = _
    rw [← Int.natCast_add, hms, List.map_cons, List.sum_cons, Nat.add_assoc]

/-- The weight of a type is summed from complexities that hold. -/
theorem weight_eq {ids : List String} {t : TypeOutline} (h : t.Holds ids) (hid : "CYCLO" ∈ ids) :
    t.weight = .ok (.int t.decisionWeight) := by
  have hsum := weightFrom_eq hid h.methods 0
  rw [Nat.zero_add, t.sum_complexity_eq] at hsum
  exact hsum

/-- The average weight is the quotient of values that hold. -/
theorem averageWeight_eq {ids : List String} {t : TypeOutline} (h : t.Holds ids)
    (hweight : "WMC" ∈ ids) (hcount : "NOM" ∈ ids) :
    t.averageWeight = .ok (.real t.meanWeight) := by
  have htotal : t.metrics.require "WMC" = .ok (.int t.decisionWeight) :=
    h.metrics.require_eq hweight rfl
  have hmethods : t.metrics.require "NOM" = .ok (.int t.methods.length) :=
    h.metrics.require_eq hcount rfl
  -- both numbers are natural ones, so the quotient has no sign
  have hquotient : (Value.int t.decisionWeight).quotient (.int t.methods.length) =
      .ok (.real (.ofRatio false t.decisionWeight t.methods.length)) := by
    have hweight' : ¬ (t.decisionWeight : Int) < 0 := by omega
    have hcount' : ¬ (t.methods.length : Int) < 0 := by omega
    simp [Value.quotient, Value.int, Value.real, Value.number?, Number.quotient, hweight', hcount']
  simp only [TypeOutline.averageWeight, htotal, hmethods, hquotient, TypeOutline.meanWeight]
  by_cases hnone : t.methods.length = 0
  · rw [if_neg (by simp [Value.isTruthy, Value.int, Number.isZero, hnone]), if_pos hnone]
  · rw [if_pos (by simpa [Value.isTruthy, Value.int, Number.isZero] using hnone), if_neg hnone]

/-! ## The built-in plug-ins -/

/-- A measure of types that reads no stored values. -/
theorem refreshes_ofTypes_plain {id : String} (name : String) {value : TypeOutline → Value}
    (htype : ∀ t : TypeOutline, t.reference id = some (value t))
    (hmethod : ∀ m : Method, m.reference id = none) :
    (ofTypes id name [] fun t => .ok (value t)).Refreshes :=
  refreshes_ofTypes name (fun _ t _ _ => ⟨value t, rfl, htype t⟩)
    ((TypeOutline.isTypeMetric_iff default id).2 ⟨_, htype default⟩) hmethod

theorem refreshes_methodWeight : methodWeight.Refreshes := by
  refine refreshes_ofTypes _ (fun ids t h hreq => ?_) rfl fun _ => rfl
  exact ⟨_, weight_eq h (hreq "CYCLO" List.mem_cons_self), rfl⟩

theorem refreshes_averageWeight : averageWeight.Refreshes := by
  refine refreshes_ofTypes _ (fun ids t h hreq => ?_) rfl fun _ => rfl
  have hweight : "WMC" ∈ ids := hreq "WMC" List.mem_cons_self
  have hcount : "NOM" ∈ ids := hreq "NOM" (List.mem_cons_of_mem _ List.mem_cons_self)
  exact ⟨_, averageWeight_eq h hweight hcount, rfl⟩

/-- **Every built-in metric has its values on what its scope says**, on types or on methods. -/
theorem scope_builtins : ∀ p ∈ builtins,
    isTypeMetric p.id = (p.scope == .type) ∧ isMethodMetric p.id = (p.scope == .method) := by
  decide

/-- **Every built-in plug-in makes its metric hold and leaves the rest alone.** -/
theorem refreshes_builtins : ∀ p ∈ builtins, p.Refreshes := by
  simp only [builtins, List.forall_mem_cons]
  refine ⟨refreshes_ofTypes_plain _ TypeOutline.reference_protected fun _ => rfl,
    refreshes_ofMethods _ Method.reference_lines fun _ => rfl,
    refreshes_ofMethods _ Method.reference_complexity fun _ => rfl,
    refreshes_ofMethods _ Method.reference_nesting fun _ => rfl,
    refreshes_ofMethods _ Method.reference_variables fun _ => rfl,
    refreshes_ofMethods _ (fun _ => rfl) fun _ => rfl,
    refreshes_ofTypes_plain _ (fun _ => rfl) fun _ => rfl,
    refreshes_ofTypes_plain _ (fun _ => rfl) fun _ => rfl,
    refreshes_ofTypes_plain _ TypeOutline.reference_lines fun _ => rfl,
    refreshes_methodWeight,
    refreshes_averageWeight, ?_⟩
  exact fun p hp => absurd hp List.not_mem_nil

end Plugin

end HistoryMetrics
