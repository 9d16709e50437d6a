import HistoryMetrics.Proofs.Smell.Verdicts

/-! # Detection on a source file that was measured in part

    A detector has only those metrics computed that some method of its type lacks, but for the whole
    source file. What was stored before may be any part of the metrics, as long as it is right: what is
    computed then is right as well, nothing that was stored goes away, and the rule finds all that it
    reads. So the verdict is the one that a detector gives after all metrics have been computed.

    - `SourceOutline.IsSound`: all that is stored for metrics of methods is right
    - `methodValue_of_spares`: what is stored after a pass
    - `IsSound.of_spares`, `IsSound.keeps`: a pass stores what is right, and keeps what is there
    - `complete_holds`: after what a type lacks has been computed, its rule finds what it reads
    - `detect_completes`: the verdict, and what is stored after it
-/

namespace HistoryMetrics

open HistoryMetrics.Action

/-! ## What is right -/

namespace SourceOutline

/-- What a metric says of the method at a place in the type at another. -/
def methodReference (o : SourceOutline) (place methodPlace : Nat) (id : String) : Option Value :=
  o.types[place]?.bind fun t => t.methods[methodPlace]?.bind fun m => m.reference id

/-- **All that is stored for metrics of methods is right.** Any of them may be missing anywhere. -/
def IsSound (o : SourceOutline) : Prop :=
  ∀ place methodPlace id v, isMethodMetric id = true → o.methodValue place methodPlace id = some v →
    o.methodReference place methodPlace id = some v

/-- **All that is stored stays stored**, on types and on methods. -/
structure Keeps (o o' : SourceOutline) : Prop where
  typeValue : ∀ place id v, o.typeValue place id = some v → o'.typeValue place id = some v
  methodValue : ∀ place methodPlace id v, o.methodValue place methodPlace id = some v →
    o'.methodValue place methodPlace id = some v

@[simp] theorem methodReference_bare (o : SourceOutline) (place methodPlace : Nat) (id : String) :
    o.bare.methodReference place methodPlace id = o.methodReference place methodPlace id := by
  simp only [methodReference, bare, List.getElem?_map]
  cases o.types[place]? with
  | none => rfl
  | some t =>
    simp only [Option.map_some, Option.bind_some, TypeOutline.bare, List.getElem?_map]
    cases t.methods[methodPlace]? with
    | none => rfl
    | some m => exact m.reference_bare id

theorem methodReference_congr {o o' : SourceOutline} (h : o.bare = o'.bare)
    (place methodPlace : Nat) (id : String) :
    o.methodReference place methodPlace id = o'.methodReference place methodPlace id := by
  rw [← methodReference_bare, h, methodReference_bare]

section Places

variable {o : SourceOutline} {place methodPlace : Nat} {t : TypeOutline} {m : Method}
  (ht : o.types[place]? = some t) (hm : t.methods[methodPlace]? = some m) (id : String)

include ht hm

theorem methodValue_of_getElem? : o.methodValue place methodPlace id = m.metrics.get? id := by
  simp only [methodValue, ht, Option.bind_some, hm]

theorem methodReference_of_getElem? : o.methodReference place methodPlace id = m.reference id := by
  simp only [methodReference, ht, Option.bind_some, hm]

end Places

/-- Stored values are all right if those of each method are, one by one. -/
theorem isSound_of_stored {o : SourceOutline}
    (h : ∀ t ∈ o.types, ∀ m ∈ t.methods, ∀ e ∈ m.metrics, m.reference e.1 = some e.2) :
    o.IsSound := by
  intro place methodPlace id v _ hv
  obtain ⟨t, ht, hmethod⟩ := Option.bind_eq_some_iff.1 hv
  obtain ⟨m, hm, hstored⟩ := Option.bind_eq_some_iff.1 hmethod
  obtain ⟨before, after, hmetrics, -⟩ := List.lookup_eq_some_iff.1 hstored
  have hmem : (id, v) ∈ m.metrics := by simp [hmetrics]
  rw [methodReference_of_getElem? ht hm]
  exact h t (List.mem_of_getElem? ht) m (List.mem_of_getElem? hm) _ hmem

/-- Source files of one structure have the same types at the same places. -/
theorem exists_type_of_bare_eq {o o' : SourceOutline} (h : o'.bare = o.bare) {place : Nat}
    {t : TypeOutline} (ht : o.types[place]? = some t) :
    ∃ t', o'.types[place]? = some t' ∧ t'.bare = t.bare := by
  have htypes : o'.types.map TypeOutline.bare = o.types.map TypeOutline.bare :=
    congrArg SourceOutline.types h
  have hplace := congrArg (fun ts => ts[place]?) htypes
  simp only [List.getElem?_map, ht, Option.map_some] at hplace
  exact Option.map_eq_some_iff.1 hplace

end SourceOutline

/-! ## What a pass stores -/

section Pass

variable {ids : List String} {a b : Analysis} (hholds : b.outline.Holds ids) (hspares : Spares ids a b)

include hspares

/-- What is stored for a metric of types that is not computed. -/
theorem typeValue_of_spares (hids : ∀ id ∈ ids, isTypeMetric id = false) (place : Nat) (id : String) :
    b.outline.typeValue place id = a.outline.typeValue place id := by
  have hdrop : isAmong isTypeMetric ids id = false := by
    cases hmem : isAmong isTypeMetric ids id with
    | false => rfl
    | true =>
      obtain ⟨hid, hmetric⟩ := isAmong_iff.1 hmem
      rw [hids id hid] at hmetric
      cases hmetric
  rw [← b.outline.typeValue_without place hdrop, hspares, a.outline.typeValue_without place hdrop]

include hholds

/-- **What is stored for a metric of methods after a pass**: what is right if it was computed, and what
    was there before otherwise. -/
theorem methodValue_of_spares (place methodPlace : Nat) (id : String) :
    b.outline.methodValue place methodPlace id =
      if isAmong isMethodMetric ids id then a.outline.methodReference place methodPlace id
      else a.outline.methodValue place methodPlace id := by
  have hbare : b.outline.bare = a.outline.bare := SourceOutline.bare_eq_of_without_eq hspares
  rw [SourceOutline.methodValue_eq hholds, hbare, hspares]
  cases hdrop : isAmong isMethodMetric ids id with
  | true => exact a.outline.methodReference_bare place methodPlace id
  | false => exact a.outline.methodValue_without place methodPlace hdrop

/-- **A pass leaves right what is right.** -/
theorem SourceOutline.IsSound.of_spares (ha : a.outline.IsSound) : b.outline.IsSound := by
  intro place methodPlace id v hid hv
  have hbare : b.outline.bare = a.outline.bare := SourceOutline.bare_eq_of_without_eq hspares
  rw [methodReference_congr hbare]
  rw [methodValue_of_spares hholds hspares] at hv
  split at hv
  · exact hv
  · exact ha place methodPlace id v hid hv

/-- **A pass keeps what is right**: a value that is computed again is the same. -/
theorem SourceOutline.IsSound.keeps (ha : a.outline.IsSound)
    (hids : ∀ id ∈ ids, isTypeMetric id = false) : a.outline.Keeps b.outline where
  typeValue place id v hv := by rw [typeValue_of_spares hspares hids, hv]
  methodValue place methodPlace id v hv := by
    rw [methodValue_of_spares hholds hspares]
    cases hdrop : isAmong isMethodMetric ids id with
    | false => exact hv
    | true => exact ha place methodPlace id v (isAmong_iff.1 hdrop).2 hv

end Pass

/-! ## Completion -/

/-- The metrics that rules read are metrics of methods, and not of types. -/
theorem Smell.isTypeMetric_of_requires (s : Smell) : ∀ id ∈ s.requires, isTypeMetric id = false := by
  cases s <;> decide

theorem TypeOutline.exists_method_of_bare_eq {t t' : TypeOutline} (h : t'.bare = t.bare)
    {methodPlace : Nat} {m' : Method} (hm' : t'.methods[methodPlace]? = some m') :
    ∃ m, t.methods[methodPlace]? = some m := by
  have hmethods : t'.methods.map Method.bare = t.methods.map Method.bare :=
    congrArg TypeOutline.methods h
  have hplace := congrArg (fun ms => ms[methodPlace]?) hmethods
  simp only [List.getElem?_map, hm', Option.map_some] at hplace
  obtain ⟨m, hm, -⟩ := Option.map_eq_some_iff.1 hplace.symm
  exact ⟨m, hm⟩

section Completion

variable {t : Thresholds} {own : Option Engine}
  (hown : Engine.make .standard = .ok (own.getD .standard))

include hown

/-- **What a type lacks is computed**, and all else is left alone. -/
theorem Detector.complete_spares (type : TypeOutline) (a : Analysis) : ∃ b,
    (builtin t own).complete type a = (.ok (), b) ∧
      b.outline.Holds ((builtin t own).missing type) ∧ Spares ((builtin t own).missing type) a b := by
  have hsmells : ∀ id ∈ (builtin t own).missing type, ∃ s : Smell, id ∈ s.requires :=
    fun id hid => ⟨t.smell, (mem_missing_iff.1 hid).1⟩
  obtain ⟨ids, b, hb, hholds, hspares⟩ := Engine.compute_of_smells hown hsmells a
  have hengine : (builtin t own).engine = own := rfl
  unfold complete
  split
  · next hempty =>
    rw [List.isEmpty_iff.1 hempty]
    exact ⟨a, rfl, a.outline.holds_nil, rfl⟩
  · rw [hengine, hb]
    exact ⟨b, rfl, hholds, hspares⟩

/-- **What is stored on a completed type** for a metric that its rule reads: what is right, or what was
    stored before. -/
theorem Detector.complete_values (a : Analysis) {place : Nat} {type : TypeOutline}
    (hplace : a.outline.types[place]? = some type) : ∃ b completed,
    (builtin t own).complete type a = (.ok (), b) ∧
      b.outline.types[place]? = some completed ∧ completed.bare = type.bare ∧
      b.outline.Holds ((builtin t own).missing type) ∧ Spares ((builtin t own).missing type) a b ∧
      ∀ (j : Nat) (m' : Method), completed.methods[j]? = some m' → ∃ m,
        type.methods[j]? = some m ∧ ∀ id ∈ t.smell.requires, ∃ v, m'.metrics.get? id = some v ∧
          (m'.reference id = some v ∨ m.metrics.get? id = some v) := by
  obtain ⟨b, hb, hholds, hspares⟩ := complete_spares (t := t) hown type a
  have hbare : b.outline.bare = a.outline.bare := SourceOutline.bare_eq_of_without_eq hspares
  obtain ⟨completed, hcompleted, hsame⟩ := SourceOutline.exists_type_of_bare_eq hbare hplace
  refine ⟨b, completed, hb, hcompleted, hsame, hholds, hspares, fun j m' hj => ?_⟩
  obtain ⟨m, hm⟩ := TypeOutline.exists_method_of_bare_eq hsame hj
  refine ⟨m, hm, fun id hid => ?_⟩
  have hvalue := methodValue_of_spares hholds hspares place j id
  rw [b.outline.methodValue_of_getElem? hcompleted hj, a.outline.methodValue_of_getElem? hplace hm,
    ← SourceOutline.methodReference_congr hbare,
    b.outline.methodReference_of_getElem? hcompleted hj] at hvalue
  have hmetric : isMethodMetric id = true := t.smell.isMethodMetric_of_requires id hid
  by_cases hlacks : id ∈ (builtin t own).missing type
  · -- it has been computed
    rw [if_pos (isAmong_iff.2 ⟨hlacks, hmetric⟩)] at hvalue
    obtain ⟨v, hv⟩ := (m'.isMethodMetric_iff id).1 hmetric
    exact ⟨v, hvalue.trans hv, .inl hv⟩
  · -- every method of the type has had it, and so has this one
    have hhas : m.metrics.has id = true := by
      by_contra hnot
      exact hlacks (mem_missing_iff.2
        ⟨hid, m, List.mem_of_getElem? hm, Bool.eq_false_iff.2 hnot⟩)
    rw [if_neg fun h => hlacks (isAmong_iff.1 h).1] at hvalue
    obtain ⟨v, hv⟩ := (Metrics.has_iff _ _).1 hhas
    exact ⟨v, hvalue.trans hv, .inr hv⟩

/-- **A completed type has all that its rule reads**, and it is right. -/
theorem Detector.complete_holds {a : Analysis} (ha : a.outline.IsSound) {place : Nat}
    {type : TypeOutline} (hplace : a.outline.types[place]? = some type) : ∃ b completed,
    (builtin t own).complete type a = (.ok (), b) ∧
      b.outline.types[place]? = some completed ∧ completed.bare = type.bare ∧
      completed.Holds t.smell.requires ∧ b.outline.IsSound ∧ b.outline.bare = a.outline.bare ∧
      a.outline.Keeps b.outline := by
  obtain ⟨b, completed, hb, hcompleted, hsame, hholds, hspares, hvalues⟩ :=
    complete_values (t := t) hown a hplace
  have hbare : b.outline.bare = a.outline.bare := SourceOutline.bare_eq_of_without_eq hspares
  have hsound : b.outline.IsSound := ha.of_spares hholds hspares
  have hkeeps : a.outline.Keeps b.outline := ha.keeps hholds hspares fun id hid =>
    t.smell.isTypeMetric_of_requires id (mem_missing_iff.1 hid).1
  refine ⟨b, completed, hb, hcompleted, hsame, ⟨?metrics, ?methods⟩, hsound, hbare, hkeeps⟩
  case metrics =>
    -- none of them is a metric of types
    intro id hid v hv
    have hmetric := (completed.isTypeMetric_iff id).2 ⟨v, hv⟩
    rw [t.smell.isTypeMetric_of_requires id hid] at hmetric
    cases hmetric
  case methods =>
    intro m' hm' id hid v hv
    obtain ⟨j, hj⟩ := List.getElem?_of_mem hm'
    obtain ⟨_, _, hstored⟩ := hvalues j m' hj
    obtain ⟨stored, hget, -⟩ := hstored id hid
    -- what is stored is right, wherever it comes from
    have hright := hsound place j id stored (t.smell.isMethodMetric_of_requires id hid)
      ((b.outline.methodValue_of_getElem? hcompleted hj id).trans hget)
    rw [b.outline.methodReference_of_getElem? hcompleted hj, hv] at hright
    rw [hget, hright]

/-- **A detector gives the verdict of the rule on a source file that was measured in part.** -/
theorem Detector.detect_of_isSound (ht : t.IsAccepted) {a : Analysis} (ha : a.outline.IsSound)
    {place : Nat} {type : TypeOutline} (hplace : a.outline.types[place]? = some type) : ∃ b,
    (builtin t own).detect place a = (.ok (t.verdictOn type), b) ∧ b.outline.IsSound ∧
      b.outline.bare = a.outline.bare ∧ a.outline.Keeps b.outline := by
  obtain ⟨b, completed, hcomplete, hcompleted, hsame, hholds, hsound, hbare, hkeeps⟩ :=
    complete_holds (t := t) hown ha hplace
  refine ⟨b, ?_, hsound, hbare, hkeeps⟩
  rw [detect_of_complete hplace hcomplete hcompleted,
    Thresholds.flagged_eq ht (fun _ hid => hid) hholds, ← t.verdictOn_bare, ← hsame, t.verdictOn_bare]
  exact congrArg (fun v => (Except.ok v, b)) (verdict_offenders own completed)

end Completion

/-! ## Detection after a full computation -/

/-- The engine of the built-in metrics is made from their registry. -/
theorem Engine.make_standard : Engine.make .standard = .ok .standard := by
  obtain ⟨e, he⟩ := Registry.isBuiltIn_standard.make_ok
  have hstandard : Engine.standard = e := by rw [Engine.standard, he]
  rw [hstandard, he]

/-- The engine of a detector is the same with and without one of its own. -/
theorem Engine.make_getD {e : Engine} (he : Engine.make .standard = .ok e) {own : Option Engine}
    (hown : own = none ∨ own = some e) : Engine.make .standard = .ok (own.getD .standard) := by
  rcases hown with rfl | rfl
  · exact make_standard
  · exact he

/-- After all metrics have been computed a detector gives the verdict of the rule, and computes nothing
    more. -/
theorem Detector.detect_of_compute {e : Engine} (he : Engine.make .standard = .ok e) {t : Thresholds}
    (ht : t.IsAccepted) (own : Option Engine) (a : Analysis) {place : Nat} {type : TypeOutline}
    (hplace : a.outline.types[place]? = some type) : ∃ ids c,
    e.compute none a = (.ok ids, c) ∧
      (builtin t own).detect place c = (.ok (t.verdictOn type), c) := by
  have hregistered : ∀ id ∈ Option.getD none Registry.standard.ids, id ∈ Registry.standard.ids :=
    fun _ hid => hid
  obtain ⟨ids, hids, hcompute⟩ :=
    Engine.compute_holds Registry.isBuiltIn_standard he hregistered
  obtain ⟨c, hc, hholds, hspares⟩ := hcompute a
  obtain ⟨computed, hcomputed, hsame⟩ := SourceOutline.exists_type_of_bare_eq
    (SourceOutline.bare_eq_of_without_eq hspares) hplace
  have hrequires : ∀ id ∈ t.smell.requires, id ∈ ids := fun id hid =>
    (hids id).2 (.target (t.smell.mem_standard_of_requires id hid))
  refine ⟨ids, c, hc, ?_⟩
  rw [detect_eq ht hrequires (hholds computed (List.mem_of_getElem? hcomputed)) own hcomputed,
    ← t.verdictOn_bare, hsame, t.verdictOn_bare]

/-- **Detection on what was measured in part agrees with detection on what was measured.** Limits have
    been accepted, and the engine of the detector, if it has one, is that of the built-in metrics. Some
    metrics of methods are stored, and those that are stored are right. -/
theorem detect_completes {e : Engine} (he : Engine.make .standard = .ok e) {t : Thresholds}
    (ht : t.IsAccepted) {own : Option Engine} (hown : own = none ∨ own = some e) {a : Analysis}
    (ha : a.outline.IsSound) {place : Nat} (hplace : place < a.outline.types.length) :
    ∃ verdict b ids c,
      -- the verdict on the source file as it is, and after all metrics have been computed
      (Detector.builtin t own).detect place a = (.ok verdict, b) ∧
      e.compute none a = (.ok ids, c) ∧
      (Detector.builtin t own).detect place c = (.ok verdict, c) ∧
      -- it is what the rule says of the structure of the type
      verdict = t.verdictOn a.outline.types[place] ∧
      -- what is stored afterwards is right, and what was stored is stored still
      b.outline.IsSound ∧ b.outline.bare = a.outline.bare ∧ a.outline.Keeps b.outline := by
  have htype := List.getElem?_eq_getElem hplace
  obtain ⟨b, hlazy, hsound, hbare, hkeeps⟩ :=
    Detector.detect_of_isSound (Engine.make_getD he hown) ht ha htype
  obtain ⟨ids, c, hcompute, hfull⟩ := Detector.detect_of_compute he ht own a htype
  exact ⟨_, b, ids, c, hlazy, hcompute, hfull, rfl, hsound, hbare, hkeeps⟩

/-- A class whose first method has its decisions counted and its lines not, and whose second method has
    it the other way round; then a class of which nothing is known. -/
def partlyMeasured : SourceOutline where
  path := "parts.py"
  language := "python"
  types := [
    { name := "Parts", archetype := .classOrInterface, modifiers := default, extent := ⟨1, 6⟩
      methods := [
        { name := "branching", modifiers := default, parameters := [], extent := ⟨2, 4⟩
          body := [.mk .ifThen ⟨3, 4⟩ [] [.mk .simple ⟨4, 4⟩ [] []]], metrics := [("CYCLO", .int 2)] },
        { name := "plain", modifiers := default, parameters := [], extent := ⟨5, 6⟩
          body := [.mk .simple ⟨6, 6⟩ [] []], metrics := [("MLOC", .int 2)] }]
      fields := [], metrics := [] },
    { name := "Fresh", archetype := .classOrInterface, modifiers := default, extent := ⟨7, 8⟩
      methods := [
        { name := "empty", modifiers := default, parameters := [], extent := ⟨8, 8⟩, body := []
          metrics := [] }]
      fields := [], metrics := [] }]

/-- The branching method is found, and its value is stored still. -/
theorem detect_completes_parts : ∃ b,
    (Detector.builtin ⟨.complexMethod, [("cc", .int 2)]⟩ none).detect 0 ⟨partlyMeasured, [], []⟩ =
        (.ok (some ⟨.complexMethod, ["branching"], [("CYCLO", .int 2)]⟩), b) ∧
      b.outline.methodValue 0 0 "CYCLO" = some (.int 2) := by
  have hmade : Thresholds.make .complexMethod [("cc", .int 2)] =
      .ok ⟨.complexMethod, [("cc", .int 2)]⟩ := rfl
  have haccepted := Thresholds.isAccepted_of_make hmade
  have hsound : partlyMeasured.IsSound := by
    refine SourceOutline.isSound_of_stored ?_
    simp only [partlyMeasured, List.forall_mem_cons]
    exact ⟨⟨⟨rfl, nofun⟩, ⟨rfl, nofun⟩, nofun⟩, ⟨nofun, nofun⟩, nofun⟩
  have hplace : 0 < partlyMeasured.types.length := by decide
  obtain ⟨verdict, b, ids, c, hlazy, -, -, hverdict, -, -, hkeeps⟩ :=
    detect_completes Engine.make_standard haccepted (.inl rfl) (a := ⟨partlyMeasured, [], []⟩) hsound
      hplace
  rw [hverdict] at hlazy
  exact ⟨b, hlazy, hkeeps.methodValue 0 0 "CYCLO" (.int 2) rfl⟩

end HistoryMetrics
