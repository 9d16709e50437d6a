import HistoryMetrics.Proofs.Mining.Interference
import HistoryMetrics.Proofs.Mining.Namesakes
import HistoryMetrics.Python.Provider

/-! # What a record says of the methods of a type

    A record carries the number of methods of a type and their weight, and beside these the metrics
    of the methods by name. With the built-in metrics all of these are the values of the structure;
    but of methods that share a name only the last has its metrics in the record. So number and
    weight come from the entries together with the methods that are lost, and from the entries alone
    just when no two methods share a name.

    - `TypeRecord.AccountsFor`: what a record says of a type
    - `recordOf_accountsFor`: the record of a type that was measured
    - `LeavesMeasured`: detectors that leave a measured source file as it is
    - `records_accountFor_types`: the records of source files
-/

namespace HistoryMetrics

open HistoryMetrics.Action

/-! ## Records and types -/

/-- The whole number that is stored under a name; zero when there is none. -/
def Metrics.wholeAt (m : Metrics) (name : String) : Int :=
  match m.get? name with
  | some (.number (.whole i)) => i
  | _ => 0

/-- The sum of the complexities in the entries of a record. -/
def TypeRecord.decisions (r : TypeRecord) : Int := (r.methods.map fun e => e.2.wholeAt "CYCLO").sum

/-- The sum of the complexities of methods. -/
def weightOf (ms : List Method) : Nat := (ms.map Method.complexity).sum

/-- **A record accounts for a type.**

    - `typeName`, `metrics`: its name, and all metrics of types with the values of the structure
    - `names`: an entry for each name of a method, in the order in which names are first used
    - `entries`: it has all metrics of the last method of its name
    - `count`, `weight`: number and weight of the methods, from the entries and what is lost
    - `countKept_iff`, `weightKept_iff`: from the entries alone, when no name is used twice
-/
structure TypeRecord.AccountsFor (r : TypeRecord) (t : TypeOutline) : Prop where
  typeName : r.typeName = t.name
  metrics : r.metrics.Holds Registry.standard.ids t.reference
  names : r.methods.map Prod.fst = (t.methods.map Method.name).eraseDups
  entries : ∀ e ∈ r.methods, ∃ m ∈ lastNamed t.methods,
    e.1 = m.name ∧ e.2.Holds Registry.standard.ids m.reference
  count : r.metrics.get? "NOM" = some (.int (r.methods.length + (overshadowed t.methods).length))
  weight : r.metrics.get? "WMC" = some (.int (r.decisions + weightOf (overshadowed t.methods)))
  countKept_iff :
    r.metrics.get? "NOM" = some (.int r.methods.length) ↔ (t.methods.map Method.name).Nodup
  weightKept_iff :
    r.metrics.get? "WMC" = some (.int r.decisions) ↔ (t.methods.map Method.name).Nodup

/-! ### Weights -/

theorem weightOf_bare (ms : List Method) : weightOf (ms.map Method.bare) = weightOf ms := by
  rw [weightOf, List.map_map]
  rfl

/-- Every method weighs something. -/
theorem weightOf_eq_zero_iff (ms : List Method) : weightOf ms = 0 ↔ ms = [] := by
  cases ms with
  | nil => exact iff_of_true rfl rfl
  | cons m ms =>
    have hm : 1 ≤ m.complexity := Nat.le_add_right 1 _
    simp only [weightOf, List.map_cons, List.sum_cons, reduceCtorEq, iff_false]
    omega

theorem weightOf_lastNamed (ms : List Method) :
    weightOf (lastNamed ms) + weightOf (overshadowed ms) = weightOf ms := by
  have hperm := ((lastNamed_append_overshadowed_perm ms).map Method.complexity).sum_eq
  rwa [List.map_append, List.sum_append] at hperm

/-- The entries of methods on which the metrics hold weigh what the kept methods weigh. -/
theorem sum_methodEntries {ms : List Method} (h : ∀ m ∈ ms, m.Holds Registry.standard.ids) :
    ((methodEntries ms).map fun e => e.2.wholeAt "CYCLO").sum = weightOf (lastNamed ms) := by
  have hkept : ∀ m ∈ lastNamed ms, m.metrics.wholeAt "CYCLO" = (m.complexity : Int) := by
    intro m hm
    have hmem : m ∈ ms := (lastNamed_append_overshadowed_perm ms).mem_iff.1 (List.mem_append_left _ hm)
    rw [Metrics.wholeAt, h m hmem "CYCLO" (by decide) _ m.reference_complexity]
    rfl
  rw [((methodEntries_perm ms).map _).sum_eq, List.map_map, weightOf, Nat.cast_list_sum,
    List.map_map]
  exact congrArg List.sum (List.map_congr_left hkept)

/-! ### The record of a type -/

/-- A record accounts for all types of one structure. -/
theorem TypeRecord.AccountsFor.of_bare_eq {r : TypeRecord} {t t' : TypeOutline}
    (h : r.AccountsFor t) (hbare : t.bare = t'.bare) : r.AccountsFor t' := by
  have hreference : t.reference = t'.reference := funext fun id => by
    rw [← t.reference_bare, hbare, t'.reference_bare]
  have hmethods : t.methods.map Method.bare = t'.methods.map Method.bare :=
    congrArg TypeOutline.methods hbare
  have hnames : t.methods.map Method.name = t'.methods.map Method.name := by
    rw [← map_name_bare, hmethods, map_name_bare]
  have hkept : (lastNamed t.methods).map Method.bare = (lastNamed t'.methods).map Method.bare := by
    rw [← lastNamed_bare, hmethods, lastNamed_bare]
  have hlost : (overshadowed t.methods).map Method.bare =
      (overshadowed t'.methods).map Method.bare := by
    rw [← overshadowed_bare, hmethods, overshadowed_bare]
  have hlength : (overshadowed t.methods).length = (overshadowed t'.methods).length := by
    simpa using congrArg List.length hlost
  have hweight : weightOf (overshadowed t.methods) = weightOf (overshadowed t'.methods) := by
    rw [← weightOf_bare, hlost, weightOf_bare]
  constructor
  case typeName => exact h.typeName.trans (congrArg TypeOutline.name hbare :)
  case metrics => exact hreference ▸ h.metrics
  case names => exact hnames ▸ h.names
  case entries =>
    intro e he
    obtain ⟨m, hm, hname, hholds⟩ := h.entries e he
    have hmem : m.bare ∈ (lastNamed t'.methods).map Method.bare := hkept ▸ List.mem_map_of_mem hm
    obtain ⟨m', hm', hsame⟩ := List.mem_map.1 hmem
    have hvalues : m'.reference = m.reference := funext fun id => by
      rw [← m'.reference_bare, hsame, m.reference_bare]
    exact ⟨m', hm', hname.trans (congrArg Method.name hsame.symm :), hvalues ▸ hholds⟩
  case count => exact hlength ▸ h.count
  case weight => exact hweight ▸ h.weight
  case countKept_iff => exact hnames ▸ h.countKept_iff
  case weightKept_iff => exact hnames ▸ h.weightKept_iff

/-- **The record of a type on which all metrics hold** accounts for it. -/
theorem recordOf_accountsFor {t : TypeOutline} (h : t.Holds Registry.standard.ids) (commit : String)
    (moment : Moment) (path : String) (smells : List Verdict) :
    (recordOf commit moment path smells t).AccountsFor t := by
  have hlength : (methodEntries t.methods).length + (overshadowed t.methods).length =
      t.methods.length := by
    rw [(methodEntries_perm t.methods).length_eq, List.length_map, ← List.length_append]
    exact (lastNamed_append_overshadowed_perm t.methods).length_eq
  have hdecisions : (recordOf commit moment path smells t).decisions =
      weightOf (lastNamed t.methods) := sum_methodEntries h.methods
  have hcount : t.metrics.get? "NOM" = some (.int t.methods.length) :=
    h.metrics "NOM" (by decide) _ rfl
  have hweight : t.metrics.get? "WMC" = some (.int t.decisionWeight) :=
    h.metrics "WMC" (by decide) _ rfl
  have hsum : weightOf (lastNamed t.methods) + weightOf (overshadowed t.methods) =
      t.decisionWeight := (weightOf_lastNamed t.methods).trans t.sum_complexity_eq
  constructor
  case typeName => rfl
  case metrics => exact h.metrics
  case names => exact map_fst_methodEntries t.methods
  case entries =>
    intro e he
    obtain ⟨m, hm, rfl⟩ := List.mem_map.1 ((methodEntries_perm t.methods).mem_iff.1 he)
    have hmem : m ∈ t.methods :=
      (lastNamed_append_overshadowed_perm t.methods).mem_iff.1 (List.mem_append_left _ hm)
    exact ⟨m, hm, rfl, h.methods m hmem⟩
  case count =>
    show t.metrics.get? "NOM" = _
    rw [hcount, ← hlength, Nat.cast_add]
    rfl
  case weight =>
    show t.metrics.get? "WMC" = _
    rw [hweight, hdecisions, ← hsum, Nat.cast_add]
  case countKept_iff =>
    show t.metrics.get? "NOM" = some (.int (methodEntries t.methods).length) ↔ _
    rw [hcount, ← overshadowed_eq_nil_iff, ← List.length_eq_zero_iff]
    simp only [Option.some.injEq, Value.int, Value.number.injEq, Number.whole.injEq]
    omega
  case weightKept_iff =>
    show t.metrics.get? "WMC" = _ ↔ _
    rw [hweight, hdecisions, ← overshadowed_eq_nil_iff, ← weightOf_eq_zero_iff]
    simp only [Option.some.injEq, Value.int, Value.number.injEq, Number.whole.injEq]
    omega

/-! ## Detectors that leave a measured file as it is -/

/-- **If all metrics hold on a source file, it is left as it is.** -/
def LeavesMeasured (a b : Analysis) : Prop :=
  a.outline.Holds Registry.standard.ids → b.outline = a.outline

instance : Std.Refl LeavesMeasured := ⟨fun _ _ => rfl⟩

instance : IsTrans Analysis LeavesMeasured :=
  ⟨fun _ _ _ hab hbc ha => (hbc ((hab ha).symm ▸ ha)).trans (hab ha)⟩

theorem leavesMeasured_logged (a : Analysis) (r : LogRecord) : LeavesMeasured a (a.logged r) :=
  fun _ => rfl

section Engine

variable {e : Engine} (he : Engine.make .standard = .ok e)

include he

theorem Engine.leavesMeasured_compute (targets : Option (List String)) :
    Moves LeavesMeasured (e.compute targets) :=
  fun _ ha => compute_rests Registry.isBuiltIn_standard he ha targets

theorem leavesMeasured_detectSmells {ds : List Detector}
    (h : ∀ d ∈ ds, ∀ i, Moves LeavesMeasured (d.detect i)) :
    Moves LeavesMeasured (detectSmells ds e) :=
  moves_detectSmells leavesMeasured_logged (Engine.leavesMeasured_compute he _) h

end Engine

/-- Built-in detectors find nothing missing, whatever their thresholds and their engines. -/
theorem Detector.leavesMeasured_of_mem_detectorsOf {settings : List (Thresholds × Option Engine)}
    {d : Detector} (hd : d ∈ detectorsOf settings) (i : Nat) :
    Moves LeavesMeasured (d.detect i) := by
  obtain ⟨⟨t, own⟩, -, rfl⟩ := List.mem_map.1 hd
  intro a ha
  show ((builtin t own).detectByRule i a).2.outline = a.outline
  cases htype : a.outline.types[i]? with
  | none => simp only [detectByRule, htype]
  | some type =>
    have hcomplete := complete_eq_of_holds t.smell.mem_standard_of_requires
      (ha type (List.mem_of_getElem? htype)) own a
    simp only [detectByRule, htype, hcomplete]

namespace Miner

/-! ## Records of source files -/

section Standard

variable {σ : Type} {m : Miner σ} (he : Engine.make .standard = .ok m.engine)

include he

/-- A source file that was measured has its structure, and all metrics hold on it. -/
theorem Measures.holds {o measured : SourceOutline} {w w' : World σ}
    (h : Measures m o w measured w') :
    measured.Holds Registry.standard.ids ∧ measured.bare = o.bare := by
  have hregistered : ∀ t ∈ Option.getD none Registry.standard.ids, t ∈ Registry.standard.ids :=
    fun _ ht => ht
  obtain ⟨ids, a, hcompute, rfl, -⟩ := h
  obtain ⟨ids', hids, hall⟩ := Engine.compute_holds Registry.isBuiltIn_standard he hregistered
  obtain ⟨b, hb, hholds, hspares⟩ := hall (w.analysisOf o)
  cases hcompute.symm.trans hb
  exact ⟨hholds.mono fun id hid => (hids id).2 (.target hid),
    SourceOutline.bare_eq_of_without_eq hspares⟩

section Looking

variable (hlook : ∀ d ∈ m.detectors, ∀ i, Moves LeavesMeasured (d.detect i))

include hlook

/-- **The records of a source file** account for its types. -/
theorem Examines.accountFor {x : Examined} {w w' : World σ} (h : Examines m w x w') (c : Commit) :
    List.Forall₂ TypeRecord.AccountsFor (x.records c) x.parsed.types := by
  obtain ⟨measured, w₁, a, hmeasured, hdetect, hjudged, -⟩ := h
  obtain ⟨hholds, hbare⟩ := hmeasured.holds he
  -- the detectors leave what was measured
  have hout : x.judged = measured := by
    rw [hjudged]
    exact (leavesMeasured_detectSmells he hlook).of_eq hdetect hholds
  have htypes : x.judged.types.map TypeOutline.bare = x.parsed.types.map TypeOutline.bare := by
    rw [hout]
    exact congrArg SourceOutline.types hbare
  have hlength : x.judged.types.length = x.parsed.types.length := by
    simpa using congrArg List.length htypes
  refine List.forall₂_iff_get.2 ⟨(x.length_records c).trans hlength, fun i hrecord htype => ?_⟩
  have hi : i < x.judged.types.length := hlength ▸ htype
  have hsame : x.judged.types[i].bare = x.parsed.types[i].bare := by
    simpa [hi, htype] using congrArg (fun ts => ts[i]?) htypes
  have hrecorded : (x.records c).get ⟨i, hrecord⟩ = recordOf c.id c.committer.moment x.judged.path
      (verdictsAt x.findings i) x.judged.types[i] := by
    simp [Examined.records, recordsOf]
  rw [hrecorded]
  refine TypeRecord.AccountsFor.of_bare_eq (recordOf_accountsFor ?_ _ _ _ _) hsame
  exact (hout ▸ hholds) _ (List.getElem_mem hi)

theorem ExaminesAll.accountFor {xs : List Examined} {w w' : World σ} (h : ExaminesAll m w xs w')
    (c : Commit) : List.Forall₂ TypeRecord.AccountsFor (xs.flatMap (Examined.records c))
      ((xs.map Examined.parsed).flatMap SourceOutline.types) := by
  induction h with
  | nil w => exact .nil
  | cons hx _ ih => exact List.rel_append (hx.accountFor he hlook c) ih

/-- The records of source files account for their types. -/
theorem accountFor_of_recordsOfAll {c : Commit} {os : List SourceOutline} {w w' : World σ}
    {records : List TypeRecord} (h : m.recordsOfAll c os w = (.ok records, w')) :
    List.Forall₂ TypeRecord.AccountsFor records (os.flatMap SourceOutline.types) := by
  rcases recordsOfAll_cases m c os w with
    ⟨xs, w₁, rfl, hxs, hrun⟩ | ⟨_, _, _, _, _, _, _, _, _, _, hrun⟩
  · cases h.symm.trans hrun
    exact hxs.accountFor he hlook c
  · cases h.symm.trans hrun

end Looking

end Standard

/-- **The records of source files account for their types.** The metrics are the built-in ones. The
    detectors leave measured files as they are; or they are built-in ones, and then there are such
    records for sure. -/
theorem records_accountFor_types {σ : Type} {m : Miner σ} {config : Config} {provider : Provider σ}
    {sink : Sink σ} {given : Option (List Detector)}
    (hmake : make config provider sink .standard given = .ok m) (c : Commit)
    (os : List SourceOutline) (w : World σ) :
    ((∀ d ∈ m.detectors, ∀ i, Moves LeavesMeasured (d.detect i)) →
      ∀ records w', m.recordsOfAll c os w = (.ok records, w') →
        List.Forall₂ TypeRecord.AccountsFor records (os.flatMap SourceOutline.types)) ∧
    ∀ settings, m.detectors = detectorsOf settings → (∀ s ∈ settings, s.1.IsAccepted) →
      ∃ records w', m.recordsOfAll c os w = (.ok records, w') ∧
        List.Forall₂ TypeRecord.AccountsFor records (os.flatMap SourceOutline.types) := by
  obtain ⟨he, -⟩ := engine_of_make hmake
  refine ⟨fun hlook records w' hrun => ?_, fun settings hds haccepted => ?_⟩
  · exact accountFor_of_recordsOfAll he hlook hrun
  · obtain ⟨records, -, hreturns⟩ := recordsOfAll_returns he hds haccepted c os
    obtain ⟨written, hrun⟩ := hreturns w
    refine ⟨records, _, hrun, accountFor_of_recordsOfAll he (fun d hd i => ?_) hrun⟩
    exact Detector.leavesMeasured_of_mem_detectorsOf (hds ▸ hd) i

/-! ### The accessors of a property -/

/-- The body of a class with two functions of one name, the second of which handles exceptions. -/
def accessors : List Python.Stmt :=
  [.function ⟨3, 4, 4⟩ false "x" (.mk [] [.mk "self" none] none [] [] none [])
      [.simple ⟨4, 8, 4⟩ (.giveBack none)] [.name ⟨2, 5, 2⟩ "property"] none,
    .function ⟨6, 4, 10⟩ false "x" (.mk [] [.mk "self" none, .mk "v" none] none [] [] none [])
      [.tryBlock ⟨7, 8, 10⟩ false [.simple ⟨8, 12, 8⟩ .pass]
        [.mk ⟨9, 8, 10⟩ none none [.simple ⟨10, 12, 10⟩ .pass]] [] []]
      [.attribute ⟨5, 5, 5⟩ (.name ⟨5, 5, 5⟩ "x") "setter"] none]

/-- The outline of the first function. -/
def getter : Method :=
  Python.methodOutline ⟨3, 4, 4⟩ "x" (.mk [] [.mk "self" none] none [] [] none [])
    [.simple ⟨4, 8, 4⟩ (.giveBack none)] [.name ⟨2, 5, 2⟩ "property"]

/-- The outline of the second function. -/
def setter : Method :=
  Python.methodOutline ⟨6, 4, 10⟩ "x" (.mk [] [.mk "self" none, .mk "v" none] none [] [] none [])
    [.tryBlock ⟨7, 8, 10⟩ false [.simple ⟨8, 12, 8⟩ .pass]
      [.mk ⟨9, 8, 10⟩ none none [.simple ⟨10, 12, 10⟩ .pass]] [] []]
    [.attribute ⟨5, 5, 5⟩ (.name ⟨5, 5, 5⟩ "x") "setter"]

/-- The outline of the class. -/
def accessorType : TypeOutline where
  name := "C"
  archetype := .classOrInterface
  modifiers := Python.classModifiers "C" []
  extent := ⟨1, 10⟩
  methods := [getter, setter]
  fields := []
  metrics := []

theorem typeOutlinesAll_accessors :
    Python.typeOutlinesAll "" [.classDef ⟨1, 0, 10⟩ "C" [] [] accessors []] = some [accessorType] :=
  rfl

/-- A miner with the default settings. -/
theorem exists_standardMiner : ∃ (m : Miner Unit) (settings : List (Thresholds × Option Engine)),
    make .standard (Python.provider []) .memory .standard none = .ok m ∧
      m.detectors = detectorsOf settings ∧ ∀ s ∈ settings, s.1.IsAccepted := by
  obtain ⟨m, hmake⟩ := exists_make_standard .standard (Python.provider []) .memory
  exact ⟨m, _, hmake, (engine_of_make hmake).2.trans (detectorsFor_eq _),
    Config.hasAccepted_standard.detecting⟩

/-- One entry stands for both functions: the record says that there are two methods with a weight of
    three, and has the complexity of the second one only. -/
theorem records_accountFor_types_accessors : ∃ (m : Miner Unit) (records : List TypeRecord) (w' : _),
    make .standard (Python.provider []) .memory .standard none = .ok m ∧
      m.recordsOfAll default [⟨"mod.py", "python", [accessorType]⟩] worldWithoutCommits =
        (.ok records, w') ∧
      records.map (fun r => (r.methods.map Prod.fst, r.metrics.get? "NOM", r.metrics.get? "WMC",
        r.decisions)) = [(["x"], some (.int 2), some (.int 3), 2)] := by
  obtain ⟨m, settings, hmake, hds, haccepted⟩ := exists_standardMiner
  obtain ⟨records, w', hrun, haccount⟩ := (records_accountFor_types hmake default
    [⟨"mod.py", "python", [accessorType]⟩] worldWithoutCommits).2 settings hds haccepted
  refine ⟨m, records, w', hmake, hrun, ?_⟩
  obtain ⟨r, rest, hr, hrest, rfl⟩ := List.forall₂_cons_right_iff.1 haccount
  cases hrest
  have hnames := hr.names
  have hcount := hr.metrics "NOM" (by decide) _ rfl
  have hweight := hr.metrics "WMC" (by decide) _ rfl
  have hdecisions := hr.weight
  have hone : getter.complexity = 1 := by cbv
  have htwo : setter.complexity = 2 := by cbv
  have hall : accessorType.decisionWeight = 3 := by
    rw [← TypeOutline.sum_complexity_eq, accessorType, List.map_cons, List.map_singleton, hone, htwo]
    rfl
  -- the getter is lost
  have hlost : weightOf (overshadowed accessorType.methods) = 1 := by
    have hgetter : overshadowed accessorType.methods = [getter] := rfl
    rw [hgetter, weightOf, List.map_singleton, hone]
    rfl
  simp only [hall] at hweight
  rw [hweight, hlost] at hdecisions
  simp only [Option.some.injEq, Value.int, Value.number.injEq, Number.whole.injEq] at hdecisions
  have hleft : r.decisions = 2 := by omega
  have hentries : (accessorType.methods.map Method.name).eraseDups = ["x"] := by decide
  rw [List.map_singleton, hnames, hcount, hweight, hleft, hentries]
  rfl

/-- **Not every record keeps the metrics of all methods**: that of a class with two functions of one
    name has fewer entries than there are methods, and less weight in them than the methods have. -/
theorem records_lose_accessors :
    ¬∀ (m : Miner Unit), make .standard (Python.provider []) .memory .standard none = .ok m →
      ∀ (body : List Python.Stmt) (types : List TypeOutline),
        Python.typeOutlinesAll "" body = some types →
        ∀ (path : String) (c : Commit) (w w' : World Unit) (records : List TypeRecord),
          m.recordsOfAll c [⟨path, "python", types⟩] w = (.ok records, w') →
          ∀ r ∈ records, r.metrics.get? "NOM" = some (.int r.methods.length) ∧
            r.metrics.get? "WMC" = some (.int r.decisions) := by
  intro hall
  obtain ⟨m, settings, hmake, hds, haccepted⟩ := exists_standardMiner
  obtain ⟨he, -⟩ := engine_of_make hmake
  obtain ⟨records, -, hreturns⟩ := recordsOfAll_returns he hds haccepted default
    [⟨"mod.py", "python", [accessorType]⟩]
  obtain ⟨written, hrun⟩ := hreturns worldWithoutCommits
  have hlook : ∀ d ∈ m.detectors, ∀ i, Moves LeavesMeasured (d.detect i) := by
    intro d hd i
    exact Detector.leavesMeasured_of_mem_detectorsOf (hds ▸ hd) i
  have haccount := accountFor_of_recordsOfAll he hlook hrun
  have hkept := hall m hmake _ _ typeOutlinesAll_accessors _ _ _ _ _ hrun
  obtain ⟨r, rest, hr, -, rfl⟩ := List.forall₂_cons_right_iff.1 haccount
  have hnodup := hr.countKept_iff.1 (hkept r List.mem_cons_self).1
  revert hnodup
  decide

end Miner

end HistoryMetrics
