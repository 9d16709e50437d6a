import HistoryMetrics.Proofs.Metric.Computation
import HistoryMetrics.Proofs.Smell.Rules
import HistoryMetrics.Smell.Detection

/-! # Detection by the rules

    A detection has all metrics computed that its detectors need, and then they hold. From then on no
    detector has anything computed, and what each finds is said by the structure of the types. So the
    stored values that a source file came with do not matter, and neither does the order of the
    detectors, but for the order of their verdicts.

    - `detectorsOf`: built-in detectors, by their thresholds
    - `verdictsOn`, `findingsOn`: what is to be found, by the structure
    - `runDetectors_eq`, `scan_eq`: the loops over detectors and types find it
    - `detectSmells_follows_rules`: so does the detection, whatever is stored, in every order
-/

namespace HistoryMetrics

open HistoryMetrics.Action

/-! ## What is to be found -/

/-- **Built-in detectors**, each with thresholds and perhaps an engine of its own. -/
def detectorsOf (settings : List (Thresholds × Option Engine)) : List Detector :=
  settings.map fun s => .builtin s.1 s.2

/-- **The verdicts on a type**, in the order of the detectors. -/
def verdictsOn (settings : List (Thresholds × Option Engine)) (type : TypeOutline) : List Verdict :=
  settings.filterMap fun s => s.1.verdictOn type

/-- The finding for the type at a place, if there are verdicts on it. -/
def findingOn (settings : List (Thresholds × Option Engine)) (type : TypeOutline) (place : Nat) :
    Option Finding :=
  if verdictsOn settings type = [] then none
  else some ⟨place, type.name, verdictsOn settings type⟩

/-- **What is to be found among types**, the first of which is at the given place. -/
def findingsOn (settings : List (Thresholds × Option Engine)) (types : List TypeOutline)
    (place : Nat) : List Finding :=
  (types.zipIdx place).filterMap fun x => findingOn settings x.1 x.2

section Structure

variable (settings : List (Thresholds × Option Engine))

/-- The finding for the first type comes before the others. -/
theorem findingsOn_cons (type : TypeOutline) (types : List TypeOutline) (place : Nat) :
    findingsOn settings (type :: types) place =
      (findingOn settings type place).toList ++ findingsOn settings types (place + 1) := by
  simp only [findingsOn, List.zipIdx_cons, List.filterMap_cons]
  cases findingOn settings type place <;> rfl

/-- Findings are for types from the first place on. -/
theorem le_index_of_mem_findingsOn {types : List TypeOutline} {place : Nat} {f : Finding}
    (h : f ∈ findingsOn settings types place) : place ≤ f.index := by
  obtain ⟨⟨type, i⟩, hmem, hfinding⟩ := List.mem_filterMap.1 h
  have hle : place ≤ i := List.le_snd_of_mem_zipIdx hmem
  unfold findingOn at hfinding
  split at hfinding
  · cases hfinding
  · cases hfinding
    exact hle

@[simp] theorem verdictsOn_bare (type : TypeOutline) :
    verdictsOn settings type.bare = verdictsOn settings type := by
  simp only [verdictsOn, Thresholds.verdictOn_bare]

@[simp] theorem findingOn_bare (type : TypeOutline) (place : Nat) :
    findingOn settings type.bare place = findingOn settings type place := by
  simp only [findingOn, verdictsOn_bare]
  rfl

/-- What is to be found depends on the structure only. -/
theorem findingsOn_map_bare (types : List TypeOutline) (place : Nat) :
    findingsOn settings (types.map TypeOutline.bare) place = findingsOn settings types place := by
  simp only [findingsOn, List.zipIdx_map, List.filterMap_map, Function.comp_def, Prod.map_fst,
    Prod.map_snd, findingOn_bare, id]

theorem findingsOn_congr {o o' : SourceOutline} (h : o.bare = o'.bare) :
    findingsOn settings o.types 0 = findingsOn settings o'.types 0 := by
  have htypes : o.types.map TypeOutline.bare = o'.types.map TypeOutline.bare :=
    congrArg SourceOutline.types h
  rw [← findingsOn_map_bare, htypes, findingsOn_map_bare]

end Structure

/-- Without detectors nothing is to be found. -/
theorem findingsOn_nil (types : List TypeOutline) (place : Nat) : findingsOn [] types place = [] :=
  List.filterMap_eq_nil_iff.2 fun _ _ => rfl

/-! ## Order of the detectors -/

/-- **The same finding but for the order of its verdicts.** -/
structure Finding.SameUpToOrder (f f' : Finding) : Prop where
  index : f.index = f'.index
  typeName : f.typeName = f'.typeName
  verdicts : f.verdicts.Perm f'.verdicts

theorem findingsOn_perm {settings settings' : List (Thresholds × Option Engine)}
    (h : settings'.Perm settings) (types : List TypeOutline) (place : Nat) :
    List.Forall₂ Finding.SameUpToOrder (findingsOn settings' types place)
      (findingsOn settings types place) := by
  induction types generalizing place with
  | nil => exact .nil
  | cons type types ih =>
    -- there are verdicts on a type in one order just when there are in the other
    have hverdicts : (verdictsOn settings' type).Perm (verdictsOn settings type) := h.filterMap _
    have hrest := ih (place + 1)
    rw [findingsOn_cons, findingsOn_cons]
    by_cases hnone : verdictsOn settings type = []
    · have hnone' : verdictsOn settings' type = [] := by
        rw [hnone] at hverdicts
        exact hverdicts.eq_nil
      simpa [findingOn, hnone, hnone'] using hrest
    · have hsome' : verdictsOn settings' type ≠ [] := fun heq => by
        rw [heq] at hverdicts
        exact hnone hverdicts.symm.eq_nil
      simp only [findingOn, if_neg hnone, if_neg hsome']
      exact .cons ⟨rfl, rfl, hverdicts⟩ hrest

theorem requiredMetrics_perm {ds ds' : List Detector} (h : ds'.Perm ds) :
    requiredMetrics ds' = requiredMetrics ds :=
  sortedIds_congr fun _ => (h.flatMap_right _).mem_iff

/-! ## The loops -/

section Loops

variable {ids : List String} {settings : List (Thresholds × Option Engine)}
  (haccepted : ∀ s ∈ settings, s.1.IsAccepted)
  (hrequires : ∀ s ∈ settings, ∀ id ∈ s.1.smell.requires, id ∈ ids)

include haccepted hrequires

/-- **All detectors on one type** whose metrics hold. -/
theorem Detection.runDetectors_eq {a : Analysis} {place : Nat} {type : TypeOutline}
    (hplace : a.outline.types[place]? = some type) (htype : type.Holds ids) :
    runDetectors place (detectorsOf settings) a = (.ok (verdictsOn settings type), a) := by
  induction settings with
  | nil => rfl
  | cons s settings ih =>
    have hfirst := Detector.detect_eq (haccepted s List.mem_cons_self)
      (hrequires s List.mem_cons_self) htype s.2 hplace
    have hrest := ih (fun s' hs' => haccepted s' (List.mem_cons_of_mem s hs'))
      fun s' hs' => hrequires s' (List.mem_cons_of_mem s hs')
    simp only [detectorsOf] at hrest
    simp only [detectorsOf, List.map_cons, runDetectors, runDetector, hfirst, hrest]
    cases hverdict : s.1.verdictOn type <;> simp [verdictsOn, hverdict]

/-- **All detectors on all types** of a source file whose metrics hold, from a place on. Only the
    journal grows. -/
theorem Detection.scan_eq {o : SourceOutline} (ho : o.Holds ids) {count place : Nat}
    (hcount : place + count = o.types.length) {a : Analysis} (ha : a.outline = o) :
    ∃ b, scan (detectorsOf settings) count place a =
      (.ok (findingsOn settings (o.types.drop place) place), b) ∧ b.outline = o := by
  induction count generalizing place a with
  | zero =>
    have hend : o.types.drop place = [] := List.drop_eq_nil_of_le (by omega)
    exact ⟨a, by rw [hend]; rfl, ha⟩
  | succ count ih =>
    have hlt : place < o.types.length := by omega
    have hplace : a.outline.types[place]? = some o.types[place] := by
      rw [ha]
      exact List.getElem?_eq_getElem hlt
    have hrun := runDetectors_eq haccepted hrequires hplace (ho _ (List.getElem_mem hlt))
    have hfindings : findingsOn settings (o.types.drop place) place =
        (findingOn settings o.types[place] place).toList ++
          findingsOn settings (o.types.drop (place + 1)) (place + 1) := by
      rw [List.drop_eq_getElem_cons hlt, findingsOn_cons]
    have hfinding : findingOf a.outline place (verdictsOn settings o.types[place]) =
        findingOn settings o.types[place] place := by
      rw [findingOf, hplace]
      rfl
    obtain ⟨c, hc, hstep⟩ := scan_succ hrun
    obtain ⟨b, hb, hout⟩ := ih (by omega : place + 1 + count = _) (hc.trans ha)
    exact ⟨b, by rw [hstep, hb, hfindings, hfinding], hout⟩

end Loops

/-! ## Detection -/

theorem Registry.isBuiltIn_standard : standard.IsBuiltIn where
  builtin _ hp := hp
  closed := by decide

theorem Smell.mem_standard_of_requires (s : Smell) :
    ∀ id ∈ s.requires, id ∈ Registry.standard.ids := by
  cases s <;> decide

/-- The metrics that rules read require no others. -/
theorem Smell.requires_nil_of_requires (s : Smell) : ∀ id ∈ s.requires, ∀ p ∈ Plugin.builtins,
    p.id = id → p.requires = [] := by
  cases s <;> decide

theorem Registry.reaches_iff_of_flat {r : Registry} {ts : List String}
    (h : ∀ p ∈ r.plugins, p.id ∈ ts → p.requires = []) (id : String) : r.Reaches ts id ↔ id ∈ ts := by
  refine ⟨fun hreaches => ?_, .target⟩
  induction hreaches with
  | target ht => exact ht
  | required _ hfound hreq ih =>
    rw [h _ (mem_of_get? hfound) ih] at hreq
    exact absurd hreq List.not_mem_nil

theorem mem_requiredMetrics_detectorsOf {settings : List (Thresholds × Option Engine)} {id : String} :
    id ∈ requiredMetrics (detectorsOf settings) ↔ ∃ s ∈ settings, id ∈ s.1.smell.requires := by
  rw [requiredMetrics, mem_sortedIds, List.mem_flatMap]
  simp only [detectorsOf, List.mem_map, exists_exists_and_eq_and]
  rfl

/-- **Metrics that rules read hold after a pass for them**, and all else is left alone. -/
theorem Engine.compute_of_smells {e : Engine} (he : Engine.make .standard = .ok e)
    {targets : List String} (htargets : ∀ id ∈ targets, ∃ s : Smell, id ∈ s.requires)
    (a : Analysis) :
    ∃ ids b, e.compute (some targets) a = (.ok ids, b) ∧ b.outline.Holds targets ∧
      Spares targets a b := by
  have hregistered : ∀ id ∈ Option.getD (some targets) Registry.standard.ids,
      id ∈ Registry.standard.ids := by
    intro id hid
    obtain ⟨s, hs⟩ := htargets id hid
    exact s.mem_standard_of_requires id hs
  have hflat : ∀ id, Registry.standard.Reaches targets id ↔ id ∈ targets :=
    Registry.reaches_iff_of_flat fun p hp hid => by
      obtain ⟨s, hs⟩ := htargets p.id hid
      exact s.requires_nil_of_requires p.id hs p hp rfl
  obtain ⟨ids, hids, hcompute⟩ := compute_holds Registry.isBuiltIn_standard he hregistered
  obtain ⟨b, hb, hholds, hspares⟩ := hcompute a
  have hsame : ∀ id, id ∈ ids ↔ id ∈ targets := fun id => (hids id).trans (hflat id)
  refine ⟨ids, b, hb, hholds.mono fun id => (hsame id).2, ?_⟩
  rw [Spares, ← SourceOutline.without_congr hsame, hspares, SourceOutline.without_congr hsame]

/-- The metrics that built-in detectors need hold after a pass for them. -/
theorem Engine.compute_requiredMetrics {e : Engine} (he : Engine.make .standard = .ok e)
    (settings : List (Thresholds × Option Engine)) (a : Analysis) :
    ∃ ids b, e.compute (some (requiredMetrics (detectorsOf settings))) a = (.ok ids, b) ∧
      b.outline.Holds (requiredMetrics (detectorsOf settings)) ∧
      Spares (requiredMetrics (detectorsOf settings)) a b := by
  refine compute_of_smells he (fun id hid => ?_) a
  obtain ⟨s, -, hrequires⟩ := mem_requiredMetrics_detectorsOf.1 hid
  exact ⟨s.1.smell, hrequires⟩

section Detection

variable {e : Engine} (he : Engine.make .standard = .ok e)
  {settings : List (Thresholds × Option Engine)} (haccepted : ∀ s ∈ settings, s.1.IsAccepted)

include he haccepted

/-- **A detection finds what the rules say of the structure.** It stores what a pass for its metrics
    stores, and nothing else. -/
theorem detectSmells_eq (a : Analysis) : ∃ b,
    detectSmells (detectorsOf settings) e a = (.ok (findingsOn settings a.outline.types 0), b) ∧
      b.outline = (e.compute (some (requiredMetrics (detectorsOf settings))) a).2.outline := by
  obtain ⟨ids, b, hb, hholds, hspares⟩ := Engine.compute_requiredMetrics he settings a
  have hfindings : findingsOn settings b.outline.types 0 = findingsOn settings a.outline.types 0 :=
    findingsOn_congr settings (SourceOutline.bare_eq_of_without_eq hspares)
  cases settings with
  | nil =>
    -- without detectors nothing is computed, and a pass for nothing stores nothing
    have hnone : requiredMetrics (detectorsOf []) = [] := sortedIds_nil
    rw [hnone, Spares, SourceOutline.without_nil, SourceOutline.without_nil] at hspares
    exact ⟨a, by rw [findingsOn_nil]; rfl, by rw [hb, hspares]⟩
  | cons s settings =>
    have hrequires : ∀ s' ∈ s :: settings, ∀ id ∈ s'.1.smell.requires,
        id ∈ requiredMetrics (detectorsOf (s :: settings)) :=
      fun s' hs' id hid => mem_requiredMetrics_detectorsOf.2 ⟨s', hs', hid⟩
    obtain ⟨c, hc, hout⟩ := Detection.scan_eq haccepted hrequires hholds
      (Nat.zero_add b.outline.types.length) rfl
    rw [List.drop_zero, hfindings] at hc
    refine ⟨c, ?_, by rw [hb, hout]⟩
    have hsome : (detectorsOf (s :: settings)).isEmpty = false := rfl
    simp only [detectSmells, hsome, Bool.false_eq_true, if_false, hb, hc]

/-- **Detection agrees with the rules, whatever is stored and in every order of the detectors.** -/
theorem detectSmells_follows_rules (a : Analysis) : ∃ b,
    detectSmells (detectorsOf settings) e a = (.ok (findingsOn settings a.outline.types 0), b) ∧
      -- the metrics that the rules read hold, and all else is left alone
      b.outline.Holds (requiredMetrics (detectorsOf settings)) ∧
      b.outline.without (requiredMetrics (detectorsOf settings)) =
        a.outline.without (requiredMetrics (detectorsOf settings)) ∧
      -- in another order the same is found but for the order of verdicts, and the same is stored
      ∀ settings' : List (Thresholds × Option Engine), settings'.Perm settings → ∃ found b',
        detectSmells (detectorsOf settings') e a = (.ok found, b') ∧
          List.Forall₂ Finding.SameUpToOrder found (findingsOn settings a.outline.types 0) ∧
          b'.outline = b.outline := by
  obtain ⟨b, hb, hout⟩ := detectSmells_eq he haccepted a
  obtain ⟨ids, c, hc, hholds, hspares⟩ := Engine.compute_requiredMetrics he settings a
  have houtc : b.outline = c.outline := by rw [hout, hc]
  refine ⟨b, hb, by rwa [houtc], by rwa [houtc], fun settings' hperm => ?_⟩
  obtain ⟨b', hb', hout'⟩ := detectSmells_eq he (fun s hs => haccepted s (hperm.mem_iff.1 hs)) a
  have hrequired : requiredMetrics (detectorsOf settings') = requiredMetrics (detectorsOf settings) :=
    requiredMetrics_perm (hperm.map _)
  exact ⟨_, b', hb', findingsOn_perm hperm _ 0, by rw [hout', hrequired, hout]⟩

end Detection

/-! ### Types of one name -/

/-- Two classes of one name, the first of which has a method that branches. The values that are stored
    on the methods are of another time. -/
def twinOutline : SourceOutline where
  path := "twins.py"
  language := "python"
  types := [
    { name := "Twin", archetype := .classOrInterface, modifiers := default, extent := ⟨1, 4⟩
      methods := [
        { name := "branching", modifiers := default, parameters := [], extent := ⟨2, 4⟩
          body := [.mk .ifThen ⟨3, 4⟩ ["x"] [.mk .simple ⟨4, 4⟩ [] []]]
          metrics := [("MLOC", .int 900), ("CYCLO", .null)] }]
      fields := [], metrics := [] },
    { name := "Twin", archetype := .classOrInterface, modifiers := default, extent := ⟨5, 7⟩
      methods := [
        { name := "plain", modifiers := default, parameters := [], extent := ⟨6, 7⟩
          body := [.mk .simple ⟨7, 7⟩ [] []], metrics := [("CYCLO", .int 40)] }]
      fields := [], metrics := [] }]

/-- Low limits of brain methods, with an odd number of lines. -/
def oddLimits : Thresholds :=
  ⟨.brainMethod, [("mloc", .int 5), ("cc", .int 2), ("max_nesting", .int 1), ("noav", .int 0)]⟩

/-- Half of five lines are two lines. -/
theorem breaks_oddLimits_iff (m : Method) : oddLimits.breaks m = true ↔
    2 < m.lineCount ∧ 2 ≤ m.complexity ∧ 1 ≤ m.deepestNesting ∧ 0 < m.distinctVariables := by
  have hhalf : (5 : Int).fdiv 2 = 2 := rfl
  rw [Thresholds.breaks_brainMethod_iff rfl rfl rfl rfl rfl, hhalf]
  omega

/-- Limits of long methods as they are by default, low ones of brain methods, and of complex methods
    down to two. -/
def twinSettings : List (Thresholds × Option Engine) :=
  [(.standard .longMethod, none), (oddLimits, none), (⟨.complexMethod, [("cc", .int 2)]⟩, none)]

/-- Only the first of the two classes has verdicts, for what its method is and not for what was
    stored: it has three lines, which is more than the two that make a brain method here. -/
theorem detectSmells_follows_rules_twins : ∃ e b, Engine.make .standard = .ok e ∧
    detectSmells (detectorsOf twinSettings) e ⟨twinOutline, [], []⟩ =
      (.ok [⟨0, "Twin", [⟨.brainMethod, ["branching"], oddLimits.byMetric⟩,
        ⟨.complexMethod, ["branching"], [("CYCLO", .int 2)]⟩]⟩], b) ∧
    ∀ m : Method, oddLimits.breaks m = true ↔
      2 < m.lineCount ∧ 2 ≤ m.complexity ∧ 1 ≤ m.deepestNesting ∧ 0 < m.distinctVariables := by
  obtain ⟨e, he⟩ := Registry.isBuiltIn_standard.make_ok
  have haccepted : ∀ s ∈ twinSettings, s.1.IsAccepted := by
    simp only [twinSettings, List.forall_mem_cons]
    have hodd : Thresholds.make .brainMethod oddLimits.limits = .ok oddLimits := rfl
    have htuned : Thresholds.make .complexMethod [("cc", .int 2)] =
        .ok ⟨.complexMethod, [("cc", .int 2)]⟩ := rfl
    exact ⟨Thresholds.isAccepted_standard _, Thresholds.isAccepted_of_make hodd,
      Thresholds.isAccepted_of_make htuned, fun s hs => absurd hs List.not_mem_nil⟩
  obtain ⟨b, hb, -⟩ := detectSmells_follows_rules he haccepted ⟨twinOutline, [], []⟩
  exact ⟨e, b, he, hb, breaks_oddLimits_iff⟩

end HistoryMetrics
