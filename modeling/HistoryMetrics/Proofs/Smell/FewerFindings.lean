import HistoryMetrics.Proofs.Action.Returns
import HistoryMetrics.Proofs.Smell.Raising

/-! # Findings under higher limits

    Higher limits change nothing in what a detector has computed and in what it stores; it gives fewer
    verdicts, and with fewer members. In a whole source file the verdicts are given type by type, so
    nothing is found where nothing was found before.

    - `Verdict.Within`, `Finding.Within`: verdicts with fewer members, findings with fewer verdicts
    - `detect_antitone`, `detect_total`: the verdict of a detector on a type
    - `scan_antitone`, `FindsWithin`: detectors on a source file with numbers
    - `raised_limits_flag_less`: limits are antitone, and metrics monotone
-/

namespace HistoryMetrics

/-! ## Verdicts -/

/-- **A verdict with fewer members**, in the same order. -/
structure Verdict.Within (v' v : Verdict) : Prop where
  smell : v'.smell = v.smell
  members : v'.members.Sublist v.members

namespace Detector

theorem verdict_within {t' t : Thresholds} (hsmell : t'.smell = t.smell) (own' own : Option Engine)
    {names' names : List String} (h : names'.Sublist names) :
    List.SublistForall₂ Verdict.Within ((builtin t' own').verdict names').toList
      ((builtin t own).verdict names).toList := by
  cases names' with
  | nil => exact .nil
  | cons name' names' =>
    cases names with
    | nil => cases h
    | cons name names => exact .cons ⟨hsmell, h⟩ .nil

/-- What is missing for a rule does not depend on its limits. -/
theorem complete_congr {t' t : Thresholds} (hsmell : t'.smell = t.smell) (own : Option Engine) :
    (builtin t' own).complete = (builtin t own).complete := by
  unfold complete missing builtin
  rw [hsmell]

/-- **What a detector does beside flagging methods** does not depend on its limits: it fails in one way, or
    it looks at one completed type. -/
theorem detect_cases (t : Thresholds) (own : Option Engine) (place : Nat) (a : Analysis) :
    (∃ f b, ∀ t' : Thresholds, t'.smell = t.smell →
      (builtin t' own).detect place a = (.error f, b)) ∨
    ∃ completed b, ∀ t' : Thresholds, t'.smell = t.smell →
      (builtin t' own).detect place a =
        ((t'.flagged completed).map (builtin t' own).verdict, b) := by
  have hrule : ∀ t' : Thresholds,
      (builtin t' own).detect place a = (builtin t' own).detectByRule place a := fun _ => rfl
  cases hplace : a.outline.types[place]? with
  | none =>
    refine .inl ⟨.fault .outOfRange, a, fun t' _ => ?_⟩
    rw [hrule]
    simp only [detectByRule, hplace]
  | some type =>
    rcases hcomplete : (builtin t own).complete type a with ⟨f | _, b⟩
    · refine .inl ⟨f, b, fun t' hsmell => ?_⟩
      rw [hrule]
      simp only [detectByRule, hplace, complete_congr hsmell, hcomplete]
    · cases hcompleted : b.outline.types[place]? with
      | none =>
        refine .inl ⟨.fault .outOfRange, b, fun t' hsmell => ?_⟩
        rw [hrule]
        simp only [detectByRule, hplace, complete_congr hsmell, hcomplete, hcompleted]
      | some completed =>
        refine .inr ⟨completed, b, fun t' hsmell => ?_⟩
        exact detect_of_complete hplace (by rw [complete_congr hsmell, hcomplete]) hcompleted

section Raised

variable {t t' : Thresholds} (h : t.RaisedTo t')

include h

/-- **Under higher limits a detector gives a verdict only where it gave one before.** It stores what it
    stored before. -/
theorem detect_antitone (own : Option Engine) (place : Nat) (a : Analysis) :
    ((builtin t' own).detect place a).2 = ((builtin t own).detect place a).2 ∧
      ∀ v' v, ((builtin t' own).detect place a).1 = .ok v' →
        ((builtin t own).detect place a).1 = .ok v →
        List.SublistForall₂ Verdict.Within v'.toList v.toList := by
  rcases detect_cases t own place a with ⟨f, b, hfails⟩ | ⟨completed, b, hlooks⟩
  · rw [hfails t' h.smell, hfails t rfl]
    refine ⟨rfl, fun v' v hv' => ?_⟩
    cases hv'
  · rw [hlooks t' h.smell, hlooks t rfl]
    refine ⟨rfl, fun v' v hv' hv => ?_⟩
    obtain ⟨names', hnames', rfl⟩ := Action.except_map_ok_iff.1 hv'
    obtain ⟨names, hnames, rfl⟩ := Action.except_map_ok_iff.1 hv
    exact verdict_within h.smell own own (Thresholds.flagged_antitone h hnames' hnames)

end Raised

/-- On a type with numbers a detector gives its answer, and changes nothing. -/
theorem detect_total_of_isMeasured {t : Thresholds} (ht : t.IsAccepted) (own : Option Engine)
    {a : Analysis} {place : Nat} {type : TypeOutline} (hplace : a.outline.types[place]? = some type)
    (htype : type.IsMeasured t.smell.requires) : ∃ names, t.flagged type = .ok names ∧
      (builtin t own).detect place a = (.ok ((builtin t own).verdict names), a) := by
  obtain ⟨names, hnames⟩ := Thresholds.flagged_total ht htype
  have hstored : ∀ m ∈ type.methods, ∀ id ∈ t.smell.requires, ∃ v, m.metrics.get? id = some v := by
    intro m hm id hid
    obtain ⟨n, hn⟩ := htype m hm id hid
    obtain ⟨v, hv, -⟩ := Option.bind_eq_some_iff.1 hn
    exact ⟨v, hv⟩
  refine ⟨names, hnames, ?_⟩
  rw [detect_of_complete hplace (complete_eq hstored own a) hplace, hnames]
  rfl

end Detector

/-! ## Metrics that are missing -/

/-- The metrics that rules read are whole numbers. -/
theorem Smell.reference_of_requires (s : Smell) (m : Method) :
    ∀ id ∈ s.requires, ∃ i : Int, m.reference id = some (.int i) := by
  cases s <;> simp only [requires, List.forall_mem_cons]
  case brainMethod => exact ⟨⟨_, rfl⟩, ⟨_, rfl⟩, ⟨_, rfl⟩, ⟨_, rfl⟩, nofun⟩
  case complexMethod => exact ⟨⟨_, rfl⟩, nofun⟩
  case longMethod => exact ⟨⟨_, rfl⟩, nofun⟩

/-- All that is stored on the methods of a type for some metrics are numbers. Any of them may be
    missing. -/
def TypeOutline.HoldsNumbers (ids : List String) (type : TypeOutline) : Prop :=
  ∀ m ∈ type.methods, ∀ id ∈ ids, ∀ v, m.metrics.get? id = some v → ∃ n, v.number? = some n

/-- **A detector gives its answer on every type that holds numbers**, whichever of them are missing. -/
theorem Detector.detect_total {t : Thresholds} (ht : t.IsAccepted) {own : Option Engine}
    (hown : Engine.make .standard = .ok (own.getD .standard)) {a : Analysis} {place : Nat}
    {type : TypeOutline} (hplace : a.outline.types[place]? = some type)
    (htype : type.HoldsNumbers t.smell.requires) :
    ∃ v b, (builtin t own).detect place a = (.ok v, b) := by
  obtain ⟨b, completed, hcomplete, hcompleted, -, -, -, hvalues⟩ :=
    complete_values (t := t) hown a hplace
  have hmeasured : completed.IsMeasured t.smell.requires := by
    intro m' hm' id hid
    obtain ⟨j, hj⟩ := List.getElem?_of_mem hm'
    obtain ⟨m, hm, hstored⟩ := hvalues j m' hj
    obtain ⟨v, hv, hright | hbefore⟩ := hstored id hid
    · obtain ⟨i, hi⟩ := t.smell.reference_of_requires m' id hid
      cases hright.symm.trans hi
      exact ⟨.whole i, by rw [Method.measure?, hv]; rfl⟩
    · obtain ⟨n, hn⟩ := htype m (List.mem_of_getElem? hm) id hid v hbefore
      exact ⟨n, by rw [Method.measure?, hv]; exact hn⟩
  obtain ⟨names, hnames⟩ := Thresholds.flagged_total ht hmeasured
  exact ⟨_, b, by rw [detect_of_complete hplace hcomplete hcompleted, hnames]; rfl⟩

/-! ## Findings -/

/-- **A finding with fewer verdicts**, in the same order, and with fewer members. -/
structure Finding.Within (f' f : Finding) : Prop where
  index : f'.index = f.index
  typeName : f'.typeName = f.typeName
  verdicts : List.SublistForall₂ Verdict.Within f'.verdicts f.verdicts

/-- **Both detections succeed, and what one finds is within what the other finds.** They store the
    same. -/
def FindsWithin (r' r : Except Failure (List Finding) × Analysis) : Prop :=
  ∃ found' found, r'.1 = .ok found' ∧ r.1 = .ok found ∧
    List.SublistForall₂ Finding.Within found' found ∧ r'.2.outline = r.2.outline

theorem sublistForall₂_append {α : Type} {R : α → α → Prop} {xs' xs ys' ys : List α}
    (hx : List.SublistForall₂ R xs' xs) (hy : List.SublistForall₂ R ys' ys) :
    List.SublistForall₂ R (xs' ++ ys') (xs ++ ys) := by
  obtain ⟨xs'', hxs, hsubx⟩ := List.sublistForall₂_iff.1 hx
  obtain ⟨ys'', hys, hsuby⟩ := List.sublistForall₂_iff.1 hy
  exact List.sublistForall₂_iff.2 ⟨xs'' ++ ys'', List.rel_append hxs hys, hsubx.append hsuby⟩

/-- What is stored on the methods of a source file for some metrics are numbers. -/
def SourceOutline.IsMeasured (ids : List String) (o : SourceOutline) : Prop :=
  ∀ type ∈ o.types, type.IsMeasured ids

/-- Metrics of methods that hold are numbers if rules read them. -/
theorem SourceOutline.Holds.isMeasured {ids : List String} {o : SourceOutline} (h : o.Holds ids)
    (hids : ∀ id ∈ ids, ∃ s : Smell, id ∈ s.requires) : o.IsMeasured ids := by
  intro type htype m hm id hid
  obtain ⟨s, hs⟩ := hids id hid
  obtain ⟨i, hi⟩ := s.reference_of_requires m id hs
  exact ⟨_, m.measure?_eq ((h type htype).methods m hm) hid hi⟩

section Settings

variable {settings' settings : List (Thresholds × Option Engine)}
  (h : List.Forall₂ (fun s' s => s.1.RaisedTo s'.1) settings' settings)

include h

/-- **All detectors on one type** with numbers. -/
theorem Detection.runDetectors_antitone {place : Nat} {type : TypeOutline}
    (htype : ∀ s ∈ settings, type.IsMeasured s.1.smell.requires) {a' a : Analysis}
    (ha' : a'.outline.types[place]? = some type) (ha : a.outline.types[place]? = some type) :
    ∃ vs' vs, runDetectors place (detectorsOf settings') a' = (.ok vs', a') ∧
      runDetectors place (detectorsOf settings) a = (.ok vs, a) ∧
      List.SublistForall₂ Verdict.Within vs' vs := by
  induction h with
  | nil => exact ⟨[], [], rfl, rfl, .nil⟩
  | @cons s' s settings' settings hs _ ih =>
    have hmeasured : type.IsMeasured s.1.smell.requires := htype s List.mem_cons_self
    obtain ⟨names', hnames', hdetect'⟩ :=
      Detector.detect_total_of_isMeasured hs.accepted' s'.2 ha' (by rwa [hs.smell])
    obtain ⟨names, hnames, hdetect⟩ :=
      Detector.detect_total_of_isMeasured hs.accepted s.2 ha hmeasured
    obtain ⟨vs', vs, hvs', hvs, hrest⟩ := ih fun s hs => htype s (List.mem_cons_of_mem _ hs)
    have hfirst := Detector.verdict_within hs.smell s'.2 s.2
      (Thresholds.flagged_antitone hs hnames' hnames)
    refine ⟨_, _, ?_, ?_, sublistForall₂_append hfirst hrest⟩
    · simp only [detectorsOf] at hvs'
      simp only [detectorsOf, List.map_cons, runDetectors, runDetector, hdetect', hvs']
    · simp only [detectorsOf] at hvs
      simp only [detectorsOf, List.map_cons, runDetectors, runDetector, hdetect, hvs]

/-- **All detectors on all types** of a source file with numbers, from a place on. -/
theorem Detection.scan_antitone {o : SourceOutline}
    (ho : ∀ s ∈ settings, o.IsMeasured s.1.smell.requires) {count place : Nat}
    (hcount : place + count = o.types.length) {a' a : Analysis} (ha' : a'.outline = o)
    (ha : a.outline = o) : ∃ found' found b' b,
      scan (detectorsOf settings') count place a' = (.ok found', b') ∧
      scan (detectorsOf settings) count place a = (.ok found, b) ∧
      List.SublistForall₂ Finding.Within found' found ∧ b'.outline = o ∧ b.outline = o := by
  induction count generalizing place a' a with
  | zero => exact ⟨[], [], a', a, rfl, rfl, .nil, ha', ha⟩
  | succ count ih =>
    have hplace := List.getElem?_eq_getElem (by omega : place < o.types.length)
    obtain ⟨vs', vs, hrun', hrun, hverdicts⟩ := runDetectors_antitone h
      (fun s hs => ho s hs _ (List.getElem_mem _)) (by rw [ha', hplace]) (by rw [ha, hplace])
    obtain ⟨c', hc', hstep'⟩ := scan_succ hrun'
    obtain ⟨c, hc, hstep⟩ := scan_succ hrun
    obtain ⟨found', found, b', b, hscan', hscan, hrest, hout', hout⟩ :=
      ih (by omega : place + 1 + count = _) (hc'.trans ha') (hc.trans ha)
    have hfinding : List.SublistForall₂ Finding.Within (findingOf a'.outline place vs').toList
        (findingOf a.outline place vs).toList := by
      rw [ha', ha]
      cases vs' with
      | nil => exact .nil
      | cons v' vs' => cases vs with
        | nil => cases hverdicts
        | cons v vs => exact .cons ⟨rfl, rfl, hverdicts⟩ .nil
    exact ⟨_, _, b', b, by rw [hstep', hscan'], by rw [hstep, hscan],
      sublistForall₂_append hfinding hrest, hout', hout⟩

/-- The detectors require the same, whatever their limits. -/
theorem requiredMetrics_congr :
    requiredMetrics (detectorsOf settings') = requiredMetrics (detectorsOf settings) := by
  have hrequires : (detectorsOf settings').flatMap Detector.requires =
      (detectorsOf settings).flatMap Detector.requires := by
    induction h with
    | nil => rfl
    | @cons s' s _ _ hs _ ih =>
      have hfirst : (Detector.builtin s'.1 s'.2).requires = (Detector.builtin s.1 s.2).requires :=
        congrArg Smell.requires hs.smell
      simp only [detectorsOf] at ih
      simp only [detectorsOf, List.map_cons, List.flatMap_cons, hfirst, ih]
  rw [requiredMetrics, hrequires, requiredMetrics]

/-- **A detection under higher limits finds nothing new**, when the pass before it leaves numbers. -/
theorem detectSmells_antitone {e : Engine} {a b : Analysis} {ids : List String}
    (hcompute : e.compute (some (requiredMetrics (detectorsOf settings))) a = (.ok ids, b))
    (hb : b.outline.IsMeasured (requiredMetrics (detectorsOf settings))) :
    FindsWithin (detectSmells (detectorsOf settings') e a)
      (detectSmells (detectorsOf settings) e a) := by
  have hmeasured : ∀ s ∈ settings, b.outline.IsMeasured s.1.smell.requires :=
    fun s hs type htype m hm id hid =>
      hb type htype m hm id (mem_requiredMetrics_detectorsOf.2 ⟨s, hs, hid⟩)
  have hrequired := requiredMetrics_congr h
  obtain ⟨found', found, b', b'', hscan', hscan, hwithin, hout', hout⟩ :=
    Detection.scan_antitone h hmeasured (Nat.zero_add b.outline.types.length) rfl rfl
  cases h with
  | nil => exact ⟨[], [], rfl, rfl, .nil, rfl⟩
  | @cons s' s settings' settings _ _ =>
    have hsome' : (detectorsOf (s' :: settings')).isEmpty = false := rfl
    have hsome : (detectorsOf (s :: settings)).isEmpty = false := rfl
    refine ⟨found', found, ?_, ?_, hwithin, ?_⟩ <;>
      simp only [detectSmells, hsome', hsome, Bool.false_eq_true, if_false, hrequired, hcompute,
        hscan', hscan, hout', hout]

end Settings

/-- **Limits are antitone, and metrics monotone.** Each limit of a smell is raised or stays; the engine
    is that of the built-in metrics. -/
theorem raised_limits_flag_less {e : Engine} (he : Engine.make .standard = .ok e)
    {t t' : Thresholds} (h : t.RaisedTo t') :
    -- a method that has the smell under the higher limits has it under the lower ones
    (∀ m, t'.rule m = .ok true → t.rule m = .ok true) ∧
    -- the methods that are flagged on a type are some of those that were, in their order
    (∀ type, (∀ names' names, t'.flagged type = .ok names' → t.flagged type = .ok names →
        names'.Sublist names) ∧
      (type.IsMeasured t.smell.requires →
        ∃ names' names, t'.flagged type = .ok names' ∧ t.flagged type = .ok names)) ∧
    -- a detector gives a verdict only where it gave one, and it stores what it stored
    (∀ own place a, ((Detector.builtin t' own).detect place a).2 =
        ((Detector.builtin t own).detect place a).2 ∧
      ∀ v' v, ((Detector.builtin t' own).detect place a).1 = .ok v' →
        ((Detector.builtin t own).detect place a).1 = .ok v →
        List.SublistForall₂ Verdict.Within v'.toList v.toList) ∧
    (∀ own place a type, own = none ∨ own = some e → a.outline.types[place]? = some type →
      type.HoldsNumbers t.smell.requires → ∃ v' v,
        ((Detector.builtin t' own).detect place a).1 = .ok v' ∧
          ((Detector.builtin t own).detect place a).1 = .ok v) ∧
    -- many detectors at once find nothing new in a source file, whatever is stored in it; nor do they
    -- with another engine, as long as its pass leaves numbers
    (∀ settings' settings, List.Forall₂ (fun s' s => s.1.RaisedTo s'.1) settings' settings →
      (∀ a, FindsWithin (detectSmells (detectorsOf settings') e a)
        (detectSmells (detectorsOf settings) e a)) ∧
      ∀ (other : Engine) (ids : List String) (a b : Analysis),
        other.compute (some (requiredMetrics (detectorsOf settings))) a = (.ok ids, b) →
        b.outline.IsMeasured (requiredMetrics (detectorsOf settings)) →
        FindsWithin (detectSmells (detectorsOf settings') other a)
          (detectSmells (detectorsOf settings) other a)) ∧
    -- a method keeps the smell when its metrics grow, and so more methods are flagged
    (∀ m m', m.GrowsTo t.smell.requires m' → t.rule m = .ok true → t.rule m' = .ok true) ∧
    (∀ type type', type.GrowsTo t.smell.requires type' →
      (∀ names names', t.flagged type = .ok names → t.flagged type' = .ok names' →
        names.Sublist names') ∧
      (type.IsMeasured t.smell.requires →
        ∃ names names', t.flagged type = .ok names ∧ t.flagged type' = .ok names')) := by
  refine ⟨fun m => Thresholds.rule_antitone h,
    fun type => ⟨fun names' names => Thresholds.flagged_antitone h, fun htype => ?total⟩,
    fun own place a => Detector.detect_antitone h own place a,
    fun own place a type hown hplace htype => ?answers,
    fun settings' settings hsettings => ⟨fun a => ?findings,
      fun other ids a b hcompute hb => detectSmells_antitone hsettings hcompute hb⟩,
    fun m m' hm => Thresholds.rule_monotone h.accepted hm,
    fun type type' hgrows => ⟨fun names names' => Thresholds.flagged_monotone h.accepted hgrows,
      fun htype => ?grown⟩⟩
  case total =>
    obtain ⟨names', hnames'⟩ := Thresholds.flagged_total h.accepted' (by rwa [h.smell])
    obtain ⟨names, hnames⟩ := Thresholds.flagged_total h.accepted htype
    exact ⟨names', names, hnames', hnames⟩
  case answers =>
    have hstandard := Engine.make_getD he hown
    obtain ⟨v', b', hv'⟩ := Detector.detect_total h.accepted' hstandard hplace (by rwa [h.smell])
    obtain ⟨v, b, hv⟩ := Detector.detect_total h.accepted hstandard hplace htype
    exact ⟨v', v, by rw [hv'], by rw [hv]⟩
  case findings =>
    obtain ⟨ids, b, hb, hholds, -⟩ := Engine.compute_requiredMetrics he settings a
    refine detectSmells_antitone hsettings hb (hholds.isMeasured fun id hid => ?_)
    obtain ⟨s, -, hrequires⟩ := mem_requiredMetrics_detectorsOf.1 hid
    exact ⟨s.1.smell, hrequires⟩
  case grown =>
    obtain ⟨names, hnames⟩ := Thresholds.flagged_total h.accepted htype
    obtain ⟨names', hnames'⟩ := Thresholds.flagged_total h.accepted (hgrows.isMeasured htype)
    exact ⟨names, names', hnames, hnames'⟩

/-- A class with two methods, one of which is a line longer than the other. -/
def measuredPair : TypeOutline where
  name := "Pair"
  archetype := .classOrInterface
  modifiers := default
  extent := ⟨1, 8⟩
  methods := [
    { name := "longer", modifiers := default, parameters := [], extent := ⟨2, 5⟩, body := []
      metrics := [("MLOC", .int 4), ("CYCLO", .int 2), ("MAXNESTING", .int 1), ("NOAV", .int 1)] },
    { name := "shorter", modifiers := default, parameters := [], extent := ⟨6, 8⟩, body := []
      metrics := [("MLOC", .int 3), ("CYCLO", .int 2), ("MAXNESTING", .int 1), ("NOAV", .int 1)] }]
  fields := []
  metrics := []

/-- Limits of brain methods with the given number of lines. -/
def pairLimits (lines : Value) : Thresholds :=
  ⟨.brainMethod, [("mloc", lines), ("cc", .int 2), ("max_nesting", .int 1), ("noav", .int 0)]⟩

theorem inDoubles_pairLimits {n : Number} (h : n.IsDouble) : (pairLimits (.number n)).InDoubles := by
  simp only [Thresholds.InDoubles, pairLimits, List.forall_mem_cons]
  refine ⟨fun k hk => ?_, fun k hk => ?_, fun k hk => ?_, fun k hk => ?_, nofun⟩ <;> cases hk
  · exact h
  all_goals trivial

/-- Half of 4 lines are 2 of them, and half of 6.5 lines are 3. -/
theorem raised_limits_flag_less_pair :
    (pairLimits (.real (.finite false 13 (-1)))).flagged measuredPair = .ok ["longer"] ∧
      (pairLimits (.int 4)).flagged measuredPair = .ok ["longer", "shorter"] ∧
      ["longer"].Sublist ["longer", "shorter"] := by
  have hraised : (pairLimits (.int 4)).RaisedTo (pairLimits (.real (.finite false 13 (-1)))) :=
    { smell := rfl
      accepted := ⟨rfl, rfl⟩
      accepted' := ⟨rfl, rfl⟩
      inDoubles := inDoubles_pairLimits (n := .whole 4) trivial
      inDoubles' := inDoubles_pairLimits (n := .real _) ⟨by decide, by decide, by decide⟩
      limits := by decide }
  have hhigh : (pairLimits (.real (.finite false 13 (-1)))).flagged measuredPair = .ok ["longer"] :=
    rfl
  have hlow : (pairLimits (.int 4)).flagged measuredPair = .ok ["longer", "shorter"] := rfl
  obtain ⟨-, hflagged, -⟩ := raised_limits_flag_less Engine.make_standard hraised
  exact ⟨hhigh, hlow, (hflagged measuredPair).1 _ _ hhigh hlow⟩

end HistoryMetrics
