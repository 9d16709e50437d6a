import HistoryMetrics.Proofs.Metric.Values
import HistoryMetrics.Proofs.Number.Comparison
import HistoryMetrics.Proofs.Text.Sorted
import HistoryMetrics.Smell.Detector

/-! # Rules of smells

    A detector compares stored metrics with limits. When the metrics that its rule reads hold, the
    rule can be said by the structure of the method alone, and it never fails.

    - `Thresholds.IsAccepted`: limits that have passed their check; they are numbers
    - `Thresholds.breaks`, `Thresholds.offenders`, `Thresholds.verdictOn`: the rules by the structure
    - `breaks_brainMethod_iff`: the rule of brain methods in whole numbers
    - `Condition`, `Thresholds.conditions`, `rule_eq_checkAll`: the rules as lists of conditions
    - `rule_eq`, `flagged_eq`, `detect_eq`: what a detector finds when its metrics hold
-/

namespace HistoryMetrics

/-! ## Limits -/

namespace Thresholds

/-- **Limits that were accepted**: each has its name and has passed the check. -/
structure IsAccepted (t : Thresholds) : Prop where
  names : t.limits.map Prod.fst = t.smell.defaults.map Prod.fst
  passed : checkLimits t.smell.thresholdType t.limits = .ok ()

/-- A limit as the number that it is. -/
def bound (t : Thresholds) (name : String) : Number := (t.limit name).number?.getD (.whole 0)

/-- **What the check lets pass**: numbers that are not negative. -/
theorem checkLimits_eq_ok_iff (owner : String) (limits : List (String × Value)) :
    checkLimits owner limits = .ok () ↔
      ∀ l ∈ limits, ∃ n, l.2.number? = some n ∧ n.lt (.whole 0) = false := by
  induction limits with
  | nil => simp [checkLimits]
  | cons l rest ih =>
    obtain ⟨name, v⟩ := l
    rw [List.forall_mem_cons, ← ih]
    have hzero : (Value.int 0).number? = some (.whole 0) := rfl
    cases hnumber : v.number? with
    | none => simp [checkLimits, Value.isBelow, Value.compareWith, hnumber]
    | some n =>
      cases hbelow : n.lt (.whole 0) <;>
        simp [checkLimits, Value.isBelow, Value.compareWith, hnumber, hzero, hbelow]

theorem map_fst_override (limits given : List (String × Value)) :
    (override limits given).map Prod.fst = limits.map Prod.fst := by
  simp [override, Function.comp_def]

theorem IsAccepted.tuned {t u : Thresholds} (ht : t.IsAccepted) {given : List (String × Value)}
    (h : t.tuned given = .ok u) : u.IsAccepted := by
  unfold Thresholds.tuned at h
  cases hunknown : firstUnknown (t.limits.map Prod.fst) given with
  | some name =>
    rw [hunknown] at h
    cases h
  | none =>
    simp only [hunknown, checked] at h
    cases hpassed : checkLimits t.smell.thresholdType (override t.limits given) with
    | error e =>
      rw [hpassed] at h
      cases h
    | ok _ =>
      rw [hpassed] at h
      cases h
      exact ⟨(map_fst_override _ _).trans ht.names, hpassed⟩

theorem isAccepted_standard (s : Smell) : (standard s).IsAccepted where
  names := rfl
  passed := by cases s <;> rfl

/-- Thresholds made from named limits are accepted ones. -/
theorem isAccepted_of_make {s : Smell} {given : List (String × Value)} {t : Thresholds}
    (h : make s given = .ok t) : t.IsAccepted :=
  (isAccepted_standard s).tuned h

section Accepted

variable {t : Thresholds} (ht : t.IsAccepted) {name : String}
  (hname : name ∈ t.smell.defaults.map Prod.fst)

include ht hname

/-- Every limit of a smell is a number that is not negative. -/
theorem IsAccepted.limit_spec :
    ∃ n, (t.limit name).number? = some n ∧ n.lt (.whole 0) = false := by
  rw [← ht.names] at hname
  obtain ⟨l, hl, rfl⟩ := List.mem_map.1 hname
  obtain ⟨v, hv⟩ := Option.isSome_iff_exists.1
    (List.lookup_isSome_iff.2 ⟨l, hl, by simp⟩ : (t.limits.lookup l.1).isSome)
  obtain ⟨before, after, hlimits, -⟩ := List.lookup_eq_some_iff.1 hv
  have hmem : (l.1, v) ∈ t.limits := by simp [hlimits]
  rw [limit, hv]
  exact (checkLimits_eq_ok_iff _ _).1 ht.passed _ hmem

theorem IsAccepted.number?_limit : (t.limit name).number? = some (t.bound name) := by
  obtain ⟨n, hn, -⟩ := ht.limit_spec hname
  simp only [bound, hn, Option.getD_some]

theorem IsAccepted.not_negative : (t.bound name).lt (.whole 0) = false := by
  obtain ⟨n, hn, hlow⟩ := ht.limit_spec hname
  rwa [bound, hn, Option.getD_some]

end Accepted

/-! ## Rules by the structure -/

/-- **Does a method have the smell?** By its lines, its decisions, its nesting and its variables. -/
def breaks (t : Thresholds) (m : Method) : Bool :=
  match t.smell with
  | .brainMethod =>
    Number.gt (.whole m.lineCount) (t.bound "mloc").half &&
      Number.ge (.whole m.complexity) (t.bound "cc") &&
      Number.ge (.whole m.deepestNesting) (t.bound "max_nesting") &&
      Number.gt (.whole m.distinctVariables) (t.bound "noav")
  | .complexMethod => Number.ge (.whole m.complexity) (t.bound "cc")
  | .longMethod => Number.gt (.whole m.lineCount) (t.bound "mloc")

/-- **The rule of brain methods** in whole numbers. -/
theorem breaks_brainMethod_iff {t : Thresholds} (hsmell : t.smell = .brainMethod)
    {mloc cc nesting noav : Int} (hmloc : t.bound "mloc" = .whole mloc)
    (hcc : t.bound "cc" = .whole cc) (hnesting : t.bound "max_nesting" = .whole nesting)
    (hnoav : t.bound "noav" = .whole noav) (m : Method) :
    t.breaks m = true ↔ mloc.fdiv 2 < m.lineCount ∧ cc ≤ m.complexity ∧
      nesting ≤ m.deepestNesting ∧ noav < m.distinctVariables := by
  simp only [breaks, hsmell, hmloc, hcc, hnesting, hnoav, Number.half, Bool.and_eq_true,
    Number.gt_whole_iff, Number.ge_whole_iff, and_assoc]

/-- Brain methods are those of classes and interfaces only. -/
def concerns (t : Thresholds) (type : TypeOutline) : Bool :=
  t.smell != .brainMethod || type.archetype == .classOrInterface

/-- **The methods with the smell**, by name and in the order of their declarations. -/
def offenders (t : Thresholds) (type : TypeOutline) : List String :=
  if t.concerns type then (type.methods.filter t.breaks).map Method.name else []

/-- **The verdict on a type**, if one of its methods has the smell. -/
def verdictOn (t : Thresholds) (type : TypeOutline) : Option Verdict :=
  if t.offenders type = [] then none else some ⟨t.smell, t.offenders type, t.byMetric⟩

@[simp] theorem offenders_bare (t : Thresholds) (type : TypeOutline) :
    t.offenders type.bare = t.offenders type := by
  have hbreaks : t.breaks ∘ Method.bare = t.breaks := rfl
  have hname : Method.name ∘ Method.bare = Method.name := rfl
  have hconcerns : t.concerns type.bare = t.concerns type := rfl
  have hmethods : type.bare.methods = type.methods.map Method.bare := rfl
  simp only [offenders, hconcerns, hmethods, List.filter_map, List.map_map, hbreaks, hname]

@[simp] theorem verdictOn_bare (t : Thresholds) (type : TypeOutline) :
    t.verdictOn type.bare = t.verdictOn type := by
  simp only [verdictOn, offenders_bare]

end Thresholds

/-! ## Sorted ids -/

@[simp] theorem mem_sortedIds {id : String} {ids : List String} : id ∈ sortedIds ids ↔ id ∈ ids := by
  rw [sortedIds, List.mem_mergeSort, List.mem_eraseDups]

@[simp] theorem sortedIds_nil : sortedIds [] = [] :=
  List.eq_nil_iff_forall_not_mem.2 fun _ hid => List.not_mem_nil (mem_sortedIds.1 hid)

/-- Sorted ids depend on nothing but which ids there are. -/
theorem sortedIds_congr {ids ids' : List String} (h : ∀ id, id ∈ ids ↔ id ∈ ids') :
    sortedIds ids = sortedIds ids' := by
  have hnodup : ∀ xs : List String, (sortedIds xs).Nodup := fun xs =>
    (List.mergeSort_perm _ _).nodup_iff.2 (nodup_eraseDups xs)
  have hmem : ∀ id, id ∈ sortedIds ids ↔ id ∈ sortedIds ids' := by
    intro id
    rw [mem_sortedIds, mem_sortedIds, h]
  exact eq_of_ascending (ascending_mergeSort _) (ascending_mergeSort _) (hnodup ids) (hnodup ids')
    hmem

/-! ## Rules as conditions -/

/-- The rules read metrics of methods. -/
theorem Smell.isMethodMetric_of_requires (s : Smell) : ∀ id ∈ s.requires, isMethodMetric id = true := by
  cases s <;> decide

/-- The number that is stored for a metric, if what is stored is one. -/
def Method.measure? (m : Method) (id : String) : Option Number :=
  (m.metrics.get? id).bind Value.number?

/-- **A condition of a rule**: a metric, and how it has to compare with a limit. -/
structure Condition where
  metric : String
  operator : String
  test : Number → Number → Bool
  limit : Value

namespace Condition

/-- The metric has to be above a limit. -/
def above (metric : String) (limit : Value) : Condition := ⟨metric, ">", Number.gt, limit⟩

/-- The metric has to reach a limit. -/
def atLeast (metric : String) (limit : Value) : Condition := ⟨metric, ">=", Number.ge, limit⟩

/-- Does a method meet the condition? -/
def check (c : Condition) (m : Method) : Except Failure Bool :=
  m.holds c.metric (Value.compareWith c.operator c.test) c.limit

/-- Does a method meet all conditions? They are looked at in their order, up to one that it does not
    meet. -/
def checkAll (m : Method) : List Condition → Except Failure Bool
  | [] => .ok true
  | c :: cs => andThen (c.check m) fun _ => checkAll m cs

/-- Two numbers always compare. -/
theorem check_eq {c : Condition} {m : Method} {n k : Number} (hn : m.measure? c.metric = some n)
    (hk : c.limit.number? = some k) : c.check m = .ok (c.test n k) := by
  obtain ⟨v, hv, hnumber⟩ := Option.bind_eq_some_iff.1 hn
  simp only [check, Method.holds, Method.metric, hv, Value.compareWith, hnumber, hk]
  rfl

/-- **A condition is met** by numbers only. -/
theorem check_eq_ok_true_iff {c : Condition} {m : Method} : c.check m = .ok true ↔
    ∃ n k, m.measure? c.metric = some n ∧ c.limit.number? = some k ∧ c.test n k = true := by
  constructor
  · intro h
    unfold check Method.holds Method.metric at h
    cases hv : m.metrics.get? c.metric with
    | none =>
      rw [hv] at h
      cases h
    | some v =>
      simp only [hv, Value.compareWith] at h
      cases hn : v.number? with
      | none =>
        rw [hn] at h
        cases h
      | some n =>
        cases hk : c.limit.number? with
        | none =>
          rw [hn, hk] at h
          cases h
        | some k =>
          rw [hn, hk] at h
          exact ⟨n, k, by rw [Method.measure?, hv]; exact hn, rfl, Except.ok.inj h⟩
  · rintro ⟨n, k, hn, hk, htest⟩
    rw [check_eq hn hk, htest]

/-- A method meets all conditions just when it meets each. -/
theorem checkAll_eq_ok_true_iff {m : Method} {cs : List Condition} :
    checkAll m cs = .ok true ↔ ∀ c ∈ cs, c.check m = .ok true := by
  induction cs with
  | nil => simp [checkAll]
  | cons c cs ih =>
    rw [List.forall_mem_cons, ← ih, checkAll]
    rcases hc : c.check m with f | _ | _ <;> simp [andThen]

/-- Conditions that are all looked at with success. -/
theorem checkAll_eq {m : Method} {cs : List Condition} {met : Condition → Bool}
    (h : ∀ c ∈ cs, c.check m = .ok (met c)) : checkAll m cs = .ok (cs.all met) := by
  induction cs with
  | nil => rfl
  | cons c cs ih =>
    have hrest := ih fun c' hc' => h c' (List.mem_cons_of_mem c hc')
    rw [checkAll, h c List.mem_cons_self, hrest, List.all_cons]
    cases met c <;> rfl

end Condition

namespace Thresholds

/-- **The conditions of a rule**, in the order in which they are looked at. -/
def conditions (t : Thresholds) : List Condition :=
  match t.smell with
  | .brainMethod =>
    [.above "MLOC" (.number (t.bound "mloc").half), .atLeast "CYCLO" (t.limit "cc"),
      .atLeast "MAXNESTING" (t.limit "max_nesting"), .above "NOAV" (t.limit "noav")]
  | .complexMethod => [.atLeast "CYCLO" (t.limit "cc")]
  | .longMethod => [.above "MLOC" (t.limit "mloc")]

/-- Conditions are about the metrics that the rule requires. -/
theorem map_metric_conditions (t : Thresholds) :
    t.conditions.map Condition.metric = t.smell.requires := by
  unfold conditions
  cases t.smell <;> rfl

theorem metric_mem_requires {t : Thresholds} {c : Condition} (hc : c ∈ t.conditions) :
    c.metric ∈ t.smell.requires := by
  rw [← t.map_metric_conditions]
  exact List.mem_map_of_mem hc

variable {t : Thresholds} (ht : t.IsAccepted)

include ht

/-- The limits in accepted conditions are numbers. -/
theorem isSome_limit_of_mem_conditions : ∀ c ∈ t.conditions, ∃ k, c.limit.number? = some k := by
  have hbound : ∀ name ∈ t.smell.defaults.map Prod.fst,
      (t.limit name).number? = some (t.bound name) := fun _ hname => ht.number?_limit hname
  unfold conditions
  cases hsmell : t.smell <;> rw [hsmell] at hbound <;> simp only [List.forall_mem_cons]
  case brainMethod =>
    exact ⟨⟨_, rfl⟩, ⟨_, hbound "cc" (by decide)⟩, ⟨_, hbound "max_nesting" (by decide)⟩,
      ⟨_, hbound "noav" (by decide)⟩, nofun⟩
  case complexMethod => exact ⟨⟨_, hbound "cc" (by decide)⟩, nofun⟩
  case longMethod => exact ⟨⟨_, hbound "mloc" (by decide)⟩, nofun⟩

/-- **A rule looks at its conditions** and at nothing else. -/
theorem rule_eq_checkAll (m : Method) : t.rule m = Condition.checkAll m t.conditions := by
  have hlast : ∀ r : Except Failure Bool, andThen r (fun _ => .ok true) = r := by
    rintro (f | _ | _) <;> rfl
  unfold rule conditions
  cases hsmell : t.smell <;> simp only [Condition.checkAll, hlast]
  case brainMethod =>
    have hhalf : (t.limit "mloc").half = .ok (.number (t.bound "mloc").half) := by
      rw [Value.half, ht.number?_limit (by rw [hsmell]; decide)]
    simp only [isBrainMethod, hhalf, Condition.check, Condition.above, Method.holds]
    -- a missing metric is missed in the same place
    cases m.metric "MLOC" <;> rfl
  case complexMethod => rfl
  case longMethod => rfl

end Thresholds

/-! ## Rules on metrics that hold -/

@[simp] theorem andThen_ok (a b : Bool) : andThen (.ok a) (fun _ => .ok b) = .ok (a && b) := by
  cases a <;> rfl

section Rules

variable {ids : List String} {m : Method} (hm : m.Holds ids)

include hm

/-- A metric that holds is measured by what it is. -/
theorem Method.measure?_eq {id : String} {i : Int} (hid : id ∈ ids)
    (hv : m.reference id = some (.int i)) : m.measure? id = some (.whole i) := by
  rw [measure?, hm id hid _ hv]
  rfl

/-- **A rule on metrics that hold** says what the structure says. -/
theorem Thresholds.rule_eq {t : Thresholds} (ht : t.IsAccepted)
    (hrequires : ∀ id ∈ t.smell.requires, id ∈ ids) : t.rule m = .ok (t.breaks m) := by
  -- limits are numbers and the metrics hold, so no comparison fails
  have hbound : ∀ name ∈ t.smell.defaults.map Prod.fst,
      (t.limit name).number? = some (t.bound name) := fun _ hname => ht.number?_limit hname
  have hmeasure : ∀ id ∈ t.smell.requires, ∀ i : Int, m.reference id = some (.int i) →
      m.measure? id = some (.whole i) := fun id hid i hi => m.measure?_eq hm (hrequires id hid) hi
  rw [rule_eq_checkAll ht]
  cases hsmell : t.smell <;> rw [hsmell] at hbound hmeasure <;>
    simp only [conditions, breaks, hsmell, Condition.checkAll]
  case brainMethod =>
    have hlines := Condition.check_eq (c := .above "MLOC" (.number (t.bound "mloc").half))
      (hmeasure "MLOC" (by decide) _ m.reference_lines) rfl
    have hdecisions := Condition.check_eq (c := .atLeast "CYCLO" (t.limit "cc"))
      (hmeasure "CYCLO" (by decide) _ m.reference_complexity) (hbound "cc" (by decide))
    have hnesting := Condition.check_eq (c := .atLeast "MAXNESTING" (t.limit "max_nesting"))
      (hmeasure "MAXNESTING" (by decide) _ rfl) (hbound "max_nesting" (by decide))
    have hvariables := Condition.check_eq (c := .above "NOAV" (t.limit "noav"))
      (hmeasure "NOAV" (by decide) _ rfl) (hbound "noav" (by decide))
    simp only [hlines, hdecisions, hnesting, hvariables, andThen_ok, Bool.and_true, Bool.and_assoc]
    rfl
  case complexMethod =>
    have hdecisions := Condition.check_eq (c := .atLeast "CYCLO" (t.limit "cc"))
      (hmeasure "CYCLO" (by decide) _ m.reference_complexity) (hbound "cc" (by decide))
    simp only [hdecisions, andThen_ok, Bool.and_true]
    rfl
  case longMethod =>
    have hlines := Condition.check_eq (c := .above "MLOC" (t.limit "mloc"))
      (hmeasure "MLOC" (by decide) _ m.reference_lines) (hbound "mloc" (by decide))
    simp only [hlines, andThen_ok, Bool.and_true]
    rfl

end Rules

/-- The names that a rule picks, when it says yes or no of every method. -/
theorem pickedBy_eq {rule : Method → Except Failure Bool} {test : Method → Bool} {ms : List Method}
    (h : ∀ m ∈ ms, rule m = .ok (test m)) :
    pickedBy rule ms = .ok ((ms.filter test).map Method.name) := by
  induction ms with
  | nil => rfl
  | cons m ms ih =>
    have hms := ih fun m' hm' => h m' (List.mem_cons_of_mem m hm')
    cases htest : test m <;> simp [pickedBy, h m List.mem_cons_self, hms, htest]

/-- What some method of a type lacks is read by the rule. -/
theorem Detector.mem_missing_iff {t : Thresholds} {own : Option Engine} {type : TypeOutline}
    {id : String} : id ∈ (builtin t own).missing type ↔
      id ∈ t.smell.requires ∧ ∃ m ∈ type.methods, m.metrics.has id = false := by
  have hmissing : (builtin t own).missing type = sortedIds (type.methods.flatMap fun m =>
      t.smell.requires.filter fun id => !m.metrics.has id) := rfl
  simp only [hmissing, mem_sortedIds, List.mem_flatMap, List.mem_filter, Bool.not_eq_true']
  constructor
  · rintro ⟨m, hm, hid, hhas⟩
    exact ⟨hid, m, hm, hhas⟩
  · rintro ⟨hid, m, hm, hhas⟩
    exact ⟨m, hm, hid, hhas⟩

/-- Where every method has what the rule reads, nothing is computed. -/
theorem Detector.complete_eq {t : Thresholds} {type : TypeOutline}
    (h : ∀ m ∈ type.methods, ∀ id ∈ t.smell.requires, ∃ v, m.metrics.get? id = some v)
    (own : Option Engine) (a : Analysis) : (builtin t own).complete type a = (.ok (), a) := by
  have hnone : (builtin t own).missing type = [] := by
    refine List.eq_nil_iff_forall_not_mem.2 fun id hmem => ?_
    obtain ⟨hid, m, hm, hhas⟩ := mem_missing_iff.1 hmem
    rw [(Metrics.has_iff _ _).2 (h m hm id hid)] at hhas
    cases hhas
  rw [complete, hnone]
  rfl

/-- A detector looks at the type as it is after completion. -/
theorem Detector.detect_of_complete {t : Thresholds} {own : Option Engine} {a b : Analysis}
    {place : Nat} {type completed : TypeOutline} (hplace : a.outline.types[place]? = some type)
    (hcomplete : (builtin t own).complete type a = (.ok (), b))
    (hcompleted : b.outline.types[place]? = some completed) :
    (builtin t own).detect place a = ((t.flagged completed).map (builtin t own).verdict, b) := by
  show (builtin t own).detectByRule place a = _
  simp only [detectByRule, hplace, hcomplete, hcompleted]
  rfl

theorem Detector.verdict_offenders {t : Thresholds} (own : Option Engine) (type : TypeOutline) :
    (builtin t own).verdict (t.offenders type) = t.verdictOn type := by
  simp only [verdict, Thresholds.verdictOn, List.isEmpty_iff]
  rfl

section Types

variable {t : Thresholds} (ht : t.IsAccepted) {ids : List String}
  (hrequires : ∀ id ∈ t.smell.requires, id ∈ ids) {type : TypeOutline} (htype : type.Holds ids)

include ht hrequires htype

/-- **On a type whose metrics hold the methods with the smell are flagged**, and no others. -/
theorem Thresholds.flagged_eq : t.flagged type = .ok (t.offenders type) := by
  have hpicked := pickedBy_eq fun m hm => rule_eq (htype.methods m hm) ht hrequires
  unfold flagged offenders concerns
  by_cases hother : (t.smell == .brainMethod && type.archetype != .classOrInterface) = true
  · have hskip : (t.smell != .brainMethod || type.archetype == .classOrInterface) = false := by
      simpa [bne] using hother
    rw [if_pos hother, hskip, if_neg Bool.false_ne_true]
  · have hlook : (t.smell != .brainMethod || type.archetype == .classOrInterface) = true := by
      simpa [bne, imp_iff_not_or] using hother
    rw [if_neg hother, if_pos hlook, hpicked]

omit ht in
/-- Nothing is computed on a type whose metrics hold, and the engine of the detector is not asked. -/
theorem Detector.complete_eq_of_holds (own : Option Engine) (a : Analysis) :
    (builtin t own).complete type a = (.ok (), a) := by
  refine complete_eq (fun m hm id hid => ?_) own a
  obtain ⟨v, hv⟩ := (m.isMethodMetric_iff id).1 (t.smell.isMethodMetric_of_requires id hid)
  exact ⟨v, htype.methods m hm id (hrequires id hid) v hv⟩

/-- **A detector gives its verdict** on a type whose metrics hold, and changes nothing. -/
theorem Detector.detect_eq (own : Option Engine) {a : Analysis} {place : Nat}
    (hplace : a.outline.types[place]? = some type) :
    (builtin t own).detect place a = (.ok (t.verdictOn type), a) := by
  rw [detect_of_complete hplace (complete_eq_of_holds hrequires htype own a) hplace,
    Thresholds.flagged_eq ht hrequires htype]
  exact congrArg (fun v => (Except.ok v, a)) (verdict_offenders own type)

end Types

end HistoryMetrics
