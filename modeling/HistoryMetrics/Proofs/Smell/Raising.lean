import HistoryMetrics.Proofs.Number.Halving
import HistoryMetrics.Proofs.Smell.Completion
import Mathlib.Data.List.Forall2

/-! # Raising limits

    Whoever raises a limit finds less, and nothing new: a method that has a smell under the higher limits
    has it under the lower ones. This is so for each condition of a rule, for all numbers that limits and
    metrics can be, and so it is for the rules and for the methods that are flagged on a type. And a
    method that has a smell keeps it when its metrics grow.

    - `Thresholds.RaisedTo`: limits each of which is at least what it was
    - `Condition.Implies`, `RaisedTo.conditions`: the step, condition by condition
    - `Method.GrowsTo`, `Condition.IsMonotone`: metrics that are at least what they were
    - `rule_antitone`, `rule_monotone`: rules
    - `flagged_antitone`, `flagged_monotone`: the methods flagged on a type
    - `rule_total`, `flagged_total`: with numbers for all metrics there is an answer
-/

namespace HistoryMetrics

/-! ## Conditions -/

namespace Condition

/-- Whoever meets one condition meets the other. -/
def Implies (c' c : Condition) : Prop :=
  ∀ m : Method, c'.check m = .ok true → c.check m = .ok true

/-- Conditions that differ in their limits. -/
theorem implies_of_limits {metric operator : String} {test : Number → Number → Bool}
    {limit' limit : Value} {k' k : Number} (hk' : limit'.number? = some k')
    (hk : limit.number? = some k) (h : ∀ n, test n k' = true → test n k = true) :
    Implies ⟨metric, operator, test, limit'⟩ ⟨metric, operator, test, limit⟩ := by
  intro m hm
  obtain ⟨n, k'', hn, hlimit, htest⟩ := check_eq_ok_true_iff.1 hm
  cases hk'.symm.trans hlimit
  exact check_eq_ok_true_iff.2 ⟨n, k, hn, hk, h n htest⟩

theorem checkAll_implies {cs' cs : List Condition} (h : List.Forall₂ Implies cs' cs) {m : Method} :
    checkAll m cs' = .ok true → checkAll m cs = .ok true := by
  simp only [checkAll_eq_ok_true_iff]
  induction h with
  | nil => exact id
  | cons hc _ ih =>
    simp only [List.forall_mem_cons]
    exact fun hm => ⟨hc m hm.1, ih hm.2⟩

/-- A comparison that holds of greater numbers still. -/
def IsMonotone (c : Condition) : Prop :=
  ∀ {n n' k : Number}, Number.ge n' n = true → c.test n k = true → c.test n' k = true

theorem isMonotone_above (metric : String) (limit : Value) : (above metric limit).IsMonotone :=
  Number.gt_of_ge_of_gt

theorem isMonotone_atLeast (metric : String) (limit : Value) : (atLeast metric limit).IsMonotone :=
  Number.ge_trans

end Condition

namespace Thresholds

theorem isMonotone_of_mem_conditions (t : Thresholds) : ∀ c ∈ t.conditions, c.IsMonotone := by
  unfold conditions
  cases t.smell <;>
    simp [Condition.isMonotone_above, Condition.isMonotone_atLeast]

/-! ## Higher limits -/

/-- Limits that are whole numbers, or double-precision ones. -/
def InDoubles (t : Thresholds) : Prop :=
  ∀ l ∈ t.limits, ∀ n, l.2.number? = some n → n.IsDouble

theorem InDoubles.isDouble_bound {t : Thresholds} (h : t.InDoubles) (name : String) :
    (t.bound name).IsDouble := by
  unfold bound limit
  cases hv : t.limits.lookup name with
  | none => trivial
  | some v =>
    obtain ⟨before, after, hlimits, -⟩ := List.lookup_eq_some_iff.1 hv
    have hmem : (name, v) ∈ t.limits := by simp [hlimits]
    rw [Option.getD_some]
    cases hn : v.number? with
    | none => trivial
    | some n => exact h _ hmem n hn

/-- **Each limit is raised, or stays.** Both sets of limits are of one smell and have been accepted; a
    limit is of either kind of number, and infinite ones are among them. -/
structure RaisedTo (t t' : Thresholds) : Prop where
  smell : t'.smell = t.smell
  accepted : t.IsAccepted
  accepted' : t'.IsAccepted
  inDoubles : t.InDoubles
  inDoubles' : t'.InDoubles
  limits : ∀ name ∈ t.smell.defaults.map Prod.fst, Number.ge (t'.bound name) (t.bound name) = true

section Raised

variable {t t' : Thresholds} (h : t.RaisedTo t')

include h

/-- **Every condition of the rule gets harder.** For lines of brain methods that is so because halving
    keeps the order. -/
theorem RaisedTo.conditions : List.Forall₂ Condition.Implies t'.conditions t.conditions := by
  have hlimits := h.limits
  have hbound : ∀ name ∈ t.smell.defaults.map Prod.fst,
      (t.limit name).number? = some (t.bound name) := fun _ hname => h.accepted.number?_limit hname
  have hbound' : ∀ name ∈ t.smell.defaults.map Prod.fst,
      (t'.limit name).number? = some (t'.bound name) := fun _ hname =>
    h.accepted'.number?_limit (by rwa [h.smell])
  have habove : ∀ metric, ∀ name ∈ t.smell.defaults.map Prod.fst,
      (Condition.above metric (t'.limit name)).Implies (.above metric (t.limit name)) :=
    fun metric name hname => Condition.implies_of_limits (hbound' name hname) (hbound name hname)
      fun n hn => Number.gt_of_gt_of_ge hn (hlimits name hname)
  have hatLeast : ∀ metric, ∀ name ∈ t.smell.defaults.map Prod.fst,
      (Condition.atLeast metric (t'.limit name)).Implies (.atLeast metric (t.limit name)) :=
    fun metric name hname => Condition.implies_of_limits (hbound' name hname) (hbound name hname)
      fun n hn => Number.ge_trans hn (hlimits name hname)
  unfold Thresholds.conditions
  rw [h.smell]
  cases hsmell : t.smell <;> rw [hsmell] at habove hatLeast <;> dsimp only
  case brainMethod =>
    have hmloc : "mloc" ∈ t.smell.defaults.map Prod.fst := by rw [hsmell]; decide
    have hlines : (Condition.above "MLOC" (.number (t'.bound "mloc").half)).Implies
        (.above "MLOC" (.number (t.bound "mloc").half)) :=
      Condition.implies_of_limits rfl rfl fun n hn =>
        Number.gt_half_of_ge (h.inDoubles.isDouble_bound _) (h.inDoubles'.isDouble_bound _)
          (h.accepted.not_negative hmloc) (hlimits _ hmloc) hn
    exact .cons hlines (.cons (hatLeast "CYCLO" "cc" (by decide))
      (.cons (hatLeast "MAXNESTING" "max_nesting" (by decide))
        (.cons (habove "NOAV" "noav" (by decide)) .nil)))
  case complexMethod => exact .cons (hatLeast "CYCLO" "cc" (by decide)) .nil
  case longMethod => exact .cons (habove "MLOC" "mloc" (by decide)) .nil

/-- **A method that has the smell under higher limits has it under lower ones**, whatever is stored for
    its metrics. -/
theorem rule_antitone {m : Method} (hm : t'.rule m = .ok true) : t.rule m = .ok true := by
  rw [rule_eq_checkAll h.accepted'] at hm
  rw [rule_eq_checkAll h.accepted]
  exact Condition.checkAll_implies h.conditions hm

end Raised

end Thresholds

/-! ## Greater metrics -/

/-- **Metrics that are replaced by values at least as large.** -/
structure Method.GrowsTo (ids : List String) (m m' : Method) : Prop where
  name : m'.name = m.name
  metrics : ∀ id ∈ ids, ∀ n, m.measure? id = some n →
    ∃ n', m'.measure? id = some n' ∧ Number.ge n' n = true

/-- A type with the same methods, the metrics of which may be larger. -/
structure TypeOutline.GrowsTo (ids : List String) (type type' : TypeOutline) : Prop where
  archetype : type'.archetype = type.archetype
  methods : List.Forall₂ (Method.GrowsTo ids) type.methods type'.methods

/-- **A method that has the smell keeps it when its metrics grow.** -/
theorem Thresholds.rule_monotone {t : Thresholds} (ht : t.IsAccepted) {m m' : Method}
    (hm : m.GrowsTo t.smell.requires m') (h : t.rule m = .ok true) : t.rule m' = .ok true := by
  rw [rule_eq_checkAll ht, Condition.checkAll_eq_ok_true_iff] at h ⊢
  intro c hc
  obtain ⟨n, k, hn, hk, htest⟩ := Condition.check_eq_ok_true_iff.1 (h c hc)
  obtain ⟨n', hn', hge⟩ := hm.metrics c.metric (metric_mem_requires hc) n hn
  exact Condition.check_eq_ok_true_iff.2
    ⟨n', k, hn', hk, t.isMonotone_of_mem_conditions c hc hge htest⟩

/-! ## Rules that give an answer -/

/-- What is stored for some metrics are numbers. -/
def Method.IsMeasured (ids : List String) (m : Method) : Prop :=
  ∀ id ∈ ids, ∃ n, m.measure? id = some n

/-- **On a method with numbers the rule says yes or no.** -/
theorem Thresholds.rule_total {t : Thresholds} (ht : t.IsAccepted) {m : Method}
    (hm : m.IsMeasured t.smell.requires) : ∃ answer, t.rule m = .ok answer := by
  rw [rule_eq_checkAll ht]
  have hchecks : ∀ c ∈ t.conditions, ∃ met, c.check m = .ok met := by
    intro c hc
    obtain ⟨n, hn⟩ := hm c.metric (metric_mem_requires hc)
    obtain ⟨k, hk⟩ := isSome_limit_of_mem_conditions ht c hc
    exact ⟨_, Condition.check_eq hn hk⟩
  choose! met hmet using hchecks
  exact ⟨_, Condition.checkAll_eq hmet⟩

/-! ## Flagged methods -/

theorem pickedBy_cons_eq_ok_iff {rule : Method → Except Failure Bool} {m : Method} {ms : List Method}
    {names : List String} : pickedBy rule (m :: ms) = .ok names ↔ ∃ picked rest,
      rule m = .ok picked ∧ pickedBy rule ms = .ok rest ∧
        names = if picked then m.name :: rest else rest := by
  rw [pickedBy]
  cases rule m with
  | error e => simp
  | ok picked =>
    cases pickedBy rule ms with
    | error e => simp
    | ok rest =>
      simp only [Except.ok.injEq, exists_and_left, exists_eq_left']
      exact eq_comm

/-- Where one rule picks a method only if another does, its names are among those of the other. -/
theorem pickedBy_sublist {rule' rule : Method → Except Failure Bool} {ms' ms : List Method}
    (h : List.Forall₂ (fun m' m => m'.name = m.name ∧ (rule' m' = .ok true → rule m = .ok true)) ms' ms)
    {names' names : List String} (hnames' : pickedBy rule' ms' = .ok names')
    (hnames : pickedBy rule ms = .ok names) : names'.Sublist names := by
  induction h generalizing names' names with
  | nil =>
    cases hnames'
    exact List.nil_sublist names
  | cons hm _ ih =>
    obtain ⟨picked', rest', hrule', hrest', rfl⟩ := pickedBy_cons_eq_ok_iff.1 hnames'
    obtain ⟨picked, rest, hrule, hrest, rfl⟩ := pickedBy_cons_eq_ok_iff.1 hnames
    have hsub := ih hrest' hrest
    cases picked' with
    | false => cases picked with
      | false => exact hsub
      | true => exact hsub.cons _
    | true =>
      cases hrule.symm.trans (hm.2 hrule')
      rw [if_pos rfl, if_pos rfl, hm.1]
      exact hsub.cons_cons _

/-- What is stored on the methods of a type for some metrics are numbers. -/
def TypeOutline.IsMeasured (ids : List String) (type : TypeOutline) : Prop :=
  ∀ m ∈ type.methods, m.IsMeasured ids

theorem Method.GrowsTo.isMeasured {ids : List String} {m m' : Method} (h : m.GrowsTo ids m')
    (hm : m.IsMeasured ids) : m'.IsMeasured ids := by
  intro id hid
  obtain ⟨n, hn⟩ := hm id hid
  obtain ⟨n', hn', -⟩ := h.metrics id hid n hn
  exact ⟨n', hn'⟩

theorem TypeOutline.GrowsTo.isMeasured {ids : List String} {type type' : TypeOutline}
    (h : type.GrowsTo ids type') (htype : type.IsMeasured ids) : type'.IsMeasured ids := by
  have hmethods := h.methods
  unfold IsMeasured at htype ⊢
  generalize type.methods = ms at hmethods htype
  generalize type'.methods = ms' at hmethods ⊢
  induction hmethods with
  | nil => exact htype
  | cons hm _ ih =>
    rw [List.forall_mem_cons] at htype ⊢
    exact ⟨hm.isMeasured htype.1, ih htype.2⟩

namespace Thresholds

theorem flagged_sublist {t' t : Thresholds} (hsmell : t'.smell = t.smell) {type' type : TypeOutline}
    (harchetype : type'.archetype = type.archetype)
    (h : List.Forall₂ (fun m' m => m'.name = m.name ∧ (t'.rule m' = .ok true → t.rule m = .ok true))
      type'.methods type.methods) {names' names : List String}
    (hnames' : t'.flagged type' = .ok names') (hnames : t.flagged type = .ok names) :
    names'.Sublist names := by
  unfold flagged at hnames' hnames
  rw [hsmell, harchetype] at hnames'
  split at hnames'
  · cases hnames'
    exact List.nil_sublist names
  · next hlook =>
    rw [if_neg hlook] at hnames
    exact pickedBy_sublist h hnames' hnames

/-- **Under higher limits fewer methods are flagged**, and in the same order. -/
theorem flagged_antitone {t t' : Thresholds} (h : t.RaisedTo t') {type : TypeOutline}
    {names' names : List String} (hnames' : t'.flagged type = .ok names')
    (hnames : t.flagged type = .ok names) : names'.Sublist names :=
  flagged_sublist h.smell rfl (List.forall₂_same.2 fun _ _ => ⟨rfl, rule_antitone h⟩) hnames' hnames

/-- **With greater metrics more methods are flagged**, and in the same order. -/
theorem flagged_monotone {t : Thresholds} (ht : t.IsAccepted) {type type' : TypeOutline}
    (h : type.GrowsTo t.smell.requires type') {names names' : List String}
    (hnames : t.flagged type = .ok names) (hnames' : t.flagged type' = .ok names') :
    names.Sublist names' :=
  flagged_sublist rfl h.archetype.symm (h.methods.imp fun _ _ hm => ⟨hm.name.symm, rule_monotone ht hm⟩)
    hnames hnames'

theorem flagged_total {t : Thresholds} (ht : t.IsAccepted) {type : TypeOutline}
    (htype : type.IsMeasured t.smell.requires) : ∃ names, t.flagged type = .ok names := by
  have hrules : ∀ m ∈ type.methods, ∃ answer, t.rule m = .ok answer :=
    fun m hm => rule_total ht (htype m hm)
  choose! answer hanswer using hrules
  unfold flagged
  split
  · exact ⟨_, rfl⟩
  · exact ⟨_, pickedBy_eq hanswer⟩

end Thresholds

end HistoryMetrics
