import HistoryMetrics.Proofs.Metric.Order
import HistoryMetrics.Proofs.Number.Rounding
import Mathlib.Data.Finset.Card
import Mathlib.Data.Finset.Dedup
import Mathlib.Data.Int.Range

/-! # What the built-in metrics say

    Every built-in metric has a value that depends on nothing but the structure of the source: not on
    the values that are stored, and not on what was computed before. Here these values are written
    down without the measures, and the measures are shown to find them.

    - `Extent.span`, `lineCount_eq`: the lines of an extent as a set
    - `Method.nested`, `statements_eq`: the statements of a method as the ends of chains
    - `Method.cyclomatic`, `complexity_eq`: the statements that branch
    - `Method.deepestNesting`, `nesting_eq`: nesting by chains of statements
    - `Method.distinctVariables`, `length_accessedVariables`: variables as a set
    - `TypeOutline.defaultVisible`, `protectedCount_eq`: the members that others may not rely on
    - `TypeOutline.meanWeight`, `meanWeight_nearest`: the average weight as a quotient
    - `Method.reference`, `TypeOutline.reference`: the values, by the ids of the metrics
    - `Method.bare`, `TypeOutline.bare`, `SourceOutline.bare`: the structure without stored values
-/

namespace HistoryMetrics

/-! ## Lines -/

/-- **The lines of an extent**, from its first to its last; none where the first is unknown. -/
def Extent.span (e : Extent) : Nat :=
  if 0 < e.start then (Int.range e.start (e.stop + 1)).length else 0

theorem Extent.span_eq (e : Extent) :
    e.span = if 0 < e.start then (e.stop + 1 - e.start).toNat else 0 := by
  rw [span, Int.range, List.length_map, List.length_range]

theorem Method.lineCount_eq (m : Method) : m.lineCount = m.extent.span := by
  rw [Method.lineCount, Extent.lineCount, Extent.span_eq]
  simp only [Bool.or_eq_true, decide_eq_true_eq]
  split <;> split <;> omega

theorem TypeOutline.lineCount_eq (t : TypeOutline) : t.lineCount = t.extent.span := by
  rw [TypeOutline.lineCount, Extent.span_eq]
  split
  · omega
  · rfl

/-! ## Kinds of statements -/

namespace StatementKind

/-- **The kinds of statements that branch.** -/
def decisionKinds : List StatementKind :=
  [.ifThen, .elseIf, .forLoop, .forEach, .whileLoop, .doLoop, .case, .handler, .conditional,
   .booleanOp]

theorem isDecision_eq (kind : StatementKind) : kind.isDecision = decide (kind ∈ decisionKinds) := by
  cases kind <;> rfl

/-- **The kinds of statements that open a level of nesting.** -/
def nestingKinds : List StatementKind :=
  [.ifThen, .elseIf, .forLoop, .forEach, .whileLoop, .doLoop, .switch, .tryBlock, .withBlock,
   .conditional]

theorem isNesting_eq (kind : StatementKind) : kind.isNesting = decide (kind ∈ nestingKinds) := by
  cases kind <;> rfl

end StatementKind

/-! ## Nesting -/

namespace Statement

mutual

/-- **The chains from a statement down**: each statement of a chain is directly inside the one
    before. -/
def chains : Statement → List (List Statement)
  | .mk kind e names children =>
    [.mk kind e names children] ::
      (chainsOf children).map fun chain => .mk kind e names children :: chain

/-- The chains from some statements down. -/
def chainsOf : List Statement → List (List Statement)
  | [] => []
  | s :: ss => chains s ++ chainsOf ss

end

/-- **The levels on a path**: its statements of a kind that opens one. -/
def levelsOn (path : List Statement) : Nat :=
  path.countP fun s => decide (s.kind ∈ StatementKind.nestingKinds)

/-- The most levels of nesting that one of some chains opens. -/
def deepestOn (chains : List (List Statement)) : Nat := (chains.map levelsOn).foldr max 0

theorem deepestOn_append (cs ds : List (List Statement)) :
    deepestOn (cs ++ ds) = max (deepestOn cs) (deepestOn ds) := by
  induction cs with
  | nil => simp [deepestOn]
  | cons c cs ih =>
    simp only [deepestOn, List.cons_append, List.map_cons, List.foldr_cons] at ih ⊢
    rw [ih, Nat.max_assoc]

/-- The chains through a statement open the level that it opens and those below. -/
theorem deepestOn_through (s : Statement) (cs : List (List Statement)) :
    deepestOn ([s] :: cs.map fun chain => s :: chain) =
      (if s.kind.isNesting then 1 else 0) + deepestOn cs := by
  rw [StatementKind.isNesting_eq]
  induction cs with
  | nil => simp [deepestOn, levelsOn, List.countP_cons]
  | cons c cs ih =>
    simp only [deepestOn, levelsOn, List.map_cons, List.foldr_cons, List.countP_cons,
      List.countP_nil, Nat.zero_add] at ih ⊢
    omega

mutual

theorem deepest_eq (level : Nat) : (s : Statement) → s.deepest level = level + deepestOn s.chains
  | .mk kind e names children => by
    rw [deepest, chains, deepestOn_through, deepestOf_eq]
    simp only [Statement.kind]
    by_cases hkind : kind.isNesting = true
    · simp only [hkind, if_true]
      omega
    · simp only [hkind, Bool.false_eq_true, if_false]
      omega

theorem deepestOf_eq (level : Nat) :
    (ss : List Statement) → deepestOf level ss = level + deepestOn (chainsOf ss)
  | [] => rfl
  | s :: ss => by
    rw [deepestOf, chainsOf, deepestOn_append, deepest_eq level s, deepestOf_eq level ss]
    omega

end

theorem ne_nil_of_mem_chains {s : Statement} {chain : List Statement} (h : chain ∈ s.chains) :
    chain ≠ [] := by
  obtain ⟨kind, e, names, children⟩ := s
  rw [chains] at h
  obtain rfl | h := List.mem_cons.1 h
  · exact List.cons_ne_nil _ _
  · obtain ⟨inner, -, rfl⟩ := List.mem_map.1 h
    exact List.cons_ne_nil _ _

theorem ne_nil_of_mem_chainsOf {ss : List Statement} {chain : List Statement}
    (h : chain ∈ chainsOf ss) : chain ≠ [] := by
  induction ss with
  | nil => exact absurd h List.not_mem_nil
  | cons s ss ih =>
    rw [chainsOf] at h
    exact (List.mem_append.1 h).elim ne_nil_of_mem_chains ih

mutual

/-- **Every statement is the end of one chain**, and the chains come in the order of the source. -/
theorem ends_chains : (s : Statement) → s.chains.filterMap List.getLast? = s.walk
  | .mk kind e names children => by
    let s := Statement.mk kind e names children
    have hinner : ((chainsOf children).map fun chain => s :: chain).filterMap List.getLast? =
        (chainsOf children).filterMap List.getLast? := by
      rw [List.filterMap_map]
      refine List.filterMap_congr fun chain hchain => ?_
      exact List.getLast?_cons_of_ne_nil (ne_nil_of_mem_chainsOf hchain)
    rw [chains, walk, ← ends_chainsOf children, ← hinner]
    rfl

theorem ends_chainsOf : (ss : List Statement) →
    (chainsOf ss).filterMap List.getLast? = walkAll ss
  | [] => rfl
  | s :: ss => by
    rw [chainsOf, walkAll, List.filterMap_append, ends_chains s, ends_chainsOf ss]

end

end Statement

namespace Method

/-- **The statements of a method at any depth**: the ends of the chains through its body. -/
def nested (m : Method) : List Statement :=
  (Statement.chainsOf m.body).filterMap List.getLast?

theorem statements_eq (m : Method) : m.statements = m.nested :=
  (Statement.ends_chainsOf m.body).symm

/-- **One more than the statements that branch.** -/
def cyclomatic (m : Method) : Nat :=
  1 + (m.nested.filter fun s => s.kind ∈ StatementKind.decisionKinds).length

theorem complexity_eq (m : Method) : m.complexity = m.cyclomatic := by
  rw [complexity, cyclomatic, statements_eq, ← List.countP_eq_length_filter]
  simp only [StatementKind.isDecision_eq]

/-- **How deep control structures are nested**: the most of them on a chain of statements. -/
def deepestNesting (m : Method) : Nat := Statement.deepestOn (Statement.chainsOf m.body)

theorem nesting_eq (m : Method) : m.nesting = m.deepestNesting := by
  rw [nesting, Statement.deepestOf_eq, Nat.zero_add, deepestNesting]

/-! ## Variables -/

/-- **The number of variables** that the statements of a method name. -/
def distinctVariables (m : Method) : Nat := (m.nested.flatMap Statement.names).toFinset.card

theorem length_accessedVariables (m : Method) :
    m.accessedVariables.length = m.distinctVariables := by
  have hset : m.accessedVariables.toFinset = (m.nested.flatMap Statement.names).toFinset := by
    ext name
    simp [accessedVariables, statements_eq]
  rw [distinctVariables, ← hset]
  exact (List.toFinset_card_of_nodup (nodup_eraseDups _)).symm

end Method

/-! ## Members -/

namespace TypeOutline

/-- The modifiers of all members. -/
def memberModifiers (t : TypeOutline) : List Modifiers :=
  t.methods.map Method.modifiers ++ t.fields.map Field.modifiers

/-- **The members that others may not rely on**: those that say protected, and those that say neither
    public nor private. -/
def defaultVisible (t : TypeOutline) : List Modifiers :=
  t.memberModifiers.filter fun s =>
    s.has .protectedAccess = true ∨ s.has .publicAccess = false ∧ s.has .privateAccess = false

theorem protectedCount_eq (t : TypeOutline) : t.protectedCount = t.defaultVisible.length := by
  have hlike : ∀ s : Modifiers, s.isProtectedLike = decide (s.has .protectedAccess = true ∨
      s.has .publicAccess = false ∧ s.has .privateAccess = false) := by
    intro s
    simp [Modifiers.isProtectedLike]
  rw [protectedCount, defaultVisible, memberModifiers, ← List.countP_eq_length_filter,
    List.countP_append, List.countP_map, List.countP_map]
  simp only [hlike, Function.comp_def]

/-! ## Weights -/

/-- The sum of one more than the decisions, over the methods of a type. -/
def decisionWeight (t : TypeOutline) : Nat := (t.methods.map Method.cyclomatic).sum

theorem sum_complexity_eq (t : TypeOutline) :
    (t.methods.map Method.complexity).sum = t.decisionWeight := by
  rw [decisionWeight, funext Method.complexity_eq]

/-- The quotient of that sum by the number of methods; zero when there are none. -/
def meanWeight (t : TypeOutline) : Binary64 :=
  if t.methods.length = 0 then .zero false else .ofRatio false t.decisionWeight t.methods.length

/-- Every method weighs at least one. -/
theorem length_le_decisionWeight (t : TypeOutline) : t.methods.length ≤ t.decisionWeight := by
  rw [decisionWeight]
  induction t.methods with
  | nil => exact Nat.le_refl 0
  | cons m ms ih =>
    have hm : 1 ≤ m.cyclomatic := Nat.le_add_right 1 _
    rw [List.length_cons, List.map_cons, List.sum_cons]
    omega

/-- **The average weight is the true quotient, rounded once**: no number is nearer to it. -/
theorem meanWeight_nearest {t : TypeOutline} (h : 0 < t.methods.length) {negative : Bool} {m : Nat}
    {e : ℤ} (hmean : t.meanWeight = .finite negative m e) :
    negative = false ∧ ∀ (m' : Nat) (e' : ℤ), m' < 2 ^ 53 → Binary64.minExponent ≤ e' →
      |(t.decisionWeight : ℚ) / t.methods.length - m * 2 ^ e| ≤
        |(t.decisionWeight : ℚ) / t.methods.length - m' * 2 ^ e'| := by
  rw [meanWeight, if_neg h.ne'] at hmean
  obtain ⟨hsign, -, -, -, hnearest⟩ :=
    Binary64.ofRatio_nearest (h.trans_le t.length_le_decisionWeight) h hmean
  exact ⟨hsign, hnearest⟩

end TypeOutline

/-! ## Values by the structure -/

/-- **The built-in metrics of methods** and their values. -/
def methodReferences : List (String × (Method → Value)) :=
  [("MLOC", fun m => .int m.extent.span),
   ("CYCLO", fun m => .int m.cyclomatic),
   ("MAXNESTING", fun m => .int m.deepestNesting),
   ("NOAV", fun m => .int m.distinctVariables),
   ("PAR", fun m => .int m.parameters.length)]

/-- **The built-in metrics of types** and their values. -/
def typeReferences : List (String × (TypeOutline → Value)) :=
  [("NProtM", fun t => .int t.defaultVisible.length),
   ("NOM", fun t => .int t.methods.length),
   ("NOA", fun t => .int t.fields.length),
   ("LOC", fun t => .int t.extent.span),
   ("WMC", fun t => .int t.decisionWeight),
   ("AMW", fun t => .real t.meanWeight)]

/-- What one of some metrics says. -/
def valueIn {α : Type} (metrics : List (String × (α → Value))) (a : α) (id : String) :
    Option Value :=
  (metrics.lookup id).map fun value => value a

/-- **What a metric says of a method**, if it is a metric of methods. -/
def Method.reference (m : Method) (id : String) : Option Value := valueIn methodReferences m id

/-- **What a metric says of a type**, if it is a metric of types. -/
def TypeOutline.reference (t : TypeOutline) (id : String) : Option Value :=
  valueIn typeReferences t id

/-- Is this a metric of methods? -/
def isMethodMetric (id : String) : Bool := (methodReferences.lookup id).isSome

/-- Is this a metric of types? -/
def isTypeMetric (id : String) : Bool := (typeReferences.lookup id).isSome

/-- One of some metrics says something of everything. -/
theorem isSome_lookup_iff {α : Type} (metrics : List (String × (α → Value))) (a : α) (id : String) :
    (metrics.lookup id).isSome = true ↔ ∃ v, valueIn metrics a id = some v := by
  unfold valueIn
  cases metrics.lookup id <;> simp

theorem Method.isMethodMetric_iff (m : Method) (id : String) :
    isMethodMetric id = true ↔ ∃ v, m.reference id = some v :=
  isSome_lookup_iff methodReferences m id

theorem TypeOutline.isTypeMetric_iff (t : TypeOutline) (id : String) :
    isTypeMetric id = true ↔ ∃ v, t.reference id = some v :=
  isSome_lookup_iff typeReferences t id

/-! ## Values by the measures -/

theorem Method.reference_lines (m : Method) : m.reference "MLOC" = some (.int m.lineCount) := by
  rw [lineCount_eq]
  rfl

theorem Method.reference_complexity (m : Method) :
    m.reference "CYCLO" = some (.int m.complexity) := by
  rw [complexity_eq]
  rfl

theorem Method.reference_nesting (m : Method) : m.reference "MAXNESTING" = some (.int m.nesting) := by
  rw [nesting_eq]
  rfl

theorem Method.reference_variables (m : Method) :
    m.reference "NOAV" = some (.int m.accessedVariables.length) := by
  rw [length_accessedVariables]
  rfl

theorem TypeOutline.reference_protected (t : TypeOutline) :
    t.reference "NProtM" = some (.int t.protectedCount) := by
  rw [protectedCount_eq]
  rfl

theorem TypeOutline.reference_lines (t : TypeOutline) :
    t.reference "LOC" = some (.int t.lineCount) := by
  rw [lineCount_eq]
  rfl

/-! ## Structure without values -/

/-- A method without stored values. -/
def Method.bare (m : Method) : Method := { m with metrics := [] }

/-- A type without stored values, on itself and on its methods. -/
def TypeOutline.bare (t : TypeOutline) : TypeOutline :=
  { t with methods := t.methods.map Method.bare, metrics := [] }

/-- **The structure of a source file**: its outline without stored values. -/
def SourceOutline.bare (o : SourceOutline) : SourceOutline :=
  { o with types := o.types.map TypeOutline.bare }

@[simp] theorem Method.reference_bare (m : Method) (id : String) :
    m.bare.reference id = m.reference id := by
  simp only [reference, valueIn, methodReferences, List.lookup_cons, List.lookup_nil]
  repeat' split
  all_goals rfl

namespace TypeOutline

@[simp] theorem length_methods_bare (t : TypeOutline) :
    t.bare.methods.length = t.methods.length := by
  simp [bare]

@[simp] theorem defaultVisible_bare (t : TypeOutline) : t.bare.defaultVisible = t.defaultVisible := by
  simp only [defaultVisible, memberModifiers, bare, List.map_map]
  rfl

@[simp] theorem decisionWeight_bare (t : TypeOutline) : t.bare.decisionWeight = t.decisionWeight := by
  simp only [decisionWeight, bare, List.map_map]
  rfl

@[simp] theorem meanWeight_bare (t : TypeOutline) : t.bare.meanWeight = t.meanWeight := by
  simp [meanWeight]

@[simp] theorem reference_bare (t : TypeOutline) (id : String) :
    t.bare.reference id = t.reference id := by
  have hfields : t.bare.fields = t.fields := rfl
  have hextent : t.bare.extent = t.extent := rfl
  simp only [reference, valueIn, typeReferences, List.lookup_cons, List.lookup_nil]
  repeat' split
  all_goals simp [hfields, hextent]

end TypeOutline

end HistoryMetrics
