import HistoryMetrics.Failure
import HistoryMetrics.Outline

/-! # Measures

    What the built-in metrics measure, on the outline of one method or of one type.

    - methods: lines, decisions, nesting, variables, parameters
    - types: protected members, methods, fields, lines, and the weight of the methods, which is
      summed from the stored decision counts
-/

namespace HistoryMetrics

/-! ## Methods -/

/-- The kinds of statements that branch. -/
def StatementKind.isDecision : StatementKind → Bool
  | .ifThen | .elseIf | .forLoop | .forEach | .whileLoop | .doLoop | .case | .handler
  | .conditional | .booleanOp => true
  | _ => false

/-- The kinds of statements that open a level of nesting. -/
def StatementKind.isNesting : StatementKind → Bool
  | .ifThen | .elseIf | .forLoop | .forEach | .whileLoop | .doLoop | .switch | .tryBlock
  | .withBlock | .conditional => true
  | _ => false

/-- The lines that an extent spans; none when it is unknown. -/
def Extent.lineCount (e : Extent) : Int :=
  if e.start ≤ 0 || e.stop < e.start then 0 else e.stop - e.start + 1

mutual

/-- The deepest level that a statement on the given level reaches. -/
def Statement.deepest (level : Nat) : Statement → Nat
  | .mk kind _ _ children =>
    let inside := if kind.isNesting then level + 1 else level
    max inside (Statement.deepestOf inside children)

/-- The deepest level that statements on the given level reach; at least that level. -/
def Statement.deepestOf (level : Nat) : List Statement → Nat
  | [] => level
  | s :: ss => max (Statement.deepest level s) (Statement.deepestOf level ss)

end

namespace Method

/-- The lines of a method. -/
def lineCount (m : Method) : Int := m.extent.lineCount

/-- **Cyclomatic complexity**: one more than the decisions. -/
def complexity (m : Method) : Nat :=
  1 + m.statements.countP fun s => s.kind.isDecision

/-- **How deep control structures are nested.** -/
def nesting (m : Method) : Nat := Statement.deepestOf 0 m.body

/-- The variables that the statements of a method name, each once. -/
def accessedVariables (m : Method) : List String :=
  (m.statements.flatMap Statement.names).eraseDups

end Method

/-! ## Types -/

namespace TypeOutline

/-- The methods and fields that are protected or have no visibility of their own. -/
def protectedCount (t : TypeOutline) : Nat :=
  (t.methods.countP fun m => m.modifiers.isProtectedLike) +
    t.fields.countP fun f => f.modifiers.isProtectedLike

/-- The lines of a type. -/
def lineCount (t : TypeOutline) : Int :=
  max 0 (if 0 < t.extent.start then t.extent.stop - t.extent.start + 1 else 0)

end TypeOutline

/-! ## Weights -/

/-- A metric id as a key that was looked for in vain. -/
def missingMetricKey (id : String) : Fault :=
  .missingKey ("<MetricId." ++ id ++ ": " ++ Text.quoted id ++ ">")

/-- The value stored under a metric id. -/
def Metrics.require (m : Metrics) (id : String) : Except Fault Value :=
  match m.get? id with
  | some v => .ok v
  | none => .error (missingMetricKey id)

/-- Values that an operator does not take together. -/
def unsupported (operator : String) (a b : Value) : Fault :=
  .wrongType ("unsupported operand type(s) for " ++ operator ++ ": " ++ Text.quoted a.typeName ++
    " and " ++ Text.quoted b.typeName)

/-- The sum of two numbers. -/
def Value.sum (a b : Value) : Except Fault Value :=
  match a.number?, b.number? with
  | some m, some n => .ok (.number (m.add n))
  | _, _ => .error (unsupported "+" a b)

/-- The quotient of two numbers. -/
def Value.quotient (a b : Value) : Except Fault Value :=
  match a.number?, b.number? with
  | some m, some n => .ok (.real (m.quotient n))
  | _, _ => .error (unsupported "/" a b)

/-- **The weight of methods**: the sum of their stored complexities, from left to right. -/
def weightFrom (total : Value) : List Method → Except Fault Value
  | [] => .ok total
  | m :: ms =>
    match m.metrics.require "CYCLO" with
    | .error e => .error e
    | .ok v =>
      match total.sum v with
      | .error e => .error e
      | .ok t => weightFrom t ms

/-- The weight of the methods of a type. -/
def TypeOutline.weight (t : TypeOutline) : Except Fault Value := weightFrom (.int 0) t.methods

/-- **The average weight**: the stored weight by the stored number of methods, and zero when there
    are none. -/
def TypeOutline.averageWeight (t : TypeOutline) : Except Fault Value :=
  match t.metrics.require "NOM" with
  | .error e => .error e
  | .ok count =>
    if count.isTruthy then
      match t.metrics.require "WMC" with
      | .error e => .error e
      | .ok total => total.quotient count
    else .ok (.real (.zero false))

end HistoryMetrics
