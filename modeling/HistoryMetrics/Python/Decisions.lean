import HistoryMetrics.Outline
import HistoryMetrics.Python.Node

/-! # Decisions inside expressions

    A conditional expression, each operator of a connective and each filter of a comprehension is a
    decision point. The points inside a conditional expression hang below its own point; all others
    stand side by side, in the order in which a walk from the root meets them.
-/

namespace HistoryMetrics.Python

/-- The lines of a node. -/
def Span.extent (s : Span) : Extent := ⟨s.line, s.endLine⟩

/-- A decision point at the given place. -/
def point (kind : StatementKind) (s : Span) (inner : List Statement) : Statement :=
  .mk kind s.extent [] inner

/-- The decision points that a node makes itself, conditional expressions apart. -/
def ownPoints : Node → List Statement
  | .expr (.boolOp s _ values) | .callee (.boolOp s _ values) =>
    List.replicate (values.length - 1) (point .booleanOp s [])
  | .comprehension (.mk _ _ _ filters) => filters.map fun f => point .ifThen f.span []
  | _ => []

/-- The place of a conditional expression. -/
def conditionalSpan? : Node → Option Span
  | .expr (.conditional s _ _ _) | .callee (.conditional s _ _ _) => some s
  | _ => none

/-- **The decision points of a node** and of all nodes inside it. -/
def decisions (n : Node) : List Statement :=
  let inner := n.children.attach.flatMap fun c => decisions c.1
  match conditionalSpan? n with
  | some s => [point .conditional s inner]
  | none => ownPoints n ++ inner
termination_by n.weight
decreasing_by exact Node.weight_lt_of_mem c.2

/-- The decision points of several nodes one after the other. -/
def decisionsOfAll (ns : List Node) : List Statement := ns.flatMap decisions

/-- The decision points of a node, without the bookkeeping of the recursion. -/
theorem decisions_eq (n : Node) :
    decisions n = match conditionalSpan? n with
      | some s => [point .conditional s (decisionsOfAll n.children)]
      | none => ownPoints n ++ decisionsOfAll n.children := by
  have h : (n.children.attach.flatMap fun c => decisions c.1) = decisionsOfAll n.children := by
    rw [decisionsOfAll, List.flatMap_def, List.flatMap_def, List.map_attach_eq_pmap,
      List.pmap_eq_map]
  rw [decisions]
  simp only [h]

end HistoryMetrics.Python
