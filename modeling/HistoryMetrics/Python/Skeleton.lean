import HistoryMetrics.Python.Decisions
import HistoryMetrics.Python.Variables

/-! # Skeletons of statements

    The statements of a body, reduced to their kinds, their lines, the variables that they name
    themselves and the decisions inside their expressions.

    - An `if` with its chain of `elif` parts becomes as many statements side by side.
    - The `else` part of a loop stands inside the loop, all parts of a `try` inside the `try`.
    - A function inside a body is a block with its own body; a class is a block without one.
-/

namespace HistoryMetrics.Python

/-- The expressions directly inside a statement without a body. -/
def Simple.expressions : Simple → List Expr
  | .expr e => [e]
  | .assign targets value => targets ++ [value]
  | .augmented target _ value => [target, value]
  | .annotated target annotation value => [target, annotation] ++ value.toList
  | .giveBack value => value.toList
  | .delete targets => targets
  | .raise exception cause => exception.toList ++ cause.toList
  | .assert test message => test :: message.toList
  | _ => []

/-- The same as nodes. -/
def Simple.nodes (s : Simple) : List Node := Node.exprs s.expressions

/-- The context and the target of a resource. -/
def WithItem.nodes (w : WithItem) : List Node := .expr w.context :: Node.optional w.target

/-- **A statement with a header**: its variables and decisions are those of the header. -/
def headed (kind : StatementKind) (s : Span) (header : List Node) (body : List Statement) :
    Statement :=
  .mk kind s.extent (variablesOfEach header) (decisionsOfAll header ++ body)

/-- Is the `else` part of an `if` at the given column an `elif`? It is then one `if` that stands at
    the same column. -/
def continuesChain (column : Nat) : List Stmt → Bool
  | [.ifElse s _ _ _] => s.column == column
  | _ => false

mutual

/-- **The skeleton of a statement**; `kind` is what an `if` counts as in its place. -/
def skeleton (kind : StatementKind) : Stmt → List Statement
  | .simple s content =>
    [.mk .simple s.extent (namedVariables content.nodes) (decisionsOfAll content.nodes)]
  | .ifElse s test body orElse =>
    let chained := continuesChain s.column orElse
    headed kind s [.expr test]
        (skeletons .ifThen body ++ if chained then [] else skeletons .ifThen orElse) ::
      if chained then skeletons .elseIf orElse else []
  | .forEach s _ target source body orElse =>
    [headed .forEach s [.expr target, .expr source]
      (skeletons .ifThen body ++ skeletons .ifThen orElse)]
  | .whileLoop s test body orElse =>
    [headed .whileLoop s [.expr test] (skeletons .ifThen body ++ skeletons .ifThen orElse)]
  | .withBlock s _ items body =>
    [headed .withBlock s (items.flatMap WithItem.nodes) (skeletons .ifThen body)]
  | .tryBlock s _ body handlers orElse final =>
    [.mk .tryBlock s.extent []
      (skeletons .ifThen body ++ handlerSkeletons handlers ++ skeletons .ifThen orElse ++
        skeletons .ifThen final)]
  | .switch s subject cases => [headed .switch s [.expr subject] (caseSkeletons cases)]
  | .function s _ _ _ body _ _ => [.mk .block s.extent [] (skeletons .ifThen body)]
  | .classDef s _ _ _ _ _ => [.mk .block s.extent [] []]

/-- The skeletons of statements; `kind` is what an `if` among them counts as. -/
def skeletons (kind : StatementKind) : List Stmt → List Statement
  | [] => []
  | s :: ss => skeleton kind s ++ skeletons kind ss

/-- The skeletons of the handlers of a `try`. -/
def handlerSkeletons : List Handler → List Statement
  | [] => []
  | .mk s type name body :: hs =>
    .mk .handler s.extent (variablesOfEach (Node.optional type) ++ name.toList)
      (skeletons .ifThen body) :: handlerSkeletons hs

/-- The skeletons of the cases of a `match`. -/
def caseSkeletons : List MatchCase → List Statement
  | [] => []
  | .mk pattern guard body :: cs =>
    headed .case pattern.span (.pattern pattern :: Node.optional guard)
      (skeletons .ifThen body) :: caseSkeletons cs

end

/-- **The skeleton of a body.** -/
def bodySkeleton (body : List Stmt) : List Statement := skeletons .ifThen body

end HistoryMetrics.Python
