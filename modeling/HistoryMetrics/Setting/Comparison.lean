import HistoryMetrics.Failure

/-! # Comparing values

    Numbers, and truth values among them, compare by value; no other kinds of values compare with
    a number. A comparison that cannot be made names its operator and both kinds. -/

namespace HistoryMetrics

/-- The fault of comparing values that do not compare. -/
def incomparable (operator : String) (a b : Value) : Fault :=
  .wrongType (Text.quoted operator ++ " not supported between instances of " ++
    Text.quoted a.typeName ++ " and " ++ Text.quoted b.typeName)

namespace Value

/-- Compares two numbers. -/
def compareWith (operator : String) (test : Number → Number → Bool) (a b : Value) :
    Except Fault Bool :=
  match a.number?, b.number? with
  | some m, some n => .ok (test m n)
  | _, _ => .error (incomparable operator a b)

/-- `a < b`. -/
def isBelow (a b : Value) : Except Fault Bool := compareWith "<" Number.lt a b

/-- `a > b`. -/
def isAbove (a b : Value) : Except Fault Bool := compareWith ">" Number.gt a b

/-- `a ≥ b`. -/
def isAtLeast (a b : Value) : Except Fault Bool := compareWith ">=" Number.ge a b

/-- Half of a number, rounded down; other values have no half. -/
def half (a : Value) : Except Fault Value :=
  match a.number? with
  | some n => .ok (.number n.half)
  | none => .error (.wrongType ("unsupported operand type(s) for //: " ++
      Text.quoted a.typeName ++ " and 'int'"))

end Value

end HistoryMetrics
