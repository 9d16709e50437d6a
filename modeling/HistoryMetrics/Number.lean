import HistoryMetrics.Number.Shortest

/-! # Numbers of the measures

    A measure is a whole number of any size or a double-precision number. The two kinds are told
    apart in what is written and compare by value. -/

namespace HistoryMetrics

/-- **A number**: whole or real. -/
inductive Number where
  | whole (value : Int)
  | real (value : Binary64)
deriving Repr, DecidableEq, Inhabited

namespace Number

/-- The nearest double-precision number. -/
def toReal : Number → Binary64
  | .whole i => .ofInt i
  | .real x => x

/-- The order of two numbers by value; `none` when one of them is not a number. A whole number is
    not rounded for it. -/
def compare? : Number → Number → Option Ordering
  | .whole a, .whole b => some (compare a b)
  | .whole a, .real y => match y with
    | .finite t n e => some (Binary64.compareScaled a 0 (Binary64.signed t n) e)
    | _ => Binary64.compare? (.zero false) y
  | .real x, .whole b => match x with
    | .finite s m d => some (Binary64.compareScaled (Binary64.signed s m) d b 0)
    | _ => Binary64.compare? x (.zero false)
  | .real x, .real y => Binary64.compare? x y

/-- `a < b`. -/
def lt (a b : Number) : Bool := compare? a b == some .lt

/-- `a > b`. -/
def gt (a b : Number) : Bool := compare? a b == some .gt

/-- `a ≥ b`. -/
def ge (a b : Number) : Bool := compare? a b == some .gt || compare? a b == some .eq

/-- Equality by value. -/
def eq (a b : Number) : Bool := compare? a b == some .eq

/-- Is this zero? -/
def isZero : Number → Bool
  | .whole i => i == 0
  | .real x => x.isZero

/-- The sum: whole for whole numbers. -/
def add : Number → Number → Number
  | .whole a, .whole b => .whole (a + b)
  | a, b => .real (a.toReal.add b.toReal)

/-- The quotient, rounded once: that of two whole numbers is exact before the rounding. -/
def quotient : Number → Number → Binary64
  | .whole a, .whole b => .ofRatio ((a < 0) != (b < 0)) a.natAbs b.natAbs
  | a, b => a.toReal.div b.toReal

/-- Half of the number, rounded down. -/
def half : Number → Number
  | .whole a => .whole (a.fdiv 2)
  | .real x => .real x.half

/-- The text of a number. -/
def text : Number → String
  | .whole i => toString i
  | .real x => x.text

end Number

end HistoryMetrics
