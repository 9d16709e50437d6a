/-! # Binary floating-point numbers, kept exactly

    A double-precision number is a sign, a significand below 2 ^ 53 and a power of two. Everything
    here works on those integers: comparison by cross-multiplication, every other operation by one
    rounding of an exact quotient.

    - `ofRatio`: the nearest number to a quotient of integers, ties to the even significand
    - `ofDecimal`: the nearest number to a decimal numeral
    - `add`, `div`, `half`: the operations that the measures need
    - `compare?`: the order, which a value that is not a number takes no part in
-/

namespace HistoryMetrics

/-- **A double-precision number.** A finite one stands for `significand * 2 ^ exponent`. -/
inductive Binary64 where
  | nan
  | infinite (negative : Bool)
  | finite (negative : Bool) (significand : Nat) (exponent : Int)
deriving Repr, DecidableEq, Inhabited

namespace Binary64

-- Powers are those of the core library, whatever other powers are in scope.
attribute [local instance (high)] instPowNat

/-- The least exponent. -/
def minExponent : Int := -1074

/-- The greatest exponent. -/
def maxExponent : Int := 971

/-- Zero, of either sign. -/
def zero (negative : Bool) : Binary64 := .finite negative 0 minExponent

/-! ## Rounding -/

/-- The quotient rounded to the nearest integer, a half to the even one. -/
def roundDiv (num den : Nat) : Nat :=
  let q := num / den
  let r := num % den
  if den < 2 * r || (2 * r == den && q % 2 == 1) then q + 1 else q

/-- Numerator and denominator of `num / den / 2 ^ e`. -/
def unscale (num den : Nat) (e : Int) : Nat × Nat :=
  if 0 ≤ e then (num, den * 2 ^ e.toNat) else (num * 2 ^ (-e).toNat, den)

/-- The exponent that makes the significand of a positive quotient 53 bits long, as far as the
    format's exponents go down. -/
def exponentFor (num den : Nat) : Int :=
  let k : Int := (Nat.log2 num : Int) - (Nat.log2 den : Int)
  let (n, d) := unscale num den k
  max (if d ≤ n then k - 52 else k - 53) minExponent

/-- A significand of at most 2 ^ 53 with its exponent; too large a number is infinite. -/
def pack (negative : Bool) (significand : Nat) (exponent : Int) : Binary64 :=
  let (m, e) := if significand == 2 ^ (53 : Nat) then (2 ^ (52 : Nat), exponent + 1) else (significand, exponent)
  if maxExponent < e then .infinite negative else .finite negative m e

/-- The nearest number to `num / den`. -/
def ofRatio (negative : Bool) (num den : Nat) : Binary64 :=
  if num == 0 then zero negative
  else
    let e := exponentFor num den
    let (n, d) := unscale num den e
    pack negative (roundDiv n d) e

/-- The nearest number to an integer. -/
def ofInt (i : Int) : Binary64 :=
  ofRatio (i < 0) i.natAbs 1

/-- The nearest number to `digits * 10 ^ power`. A numeral too far away to matter is not
    multiplied out. -/
def ofDecimal (negative : Bool) (digits : Nat) (power : Int) : Binary64 :=
  let size : Int := (Nat.toDigits 10 digits).length
  if digits == 0 then zero negative
  else if 400 < size + power then .infinite negative
  else if size + power < -400 then zero negative
  else if 0 ≤ power then ofRatio negative (digits * 10 ^ power.toNat) 1
  else ofRatio negative digits (10 ^ (-power).toNat)

/-! ## Exact view -/

/-- The significand with its sign. -/
def signed (negative : Bool) (m : Nat) : Int :=
  if negative then -(m : Int) else m

/-- Compares `a * 2 ^ d` and `b * 2 ^ e`. -/
def compareScaled (a : Int) (d : Int) (b : Int) (e : Int) : Ordering :=
  let low := min d e
  compare (a * 2 ^ (d - low).toNat) (b * 2 ^ (e - low).toNat)

/-- The order of two numbers; `none` when one of them is not a number. -/
def compare? : Binary64 → Binary64 → Option Ordering
  | .nan, _ => none
  | _, .nan => none
  | .infinite a, .infinite b => some (compare (signed a 1) (signed b 1))
  | .infinite a, .finite .. => some (if a then .lt else .gt)
  | .finite .., .infinite b => some (if b then .gt else .lt)
  | .finite s m d, .finite t n e => some (compareScaled (signed s m) d (signed t n) e)

/-- Is this the number zero, of either sign? -/
def isZero : Binary64 → Bool
  | .finite _ m _ => m == 0
  | _ => false

/-! ## Arithmetic -/

/-- The nearest number to `n * 2 ^ e`; a zero result is positive. -/
def ofScaled (n : Int) (e : Int) : Binary64 :=
  if 0 ≤ e then ofRatio (n < 0) (n.natAbs * 2 ^ e.toNat) 1
  else ofRatio (n < 0) n.natAbs (2 ^ (-e).toNat)

/-- The sum. -/
def add : Binary64 → Binary64 → Binary64
  | .nan, _ => .nan
  | _, .nan => .nan
  | .infinite a, .infinite b => if a == b then .infinite a else .nan
  | .infinite a, _ => .infinite a
  | _, .infinite b => .infinite b
  | .finite s m d, .finite t n e =>
    if m == 0 && n == 0 then zero (s && t)
    else
      let low := min d e
      ofScaled (signed s m * 2 ^ (d - low).toNat + signed t n * 2 ^ (e - low).toNat) low

/-- The quotient. -/
def div : Binary64 → Binary64 → Binary64
  | .nan, _ => .nan
  | _, .nan => .nan
  | .infinite _, .infinite _ => .nan
  | .infinite a, .finite t _ _ => .infinite (a != t)
  | .finite s _ _, .infinite b => zero (s != b)
  | .finite s m d, .finite t n e =>
    if n == 0 then (if m == 0 then .nan else .infinite (s != t))
    else
      let low := min d e
      ofRatio (s != t) (m * 2 ^ (d - low).toNat) (n * 2 ^ (e - low).toNat)

/-- Half of the number, rounded down to an integer. An infinite number has no such half. -/
def half : Binary64 → Binary64
  | .nan => .nan
  | .infinite _ => .nan
  | .finite s m e =>
    if m == 0 then zero s
    else if 1 ≤ e then ofScaled (signed s m) (e - 1)
    else ofInt ((signed s m).fdiv (2 ^ (1 - e).toNat))

end Binary64

end HistoryMetrics
