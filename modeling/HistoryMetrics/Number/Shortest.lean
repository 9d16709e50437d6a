import HistoryMetrics.Number.Binary64

/-! # The shortest decimal that reads back

    Of the decimals that round to a given number, the one with the fewest digits is its text; of
    several, the nearest; of two equally near, the one with the even last digit.

    A decimal grid is the set of multiples of a power of ten. A grid meets the interval of the
    reals that round to a number exactly when one of the number's two neighbours on the grid lies
    in the interval, so it is enough to test those, from coarse grids to fine ones.
-/

namespace HistoryMetrics

namespace Binary64

-- Powers are those of the core library, whatever other powers are in scope.
attribute [local instance (high)] instPowNat

/-- **The reals that round to a positive number**, over one denominator: the number, the ends of
    the interval, and whether the ends belong to it. -/
structure Interval where
  value : Nat
  low : Nat
  high : Nat
  den : Nat
  closed : Bool
deriving Repr

/-- The interval of a finite positive number. Below a power of two the numbers lie twice as
    dense. -/
def interval (m : Nat) (e : Int) : Interval :=
  let up := 2 ^ e.toNat
  let below := if m == 2 ^ (52 : Nat) && minExponent < e then 1 else 2
  ⟨4 * m * up, (4 * m - below) * up, (4 * m + 2) * up, 4 * 2 ^ (-e).toNat, m % 2 == 0⟩

/-- A positive decimal: `digits * 10 ^ power`. -/
structure Decimal where
  digits : Nat
  power : Int
deriving Repr, DecidableEq

/-- Is `c * 10 ^ k` in the interval? -/
def Interval.holds (i : Interval) (c : Nat) (k : Int) : Bool :=
  let x := c * 10 ^ k.toNat * i.den
  let scale := 10 ^ (-k).toNat
  if i.closed then i.low * scale ≤ x && x ≤ i.high * scale
  else i.low * scale < x && x < i.high * scale

/-- The better of the two neighbours of the number on the grid of `10 ^ k`, if one of them lies in
    the interval. -/
def Interval.onGrid (i : Interval) (k : Int) : Option Decimal :=
  let num := i.value * 10 ^ (-k).toNat
  let den := i.den * 10 ^ k.toNat
  let a := num / den
  let r := num % den
  let lower := if 0 < a && i.holds a k then some a else none
  let upper := if i.holds (a + 1) k then some (a + 1) else none
  match lower, upper with
  | none, none => none
  | some c, none => some ⟨c, k⟩
  | none, some c => some ⟨c, k⟩
  | some c, some d =>
    if 2 * r < den || (2 * r == den && a % 2 == 0) then some ⟨c, k⟩ else some ⟨d, k⟩

/-- The first hit on the `n` grids from `10 ^ k` downwards. -/
def Interval.coarsest (i : Interval) : (n : Nat) → (k : Int) → Option Decimal
  | 0, _ => none
  | n + 1, k =>
    match i.onGrid k with
    | some d => some d
    | none => i.coarsest n (k - 1)

/-- A power of ten at least as large as the number, and not much larger. -/
def Interval.topPower (i : Interval) : Int :=
  ((Nat.log2 i.value : Int) + 1 - (Nat.log2 i.den : Int)) * 30103 / 100000 + 2

/-- The shortest decimal of a finite positive number. Seventeen digits always suffice. -/
def shortest (m : Nat) (e : Int) : Decimal :=
  let i := interval m e
  (i.coarsest 22 i.topPower).getD ⟨0, 0⟩

/-! ## Its text -/

/-- **How a number is written**: positional notation for a decimal point between the two bounds,
    which counts places from before the first digit; and what follows an integer. -/
structure Notation where
  lowPoint : Int
  highPoint : Int
  integerMark : String

/-- Positional from `1e-4` up to below `1e16`; an integer shows one decimal place. -/
def plain : Notation := ⟨-4, 16, ".0"⟩

/-- Like `plain`, but an integer stands alone. -/
def bare : Notation := ⟨-4, 16, ""⟩

/-- Digits without trailing zeros. -/
def significantDigits (n : Nat) : List Char :=
  ((Nat.toDigits 10 n).reverse.dropWhile fun c => c == '0').reverse

/-- An exponent of at least two digits, with its sign. -/
def exponentText (e : Int) : String :=
  let digits := String.ofList (Nat.toDigits 10 e.natAbs)
  let padded := if digits.length < 2 then "0" ++ digits else digits
  (if e < 0 then "e-" else "e+") ++ padded

/-- The text of a finite positive number. -/
def Decimal.text (form : Notation) (d : Decimal) : String :=
  let ds := significantDigits d.digits
  let point : Int := ((Nat.toDigits 10 d.digits).length : Int) + d.power
  if form.lowPoint < point && point ≤ form.highPoint then
    if point ≤ 0 then
      "0." ++ String.ofList (List.replicate (-point).toNat '0' ++ ds)
    else if (ds.length : Int) ≤ point then
      String.ofList (ds ++ List.replicate (point.toNat - ds.length) '0') ++ form.integerMark
    else String.ofList (ds.take point.toNat) ++ "." ++ String.ofList (ds.drop point.toNat)
  else
    let mantissa := match ds with
      | [] => "0"
      | [c] => String.ofList [c]
      | c :: rest => String.ofList (c :: '.' :: rest)
    mantissa ++ exponentText (point - 1)

/-- The text of a number, given how the infinite ones and the one that is not a number are
    written. -/
def textWith (form : Notation) (infinity notNumber : String) : Binary64 → String
  | .nan => notNumber
  | .infinite s => (if s then "-" else "") ++ infinity
  | .finite s m e =>
    (if s then "-" else "") ++
      if m == 0 then "0" ++ form.integerMark else (shortest m e).text form

/-- The text of a number. -/
def text (x : Binary64) : String :=
  textWith plain "inf" "nan" x

/-! ## Reading it -/

/-- The digits of a decimal numeral before and after its point, and the power of ten after it. -/
structure Numeral where
  whole : List Char
  fraction : List Char
  power : Int

/-- The number of a numeral. -/
def Numeral.value (negative : Bool) (n : Numeral) : Binary64 :=
  let digits := (n.whole ++ n.fraction).foldl (fun v c => v * 10 + (c.toNat - 48)) 0
  ofDecimal negative digits (n.power - n.fraction.length)

/-- Reads a signed exponent. -/
def readPower (cs : List Char) : Option Int :=
  let (negative, ds) := match cs with
    | '-' :: rest => (true, rest)
    | '+' :: rest => (false, rest)
    | _ => (false, cs)
  if ds.isEmpty || !ds.all Char.isDigit then none
  else
    let n : Nat := ds.foldl (fun v c => v * 10 + (c.toNat - 48)) 0
    some (if negative then -(n : Int) else n)

/-- Reads a numeral without a sign: digits, a fraction, an exponent, of which the last two may be
    missing. -/
def readNumeral (cs : List Char) : Option Numeral :=
  let whole := cs.takeWhile Char.isDigit
  let afterWhole := cs.dropWhile Char.isDigit
  let (fraction, afterFraction) := match afterWhole with
    | '.' :: rest => (rest.takeWhile Char.isDigit, rest.dropWhile Char.isDigit)
    | _ => ([], afterWhole)
  if whole.isEmpty && fraction.isEmpty then none
  else match afterFraction with
    | [] => some ⟨whole, fraction, 0⟩
    | c :: rest =>
      if c == 'e' || c == 'E' then (readPower rest).map fun p => ⟨whole, fraction, p⟩ else none

/-- Reads a number in decimal notation, or one of the words `inf` and `nan`, after an optional
    sign. -/
def ofText? (cs : List Char) : Option Binary64 :=
  let (negative, body) := match cs with
    | '-' :: rest => (true, rest)
    | '+' :: rest => (false, rest)
    | _ => (false, cs)
  if body == "inf".toList then some (.infinite negative)
  else if body == "nan".toList then some .nan
  else (readNumeral body).map fun n => n.value negative

end Binary64

end HistoryMetrics
