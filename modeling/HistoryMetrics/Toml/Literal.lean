import HistoryMetrics.Time.Iso
import HistoryMetrics.Toml.Text
import HistoryMetrics.Value

/-! # Numbers and dates of settings files

    A literal is as long as its form allows; what stands after it is looked at later. -/

namespace HistoryMetrics.Toml

-- Powers are those of the core library, whatever other powers are in scope.
attribute [local instance (high)] instPowNat

/-! ## Digits -/

/-- Digits with single low lines between them: the digits and the rest. A low line without a digit
    after it is not taken. -/
def digitRun (isDigit : Char → Bool) : List Char → List Char × List Char
  | [] => ([], [])
  | c :: '_' :: d :: rest =>
    if isDigit c && isDigit d then
      let p := digitRun isDigit (d :: rest)
      (c :: p.1, p.2)
    else if isDigit c then ([c], '_' :: d :: rest)
    else ([], c :: '_' :: d :: rest)
  | c :: rest =>
    if isDigit c then
      let p := digitRun isDigit rest
      (c :: p.1, p.2)
    else ([], c :: rest)

/-- The value of digits in a base. -/
def digitsValue (base : Nat) (ds : List Char) : Nat :=
  ds.foldl (fun n c =>
    let d := c.toNat
    n * base + (if d ≤ 0x39 then d - 0x30 else if d ≤ 0x46 then d - 0x37 else d - 0x57)) 0

/-- The digits of the bases that a mark announces. -/
def baseOf : Char → Option (Nat × (Char → Bool))
  | 'x' => some (16, fun c => c.isDigit || ('a' ≤ c && c ≤ 'f') || ('A' ≤ c && c ≤ 'F'))
  | 'b' => some (2, fun c => c == '0' || c == '1')
  | 'o' => some (8, fun c => '0' ≤ c && c ≤ '7')
  | _ => none

/-- A number with a base mark. -/
def basedNumber (cs : List Char) : Option (Value × List Char) :=
  match cs with
  | '0' :: mark :: rest =>
    (baseOf mark).bind fun (base, isDigit) =>
      let (ds, after) := digitRun isDigit rest
      if ds.isEmpty then none else some (.int (digitsValue base ds), after)
  | _ => none

/-! ## Decimal numbers -/

/-- The whole digits of a decimal number: a zero alone, or digits that do not start with one. -/
def wholeDigits (cs : List Char) : Option (List Char × List Char) :=
  match cs with
  | '0' :: rest => some (['0'], rest)
  | c :: _ => if c.isDigit then some (digitRun Char.isDigit cs) else none
  | [] => none

/-- The digits of a fraction, if there is one. -/
def fractionDigits (cs : List Char) : Option (List Char × List Char) :=
  match cs with
  | '.' :: rest =>
    let (ds, after) := digitRun Char.isDigit rest
    if ds.isEmpty then none else some (ds, after)
  | _ => none

/-- The sign at the start of a text, and the rest. -/
def sign : List Char → Bool × List Char
  | '-' :: r => (true, r)
  | '+' :: r => (false, r)
  | cs => (false, cs)

/-- The power of ten of an exponent, if there is one. -/
def exponentPart (cs : List Char) : Option (Int × List Char) :=
  match cs with
  | c :: rest =>
    if c == 'e' || c == 'E' then
      let (negative, rest') := sign rest
      let (ds, after) := digitRun Char.isDigit rest'
      if ds.isEmpty then none
      else
        let n : Int := digitsValue 10 ds
        some (if negative then -n else n, after)
    else none
  | [] => none

/-- The most digits that a whole number may have. -/
def maxDigits : Nat := 4300

/-- A decimal number: a whole one, unless a fraction or an exponent follows. -/
def decimalNumber (cs : List Char) : Option (Read Value) :=
  let (negative, body) := sign cs
  (wholeDigits body).map fun (whole, rest) =>
    let fraction := fractionDigits rest
    let rest' := (fraction.map Prod.snd).getD rest
    let power := exponentPart rest'
    if fraction.isNone && power.isNone then
      if maxDigits < whole.length then .error (.tooManyDigits whole.length)
      else
        let n : Int := digitsValue 10 whole
        .ok (.int (if negative then -n else n), rest)
    else
      let numeral : Binary64.Numeral :=
        ⟨whole, (fraction.map Prod.fst).getD [], (power.map Prod.fst).getD 0⟩
      .ok (.real (numeral.value negative), (power.map Prod.snd).getD rest')

/-- The numbers that are written as words. -/
def wordNumber (cs : List Char) : Option (Value × List Char) :=
  let (negative, body) := sign cs
  if starts "inf" body then some (.real (.infinite negative), body.drop 3)
  else if starts "nan" body then some (.real .nan, body.drop 3)
  else none

/-! ## Dates and times -/

/-- Exactly `n` digits whose value lies between two bounds. -/
def field (n low high : Nat) (cs : List Char) : Option (Nat × List Char) :=
  let ds := cs.take n
  if ds.length == n && ds.all Char.isDigit then
    let v := digitsValue 10 ds
    if low ≤ v && v ≤ high then some (v, cs.drop n) else none
  else none

/-- A given character. -/
def sep (c : Char) (cs : List Char) : Option (List Char) :=
  match cs with
  | d :: rest => if d == c then some rest else none
  | [] => none

/-- A fraction of a second in microseconds: six digits count. -/
def microseconds (cs : List Char) : Nat × List Char :=
  match cs with
  | '.' :: rest =>
    let ds := rest.takeWhile Char.isDigit
    if ds.isEmpty then (0, cs)
    else
      let six := ds.take 6
      (digitsValue 10 six * 10 ^ (6 - six.length), rest.drop ds.length)
  | _ => (0, cs)

/-- A time of day. -/
def time (cs : List Char) : Option (TimeOfDay × List Char) := do
  let (hour, cs) ← field 2 0 23 cs
  let cs ← sep ':' cs
  let (minute, cs) ← field 2 0 59 cs
  let cs ← sep ':' cs
  let (second, cs) ← field 2 0 59 cs
  let (micro, cs) := microseconds cs
  some (⟨hour, minute, second, micro⟩, cs)

/-- An offset from universal time, with its sign. -/
def signedOffset (cs : List Char) : Option (Int × List Char) := do
  match cs with
  | c :: rest =>
    if c == '+' || c == '-' then
      let (hour, rest) ← field 2 0 23 rest
      let rest ← sep ':' rest
      let (minute, rest) ← field 2 0 59 rest
      let n : Int := ((hour * 60 + minute) * 60 * secondLength : Nat)
      some (if c == '-' then -n else n, rest)
    else none
  | [] => none

/-- An offset from universal time, if there is one. -/
def offset (cs : List Char) : Option Int × List Char :=
  match cs with
  | 'Z' :: rest | 'z' :: rest => (some 0, rest)
  | _ =>
    match signedOffset cs with
    | some (o, rest) => (some o, rest)
    | none => (none, cs)

/-- The form of a date. -/
def dateForm (cs : List Char) : Option (Date × List Char) := do
  let (year, cs) ← field 4 0 9999 cs
  let cs ← sep '-' cs
  let (month, cs) ← field 2 1 12 cs
  let cs ← sep '-' cs
  let (day, cs) ← field 2 1 31 cs
  some (⟨year, month, day⟩, cs)

/-- The time after a date, behind a letter or a blank. -/
def timeAfterDate (cs : List Char) : Option (TimeOfDay × List Char) :=
  match cs with
  | c :: rest => if c == 'T' || c == 't' || c == ' ' then time rest else none
  | [] => none

/-- **A date, or a moment**: a date with a time after it. The day has to exist. -/
def dateOrMoment (cs : List Char) : Option (Read Value) :=
  (dateForm cs).map fun (date, rest) =>
    match timeAfterDate rest with
    | none =>
      match Moment.check ⟨date, ⟨0, 0, 0, 0⟩, none⟩ with
      | .ok _ => .ok (.date date, rest)
      | .error _ => defect .noSuchDay cs
    | some (time, rest') =>
      let (o, rest'') := offset rest'
      match Moment.check ⟨date, time, o⟩ with
      | .ok m => .ok (.moment m, rest'')
      | .error _ => defect .noSuchDay cs

/-- A time of day alone. -/
def timeAlone (cs : List Char) : Option (Value × List Char) :=
  (time cs).map fun p => (.time p.1, p.2)

/-- **A number, a date or a time**, whichever comes first in the order of their forms. -/
def literalValue (cs : List Char) : Read Value :=
  match dateOrMoment cs with
  | some r => r
  | none =>
    match timeAlone cs with
    | some r => .ok r
    | none =>
      match basedNumber cs with
      | some r => .ok r
      | none =>
        match decimalNumber cs with
        | some r => r
        | none =>
          match wordNumber cs with
          | some r => .ok r
          | none => defect .noValue cs

end HistoryMetrics.Toml
