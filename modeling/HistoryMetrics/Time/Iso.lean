import HistoryMetrics.Time.Moment

/-! # Reading moments

    The formats of ISO 8601 for a moment: a calendar date or a week date, with hyphens or without;
    any one character; hours, minutes, seconds and a fraction, with colons or without, of which only
    the hours are needed; and an offset from universal time.

    - `MomentError`: what can be wrong with a text, or with the fields it spells
    - `Moment.ofText`: the reader
-/

namespace HistoryMetrics

/-- **What is wrong with the text of a moment.** -/
inductive MomentError where
  | malformed
  | year (year : Nat)
  | month
  | day
  | hour
  | minute
  | second
  | offset (offset : Int)
deriving Repr, DecidableEq

namespace Iso

-- Powers are those of the core library, whatever other powers are in scope.
attribute [local instance (high)] instPowNat

/-- Reads exactly `n` digits. -/
def digits : (n : Nat) → List Char → (value : Nat) → Option (Nat × List Char)
  | 0, cs, value => some (value, cs)
  | _ + 1, [], _ => none
  | n + 1, c :: cs, value =>
    if c.isDigit then digits n cs (value * 10 + (c.toNat - 48)) else none

/-! ## Dates -/

/-- The number of digits at the start of a text. -/
def digitRun (cs : List Char) : Nat := (cs.takeWhile Char.isDigit).length

/-- Where the date of a text of eight characters or more ends. The fifth and the sixth character tell
    the format; after a week, the digits that follow decide whether a weekday is among them. -/
def dateLength (cs : List Char) : Option Nat :=
  let at? (i : Nat) : Option Char := cs[i]?
  if cs.length == 7 then some 7
  else if at? 4 == some '-' then
    if at? 5 == some 'W' then
      if at? 8 == some '-' then
        if cs.length == 9 then none
        else if (at? 10).any Char.isDigit then some 8
        else some 10
      else some 8
    else some 10
  else if at? 4 == some 'W' then
    let stop := 7 + digitRun (cs.drop 7)
    if stop < 9 then some stop else if stop % 2 == 0 then some 7 else some 8
  else some 8

/-- The day of a week date. A weekday that does not exist leaves the month open, which the check of
    the fields then refuses; so does a year that does not exist. -/
def ofWeek (year week weekday : Nat) : Except MomentError Date :=
  if year == 0 then .error (.year 0)
  else if week == 0 || 53 < week || (week == 53 && !Date.hasLongYear year) then .error .malformed
  else if weekday == 0 || 7 < weekday then .error .month
  else
    let n := Date.firstMonday year + (week - 1) * 7 + (weekday - 1)
    if n < 1 then .error (.year 0) else .ok (Date.ofOrdinal n.toNat)

/-- The fields of a date of `length` characters. -/
def date (length : Nat) (cs : List Char) : Except MomentError Date :=
  let orBad {α : Type} (o : Option α) : Except MomentError α :=
    match o with
    | some a => .ok a
    | none => .error .malformed
  do
    let (year, rest) ← orBad (digits 4 cs 0)
    let hasHyphens := rest.head? == some '-'
    let rest := if hasHyphens then rest.drop 1 else rest
    if rest.head? == some 'W' then
      let (week, rest') ← orBad (digits 2 (rest.drop 1) 0)
      let used := cs.length - rest'.length
      if used < length then
        if hasHyphens && rest'.head? != some '-' then .error .malformed
        else
          let (weekday, _) ← orBad (digits 1 (if hasHyphens then rest'.drop 1 else rest') 0)
          ofWeek year week weekday
      else ofWeek year week 1
    else
      let (month, rest') ← orBad (digits 2 rest 0)
      if hasHyphens && rest'.head? != some '-' then .error .malformed
      else
        let (day, _) ← orBad (digits 2 (if hasHyphens then rest'.drop 1 else rest') 0)
        .ok ⟨year, month, day⟩

/-! ## Times -/

/-- A microsecond count from a fraction of at most six digits. -/
def microseconds (value places : Nat) : Nat := value * 10 ^ (6 - places)

/-- Reads a fraction, of which six digits count. The flag tells whether something is left. -/
def fraction (hour minute second : Nat) (cs : List Char) : Option (TimeOfDay × Bool) :=
  let places := min cs.length 6
  match digits places cs 0 with
  | none => none
  | some (value, rest) =>
    some (⟨hour, minute, second, microseconds value places⟩,
      !(rest.dropWhile Char.isDigit).isEmpty)

/-- Reads hours, minutes and seconds from the text before `atEnd`, which tells whether anything stands
    after it. The flag of the answer tells whether the text went on: a single character more is left to
    the caller to judge. -/
def clock (atEnd : Bool) : (hasColons : Bool) → (read : List Nat) → List Char →
    Option (TimeOfDay × Bool)
  | _, [], [] => none
  | hasColons, read, cs =>
    let field (i : Nat) (r : List Nat) : Nat := r.getD i 0
    let time (r : List Nat) : TimeOfDay := ⟨field 0 r, field 1 r, field 2 r, 0⟩
    match cs with
    | a :: b :: rest =>
      if a.isDigit && b.isDigit then
        let r := read ++ [(a.toNat - 48) * 10 + (b.toNat - 48)]
        match rest with
        | [] => some (time r, !atEnd)
        | [c] => if c.toNat < 0x80 then some (time r, true) else none
        | c :: rest' =>
          let colons := if read.isEmpty then c == ':' else hasColons
          if colons && c == ':' then
            if r.length == 3 then fraction (field 0 r) (field 1 r) (field 2 r) rest'
            else clock atEnd colons r rest'
          else if c == '.' || c == ',' then fraction (field 0 r) (field 1 r) (field 2 r) rest'
          else if !colons then
            if r.length == 3 then fraction (field 0 r) (field 1 r) (field 2 r) (c :: rest')
            else clock atEnd colons r (c :: rest')
          else none
      else none
    | _ => none
termination_by _ _ cs => cs.length

/-- The offset in microseconds; it vanishes when it has no whole second. -/
def signedOffset (negative : Bool) (t : TimeOfDay) : Int :=
  let seconds := t.hour * 3600 + t.minute * 60 + t.second
  if seconds == 0 then 0
  else
    let n : Int := seconds * secondLength + t.microsecond
    if negative then -n else n

/-- Does the character introduce an offset? -/
def startsOffset (c : Char) : Bool := c == '+' || c == '-' || c == 'Z'

/-- A time of day, perhaps with an offset. -/
def time (cs : List Char) : Option (TimeOfDay × Option Int) :=
  let body := cs.takeWhile fun c => !startsOffset c
  match cs.drop body.length with
  | [] =>
    match clock true true [] body with
    | some (t, false) => some (t, none)
    | _ => none
  | sign :: rest =>
    match clock false true [] body with
    | none => none
    | some (t, _) =>
      if sign == 'Z' then (if rest.isEmpty then some (t, some 0) else none)
      else match clock true true [] rest with
        | some (o, false) => some (t, some (signedOffset (sign == '-') o))
        | _ => none

end Iso

/-! ## Moments -/

/-- Checks the fields: first the offset, then the date, then the time. -/
def Moment.check (m : Moment) : Except MomentError Moment :=
  let badOffset : Bool := match m.offset with
    | some o => dayLength ≤ o.natAbs
    | none => false
  if badOffset then .error (.offset (m.offset.getD 0))
  else if m.date.year == 0 then .error (.year 0)
  else if m.date.month == 0 || 12 < m.date.month then .error .month
  else if m.date.day == 0 || Date.daysInMonth m.date.year m.date.month < m.date.day then
    .error .day
  else if 23 < m.time.hour then .error .hour
  else if 59 < m.time.minute then .error .minute
  else if 59 < m.time.second then .error .second
  else .ok m

/-- Reads a moment. -/
def Moment.ofText (s : String) : Except MomentError Moment :=
  let cs := s.toList
  if cs.length < 7 then .error .malformed
  else match Iso.dateLength cs with
    | none => .error .malformed
    | some n => do
      let d ← Iso.date n (cs.take n)
      match cs.drop (n + 1) with
      | [] => Moment.check ⟨d, ⟨0, 0, 0, 0⟩, none⟩
      | rest =>
        match Iso.time rest with
        | none => .error .malformed
        | some (t, o) => Moment.check ⟨d, t, o⟩

end HistoryMetrics
