/-! # The calendar

    Dates of the proleptic Gregorian calendar in the years 1 to 9999, and times of day to the
    microsecond.

    - `Date.ordinal`, `Date.ofOrdinal`: days counted from the first day of year 1
    - `Date.ofWeek`: the day of a week of a year, weeks beginning on Monday, the first one of a
      year being the one that holds its first Thursday
-/

namespace HistoryMetrics

/-- A day of the calendar. -/
structure Date where
  year : Nat
  month : Nat
  day : Nat
deriving Repr, DecidableEq, Inhabited

/-- A time of day. -/
structure TimeOfDay where
  hour : Nat
  minute : Nat
  second : Nat
  microsecond : Nat
deriving Repr, DecidableEq, Inhabited

namespace Date

-- Sums start at the zero of the core library, whatever other zeros are in scope.
attribute [local instance (high)] Zero.ofOfNat0

/-- Does the year have a twenty-ninth of February? -/
def isLeap (year : Nat) : Bool :=
  year % 4 == 0 && (year % 100 != 0 || year % 400 == 0)

/-- The lengths of the months. -/
def monthLengths (year : Nat) : List Nat :=
  [31, if isLeap year then 29 else 28, 31, 30, 31, 30, 31, 31, 30, 31, 30, 31]

/-- The number of days of a month. -/
def daysInMonth (year month : Nat) : Nat :=
  (monthLengths year).getD (month - 1) 0

/-- The number of days before a year. -/
def daysBeforeYear (year : Nat) : Nat :=
  let y := year - 1
  y * 365 + y / 4 - y / 100 + y / 400

/-- The day's number, the first day of year 1 being number one. -/
def ordinal (d : Date) : Nat :=
  daysBeforeYear d.year + ((monthLengths d.year).take (d.month - 1)).sum + d.day

/-- The month and the day of a day counted within its year from zero. -/
def monthAndDay : (month : Nat) → (lengths : List Nat) → (rest : Nat) → Nat × Nat
  | month, [], rest => (month, rest + 1)
  | month, l :: ls, rest => if rest < l then (month, rest + 1) else monthAndDay (month + 1) ls (rest - l)

/-- The day with the given number. -/
def ofOrdinal (n : Nat) : Date :=
  let guess := (n - 1) / 366 + 1
  let step (y : Nat) : Nat := if daysBeforeYear (y + 1) < n then y + 1 else y
  let year := Nat.repeat step 30 guess
  let (month, day) := monthAndDay 1 (monthLengths year) (n - 1 - daysBeforeYear year)
  ⟨year, month, day⟩

/-- The number of the Monday that begins the first week of a year; it may lie in the year before. -/
def firstMonday (year : Nat) : Int :=
  let first : Int := daysBeforeYear year + 1
  let weekday := (first + 6) % 7
  let monday := first - weekday
  if 3 < weekday then monday + 7 else monday

/-- Does the year have a fifty-third week? It starts on a Thursday, or it is a leap year and starts on
    a Wednesday. -/
def hasLongYear (year : Nat) : Bool :=
  let weekday := (daysBeforeYear year + 1 + 6) % 7
  weekday == 3 || (weekday == 2 && isLeap year)

end Date

/-- A number with leading zeros. -/
def padded (width : Nat) (n : Nat) : String :=
  let digits := toString n
  String.ofList (List.replicate (width - digits.length) '0') ++ digits

/-- Year, month and day. -/
def Date.text (d : Date) : String :=
  padded 4 d.year ++ "-" ++ padded 2 d.month ++ "-" ++ padded 2 d.day

/-- Hours, minutes and seconds, and microseconds unless there are none. -/
def TimeOfDay.text (t : TimeOfDay) : String :=
  padded 2 t.hour ++ ":" ++ padded 2 t.minute ++ ":" ++ padded 2 t.second ++
    if t.microsecond == 0 then "" else "." ++ padded 6 t.microsecond

end HistoryMetrics
