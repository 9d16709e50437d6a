import HistoryMetrics.Time.Calendar

/-! # Moments

    A day, a time of day and perhaps the offset of the local time from universal time. -/

namespace HistoryMetrics

/-- **A moment.** The offset counts microseconds east of universal time. -/
structure Moment where
  date : Date
  time : TimeOfDay
  offset : Option Int
deriving Repr, DecidableEq, Inhabited

/-- Microseconds of a second. -/
def secondLength : Nat := 1000000

/-- Microseconds of a day. -/
def dayLength : Nat := 86400 * secondLength

/-- An offset: its sign, hours and minutes, and what else there is of it. -/
def offsetText (offset : Int) : String :=
  let n := offset.natAbs
  let seconds := n / secondLength
  let rest := n % secondLength
  (if offset < 0 then "-" else "+") ++ padded 2 (seconds / 3600) ++ ":" ++
    padded 2 (seconds / 60 % 60) ++
    if seconds % 60 == 0 && rest == 0 then ""
    else ":" ++ padded 2 (seconds % 60) ++ if rest == 0 then "" else "." ++ padded 6 rest

namespace Moment

/-- The text of a moment, `separator` standing between day and time. -/
def textWith (separator : String) (m : Moment) : String :=
  m.date.text ++ separator ++ m.time.text ++ (m.offset.map offsetText).getD ""

/-- The text of a moment in the interchange format. -/
def isoText (m : Moment) : String := m.textWith "T"

/-- The text of a moment for readers. -/
def text (m : Moment) : String := m.textWith " "

/-- Year, month and day, the year without leading zeros. -/
def dayText (m : Moment) : String :=
  toString m.date.year ++ "-" ++ padded 2 m.date.month ++ "-" ++ padded 2 m.date.day

end Moment

end HistoryMetrics
