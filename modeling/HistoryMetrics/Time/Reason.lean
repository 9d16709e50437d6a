import HistoryMetrics.Failure
import HistoryMetrics.Time.Iso

/-! # Why a text is no moment -/

namespace HistoryMetrics

/-- The message about a text that is no moment. -/
def MomentError.message (text : String) : MomentError → String
  | .malformed => "Invalid isoformat string: " ++ Text.quoted text
  | .year y => "year " ++ toString y ++ " is out of range"
  | .month => "month must be in 1..12"
  | .day => "day is out of range for month"
  | .hour => "hour must be in 0..23"
  | .minute => "minute must be in 0..59"
  | .second => "second must be in 0..59"
  | .offset o =>
    "offset must be a timedelta strictly between -timedelta(hours=24) and timedelta(hours=24), " ++
      "not " ++ Value.durationShown o ++ "."

/-- **The moment that a text names**, or the fault of a text that names none. -/
def Moment.read (text : String) : Except Fault Moment :=
  (Moment.ofText text).mapError fun e => .wrongValue (e.message text)

end HistoryMetrics
