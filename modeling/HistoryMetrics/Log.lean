import HistoryMetrics.Failure

/-! # Log records

    What the program tells about its work: a record has a level, the name of the part of the
    program that wrote it, and a text. A record about a failure keeps the failure as its cause. -/

namespace HistoryMetrics

/-- **How urgent a record is.** -/
structure Level where
  rank : Int
deriving Repr, DecidableEq, Inhabited

namespace Level

/-- For those who look for errors in the program. -/
def debug : Level := ⟨10⟩

/-- For those who follow its progress. -/
def info : Level := ⟨20⟩

/-- Something was left out. -/
def warning : Level := ⟨30⟩

/-- Something went wrong. -/
def error : Level := ⟨40⟩

/-- The program cannot go on. -/
def critical : Level := ⟨50⟩

/-- The name of a level. -/
def name (l : Level) : String :=
  if l = critical then "CRITICAL"
  else if l = error then "ERROR"
  else if l = warning then "WARNING"
  else if l = info then "INFO"
  else if l = debug then "DEBUG"
  else if l.rank = 0 then "NOTSET"
  else "Level " ++ toString l.rank

/-- Is a level at least as urgent as another one? -/
def reaches (l bound : Level) : Bool := decide (bound.rank ≤ l.rank)

/-- The less urgent of two levels. -/
def lower (a b : Level) : Level := if b.rank < a.rank then b else a

end Level

/-- **A log record**, with the failure that it is about, if there is one. -/
structure LogRecord where
  level : Level
  logger : String
  message : String
  cause : Option Failure

namespace LogRecord

/-- A record that is not about a failure. -/
def plain (level : Level) (logger message : String) : LogRecord := ⟨level, logger, message, none⟩

/-- The text of a record: its message, and what went wrong. -/
def text (r : LogRecord) : String := r.message ++ (r.cause.map Failure.message).getD ""

end LogRecord

/-! ## Loggers -/

/-- The name of the program among loggers. -/
def rootLogger : String := "repo_miner"

/-- The logger of a part of the program: names outside the program are put below it. -/
def loggerName : Option String → String
  | none => rootLogger
  | some name => if name.startsWith rootLogger then name else rootLogger ++ "." ++ name

/-- **The loggers above a logger**, the nearest first, with all names written backwards. A name is cut
    at its dots from the end on. The character right before a dot is not looked at, so that of two dots
    in a row only the second one counts; and nothing is above a dot that begins a name. -/
def loggersAbove : (backwards : List Char) → List (List Char)
  | '.' :: c :: rest => (c :: rest) :: loggersAbove rest
  | _ :: rest => loggersAbove rest
  | [] => []

/-- Is a logger the program itself or one of its parts? -/
def isProgramLogger (name : String) : Bool :=
  name == rootLogger || (loggersAbove name.toList.reverse).contains rootLogger.toList.reverse

end HistoryMetrics
