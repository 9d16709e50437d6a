import HistoryMetrics.Number
import HistoryMetrics.Text.Quoted
import HistoryMetrics.Time.Moment

/-! # Dynamic values

    Settings come from files and callers that may put anything anywhere, and a metric that a plug-in
    stores may be anything too. `Value` holds what can occur.

    - `Value.text`: how a value reads in a message
    - `Value.show`: how it reads inside a container, where text is quoted
    - `Value.typeName`, `Value.isTruthy`, `Value.number?`: what the rules of the program ask of one
-/

namespace HistoryMetrics

/-- **The three smells**, each with thresholds of its own. -/
inductive Smell where
  | brainMethod
  | complexMethod
  | longMethod
deriving Repr, DecidableEq, Inhabited

/-- The name of a smell's thresholds as a kind of value. -/
def Smell.thresholdType : Smell → String
  | .brainMethod => "BrainMethodThresholds"
  | .complexMethod => "ComplexMethodThresholds"
  | .longMethod => "LongMethodThresholds"

/-- **A value** of any kind that settings and metrics can hold. Tables keep the order of their
    entries. -/
inductive Value where
  | null
  | bool (value : Bool)
  | number (value : Number)
  | text (value : String)
  | list (items : List Value)
  | table (entries : List (String × Value))
  | date (value : Date)
  | time (value : TimeOfDay)
  | moment (value : Moment)
  | thresholds (smell : Smell) (limits : List (String × Value))

namespace Value

instance : Inhabited Value := ⟨.null⟩

/-- A whole number as a value. -/
def int (i : Int) : Value := .number (.whole i)

/-- A double-precision number as a value. -/
def real (x : Binary64) : Value := .number (.real x)

/-- The name of the kind of a value in messages. -/
def typeName : Value → String
  | .null => "NoneType"
  | .bool _ => "bool"
  | .number (.whole _) => "int"
  | .number (.real _) => "float"
  | .text _ => "str"
  | .list _ => "list"
  | .table _ => "dict"
  | .date _ => "datetime.date"
  | .time _ => "datetime.time"
  | .moment _ => "datetime.datetime"
  | .thresholds s _ => s.thresholdType

/-- Does the value count as true? Nothing, zero and all that is empty do not. -/
def isTruthy : Value → Bool
  | .null => false
  | .bool b => b
  | .number n => !n.isZero
  | .text s => !s.isEmpty
  | .list l => !l.isEmpty
  | .table t => !t.isEmpty
  | _ => true

/-- The number that the value is; the truth values are one and zero. -/
def number? : Value → Option Number
  | .bool b => some (.whole (if b then 1 else 0))
  | .number n => some n
  | _ => none

/-! ## Text of values -/

/-- Numbers separated by commas. -/
def numbersText (ns : List Nat) : String :=
  ", ".intercalate (ns.map toString)

/-- The arguments that show a time of day: seconds and microseconds only as far as they matter. -/
def timeArguments (t : TimeOfDay) : List Nat :=
  if t.microsecond != 0 then [t.hour, t.minute, t.second, t.microsecond]
  else if t.second != 0 then [t.hour, t.minute, t.second]
  else [t.hour, t.minute]

/-- A length of time: whole days, and seconds and microseconds of the rest, those that are not
    zero. -/
def durationShown (microseconds : Int) : String :=
  let days := microseconds.fdiv dayLength
  let rest := (microseconds - days * dayLength).toNat
  let seconds := rest / secondLength
  let parts :=
    (if days == 0 then [] else ["days=" ++ toString days]) ++
    (if seconds == 0 then [] else ["seconds=" ++ toString seconds]) ++
    (if rest % secondLength == 0 then []
      else ["microseconds=" ++ toString (rest % secondLength)])
  "datetime.timedelta(" ++ (if parts.isEmpty then "0" else ", ".intercalate parts) ++ ")"

/-- An offset from universal time. -/
def offsetShown (offset : Int) : String :=
  if offset == 0 then "datetime.timezone.utc"
  else "datetime.timezone(" ++ durationShown offset ++ ")"

/-- A moment inside a container. -/
def momentShown (m : Moment) : String :=
  "datetime.datetime(" ++
    numbersText ([m.date.year, m.date.month, m.date.day] ++ timeArguments m.time) ++
    (m.offset.map fun o => ", tzinfo=" ++ offsetShown o).getD "" ++ ")"

mutual

/-- A value as it is shown inside a container. -/
def shown : Value → String
  | .null => "None"
  | .bool b => if b then "True" else "False"
  | .number n => n.text
  | .text s => Text.quoted s
  | .list items => "[" ++ ", ".intercalate (itemsShown items) ++ "]"
  | .table entries => "\x7b" ++ ", ".intercalate (entriesShown entries) ++ "\x7d"
  | .date d => "datetime.date(" ++ numbersText [d.year, d.month, d.day] ++ ")"
  | .time t => "datetime.time(" ++ numbersText (timeArguments t) ++ ")"
  | .moment m => momentShown m
  | .thresholds s limits => s.thresholdType ++ "(" ++ ", ".intercalate (limitsShown limits) ++ ")"

/-- The items of a list. -/
def itemsShown : List Value → List String
  | [] => []
  | v :: vs => shown v :: itemsShown vs

/-- The entries of a table. -/
def entriesShown : List (String × Value) → List String
  | [] => []
  | (k, v) :: rest => (Text.quoted k ++ ": " ++ shown v) :: entriesShown rest

/-- The limits of a set of thresholds. -/
def limitsShown : List (String × Value) → List String
  | [] => []
  | (k, v) :: rest => (k ++ "=" ++ shown v) :: limitsShown rest

end

/-- A value as it stands in a message. -/
def message : Value → String
  | .text s => s
  | .date d => d.text
  | .time t => t.text
  | .moment m => m.text
  | v => v.shown

end Value

end HistoryMetrics
