import HistoryMetrics.Setting.Comparison
import HistoryMetrics.Setting.Refusal

/-! # Thresholds of smells

    Each smell has limits of its own, in a fixed order and with defaults. A limit is a number that
    is not negative; what cannot be compared with zero is refused as well.

    - `Thresholds.make`: thresholds from named limits, the defaults filling the gaps
    - `Thresholds.tuned`: a copy with some limits replaced
-/

namespace HistoryMetrics

namespace Smell

/-- All smells. -/
def all : List Smell := [.brainMethod, .complexMethod, .longMethod]

/-- The name of a smell in reports. -/
def name : Smell → String
  | .brainMethod => "BRAIN_METHOD"
  | .complexMethod => "COMPLEX_METHOD"
  | .longMethod => "LONG_METHOD"

/-- The name of its section in the settings. -/
def sectionName : Smell → String
  | .brainMethod => "brain_method"
  | .complexMethod => "complex_method"
  | .longMethod => "long_method"

/-- The name of its detector. -/
def detectorName : Smell → String
  | .brainMethod => "BrainMethodDetector"
  | .complexMethod => "ComplexMethodDetector"
  | .longMethod => "LongMethodDetector"

/-- The smell with the given name. -/
def ofName? (s : String) : Option Smell := all.find? fun m => m.name == s

/-- The smell whose section has the given name. -/
def ofSection? (s : String) : Option Smell := all.find? fun m => m.sectionName == s

/-- **The limits of a smell** with their defaults. -/
def defaults : Smell → List (String × Value)
  | .brainMethod =>
    [("mloc", .int 65), ("cc", .int 10), ("max_nesting", .int 5), ("noav", .int 5)]
  | .complexMethod => [("cc", .int 10)]
  | .longMethod => [("mloc", .int 65)]

end Smell

/-- **Thresholds of a smell**: its limits in their fixed order. -/
structure Thresholds where
  smell : Smell
  limits : List (String × Value)

namespace Thresholds

/-- The thresholds that hold unless others are given. -/
def standard (s : Smell) : Thresholds := ⟨s, s.defaults⟩

/-- A limit by its name. -/
def limit (t : Thresholds) (name : String) : Value := (t.limits.lookup name).getD .null

/-- The thresholds as a value. -/
def toValue (t : Thresholds) : Value := .thresholds t.smell t.limits

/-- The limits as a table. -/
def toTable (t : Thresholds) : Value := .table t.limits

/-- The fault of a name that is no limit; the name of the receiver is taken already. -/
def unknownName (owner name : String) : Fault :=
  .wrongType (owner ++ ".__init__() got " ++
    if name == "self" then "multiple values for argument 'self'"
    else "an unexpected keyword argument " ++ Text.quoted name)

/-- The first name that is none of the known ones. -/
def firstUnknown (known : List String) (given : List (String × Value)) : Option String :=
  (given.map Prod.fst).find? fun n => !known.contains n

/-- Checks that limits are not negative, in their order. -/
def checkLimits (owner : String) : List (String × Value) → Except Failure Unit
  | [] => .ok ()
  | (name, v) :: rest =>
    match v.isBelow (.int 0) with
    | .error e => .error (.fault e)
    | .ok true => .error (.refusing (owner ++ "." ++ name) v "must be non-negative")
    | .ok false => checkLimits owner rest

/-- Thresholds with all limits checked. -/
def checked (t : Thresholds) : Except Failure Thresholds :=
  (checkLimits t.smell.thresholdType t.limits).map fun _ => t

/-- Limits with some of them replaced. -/
def override (limits given : List (String × Value)) : List (String × Value) :=
  limits.map fun l => (l.1, (given.lookup l.1).getD l.2)

/-- **Thresholds with some limits replaced.** -/
def tuned (t : Thresholds) (given : List (String × Value)) : Except Failure Thresholds :=
  match firstUnknown (t.limits.map Prod.fst) given with
  | some n => .error (.fault (unknownName t.smell.thresholdType n))
  | none => checked ⟨t.smell, override t.limits given⟩

/-- Thresholds with some limits replaced by the caller of a detector, whose own name for itself is
    taken as well. -/
def tunedBy (t : Thresholds) (given : List (String × Value)) : Except Failure Thresholds :=
  if given.any fun g => g.1 == "self" then
    .error (.fault (.wrongType
      "SmellDetector.with_thresholds() got multiple values for argument 'self'"))
  else t.tuned given

/-- How a detector with these thresholds is shown. -/
def shown (t : Thresholds) : String :=
  "<" ++ t.smell.detectorName ++ " " ++ t.toValue.message ++ ">"

/-- **Thresholds from named limits**; the defaults fill the gaps. -/
def make (s : Smell) (given : List (String × Value)) : Except Failure Thresholds :=
  (standard s).tuned given

end Thresholds

end HistoryMetrics
