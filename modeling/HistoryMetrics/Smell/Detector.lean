import HistoryMetrics.Metric.Engine
import HistoryMetrics.Setting.Thresholds

/-! # Smell detectors

    A detector names the methods of a type that break its rule. It reads stored metrics; those that
    are missing on the type are computed first.

    - `Detector.builtin`: the detector of a smell under given thresholds
    - `Detector.detect`: the verdict on a type, if it has any
-/

namespace HistoryMetrics

/-- **A verdict**: a smell, the methods that made it, and the thresholds in force. -/
structure Verdict where
  smell : Smell
  members : List String
  thresholds : List (String × Value)

/-- A verdict as a table. -/
def Verdict.toTable (v : Verdict) : Value :=
  .table [("smell", .text v.smell.name), ("members", .list (v.members.map .text)),
    ("thresholds", .table v.thresholds)]

/-- **A detector.** `flagged` gives the names of the methods that break the rule; an engine of its
    own, if it has one, computes what is missing. A detector may as well look at types in a way of
    its own, which is then all that counts. -/
structure Detector where
  smell : Smell
  requires : List String
  engine : Option Engine
  flagged : TypeOutline → Except Failure (List String)
  shownThresholds : List (String × Value)
  ownWay : Option ((index : Nat) → Calculation (Option Verdict)) := none

/-! ## The rules -/

/-- The value of a metric on a method. -/
def Method.metric (m : Method) (id : String) : Except Failure Value :=
  match m.metrics.get? id with
  | some v => .ok v
  | none => .error (.problem (.missingMetric id m.name))

/-- A comparison of a stored metric with a limit. -/
def Method.holds (m : Method) (id : String) (test : Value → Value → Except Fault Bool)
    (limit : Value) : Except Failure Bool :=
  match m.metric id with
  | .error e => .error e
  | .ok v => (test v limit).mapError .fault

/-- Both conditions; the second is asked only if the first holds. -/
def andThen (a : Except Failure Bool) (b : Unit → Except Failure Bool) : Except Failure Bool :=
  match a with
  | .ok true => b ()
  | other => other

/-- The rule of brain methods: more than half of the lines allowed, many decisions, deep nesting
    and many variables. -/
def isBrainMethod (t : Thresholds) (m : Method) : Except Failure Bool :=
  match m.metric "MLOC" with
  | .error e => .error e
  | .ok lines =>
    match (t.limit "mloc").half with
    | .error e => .error (.fault e)
    | .ok half =>
      andThen ((lines.isAbove half).mapError .fault) fun _ =>
      andThen (m.holds "CYCLO" Value.isAtLeast (t.limit "cc")) fun _ =>
      andThen (m.holds "MAXNESTING" Value.isAtLeast (t.limit "max_nesting")) fun _ =>
      m.holds "NOAV" Value.isAbove (t.limit "noav")

/-- The rule of complex methods. -/
def isComplexMethod (t : Thresholds) (m : Method) : Except Failure Bool :=
  m.holds "CYCLO" Value.isAtLeast (t.limit "cc")

/-- The rule of long methods. -/
def isLongMethod (t : Thresholds) (m : Method) : Except Failure Bool :=
  m.holds "MLOC" Value.isAbove (t.limit "mloc")

/-- **The rule of a smell.** -/
def Thresholds.rule (t : Thresholds) : Method → Except Failure Bool :=
  match t.smell with
  | .brainMethod => isBrainMethod t
  | .complexMethod => isComplexMethod t
  | .longMethod => isLongMethod t

/-- The names of the methods that a rule picks. -/
def pickedBy (rule : Method → Except Failure Bool) : List Method → Except Failure (List String)
  | [] => .ok []
  | m :: ms =>
    match rule m with
    | .error e => .error e
    | .ok picked =>
      match pickedBy rule ms with
      | .error e => .error e
      | .ok names => .ok (if picked then m.name :: names else names)

/-- The methods of a type that have a smell. Brain methods are looked for in classes only. -/
def Thresholds.flagged (t : Thresholds) (type : TypeOutline) : Except Failure (List String) :=
  if t.smell == .brainMethod && type.archetype != .classOrInterface then .ok []
  else pickedBy t.rule type.methods

/-- The metrics that the rule of a smell reads. -/
def Smell.requires : Smell → List String
  | .brainMethod => ["MLOC", "CYCLO", "MAXNESTING", "NOAV"]
  | .complexMethod => ["CYCLO"]
  | .longMethod => ["MLOC"]

/-- The limits of a smell, by the metrics that they limit. -/
def Thresholds.byMetric (t : Thresholds) : List (String × Value) :=
  match t.smell with
  | .brainMethod =>
    [("MLOC", t.limit "mloc"), ("CYCLO", t.limit "cc"), ("NOAV", t.limit "noav"),
      ("MAXNESTING", t.limit "max_nesting")]
  | .complexMethod => [("CYCLO", t.limit "cc")]
  | .longMethod => [("MLOC", t.limit "mloc")]

/-! ## Detection -/

/-- Ids in ascending order, each once. -/
def sortedIds (ids : List String) : List String :=
  ids.eraseDups.mergeSort fun a b => decide (a ≤ b)

namespace Detector

/-- **The detector of a smell** under the given thresholds. -/
def builtin (t : Thresholds) (engine : Option Engine) : Detector where
  smell := t.smell
  requires := t.smell.requires
  engine := engine
  flagged := t.flagged
  shownThresholds := t.byMetric

/-- The metrics that some method of a type lacks. -/
def missing (d : Detector) (type : TypeOutline) : List String :=
  sortedIds (type.methods.flatMap fun m => d.requires.filter fun id => !m.metrics.has id)

/-- Computes the metrics that a type lacks. -/
def complete (d : Detector) (type : TypeOutline) : Calculation Unit := fun a =>
  if (d.missing type).isEmpty then (.ok (), a)
  else
    match (d.engine.getD .standard).compute (some (d.missing type)) a with
    | (.ok _, a') => (.ok (), a')
    | (.error f, a') => (.error f, a')

/-- The verdict for some flagged methods. -/
def verdict (d : Detector) (members : List String) : Option Verdict :=
  if members.isEmpty then none else some ⟨d.smell, members, d.shownThresholds⟩

/-- The verdict of the rule on a type, after what it lacks has been computed. -/
def detectByRule (d : Detector) (index : Nat) : Calculation (Option Verdict) := fun a =>
  match a.outline.types[index]? with
  | none => (.error (.fault .outOfRange), a)
  | some type =>
    match d.complete type a with
    | (.error f, a') => (.error f, a')
    | (.ok (), a') =>
      match a'.outline.types[index]? with
      | none => (.error (.fault .outOfRange), a')
      | some completed => ((d.flagged completed).map d.verdict, a')

/-- **The verdict on the type with the given number.** -/
def detect (d : Detector) (index : Nat) : Calculation (Option Verdict) :=
  d.ownWay.getD d.detectByRule index

end Detector

end HistoryMetrics
