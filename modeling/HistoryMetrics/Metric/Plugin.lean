import HistoryMetrics.Action
import HistoryMetrics.Log
import HistoryMetrics.Metric.Measure

/-! # Metric plug-ins

    A plug-in computes one metric for a whole source file and stores it on its types or on their
    methods.

    - `Analysis`: the outline under analysis, with what the plug-ins note and what is logged
    - `Plugin`: a metric with its scope, its prerequisites and its calculation
    - `Plugin.builtins`: the eleven built-in metrics
-/

namespace HistoryMetrics

/-- **The state of an analysis.** -/
structure Analysis where
  outline : SourceOutline
  notes : List String
  journal : List LogRecord

/-- A step of an analysis, which may fail. -/
abbrev Calculation : Type → Type := Action Analysis

/-- Where the values of a metric are stored. -/
inductive Scope where
  | type
  | method
deriving Repr, DecidableEq, Inhabited

/-- The name of a scope. -/
def Scope.name : Scope → String
  | .type => "type"
  | .method => "method"

/-- **A metric plug-in.** A built-in one has a name apart from its id. -/
structure Plugin where
  id : String
  builtinName : Option String
  scope : Scope
  requires : List String
  calculate : Calculation Unit

/-- How a plug-in is shown, when it has a name. -/
def Plugin.shown? (p : Plugin) : Option String :=
  p.builtinName.map fun n => "<" ++ n ++ " " ++ p.id ++ ">"

/-- The analysis with one more record in its journal. -/
def Analysis.logged (a : Analysis) (r : LogRecord) : Analysis :=
  { a with journal := a.journal ++ [r] }

/-! ## Storing values -/

/-- A method with a metric stored. -/
def Method.store (id : String) (v : Value) (m : Method) : Method :=
  { m with metrics := m.metrics.set id v }

/-- A type with a metric stored. -/
def TypeOutline.store (id : String) (v : Value) (t : TypeOutline) : TypeOutline :=
  { t with metrics := t.metrics.set id v }

/-- A type with a metric stored on each of its methods. -/
def TypeOutline.storeMethods (id : String) (measure : Method → Value) (t : TypeOutline) :
    TypeOutline :=
  { t with methods := t.methods.map fun m => m.store id (measure m) }

/-- **Stores a metric on types**, one after the other. The first failure ends it; the types before
    keep their values. -/
def storeTypes (id : String) (measure : TypeOutline → Except Fault Value) :
    List TypeOutline → List TypeOutline × Except Fault Unit
  | [] => ([], .ok ())
  | t :: ts =>
    match measure t with
    | .error e => (t :: ts, .error e)
    | .ok v =>
      let (rest, e) := storeTypes id measure ts
      (t.store id v :: rest, e)

/-- The analysis with other types in its outline. -/
def Analysis.withTypes (a : Analysis) (types : List TypeOutline) : Analysis :=
  { a with outline := { a.outline with types } }

namespace Plugin

/-- A built-in metric of methods. -/
def ofMethods (id name : String) (measure : Method → Value) : Plugin where
  id := id
  builtinName := some name
  scope := .method
  requires := []
  calculate := fun a =>
    (.ok (), a.withTypes (a.outline.types.map fun t => t.storeMethods id measure))

/-- A built-in metric of types. -/
def ofTypes (id name : String) (requires : List String)
    (measure : TypeOutline → Except Fault Value) : Plugin where
  id := id
  builtinName := some name
  scope := .type
  requires := requires
  calculate := fun a =>
    let (types, e) := storeTypes id measure a.outline.types
    (e.mapError .fault, a.withTypes types)

/-! ## The built-in metrics -/

/-- Lines of a method. -/
def methodLines : Plugin := ofMethods "MLOC" "MlocMetric" fun m => .int m.lineCount

/-- Cyclomatic complexity. -/
def complexity : Plugin := ofMethods "CYCLO" "CycloMetric" fun m => .int m.complexity

/-- Depth of nesting. -/
def nesting : Plugin := ofMethods "MAXNESTING" "MaxNestingMetric" fun m => .int m.nesting

/-- Number of distinct variables. -/
def variableCount : Plugin :=
  ofMethods "NOAV" "NoavMetric" fun m => .int m.accessedVariables.length

/-- Number of parameters. -/
def parameters : Plugin := ofMethods "PAR" "ParMetric" fun m => .int m.parameters.length

/-- Number of protected members. -/
def protectedMembers : Plugin :=
  ofTypes "NProtM" "NProtMMetric" [] fun t => .ok (.int t.protectedCount)

/-- Number of methods. -/
def methodCount : Plugin := ofTypes "NOM" "NomMetric" [] fun t => .ok (.int t.methods.length)

/-- Number of fields. -/
def fieldCount : Plugin := ofTypes "NOA" "NoaMetric" [] fun t => .ok (.int t.fields.length)

/-- Lines of a type. -/
def typeLines : Plugin := ofTypes "LOC" "LocMetric" [] fun t => .ok (.int t.lineCount)

/-- Weighted methods. -/
def methodWeight : Plugin := ofTypes "WMC" "WmcMetric" ["CYCLO"] TypeOutline.weight

/-- Average weight of methods. -/
def averageWeight : Plugin :=
  ofTypes "AMW" "AmwMetric" ["WMC", "NOM"] TypeOutline.averageWeight

/-- **All built-in metrics**, in the order of the catalogue. -/
def builtins : List Plugin :=
  [protectedMembers, methodLines, complexity, nesting, variableCount, parameters, methodCount,
   fieldCount, typeLines, methodWeight, averageWeight]

end Plugin

end HistoryMetrics
