import HistoryMetrics.Metric.Registry

/-! # The engine that computes metrics

    An engine is a registry whose whole order has been found to exist. It runs the plug-ins that
    some targets need on the outline under analysis. What a plug-in fails with is reported as the
    failure of its metric, unless it is a problem already. -/

namespace HistoryMetrics

/-- **A registry with its order.** -/
structure Engine where
  registry : Registry
  order : List Plugin

namespace Engine

/-- The engine of a registry, if it is complete and has no cycle. -/
def make (r : Registry) : Except Problem Engine :=
  match r.resolve none with
  | .ok order => .ok ⟨r, order⟩
  | .error e => .error e

/-- The engine of the built-in metrics. -/
def standard : Engine :=
  match make .standard with
  | .ok e => e
  | .error _ => ⟨.standard, []⟩

/-- The plug-ins to run for some targets: all of them when there are none. -/
def plan (e : Engine) : Option (List String) → Except Problem (List Plugin)
  | none => .ok e.order
  | some targets => e.registry.resolve (some targets)

/-- The failure of a plug-in as the failure of its metric. -/
def attributed (id path : String) : Failure → Failure
  | .fault f => .problem (.metricComputation id path f.shown)
  | other => other

/-- Runs a plug-in. -/
def runPlugin (p : Plugin) : Calculation Unit := fun a =>
  match p.calculate a with
  | (.error f, a') => (.error (attributed p.id a'.outline.path f), a')
  | done => done

/-- Runs plug-ins one after the other until one fails. -/
def runAll : List Plugin → Calculation Unit
  | [] => fun a => (.ok (), a)
  | p :: ps => fun a =>
    match runPlugin p a with
    | (.ok (), a') => runAll ps a'
    | failed => failed

/-- The logger of the engine. -/
def logger : String := rootLogger ++ ".metrics.engine"

/-- What is logged after a run of so many plug-ins. -/
def record (count : Nat) (path : String) : LogRecord :=
  .plain .debug logger ("Computed " ++ toString count ++ " metrics for " ++ path)

/-- **Computes targets and what they need**; returns the ids in the order of computation. -/
def compute (e : Engine) (targets : Option (List String)) : Calculation (List String) := fun a =>
  match e.plan targets with
  | .error p => (.error (.problem p), a)
  | .ok plan =>
    match runAll plan a with
    | (.ok (), a') =>
      (.ok (plan.map Plugin.id), a'.logged (record plan.length a'.outline.path))
    | (.error f, a') => (.error f, a')

end Engine

end HistoryMetrics
