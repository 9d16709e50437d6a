import HistoryMetrics.Setting.Thresholds

/-! # The settings of a run

    Settings come from files and callers and may hold values of any kind. Only two of them are
    checked, by a comparison; what cannot be compared is refused by that comparison.

    - `Config.standard`: the defaults
    - `Config.make`: settings from named values, the defaults filling the gaps
-/

namespace HistoryMetrics

/-- **The settings.** -/
structure Config where
  binaryThreshold : Value
  gitTimeout : Value
  failFast : Value
  includeSmells : Value
  excludePatterns : Value
  brainMethod : Thresholds
  complexMethod : Thresholds
  longMethod : Thresholds

namespace Config

/-- The patterns of paths that are not looked at. -/
def standardPatterns : List String :=
  ["venv/*", ".venv/*", "__pycache__/*", "node_modules/*", "build/*", "dist/*", "*.egg-info/*"]

/-- **The defaults.** -/
def standard : Config where
  binaryThreshold := .int 2048
  gitTimeout := .int 120
  failFast := .bool false
  includeSmells := .bool true
  excludePatterns := .list (standardPatterns.map .text)
  brainMethod := .standard .brainMethod
  complexMethod := .standard .complexMethod
  longMethod := .standard .longMethod

/-- The names of the settings. -/
def names : List String :=
  ["binary_file_threshold", "git_timeout_seconds", "fail_fast", "include_smells",
   "exclude_patterns", "brain_method", "complex_method", "long_method"]

/-- The thresholds that a value holds for a smell. -/
def thresholdsOf (s : Smell) : Value → Thresholds
  | .thresholds s' limits => if s' = s then ⟨s', limits⟩ else .standard s
  | _ => .standard s

/-- Settings with values in place of some defaults. -/
def withValues (given : List (String × Value)) : Config :=
  let pick (name : String) (default : Value) : Value := (given.lookup name).getD default
  { binaryThreshold := pick "binary_file_threshold" standard.binaryThreshold
    gitTimeout := pick "git_timeout_seconds" standard.gitTimeout
    failFast := pick "fail_fast" standard.failFast
    includeSmells := pick "include_smells" standard.includeSmells
    excludePatterns := pick "exclude_patterns" standard.excludePatterns
    brainMethod := thresholdsOf .brainMethod (pick "brain_method" .null)
    complexMethod := thresholdsOf .complexMethod (pick "complex_method" .null)
    longMethod := thresholdsOf .longMethod (pick "long_method" .null) }

/-- Refuses a value below a bound. -/
def refuseBelow (name : String) (v : Value) (bound : Int) (reason : String) :
    Except Failure Unit :=
  match v.isBelow (.int bound) with
  | .error e => .error (.fault e)
  | .ok true => .error (.refusing name v reason)
  | .ok false => .ok ()

/-- Settings with their bounds checked. -/
def checked (c : Config) : Except Failure Config :=
  match refuseBelow "binary_file_threshold" c.binaryThreshold 0 "must be non-negative" with
  | .error e => .error e
  | .ok () =>
    (refuseBelow "git_timeout_seconds" c.gitTimeout 1 "must be at least 1").map fun _ => c

/-- **Settings from named values**; the defaults fill the gaps. -/
def make (given : List (String × Value)) : Except Failure Config :=
  match Thresholds.firstUnknown names given with
  | some n => .error (.fault (Thresholds.unknownName "MinerConfig" n))
  | none => (withValues given).checked

/-- The thresholds of all smells by their sections. -/
def thresholdsTable (c : Config) : Value :=
  .table ([c.brainMethod, c.complexMethod, c.longMethod].map fun t =>
    (t.smell.sectionName, t.toTable))

end Config

end HistoryMetrics
