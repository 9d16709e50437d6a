import HistoryMetrics.Value

/-! # What can go wrong

    - `Problem`: the errors that the program itself reports, each with its cause. A problem has a
      message, details that follow the message in parentheses, and a place in a small tree of kinds.
    - `Fault`: mishaps that arise below it: a value of the wrong kind, a file that cannot be read.
    - `Failure`: either of them, or the wish of the user to stop.
-/

namespace HistoryMetrics

/-! ## Problems -/

/-- **The kinds of problems.** Five of them are groups of others. -/
inductive ProblemKind where
  | any
  | history
  | repositoryNotFound
  | repositoryUnreadable
  | sessionState
  | referenceList
  | historyRead
  | checkout
  | diff
  | gitCommand
  | ambiguousReference
  | analysis
  | metricCatalogue
  | metricCycle
  | unknownMetric
  | metricComputation
  | provider
  | missingMetric
  | smellDetection
  | emission
  | configuration
  | invalidSetting
deriving Repr, DecidableEq, Inhabited

namespace ProblemKind

/-- The name of a kind in reports. -/
def name : ProblemKind → String
  | .any => "MinerError"
  | .history => "ScmError"
  | .repositoryNotFound => "RepositoryNotFound"
  | .repositoryUnreadable => "RepositoryIOError"
  | .sessionState => "SessionStateError"
  | .referenceList => "ReferenceListError"
  | .historyRead => "HistoryReadError"
  | .checkout => "CheckoutError"
  | .diff => "DiffComputationError"
  | .gitCommand => "GitCommandError"
  | .ambiguousReference => "AmbiguousReferenceError"
  | .analysis => "AnalysisError"
  | .metricCatalogue => "MetricConfigurationError"
  | .metricCycle => "MetricCycleError"
  | .unknownMetric => "UnknownMetricError"
  | .metricComputation => "MetricComputationError"
  | .provider => "ProviderError"
  | .missingMetric => "MissingMetricError"
  | .smellDetection => "SmellDetectionError"
  | .emission => "EmitError"
  | .configuration => "ConfigurationError"
  | .invalidSetting => "InvalidConfigError"

/-- The groups around a kind, from the nearest to the widest. -/
def groups : ProblemKind → List ProblemKind
  | .any => []
  | .history | .analysis | .configuration | .emission => [.any]
  | .repositoryNotFound | .repositoryUnreadable | .sessionState | .referenceList | .historyRead
  | .checkout | .diff | .gitCommand | .ambiguousReference => [.history, .any]
  | .metricCatalogue | .metricComputation | .provider | .missingMetric | .smellDetection =>
    [.analysis, .any]
  | .metricCycle | .unknownMetric => [.metricCatalogue, .analysis, .any]
  | .invalidSetting => [.configuration, .any]

end ProblemKind

/-- **A problem.** The first constructor is a problem of a group, with a message of its own; a
    repository is known by its path, a commit by its id. -/
inductive Problem where
  | general (group : ProblemKind) (text : String) (details : List (String × Value))
  | repositoryNotFound (path : String)
  | repositoryUnreadable (path reason : String)
  | sessionState (operation state : String)
  | referenceList (reason : String)
  | historyRead (reason : String) (reference : Option String)
  | checkout (commit reason : String)
  | diff (commit reason : String) (path : Option String)
  | gitCommand (arguments : List String) (reason : String) (code : Option Int)
  | ambiguousReference (reference : String) (candidates : List String)
  | metricCycle (cycle : List String)
  | unknownMetric (metric : String) (requiredBy : Option String)
  | metricComputation (metric path reason : String)
  | provider (root reason : String) (path : Option String)
  | missingMetric (metric member : String)
  | smellDetection (smell path reason : String)
  | emission (commit reason : String)
  | invalidFile (path reason : String)
  | invalidSetting (key : String) (value : Value) (reason : String)

namespace Problem

instance : Inhabited Problem := ⟨.general .any "" []⟩

/-- The kind of a problem. -/
def kind : Problem → ProblemKind
  | .general g _ _ => g
  | .repositoryNotFound .. => .repositoryNotFound
  | .repositoryUnreadable .. => .repositoryUnreadable
  | .sessionState .. => .sessionState
  | .referenceList .. => .referenceList
  | .historyRead .. => .historyRead
  | .checkout .. => .checkout
  | .diff .. => .diff
  | .gitCommand .. => .gitCommand
  | .ambiguousReference .. => .ambiguousReference
  | .metricCycle .. => .metricCycle
  | .unknownMetric .. => .unknownMetric
  | .metricComputation .. => .metricComputation
  | .provider .. => .provider
  | .missingMetric .. => .missingMetric
  | .smellDetection .. => .smellDetection
  | .emission .. => .emission
  | .invalidFile .. => .configuration
  | .invalidSetting .. => .invalidSetting

/-- The message of a problem, without its details. -/
def headline : Problem → String
  | .general _ text _ => text
  | .repositoryNotFound path => "Repository not found: " ++ path
  | .repositoryUnreadable path _ => "Cannot read repository: " ++ path
  | .sessionState operation state => "Cannot " ++ operation ++ ": session is " ++ state
  | .referenceList _ => "Failed to list references"
  | .historyRead _ _ => "Failed to read history"
  | .checkout commit _ => "Failed to check out " ++ commit
  | .diff commit _ _ => "Failed to diff " ++ commit
  | .gitCommand _ _ _ => "git command failed"
  | .ambiguousReference reference _ => "Ambiguous reference: " ++ reference
  | .metricCycle _ => "Metric dependency cycle detected"
  | .unknownMetric metric _ => "Unknown metric: " ++ metric
  | .metricComputation metric path _ => "Failed to compute " ++ metric ++ " for " ++ path
  | .provider root _ _ => "Failed to build ASTs under " ++ root
  | .missingMetric metric member => "Metric " ++ metric ++ " not computed for " ++ member
  | .smellDetection smell path _ => "Failed to detect " ++ smell ++ " in " ++ path
  | .emission commit _ => "Failed to emit records of " ++ commit
  | .invalidFile path reason => "Invalid config file '" ++ path ++ "': " ++ reason
  | .invalidSetting key value _ => "Invalid configuration for " ++ key ++ ": " ++ value.message

/-- A detail that may be missing. -/
def optionalDetail (name : String) (text : Option String) : List (String × Value) :=
  text.toList.map fun t => (name, .text t)

/-- **The details of a problem**, in the order in which they are shown. -/
def details : Problem → List (String × Value)
  | .general _ _ ds => ds
  | .repositoryNotFound path => [("path", .text path)]
  | .repositoryUnreadable path reason => [("path", .text path), ("reason", .text reason)]
  | .sessionState operation state => [("operation", .text operation), ("state", .text state)]
  | .referenceList reason => [("reason", .text reason)]
  | .historyRead reason reference => ("reason", .text reason) :: optionalDetail "reference" reference
  | .checkout commit reason => [("commit", .text commit), ("reason", .text reason)]
  | .diff commit reason path =>
    [("commit", .text commit), ("reason", .text reason)] ++ optionalDetail "path" path
  | .gitCommand arguments reason code =>
    [("command", .text ("git " ++ " ".intercalate arguments)), ("reason", .text reason)] ++
      optionalDetail "returncode" (code.map toString)
  | .ambiguousReference reference candidates =>
    [("reference", .text reference), ("candidates", .text (", ".intercalate candidates))]
  | .metricCycle cycle => [("cycle", .text (" -> ".intercalate cycle))]
  | .unknownMetric metric requiredBy =>
    ("metric", .text metric) :: optionalDetail "required_by" requiredBy
  | .metricComputation metric path reason =>
    [("metric", .text metric), ("path", .text path), ("reason", .text reason)]
  | .provider root reason path =>
    [("root", .text root), ("reason", .text reason)] ++ optionalDetail "path" path
  | .missingMetric metric member => [("metric", .text metric), ("member", .text member)]
  | .smellDetection smell path reason =>
    [("smell", .text smell), ("path", .text path), ("reason", .text reason)]
  | .emission commit reason => [("commit", .text commit), ("reason", .text reason)]
  | .invalidFile .. => []
  | .invalidSetting key value reason =>
    [("key", .text key), ("value", .text value.message), ("reason", .text reason)]

/-- **The message of a problem**, with its details. -/
def message (p : Problem) : String :=
  if p.details.isEmpty then p.headline
  else
    let shown := p.details.map fun d => d.1 ++ "=" ++ d.2.message
    p.headline ++ " (" ++ ", ".intercalate shown ++ ")"

/-- A text that may be missing, as a value. -/
def optionalText (text : Option String) : Value := (text.map Value.text).getD .null

/-- The causes that a problem was made of, by name. -/
def causes : Problem → List (String × Value)
  | .general .. => []
  | .historyRead reason reference =>
    [("reason", .text reason), ("reference", optionalText reference)]
  | .diff commit reason path =>
    [("commit", .text commit), ("reason", .text reason), ("path", optionalText path)]
  | .gitCommand arguments reason code =>
    [("args_list", .list (arguments.map .text)), ("reason", .text reason),
      ("returncode", (code.map Value.int).getD .null)]
  | .ambiguousReference reference candidates =>
    [("reference", .text reference), ("candidates", .list (candidates.map .text))]
  | .metricCycle cycle => [("cycle", .list (cycle.map .text))]
  | .unknownMetric metric requiredBy =>
    [("metric", .text metric), ("required_by", optionalText requiredBy)]
  | .provider root reason path =>
    [("root", .text root), ("reason", .text reason), ("path", optionalText path)]
  | .invalidSetting key value reason =>
    [("key", .text key), ("value", value), ("reason", .text reason)]
  | p => p.details

end Problem

/-! ## Faults -/

/-- **A mishap below the program.** A system fault has a number, a text and perhaps a file. -/
inductive Fault where
  | wrongType (text : String)
  | wrongValue (text : String)
  | missingKey (shown : String)
  | outOfRange
  | zeroDivision (text : String)
  | runtime (text : String)
  | noAttribute (text : String)
  | system (number : Int) (text : String) (file : Option String)
  | notInGrammar
  | notDecodable
  | markup (text : String)
deriving Repr, DecidableEq, Inhabited

namespace Fault

/-- The name of a system fault, by its number. -/
def systemName (number : Int) : String :=
  if number == 1 || number == 13 then "PermissionError"
  else if number == 2 then "FileNotFoundError"
  else if number == 3 then "ProcessLookupError"
  else if number == 4 then "InterruptedError"
  else if number == 10 then "ChildProcessError"
  else if number == 11 || number == 114 || number == 115 then "BlockingIOError"
  else if number == 17 then "FileExistsError"
  else if number == 20 then "NotADirectoryError"
  else if number == 21 then "IsADirectoryError"
  else if number == 32 || number == 108 then "BrokenPipeError"
  else if number == 103 then "ConnectionAbortedError"
  else if number == 104 then "ConnectionResetError"
  else if number == 110 then "TimeoutError"
  else if number == 111 then "ConnectionRefusedError"
  else "OSError"

/-- The name of a fault in reports. -/
def name : Fault → String
  | .wrongType _ => "TypeError"
  | .wrongValue _ => "ValueError"
  | .missingKey _ => "KeyError"
  | .outOfRange => "IndexError"
  | .zeroDivision _ => "ZeroDivisionError"
  | .runtime _ => "RuntimeError"
  | .noAttribute _ => "AttributeError"
  | .system number _ _ => systemName number
  | .notInGrammar => "SyntaxError"
  | .notDecodable => "UnicodeDecodeError"
  | .markup _ => "MarkupError"

/-- The message of a fault. -/
def message : Fault → String
  | .wrongType text | .wrongValue text | .zeroDivision text | .runtime text
  | .noAttribute text | .markup text => text
  | .missingKey shown => shown
  | .outOfRange => "list index out of range"
  | .system number text file =>
    "[Errno " ++ toString number ++ "] " ++ text ++
      (file.map fun f => ": " ++ Text.quoted f).getD ""
  | .notInGrammar | .notDecodable => ""

/-- How a fault is shown as the reason of a problem: its name and what it was made of. -/
def shown (f : Fault) : String :=
  match f with
  | .missingKey key => f.name ++ "(" ++ key ++ ")"
  | .system number text _ =>
    f.name ++ "(" ++ toString number ++ ", " ++ Text.quoted text ++ ")"
  | _ => f.name ++ "(" ++ Text.quoted f.message ++ ")"

end Fault

/-! ## Failures -/

/-- **What ends a step of the program early.** -/
inductive Failure where
  | problem (p : Problem)
  | fault (f : Fault)
  | interrupt

namespace Failure

instance : Inhabited Failure := ⟨.interrupt⟩

/-- The name of a failure in reports. -/
def name : Failure → String
  | .problem p => p.kind.name
  | .fault f => f.name
  | .interrupt => "KeyboardInterrupt"

/-- The message of a failure. -/
def message : Failure → String
  | .problem p => p.message
  | .fault f => f.message
  | .interrupt => ""

end Failure

end HistoryMetrics
