import HistoryMetrics.Python.Outline
import HistoryMetrics.Source.Exclusion
import HistoryMetrics.Source.Provider

/-! # Python files below a folder

    Files are read in the order of their paths. A file that is not valid Python is left out with a
    warning; a file that cannot be read is a problem, and a path that the system does not take is a
    fault.

    - `Python.candidates`: the paths to look at
    - `Python.provider`: the provider
-/

namespace HistoryMetrics.Python

variable {σ : Type}

/-- The logger of the provider. -/
def providerLogger : String := rootLogger ++ ".syntax.python_provider"

/-- Is this the name of a Python file? -/
def isSourceName (name : String) : Bool := name.endsWith ".py"

/-- The entries below a folder whose names are names of Python files. -/
def sourcesBelow (disk : Disk) (here root : Path) : Except Fault (List Path) :=
  match disk.locate here root with
  | .error e => if e.isAbsence then .ok [] else .error (e.toFault root.text)
  | .ok folder =>
    .ok (((disk.namesBelow folder).filter fun names => isSourceName (names.getLastD "")).map
      fun names => ⟨"", names⟩)

/-- **The paths to look at**, in their order: those that are given, or all below the folder. -/
def candidates (disk : Disk) (here root : Path) : Option (List String) → Except Fault (List Path)
  | none => (sourcesBelow disk here root).map Path.sorted
  | some paths => .ok (Path.sorted ((paths.filter isSourceName).map .ofText))

/-- The text of a file. -/
def sourceText (octets : List UInt8) : String :=
  String.ofList (Text.universalNewlines (Text.decodeLossy octets))

/-- The problem of a file that cannot be read. -/
def unreadable (root path : Path) (e : PathFault) : Problem :=
  .provider root.text (e.toFault (root.join path).text).message (some path.text)

/-- What is logged about a file that is not valid Python. -/
def skipped (path : Path) (e : SourceError) : LogRecord :=
  ⟨.warning, providerLogger, "Skipping unparsable file " ++ path.text ++ ": ",
    some (.fault e.toFault)⟩

/-- The outline of a file, if it is a file that is looked at and valid Python. -/
def outlineAt (patterns : List Value) (root path : Path) :
    Action (Scene σ) (Option SourceOutline) := fun s =>
  match Exclusion.skips patterns path with
  | .error f => (.error (.fault f), s)
  | .ok skip =>
    if skip then (.ok none, s)
    else
      match s.disk.isFile s.here (root.join path) with
      | .error e => (.error (.fault (e.toFault (root.join path).text)), s)
      | .ok false => (.ok none, s)
      | .ok true =>
        match s.disk.read s.here (root.join path) with
        | .error e => (.error (.problem (unreadable root path e)), s)
        | .ok octets =>
          match sourceOutline (sourceText octets) path.text with
          | .ok o => (.ok (some o), s)
          | .error e => (.ok none, s.logged (skipped path e))

/-- **The provider of Python outlines**, with patterns of paths that are not looked at. -/
def provider (patterns : List Value) : Provider σ where
  outlines root paths := do
    let found ← Action.read fun s : Scene σ => candidates s.disk s.here root paths
    let ps ← Action.ofResult (found.mapError .fault)
    let os ← Action.forEach (outlineAt patterns root) ps
    pure (os.filterMap id)

end HistoryMetrics.Python
