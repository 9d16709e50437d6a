import HistoryMetrics.Disk.Basic
import HistoryMetrics.Setting.Environment
import HistoryMetrics.Text.Utf8
import HistoryMetrics.Toml.Document

/-! # Loading the settings

    Settings come from four places, each of which overrides the ones before: the file of the
    project, a file that the caller names, the environment, and the caller. Thresholds of a smell
    that several places give as tables are merged limit by limit.

    - `merge`: settings overridden by others
    - `settled`: settings with their thresholds checked
    - `loadConfig`: all of it
-/

namespace HistoryMetrics

namespace Setting

/-- **Settings by name**, in the order in which the names first occurred. -/
abbrev Settings : Type := List (String × Value)

/-- A limit or setting replaced in its place, or added at the end. -/
def put (name : String) (v : Value) : Settings → Settings
  | [] => [(name, v)]
  | e :: rest => if e.1 == name then (name, v) :: rest else e :: put name v rest

/-- Limits overridden by others. -/
def mergeLimits (old new : List (String × Value)) : List (String × Value) :=
  new.foldl (fun limits l => put l.1 l.2 limits) old

/-- Is this the name of the thresholds of a smell? -/
def isSection (name : String) : Bool := (Smell.ofSection? name).isSome

/-- One setting overridden. -/
def override (settings : Settings) (name : String) (v : Value) : Settings :=
  match isSection name, v, settings.lookup name with
  | true, .table new, some (.table old) => put name (.table (mergeLimits old new)) settings
  | _, _, _ => put name v settings

/-- **Settings overridden by others.** -/
def merge (settings new : Settings) : Settings :=
  new.foldl (fun s e => override s e.1 e.2) settings

/-! ## Files -/

/-- The failure of a file that is no settings file. -/
def refusal (path : Path) (text : List Char) : Toml.TomlError → Failure
  | .malformed d remaining => .problem (.invalidFile path.text (Toml.located text d remaining))
  | .tooManyDigits n => .fault (.wrongValue (Whole.tooManyDigits n))

/-- The settings of a file. -/
def ofFile (disk : Disk) (here path : Path) : Except Failure Settings :=
  match disk.read here path with
  | .error e => .error (.problem (.invalidFile path.text (e.toFault path.text).message))
  | .ok octets =>
    match Text.decodeStrict octets with
    | none => .error (.fault .notDecodable)
    | some cs =>
      let text := Toml.Document.lineFeeds cs
      (Toml.Document.ofLines text).mapError (refusal path text)

/-- The file of the project, in the folder where the program runs. -/
def projectFile (here : Path) : Path := here.child "repo-miner.toml"

/-- The settings of the project, if it has any. -/
def ofProject (disk : Disk) (here : Path) : Except Failure Settings :=
  match disk.isThere here (projectFile here) with
  | .error e => .error (.fault (e.toFault (projectFile here).text))
  | .ok true => ofFile disk here (projectFile here)
  | .ok false => .ok []

/-- The settings of the file that the caller names. -/
def ofCaller (disk : Disk) (here : Path) : Option Path → Except Failure Settings
  | none => .ok []
  | some path =>
    match disk.isThere here path with
    | .error e => .error (.fault (e.toFault path.text))
    | .ok true => ofFile disk here path
    | .ok false =>
      .error (.problem (.general .configuration ("Config file not found: " ++ path.text) []))

/-! ## Checks -/

/-- The thresholds of a section, from a value. -/
def sectionOf (s : Smell) (v : Value) : Except Failure Value :=
  let refused : String → Failure := .refusing s.sectionName v
  match v with
  | .table limits =>
    match Thresholds.make s limits with
    | .ok t => .ok t.toValue
    | .error (.fault (.wrongType text)) => .error (refused text)
    | .error e => .error e
  | .thresholds s' _ => if s' = s then .ok v else .error (refused "expected a table")
  | _ => .error (refused "expected a table")

/-- Settings with the sections of some smells checked; those go to the end. -/
def withSections (settings : Settings) : List Smell → Except Failure Settings
  | [] => .ok settings
  | s :: rest =>
    match settings.lookup s.sectionName with
    | none | some .null => withSections (settings.filter fun e => e.1 != s.sectionName) rest
    | some v =>
      match sectionOf s v with
      | .error e => .error e
      | .ok t =>
        withSections ((settings.filter fun e => e.1 != s.sectionName) ++ [(s.sectionName, t)]) rest

/-- The problem of the first setting that is not known. -/
def refuseUnknown (settings : Settings) : Except Failure Unit :=
  match settings.find? fun e => !Config.names.contains e.1 with
  | some e => .error (.refusing e.1 e.2 "unknown configuration key")
  | none => .ok ()

/-- **The configuration that settings make.** -/
def settled (settings : Settings) : Except Failure Config := do
  let checked ← withSections settings Smell.all
  refuseUnknown checked
  Config.make checked

/-- The settings of the caller that say anything. -/
def given (overrides : Settings) : Settings :=
  overrides.filter fun e =>
    match e.2 with
    | .null => false
    | _ => true

end Setting

/-- **Loads the settings.** -/
def loadConfig (disk : Disk) (here : Path) (vars : Environment.Variables) (file : Option Path)
    (overrides : Setting.Settings) : Except Failure Config := do
  let project ← Setting.ofProject disk here
  let named ← Setting.ofCaller disk here file
  let environment ← (Environment.settings vars).mapError Failure.problem
  Setting.settled (Setting.merge (Setting.merge (Setting.merge (Setting.merge [] project) named)
    environment) (Setting.given overrides))

end HistoryMetrics
