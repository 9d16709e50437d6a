import HistoryMetrics.Repository.Commit
import HistoryMetrics.Smell.Detection
import HistoryMetrics.Text.Checksum

/-! # What a run of mining hands over and reports

    - `TypeRecord`: the measures and smells of one type at one commit
    - `recordsOf`: the records of an analysed source file
    - `Emission`: what is handed over, a commit or a record
    - `Report`: the commits that were analysed, the number of records, and the failures
-/

namespace HistoryMetrics

/-! ## Records -/

/-- **The measures and smells of one type at one commit.** -/
structure TypeRecord where
  commit : String
  moment : Moment
  path : String
  fileHash : Nat
  typeName : String
  metrics : Metrics
  methods : List (String × Metrics)
  smells : List Verdict

namespace TypeRecord

/-- The entries of the table of a record. -/
def entries (r : TypeRecord) : List (String × Value) :=
  [("commit", .text r.commit), ("commit_date", .text r.moment.isoText), ("path", .text r.path),
    ("file_hash", .int r.fileHash), ("type", .text r.typeName), ("metrics", .table r.metrics),
    ("methods", .table (r.methods.map fun m => (m.1, .table m.2))),
    ("smells", .list (r.smells.map Verdict.toTable))]

/-- A record as a table. -/
def toTable (r : TypeRecord) : Value := .table r.entries

end TypeRecord

/-- An entry in its place: the first one of its name keeps the place, the last one the value. -/
def putEntry {α : Type} (name : String) (v : α) : List (String × α) → List (String × α)
  | [] => [(name, v)]
  | e :: rest => if e.1 == name then (name, v) :: rest else e :: putEntry name v rest

/-- The metrics of methods by name. -/
def methodEntries (ms : List Method) : List (String × Metrics) :=
  ms.foldl (fun es m => putEntry m.name m.metrics es) []

/-- The verdicts on the type at a place. -/
def verdictsAt (findings : List Finding) (index : Nat) : List Verdict :=
  ((findings.find? fun f => f.index == index).map Finding.verdicts).getD []

/-- The record of a type. -/
def recordOf (commit : String) (moment : Moment) (path : String) (smells : List Verdict)
    (t : TypeOutline) : TypeRecord where
  commit := commit
  moment := moment
  path := path
  fileHash := Text.checksum path
  typeName := t.name
  metrics := t.metrics
  methods := methodEntries t.methods
  smells := smells

/-- **The records of a source file**, one for each type. -/
def recordsOf (commit : String) (moment : Moment) (o : SourceOutline) (findings : List Finding) :
    List TypeRecord :=
  o.types.mapIdx fun i t => recordOf commit moment o.path (verdictsAt findings i) t

/-! ## Emissions -/

/-- **What is handed over**: a commit, or the record of a type. -/
inductive Emission where
  | commit (c : Commit)
  | record (r : TypeRecord)

namespace Emission

/-- The word that tells what an emission is. -/
def kind : Emission → String
  | .commit _ => "commit"
  | .record _ => "analysis"

/-- The entries of the table of what is handed over. -/
def entries : Emission → List (String × Value)
  | .commit c => c.entries
  | .record r => r.entries

/-- An emission as a table; its kind comes first. -/
def toTable (e : Emission) : Value := .table (("kind", .text e.kind) :: e.entries)

/-- The commit of an emission, if it is one. -/
def commit? : Emission → Option Commit
  | .commit c => some c
  | .record _ => none

/-- The record of an emission, if it is one. -/
def record? : Emission → Option TypeRecord
  | .commit _ => none
  | .record r => some r

end Emission

/-! ## Reports -/

/-- **Where in the work on a commit something failed.** -/
inductive Stage where
  | checkout
  | diff
  | parse
  | metrics
  | smells
  | emit
deriving Repr, DecidableEq, Inhabited

/-- The name of a stage in reports. -/
def Stage.name : Stage → String
  | .checkout => "CHECKOUT"
  | .diff => "DIFF"
  | .parse => "PARSE"
  | .metrics => "METRICS"
  | .smells => "SMELLS"
  | .emit => "EMIT"

/-- The stage with the given name. -/
def Stage.ofName? (s : String) : Option Stage :=
  [Stage.checkout, .diff, .parse, .metrics, .smells, .emit].find? fun t => t.name == s

/-- **A commit that failed**, with the file under analysis when there was one. -/
structure CommitFailure where
  commit : String
  stage : Stage
  error : String
  path : Option String
deriving Repr, DecidableEq, Inhabited

/-- A failure as a table. -/
def CommitFailure.toTable (f : CommitFailure) : Value :=
  .table [("commit", .text f.commit), ("stage", .text f.stage.name),
    ("path", Problem.optionalText f.path), ("error", .text f.error)]

/-- **The report of a run.** -/
structure Report where
  commits : List String
  records : Nat
  failures : List CommitFailure
deriving Repr, DecidableEq, Inhabited

namespace Report

/-- The report before anything has been done. -/
def empty : Report := ⟨[], 0, []⟩

/-- Did nothing fail? -/
def isOk (r : Report) : Bool := r.failures.isEmpty

/-- The report with one more failure. -/
def failed (r : Report) (f : CommitFailure) : Report := { r with failures := r.failures ++ [f] }

/-- The report with one more commit and its records. -/
def analysed (r : Report) (commit : String) (records : Nat) : Report :=
  { r with commits := r.commits ++ [commit], records := r.records + records }

end Report

end HistoryMetrics
