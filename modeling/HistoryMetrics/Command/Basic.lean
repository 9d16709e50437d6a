import HistoryMetrics.Command.Console
import HistoryMetrics.Mining.Miner
import HistoryMetrics.Python.Provider
import HistoryMetrics.Setting.Load

/-! # The commands

    - `Command.refs`: the branches and tags of a repository
    - `Command.commits`: its commits with the numbers of lines
    - `Command.mine`: the metrics and smells of its commits

    A command answers with an outcome: the code it exits with, what it shows, and the lines it prints.
    Problems are shown and end the command with code 1; other failures go on to the caller, and only
    mining takes note of the user's wish to stop. All that a command shows it shows in the end; what the
    console cannot show is a fault that goes on to the caller.
-/

namespace HistoryMetrics

namespace Command

variable {σ : Type}

/-- **What came of a command.** -/
structure Outcome where
  code : Int
  shown : List Console.Item
  printed : List String
deriving Repr, DecidableEq, Inhabited

/-- How much a command logs. -/
structure Verbosity where
  verbose : Bool
  quiet : Bool
  logFile : Option String
deriving Repr, DecidableEq, Inhabited

/-- Sets logging up. -/
def setUpLogging (v : Verbosity) : Action (World σ) Unit :=
  World.onScene (Scene.setUpLogging v.verbose v.quiet v.logFile)

/-- How a problem is shown. -/
def problemShown (p : Problem) : Outcome :=
  ⟨1, [.line ("[red]Error:[/red] " ++ p.message)], []⟩

/-- A step whose problems are shown. -/
def reporting (step : Action (World σ) Outcome) : Action (World σ) Outcome := fun w =>
  match step w with
  | (.error (.problem p), w') => (.ok (problemShown p), w')
  | done => done

/-- **A step whose outcome is shown.** -/
def showing (render : Console.Renderer) (step : Action (World σ) Outcome) :
    Action (World σ) Outcome := do
  let outcome ← step
  World.onScene (Scene.showAll render outcome.shown)
  pure outcome

/-- The settings, from the files and variables around the program. -/
def settings (vars : Environment.Variables) (file : Option Path) (overrides : Setting.Settings) :
    Action (World σ) Config := fun w =>
  (loadConfig w.disk w.here vars file overrides, w)

/-- The first twelve characters of a text. -/
def short (s : String) : String := String.ofList (s.toList.take 12)

/-! ## References -/

/-- The row of a reference. -/
def referenceRow (r : Reference) : List String :=
  [r.name, r.kind.name, r.path, short (r.target.getD "")]

/-- The table of references. -/
def referenceTable (root : Path) (rs : List Reference) : Console.Table where
  title := "References in " ++ root.text
  columns := [.styled "Name" "cyan", .plain "Type", .styled "Path" "dim", .styled "Target" "green"]
  rows := rs.map referenceRow

/-- **Shows branches and tags.** -/
def refs (path : Path) (v : Verbosity) (render : Console.Renderer := .all) :
    Action (World σ) Outcome := do
  setUpLogging v
  showing render (reporting do
    Session.open path Config.standard.gitTimeout Config.standard.binaryThreshold
    let table ← Action.always
      (do let rs ← Session.references
          let root ← Session.root
          pure (referenceTable root rs))
      Session.closing
    pure ⟨0, [.table table], []⟩)

/-! ## Commits -/

/-- The first line of a message, escaped; a merge is marked. -/
def subject (c : Commit) : String :=
  let first := ((Text.lines c.message.toList).head?.getD [])
  let text := Console.escape (String.ofList first)
  if c.isMerge then "[yellow]merge[/yellow] " ++ text else text

/-- The row of a commit. -/
def commitRow (c : Commit) : List String :=
  [short c.id, c.committer.moment.dayText, c.author.name, toString c.changes.length,
    toString c.added, toString c.removed, subject c]

/-- The table of commits. -/
def commitTable (cs : List Commit) : Console.Table where
  title := toString cs.length ++ " commits"
  columns := [.styled "Commit" "cyan", .plain "Date", .plain "Author", .number "Files" "",
    .number "+" "green", .number "-" "red", .plain "Subject"]
  rows := cs.map commitRow

/-- The outcome for commits, as documents or as a table. -/
def commitOutcome (asDocuments : Bool) (cs : List Commit) : Outcome :=
  if asDocuments then ⟨0, [], cs.map fun c => Document.text c.toTable⟩
  else ⟨0, [.table (commitTable cs)], []⟩

/-- What has been accepted since a moment, when there were `count` emissions. -/
def acceptedSince (count : Nat) : Action (World σ) (List Emission) :=
  .read fun w => w.accepted.drop count

/-- A miner with the built-in metrics. -/
def minerFor (c : Config) (patterns : List Value) (sink : Sink σ) : Except Problem (Miner σ) :=
  Miner.make c (Python.provider patterns) sink .standard none

/-- **Shows the commits of a repository.** -/
def commits (path : Path) (asDocuments : Bool) (file : Option Path)
    (vars : Environment.Variables) (v : Verbosity) (render : Console.Renderer := .all) :
    Action (World σ) Outcome := do
  setUpLogging v
  showing render (reporting do
    let config ← settings vars file []
    let m ← .ofResult ((minerFor config [] .memory).mapError .problem)
    let before ← Action.read fun w : World σ => w.accepted.length
    let _ ← m.mineHistory path.text
    let emissions ← acceptedSince before
    pure (commitOutcome asDocuments (emissions.filterMap Emission.commit?)))

/-! ## Mining -/

/-- **What mining is asked to do.** Without ids and a reference it mines everything. -/
structure MineRequest where
  path : Path
  reference : Option String
  ids : List String
  output : Option Path
  failFast : Bool
  settingsFile : Option Path
deriving Repr, DecidableEq, Inhabited

/-- The commits that are asked for. -/
def MineRequest.selection (q : MineRequest) : Selection :=
  if q.ids.isEmpty then
    match q.reference with
    | some name => .reference name
    | none => .everything
  else .ids q.ids

/-- The rows of the smells of a record. -/
def smellRows (r : TypeRecord) : List (List String) :=
  r.smells.map fun v =>
    [short r.commit, r.path ++ ":" ++ r.typeName, v.smell.name, ", ".intercalate v.members]

/-- The table of smells, if there are any. -/
def smellItems (rs : List TypeRecord) : List Console.Item :=
  if rs.all fun r => r.smells.isEmpty then []
  else [.table {
    title := "Smells"
    columns := [.styled "Commit" "cyan", .plain "Type", .styled "Smell" "yellow", .plain "Members"]
    rows := rs.flatMap smellRows }]

/-- The line about a failure. -/
def failureLine (f : CommitFailure) : String :=
  let place := match f.path with
    | some p => if p.isEmpty then "" else " " ++ p
    | none => ""
  "[red]failed[/red] " ++ short f.commit ++ " at " ++ f.stage.name ++ place ++ ": " ++ f.error

/-- The lines of a report. -/
def reportLines (r : Report) : List String :=
  ("[bold]" ++ toString r.commits.length ++ "[/bold] commits analyzed, [bold]" ++
    toString r.records ++ "[/bold] records emitted") :: r.failures.map failureLine

/-- The outcome of a run. -/
def mineOutcome (smells : List Console.Item) (r : Report) : Outcome :=
  ⟨if r.isOk then 0 else 1, smells ++ (reportLines r).map .line, []⟩

/-- The mark of an overriding setting that only counts when it is set. -/
def failFastOverride (failFast : Bool) : Setting.Settings :=
  [("fail_fast", if failFast then .bool true else .null)]

/-- A run that keeps its records. -/
def mineInMemory (q : MineRequest) (config : Config) (patterns : List Value) :
    Action (World σ) Outcome := do
  let m ← .ofResult ((minerFor config patterns .memory).mapError .problem)
  let before ← Action.read fun w : World σ => w.accepted.length
  let report ← m.mine q.path.text q.selection none
  let emissions ← acceptedSince before
  pure (mineOutcome (smellItems (emissions.filterMap Emission.record?)) report)

/-- Closes the file of lines. -/
def closeLineFile : Action.Tidying (World σ) := fun w =>
  (none, { w with toScene := LineFile.close w.toScene })

/-- A run that writes its records. -/
def mineToFile (q : MineRequest) (config : Config) (patterns : List Value) (output : Path) :
    Action (World σ) Outcome := do
  .update fun w => { w with lineFile := LineFile.closed output }
  World.onScene LineFile.open
  Action.always
    (do let m ← .ofResult ((minerFor config patterns .lineFile).mapError .problem)
        let report ← m.mine q.path.text q.selection none
        pure (mineOutcome [] report))
    closeLineFile

/-- What is shown when the user stops the run. -/
def interrupted : Outcome := ⟨130, [.line "\n[yellow]Mining interrupted[/yellow]"], []⟩

/-- A step that may be stopped by the user. -/
def stoppable (step : Action (World σ) Outcome) : Action (World σ) Outcome := fun w =>
  match step w with
  | (.error .interrupt, w') => (.ok interrupted, w')
  | done => done

/-- What mining comes to, before anything is shown. -/
def mined (q : MineRequest) (vars : Environment.Variables) : Action (World σ) Outcome :=
  stoppable (reporting do
    let config ← settings vars q.settingsFile (failFastOverride q.failFast)
    let patterns ← .ofResult ((Exclusion.ofValue config.excludePatterns).mapError .fault)
    match q.output with
    | some output => mineToFile q config patterns output
    | none => mineInMemory q config patterns)

/-- **Mines a repository** and shows the report. -/
def mine (q : MineRequest) (vars : Environment.Variables) (v : Verbosity)
    (render : Console.Renderer := .all) : Action (World σ) Outcome := do
  setUpLogging v
  showing render (mined q vars)

end Command

end HistoryMetrics
