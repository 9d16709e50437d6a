import HistoryMetrics.Mining.Sink
import HistoryMetrics.Repository.Walk
import HistoryMetrics.Smell.Standard
import HistoryMetrics.Source.Provider

/-! # Mining a repository

    For each selected commit its tree is checked out, the source files are read, metrics and smells
    are found, and the records are handed over, but only when all of that went well. A commit with a
    problem becomes a failure of the report, and the work goes on with the next one, unless the user
    wants to stop at the first failure.

    - `Selection`: which commits to mine
    - `Miner.workOn`: the work on one commit, stage by stage
    - `Miner.mine`: a whole run
    - `Miner.mineHistory`: hands over the commits themselves
-/

namespace HistoryMetrics

/-- **Which commits to mine**: some ids, those that a reference reaches, or all. -/
inductive Selection where
  | ids (ids : List String)
  | reference (name : String)
  | everything
deriving Repr, DecidableEq, Inhabited

/-- **What mining needs.** -/
structure Miner (σ : Type) where
  config : Config
  provider : Provider σ
  sink : Sink σ
  engine : Engine
  detectors : List Detector

namespace Miner

variable {σ α : Type}

/-- The logger of mining. -/
def logger : String := rootLogger ++ ".mining.miner"

/-- The detectors that settings ask for. -/
def detectorsFor (c : Config) : List Detector :=
  if c.includeSmells.isTruthy then standardDetectors c else []

/-- A miner for a registry, if the registry is complete and has no cycle. Without detectors of its
    own it takes those that the settings ask for. -/
def make (config : Config) (provider : Provider σ) (sink : Sink σ) (registry : Registry)
    (detectors : Option (List Detector)) : Except Problem (Miner σ) :=
  (Engine.make registry).map fun engine =>
    ⟨config, provider, sink, engine, detectors.getD (detectorsFor config)⟩

/-- Opens a repository under the settings of the miner. -/
def openAt (m : Miner σ) (path : String) : Action (World σ) Unit :=
  Session.open (.ofText path) m.config.gitTimeout m.config.binaryThreshold

/-! ## One commit -/

/-- **What stops the work on a commit**: a problem at a stage, with the file under analysis, or a
    failure that stops the whole run. -/
inductive Setback where
  | problem (stage : Stage) (path : Option String) (p : Problem)
  | fatal (f : Failure)

/-- Work in stages. -/
abbrev Staged (σ : Type) : Type → Type := ExceptT Setback (StateM (World σ))

/-- A step as a stage of the work. -/
def during (stage : Stage) (path : Option String) (step : Action (World σ) α) : Staged σ α :=
  fun w =>
    match step w with
    | (.ok a, w') => (.ok a, w')
    | (.error (.problem p), w') => (.error (.problem stage path p), w')
    | (.error f, w') => (.error (.fatal f), w')

/-- A step whose faults become problems. -/
def withFaults {S : Type} (f : Fault → Problem) (step : Action S α) : Action S α := fun s =>
  match step s with
  | (.error (.fault e), s') => (.error (.problem (f e)), s')
  | done => done

/-- The outlines of the files of a commit, which is checked out. -/
def parse (m : Miner σ) (commit : String) : Action (World σ) (List SourceOutline) := do
  let root ← Session.root
  let paths ← Session.files commit
  World.onScene (withFaults (fun e => .provider root.text e.shown none)
    (m.provider.outlines root (some paths)))

/-- The smells of an outline, if there are detectors at all; `path` is where its source is. -/
def smellsOf (m : Miner σ) (path : String) (o : SourceOutline) :
    Staged σ (List Finding × SourceOutline) :=
  if m.detectors.isEmpty then pure ([], o)
  else during .smells (some path)
    (World.onScene (Scene.calculate o (detectSmells m.detectors m.engine)))

/-- The records of an outline. -/
def recordsOfOutline (m : Miner σ) (c : Commit) (o : SourceOutline) :
    Staged σ (List TypeRecord) := do
  let (_, measured) ← during .metrics (some o.path)
    (World.onScene (Scene.calculate o (m.engine.compute none)))
  let (findings, judged) ← m.smellsOf o.path measured
  pure (recordsOf c.id c.committer.moment judged findings)

/-- The records of outlines, one after the other. -/
def recordsOfAll (m : Miner σ) (c : Commit) : List SourceOutline → Staged σ (List TypeRecord)
  | [] => pure []
  | o :: os => do
    let rs ← m.recordsOfOutline c o
    let rest ← recordsOfAll m c os
    pure (rs ++ rest)

/-- Hands records over, one after the other. -/
def emitAll (sink : Sink σ) : List TypeRecord → Action (World σ) Unit
  | [] => pure ()
  | r :: rs => do
    sink.handOver (.record r)
    emitAll sink rs

/-- Hands the records of a commit over. -/
def emit (m : Miner σ) (commit : String) (rs : List TypeRecord) : Action (World σ) Unit :=
  withFaults (fun e => .emission commit e.shown) (emitAll m.sink rs)

/-- The commit of an id, which is read unless it is known already. -/
def commitOf (id : String) : Option Commit → Staged σ Commit
  | some c => pure c
  | none => during .diff none (Session.commit id)

/-- **The work on one commit**; the number of its records. -/
def workOn (m : Miner σ) (id : String) (known : Option Commit) : Staged σ Nat := do
  let c ← commitOf id known
  during .checkout none (Session.checkout c.id)
  let outlines ← during .parse none (m.parse c.id)
  let records ← m.recordsOfAll c outlines
  during .emit none (m.emit id records)
  pure records.length

/-! ## A whole run -/

/-- The beginning of an id. -/
def shortId (id : String) : String := String.ofList (id.toList.take 12)

/-- What is logged about a commit with a problem. -/
def skipped (id : String) (stage : Stage) (p : Problem) : LogRecord :=
  ⟨.warning, logger, "Skipping " ++ shortId id ++ " at " ++ stage.name ++ ": ", some (.problem p)⟩

/-- Mines one commit: the report after it, or the failure that ends the run. -/
def mineCommit (m : Miner σ) (failFast : Bool) (id : String) (known : Option Commit)
    (report : Report) : Action (World σ) Report := fun w =>
  match m.workOn id known w with
  | (.ok n, w') => (.ok (report.analysed id n), w')
  | (.error (.fatal f), w') => (.error f, w')
  | (.error (.problem stage path p), w') =>
    let w' := w'.logged (skipped id stage p)
    if failFast then (.error (.problem p), w')
    else (.ok (report.failed ⟨id, stage, p.message, path⟩), w')

/-- Opens the repository again if a failure has closed it. -/
def reopen (m : Miner σ) (path : String) : Action (World σ) Unit := fun w =>
  if Session.isOpen w then (.ok (), w)
  else
    m.openAt path (w.logged (.plain .info logger ("Reopening " ++ path ++ " after failure")))

/-- The number of a commit among all, as it is logged. -/
def progress (index total : Nat) (id : String) : String :=
  "[" ++ toString index ++ "/" ++ toString total ++ "] " ++ shortId id

/-- The commit of an id among those that are known: the last one counts. -/
def knownCommit (known : List Commit) (id : String) : Option Commit :=
  known.reverse.find? fun c => c.id == id

/-- Mines commits one after the other; `index` is the number of the next one. -/
def mineAll (m : Miner σ) (path : String) (failFast : Bool) (total : Nat) (known : List Commit) :
    (index : Nat) → List String → Report → Action (World σ) Report
  | _, [], report => pure report
  | index, id :: rest, report => do
    m.reopen path
    World.log .info logger (progress index total id)
    let report ← m.mineCommit failFast id (knownCommit known id) report
    mineAll m path failFast total known (index + 1) rest report

/-- **The ids to mine**, and the commits that are known already. -/
def select : Selection → Action (World σ) (List String × List Commit)
  | .ids ids => pure (ids, [])
  | .reference name => do
    let refs ← Session.references
    match selectReference refs name with
    | .error p => .fail (.problem p)
    | .ok none => do
      World.log .warning logger ("Reference " ++ name ++ " not found; nothing to mine")
      pure ([], [])
    | .ok (some r) => do
      let ids ← Session.idsOf r
      pure (ids, [])
  | .everything => do
    let history ← Session.commits
    pure (history.map Commit.id, history)

/-- The run on the open repository. -/
def mineOpen (m : Miner σ) (path : String) (selection : Selection) (failFast : Bool) :
    Action (World σ) Report := do
  let (ids, known) ← select selection
  let root ← Session.root
  World.log .info logger ("Mining " ++ toString ids.length ++ " commits in " ++ root.text)
  m.mineAll path failFast ids.length known 1 ids .empty

/-- **Mines a repository.** The repository is closed in the end, however the run ends. -/
def mine (m : Miner σ) (path : String) (selection : Selection) (failFast : Option Bool) :
    Action (World σ) Report := do
  m.openAt path
  (m.mineOpen path selection (failFast.getD m.config.failFast.isTruthy)).always Session.closing

/-! ## Only the history -/

/-- Hands commits over as they are read. -/
def emitHistory (m : Miner σ) (r : Repository) :
    List (List Char) → Report → Action (World σ) Report
  | [], report => pure report
  | record :: rest, report => do
    let c ← Walk.read r record
    m.sink.handOver (.commit c)
    emitHistory m r rest (report.analysed c.id 0)

/-- **Hands over all commits.** -/
def mineHistory (m : Miner σ) (path : String) : Action (World σ) Report := do
  m.openAt path
  Action.always
    (do let (r, records) ← Walk.begin
        m.emitHistory r records .empty)
    Session.closing

end Miner

end HistoryMetrics
