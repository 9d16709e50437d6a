import HistoryMetrics.Action
import HistoryMetrics.Command.Console
import HistoryMetrics.Log.Delivery
import HistoryMetrics.Metric.Plugin

/-! # The scene of a run

    What the program finds around it and leaves behind: the disk, the folder where it runs, the time
    of day, logging, the file of lines that it writes, and what it shows on the console. Whoever works for the program (git, the
    reader of sources, the receiver of records) may keep a state of its own, of any type.

    - `Scene.logged`: the scene after a record has been logged
    - `Scene.setUpLogging`: replaces the program's log handlers
    - `Scene.showAll`: shows things on the console
-/

namespace HistoryMetrics

/-- **A file of lines**: where it is, whether it is being written, and the lines written so far. -/
structure LineFile where
  path : Path
  isOpen : Bool
  lines : Nat
deriving Repr, DecidableEq, Inhabited

/-- **The scene.** The journal keeps all records that logging has let through; the notes are those
    of whoever took part in an analysis, and are there for the analyses after it. What was shown on the
    console comes last. -/
structure Scene (σ : Type) where
  outside : σ
  disk : Disk
  here : Path
  time : String
  logging : Logging
  journal : List LogRecord
  lineFile : LineFile
  notes : List String := []
  shown : List Console.Item := []

namespace Scene

variable {σ : Type}

/-- **The scene after a record has been logged.** -/
def logged (s : Scene σ) (r : LogRecord) : Scene σ :=
  if s.logging.letsThrough r then
    { s with
      disk := (s.logging.receivers r).foldl (Logging.written s.time r s.here) s.disk
      journal := s.journal ++ [r] }
  else s

/-- The scene after some records have been logged. -/
def loggedAll (s : Scene σ) (rs : List LogRecord) : Scene σ := rs.foldl logged s

/-- Logs a record. -/
def log (level : Level) (logger message : String) : Action (Scene σ) Unit :=
  .update fun s => s.logged (.plain level logger message)

/-- Replaces the program's log handlers. -/
def setUpLogging (verbose quiet : Bool) (logFile : Option String) : Action (Scene σ) Unit :=
  fun s =>
    let (r, logging, disk) := s.logging.setUp s.disk s.here verbose quiet logFile
    (r.mapError .fault, { s with logging, disk })

/-- **Shows things on the console**, one after the other, up to one that it cannot show. -/
def showAll (render : Console.Renderer) : List Console.Item → Action (Scene σ) Unit
  | [] => pure ()
  | item :: rest => fun s =>
    match render item with
    | some f => (.error (.fault f), s)
    | none => showAll render rest { s with shown := s.shown ++ [item] }

/-- The scene after an analysis: its notes are kept, and what it logs is logged here. -/
def analysed (s : Scene σ) (a : Analysis) : Scene σ :=
  { s with notes := a.notes }.loggedAll a.journal

/-- Runs a calculation on an outline. -/
def calculate {α : Type} (o : SourceOutline) (c : Calculation α) :
    Action (Scene σ) (α × SourceOutline) := fun s =>
  match c ⟨o, s.notes, []⟩ with
  | (.ok a, done) => (.ok (a, done.outline), s.analysed done)
  | (.error f, done) => (.error f, s.analysed done)

end Scene

end HistoryMetrics
