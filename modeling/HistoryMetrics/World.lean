import HistoryMetrics.Git.Command
import HistoryMetrics.Mining.Record
import HistoryMetrics.Scene

/-! # The world of a run

    The scene, git with everything that was done to it, and the repository that is open, if one is.

    A repository is opened many times; each time has a number of its own. The number tells apart what
    was found out about the repository and the helper that looks up its objects.
-/

namespace HistoryMetrics

/-- **A repository as the program reads it**: its folder, the seconds that commands may take, the
    size above which changes count as binary, and the number of its opening. -/
structure Repository where
  root : Path
  timeout : Value
  threshold : Value
  number : Nat

/-- **What is held while a repository is open**: the folder of git's own files, and the helper. -/
structure Handles extends Repository where
  gitFolder : Path
  helper : Nat

/-- **The world.**

    - `events`: all that was done to git, the latest last
    - `helpers`: the number of helpers that were to be started
    - `startedHelpers`: the helpers that did start, the latest first
    - `liveHelpers`: the helpers that run and have not been closed
    - `unsent`: the helpers that a name may not have reached
    - `emptyTrees`: the names of the empty tree, by openings
    - `session`: the open repository
    - `accepted`: what was handed over and not refused, the latest last
-/
structure World (σ : Type) extends Scene σ where
  git : Git σ
  events : List GitEvent
  helpers : Nat
  startedHelpers : List Nat
  liveHelpers : List Nat
  unsent : List Nat
  emptyTrees : List (Nat × String)
  session : Option Handles
  accepted : List Emission

namespace World

variable {σ α : Type}

/-- The world before anything was done to git and handed over. -/
def start (scene : Scene σ) (git : Git σ) : World σ where
  toScene := scene
  git := git
  events := []
  helpers := 0
  startedHelpers := []
  liveHelpers := []
  unsent := []
  emptyTrees := []
  session := none
  accepted := []

/-- The world after something was done to git. -/
def happened (w : World σ) (e : GitEvent) : World σ := { w with events := w.events ++ [e] }

/-- The world after a record has been logged. -/
def logged (w : World σ) (r : LogRecord) : World σ := { w with toScene := w.toScene.logged r }

/-- Logs a record. -/
def log (level : Level) (logger message : String) : Action (World σ) Unit :=
  .update fun w => w.logged (.plain level logger message)

/-- A step on the scene as a step on the world: git and the open repository are left alone. -/
def onScene (step : Action (Scene σ) α) : Action (World σ) α := fun w =>
  let (r, s) := step w.toScene
  (r, { w with toScene := s })

end World

end HistoryMetrics
