import HistoryMetrics.Text.Blank
import HistoryMetrics.Text.Lines
import HistoryMetrics.World

/-! # Giving commands to git

    A command that ends with another code than zero, that takes too long or that cannot be started is
    a problem; the problem says what git said. What git writes is text in UTF-8: ill-formed parts are
    replaced, and all line ends become line feeds.

    - `Git.text`: what git wrote, as text
    - `Repository.run`: gives a command and returns what it wrote
-/

namespace HistoryMetrics

/-- **What git wrote, as text.** -/
def Git.text (octets : List UInt8) : String :=
  String.ofList (Text.universalNewlines (Text.decodeLossy octets))

namespace Repository

variable {σ : Type}

/-- The logger of commands. -/
def commandLogger : String := rootLogger ++ ".scm.runner"

/-- A command for a repository. -/
def command (r : Repository) (arguments : List String) (input : Option String) : GitCommand :=
  ⟨r.root, arguments, r.timeout, input⟩

/-- The problem of a command that took too long. -/
def tooLong (c : GitCommand) : Problem :=
  .gitCommand c.arguments ("timed out after " ++ c.timeout.message ++ "s") none

/-- What a finished command is worth: what it wrote, or the problem that it told of. -/
def judge (c : GitCommand) (code : Int) (output errors : List UInt8) : Except Failure String :=
  if code = 0 then .ok (Git.text output)
  else
    let reason := String.ofList (Text.strip (Git.text errors).toList)
    .error (.problem (.gitCommand c.arguments reason (some code)))

/-- Gives a command to git. A command that is given up is killed. -/
def perform (c : GitCommand) : Action (World σ) String := fun w =>
  let (outcome, outside, disk) := w.git.run c w.outside w.disk
  let w := { w with outside, disk }
  match outcome with
  | .finished code output errors => (judge c code output errors, w.happened (.ran c true))
  | .notStarted m =>
    (.error (.problem (.gitCommand c.arguments m.toFault.message none)), w.happened (.ran c false))
  | .timedOut => (.error (.problem (tooLong c)), (w.happened (.ran c true)).happened (.killed c))
  | .interrupted => (.error .interrupt, (w.happened (.ran c true)).happened (.killed c))

/-- **Gives a command to git and returns what it wrote.** -/
def run (r : Repository) (arguments : List String) (input : Option String) :
    Action (World σ) String := do
  World.log .debug commandLogger ("git " ++ " ".intercalate arguments)
  let c := r.command arguments input
  if c.holdsNull then .fail (.fault (.wrongValue "embedded null byte")) else perform c

end Repository

end HistoryMetrics
