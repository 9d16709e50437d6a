import HistoryMetrics.Disk.Basic
import HistoryMetrics.Value

/-! # Git, seen from the program

    The program gives git commands, and keeps a helper of git running that looks up objects. What git
    answers is not known here: `Git` is any way to answer, with a state of any type.

    - `GitCommand`, `GitOutcome`: a command and what came of it
    - `Git`: how git answers
    - `GitEvent`: what the program did to git, for the record
-/

namespace HistoryMetrics

/-- **A command**: the folder it is given in, its arguments, the seconds it may take, and the text
    that it reads. -/
structure GitCommand where
  root : Path
  arguments : List String
  timeout : Value
  input : Option String

namespace GitCommand

/-- The whole command line. -/
def line (c : GitCommand) : List String :=
  ["git", "-c", "core.quotepath=off", "-C", c.root.text] ++ c.arguments

/-- Does some part of the command hold a null character? No such command can be given. -/
def holdsNull (c : GitCommand) : Bool := c.line.any fun s => s.contains '\x00'

end GitCommand

/-- The command line of the helper that looks up objects. -/
def lookupLine (root : Path) : List String :=
  ["git", "-C", root.text, "cat-file", "--batch-check"]

/-- A mishap of the system: its number, its text, and perhaps a file. -/
structure SystemMishap where
  number : Int
  text : String
  file : Option String
deriving Repr, DecidableEq, Inhabited

/-- A mishap as a fault. -/
def SystemMishap.toFault (m : SystemMishap) : Fault := .system m.number m.text m.file

/-- **What came of a command.** -/
inductive GitOutcome where
  | finished (code : Int) (output errors : List UInt8)
  | notStarted (m : SystemMishap)
  | timedOut
  | interrupted

/-- **How git answers.** Helpers are known by numbers, in the order of their starts.

    - `run`: a command, which may change the disk
    - `startHelper`: nothing, or the reason why no helper runs
    - `isRunning`: has the helper not ended by itself?
    - `ask`: the line that the helper answers to a name, empty when it has nothing more to say
    - `sendRest`: what is left of a name that did not reach the helper is sent when it is closed;
      nothing, or the reason why that fails
    - `endHelper`: does the helper end in time when nobody asks it any more?
-/
structure Git (σ : Type) where
  run : GitCommand → σ → Disk → GitOutcome × σ × Disk
  startHelper : Nat → Path → σ → Option SystemMishap × σ
  isRunning : Nat → σ → Bool
  ask : Nat → String → σ → Except SystemMishap (List UInt8) × σ
  sendRest : Nat → σ → Option SystemMishap × σ
  endHelper : Nat → σ → Bool × σ

/-- **What the program did to git.** -/
inductive GitEvent where
  | ran (c : GitCommand) (isStarted : Bool)
  | killed (c : GitCommand)
  | helperStarted (helper : Nat) (root : Path)
  | asked (helper : Nat) (name : String)
  | helperClosed (helper : Nat)
  | helperKilled (helper : Nat)

end HistoryMetrics
