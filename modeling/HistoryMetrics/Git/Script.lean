import HistoryMetrics.Git.Command
import HistoryMetrics.Text.Utf8

/-! # Git from a script

    A script says what git answers to which commands, what it then changes on the disk, and what the
    helper answers to which names. It stands in for git where no git is at hand.

    - `Script.Rule`: commands by a pattern of their arguments, and what comes of them
    - `Script.git`: git as the script has it
-/

namespace HistoryMetrics.Script

/-- How a command of a rule ends. -/
inductive Ending where
  | finished
  | notStarted (m : SystemMishap)
  | timedOut
  | interrupted
deriving Repr, DecidableEq, Inhabited

/-- **A rule.** In a pattern `*` stands for one argument, and `**` at the end for all others. A rule
    may hold for one command only. -/
structure Rule where
  pattern : List String
  isOnce : Bool
  output : List UInt8
  errors : List UInt8
  code : Int
  writes : List (List String × Option Entry)
  ending : Ending

/-- Do arguments fit a pattern? -/
def fits : (pattern arguments : List String) → Bool
  | ["**"], _ => true
  | [], [] => true
  | p :: ps, a :: as => (p == "*" || p == a) && fits ps as
  | _, _ => false

/-- **The script**, as far as it has been used: the names asked so far are counted.

    - `answers`: the lines that the helper answers
    - `startMishap`: why no helper can be started
    - `diesAfter`, `breaksAfter`: the number of names after which the helper has ended, and after
      which it takes no more names
    - `endsInTime`: does the helper end when it is closed?
-/
structure State where
  rules : List Rule
  answers : List (String × String)
  startMishap : Option SystemMishap
  diesAfter : Option Nat
  breaksAfter : Option Nat
  endsInTime : Bool
  asked : Nat

/-- The first rule for some arguments, and the rules that are left. -/
def take (arguments : List String) : List Rule → Option (Rule × List Rule)
  | [] => none
  | r :: rs =>
    if fits r.pattern arguments then some (r, if r.isOnce then rs else r :: rs)
    else (take arguments rs).map fun (found, rest) => (found, r :: rest)

/-- The disk after one file has been written or deleted. -/
def writeOne (disk : Disk) (names : List String) : Option Entry → Disk
  | none => disk.erase names
  | some e => (disk.withFolders [] names.dropLast).put names e

/-- The disk after the changes of a rule. -/
def changed (disk : Disk) (writes : List (List String × Option Entry)) : Disk :=
  writes.foldl (fun d w => writeOne d w.1 w.2) disk

/-- What comes of a command for which there is no rule. -/
def unscripted : GitOutcome :=
  .finished 128 [] (Text.encode "fatal: unscripted command\n".toList)

/-- What comes of a command. -/
def run (c : GitCommand) (s : State) (disk : Disk) : GitOutcome × State × Disk :=
  match take c.arguments s.rules with
  | none => (unscripted, s, disk)
  | some (r, rules) =>
    let s := { s with rules }
    match r.ending with
    | .notStarted m => (.notStarted m, s, disk)
    | .timedOut => (.timedOut, s, changed disk r.writes)
    | .interrupted => (.interrupted, s, changed disk r.writes)
    | .finished => (.finished r.code r.output r.errors, s, changed disk r.writes)

/-- Has a limit been reached? -/
def isReached (limit : Option Nat) (n : Nat) : Bool :=
  match limit with
  | some k => decide (k ≤ n)
  | none => false

/-- The mishap of writing to somebody who does not read. -/
def brokenPipe : SystemMishap := ⟨32, "Broken pipe", none⟩

/-- The answer of the helper to a name. A name without an answer is missing; an empty answer means
    that there is nothing more to read. -/
def answer (s : State) (name : String) : String :=
  match s.answers.lookup name with
  | some line => if line.isEmpty then "" else line ++ "\n"
  | none => name ++ " missing\n"

/-- Asks the helper for a name. -/
def ask (name : String) (s : State) : Except SystemMishap (List UInt8) × State :=
  let s' := { s with asked := s.asked + 1 }
  if isReached s.breaksAfter s.asked then (.error brokenPipe, s')
  else (.ok (Text.encode (answer s name).toList), s')

/-- **Git as the script has it.** -/
def git : Git State where
  run := run
  startHelper _ _ s := (s.startMishap, s)
  isRunning _ s := !isReached s.diesAfter s.asked
  ask _ name s := ask name s
  sendRest _ s := (none, s)
  endHelper _ s := (s.endsInTime, s)

end HistoryMetrics.Script
