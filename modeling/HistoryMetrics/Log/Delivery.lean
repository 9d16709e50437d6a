import HistoryMetrics.Disk.Basic
import HistoryMetrics.Log
import HistoryMetrics.Text.Utf8

/-! # Where log records go

    The program has at most two handlers of its own, for the console and for a file; others may have
    been attached from outside and stay. A record reaches a handler when both the program and the
    handler let its level through.

    - `Logging.receivers`: the handlers that a record reaches
    - `Logging.setUp`: replaces the program's own handlers
    - `Logging.fileLine`: how a record stands in a file
-/

namespace HistoryMetrics

/-- What a handler does with records. -/
inductive HandlerTarget where
  | console
  | file (path : Path)
  | foreign (name : String)
deriving Repr, DecidableEq, Inhabited

/-- **A handler** with the level from which on it takes records. -/
structure Handler where
  target : HandlerTarget
  level : Level
deriving Repr, DecidableEq, Inhabited

/-- Was the handler installed by the program itself? -/
def Handler.isOwn (h : Handler) : Bool :=
  match h.target with
  | .foreign _ => false
  | _ => true

/-- **The state of logging**: the level of the program, and its handlers. -/
structure Logging where
  level : Level
  handlers : List Handler
deriving Repr, DecidableEq, Inhabited

namespace Logging

/-- Is a record let through by the program? Loggers outside of it are no concern of its handlers. -/
def letsThrough (l : Logging) (r : LogRecord) : Bool :=
  isProgramLogger r.logger && r.level.reaches l.level

/-- **The handlers that a record reaches.** -/
def receivers (l : Logging) (r : LogRecord) : List Handler :=
  if l.letsThrough r then l.handlers.filter fun h => r.level.reaches h.level else []

/-! ## Setting up -/

/-- The level that the user asks for; silence wins over detail. -/
def levelOf (verbose quiet : Bool) : Level :=
  if quiet then .error else if verbose then .debug else .warning

/-- Logging without the program's own handlers. -/
def withoutOwn (l : Logging) : Logging := { l with handlers := l.handlers.filter fun h => !h.isOwn }

/-- The program's own handlers: progress is always written to the file. -/
def ownHandlers (level : Level) (file : Option Path) : List Handler :=
  ⟨.console, level⟩ :: (file.map fun p => Handler.mk (.file p) (level.lower .info)).toList

/-- The lowest level of some handlers. -/
def lowest (first : Level) (hs : List Handler) : Level :=
  hs.foldl (fun l h => l.lower h.level) first

/-- Logging with new handlers of the program, which decide its level. -/
def withOwn (l : Logging) (level : Level) (file : Option Path) : Logging :=
  { level := lowest level (ownHandlers level file)
    handlers := l.withoutOwn.handlers ++ ownHandlers level file }

/-- The file that the user names: an empty name means none. -/
def fileOf : Option String → Option Path
  | some s => if s.isEmpty then none else some (.ofText s)
  | none => none

/-- Makes the folder of a log file and the file, if they are missing. The file is known by its path
    from the top. -/
def prepareFile (disk : Disk) (here file : Path) : Except Fault Disk :=
  match disk.makeFolders here file.parent with
  | .error e => .error (e.toFault file.parent.text)
  | .ok d =>
    (d.append here (.resolved here file) []).mapError fun e => e.toFault (Path.resolved here file).text

/-- **Replaces the program's own handlers.** When the file cannot be opened, the old handlers are
    gone and no new ones are there. -/
def setUp (l : Logging) (disk : Disk) (here : Path) (verbose quiet : Bool)
    (logFile : Option String) : Except Fault Unit × Logging × Disk :=
  let level := levelOf verbose quiet
  match fileOf logFile with
  | none => (.ok (), l.withOwn level none, disk)
  | some file =>
    match prepareFile disk here file with
    | .ok d => (.ok (), l.withOwn level (some (.resolved here file)), d)
    | .error e => (.error e, l.withoutOwn, disk)

/-! ## Files -/

/-- A text filled up with blanks. -/
def filledUp (width : Nat) (s : String) : String :=
  s ++ String.ofList (List.replicate (width - s.length) ' ')

/-- **The line of a record in a file**, at a given time. -/
def fileLine (time : String) (r : LogRecord) : String :=
  time ++ " " ++ filledUp 7 r.level.name ++ " " ++ r.logger ++ ": " ++ r.text ++ "\n"

/-- The disk after a handler has written a record. -/
def written (time : String) (r : LogRecord) (here : Path) (disk : Disk) (h : Handler) : Disk :=
  match h.target with
  | .file p =>
    match disk.append here p (Text.encode (fileLine time r).toList) with
    | .ok d => d
    | .error _ => disk
  | _ => disk

end Logging

end HistoryMetrics
