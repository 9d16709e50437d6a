import HistoryMetrics.Document
import HistoryMetrics.World

/-! # Who receives commits and records

    A sink takes what is handed over, or refuses it with a failure. What it takes is remembered by the
    world, so a sink that keeps everything has nothing to do.

    - `Sink.memory`: takes everything
    - `Sink.lineFile`: writes each emission as a line of a file, which is opened at the first one
-/

namespace HistoryMetrics

/-- **A sink.** -/
structure Sink (σ : Type) where
  receive : Emission → Action (Scene σ) Unit

/-! ## Files of lines -/

namespace LineFile

variable {σ : Type}

/-- The logger of files of lines. -/
def logger : String := rootLogger ++ ".mining.sinks"

/-- A file that has not been opened yet. -/
def closed (path : Path) : LineFile := ⟨path, false, 0⟩

/-- The disk with an empty file, in folders that are made if they are missing. -/
def emptied (disk : Disk) (here path : Path) : Except Fault Disk :=
  match disk.makeFolders here path.parent with
  | .error e => .error (e.toFault path.parent.text)
  | .ok d => (d.write here path []).mapError fun e => e.toFault path.text

/-- **Opens the file**, which is empty afterwards. A file that is open stays as it is. -/
def «open» : Action (Scene σ) Unit := fun s =>
  if s.lineFile.isOpen then (.ok (), s)
  else
    match emptied s.disk s.here s.lineFile.path with
    | .error f => (.error (.fault f), s)
    | .ok disk => (.ok (), { s with disk, lineFile := { s.lineFile with isOpen := true } })

/-- The line of an emission. -/
def lineOf (e : Emission) : String := Document.text e.toTable ++ "\n"

/-- Writes a line into the open file. -/
def write (line : String) : Action (Scene σ) Unit := fun s =>
  match s.disk.append s.here s.lineFile.path (Text.encode line.toList) with
  | .error e => (.error (.fault (e.toFault s.lineFile.path.text)), s)
  | .ok disk =>
    (.ok (), { s with disk, lineFile := { s.lineFile with lines := s.lineFile.lines + 1 } })

/-- What is logged when the file is closed. -/
def record (f : LineFile) : LogRecord :=
  .plain .debug logger ("Wrote " ++ toString f.lines ++ " lines to " ++ f.path.text)

/-- **Closes the file**, if it is open. -/
def close (s : Scene σ) : Scene σ :=
  if s.lineFile.isOpen then
    { s with lineFile := { s.lineFile with isOpen := false } }.logged (record s.lineFile)
  else s

end LineFile

namespace Sink

variable {σ : Type}

/-- **The sink that takes everything.** -/
def memory : Sink σ where
  receive _ := pure ()

/-- **The sink that writes lines.** -/
def lineFile : Sink σ where
  receive e := do
    LineFile.open
    LineFile.write (LineFile.lineOf e)

/-- Hands something over and remembers that it was taken. -/
def handOver (sink : Sink σ) (e : Emission) : Action (World σ) Unit := do
  World.onScene (sink.receive e)
  .update fun w => { w with accepted := w.accepted ++ [e] }

end Sink

end HistoryMetrics
