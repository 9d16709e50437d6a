import HistoryMetrics.Disk.Path
import HistoryMetrics.Failure

/-! # The disk

    A tree of folders and files, kept as a list of entries by their names from the top. Paths are
    walked name by name: every name but the last must lead to a folder, and none may be too long.

    - `Disk.locate`: where a path leads
    - `Disk.lookAt`, `Disk.isThere`, `Disk.isFile`: what stands there, as the system tells it
    - `Disk.read`, `Disk.write`, `Disk.append`, `Disk.remove`, `Disk.makeFolders`: with the faults
      that the system reports
    - `Disk.filesBelow`: everything below a folder
-/

namespace HistoryMetrics

/-- What a path can lead to. -/
inductive Entry where
  | file (octets : List UInt8)
  | folder
deriving DecidableEq, Inhabited

/-- Is this a file? -/
def Entry.isFile : Entry → Bool
  | .file _ => true
  | .folder => false

/-- **The disk**: its entries, and the files that cannot be read. -/
structure Disk where
  entries : List (List String × Entry)
  unreadable : List (List String)
deriving Inhabited

/-- The faults of the system that paths can meet. -/
inductive PathFault where
  | noEntry
  | notFolder
  | isFolder
  | taken
  | denied
  | nullCharacter
  | tooLong
deriving Repr, DecidableEq

/-- The fault about the path with the given text. -/
def PathFault.toFault (path : String) : PathFault → Fault
  | .noEntry => .system 2 "No such file or directory" (some path)
  | .notFolder => .system 20 "Not a directory" (some path)
  | .isFolder => .system 21 "Is a directory" (some path)
  | .taken => .system 17 "File exists" (some path)
  | .denied => .system 13 "Permission denied" (some path)
  | .nullCharacter => .wrongValue "embedded null byte"
  | .tooLong => .system 36 "File name too long" (some path)

/-- Does the fault only mean that nothing stands at the path? -/
def PathFault.isAbsence : PathFault → Bool
  | .noEntry | .notFolder | .nullCharacter => true
  | .isFolder | .taken | .denied | .tooLong => false

namespace Disk

/-- The entry at some names; the top is a folder. -/
def find? (d : Disk) (names : List String) : Option Entry :=
  if names.isEmpty then some .folder else d.entries.lookup names

/-- Is there a folder at the names? -/
def isFolderAt (d : Disk) (names : List String) : Bool := d.find? names == some .folder

/-- Walks from a folder. -/
def walk (d : Disk) (here : List String) : List String → Except PathFault (List String)
  | [] => .ok here
  | part :: rest =>
    match d.find? here with
    | some .folder =>
      if Path.isLongName part then .error .tooLong else walk d (Path.follow here part) rest
    | some (.file _) => .error .notFolder
    | none => .error .noEntry

/-- Does a path hold a null character? -/
def holdsNull (p : Path) : Bool := p.parts.any fun s => s.contains '\x00'

/-- The fault of a path that the system does not take, whatever is on the disk. -/
def refusal? (p : Path) : Option PathFault :=
  if holdsNull p then some .nullCharacter else if p.isLong then some .tooLong else none

/-- Where the walk of a path starts. -/
def startOf (here p : Path) : List String := if p.isAbsolute then [] else here.parts

/-- **Where a path leads**, seen from a folder. -/
def locate (d : Disk) (here p : Path) : Except PathFault (List String) :=
  match refusal? p with
  | some e => .error e
  | none => d.walk (startOf here p) p.parts

/-- The entry that a path leads to. -/
def entryAt (d : Disk) (here p : Path) : Option Entry :=
  match d.locate here p with
  | .ok names => d.find? names
  | .error _ => none

/-- Does the path lead anywhere? -/
def holds (d : Disk) (here p : Path) : Bool := (d.entryAt here p).isSome

/-- **What stands at a path**, as the system tells it: a path that it does not take is a fault, and not
    one that leads nowhere. -/
def lookAt (d : Disk) (here p : Path) : Except PathFault (Option Entry) :=
  match d.locate here p with
  | .ok names => .ok (d.find? names)
  | .error e => if e.isAbsence then .ok none else .error e

/-- Does the path lead anywhere? -/
def isThere (d : Disk) (here p : Path) : Except PathFault Bool := (d.lookAt here p).map Option.isSome

/-- Does the path lead to a file? -/
def isFile (d : Disk) (here p : Path) : Except PathFault Bool :=
  (d.lookAt here p).map fun e => e.any Entry.isFile

/-- **The octets of a file.** -/
def read (d : Disk) (here p : Path) : Except PathFault (List UInt8) :=
  match d.locate here p with
  | .error e => .error e
  | .ok names =>
    if d.unreadable.contains names then .error .denied
    else match d.find? names with
      | some (.file octets) => .ok octets
      | some .folder => .error .isFolder
      | none => .error .noEntry

/-- The disk with an entry at some names, in place of what stood there. -/
def put (d : Disk) (names : List String) (e : Entry) : Disk :=
  if d.entries.any fun x => x.1 == names then
    { d with entries := d.entries.map fun x => if x.1 == names then (names, e) else x }
  else { d with entries := d.entries ++ [(names, e)] }

/-- The disk without the entry at some names. -/
def erase (d : Disk) (names : List String) : Disk :=
  { d with entries := d.entries.filter fun x => x.1 != names }

/-- The disk with all folders around some names. -/
def withFolders (d : Disk) : (done rest : List String) → Disk
  | _, [] => d
  | done, name :: rest =>
    let names := done ++ [name]
    if d.isFolderAt names then withFolders d names rest
    else withFolders (d.put names .folder) names rest

/-- Where a file can be written: in a folder, and not in place of one. -/
def target (d : Disk) (here p : Path) : Except PathFault (List String) :=
  match d.locate here p with
  | .error e => .error e
  | .ok names =>
    if d.isFolderAt names then .error .isFolder
    else match d.find? names.dropLast with
      | some .folder => .ok names
      | some (.file _) => .error .notFolder
      | none => .error .noEntry

/-- The file that a write puts in place of what stood there. -/
def write (d : Disk) (here p : Path) (octets : List UInt8) : Except PathFault Disk :=
  (d.target here p).map fun names => d.put names (.file octets)

/-- What a file holds; nothing when there is none. -/
def contents (d : Disk) (names : List String) : List UInt8 :=
  match d.find? names with
  | some (.file octets) => octets
  | _ => []

/-- **Adds octets at the end of a file**, which may be new. -/
def append (d : Disk) (here p : Path) (octets : List UInt8) : Except PathFault Disk :=
  (d.target here p).map fun names => d.put names (.file (d.contents names ++ octets))

/-- Removes a file. -/
def remove (d : Disk) (here p : Path) : Except PathFault Disk :=
  match d.locate here p with
  | .error e => .error e
  | .ok names =>
    match d.find? names with
    | some (.file _) => .ok (d.erase names)
    | some .folder => .error .isFolder
    | none => .error .noEntry

/-- Makes the folders of a path that are missing, from a folder on. -/
def makeFrom (d : Disk) (here : List String) : List String → Except PathFault Disk
  | [] => .ok d
  | part :: rest =>
    let names := Path.follow here part
    if Path.isLongName part then .error .tooLong
    else match d.find? names with
      | some .folder => makeFrom d names rest
      | some (.file _) => .error (if rest.isEmpty then .taken else .notFolder)
      | none => makeFrom (d.put names .folder) names rest

/-- **Makes a folder** and those around it, as far as they are missing. -/
def makeFolders (d : Disk) (here p : Path) : Except PathFault Disk :=
  match refusal? p with
  | some e => .error e
  | none => d.makeFrom (startOf here p) p.parts

/-- The names of all entries below a folder, without those of the folder. -/
def namesBelow (d : Disk) (folder : List String) : List (List String) :=
  (d.entries.map Prod.fst).filterMap fun names =>
    if folder.isPrefixOf names && folder.length < names.length then
      some (names.drop folder.length)
    else none

end Disk

end HistoryMetrics
