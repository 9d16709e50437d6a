import HistoryMetrics.Text.Lines
import HistoryMetrics.Text.Utf8

/-! # Paths

    A path is a list of names, with one or two slashes in front when it starts at the top. Empty
    names and single dots of its text do not count; double dots are kept.

    - `Path.ofText`, `Path.text`: reading and writing
    - `Path.join`: a path seen from another one
    - `Path.resolved`: the path without double dots
    - `Path.keys`: what paths are ordered by
    - `Path.isLongName`, `Path.isLong`: names and paths that the system does not take
-/

namespace HistoryMetrics

/-- **A path**: the slashes in front, and its names. -/
structure Path where
  root : String
  parts : List String
deriving Repr, DecidableEq, Inhabited

namespace Path

/-- The names of a text that count. -/
def namesOf (cs : List Char) : List String :=
  ((Text.splitOn '/' cs).filter fun w => !w.isEmpty && w != ['.']).map String.ofList

/-- The slashes in front of a text: exactly two are kept, any other number counts as one. -/
def rootOf : List Char → String
  | '/' :: '/' :: '/' :: _ => "/"
  | '/' :: '/' :: _ => "//"
  | '/' :: _ => "/"
  | _ => ""

/-- **The path that a text names.** -/
def ofText (s : String) : Path := ⟨rootOf s.toList, namesOf s.toList⟩

/-- **The text of a path.** A path without names and slashes is a dot. -/
def text (p : Path) : String :=
  if p.root.isEmpty && p.parts.isEmpty then "." else p.root ++ "/".intercalate p.parts

/-- Has a name more octets than the system takes? -/
def isLongName (name : String) : Bool := decide (255 < Text.byteLength name.toList)

/-- Has the text of a path more octets than the system takes? -/
def isLong (p : Path) : Bool := decide (4095 < Text.byteLength p.text.toList)

/-- Does the path start at the top? -/
def isAbsolute (p : Path) : Bool := !p.root.isEmpty

/-- A path seen from another one. -/
def join (p q : Path) : Path := if q.isAbsolute then q else ⟨p.root, p.parts ++ q.parts⟩

/-- A name inside a folder. -/
def child (p : Path) (name : String) : Path := ⟨p.root, p.parts ++ [name]⟩

/-- The folder around a path. -/
def parent (p : Path) : Path := ⟨p.root, p.parts.dropLast⟩

/-- One more name of a path without double dots: double dots take the last name away. -/
def follow (names : List String) (part : String) : List String :=
  if part == ".." then names.dropLast else names ++ [part]

/-- **The path from the top without double dots**, seen from a folder. -/
def resolved (here p : Path) : Path :=
  let q := here.join p
  ⟨q.root, q.parts.foldl follow []⟩

/-- What paths are ordered by: the slashes in front, and the names one by one. -/
def keys (p : Path) : List String := if p.isAbsolute then p.root :: p.parts else p.parts

/-- Does one list of names come before another, or are they equal? -/
def keysLe : List String → List String → Bool
  | [], _ => true
  | _ :: _, [] => false
  | a :: as, b :: bs => decide (a < b) || (a == b && keysLe as bs)

/-- Does one path come before another, or are they equal? -/
def le (p q : Path) : Bool := keysLe p.keys q.keys

/-- Paths in their order. -/
def sorted (ps : List Path) : List Path := ps.mergeSort le

end Path

end HistoryMetrics
