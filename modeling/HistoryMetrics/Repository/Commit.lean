import HistoryMetrics.Time.Iso
import HistoryMetrics.Value

/-! # Commits

    A commit has an author and a committer, parents, and the changes of single paths against its
    first parent, each with the numbers of lines added and removed. -/

namespace HistoryMetrics

/-- A person at a moment. -/
structure Person where
  name : String
  email : String
  moment : Moment
deriving Repr, DecidableEq, Inhabited

/-- The kinds of changes of a path. -/
inductive ChangeKind where
  | add
  | delete
  | modify
  | copy
  | move
deriving Repr, DecidableEq, Inhabited

namespace ChangeKind

/-- The name of a kind in reports. -/
def name : ChangeKind → String
  | .add => "ADD"
  | .delete => "DELETE"
  | .modify => "MODIFY"
  | .copy => "COPY"
  | .move => "MOVE"

/-- The kind with the given name. -/
def ofName? (s : String) : Option ChangeKind :=
  [ChangeKind.add, .delete, .modify, .copy, .move].find? fun k => k.name == s

end ChangeKind

/-- **A change of one path.** Copies and moves know the old path; a binary change has no lines. -/
structure Change where
  path : String
  kind : ChangeKind
  oldPath : Option String
  added : Int
  removed : Int
  isBinary : Bool
deriving Repr, DecidableEq, Inhabited

/-- A change before its lines have been counted. -/
def Change.uncounted (path : String) (kind : ChangeKind) (oldPath : Option String) : Change :=
  ⟨path, kind, oldPath, 0, 0, false⟩

/-- **A commit.** -/
structure Commit where
  id : String
  message : String
  author : Person
  committer : Person
  parents : List String
  changes : List Change
deriving Repr, DecidableEq, Inhabited

namespace Commit

-- Sums start at the zero of the core library, whatever other zeros are in scope.
attribute [local instance (high)] Zero.ofOfNat0

/-- Does the commit have several parents? -/
def isMerge (c : Commit) : Bool := 1 < c.parents.length

/-- The lines that all changes add. -/
def added (c : Commit) : Int := (c.changes.map Change.added).sum

/-- The lines that all changes remove. -/
def removed (c : Commit) : Int := (c.changes.map Change.removed).sum

end Commit

/-! ## Tables -/

/-- A person as a table. -/
def Person.toTable (p : Person) : Value :=
  .table [("name", .text p.name), ("email", .text p.email), ("when", .text p.moment.isoText)]

/-- A change as a table. -/
def Change.toTable (c : Change) : Value :=
  .table [("path", .text c.path), ("old_path", (c.oldPath.map Value.text).getD .null),
    ("type", .text c.kind.name), ("lines_added", .int c.added),
    ("lines_removed", .int c.removed), ("binary", .bool c.isBinary)]

/-- The entries of the table of a commit. -/
def Commit.entries (c : Commit) : List (String × Value) :=
  [("id", .text c.id), ("message", .text c.message), ("author", c.author.toTable),
    ("committer", c.committer.toTable), ("parents", .list (c.parents.map .text)),
    ("merge", .bool c.isMerge), ("changes", .list (c.changes.map Change.toTable))]

/-- **A commit as a table.** -/
def Commit.toTable (c : Commit) : Value := .table c.entries

end HistoryMetrics
