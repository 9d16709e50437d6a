import HistoryMetrics.Failure
import HistoryMetrics.Text.Lines

/-! # Branches and tags

    - `Reference.ofPath`: a reference is known by its path and has a short name, the last part of it
    - `Reference.list`: the references that a listing names, one on each line
    - `selectReference`: the reference that a user means by a name
-/

namespace HistoryMetrics

/-- The two kinds of references. -/
inductive ReferenceKind where
  | branch
  | tag
deriving Repr, DecidableEq, Inhabited

namespace ReferenceKind

/-- The name of a kind in reports. -/
def name : ReferenceKind → String
  | .branch => "BRANCH"
  | .tag => "TAG"

/-- The kind with the given name. -/
def ofName? (s : String) : Option ReferenceKind :=
  [ReferenceKind.branch, .tag].find? fun k => k.name == s

end ReferenceKind

/-- **A branch or a tag**, with the commit that it leads to when that is known. -/
structure Reference where
  name : String
  path : String
  kind : ReferenceKind
  target : Option String
deriving Repr, DecidableEq, Inhabited

namespace Reference

/-- The reference with the given path; its name is the text after the last slash. -/
def ofPath (path : String) (kind : ReferenceKind) (target : Option String) : Reference :=
  ⟨String.ofList (Text.afterLast '/' path.toList), path, kind, target⟩

/-- A reference as a table. -/
def toTable (r : Reference) : Value :=
  .table [("name", .text r.name), ("path", .text r.path), ("type", .text r.kind.name),
    ("target", Problem.optionalText r.target)]

/-! ## Listings -/

/-- Is this the symbolic name of the current commit? -/
def isHead (path : String) : Bool := path == "HEAD" || path.endsWith "/HEAD"

/-- The kind of the reference with the given path. -/
def kindOfPath (path : String) : ReferenceKind :=
  if path.startsWith "refs/tags/" then .tag else .branch

/-- **One line of a listing**: path, object and the object that a tag leads to, between null
    characters. What is missing is empty; an empty last part gives way to the one before. -/
def ofLine? (line : List Char) : Option Reference :=
  if line.isEmpty then none
  else
    let parts := Text.splitOn '\x00' line
    let path := String.ofList (parts[0]?.getD [])
    let object := String.ofList (parts[1]?.getD [])
    let peeled := String.ofList (parts[2]?.getD [])
    if isHead path then none
    else some (ofPath path (kindOfPath path) (some (if peeled.isEmpty then object else peeled)))

/-- **The references of a listing**, in its order, without symbolic names. -/
def list (text : String) : List Reference := (Text.lines text.toList).filterMap ofLine?

end Reference

/-! ## Selection -/

/-- Paths in ascending order. -/
def sortedPaths (paths : List String) : List String := paths.mergeSort fun a b => decide (a ≤ b)

/-- The paths that a name may stand for. -/
def qualifiedPaths (name : String) : List String :=
  [name, "refs/heads/" ++ name, "refs/tags/" ++ name]

/-- The only one of some candidates, or nothing when there are none. -/
def onlyOne (name : String) : List Reference → Except Problem (Option Reference)
  | [] => .ok none
  | [r] => .ok (some r)
  | rs => .error (.ambiguousReference name (sortedPaths (rs.map Reference.path)))

/-- **The reference that a name means**: one whose path it is, perhaps without the folder of
    branches or tags in front; else one whose short name it is. -/
def selectReference (rs : List Reference) (name : String) : Except Problem (Option Reference) :=
  match onlyOne name (rs.filter fun r => (qualifiedPaths name).contains r.path) with
  | .ok none => onlyOne name (rs.filter fun r => r.name == name)
  | decided => decided

end HistoryMetrics
