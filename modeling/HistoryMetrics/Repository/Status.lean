import HistoryMetrics.Repository.Commit
import HistoryMetrics.Text.Blank
import HistoryMetrics.Text.Lines

/-! # Lists of changed paths

    A list of changed paths is a text of pieces between null characters: a status and a path, or
    for moves and copies a status, the old path and the new one. The first letter of the status
    tells the kind of change. Blank pieces where a status should stand are passed over; a list that
    ends before the paths of its last status is cut off.

    - `StatusList.ofText`: the entries of a list, and whether it is cut off
    - `StatusList.changes`: its changes; entries with other letters make none
-/

namespace HistoryMetrics

/-- **An entry of a list of changed paths**: a change, or a status that is not known. -/
inductive StatusEntry where
  | change (c : Change)
  | unknown (status path : String)
deriving Repr, DecidableEq

/-- A list of changed paths as far as it could be read. -/
structure StatusList where
  entries : List StatusEntry
  isCutOff : Bool
deriving Repr, DecidableEq

namespace StatusList

/-- The kind of change that a status letter stands for. A change of type counts as a
    modification. -/
def kindOfLetter : Char → Option ChangeKind
  | 'A' => some .add
  | 'D' => some .delete
  | 'M' => some .modify
  | 'T' => some .modify
  | 'R' => some .move
  | 'C' => some .copy
  | _ => none

/-- Do entries of this kind name two paths? -/
def hasTwoPaths : Option ChangeKind → Bool
  | some .move | some .copy => true
  | _ => false

/-- An entry with one path. -/
def entry (kind : Option ChangeKind) (status path : List Char) : StatusEntry :=
  match kind with
  | some k => .change (.uncounted (String.ofList path) k none)
  | none => .unknown (String.ofList status) (String.ofList path)

/-- An entry with two paths. -/
def pairEntry (kind : ChangeKind) (old new : List Char) : StatusEntry :=
  .change (.uncounted (String.ofList new) kind (some (String.ofList old)))

/-- The list with one more entry in front. -/
def cons (e : StatusEntry) (l : StatusList) : StatusList := { l with entries := e :: l.entries }

/-- The list that says nothing but that it is cut off. -/
def cutOff : StatusList := ⟨[], true⟩

/-- Reads the pieces of a list. -/
def ofPieces : List (List Char) → StatusList
  | [] => ⟨[], false⟩
  | piece :: rest =>
    match Text.strip piece with
    | [] => ofPieces rest
    | letter :: more =>
      match kindOfLetter letter, rest with
      | _, [] => cutOff
      | some .move, [_] => cutOff
      | some .copy, [_] => cutOff
      | some .move, old :: new :: rest' => cons (pairEntry .move old new) (ofPieces rest')
      | some .copy, old :: new :: rest' => cons (pairEntry .copy old new) (ofPieces rest')
      | kind, path :: rest' => cons (entry kind (letter :: more) path) (ofPieces rest')

/-- **Reads a list of changed paths.** -/
def ofText (text : String) : StatusList := ofPieces (Text.splitOn '\x00' text.toList)

/-- The change that an entry makes. -/
def change? : StatusEntry → Option Change
  | .change c => some c
  | .unknown .. => none

/-- **The changes of a list**, in its order. -/
def changes (l : StatusList) : List Change := l.entries.filterMap change?

/-- The statuses that are not known, with their paths. -/
def unknowns (l : StatusList) : List (String × String) :=
  l.entries.filterMap fun
    | .change _ => none
    | .unknown status path => some (status, path)

end StatusList

end HistoryMetrics
