import HistoryMetrics.Text.Lines
import HistoryMetrics.Text.Utf8

/-! # Patches

    A patch is a text of file sections. A section starts with a line `diff --git`; its hunks start
    with a line `@@`; only lines of hunks add or remove content, whatever follows their sign. Two readers
    go over a patch, each line by line: one counts the lines, and the other adds up their bytes.

    - `Patch.countLines`, `Patch.added`, `Patch.removed`: the lines that a patch adds and removes
    - `Patch.measure`, `Patch.contentSize`: the bytes of those lines
    - `Patch.isBinary`: does a patch stand for contents that are no text?
-/

namespace HistoryMetrics.Patch

/-- Does the line start a file section? -/
def startsFile (line : List Char) : Bool := "diff --git ".toList.isPrefixOf line

/-- Does the line start a hunk? -/
def startsHunk (line : List Char) : Bool := "@@".toList.isPrefixOf line

/-- Counts the lines that are added and removed; `inHunk` tells whether they continue a hunk. -/
def countLines : (inHunk : Bool) → (added removed : Nat) → List (List Char) → Nat × Nat
  | _, added, removed, [] => (added, removed)
  | inHunk, added, removed, line :: rest =>
    if startsFile line then countLines false added removed rest
    else if startsHunk line then countLines true added removed rest
    else if !inHunk then countLines inHunk added removed rest
    else if line.head? = some '+' then countLines inHunk (added + 1) removed rest
    else if line.head? = some '-' then countLines inHunk added (removed + 1) rest
    else countLines inHunk added removed rest

/-- The numbers of lines that a patch adds and removes. -/
def churn (patch : String) : Nat × Nat := countLines false 0 0 (Text.lines patch.toList)

/-- **The number of lines that a patch adds.** -/
def added (patch : String) : Nat := (churn patch).1

/-- **The number of lines that a patch removes.** -/
def removed (patch : String) : Nat := (churn patch).2

/-- Adds up the bytes of the lines that are added and removed, each with its end. -/
def measure : (inHunk : Bool) → (size : Nat) → List (List Char) → Nat
  | _, size, [] => size
  | inHunk, size, line :: rest =>
    if startsFile line then measure false size rest
    else if startsHunk line then measure true size rest
    else if inHunk ∧ line.head? ∈ [some '+', some '-'] then
      measure inHunk (size + (Text.byteLength line.tail + 1)) rest
    else measure inHunk size rest

/-- **The bytes that a patch adds and removes.** -/
def contentSize (patch : String) : Nat := measure false 0 (Text.lines patch.toList)

/-- Does the line stand for contents that are no text? -/
def isBinaryLine (line : List Char) : Bool :=
  "Binary files ".toList.isPrefixOf line || line == "GIT binary patch".toList

/-- **Does a patch stand for contents that are no text?** -/
def isBinary (patch : String) : Bool := (Text.lines patch.toList).any isBinaryLine

end HistoryMetrics.Patch
