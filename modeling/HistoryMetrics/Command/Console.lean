import HistoryMetrics.Failure
import HistoryMetrics.Text.Lines

/-! # The console

    What commands show: lines and tables, with markup in brackets. Only the first lines of commit
    messages are escaped, so that nothing in them counts as markup; paths, names and the messages of
    problems are shown as they are. So the console may find markup in them that it cannot make sense of,
    and show nothing.

    - `Console.Item`: a line or a table
    - `Console.Renderer`: what the console makes of items
    - `Console.escape`: protects a text
-/

namespace HistoryMetrics.Console

/-- Where the cells of a column stand. -/
inductive Alignment where
  | left
  | right
deriving Repr, DecidableEq, Inhabited

/-- The name of an alignment. -/
def Alignment.name : Alignment → String
  | .left => "left"
  | .right => "right"

/-- **A column**: its header, its style (empty for none), and where its cells stand. -/
structure Column where
  header : String
  style : String
  alignment : Alignment
deriving Repr, DecidableEq, Inhabited

/-- A column without a style. -/
def Column.plain (header : String) : Column := ⟨header, "", .left⟩

/-- A column with a style. -/
def Column.styled (header style : String) : Column := ⟨header, style, .left⟩

/-- A column of numbers. -/
def Column.number (header style : String) : Column := ⟨header, style, .right⟩

/-- **A table.** -/
structure Table where
  title : String
  columns : List Column
  rows : List (List String)
deriving Repr, DecidableEq, Inhabited

/-- **What is shown at once.** -/
inductive Item where
  | line (text : String)
  | table (t : Table)
deriving Repr, DecidableEq, Inhabited

/-- **What the console makes of items**: nothing goes wrong, or it tells what. -/
abbrev Renderer : Type := Item → Option Fault

/-- The console that shows everything. -/
def Renderer.all : Renderer := fun _ => none

/-! ## Markup -/

/-- Can markup begin with this character, after its bracket? -/
def startsMarkup (c : Char) : Bool :=
  ('a' ≤ c && c ≤ 'z') || c == '#' || c == '/' || c == '@'

/-- The rest of markup up to its closing bracket, and what follows: no bracket opens in between. -/
def upToClosing : List Char → Option (List Char × List Char)
  | [] => none
  | ']' :: rest => some ([']'], rest)
  | '[' :: _ => none
  | c :: rest => (upToClosing rest).map fun (inside, after) => (c :: inside, after)

/-- Markup at the start of a text, and what follows. -/
def markup? : List Char → Option (List Char × List Char)
  | '[' :: c :: rest =>
    if startsMarkup c then
      (upToClosing rest).map fun (inside, after) => ('[' :: c :: inside, after)
    else none
  | _ => none

/-- So many backslashes. -/
def backslashes (n : Nat) : List Char := List.replicate n '\\'

/-- Protects markup by a backslash in front; backslashes right before it are doubled. `pending` of
    them have been passed, and `fuel` is at least the length of the text. -/
def protect : (fuel pending : Nat) → List Char → List Char
  | 0, pending, cs => backslashes pending ++ cs
  | _ + 1, pending, [] => backslashes pending
  | fuel + 1, pending, c :: rest =>
    if c == '\\' then protect fuel (pending + 1) rest
    else
      match markup? (c :: rest) with
      | some (inside, after) =>
        backslashes (2 * pending + 1) ++ inside ++ protect fuel 0 after
      | none => backslashes pending ++ c :: protect fuel 0 rest

/-- A single backslash at the end is doubled. -/
def closed (cs : List Char) : List Char :=
  match cs.reverse with
  | '\\' :: '\\' :: _ => cs
  | '\\' :: _ => cs ++ ['\\']
  | _ => cs

/-- **The text without anything that counts as markup.** -/
def escape (s : String) : String :=
  String.ofList (closed (protect (s.length + 1) 0 s.toList))

end HistoryMetrics.Console
