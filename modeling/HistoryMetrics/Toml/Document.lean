import HistoryMetrics.Toml.Literal
import HistoryMetrics.Toml.Table

/-! # Settings files

    A file in the TOML notation is a table. It is written as lines: entries, headers that open a
    table, and headers that add a table to a list.

    - `value`: a value of an entry
    - `Document.ofText`: the table of a file
-/

namespace HistoryMetrics.Toml

/-! ## Values -/

/-- One more entry of a table written on one line; `rest` is the text after its value. -/
def placed (marks : Marks) (path : List String) (v : Value) (rest : List Char) (t : Table) :
    Except TomlError Table :=
  let name := path.getLastD ""
  if marks.isFrozen path then defect (.immutable path) rest
  else if (Table.within false some path.dropLast t).isNone then defect .overwritten rest
  else
    match Table.within false (Table.put name v) path.dropLast t with
    | some t' => .ok t'
    | none => defect (.duplicate name) rest

mutual

/-- **A value**: at most `fuel` steps of nesting and listing. -/
def value : (fuel : Nat) → List Char → Except TomlError (Value × List Char)
  | 0, cs => defect .noValue cs
  | fuel + 1, cs =>
    match cs with
    | '"' :: _ | '\'' :: _ => (string cs).map fun p => (.text p.1, p.2)
    | '[' :: rest => do
      let rest ← skipSpace (rest.length + 1) rest
      match rest with
      | ']' :: after => .ok (.list [], after)
      | _ => (items fuel [] rest).map fun p => (.list p.1, p.2)
    | '\x7b' :: rest =>
      match skipBlanks rest with
      | '\x7d' :: after => .ok (.table [], after)
      | rest => (fields fuel [] .none rest).map fun p => (.table p.1, p.2)
    | _ =>
      if starts "true" cs then .ok (.bool true, cs.drop 4)
      else if starts "false" cs then .ok (.bool false, cs.drop 5)
      else literalValue cs

/-- The items of a list, the last one first, up to its closing bracket. -/
def items : (fuel : Nat) → (acc : List Value) →
    List Char → Except TomlError (List Value × List Char)
  | 0, _, cs => defect .openArray cs
  | fuel + 1, acc, cs => do
    let (v, rest) ← value fuel cs
    let rest ← skipSpace (rest.length + 1) rest
    match rest with
    | ']' :: after => .ok ((v :: acc).reverse, after)
    | ',' :: more =>
      let more ← skipSpace (more.length + 1) more
      match more with
      | ']' :: after => .ok ((v :: acc).reverse, after)
      | _ => items fuel (v :: acc) more
    | _ => defect .openArray rest

/-- The entries of a table written on one line, up to its closing brace. -/
def fields : (fuel : Nat) → Table → Marks →
    List Char → Except TomlError (Table × List Char)
  | 0, _, _, cs => defect .openTable cs
  | fuel + 1, t, marks, cs => do
    let (path, rest) ← key cs
    match rest with
    | '=' :: rest =>
      let (v, rest) ← value fuel (skipBlanks rest)
      let t' ← placed marks path v rest t
      match skipBlanks rest with
      | '\x7d' :: after => .ok (t', after)
      | ',' :: more =>
        fields fuel t' (if isContainer v then marks.freeze path else marks) (skipBlanks more)
      | rest => defect .openTable rest
    | _ => defect .noEqualsSign rest

end

/-! ## Lines -/

/-- **The state of reading a file**: the table so far, the marks, marks that wait for the next
    header, and the path that the last header opened. -/
structure Document where
  table : Table
  marks : Marks
  pending : List (List String)
  header : List String

namespace Document

/-- Before the first line. -/
def empty : Document := ⟨[], .none, [], []⟩

/-- The waiting marks take effect. -/
def settled (d : Document) : Document :=
  { d with marks := d.pending.foldl Marks.declare d.marks, pending := [] }

/-- A change of the table, or the defect that a value stands in its way. -/
def orOverwritten (t : Option Table) (rest : List Char) : Except TomlError Table :=
  match t with
  | some t => .ok t
  | none => defect .overwritten rest

/-- A header that opens a table; `rest` is the text after its path. -/
def openTable (d : Document) (path : List String) (rest : List Char) :
    Except TomlError Document :=
  if d.marks.isDeclared path || d.marks.isFrozen path then defect (.declaredTwice path) rest
  else
    (orOverwritten (Table.within true some path d.table) rest).map fun t =>
      { d with table := t, marks := d.marks.declare path, header := path }

/-- A header that adds a table to a list. -/
def addTable (d : Document) (path : List String) (rest : List Char) : Except TomlError Document :=
  if d.marks.isFrozen path then defect (.immutable path) rest
  else
    let marks := (d.marks.forget path).declare path
    let add := Table.appendTable (path.getLastD "")
    (orOverwritten (Table.within true add path.dropLast d.table) rest).map fun t =>
      { d with table := t, marks := marks, header := path }

/-- The proper beginnings of a path, the shortest first. -/
def beginnings (path : List String) : List (List String) :=
  ((List.range path.length).drop 1).map path.take

/-- An entry. The tables that its dotted name opens can have no header of their own afterwards, and
    must not have had one before. -/
def addEntry (d : Document) (path : List String) (v : Value) (rest : List Char) :
    Except TomlError Document :=
  let opened := (beginnings path).map fun p => d.header ++ p
  let parent := d.header ++ path.dropLast
  match opened.find? d.marks.isDeclared with
  | some p => defect (.redefined p) rest
  | none =>
    if d.marks.isFrozen parent then defect (.immutable parent) rest
    else
      let put := Table.put (path.getLastD "") v
      (orOverwritten (Table.within true put parent d.table) rest).map fun t =>
        { d with
          table := t
          marks := if isContainer v then d.marks.freeze (d.header ++ path) else d.marks
          pending := d.pending ++ opened }

/-- One statement, at a character that is no blank. -/
def statement (d : Document) (cs : List Char) :
    Except TomlError (Document × List Char) :=
  match cs with
  | '[' :: '[' :: rest => do
    let (path, rest) ← key (skipBlanks rest)
    let d' ← d.settled.addTable path rest
    match rest with
    | ']' :: ']' :: after => .ok (d', after)
    | _ => defect .noListEnd rest
  | '[' :: rest => do
    let (path, rest) ← key (skipBlanks rest)
    let d' ← d.settled.openTable path rest
    match rest with
    | ']' :: after => .ok (d', after)
    | _ => defect .noTableEnd rest
  | c :: _ =>
    if startsKey c then do
      let (path, rest) ← key cs
      match rest with
      | '=' :: rest =>
        let rest := skipBlanks rest
        let (v, after) ← value (2 * rest.length + 2) rest
        let d' ← d.addEntry path v after
        .ok (d', after)
      | _ => defect .noEqualsSign rest
    else if c == '#' then .ok (d, cs)
    else defect .noStatement cs
  | [] => .ok (d, [])

/-- All lines of a file. -/
def lines : (fuel : Nat) → Document → List Char → Except TomlError Document
  | 0, _, cs => defect .noStatement cs
  | fuel + 1, d, cs =>
    match skipBlanks cs with
    | [] => .ok d
    | '\n' :: rest => lines fuel d rest
    | rest => do
      let (d, rest) ← d.statement rest
      let rest ← skipComment (skipBlanks rest)
      match rest with
      | [] => .ok d
      | '\n' :: rest => lines fuel d rest
      | _ => defect .noLineEnd rest

/-- A carriage return before a line feed belongs to the line end. -/
def lineFeeds : List Char → List Char
  | [] => []
  | '\r' :: '\n' :: rest => '\n' :: lineFeeds rest
  | c :: rest => c :: lineFeeds rest

/-- **The table of a file**, whose line ends are line feeds. -/
def ofLines (cs : List Char) : Except TomlError Table :=
  (lines (cs.length + 1) empty cs).map Document.table

end Document

end HistoryMetrics.Toml
