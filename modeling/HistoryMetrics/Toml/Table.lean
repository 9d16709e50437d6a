import HistoryMetrics.Value

/-! # Tables of settings files

    A table keeps its entries in the order in which they were written. A path of names leads
    through tables inside tables; where it meets a list of tables it goes on in the last of them.

    - `Table.within`: changes the table at the end of a path, opening the tables on the way
    - `Table.put`: one more entry, unless its name is taken
    - `Table.appendTable`: one more table at the end of a list of tables
-/

namespace HistoryMetrics.Toml

/-- **A table**: its entries in order. -/
abbrev Table : Type := List (String × Value)

namespace Table

/-- Replaces the entry of a name in its place, or adds one at the end. -/
def set (name : String) (v : Value) : Table → Table
  | [] => [(name, v)]
  | e :: rest => if e.1 == name then (name, v) :: rest else e :: set name v rest

/-- Changes the last of some values. -/
def changeLast (f : Value → Option Value) : List Value → Option (List Value)
  | [] => none
  | [v] => (f v).map fun w => [w]
  | v :: w :: vs => (changeLast f (w :: vs)).map fun ws => v :: ws

/-- Changes a value that is a table. -/
def asTable (f : Table → Option Table) : Value → Option Value
  | .table t => (f t).map .table
  | _ => none

/-- **Changes the table at the end of a path.** Names without an entry get an empty table; a path
    cannot lead through other values. `intoLists` tells whether it may lead through lists. -/
def within (intoLists : Bool) (f : Table → Option Table) : List String → Table → Option Table
  | [], t => f t
  | name :: path, t =>
    let inside := within intoLists f path
    match t.lookup name with
    | none => (inside []).map fun u => set name (.table u) t
    | some (.table u) => (inside u).map fun u' => set name (.table u') t
    | some (.list vs) =>
      if intoLists then (changeLast (asTable inside) vs).map fun vs' => set name (.list vs') t
      else none
    | some _ => none

/-- One more entry, unless its name is taken. -/
def put (name : String) (v : Value) (t : Table) : Option Table :=
  match t.lookup name with
  | none => some (t ++ [(name, v)])
  | some _ => none

/-- One more empty table at the end of the list of the given name, which may be new. -/
def appendTable (name : String) (t : Table) : Option Table :=
  match t.lookup name with
  | none => some (t ++ [(name, .list [.table []])])
  | some (.list vs) => some (set name (.list (vs ++ [.table []])) t)
  | some _ => none

end Table

/-! ## What may still be changed -/

/-- **Marks on paths**: tables that must not be declared again, and values that must not be changed
    any more, nor anything inside them. -/
structure Marks where
  declared : List (List String)
  frozen : List (List String)

namespace Marks

/-- No marks. -/
def none : Marks := ⟨[], []⟩

/-- Must the table at the path not be declared again? -/
def isDeclared (m : Marks) (path : List String) : Bool := m.declared.contains path

/-- Is the value at the path, or one around it, frozen? -/
def isFrozen (m : Marks) (path : List String) : Bool := m.frozen.any fun p => p.isPrefixOf path

/-- Marks a table as declared. -/
def declare (m : Marks) (path : List String) : Marks := { m with declared := path :: m.declared }

/-- Marks a value as frozen. -/
def freeze (m : Marks) (path : List String) : Marks := { m with frozen := path :: m.frozen }

/-- Forgets the marks of a path and of all paths inside it. -/
def forget (m : Marks) (path : List String) : Marks :=
  ⟨m.declared.filter fun p => !path.isPrefixOf p, m.frozen.filter fun p => !path.isPrefixOf p⟩

end Marks

/-- Is the value a list or a table? -/
def isContainer : Value → Bool
  | .list _ | .table _ => true
  | _ => false

end HistoryMetrics.Toml
