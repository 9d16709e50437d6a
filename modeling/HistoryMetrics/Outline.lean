import HistoryMetrics.Modifier
import HistoryMetrics.Value

/-! # Outlines of source files

    What the measures need of a source file, in no particular language: its types with their methods
    and fields, and for each method a tree of statements reduced to their kinds, their lines and the
    variables they name.

    - `Statement`: a tree; `Statement.walk` lists it in the order of the source
    - `Method`, `Field`, `TypeOutline`, `SourceOutline`
    - `Metrics`: the values stored so far, by name, in the order in which they were first stored
-/

namespace HistoryMetrics

/-! ## Statements -/

/-- **The kinds of statements**, among them the decision points inside expressions: conditional
    expressions and the operators of connectives. -/
inductive StatementKind where
  | ifThen
  | elseIf
  | forLoop
  | forEach
  | whileLoop
  | doLoop
  | switch
  | case
  | tryBlock
  | handler
  | conditional
  | booleanOp
  | withBlock
  | block
  | simple
deriving Repr, DecidableEq, Inhabited

namespace StatementKind

/-- All kinds. -/
def all : List StatementKind :=
  [.ifThen, .elseIf, .forLoop, .forEach, .whileLoop, .doLoop, .switch, .case, .tryBlock, .handler,
   .conditional, .booleanOp, .withBlock, .block, .simple]

/-- The name of a kind in reports. -/
def name : StatementKind → String
  | .ifThen => "IF"
  | .elseIf => "ELSE_IF"
  | .forLoop => "FOR"
  | .forEach => "FOREACH"
  | .whileLoop => "WHILE"
  | .doLoop => "DO"
  | .switch => "SWITCH"
  | .case => "CASE"
  | .tryBlock => "TRY"
  | .handler => "CATCH"
  | .conditional => "CONDITIONAL"
  | .booleanOp => "BOOLEAN_OP"
  | .withBlock => "WITH"
  | .block => "BLOCK"
  | .simple => "SIMPLE"

/-- The kind with the given name. -/
def ofName? (s : String) : Option StatementKind := all.find? fun k => k.name == s

end StatementKind

/-- The first and the last line of something. -/
structure Extent where
  start : Int
  stop : Int
deriving Repr, DecidableEq, Inhabited

/-- **A statement** with the variables it names itself and the statements inside it. -/
inductive Statement where
  | mk (kind : StatementKind) (extent : Extent) (names : List String)
      (children : List Statement)

namespace Statement

instance : Inhabited Statement := ⟨.mk .simple default [] []⟩

/-- Its kind. -/
def kind : Statement → StatementKind
  | .mk k _ _ _ => k

/-- Its lines. -/
def extent : Statement → Extent
  | .mk _ e _ _ => e

/-- The variables it names itself. -/
def names : Statement → List String
  | .mk _ _ vs _ => vs

/-- The statements inside it. -/
def children : Statement → List Statement
  | .mk _ _ _ cs => cs

mutual

/-- The statement and all those inside it, each before those inside it. -/
def walk : Statement → List Statement
  | .mk k e vs cs => .mk k e vs cs :: walkAll cs

/-- Statements and all those inside them. -/
def walkAll : List Statement → List Statement
  | [] => []
  | s :: ss => walk s ++ walkAll ss

end

@[simp] theorem walkAll_nil : walkAll [] = [] := rfl

@[simp] theorem walkAll_cons (s : Statement) (ss : List Statement) :
    walkAll (s :: ss) = s.walk ++ walkAll ss := rfl

@[simp] theorem walkAll_append (ss ts : List Statement) :
    walkAll (ss ++ ts) = walkAll ss ++ walkAll ts := by
  induction ss with
  | nil => rfl
  | cons s ss ih => simp [ih]

/-- A statement comes before all those inside it. -/
theorem walk_eq (s : Statement) : s.walk = s :: walkAll s.children := by
  cases s
  rfl

end Statement

/-! ## Members and types -/

/-- **Stored metric values** by name, in the order in which the names were first stored. -/
abbrev Metrics : Type := List (String × Value)

namespace Metrics

/-- The value stored under a name. -/
def get? (m : Metrics) (name : String) : Option Value := m.lookup name

/-- Is a value stored under the name? -/
def has (m : Metrics) (name : String) : Bool := m.any fun e => e.1 == name

/-- Stores a value under a name; a value stored before is replaced in its place. -/
def set : Metrics → String → Value → Metrics
  | [], name, v => [(name, v)]
  | e :: rest, name, v => if e.1 == name then (name, v) :: rest else e :: set rest name v

/-- Removes the value stored under a name. -/
def erase (m : Metrics) (name : String) : Metrics := m.filter fun e => e.1 != name

@[simp] theorem get?_set_self (m : Metrics) (name : String) (v : Value) :
    (m.set name v).get? name = some v := by
  induction m with
  | nil => simp [set, get?]
  | cons e rest ih =>
    obtain ⟨key, old⟩ := e
    by_cases h : key = name
    · simp [set, get?, h]
    · have hb : (name == key) = false := by simpa using Ne.symm h
      simpa [set, get?, List.lookup_cons, h, hb] using ih

theorem get?_set_of_ne (m : Metrics) {name other : String} (v : Value) (h : other ≠ name) :
    (m.set name v).get? other = m.get? other := by
  induction m with
  | nil =>
    have hb : (other == name) = false := by simpa using h
    simp [set, get?, List.lookup_cons, hb]
  | cons e rest ih =>
    obtain ⟨key, old⟩ := e
    by_cases he : key = name
    · have hb : (other == name) = false := by simpa using h
      simp [set, get?, List.lookup_cons, he, hb]
    · simp only [get?] at ih ⊢
      simp [set, he, List.lookup_cons, ih]

/-- A value is stored under a name just when one is found there. -/
theorem has_iff (m : Metrics) (name : String) : m.has name = true ↔ ∃ v, m.get? name = some v := by
  induction m with
  | nil => simp [has, get?]
  | cons e rest ih =>
    obtain ⟨key, stored⟩ := e
    by_cases h : key = name
    · simp [has, get?, h]
    · have hb : (name == key) = false := by simpa using Ne.symm h
      simpa [has, get?, List.lookup_cons, h, hb] using ih

end Metrics

/-- A field of a type. -/
structure Field where
  name : String
  modifiers : Modifiers
  typeName : Option String
  line : Int
deriving Inhabited

/-- A method of a type. -/
structure Method where
  name : String
  modifiers : Modifiers
  parameters : List String
  extent : Extent
  body : List Statement
  metrics : Metrics
deriving Inhabited

/-- All statements of a method. -/
def Method.statements (m : Method) : List Statement := Statement.walkAll m.body

/-- The kinds of types. -/
inductive Archetype where
  | classOrInterface
  | enumeration
  | marker
deriving Repr, DecidableEq, Inhabited

namespace Archetype

/-- The name of a kind of types in reports. -/
def name : Archetype → String
  | .classOrInterface => "CLASS_OR_INTERFACE"
  | .enumeration => "ENUM"
  | .marker => "ANNOTATION"

/-- The kind of types with the given name. -/
def ofName? (s : String) : Option Archetype :=
  [Archetype.classOrInterface, .enumeration, .marker].find? fun a => a.name == s

end Archetype

/-- A type with its members. -/
structure TypeOutline where
  name : String
  archetype : Archetype
  modifiers : Modifiers
  extent : Extent
  methods : List Method
  fields : List Field
  metrics : Metrics
deriving Inhabited

/-- **The outline of a source file.** -/
structure SourceOutline where
  path : String
  language : String
  types : List TypeOutline
deriving Inhabited

end HistoryMetrics
