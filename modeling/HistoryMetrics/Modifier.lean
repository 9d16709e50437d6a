import HistoryMetrics.Text.Blank
import HistoryMetrics.Unicode.Upper

/-! # Member modifiers

    A closed set of modifiers, and one more that stands for every keyword outside it. A set of
    modifiers is written in the order of declaration, whatever the order of its keywords.

    - `Modifiers.parse`: the set that a list of keywords names
    - `Modifiers.names`: the names of its members
    - `Modifiers.isProtectedLike`: protected, or without any visibility of its own
-/

namespace HistoryMetrics

/-- **A modifier.** -/
inductive Modifier where
  | publicAccess
  | privateAccess
  | protectedAccess
  | static
  | final
  | abstract
  | synchronized
  | native
  | transient
  | volatile
  | byDefault
  | other
deriving Repr, DecidableEq, Inhabited

namespace Modifier

/-- All modifiers in the order of declaration. -/
def all : List Modifier :=
  [.publicAccess, .privateAccess, .protectedAccess, .static, .final, .abstract, .synchronized, .native, .transient,
   .volatile, .byDefault, .other]

/-- The name of a modifier. -/
def name : Modifier → String
  | .publicAccess => "public"
  | .privateAccess => "private"
  | .protectedAccess => "protected"
  | .static => "static"
  | .final => "final"
  | .abstract => "abstract"
  | .synchronized => "synchronized"
  | .native => "native"
  | .transient => "transient"
  | .volatile => "volatile"
  | .byDefault => "default"
  | .other => "other"

/-- The modifier that a keyword names, in any case and with white space around it. -/
def ofKeyword (keyword : String) : Modifier :=
  let word := Unicode.upper (Text.strip keyword.toList)
  (all.find? fun m => word == Unicode.upper m.name.toList).getD .other

end Modifier

/-- **A set of modifiers.** -/
structure Modifiers where
  has : Modifier → Bool

namespace Modifiers

/-- No modifiers. -/
def none : Modifiers := ⟨fun _ => false⟩

instance : Inhabited Modifiers := ⟨none⟩

/-- The set with one more member. -/
def insert (s : Modifiers) (m : Modifier) : Modifiers :=
  ⟨fun n => n == m || s.has n⟩

/-- The set of the given members. -/
def ofList (ms : List Modifier) : Modifiers := ms.foldl insert none

/-- The set that keywords name. -/
def parse (keywords : List String) : Modifiers := ofList (keywords.map Modifier.ofKeyword)

/-- The names of the members in the order of declaration. -/
def names (s : Modifiers) : List String := (Modifier.all.filter s.has).map Modifier.name

/-- Protected, or with no visibility at all, which counts as protected. -/
def isProtectedLike (s : Modifiers) : Bool :=
  s.has .protectedAccess || (!s.has .publicAccess && !s.has .privateAccess)

end Modifiers

/-- The visibility that a name announces: two low lines in front make a member private, unless two
    more stand behind; one makes it protected. -/
def visibility (name : String) : Modifier :=
  if name.startsWith "__" && name.endsWith "__" then .publicAccess
  else if name.startsWith "__" then .privateAccess
  else if name.startsWith "_" then .protectedAccess
  else .publicAccess

end HistoryMetrics
