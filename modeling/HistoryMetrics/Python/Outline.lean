import HistoryMetrics.Failure
import HistoryMetrics.Python.Parse
import HistoryMetrics.Python.Printer
import HistoryMetrics.Python.Skeleton

/-! # Outlines of Python sources

    The types of a source file are its classes, those inside other classes included; their names
    are qualified by the classes around them.

    - `methodOutline`: a function of a class body
    - `fieldOutlines`: the names that a class binds, and the attributes that its `__init__` gives to
      the receiver
    - `sourceOutline`: the outline of a source text, or the reason why there is none
-/

namespace HistoryMetrics.Python

/-! ## Methods -/

/-- The last name of a dotted name. -/
def lastName : Expr → String
  | .attribute _ _ attr => attr
  | .name _ id => id
  | _ => ""

/-- The name of a decorator, called or not. -/
def decoratorName : Expr → String
  | .call _ callee _ _ => lastName callee
  | e => lastName e

/-- The names of all parameters, those that gather the rest of the arguments last. -/
def Parameters.names : Parameters → List String
  | .mk positionalOnly positional rest keywordOnly _ keywordRest _ =>
    (positionalOnly ++ positional ++ keywordOnly ++ rest.toList ++ keywordRest.toList).map
      Parameter.name

/-- Parameter names without the receiver in front. -/
def withoutReceiver : List String → List String
  | [] => []
  | p :: ps => if isReceiver p then ps else p :: ps

/-- **The outline of a function in a class body.** -/
def methodOutline (s : Span) (name : String) (params : Parameters) (body : List Stmt)
    (decorators : List Expr) : Method :=
  let marks := decorators.map decoratorName
  let isStatic := marks.contains "staticmethod"
  let modifiers := Modifiers.ofList (
    [visibility name] ++
    (if isStatic || marks.contains "classmethod" then [.static] else []) ++
    (if marks.contains "abstractmethod" then [.abstract] else []))
  { name, modifiers
    parameters := if isStatic then params.names else withoutReceiver params.names
    extent := s.extent
    body := bodySkeleton body
    metrics := [] }

/-- The outlines of the functions of a class body. -/
def methodOutlines (body : List Stmt) : List Method :=
  body.filterMap fun
    | .function s _ name params body decorators _ =>
      some (methodOutline s name params body decorators)
    | _ => none

/-! ## Fields -/

/-- **A name bound by an assignment**, with the line of the assignment and its annotation. -/
structure Binding where
  name : String
  line : Nat
  hint : Option Expr

/-- A plain name as a target. -/
def plainTarget? : Expr → Option String
  | .name _ id => some id
  | _ => none

/-- An attribute of the receiver as a target. -/
def receiverTarget? : Expr → Option String
  | .attribute _ (.name _ id) attr => if id == "self" then some attr else none
  | _ => none

/-- The bindings that a statement makes, as far as its targets are of the kind that is asked
    for. -/
def Simple.bindings (target? : Expr → Option String) (line : Nat) : Simple → List Binding
  | .assign targets _ => (targets.filterMap target?).map fun n => ⟨n, line, none⟩
  | .annotated target hint _ =>
    (target? target).toList.map fun n => ⟨n, line, some hint⟩
  | _ => []

/-- The bindings of a class body itself. -/
def classBindings (body : List Stmt) : List Binding :=
  body.flatMap fun
    | .simple s content => content.bindings plainTarget? s.line
    | _ => []

/-- Two lists of levels side by side. -/
def sideBySide {α : Type} : List (List α) → List (List α) → List (List α)
  | [], ys => ys
  | xs, [] => xs
  | x :: xs, y :: ys => (x ++ y) :: sideBySide xs ys

mutual

/-- The attributes of the receiver that a statement binds, by the depth of the assignment. -/
def receiverLevels : Stmt → List (List Binding)
  | .simple s content => [content.bindings receiverTarget? s.line]
  | .ifElse _ _ body orElse =>
    [] :: sideBySide (receiverLevelsAll body) (receiverLevelsAll orElse)
  | .forEach _ _ _ _ body orElse =>
    [] :: sideBySide (receiverLevelsAll body) (receiverLevelsAll orElse)
  | .whileLoop _ _ body orElse =>
    [] :: sideBySide (receiverLevelsAll body) (receiverLevelsAll orElse)
  | .withBlock _ _ _ body => [] :: receiverLevelsAll body
  | .tryBlock _ _ body handlers orElse final =>
    [] :: sideBySide (receiverLevelsAll body) (sideBySide (handlerLevels handlers)
      (sideBySide (receiverLevelsAll orElse) (receiverLevelsAll final)))
  | .switch _ _ cases => [] :: caseLevels cases
  | .function _ _ _ _ body _ _ => [] :: receiverLevelsAll body
  | .classDef _ _ _ _ body _ => [] :: receiverLevelsAll body

/-- The same for statements side by side. -/
def receiverLevelsAll : List Stmt → List (List Binding)
  | [] => []
  | s :: ss => sideBySide (receiverLevels s) (receiverLevelsAll ss)

/-- The same for handlers, which are one level deeper than their `try`. -/
def handlerLevels : List Handler → List (List Binding)
  | [] => []
  | .mk _ _ _ body :: hs => sideBySide ([] :: receiverLevelsAll body) (handlerLevels hs)

/-- The same for the cases of a `match`. -/
def caseLevels : List MatchCase → List (List Binding)
  | [] => []
  | .mk _ _ body :: cs => sideBySide ([] :: receiverLevelsAll body) (caseLevels cs)

end

/-- The attributes that the `__init__` of a class gives to the receiver. -/
def receiverBindings (body : List Stmt) : List Binding :=
  body.flatMap fun
    | .function _ _ name _ inner _ _ =>
      if name == "__init__" then (receiverLevelsAll inner).flatten else []
    | _ => []

/-- The first binding of each name. -/
def firstBindings : (seen : List String) → List Binding → List Binding
  | _, [] => []
  | seen, b :: bs =>
    if seen.contains b.name then firstBindings seen bs
    else b :: firstBindings (b.name :: seen) bs

/-- The bindings that make the fields of a class. -/
def fieldBindings (body : List Stmt) : List Binding :=
  firstBindings [] (classBindings body ++ receiverBindings body)

/-- The text of an annotation, where there is one. It fails if the annotation cannot be written. -/
def annotationText : Option Expr → Option (Option String)
  | none => some none
  | some e => e.text?.map some

/-- The field that a binding makes. -/
def Binding.field? (b : Binding) : Option Field :=
  (annotationText b.hint).map fun t =>
    { name := b.name, modifiers := Modifiers.ofList [visibility b.name], typeName := t,
      line := b.line }

/-- **The fields of a class**: each name at its first binding, those of the class body first. -/
def fieldOutlines (body : List Stmt) : Option (List Field) :=
  (fieldBindings body).mapM Binding.field?

/-! ## Types -/

/-- The classes whose subclasses are enumerations. -/
def enumerationBases : List String := ["Enum", "IntEnum", "StrEnum", "Flag", "IntFlag"]

/-- The kind of type that a class with the given bases is. -/
def archetypeOf (bases : List Expr) : Archetype :=
  if bases.any fun b => enumerationBases.contains (lastName b) then .enumeration
  else .classOrInterface

/-- The modifiers of a class. -/
def classModifiers (name : String) (bases : List Expr) : Modifiers :=
  Modifiers.ofList (visibility name ::
    if bases.any fun b => ["ABC", "Protocol"].contains (lastName b) then [.abstract] else [])

mutual

/-- The types that a statement declares; `outer` stands in front of their names. -/
def typeOutlines (outer : String) : Stmt → Option (List TypeOutline)
  | .classDef s name bases _ body _ => do
    let fields ← fieldOutlines body
    let inner ← typeOutlinesAll (outer ++ name ++ ".") body
    some (
      { name := outer ++ name
        archetype := archetypeOf bases
        modifiers := classModifiers name bases
        extent := s.extent
        methods := methodOutlines body
        fields
        metrics := [] } :: inner)
  | _ => some []

/-- The types that statements declare. -/
def typeOutlinesAll (outer : String) : List Stmt → Option (List TypeOutline)
  | [] => some []
  | s :: ss => do
    let ts ← typeOutlines outer s
    let rest ← typeOutlinesAll outer ss
    some (ts ++ rest)

end

/-! ## Sources -/

/-- **Why a source text has no outline.** -/
inductive SourceError where
  | nullCharacter
  | notInGrammar
  | backslashInField
deriving Repr, DecidableEq

/-- The text of the reason, where it has one. -/
def SourceError.message : SourceError → String
  | .nullCharacter => "source code string cannot contain null bytes"
  | .notInGrammar => ""
  | .backslashInField => "Unable to avoid backslash in f-string expression part"

/-- The reason as a fault. -/
def SourceError.toFault : SourceError → Fault
  | .notInGrammar => .notInGrammar
  | e => .wrongValue e.message

/-- **The outline of a source text.** -/
def sourceOutline (source path : String) : Except SourceError SourceOutline :=
  let text := source.toList
  if text.contains '\x00' then .error .nullCharacter
  else match Module.ofSource text with
    | none => .error .notInGrammar
    | some m =>
      match typeOutlinesAll "" m.body with
      | none => .error .backslashInField
      | some types => .ok { path, language := "python", types }

end HistoryMetrics.Python
