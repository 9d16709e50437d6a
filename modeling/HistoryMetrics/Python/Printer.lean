import HistoryMetrics.Python.Tree
import HistoryMetrics.Number.Shortest
import HistoryMetrics.Text.Quoted

/-! # Expressions as source text

    The text of an expression in one fixed layout: one space around operators and after commas, and
    parentheses only where the binding strength of an operator asks for them.

    - `Strength`: how tightly the constructs bind
    - `literalBody`: a text literal with as few escapes as its quotes allow
    - `Expr.text?`: the text of an expression. It fails where a replacement field of a formatted
      literal cannot be written without a backslash.
-/

namespace HistoryMetrics.Python

/-! ## Binding strength -/

/-- **How tightly a construct binds**, from loosest to tightest. -/
abbrev Strength : Type := Nat

namespace Strength

/-- A named expression. -/
def naming : Strength := 1
/-- A tuple without parentheses. -/
def tuple : Strength := 2
/-- `yield`. -/
def yields : Strength := 3
/-- A conditional expression or a lambda. -/
def test : Strength := 4
/-- `or`. -/
def either : Strength := 5
/-- `and`. -/
def both : Strength := 6
/-- `not`. -/
def inversion : Strength := 7
/-- A comparison. -/
def comparison : Strength := 8
/-- An operand of a comparison; also the operator for "or" by bits. -/
def operand : Strength := 9
/-- A sign in front. -/
def factor : Strength := 15
/-- A power. -/
def power : Strength := 16
/-- `await`. -/
def awaits : Strength := 17
/-- What stands for itself. -/
def atom : Strength := 18

/-- The next tighter strength. -/
def next (s : Strength) : Strength := if s < atom then s + 1 else atom

end Strength

/-- The text between parentheses where the place binds tighter than the construct. -/
def grouped (place construct : Strength) (s : String) : String :=
  if construct < place then "(" ++ s ++ ")" else s

/-- The sign of an operator before its operand. -/
def UnaryOp.text : UnaryOp → String
  | .invert => "~"
  | .negate => "not "
  | .plus => "+"
  | .minus => "-"

/-- How tightly an operator before its operand binds. -/
def UnaryOp.strength : UnaryOp → Strength
  | .negate => Strength.inversion
  | _ => Strength.factor

/-- The sign of an operator between two operands. -/
def BinaryOp.text : BinaryOp → String
  | .add => "+"
  | .sub => "-"
  | .mult => "*"
  | .matMult => "@"
  | .div => "/"
  | .mod => "%"
  | .pow => "**"
  | .shiftLeft => "<<"
  | .shiftRight => ">>"
  | .bitOr => "|"
  | .bitXor => "^"
  | .bitAnd => "&"
  | .floorDiv => "//"

/-- How tightly an operator between two operands binds. -/
def BinaryOp.strength : BinaryOp → Strength
  | .bitOr => 9
  | .bitXor => 10
  | .bitAnd => 11
  | .shiftLeft | .shiftRight => 12
  | .add | .sub => 13
  | .mult | .matMult | .div | .mod | .floorDiv => 14
  | .pow => Strength.power

/-- The sign of a comparison. -/
def CompareOp.text : CompareOp → String
  | .equal => "=="
  | .notEqual => "!="
  | .less => "<"
  | .lessEqual => "<="
  | .greater => ">"
  | .greaterEqual => ">="
  | .same => "is"
  | .notSame => "is not"
  | .member => "in"
  | .notMember => "not in"

/-- The word of a connective. -/
def BoolOp.text : BoolOp → String
  | .both => " and "
  | .either => " or "

/-- How tightly a connective binds. -/
def BoolOp.strength : BoolOp → Strength
  | .both => Strength.both
  | .either => Strength.either

/-- The letter of a conversion. -/
def Conversion.mark : Conversion → String
  | .text => "!s"
  | .quoted => "!r"
  | .ascii => "!a"

/-! ## Text literals -/

/-- Does the word occur in the text? -/
def occursIn (word : List Char) : List Char → Bool
  | [] => word.isEmpty
  | c :: cs => word.isPrefixOf (c :: cs) || occursIn word cs

/-- The single quotes, as they are preferred. -/
def singleQuotes : List (List Char) := [['\''], ['"']]

/-- The triple quotes, as they are preferred. -/
def tripleQuotes : List (List Char) := [['"', '"', '"'], ['\'', '\'', '\'']]

/-- All quotes, as they are preferred. -/
def allQuotes : List (List Char) := singleQuotes ++ tripleQuotes

/-- A code point with an escape if it needs one; white space that can stand in a triple literal
    needs one only on request. -/
def literalCode (escapesSpace : Bool) (code : Nat) : List Char :=
  if code == 0x0A then if escapesSpace then ['\\', 'n'] else ['\n']
  else if code == 0x09 then if escapesSpace then ['\\', 't'] else ['\t']
  else if code == 0x0D then ['\\', 'r']
  else if code == 0x5C then ['\\', '\\']
  else if Text.isPrintableCode code then [Char.ofNat code]
  else Text.numericEscape code

/-- The text without the quotes that it stands between. -/
def withoutQuotes (s : String) : List Char := (s.toList.drop 1).dropLast

/-- **The body of a text literal** and the quotes that may stand around it, best first. If none of
    the given quotes can stand around it, quotes inside are escaped. -/
def literalBody (quotes : List (List Char)) (escapesSpace : Bool) (codes : List Nat) :
    List Char × List (List Char) :=
  let body := codes.flatMap (literalCode escapesSpace)
  let fitting := quotes.filter fun q =>
    (!body.contains '\n' || tripleQuotes.contains q) && !occursIn q body
  match fitting, body.getLast? with
  | [], _ =>
    let q := Text.quoteFor codes
    (withoutQuotes (Text.quoteCodes codes), [(quotes.find? fun p => p.contains q).getD [q]])
  | _, none => (body, fitting)
  | _, some last =>
    let ordered := (fitting.filter fun q => q.head? != some last) ++
      fitting.filter fun q => q.head? == some last
    match ordered with
    | q :: _ => (if q.head? == some last then body.dropLast ++ ['\\', last] else body, ordered)
    | [] => (body, ordered)

/-- A text literal that avoids backslashes as far as it can. -/
def plainLiteral (codes : List Nat) : String :=
  let (body, quotes) := literalBody allQuotes false codes
  let q := quotes.head?.getD []
  String.ofList (q ++ body ++ q)

/-- The parts of a formatted literal between quotes that suit them all, or between triple single
    quotes when no quotes do. A part knows whether it is literal text. -/
def formattedParts : List (List Char) → List (List Nat × Bool) → Option (List Char × List Char)
  | quotes, [] => some ([], quotes.head?.getD [])
  | quotes, (codes, isText) :: rest =>
    let (body, left) := literalBody quotes isText codes
    if left.any quotes.contains then
      (formattedParts left rest).map fun r => (body ++ r.1, r.2)
    else none

/-- A formatted literal without its mark. -/
def formattedLiteral (parts : List (List Nat × Bool)) : String :=
  match formattedParts allQuotes parts with
  | some (body, q) => String.ofList (q ++ body ++ q)
  | none =>
    let body := parts.flatMap fun p => (withoutQuotes (Text.quoteCodes (0x22 :: p.1))).drop 1
    "'''" ++ String.ofList body ++ "'''"

/-- The text of a real number; an infinite one is a numeral that is too large. -/
def realText (form : Binary64.Notation) (x : Binary64) : String :=
  x.textWith form "1e309" "(1e309-1e309)"

/-- The text of a literal. -/
def Constant.source (isField : Bool) : Constant → String
  | .none => "None"
  | .true => "True"
  | .false => "False"
  | .ellipsis => "..."
  | .integer n => toString n
  | .real x => realText Binary64.plain x
  | .imaginary x => realText Binary64.bare x ++ "j"
  | .text codes marked =>
    (if marked then "u" else "") ++ if isField then plainLiteral codes else Text.quoteCodes codes
  | .bytes octets => Text.quoteOctets octets

/-! ## Expressions -/

/-- Texts with commas between them. -/
def commaList (items : List String) : String := ", ".intercalate items

/-- The elements of a tuple: a single one is followed by a comma. -/
def tupleList : List String → String
  | [item] => item ++ ","
  | items => commaList items

/-- Is this a whole number, or one of the two truth values, which are numbers as well? A dot after
    one of them would be read as its decimal point. -/
def Expr.isWhole : Expr → Bool
  | .constant _ (.integer _) | .constant _ .true | .constant _ .false => true
  | _ => false

/-- Is this a tuple? -/
def Expr.isTuple : Expr → Bool
  | .display _ .tuple _ => true
  | _ => false

/-- The source of a replacement field. A brace at its start is kept away from that of the field. -/
def fieldText (source : String) (conversion : Option Conversion) : Option String :=
  if source.toList.contains '\\' then none
  else
    let space := if source.startsWith "\x7b" then " " else ""
    some (space ++ source ++ (conversion.map Conversion.mark).getD "")

/-- Literal text of a formatted literal: braces are doubled. -/
def doubledBraces (codes : List Nat) : List Nat :=
  codes.flatMap fun c => if c == 0x7B || c == 0x7D then [c, c] else [c]

/-- The code points of a text. -/
def codesOf (s : String) : List Nat := s.toList.map Char.toNat

mutual

/-- **The text of an expression** in a place of the given strength, perhaps inside a replacement
    field. -/
def printed (isField : Bool) (place : Strength) : Expr → Option String
  | .constant _ c => some (c.source isField)
  | .name _ id => some id
  | .attribute _ value attr =>
    (printed isField Strength.atom value).map fun v =>
      v ++ (if value.isWhole then " ." else ".") ++ attr
  | .subscript _ value index => do
    let v ← printed isField Strength.atom value
    let i ← printed isField (if index.isTuple then Strength.tuple else Strength.test) index
    some (v ++ "[" ++ i ++ "]")
  | .call _ callee args keywords => do
    let f ← printed isField Strength.atom callee
    let as ← printedAll isField Strength.test args
    let ks ← printedKeywords isField keywords
    some (f ++ "(" ++ commaList (as ++ ks) ++ ")")
  | .boolOp _ op values => do
    let vs ← printedRising isField op.strength values
    some (grouped place op.strength (op.text.intercalate vs))
  | .unary _ op operand => do
    let e ← printed isField op.strength operand
    some (grouped place op.strength (op.text ++ e))
  | .binary _ op left right => do
    let tighter := op.strength.next
    let l ← printed isField (if op == .pow then tighter else op.strength) left
    let r ← printed isField (if op == .pow then op.strength else tighter) right
    some (grouped place op.strength (l ++ " " ++ op.text ++ " " ++ r))
  | .compare _ left ops comparators => do
    let l ← printed isField Strength.operand left
    let rs ← printedAll isField Strength.operand comparators
    some (grouped place Strength.comparison
      (l ++ String.join (List.zipWith (fun op r => " " ++ op.text ++ " " ++ r) ops rs)))
  | .conditional _ test body orElse => do
    let b ← printed isField Strength.either body
    let t ← printed isField Strength.either test
    let o ← printed isField Strength.test orElse
    some (grouped place Strength.test (b ++ " if " ++ t ++ " else " ++ o))
  | .named _ target value => do
    let t ← printed isField Strength.atom target
    let v ← printed isField Strength.atom value
    some (grouped place Strength.naming (t ++ " := " ++ v))
  | .lambda _ params body => do
    let ps ← printedParameters isField params
    let b ← printed isField Strength.test body
    let head := if ps.isEmpty then "lambda" else "lambda " ++ commaList ps
    some (grouped place Strength.test (head ++ ": " ++ b))
  | .display _ kind elements => do
    let es ← printedAll isField Strength.test elements
    match kind with
    | .list => some ("[" ++ commaList es ++ "]")
    | .set => some (if es.isEmpty then "\x7b*()\x7d" else "\x7b" ++ commaList es ++ "\x7d")
    | .tuple =>
      some (if es.isEmpty then "()" else grouped place Strength.tuple (tupleList es))
  | .dict _ keys values => do
    let ks ← printedKeys isField keys
    let vs ← printedValues isField keys values
    let pairs := List.zipWith (fun k v => (k.map fun t => t ++ ": ").getD "**" ++ v) ks vs
    some ("\x7b" ++ commaList pairs ++ "\x7d")
  | .gather _ kind element clauses => do
    let e ← printed isField Strength.test element
    let cs ← printedClauses isField clauses
    let inner := e ++ String.join cs
    match kind with
    | .list => some ("[" ++ inner ++ "]")
    | .set => some ("\x7b" ++ inner ++ "\x7d")
    | .generator => some ("(" ++ inner ++ ")")
  | .gatherDict _ key value clauses => do
    let k ← printed isField Strength.test key
    let v ← printed isField Strength.test value
    let cs ← printedClauses isField clauses
    some ("\x7b" ++ k ++ ": " ++ v ++ String.join cs ++ "\x7d")
  | .await _ value =>
    (printed isField Strength.atom value).map fun v =>
      grouped place Strength.awaits ("await " ++ v)
  | .yield _ none => some (grouped place Strength.yields "yield")
  | .yield _ (some value) =>
    (printed isField Strength.atom value).map fun v =>
      grouped place Strength.yields ("yield " ++ v)
  | .yieldFrom _ value =>
    (printed isField Strength.atom value).map fun v =>
      grouped place Strength.yields ("yield from " ++ v)
  | .starred _ value => (printed isField Strength.operand value).map fun v => "*" ++ v
  | .formatted .. => none
  | .joined _ parts => do
    let ps ← formatted parts
    some ("f" ++ if isField then plainLiteral (ps.flatMap Prod.fst) else formattedLiteral ps)
  | .slice _ lower upper step => do
    let l ← printedOptional isField lower
    let u ← printedOptional isField upper
    let s ← printedOptional isField step
    some (l.getD "" ++ ":" ++ u.getD "" ++ (s.map fun t => ":" ++ t).getD "")

/-- The text of an expression that may be missing. -/
def printedOptional (isField : Bool) : Option Expr → Option (Option String)
  | none => some none
  | some e => (printed isField Strength.test e).map some

/-- The texts of expressions in places of one strength. -/
def printedAll (isField : Bool) (place : Strength) : List Expr → Option (List String)
  | [] => some []
  | e :: es => do
    let t ← printed isField place e
    let ts ← printedAll isField place es
    some (t :: ts)

/-- The texts of the operands of a connective: each place binds tighter than the one before. -/
def printedRising (isField : Bool) (before : Strength) : List Expr → Option (List String)
  | [] => some []
  | e :: es => do
    let t ← printed isField before.next e
    let ts ← printedRising isField before.next es
    some (t :: ts)

/-- The texts of the keys of a mapping. -/
def printedKeys (isField : Bool) : List (Option Expr) → Option (List (Option String))
  | [] => some []
  | k :: ks => do
    let t ← printedOptional isField k
    let ts ← printedKeys isField ks
    some (t :: ts)

/-- The texts of the values of a mapping; one without a key is a mapping to unpack. -/
def printedValues (isField : Bool) : List (Option Expr) → List Expr → Option (List String)
  | _, [] => some []
  | [], _ :: _ => some []
  | k :: ks, v :: vs => do
    let t ← printed isField (if k.isSome then Strength.test else Strength.operand) v
    let ts ← printedValues isField ks vs
    some (t :: ts)

/-- The texts of keyword arguments. -/
def printedKeywords (isField : Bool) : List Keyword → Option (List String)
  | [] => some []
  | .mk name value :: ks => do
    let v ← printed isField Strength.test value
    let ts ← printedKeywords isField ks
    some (((name.map fun n => n ++ "=").getD "**" ++ v) :: ts)

/-- The texts of the clauses of a comprehension. -/
def printedClauses (isField : Bool) : List Comprehension → Option (List String)
  | [] => some []
  | .mk isAsync target source filters :: cs => do
    let t ← printed isField Strength.tuple target
    let s ← printed isField Strength.either source
    let fs ← printedAll isField Strength.either filters
    let rest ← printedClauses isField cs
    let head := (if isAsync then " async for " else " for ") ++ t ++ " in " ++ s
    some ((head ++ String.join (fs.map fun f => " if " ++ f)) :: rest)

/-- The texts of a parameter list, with the marks that part its sections. -/
def printedParameters (isField : Bool) : Parameters → Option (List String)
  | .mk positionalOnly positional rest keywordOnly keywordDefaults keywordRest defaults => do
    let front ← printedNames isField positionalOnly
    let middle ← printedNames isField positional
    let star ← printedName isField rest
    let back ← printedNames isField keywordOnly
    let end? ← printedName isField keywordRest
    let backDefaults ← printedKeys isField keywordDefaults
    let given ← printedAll isField Strength.test defaults
    let withDefault := fun (n : String) (d : Option String) =>
      n ++ (d.map fun t => "=" ++ t).getD ""
    let blanks := List.replicate (front.length + middle.length - given.length) none
    let all := List.zipWith withDefault (front ++ middle) (blanks ++ given.map some)
    some (
      all.take front.length ++ (if front.isEmpty then [] else ["/"]) ++ all.drop front.length ++
      (match star with
        | some s => ["*" ++ s]
        | none => if back.isEmpty then [] else ["*"]) ++
      List.zipWith withDefault back backDefaults ++
      (end?.map fun s => "**" ++ s).toList)

/-- The texts of parameters. -/
def printedNames (isField : Bool) : List Parameter → Option (List String)
  | [] => some []
  | .mk name annotation :: ps => do
    let a ← printedOptional isField annotation
    let ts ← printedNames isField ps
    some ((name ++ (a.map fun t => ": " ++ t).getD "") :: ts)

/-- The text of a parameter that may be missing. -/
def printedName (isField : Bool) : Option Parameter → Option (Option String)
  | none => some none
  | some (.mk name annotation) => do
    let a ← printedOptional isField annotation
    some (some (name ++ (a.map fun t => ": " ++ t).getD ""))

/-- The parts of a formatted literal before quotes are chosen, each with whether it is literal
    text. -/
def formatted : List Expr → Option (List (List Nat × Bool))
  | [] => some []
  | e :: es => do
    let p ← formattedPart e
    let ps ← formatted es
    some (p :: ps)

/-- One part of a formatted literal. -/
def formattedPart : Expr → Option (List Nat × Bool)
  | .constant _ (.text codes _) => some (doubledBraces codes, true)
  | .formatted _ value conversion spec => do
    let source ← printed true Strength.either value
    let field ← fieldText source conversion
    let s ← formattedSpec spec
    some (codesOf ("\x7b" ++ field) ++ s ++ [0x7D], false)
  | .joined _ parts => do
    let ps ← formatted parts
    some (ps.flatMap Prod.fst, false)
  | _ => none

/-- The format specification of a replacement field. -/
def formattedSpec : Option Expr → Option (List Nat)
  | none => some []
  | some spec => (formattedPart spec).map fun p => 0x3A :: p.1

end

/-- **The text of an expression**, unless a formatted literal in it cannot be written. -/
def Expr.text? (e : Expr) : Option String := printed false Strength.test e

end HistoryMetrics.Python
