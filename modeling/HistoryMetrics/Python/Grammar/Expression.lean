import HistoryMetrics.Python.Grammar.Basic
import HistoryMetrics.Python.FormatString
import HistoryMetrics.Python.Lexer

/-! # Expressions

    The rules from the loosest binding to the tightest: lists of expressions, conditional
    expressions and function expressions, connectives, comparisons, binary operators, operators
    before an operand, powers, and primaries, which are atoms with calls, subscripts and attribute
    accesses after them.
-/

namespace HistoryMetrics.Python.Rule

open Reader

/-! ## Operators -/

/-- The levels of binary operators, the loosest one first. -/
def binaryLevels : List (List (String × BinaryOp)) :=
  [[("|", .bitOr)], [("^", .bitXor)], [("&", .bitAnd)], [("<<", .shiftLeft), (">>", .shiftRight)],
   [("+", .add), ("-", .sub)],
   [("*", .mult), ("/", .div), ("//", .floorDiv), ("%", .mod), ("@", .matMult)]]

/-- The operator of a level that a lexeme stands for. -/
def operatorOf {α : Type} (level : List (String × α)) : Lexeme → Option α
  | .op s => level.lookup s
  | _ => none

/-- Operands of the tighter levels joined by the operators of the first level, from the left. -/
def binary (g : Grammar) : List (List (String × BinaryOp)) → Reader Expr
  | [] => g .factor
  | level :: tighter => do
    let start ← here
    let first ← binary g tighter
    loop (fun left => do
      match operatorOf level (← peek) with
      | none => return none
      | some o =>
        let _ ← next
        let right ← binary g tighter
        return some (.binary (← spanFrom start) o left right)) first

/-- The operand of an unpacking. -/
def bitOr (g : Grammar) : Reader Expr := binary g binaryLevels

/-- Comparisons of one symbol or word. -/
def plainComparisons : List (Lexeme × CompareOp) :=
  [(.op "==", .equal), (.op "!=", .notEqual), (.op "<", .less), (.op "<=", .lessEqual),
   (.op ">", .greater), (.op ">=", .greaterEqual), (.reserved "in", .member)]

/-- Reads a comparison, if there is one. -/
def comparison? : Reader (Option CompareOp) := do
  let l ← peek
  match plainComparisons.lookup l with
  | some o =>
    let _ ← next
    return some o
  | none =>
    if l == .reserved "is" then
      let _ ← next
      if ← acceptReserved "not" then return some .notSame else return some .same
    else if l == .reserved "not" && (← peekSecond) == .reserved "in" then
      let _ ← next
      let _ ← next
      return some .notMember
    else return none

/-- A chain of comparisons. -/
def comparison (g : Grammar) : Reader Expr := do
  let start ← here
  let left ← bitOr g
  let links ← loop (fun (links : List (CompareOp × Expr)) => do
    match ← comparison? with
    | none => return none
    | some o => return some ((o, ← bitOr g) :: links)) []
  match links.reverse with
  | [] => return left
  | chain => return .compare (← spanFrom start) left (chain.map (·.1)) (chain.map (·.2))

/-- A negation or a comparison. -/
def inversion (g : Grammar) : Reader Expr := do
  let start ← here
  if ← acceptReserved "not" then
    let operand ← g .inversion
    return .unary (← spanFrom start) .negate operand
  else comparison g

/-- Operands joined by a connective, which makes one node of them all. -/
def connective (op : BoolOp) (word : String) (operand : Reader Expr) : Reader Expr := do
  let start ← here
  let first ← operand
  let values ← loop (fun (values : List Expr) => do
    if ← acceptReserved word then return some ((← operand) :: values) else return none) [first]
  match values with
  | [_] => return first
  | _ => return .boolOp (← spanFrom start) op values.reverse

/-- Operands joined by `or`. -/
def disjunction (g : Grammar) : Reader Expr :=
  connective .either "or" (connective .both "and" (g .inversion))

/-- The operators before an operand. -/
def signs : List (String × UnaryOp) := [("+", .plus), ("-", .minus), ("~", .invert)]

/-! ## Lists of expressions -/

/-- An expression to which a name may be given on the way. -/
def namedExpression (g : Grammar) : Reader Expr := do
  match ← peek, ← peekSecond with
  | .name id, .op ":=" =>
    let start ← here
    let _ ← next
    let target := Expr.name start id
    let _ ← next
    let value ← g .expression
    return .named (← spanFrom start) target value
  | _, _ => g .expression

/-- An unpacked operand, or what `plain` reads. -/
def starredOr (g : Grammar) (plain : Reader Expr) : Reader Expr := do
  let start ← here
  if ← acceptOp "*" then
    let value ← bitOr g
    return .starred (← spanFrom start) value
  else plain

/-- An element of a display. -/
def element (g : Grammar) : Reader Expr := starredOr g (namedExpression g)

/-- Elements separated by commas; two or more, or one with a comma after it, make a tuple. -/
def tupleOf (item : Reader Expr) : Reader Expr := do
  let start ← here
  let (items, hasComma) ← separated "," (fun l => !startsElement l) item
  if hasComma then return .display (← spanFrom start) .tuple items
  else lift items.head?

/-- Expressions separated by commas. -/
def expressions (g : Grammar) : Reader Expr := tupleOf (starredOr g (g .expression))

/-- The expression that hands a value to the caller of a generator. -/
def yieldExpression (g : Grammar) : Reader Expr := do
  let start ← here
  reserved "yield"
  if ← acceptReserved "from" then
    let value ← g .expression
    return .yieldFrom (← spanFrom start) value
  else if startsElement (← peek) then
    let value ← expressions g
    return .yield (← spanFrom start) (some value)
  else return .yield (← spanFrom start) none

/-- The right-hand side of an assignment. -/
def assigned (g : Grammar) : Reader Expr := do
  if ← atReserved "yield" then yieldExpression g else expressions g

/-! ## Parameters -/

/-- An item of a parameter list as written. -/
inductive ParameterItem where
  | plain (parameter : Parameter) (value : Option Expr)
  | slash
  | bareStar
  | rest (parameter : Parameter)
  | keywordRest (parameter : Parameter)

/-- The parameters before the star, read so far: those before the slash, those after it, their
    default values; all in reverse. -/
structure Positional where
  before : List Parameter
  after : List Parameter
  defaults : List Expr
  hasSlash : Bool

/-- Parameters after the star. Nothing follows the one that takes all other keyword arguments. -/
def keywordOnly (positional : Positional) (rest : Option Parameter) :
    List Parameter → List (Option Expr) → List ParameterItem → Option Parameters
  | names, values, [] =>
    some (.mk positional.before.reverse positional.after.reverse rest names.reverse values.reverse
      none positional.defaults.reverse)
  | names, values, [.keywordRest p] =>
    some (.mk positional.before.reverse positional.after.reverse rest names.reverse values.reverse
      (some p) positional.defaults.reverse)
  | names, values, .plain p v :: items =>
    keywordOnly positional rest (p :: names) (v :: values) items
  | _, _, _ => none

/-- **The rules for the order of parameters**: a slash once, after some parameter; no parameter
    without a default after one with a default; after a bare star a parameter. -/
def parametersFrom (positional : Positional) : List ParameterItem → Option Parameters
  | .plain p none :: items =>
    if positional.defaults.isEmpty then
      parametersFrom ⟨positional.before, p :: positional.after, [], positional.hasSlash⟩ items
    else none
  | .plain p (some v) :: items =>
    parametersFrom
      ⟨positional.before, p :: positional.after, v :: positional.defaults, positional.hasSlash⟩
      items
  | .slash :: items =>
    if positional.hasSlash || positional.after.isEmpty then none
    else parametersFrom ⟨positional.after, [], positional.defaults, true⟩ items
  | .bareStar :: .plain p v :: items => keywordOnly positional none [p] [v] items
  | .rest p :: items => keywordOnly positional (some p) [] [] items
  | [.keywordRest p] => keywordOnly positional none [] [] [.keywordRest p]
  | [] => keywordOnly positional none [] [] []
  | _ => none

/-- The annotation of a parameter; that of a star parameter may be unpacked. -/
def annotation (g : Grammar) (isAnnotated mayUnpack : Bool) : Reader (Option Expr) := do
  if isAnnotated then
    if ← acceptOp ":" then
      if mayUnpack then return some (← starredOr g (g .expression))
      else return some (← g .expression)
    else return none
  else return none

/-- An item of a parameter list. -/
def parameterItem (g : Grammar) (isAnnotated : Bool) : Reader ParameterItem := do
  if ← acceptOp "/" then return .slash
  else if ← acceptOp "**" then
    let id ← name
    return .keywordRest (.mk id (← annotation g isAnnotated false))
  else if ← acceptOp "*" then
    if ← atOp "," then return .bareStar
    else
      let id ← name
      return .rest (.mk id (← annotation g isAnnotated true))
  else
    let id ← name
    let a ← annotation g isAnnotated false
    if ← acceptOp "=" then
      let value ← g .expression
      return .plain (.mk id a) (some value)
    else return .plain (.mk id a) none

/-- A parameter list up to the symbol that ends it, which is not read. -/
def parameters (g : Grammar) (isAnnotated : Bool) (close : String) : Reader Parameters := do
  if ← atOp close then return .empty
  else
    let (items, _) ← separated "," (fun l => l == .op close) (parameterItem g isAnnotated)
    lift (parametersFrom ⟨[], [], [], false⟩ items)

/-- A function expression. -/
def lambda (g : Grammar) : Reader Expr := do
  let start ← here
  reserved "lambda"
  let params ← parameters g false ":"
  op ":"
  let body ← g .expression
  return .lambda (← spanFrom start) params body

/-- An expression: a function expression, or a disjunction, perhaps chosen by a condition. -/
def expression (g : Grammar) : Reader Expr := do
  if ← atReserved "lambda" then lambda g
  else
    let start ← here
    let body ← disjunction g
    if ← acceptReserved "if" then
      let test ← disjunction g
      reserved "else"
      let other ← g .expression
      return .conditional (← spanFrom start) test body other
    else return body

/-! ## String literals -/

/-- The text or the pieces of adjacent literals, run together: complete parts in reverse, and the
    literal text that is still growing. -/
structure JoinState where
  parts : List Expr
  text : List Nat
  isFormat : Bool

/-- The state with the growing text made a part. -/
def JoinState.flush (s : JoinState) (span : Span) (marked : Bool) : List Expr :=
  if s.text.isEmpty then s.parts else .constant span (.text s.text marked) :: s.parts

/-- Reads the expression of a replacement field from its source, in brackets as it may spread over
    lines. -/
def fieldExpression (g : Grammar) (line : Nat) (source : List Char) : Option Expr :=
  (scanAt line ('(' :: source ++ [')'])).bind fun tokens =>
    (expressions g (.ofTokens tokens line)).map fun r => r.1

mutual

/-- The parts of a formatted literal after those in a state. -/
def joinPieces (g : Grammar) (span : Span) (line : Nat) (marked : Bool) :
    JoinState → List Piece → Option JoinState
  | s, [] => some s
  | s, piece :: rest =>
    match joinPiece g span line marked s piece with
    | some s' => joinPieces g span line marked s' rest
    | none => none

/-- One part of a formatted literal. -/
def joinPiece (g : Grammar) (span : Span) (line : Nat) (marked : Bool) :
    JoinState → Piece → Option JoinState
  | s, .literal codes => some ⟨s.parts, s.text ++ codes, true⟩
  | s, .field source lineEnds shown conversion spec =>
    match fieldExpression g (line + lineEnds) source with
    | none => none
    | some value =>
      let before : JoinState := ⟨s.parts, s.text ++ shown.getD [], true⟩
      match joinSpec g span line marked spec with
      | none => none
      | some specExpr =>
        some ⟨.formatted span value conversion specExpr :: before.flush span marked, [], true⟩

/-- The format specification of a field. -/
def joinSpec (g : Grammar) (span : Span) (line : Nat) (marked : Bool) :
    Option (List Piece) → Option (Option Expr)
  | none => some none
  | some pieces =>
    match joinPieces g span line marked ⟨[], [], true⟩ pieces with
    | some s => some (some (.joined span (s.flush span marked).reverse))
    | none => none

end

/-- Adds a literal to those before it. -/
def joinLiteral (g : Grammar) (span : Span) (marked : Bool) (s : JoinState) (line : Nat)
    (literal : StringLiteral) : Option JoinState :=
  if literal.isFormat then
    match FormatString.pieces literal.isRaw literal.body with
    | some pieces => joinPieces g span line marked ⟨s.parts, s.text, true⟩ pieces
    | none => none
  else
    match FormatString.runCodes literal.isRaw literal.body.reverse with
    | some codes => some ⟨s.parts, s.text ++ codes, s.isFormat⟩
    | none => none

/-- Adjacent text literals as one expression. -/
def joinText (g : Grammar) (span : Span) (marked : Bool) :
    JoinState → List (Nat × StringLiteral) → Option Expr
  | s, [] =>
    if s.isFormat then some (.joined span (s.flush span marked).reverse)
    else some (.constant span (.text s.text marked))
  | s, (line, literal) :: rest =>
    match joinLiteral g span marked s line literal with
    | some s' => joinText g span marked s' rest
    | none => none

/-- Adjacent literals as one expression. Text and bytes do not mix. -/
def joinLiterals (g : Grammar) (span : Span) (literals : List (Nat × StringLiteral)) :
    Option Expr :=
  if literals.all fun l => l.2.isBytes then
    (literals.mapM fun l => Escape.decodeBytes l.2.isRaw l.2.body).map fun bs =>
      .constant span (.bytes bs.flatten)
  else if literals.any fun l => l.2.isBytes then none
  else joinText g span (literals.head?.any fun l => l.2.isMarked) ⟨[], [], false⟩ literals

/-- Adjacent string literals. -/
def strings (g : Grammar) : Reader Expr := do
  let start ← here
  let literals ← loop (fun (ls : List (Nat × StringLiteral)) => do
    match ← peek with
    | .string literal =>
      let t ← next
      return some ((t.span.line, literal) :: ls)
    | _ => return none) []
  let span ← spanFrom start
  lift (joinLiterals g span literals.reverse)

/-! ## Targets -/

mutual

/-- Can a value be assigned to the expression? `mayUnpack` allows it to be unpacked. -/
def isTarget (mayUnpack : Bool) : Expr → Bool
  | .name .. => true
  | .attribute .. => true
  | .subscript .. => true
  | .starred _ e => mayUnpack && isTarget mayUnpack e
  | .display _ .list es => areTargets mayUnpack es
  | .display _ .tuple es => areTargets mayUnpack es
  | _ => false

/-- Can values be assigned to all of the expressions? -/
def areTargets (mayUnpack : Bool) : List Expr → Bool
  | [] => true
  | e :: es => isTarget mayUnpack e && areTargets mayUnpack es

end

/-- Is the expression one place, and not a list of places? -/
def isSingleTarget : Expr → Bool
  | .name .. => true
  | .attribute .. => true
  | .subscript .. => true
  | _ => false

/-! ## Comprehensions, atoms and primaries -/

/-- The lexemes that start the clauses of a comprehension. -/
def atClause : Reader Bool := do
  return (← atReserved "for") || (← atReserved "async")

/-- The expressions of a call. -/
structure Arguments where
  positional : List Expr
  keywords : List Keyword

/-- How far the order of arguments has come. -/
inductive ArgumentStage where
  | positional
  | named
  | unpacked
deriving DecidableEq

/-- Adds an argument to those before it, which stand in reverse. A positional argument stands before
    all named ones, an unpacked sequence before all unpacked mappings. -/
def argument (g : Grammar) (a : Arguments × ArgumentStage) :
    Reader (Arguments × ArgumentStage) := do
  let start ← here
  if ← acceptOp "**" then
    let value ← g .expression
    return (⟨a.1.positional, .mk none value :: a.1.keywords⟩, .unpacked)
  else if ← acceptOp "*" then
    guard (a.2 != .unpacked)
    let value ← g .expression
    return (⟨.starred (← spanFrom start) value :: a.1.positional, a.1.keywords⟩, a.2)
  else
    match ← peek, ← peekSecond with
    | .name id, .op "=" =>
      let _ ← next
      let _ ← next
      let value ← g .expression
      return (⟨a.1.positional, .mk (some id) value :: a.1.keywords⟩,
        if a.2 == .unpacked then .unpacked else .named)
    | _, _ =>
      guard (a.2 == .positional)
      let value ← namedExpression g
      return (⟨value :: a.1.positional, a.1.keywords⟩, .positional)

/-- Arguments up to the closing bracket, which is not read. -/
def arguments (g : Grammar) : Reader Arguments := do
  if ← atOp ")" then return ⟨[], []⟩
  else
    let first ← argument g (⟨[], []⟩, .positional)
    let r ← loop (fun (s : (Arguments × ArgumentStage) × Bool) => do
      if s.2 then return none
      else if ← acceptOp "," then
        if ← atOp ")" then return some (s.1, true) else return some (← argument g s.1, false)
      else return none) (first, false)
    return ⟨r.1.1.positional.reverse, r.1.1.keywords.reverse⟩

/-- May a bound of a slice be missing here? -/
def endsBound : Lexeme → Bool
  | .op s => s == ":" || s == "," || s == "]"
  | _ => false

/-- A bound of a slice, if there is one. -/
def bound (g : Grammar) : Reader (Option Expr) := do
  if endsBound (← peek) then return none else return some (← g .expression)

/-- An index, or a slice. -/
def sliceOrIndex (g : Grammar) : Reader Expr := do
  let start ← here
  match ← peek, ← peekSecond with
  | .name _, .op ":=" => namedExpression g
  | .op "*", _ =>
    let _ ← next
    let value ← g .expression
    return .starred (← spanFrom start) value
  | _, _ =>
    let lower ← bound g
    if ← acceptOp ":" then
      let upper ← bound g
      if ← acceptOp ":" then
        let step ← bound g
        return .slice (← spanFrom start) lower upper step
      else return .slice (← spanFrom start) lower upper none
    else lift lower

/-- What stands between the brackets of a subscript: several indices, or an unpacked one, make a
    tuple. -/
def indices (g : Grammar) : Reader Expr := do
  let start ← here
  let (items, hasComma) ← separated "," (fun l => l == .op "]") (sliceOrIndex g)
  match items, hasComma with
  | [.starred s e], false => return .display (← spanFrom start) .tuple [.starred s e]
  | [e], false => return e
  | _, _ => return .display (← spanFrom start) .tuple items

/-- A target of a `for` clause or a `with` item, read as a primary. -/
def target (g : Grammar) : Reader Expr := do
  let start ← here
  let isStarred ← acceptOp "*"
  let e ← g .primary
  guard (isTarget true e)
  if isStarred then return .starred (← spanFrom start) e else return e

/-- The targets of a `for` clause. -/
def targets (g : Grammar) : Reader Expr := do
  let start ← here
  let (items, hasComma) ← separated "," (fun l => l == .reserved "in") (target g)
  if hasComma then return .display (← spanFrom start) .tuple items else lift items.head?

/-- One clause of a comprehension, if there is one. -/
def clause? (g : Grammar) : Reader (Option Comprehension) := do
  if ← atClause then
    let isAsync ← acceptReserved "async"
    reserved "for"
    let places ← targets g
    reserved "in"
    let source ← disjunction g
    let filters ← loop (fun (fs : List Expr) => do
      if ← acceptReserved "if" then return some ((← disjunction g) :: fs) else return none) []
    return some (.mk isAsync places source filters.reverse)
  else return none

/-- The clauses of a comprehension. -/
def clauses (g : Grammar) : Reader (List Comprehension) := do
  let cs ← loop (fun (cs : List Comprehension) => do
    match ← clause? g with
    | some c => return some (c :: cs)
    | none => return none) []
  guard (!cs.isEmpty)
  return cs.reverse

/-- Is the expression unpacked? -/
def isStarred : Expr → Bool
  | .starred .. => true
  | _ => false

/-- After an opening parenthesis: an empty tuple, a yield, a generator, a tuple or a group. -/
def parenthesised (g : Grammar) (start : Span) : Reader Expr := do
  if ← acceptOp ")" then return .display (← spanFrom start) .tuple []
  else if ← atReserved "yield" then
    let value ← yieldExpression g
    op ")"
    return value
  else
    let first ← element g
    if ← atClause then
      guard (!isStarred first)
      let cs ← clauses g
      op ")"
      return .gather (← spanFrom start) .generator first cs
    else if ← acceptOp ")" then
      guard (!isStarred first)
      return first
    else
      let (items, _) ← separatedFrom "," (fun l => l == .op ")") (element g) [first]
      op ")"
      return .display (← spanFrom start) .tuple items

/-- After an opening square bracket: a list or a list comprehension. -/
def bracketed (g : Grammar) (start : Span) : Reader Expr := do
  if ← acceptOp "]" then return .display (← spanFrom start) .list []
  else
    let first ← element g
    if ← atClause then
      guard (!isStarred first)
      let cs ← clauses g
      op "]"
      return .gather (← spanFrom start) .list first cs
    else
      let (items, _) ← separatedFrom "," (fun l => l == .op "]") (element g) [first]
      op "]"
      return .display (← spanFrom start) .list items

/-- An entry of a mapping: a key and a value, or an unpacked mapping. -/
def mapEntry (g : Grammar) : Reader (Option Expr × Expr) := do
  if ← acceptOp "**" then return (none, ← bitOr g)
  else
    let key ← g .expression
    op ":"
    return (some key, ← g .expression)

/-- The rest of a mapping after its first entry. -/
def mapDisplay (g : Grammar) (start : Span) (first : Option Expr × Expr) : Reader Expr := do
  let (items, _) ← separatedFrom "," (fun l => l == .op "\x7d") (mapEntry g) [first]
  op "\x7d"
  return .dict (← spanFrom start) (items.map (·.1)) (items.map (·.2))

/-- After an opening brace: a mapping, a set or a comprehension of either. -/
def braced (g : Grammar) (start : Span) : Reader Expr := do
  if ← acceptOp "\x7d" then return .dict (← spanFrom start) [] []
  else if ← atOp "**" then mapDisplay g start (← mapEntry g)
  else
    let isNamed := (← peekSecond) == .op ":="
    let first ← element g
    if !isStarred first && !isNamed && (← acceptOp ":") then
      let value ← g .expression
      if ← atClause then
        let cs ← clauses g
        op "\x7d"
        return .gatherDict (← spanFrom start) first value cs
      else mapDisplay g start (some first, value)
    else if ← atClause then
      guard (!isStarred first)
      let cs ← clauses g
      op "\x7d"
      return .gather (← spanFrom start) .set first cs
    else
      let (items, _) ← separatedFrom "," (fun l => l == .op "\x7d") (element g) [first]
      op "\x7d"
      return .display (← spanFrom start) .set items

/-- The constants that are reserved words. -/
def wordConstants : List (String × Constant) :=
  [("True", .true), ("False", .false), ("None", .none)]

/-- An atom. -/
def atom (g : Grammar) : Reader Expr := do
  let start ← here
  match ← peek with
  | .name id =>
    let _ ← next
    return .name start id
  | .number value =>
    let _ ← next
    return .constant start value
  | .string _ => strings g
  | .reserved w =>
    let _ ← next
    return .constant start (← lift (wordConstants.lookup w))
  | .op "..." =>
    let _ ← next
    return .constant start .ellipsis
  | .op "(" =>
    let _ ← next
    parenthesised g start
  | .op "[" =>
    let _ ← next
    bracketed g start
  | .op "\x7b" =>
    let _ ← next
    braced g start
  | _ => fail

/-- A primary: an atom with what is done to it. A comprehension may stand alone as the argument of a
    call, without brackets of its own. -/
def primary (g : Grammar) : Reader Expr := do
  let start ← here
  let first ← atom g
  loop (fun value => do
    match ← peek with
    | .op "." =>
      let _ ← next
      let attr ← name
      return some (.attribute (← spanFrom start) value attr)
    | .op "[" =>
      let _ ← next
      let index ← indices g
      op "]"
      return some (.subscript (← spanFrom start) value index)
    | .op "(" =>
      let bracket ← here
      let _ ← next
      let args ← arguments g
      if ← atClause then
        match args.positional, args.keywords with
        | [.starred ..], _ => fail
        | [e], [] =>
          let cs ← clauses g
          op ")"
          let generator := Expr.gather (← spanFrom bracket) .generator e cs
          return some (.call (← spanFrom start) value [generator] [])
        | _, _ => fail
      else
        op ")"
        return some (.call (← spanFrom start) value args.positional args.keywords)
    | _ => return none) first

/-- An operand that waits for its value, or a primary. -/
def awaited (g : Grammar) : Reader Expr := do
  let start ← here
  if ← acceptReserved "await" then
    let value ← g .primary
    return .await (← spanFrom start) value
  else g .primary

/-- An operand with operators before it, or a power. -/
def factor (g : Grammar) : Reader Expr := do
  let start ← here
  match operatorOf signs (← peek) with
  | some o =>
    let _ ← next
    let operand ← g .factor
    return .unary (← spanFrom start) o operand
  | none =>
    let base ← awaited g
    if ← acceptOp "**" then
      let exponent ← g .factor
      return .binary (← spanFrom start) .pow base exponent
    else return base

end HistoryMetrics.Python.Rule
