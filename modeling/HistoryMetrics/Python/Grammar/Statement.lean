import HistoryMetrics.Python.Grammar.Pattern

/-! # Statements

    The rules for statements of one line, for blocks, and for the statements that contain blocks.
    The words `match` and `case` are ordinary names elsewhere, so a match statement is recognised
    by its whole first line. -/

namespace HistoryMetrics.Python.Rule

open Reader

/-! ## Statements of one line -/

/-- The symbols of augmented assignments. -/
def augmentations : List (String × BinaryOp) :=
  [("+=", .add), ("-=", .sub), ("*=", .mult), ("@=", .matMult), ("/=", .div), ("%=", .mod),
   ("&=", .bitAnd), ("|=", .bitOr), ("^=", .bitXor), ("<<=", .shiftLeft), (">>=", .shiftRight),
   ("**=", .pow), ("//=", .floorDiv)]

/-- The values of a chain of assignments after the first one, last one first. All but the last one
    are targets. -/
def assignmentChain (g : Grammar) (first : Expr) : Reader (List Expr) :=
  loop (fun (values : List Expr) => do
    if ← acceptOp "=" then
      guard (values.head?.any (isTarget true))
      return some ((← assigned g) :: values)
    else return none) [first]

/-- An expression, or an assignment of one of the three kinds. -/
def expressionStatement (g : Grammar) : Reader Simple := do
  let first ← assigned g
  let l ← peek
  match operatorOf augmentations l with
  | some o =>
    let _ ← next
    guard (isSingleTarget first)
    return .augmented first o (← assigned g)
  | none =>
    if l == .op ":" then
      let _ ← next
      guard (isSingleTarget first)
      let annotation ← g .expression
      if ← acceptOp "=" then return .annotated first annotation (some (← assigned g))
      else return .annotated first annotation none
    else
      match ← assignmentChain g first with
      | [] => fail
      | [e] => return .expr e
      | value :: targets => return .assign targets.reverse value

/-- A name with dots in it. -/
def dottedName : Reader String := do
  let first ← name
  loop (fun (path : String) => do
    if ← acceptOp "." then return some (path ++ "." ++ (← name)) else return none) first

/-- A name that another one may follow, under which it is known. -/
def aliased (path : Reader String) : Reader Alias := do
  let id ← path
  if ← acceptReserved "as" then return ⟨id, some (← name)⟩ else return ⟨id, none⟩

/-- The dots before the module of an import: how many there are. -/
def importLevel : Reader Nat :=
  loop (fun (n : Nat) => do
    if ← acceptOp "." then return some (n + 1)
    else if ← acceptOp "..." then return some (n + 3)
    else return none) 0

/-- An import of names from a module. -/
def importFrom : Reader Simple := do
  let level ← importLevel
  let module ← if ← atReserved "import" then pure none else do pure (some (← dottedName))
  guard (module.isSome || 0 < level)
  reserved "import"
  if ← acceptOp "*" then return .importFrom module [⟨"*", none⟩] level
  else if ← acceptOp "(" then
    let (names, _) ← separated "," (fun l => l == .op ")") (aliased name)
    op ")"
    return .importFrom module names level
  else
    let (names, _) ← separated "," (fun _ => false) (aliased name)
    return .importFrom module names level

/-- A list of expressions, if one starts here. -/
def expressions? (g : Grammar) : Reader (Option Expr) := do
  if startsElement (← peek) then return some (← expressions g) else return none

/-- Does the lexeme end a statement of one line? -/
def endsSimple (l : Lexeme) : Bool :=
  l == .newline || l == .op ";"

/-- A place that can be deleted. -/
def deleted (g : Grammar) : Reader Expr := do
  let e ← g .primary
  guard (isTarget false e)
  return e

/-- The statement that the reserved word before it starts. -/
def wordStatement (g : Grammar) (word : String) : Reader Simple := do
  match word with
  | "pass" => return .pass
  | "break" => return .leave
  | "continue" => return .next
  | "return" => return .giveBack (← expressions? g)
  | "raise" =>
    if startsExpression (← peek) then
      let exception ← g .expression
      if ← acceptReserved "from" then return .raise (some exception) (some (← g .expression))
      else return .raise (some exception) none
    else return .raise none none
  | "assert" =>
    let test ← g .expression
    if ← acceptOp "," then return .assert test (some (← g .expression))
    else return .assert test none
  | "del" =>
    let (targets, _) ← separated "," endsSimple (deleted g)
    return .delete targets
  | "global" => return .scope true (← separated "," (fun _ => false) name).1
  | "nonlocal" => return .scope false (← separated "," (fun _ => false) name).1
  | "import" =>
    return .importNames (← separated "," (fun _ => false) (aliased dottedName)).1
  | "from" => importFrom
  | _ => fail

/-- The reserved words that start a statement of one line. -/
def simpleWords : List String :=
  ["pass", "break", "continue", "return", "raise", "assert", "del", "global", "nonlocal", "import",
   "from"]

/-- A statement of one line. -/
def simpleStatement (g : Grammar) : Reader Stmt := do
  let start ← here
  match ← peek with
  | .reserved w =>
    if simpleWords.contains w then
      let _ ← next
      let content ← wordStatement g w
      return .simple (← spanFrom start) content
    else
      let content ← expressionStatement g
      return .simple (← spanFrom start) content
  | _ =>
    let content ← expressionStatement g
    return .simple (← spanFrom start) content

/-- A line of statements separated by semicolons. -/
def simpleLine (g : Grammar) : Reader (List Stmt) := do
  let (stmts, _) ← separated ";" (fun l => l == .newline) (simpleStatement g)
  lexeme .newline
  return stmts

/-! ## Statements with blocks -/

/-- A block after its colon. -/
def blockAfterColon (g : Grammar) : Reader (List Stmt) := do
  op ":"
  g .block

/-- The block after a reserved word, if the word is there. -/
def optionalBlock (g : Grammar) (word : String) : Reader (List Stmt) := do
  if ← acceptReserved word then blockAfterColon g else return []

/-- A condition with its block and what follows it. -/
def ifStatement (g : Grammar) : Reader Stmt := do
  let start ← here
  let _ ← next
  let test ← namedExpression g
  let body ← blockAfterColon g
  let orElse ← g .elseOfIf
  return .ifElse (← spanFrom start) test body orElse

/-- What follows the block of a condition. -/
def elseOfIf (g : Grammar) : Reader (List Stmt) := do
  if ← atReserved "elif" then return [← ifStatement g] else optionalBlock g "else"

/-- A loop with a condition. -/
def whileStatement (g : Grammar) : Reader Stmt := do
  let start ← here
  reserved "while"
  let test ← namedExpression g
  let body ← blockAfterColon g
  let orElse ← optionalBlock g "else"
  return .whileLoop (← spanFrom start) test body orElse

/-- A loop over elements. -/
def forStatement (g : Grammar) (start : Span) (isAsync : Bool) : Reader Stmt := do
  reserved "for"
  let places ← targets g
  reserved "in"
  let source ← expressions g
  let body ← blockAfterColon g
  let orElse ← optionalBlock g "else"
  return .forEach (← spanFrom start) isAsync places source body orElse

/-- A resource of a `with` statement. -/
def withItem (g : Grammar) : Reader WithItem := do
  let context ← g .expression
  if ← acceptReserved "as" then return ⟨context, some (← target g)⟩ else return ⟨context, none⟩

/-- The resources in parentheses, if that is what the parentheses hold. -/
def bracketedItems (g : Grammar) : Reader (List WithItem) := do
  op "("
  let (items, _) ← separated "," (fun l => l == .op ")") (withItem g)
  op ")"
  guard (← atOp ":")
  return items

/-- A block that uses resources. -/
def withStatement (g : Grammar) (start : Span) (isAsync : Bool) : Reader Stmt := do
  reserved "with"
  let plainItems : Reader (List WithItem) := do
    return (← separated "," (fun _ => false) (withItem g)).1
  let items ← orElse (bracketedItems g) plainItems
  let body ← blockAfterColon g
  return .withBlock (← spanFrom start) isAsync items body

/-- An exception handler; `isGroup` tells whether it must have a star. -/
def handler (g : Grammar) (isGroup : Bool) : Reader Handler := do
  let start ← here
  reserved "except"
  let hasStar ← acceptOp "*"
  guard (hasStar == isGroup)
  if !isGroup && (← atOp ":") then
    let body ← blockAfterColon g
    return .mk (← spanFrom start) none none body
  else
    let type ← g .expression
    let id ← if ← acceptReserved "as" then do pure (some (← name)) else pure none
    let body ← blockAfterColon g
    return .mk (← spanFrom start) (some type) id body

/-- A block with handlers, or with an end that is always reached. All handlers have a star or none
    has. -/
def tryStatement (g : Grammar) : Reader Stmt := do
  let start ← here
  reserved "try"
  let body ← blockAfterColon g
  if ← acceptReserved "finally" then
    let final ← blockAfterColon g
    return .tryBlock (← spanFrom start) false body [] [] final
  else
    let isGroup := (← peekSecond) == .op "*"
    let first ← handler g isGroup
    let handlers ← loop (fun (hs : List Handler) => do
      if ← atReserved "except" then return some ((← handler g isGroup) :: hs) else return none)
      [first]
    let orElse ← optionalBlock g "else"
    let final ← optionalBlock g "finally"
    return .tryBlock (← spanFrom start) isGroup body handlers.reverse orElse final

/-- The subject of a match statement up to the end of the line. -/
def matchHead (g : Grammar) : Reader Expr := do
  let _ ← next
  let start ← here
  let (items, hasComma) ← separated "," (fun l => l == .op ":") (element g)
  let span ← spanFrom start
  op ":"
  lexeme .newline
  if hasComma then return .display span .tuple items
  else
    let only ← lift items.head?
    guard (!isStarred only)
    return only

/-- A case of a match statement. -/
def matchCase (g : Grammar) : Reader MatchCase := do
  lexeme (.name "case")
  let p ← casePattern g
  let condition ← if ← acceptReserved "if" then do pure (some (← namedExpression g))
    else pure none
  let body ← blockAfterColon g
  return .mk p condition body

/-- The cases of a match statement after its first line. -/
def matchCases (g : Grammar) : Reader (List MatchCase) := do
  lexeme .indent
  let first ← matchCase g
  let cases ← loop (fun (cs : List MatchCase) => do
    if (← peek) == .dedent then return none else return some ((← matchCase g) :: cs)) [first]
  lexeme .dedent
  return cases.reverse

/-- A match statement, or else a line that happens to start with the word. -/
def matchOrLine (g : Grammar) : Reader (List Stmt) := do
  let start ← here
  match ← attempt (matchHead g) with
  | none => simpleLine g
  | some subject =>
    let cases ← matchCases g
    return [.switch (← spanFrom start) subject cases]

/-! ## Definitions -/

/-- A function definition. -/
def functionDefinition (g : Grammar) (start : Span) (isAsync : Bool) (decorators : List Expr) :
    Reader Stmt := do
  reserved "def"
  let id ← name
  op "("
  let params ← parameters g true ")"
  op ")"
  let returns ← if ← acceptOp "->" then do pure (some (← g .expression)) else pure none
  let body ← blockAfterColon g
  return .function (← spanFrom start) isAsync id params body decorators returns

/-- A class definition. -/
def classDefinition (g : Grammar) (decorators : List Expr) : Reader Stmt := do
  let start ← here
  reserved "class"
  let id ← name
  let args ← if ← acceptOp "(" then do
      let args ← arguments g
      op ")"
      pure args
    else pure ⟨[], []⟩
  let body ← blockAfterColon g
  return .classDef (← spanFrom start) id args.positional args.keywords body decorators

/-- A definition after its decorators. -/
def definition (g : Grammar) (decorators : List Expr) : Reader Stmt := do
  let start ← here
  if ← atReserved "class" then classDefinition g decorators
  else
    let isAsync ← acceptReserved "async"
    functionDefinition g start isAsync decorators

/-- The decorators before a definition. -/
def decorators (g : Grammar) : Reader (List Expr) := do
  let ds ← loop (fun (ds : List Expr) => do
    if ← acceptOp "@" then
      let d ← namedExpression g
      lexeme .newline
      return some (d :: ds)
    else return none) []
  return ds.reverse

/-- A statement that starts with `async`. -/
def asyncStatement (g : Grammar) : Reader Stmt := do
  let start ← here
  let _ ← next
  if ← atReserved "for" then forStatement g start true
  else if ← atReserved "with" then withStatement g start true
  else functionDefinition g start true []

/-- A statement, or a line of them. -/
def statement (g : Grammar) : Reader (List Stmt) := do
  let start ← here
  match ← peek with
  | .reserved "if" => return [← ifStatement g]
  | .reserved "for" => return [← forStatement g start false]
  | .reserved "while" => return [← whileStatement g]
  | .reserved "try" => return [← tryStatement g]
  | .reserved "with" => return [← withStatement g start false]
  | .reserved "def" => return [← definition g []]
  | .reserved "class" => return [← definition g []]
  | .reserved "async" => return [← asyncStatement g]
  | .op "@" =>
    let ds ← decorators g
    return [← definition g ds]
  | .name "match" => matchOrLine g
  | _ => simpleLine g

/-- Statements up to a lexeme that is not read. -/
def statements (g : Grammar) (close : Lexeme) : Reader (List Stmt) := do
  let lines ← loop (fun (lines : List (List Stmt)) => do
    if (← peek) == close then return none else return some ((← statement g) :: lines)) []
  return lines.reverse.flatten

/-- A block: a line of statements, or statements that are indented. -/
def block (g : Grammar) : Reader (List Stmt) := do
  if (← peek) == .newline then
    let _ ← next
    lexeme .indent
    let body ← statements g .dedent
    guard (!body.isEmpty)
    lexeme .dedent
    return body
  else simpleLine g

end HistoryMetrics.Python.Rule
