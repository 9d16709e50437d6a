import HistoryMetrics.Python.Grammar.Expression

/-! # Patterns

    A pattern is read from its first lexeme. The name `_` is the wildcard wherever a pattern may
    start; any other name captures, unless it leads on to an attribute or to the arguments of a
    class. -/

namespace HistoryMetrics.Python.Rule

open Reader

/-- Is the literal an imaginary number? -/
def isImaginary : Constant → Bool
  | .imaginary _ => true
  | _ => false

/-- A numeral. -/
def numeral : Reader Expr := do
  let start ← here
  match (← next).lexeme with
  | .number value => return .constant start value
  | _ => fail

/-- The numeral that an expression is, without its sign, is imaginary. -/
def hasImaginary : Expr → Bool
  | .constant _ c => isImaginary c
  | .unary _ _ (.constant _ c) => isImaginary c
  | _ => false

/-- A number with its sign, or the sum of a real and an imaginary one. -/
def signedNumber : Reader Expr := do
  let start ← here
  let first ← if ← acceptOp "-" then do
      let operand ← numeral
      pure (Expr.unary (← spanFrom start) .minus operand)
    else numeral
  match operatorOf [("+", BinaryOp.add), ("-", BinaryOp.sub)] (← peek) with
  | none => return first
  | some o =>
    let _ ← next
    let second ← numeral
    guard (!hasImaginary first && hasImaginary second)
    return .binary (← spanFrom start) o first second

/-- A name with one attribute access or more after it. -/
def dotted (id : String) (start : Span) : Reader Expr :=
  loop (fun value => do
    if ← acceptOp "." then
      let attr ← name
      return some (.attribute (← spanFrom start) value attr)
    else return none) (.name start id)

/-- The name that a capture binds. -/
def captureName : Reader String := do
  let id ← name
  guard (id != "_")
  let l ← peek
  guard (l != .op "." && l != .op "(" && l != .op "=")
  return id

/-- An item of a sequence pattern. -/
def sequenceItem (g : Grammar) : Reader Pattern := do
  let start ← here
  if ← acceptOp "*" then
    match ← peek with
    | .name "_" =>
      let _ ← next
      return .star (← spanFrom start) none
    | _ =>
      let id ← captureName
      return .star (← spanFrom start) (some id)
  else g .pattern

/-- Is the item a star pattern? -/
def isStarPattern : Pattern → Bool
  | .star .. => true
  | _ => false

/-- A key of a mapping pattern. -/
def patternKey (g : Grammar) : Reader Expr := do
  let start ← here
  match ← peek with
  | .number _ => signedNumber
  | .op "-" => signedNumber
  | .string _ => strings g
  | .reserved w =>
    let _ ← next
    return .constant start (← lift (wordConstants.lookup w))
  | .name id =>
    let _ ← next
    guard (← atOp ".")
    dotted id start
  | _ => fail

/-- An entry of a mapping pattern; the last one may capture the rest. -/
inductive MappingItem where
  | entry (key : Expr) (pattern : Pattern)
  | rest (name : String)

/-- An entry of a mapping pattern. -/
def mappingItem (g : Grammar) : Reader MappingItem := do
  if ← acceptOp "**" then return .rest (← captureName)
  else
    let key ← patternKey g
    op ":"
    return .entry key (← g .pattern)

/-- The entries of a mapping pattern, of which only the last one may capture the rest. -/
def mappingOf (span : Span) : List Expr → List Pattern → List MappingItem → Option Pattern
  | keys, ps, [] => some (.mapping span keys.reverse ps.reverse none)
  | keys, ps, [.rest id] => some (.mapping span keys.reverse ps.reverse (some id))
  | keys, ps, .entry k p :: items => mappingOf span (k :: keys) (p :: ps) items
  | _, _, _ => none

/-- An argument of a class pattern. -/
def classItem (g : Grammar) : Reader (Option String × Pattern) := do
  match ← peek, ← peekSecond with
  | .name id, .op "=" =>
    let _ ← next
    let _ ← next
    return (some id, ← g .pattern)
  | _, _ => return (none, ← g .pattern)

/-- The arguments of a class pattern: positional ones before named ones. -/
def classOf (span : Span) (type : Expr) (items : List (Option String × Pattern)) :
    Option Pattern :=
  let positional := items.takeWhile fun i => i.1.isNone
  let named := items.dropWhile fun i => i.1.isNone
  if named.all fun i => i.1.isSome then
    some (.record span type (positional.map (·.2)) (named.filterMap (·.1)) (named.map (·.2)))
  else none

/-- A pattern that starts with a name: a capture, a value or a class. -/
def namedPattern (g : Grammar) (start : Span) (id : String) : Reader Pattern := do
  let value ← dotted id start
  if ← acceptOp "(" then
    if ← acceptOp ")" then return .record (← spanFrom start) value [] [] []
    else
      let (items, _) ← separated "," (fun l => l == .op ")") (classItem g)
      op ")"
      lift (classOf (← spanFrom start) value items)
  else
    guard (!(← atOp "="))
    match value with
    | .name .. => return .capture (← spanFrom start) none (some id)
    | _ => return .value (← spanFrom start) value

/-- A pattern that is closed in itself. -/
def closedPattern (g : Grammar) : Reader Pattern := do
  let start ← here
  match ← peek with
  | .number _ =>
    let value ← signedNumber
    return .value (← spanFrom start) value
  | .op "-" =>
    let value ← signedNumber
    return .value (← spanFrom start) value
  | .string _ =>
    let value ← strings g
    return .value (← spanFrom start) value
  | .reserved w =>
    let _ ← next
    return .singleton start (← lift (wordConstants.lookup w))
  | .name id =>
    let _ ← next
    if id == "_" then return .capture start none none else namedPattern g start id
  | .op "(" =>
    let _ ← next
    if ← acceptOp ")" then return .sequence (← spanFrom start) []
    else
      let first ← sequenceItem g
      if ← acceptOp ")" then
        guard (!isStarPattern first)
        return first
      else
        let (items, _) ← separatedFrom "," (fun l => l == .op ")") (sequenceItem g) [first]
        op ")"
        return .sequence (← spanFrom start) items
  | .op "[" =>
    let _ ← next
    if ← acceptOp "]" then return .sequence (← spanFrom start) []
    else
      let (items, _) ← separated "," (fun l => l == .op "]") (sequenceItem g)
      op "]"
      return .sequence (← spanFrom start) items
  | .op "\x7b" =>
    let _ ← next
    if ← acceptOp "\x7d" then return .mapping (← spanFrom start) [] [] none
    else
      let (items, _) ← separated "," (fun l => l == .op "\x7d") (mappingItem g)
      op "\x7d"
      lift (mappingOf (← spanFrom start) [] [] items)
  | _ => fail

/-- A pattern: alternatives of closed ones, perhaps captured under a name. -/
def pattern (g : Grammar) : Reader Pattern := do
  let start ← here
  let first ← closedPattern g
  let ps ← loop (fun (ps : List Pattern) => do
    if ← acceptOp "|" then return some ((← closedPattern g) :: ps) else return none) [first]
  let whole ← match ps with
    | [_] => pure first
    | _ => do pure (Pattern.either (← spanFrom start) ps.reverse)
  if ← acceptReserved "as" then
    let id ← captureName
    return .capture (← spanFrom start) (some whole) (some id)
  else return whole

/-- The pattern of a case: items with commas make a sequence. -/
def casePattern (g : Grammar) : Reader Pattern := do
  let start ← here
  let (items, hasComma) ←
    separated "," (fun l => l == .op ":" || l == .reserved "if") (sequenceItem g)
  if hasComma then return .sequence (← spanFrom start) items
  else
    let only ← lift items.head?
    guard (!isStarPattern only)
    return only

end HistoryMetrics.Python.Rule
