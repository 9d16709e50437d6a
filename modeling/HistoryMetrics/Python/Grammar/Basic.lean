import HistoryMetrics.Python.Token

/-! # Readers of tokens

    - `Input`: the tokens still to be read, and the line where the last token read ends
    - `Reader`: a function from an input to a result and the input after it, or to nothing
    - `Nonterminal`, `Grammar`: the constructs that contain each other, and a reader for each

    The rules of the grammar are plain definitions that take the readers of the constructs inside
    them as an argument. The knot is tied once, with a bound on the depth of the nesting.
-/

namespace HistoryMetrics.Python

/-! ## Readers -/

/-- **The tokens still to be read**, how many they are, and the last line of the last one read that is
    not a mark of the layout. -/
structure Input where
  rest : List Token
  count : Nat
  endLine : Nat

/-- The input of a list of tokens that starts on the given line. -/
def Input.ofTokens (tokens : List Token) (line : Nat) : Input :=
  ⟨tokens, tokens.length, line⟩

/-- **A reader**: it succeeds with a result and the input after it, or fails. -/
def Reader (α : Type) : Type := Input → Option (α × Input)

namespace Reader

variable {α β : Type}

/-- The reader that reads nothing. -/
def done (a : α) : Reader α := fun i => some (a, i)

/-- One reader after the other. -/
def andThen (r : Reader α) (next : α → Reader β) : Reader β := fun i =>
  match r i with
  | some (a, i') => next a i'
  | none => none

instance : Monad Reader where
  pure := done
  bind := andThen

/-- The reader that fails. -/
def fail : Reader α := fun _ => none

/-- The first reader, or the second one from the same input when the first fails. -/
def orElse (r s : Reader α) : Reader α := fun i =>
  match r i with
  | some x => some x
  | none => s i

/-- What the reader would give, nothing being read; `none` when it would fail. -/
def attempt (r : Reader α) : Reader (Option α) := fun i =>
  match r i with
  | some (a, i') => some (some a, i')
  | none => some (none, i)

/-- Succeeds with the value of an option. -/
def lift : Option α → Reader α
  | some a => done a
  | none => fail

/-- Succeeds if the condition holds. -/
def guard (condition : Bool) : Reader Unit := if condition then done () else fail

/-- The next lexeme, which is not read. -/
def peek : Reader Lexeme := fun i =>
  match i.rest with
  | t :: _ => some (t.lexeme, i)
  | [] => none

/-- The lexeme after the next one. -/
def peekSecond : Reader Lexeme := fun i =>
  match i.rest with
  | _ :: t :: _ => some (t.lexeme, i)
  | _ => some (.endMarker, i)

/-- The layout marks do not count for where a construct ends. -/
def lastLine (t : Token) (before : Nat) : Nat :=
  match t.lexeme with
  | .newline | .indent | .dedent | .endMarker => before
  | _ => t.span.endLine

/-- Reads a token. -/
def next : Reader Token := fun i =>
  match i.rest with
  | t :: rest => some (t, ⟨rest, i.count - 1, lastLine t i.endLine⟩)
  | [] => none

/-- Reads the given lexeme. -/
def lexeme (l : Lexeme) : Reader Unit := do
  let t ← next
  guard (t.lexeme == l)

/-- Reads the operator. -/
def op (symbol : String) : Reader Unit := lexeme (.op symbol)

/-- Reads the reserved word. -/
def reserved (word : String) : Reader Unit := lexeme (.reserved word)

/-- Is the operator next? -/
def atOp (symbol : String) : Reader Bool := do
  return (← peek) == .op symbol

/-- Is the reserved word next? -/
def atReserved (word : String) : Reader Bool := do
  return (← peek) == .reserved word

/-- Reads the operator if it is next. -/
def acceptOp (symbol : String) : Reader Bool := do
  if ← atOp symbol then
    let _ ← next
    return true
  else return false

/-- Reads the reserved word if it is next. -/
def acceptReserved (word : String) : Reader Bool := do
  if ← atReserved word then
    let _ ← next
    return true
  else return false

/-- Reads a name. -/
def name : Reader String := do
  match (← next).lexeme with
  | .name id => return id
  | _ => fail

/-- Where the next token starts. -/
def here : Reader Span := fun i =>
  match i.rest with
  | t :: _ => some (t.span, i)
  | [] => none

/-- The span from a start to the end of the last token read. -/
def spanFrom (start : Span) : Reader Span := fun i =>
  some (⟨start.line, start.column, i.endLine⟩, i)

/-! ## Repetition -/

/-- Repeats a step until it gives nothing; `fuel` bounds the steps. -/
def iterate (step : α → Reader (Option α)) : (fuel : Nat) → α → Reader α
  | 0, _ => fail
  | fuel + 1, a => do
    match ← step a with
    | some b => iterate step fuel b
    | none => return a

/-- Repeats a step until it gives nothing. A step that gives something reads a token, so there are
    no more steps than tokens. -/
def loop (step : α → Reader (Option α)) (a : α) : Reader α := fun i =>
  iterate step (i.count + 1) a i

/-- Items with a separator between them, after the items in `before`, last one first. A separator
    may also stand at the end, where `ends` holds of the next lexeme. The flag tells whether there
    was a separator at all. -/
def separatedFrom (separator : String) (ends : Lexeme → Bool) (item : Reader α)
    (before : List α) : Reader (List α × Bool) := do
  let r ← loop (fun (s : List α × Bool × Bool) => do
    if s.2.2 then return none
    else if ← acceptOp separator then
      if ends (← peek) then return some (s.1, true, true)
      else
        let a ← item
        return some (a :: s.1, true, false)
    else return none) (before, false, false)
  return (r.1.reverse, r.2.1)

/-- One item or more with separators between them, perhaps one at the end. -/
def separated (separator : String) (ends : Lexeme → Bool) (item : Reader α) :
    Reader (List α × Bool) := do
  let a ← item
  separatedFrom separator ends item [a]

end Reader

/-! ## The grammar's shape -/

/-- **The constructs that contain each other.** -/
inductive Nonterminal where
  | expression
  | inversion
  | factor
  | primary
  | pattern
  | block
  | elseOfIf
deriving DecidableEq

/-- What a construct is read as. -/
abbrev Nonterminal.Result : Nonterminal → Type
  | .expression => Expr
  | .inversion => Expr
  | .factor => Expr
  | .primary => Expr
  | .pattern => Pattern
  | .block => List Stmt
  | .elseOfIf => List Stmt

/-- A reader for each construct. -/
abbrev Grammar : Type := (n : Nonterminal) → Reader n.Result

/-- Can an expression start with the lexeme? -/
def startsExpression : Lexeme → Bool
  | .name _ => true
  | .number _ => true
  | .string _ => true
  | .reserved w => ["True", "False", "None", "not", "lambda", "await"].contains w
  | .op s => ["(", "[", "\x7b", "+", "-", "~", "..."].contains s
  | _ => false

/-- Can an expression, or one that is unpacked, start with the lexeme? -/
def startsElement (l : Lexeme) : Bool :=
  startsExpression l || l == .op "*"

end HistoryMetrics.Python
