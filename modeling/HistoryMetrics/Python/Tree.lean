import HistoryMetrics.Number.Binary64

/-! # Syntax trees of Python source

    The tree that the grammar of Python 3.11 gives a source text, as far as the measures and the
    printing of annotations can tell trees apart.

    - expressions, with comprehensions, keyword arguments and parameter lists inside them
    - patterns of match statements
    - statements: those that are one line of their own (`Simple`) and those that have a body

    Every node knows the lines it spans. The column of a node is the offset in bytes of its first
    character, which is what tells an `elif` from an `if` alone in an `else` part.
-/

namespace HistoryMetrics.Python

/-- **Where a node stands**: its first line, the byte offset of its start in that line, and its
    last line. -/
structure Span where
  line : Nat
  column : Nat
  endLine : Nat
deriving Repr, DecidableEq, Inhabited

/-! ## Operators and constants -/

/-- The two connectives. -/
inductive BoolOp where
  | both
  | either
deriving Repr, DecidableEq

/-- The operators before an operand. -/
inductive UnaryOp where
  | invert
  | negate
  | plus
  | minus
deriving Repr, DecidableEq

/-- The arithmetic and bitwise operators between two operands. -/
inductive BinaryOp where
  | add
  | sub
  | mult
  | matMult
  | div
  | mod
  | pow
  | shiftLeft
  | shiftRight
  | bitOr
  | bitXor
  | bitAnd
  | floorDiv
deriving Repr, DecidableEq

/-- The comparisons. -/
inductive CompareOp where
  | equal
  | notEqual
  | less
  | lessEqual
  | greater
  | greaterEqual
  | same
  | notSame
  | member
  | notMember
deriving Repr, DecidableEq

/-- **A literal.** A text literal is a list of code points, since an escape may name half of a
    surrogate pair; `marked` tells whether it was written with the prefix `u`. -/
inductive Constant where
  | none
  | true
  | false
  | ellipsis
  | integer (value : Nat)
  | real (value : Binary64)
  | imaginary (value : Binary64)
  | text (codes : List Nat) (marked : Bool)
  | bytes (octets : List UInt8)
deriving Repr, DecidableEq, Inhabited

/-- How a replacement field turns its value into text, when it says so. -/
inductive Conversion where
  | text
  | quoted
  | ascii
deriving Repr, DecidableEq

/-- The three displays that list their elements. -/
inductive Display where
  | list
  | tuple
  | set
deriving Repr, DecidableEq

/-- The three comprehensions with one element expression. -/
inductive Gather where
  | list
  | set
  | generator
deriving Repr, DecidableEq

/-! ## Expressions -/

mutual

/-- **An expression.** -/
inductive Expr where
  | constant (span : Span) (value : Constant)
  | name (span : Span) (id : String)
  | attribute (span : Span) (value : Expr) (attr : String)
  | subscript (span : Span) (value index : Expr)
  | call (span : Span) (callee : Expr) (args : List Expr) (keywords : List Keyword)
  | boolOp (span : Span) (op : BoolOp) (values : List Expr)
  | unary (span : Span) (op : UnaryOp) (operand : Expr)
  | binary (span : Span) (op : BinaryOp) (left right : Expr)
  | compare (span : Span) (left : Expr) (ops : List CompareOp) (comparators : List Expr)
  | conditional (span : Span) (test body orElse : Expr)
  | named (span : Span) (target value : Expr)
  | lambda (span : Span) (params : Parameters) (body : Expr)
  | display (span : Span) (kind : Display) (elements : List Expr)
  | dict (span : Span) (keys : List (Option Expr)) (values : List Expr)
  | gather (span : Span) (kind : Gather) (element : Expr) (clauses : List Comprehension)
  | gatherDict (span : Span) (key value : Expr) (clauses : List Comprehension)
  | await (span : Span) (value : Expr)
  | yield (span : Span) (value : Option Expr)
  | yieldFrom (span : Span) (value : Expr)
  | starred (span : Span) (value : Expr)
  | formatted (span : Span) (value : Expr) (conversion : Option Conversion) (spec : Option Expr)
  | joined (span : Span) (parts : List Expr)
  | slice (span : Span) (lower upper step : Option Expr)

/-- One `for` clause of a comprehension, with its filters. -/
inductive Comprehension where
  | mk (isAsync : Bool) (target source : Expr) (filters : List Expr)

/-- A keyword argument; without a name it unpacks a mapping. -/
inductive Keyword where
  | mk (name : Option String) (value : Expr)

/-- **A parameter list.** `defaults` belong to the last of the positional parameters,
    `keywordDefaults` to the keyword-only ones one by one. -/
inductive Parameters where
  | mk (positionalOnly positional : List Parameter) (rest : Option Parameter)
      (keywordOnly : List Parameter) (keywordDefaults : List (Option Expr))
      (keywordRest : Option Parameter) (defaults : List Expr)

/-- A parameter with its annotation. -/
inductive Parameter where
  | mk (name : String) (hint : Option Expr)

end

instance : Inhabited Expr := ⟨.name default ""⟩

/-- Where the expression stands. -/
def Expr.span : Expr → Span
  | .constant s _ | .name s _ | .attribute s _ _ | .subscript s _ _ | .call s _ _ _
  | .boolOp s _ _ | .unary s _ _ | .binary s _ _ _ | .compare s _ _ _ | .conditional s _ _ _
  | .named s _ _ | .lambda s _ _ | .display s _ _ | .dict s _ _ | .gather s _ _ _
  | .gatherDict s _ _ _ | .await s _ | .yield s _ | .yieldFrom s _ | .starred s _
  | .formatted s _ _ _ | .joined s _ | .slice s _ _ _ => s

/-- The name of a parameter. -/
def Parameter.name : Parameter → String
  | .mk name _ => name

/-- No parameters at all. -/
def Parameters.empty : Parameters := .mk [] [] none [] [] none []

/-! ## Patterns -/

/-- **A pattern.** `capture` without a pattern binds anything, without a name it binds nothing. -/
inductive Pattern where
  | value (span : Span) (value : Expr)
  | singleton (span : Span) (value : Constant)
  | sequence (span : Span) (patterns : List Pattern)
  | mapping (span : Span) (keys : List Expr) (patterns : List Pattern) (rest : Option String)
  | record (span : Span) (type : Expr) (positional : List Pattern) (fields : List String)
      (fieldPatterns : List Pattern)
  | star (span : Span) (name : Option String)
  | capture (span : Span) (pattern : Option Pattern) (name : Option String)
  | either (span : Span) (patterns : List Pattern)

instance : Inhabited Pattern := ⟨.star default none⟩

/-- Where the pattern stands. -/
def Pattern.span : Pattern → Span
  | .value s _ | .singleton s _ | .sequence s _ | .mapping s _ _ _ | .record s _ _ _ _
  | .star s _ | .capture s _ _ | .either s _ => s

/-! ## Statements -/

/-- An imported name and the name it gets. -/
structure Alias where
  name : String
  asName : Option String
deriving Repr, DecidableEq

/-- **A statement without a body.** -/
inductive Simple where
  | expr (value : Expr)
  | assign (targets : List Expr) (value : Expr)
  | augmented (target : Expr) (op : BinaryOp) (value : Expr)
  | annotated (target annotation : Expr) (value : Option Expr)
  | giveBack (value : Option Expr)
  | delete (targets : List Expr)
  | raise (exception cause : Option Expr)
  | assert (test : Expr) (message : Option Expr)
  | importNames (names : List Alias)
  | importFrom (module : Option String) (names : List Alias) (level : Nat)
  | scope (isGlobal : Bool) (names : List String)
  | pass
  | leave
  | next

/-- One resource of a `with` statement. -/
structure WithItem where
  context : Expr
  target : Option Expr

mutual

/-- **A statement.** -/
inductive Stmt where
  | simple (span : Span) (content : Simple)
  | ifElse (span : Span) (test : Expr) (body orElse : List Stmt)
  | forEach (span : Span) (isAsync : Bool) (target source : Expr) (body orElse : List Stmt)
  | whileLoop (span : Span) (test : Expr) (body orElse : List Stmt)
  | withBlock (span : Span) (isAsync : Bool) (items : List WithItem) (body : List Stmt)
  | tryBlock (span : Span) (isGroup : Bool) (body : List Stmt) (handlers : List Handler)
      (orElse final : List Stmt)
  | switch (span : Span) (subject : Expr) (cases : List MatchCase)
  | function (span : Span) (isAsync : Bool) (name : String) (params : Parameters)
      (body : List Stmt) (decorators : List Expr) (returns : Option Expr)
  | classDef (span : Span) (name : String) (bases : List Expr) (keywords : List Keyword)
      (body : List Stmt) (decorators : List Expr)

/-- An exception handler. -/
inductive Handler where
  | mk (span : Span) (type : Option Expr) (name : Option String) (body : List Stmt)

/-- A case of a match statement. -/
inductive MatchCase where
  | mk (pattern : Pattern) (guard : Option Expr) (body : List Stmt)

end

instance : Inhabited Stmt := ⟨.simple default .pass⟩

/-- Where the statement stands. The decorators of a definition stand before it. -/
def Stmt.span : Stmt → Span
  | .simple s _ | .ifElse s _ _ _ | .forEach s _ _ _ _ _ | .whileLoop s _ _ _
  | .withBlock s _ _ _ | .tryBlock s _ _ _ _ _ | .switch s _ _ | .function s _ _ _ _ _ _
  | .classDef s _ _ _ _ _ => s

end HistoryMetrics.Python
