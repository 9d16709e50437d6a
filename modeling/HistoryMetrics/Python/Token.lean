import HistoryMetrics.Python.Tree

/-! # Tokens

    What the layout and the words of a source text amount to: names, reserved words, literals,
    operators, and the three marks of the layout (end of a logical line, a deeper block begins, a
    block ends). -/

namespace HistoryMetrics.Python

/-- **A string literal as written**: its prefix and the characters between its quotes. -/
structure StringLiteral where
  isRaw : Bool
  isBytes : Bool
  isFormat : Bool
  isMarked : Bool
  body : List Char
deriving Repr, DecidableEq

/-- What a token is. -/
inductive Lexeme where
  | name (id : String)
  | reserved (word : String)
  | number (value : Constant)
  | string (literal : StringLiteral)
  | op (symbol : String)
  | newline
  | indent
  | dedent
  | endMarker
deriving Repr, DecidableEq

/-- A token and where it stands. -/
structure Token where
  lexeme : Lexeme
  span : Span
deriving Repr, DecidableEq

/-- **Reserved words**: they are never names. -/
def reservedWords : List String :=
  ["False", "None", "True", "and", "as", "assert", "async", "await", "break", "class", "continue",
   "def", "del", "elif", "else", "except", "finally", "for", "from", "global", "if", "import",
   "in", "is", "lambda", "nonlocal", "not", "or", "pass", "raise", "return", "try", "while",
   "with", "yield"]

/-- Operators of three characters. -/
def threeCharOperators : List (Char × Char × Char) :=
  [('*', '*', '='), ('.', '.', '.'), ('/', '/', '='), ('<', '<', '='), ('>', '>', '=')]

/-- Operators of two characters. -/
def twoCharOperators : List (Char × Char) :=
  [('!', '='), ('%', '='), ('&', '='), ('*', '*'), ('*', '='), ('+', '='), ('-', '='),
   ('-', '>'), ('/', '/'), ('/', '='), (':', '='), ('<', '<'), ('<', '='), ('<', '>'),
   ('=', '='), ('>', '='), ('>', '>'), ('@', '='), ('^', '='), ('|', '=')]

/-- Operators of one character. -/
def oneCharOperators : List Char :=
  "%&()*+,-./:;<=>@[]^\x7b|\x7d~".toList

/-- The length of the operator at the start of a text: the longest one wins. -/
def operatorLength : List Char → Option Nat
  | a :: b :: c :: _ =>
    if threeCharOperators.contains (a, b, c) then some 3
    else if twoCharOperators.contains (a, b) then some 2
    else if oneCharOperators.contains a then some 1 else none
  | [a, b] =>
    if twoCharOperators.contains (a, b) then some 2
    else if oneCharOperators.contains a then some 1 else none
  | [a] => if oneCharOperators.contains a then some 1 else none
  | [] => none

/-- The bracket that closes an opening one. -/
def closing? : Char → Option Char
  | '(' => some ')'
  | '[' => some ']'
  | '\x7b' => some '\x7d'
  | _ => none

/-- Is this a closing bracket? -/
def isClosing (c : Char) : Bool :=
  c == ')' || c == ']' || c == '\x7d'

end HistoryMetrics.Python
