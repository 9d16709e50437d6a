import HistoryMetrics.Text.Quoted

/-! # What is wrong with a settings file

    A file that does not belong to the TOML notation has a defect at some place. The place is known by
    the number of characters from there to the end of the file.

    - `Defect.message`: what is wrong, in words
    - `TomlError.message`: with the place
-/

namespace HistoryMetrics.Toml

/-- **What is wrong.** Paths are those of the tables and entries concerned. -/
inductive Defect where
  | noStatement
  | noLineEnd
  | notClosed (mark : String)
  | foundControl (c : Char)
  | declaredTwice (path : List String)
  | overwritten
  | noTableEnd
  | noListEnd
  | immutable (path : List String)
  | redefined (path : List String)
  | noEqualsSign
  | noKey
  | openArray
  | openTable
  | duplicate (name : String)
  | strayBackslash
  | noHexValue
  | noCharacter
  | openString
  | illegalControl (c : Char)
  | noSuchDay
  | noValue
deriving Repr, DecidableEq

/-- A path as it is shown: its names in parentheses, with a comma after a name that stands alone. -/
def pathShown : List String → String
  | [name] => "(" ++ Text.quoted name ++ ",)"
  | names => "(" ++ ", ".intercalate (names.map Text.quoted) ++ ")"

/-- **What is wrong, in words.** -/
def Defect.message : Defect → String
  | .noStatement => "Invalid statement"
  | .noLineEnd => "Expected newline or end of document after a statement"
  | .notClosed mark => "Expected " ++ Text.quoted mark
  | .foundControl c => "Found invalid character " ++ Text.quoted c.toString
  | .declaredTwice path => "Cannot declare " ++ pathShown path ++ " twice"
  | .overwritten => "Cannot overwrite a value"
  | .noTableEnd => "Expected ']' at the end of a table declaration"
  | .noListEnd => "Expected ']]' at the end of an array declaration"
  | .immutable path => "Cannot mutate immutable namespace " ++ pathShown path
  | .redefined path => "Cannot redefine namespace " ++ pathShown path
  | .noEqualsSign => "Expected '=' after a key in a key/value pair"
  | .noKey => "Invalid initial character for a key part"
  | .openArray => "Unclosed array"
  | .openTable => "Unclosed inline table"
  | .duplicate name => "Duplicate inline table key " ++ Text.quoted name
  | .strayBackslash => "Unescaped '\\' in a string"
  | .noHexValue => "Invalid hex value"
  | .noCharacter => "Escaped character is not a Unicode scalar value"
  | .openString => "Unterminated string"
  | .illegalControl c => "Illegal character " ++ Text.quoted c.toString
  | .noSuchDay => "Invalid date or datetime"
  | .noValue => "Invalid value"

/-- **Why a settings file cannot be read**: it has a defect, so many characters before its end, or it
    holds a whole number with more digits than are accepted. -/
inductive TomlError where
  | malformed (d : Defect) (remaining : Nat)
  | tooManyDigits (digits : Nat)
deriving Repr, DecidableEq

/-- The line and the column at the end of a text. -/
def coordinates (before : List Char) : String :=
  let line := before.count '\n' + 1
  let column := (before.reverse.takeWhile fun c => c != '\n').length + 1
  "line " ++ toString line ++ ", column " ++ toString column

/-- The place so many characters before the end of a text. -/
def place (text : List Char) (remaining : Nat) : String :=
  if remaining = 0 then "end of document"
  else coordinates (text.take (text.length - remaining))

/-- **A defect with its place in a text.** -/
def located (text : List Char) (d : Defect) (remaining : Nat) : String :=
  d.message ++ " (at " ++ place text remaining ++ ")"

/-- What a reader gives: what it read and the rest of the text. -/
abbrev Read (α : Type) : Type := Except TomlError (α × List Char)

/-- Finds a defect where the given rest of the text begins. -/
def defect {α : Type} (d : Defect) (rest : List Char) : Except TomlError α :=
  .error (.malformed d rest.length)

end HistoryMetrics.Toml
