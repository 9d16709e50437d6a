/-! # Lines of a text

    Two conventions meet here. A program's output is read with **universal newlines**: a carriage
    return, alone or before a line feed, is a line feed. A text is cut into **lines** at every
    character that Unicode calls a line boundary.

    - `universalNewlines`: the first convention
    - `lines`: the second; a terminator at the very end opens no further line
    - `splitOn`, `splitAtMost`: pieces between one given separator
-/

namespace HistoryMetrics.Text

/-- Both spellings of a line end that begin with a carriage return become a line feed. -/
def universalNewlines : List Char → List Char
  | [] => []
  | '\r' :: '\n' :: rest => '\n' :: universalNewlines rest
  | c :: rest => (if c == '\r' then '\n' else c) :: universalNewlines rest

/-- **Line boundaries**: line feed, vertical tab, form feed, carriage return, the three
    information separators FS, GS and RS, next line, line separator, paragraph separator. -/
def isLineBreak (c : Char) : Bool :=
  let n := c.toNat
  (0x0A ≤ n && n ≤ 0x0D) || (0x1C ≤ n && n ≤ 0x1E) || n == 0x85 || n == 0x2028 || n == 0x2029

/-- A character joined to the front of the first line. -/
def joinLine (c : Char) : List (List Char) → List (List Char)
  | [] => [[c]]
  | l :: ls => (c :: l) :: ls

/-- The lines of a text, without their terminators. A carriage return with the line feed after it
    is one terminator. -/
def lines : List Char → List (List Char)
  | [] => []
  | '\r' :: '\n' :: rest => [] :: lines rest
  | c :: rest => if isLineBreak c then [] :: lines rest else joinLine c (lines rest)

/-- The pieces of a text between the separators `sep`; there is always one more than separators. -/
def splitOn (sep : Char) : List Char → List (List Char)
  | [] => [[]]
  | c :: rest => if c == sep then [] :: splitOn sep rest else joinLine c (splitOn sep rest)

/-- Like `splitOn`, but only the first `n` separators cut: the last piece keeps the others. -/
def splitAtMost (sep : Char) : Nat → List Char → List (List Char)
  | 0, cs => [cs]
  | _ + 1, [] => [[]]
  | n + 1, c :: rest =>
    if c == sep then [] :: splitAtMost sep n rest
    else joinLine c (splitAtMost sep (n + 1) rest)

/-- The text after the last separator, or the whole text when it holds none. -/
def afterLast (sep : Char) (cs : List Char) : List Char :=
  (splitOn sep cs).getLastD []

end HistoryMetrics.Text
