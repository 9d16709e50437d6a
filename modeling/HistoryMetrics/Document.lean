import HistoryMetrics.Value

/-! # Values as documents

    The text of a value in the JSON notation, on one line and in ASCII: a space after every comma and
    colon, other characters as escapes of their UTF-16 units, numbers as in messages. What the
    notation has no form for is written as the text that a message would show.

    - `Document.quoted`: a string
    - `Document.text`: a value
-/

namespace HistoryMetrics.Document

/-- The escape of one UTF-16 unit. -/
def unitEscape (unit : Nat) : List Char := '\\' :: 'u' :: Text.hexDigits 4 unit

/-- A character of a string. -/
def quotedChar (c : Char) : List Char :=
  if c == '"' then ['\\', '"']
  else if c == '\\' then ['\\', '\\']
  else if c == '\n' then ['\\', 'n']
  else if c == '\r' then ['\\', 'r']
  else if c == '\t' then ['\\', 't']
  else if c == '\x08' then ['\\', 'b']
  else if c == '\x0c' then ['\\', 'f']
  else
    let n := c.toNat
    if n < 0x20 then unitEscape n
    else if n < 0x7F then [c]
    else if n < 0x10000 then unitEscape n
    else
      unitEscape (0xD800 + (n - 0x10000) / 0x400) ++ unitEscape (0xDC00 + (n - 0x10000) % 0x400)

/-- **A string** between its quotes. -/
def quoted (s : String) : String :=
  String.ofList ('"' :: s.toList.flatMap quotedChar ++ ['"'])

/-- A number. -/
def number : Number → String
  | .whole i => toString i
  | .real x => x.textWith Binary64.plain "Infinity" "NaN"

mutual

/-- **The document of a value.** -/
def text : Value → String
  | .null => "null"
  | .bool b => if b then "true" else "false"
  | .number n => number n
  | .text s => quoted s
  | .list items => "[" ++ ", ".intercalate (itemTexts items) ++ "]"
  | .table entries => "\x7b" ++ ", ".intercalate (entryTexts entries) ++ "\x7d"
  | v => quoted v.message

/-- The documents of the items of a list. -/
def itemTexts : List Value → List String
  | [] => []
  | v :: vs => text v :: itemTexts vs

/-- The entries of a table. -/
def entryTexts : List (String × Value) → List String
  | [] => []
  | (k, v) :: rest => (quoted k ++ ": " ++ text v) :: entryTexts rest

end

end HistoryMetrics.Document
