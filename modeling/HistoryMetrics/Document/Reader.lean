import HistoryMetrics.Unicode.Ranges
import HistoryMetrics.Value

/-! # Reading documents

    Reads the text of a value in the JSON notation. Nothing may stand around the value but white
    space. Numbers with a fraction or an exponent are real, all others whole.

    - `Document.ofText?`: the value that a text writes
-/

namespace HistoryMetrics.Document

/-- White space between the parts of a document. -/
def isSpace (c : Char) : Bool := c == ' ' || c == '\n' || c == '\r' || c == '\t'

/-- The text without white space in front. -/
def skipSpace (cs : List Char) : List Char := cs.dropWhile isSpace

/-- The character of a one-letter escape. -/
def shortEscape? (c : Char) : Option Char :=
  [('"', '"'), ('\\', '\\'), ('/', '/'), ('b', '\x08'), ('f', '\x0c'), ('n', '\n'), ('r', '\r'),
    ('t', '\t')].lookup c

/-- Is this a hexadecimal digit? -/
def isHexDigit (c : Char) : Bool :=
  c.isDigit || ('a' ≤ c && c ≤ 'f') || ('A' ≤ c && c ≤ 'F')

/-- The number that four hexadecimal digits write. -/
def unit? (cs : List Char) : Option Nat :=
  if cs.length = 4 && cs.all isHexDigit then some (Unicode.Ranges.hexNumber cs)
  else none

/-- Is this the first half of a surrogate pair? -/
def isHighHalf (n : Nat) : Bool := 0xD800 ≤ n && n < 0xDC00

/-- Is this the second half of a surrogate pair? -/
def isLowHalf (n : Nat) : Bool := 0xDC00 ≤ n && n < 0xE000

/-- The character of UTF-16 units in an escape, and what follows it. A half that stands alone becomes
    the replacement character. -/
def unitEscape? (cs : List Char) : Option (Char × List Char) := do
  let n ← unit? (cs.take 4)
  let rest := cs.drop 4
  if isHighHalf n then
    match rest with
    | '\\' :: 'u' :: more =>
      match unit? (more.take 4) with
      | some m =>
        if isLowHalf m then
          some (Char.ofNat (0x10000 + (n - 0xD800) * 0x400 + (m - 0xDC00)), more.drop 4)
        else some ('\uFFFD', rest)
      | none => some ('\uFFFD', rest)
    | _ => some ('\uFFFD', rest)
  else if isLowHalf n then some ('\uFFFD', rest)
  else some (Char.ofNat n, rest)

/-- The text of a string up to its closing quote, escapes as they stand; `done` is the text so far,
    last character first. -/
def rawString : (done : List Char) → List Char → Option (List Char × List Char)
  | _, [] => none
  | done, '"' :: rest => some (done.reverse, rest)
  | done, '\\' :: c :: rest => rawString (c :: '\\' :: done) rest
  | done, c :: rest => rawString (c :: done) rest

/-- The text with its escapes resolved; `fuel` is at least the length of the text. -/
def unescape : (fuel : Nat) → List Char → Option (List Char)
  | 0, _ => none
  | _ + 1, [] => some []
  | fuel + 1, '\\' :: 'u' :: rest =>
    match unitEscape? rest with
    | some (c, rest) => (unescape fuel rest).map fun cs => c :: cs
    | none => none
  | fuel + 1, '\\' :: c :: rest =>
    match shortEscape? c with
    | some d => (unescape fuel rest).map fun cs => d :: cs
    | none => none
  | fuel + 1, c :: rest => (unescape fuel rest).map fun cs => c :: cs

/-- Reads a string after its opening quote. -/
def readString (cs : List Char) : Option (String × List Char) :=
  match rawString [] cs with
  | none => none
  | some (raw, rest) => (unescape (raw.length + 1) raw).map fun cs => (String.ofList cs, rest)

/-- Is this a character of a number? -/
def isNumeric (c : Char) : Bool :=
  c.isDigit || c == '-' || c == '+' || c == '.' || c == 'e' || c == 'E'

/-- The whole number that a text writes. -/
def whole? : List Char → Option Int
  | '-' :: ds => (String.ofList ds).toNat?.map fun n => -(n : Int)
  | ds => (String.ofList ds).toNat?.map fun n => (n : Int)

/-- The number that a text writes. -/
def number? (cs : List Char) : Option Value :=
  match whole? cs with
  | some n => some (.int n)
  | none => (Binary64.ofText? cs).map fun x => .number (.real x)

/-- Takes a word off the front of a text. -/
def word? (word : String) (v : Value) (cs : List Char) : Option (Value × List Char) :=
  if word.toList.isPrefixOf cs then some (v, cs.drop word.length) else none

mutual

/-- Reads a value, `fuel` of nested parts at most. -/
def readValue : (fuel : Nat) → List Char → Option (Value × List Char)
  | 0, _ => none
  | fuel + 1, cs =>
    match skipSpace cs with
    | '"' :: rest => (readString rest).map fun (s, r) => (.text s, r)
    | '[' :: rest =>
      match skipSpace rest with
      | ']' :: r => some (.list [], r)
      | _ => (readItems fuel rest).map fun (vs, r) => (.list vs, r)
    | '\x7b' :: rest =>
      match skipSpace rest with
      | '\x7d' :: r => some (.table [], r)
      | _ => (readEntries fuel rest).map fun (es, r) => (.table es, r)
    | 't' :: rest => word? "rue" (.bool true) rest
    | 'f' :: rest => word? "alse" (.bool false) rest
    | 'n' :: rest => word? "ull" .null rest
    | c :: rest =>
      if isNumeric c then
        (number? (c :: rest.takeWhile isNumeric)).map fun v => (v, rest.dropWhile isNumeric)
      else none
    | [] => none

/-- Reads the items of a list up to its end. -/
def readItems : (fuel : Nat) → List Char → Option (List Value × List Char)
  | 0, _ => none
  | fuel + 1, cs =>
    match readValue fuel cs with
    | none => none
    | some (v, rest) =>
      match skipSpace rest with
      | ',' :: rest => (readItems fuel rest).map fun (vs, r) => (v :: vs, r)
      | ']' :: rest => some ([v], rest)
      | _ => none

/-- Reads the entries of a table up to its end. -/
def readEntries : (fuel : Nat) → List Char → Option (List (String × Value) × List Char)
  | 0, _ => none
  | fuel + 1, cs =>
    match skipSpace cs with
    | '"' :: rest =>
      match readString rest with
      | none => none
      | some (name, rest) =>
        match skipSpace rest with
        | ':' :: rest =>
          match readValue fuel rest with
          | none => none
          | some (v, rest) =>
            match skipSpace rest with
            | ',' :: rest => (readEntries fuel rest).map fun (es, r) => ((name, v) :: es, r)
            | '\x7d' :: rest => some ([(name, v)], rest)
            | _ => none
        | _ => none
    | _ => none

end

/-- **The value that a text writes.** -/
def ofText? (s : String) : Option Value :=
  let cs := s.toList
  match readValue (cs.length + 1) cs with
  | some (v, rest) => if (skipSpace rest).isEmpty then some v else none
  | none => none

end HistoryMetrics.Document
