import HistoryMetrics.Number.Shortest
import HistoryMetrics.Python.Tree

/-! # Numeric literals

    A numeral is read from the start of a text. A low line may stand between two digits. The
    character after a numeral must not continue a word, except that the operators written as words
    (and `else`, `for`, `if`) may follow a numeral without a space. -/

namespace HistoryMetrics.Python

/-- Can the character stand in a word? Every character beyond ASCII can, until the word is
    examined. -/
def isWordChar (c : Char) : Bool :=
  c.isAlphanum || c == '_' || 0x80 ≤ c.toNat

/-- Can the character start a word? -/
def isWordStart (c : Char) : Bool :=
  c.isAlpha || c == '_' || 0x80 ≤ c.toNat

namespace Numeral

/-- The rest of a digit part: digits and single low lines, each with a digit after it. -/
def moreDigits (isDigit : Char → Bool) : List Char → Option (List Char × List Char)
  | [] => some ([], [])
  | '_' :: rest =>
    match rest with
    | [] => none
    | c :: rest' =>
      if isDigit c then (moreDigits isDigit rest').map fun p => (c :: p.1, p.2) else none
  | c :: rest =>
    if isDigit c then (moreDigits isDigit rest).map fun p => (c :: p.1, p.2)
    else some ([], c :: rest)

/-- Does the text start with the word, and the word end there? -/
def startsWord (word : List Char) (cs : List Char) : Bool :=
  cs.take word.length == word && !((cs.drop word.length).head?.any isWordChar)

/-- May a numeral end before this text? -/
def endsBefore : List Char → Bool
  | [] => true
  | c :: rest =>
    !isWordChar c ||
      (match c with
      | 'a' => startsWord "nd".toList rest
      | 'e' => startsWord "lse".toList rest
      | 'f' => startsWord "or".toList rest
      | 'i' => rest.head?.any fun d => d == 'f' || d == 'n' || d == 's'
      | 'n' => startsWord "ot".toList rest
      | 'o' => startsWord "r".toList rest
      | _ => false)

/-- A literal and the text after it, if the literal may end there. -/
def finish (value : Constant) (rest : List Char) : Option (Constant × List Char) :=
  if endsBefore rest then some (value, rest) else none

/-- The number written by digits in a base up to sixteen. -/
def ofDigits (base : Nat) (ds : List Char) : Nat :=
  ds.foldl (fun n c =>
    let d := c.toNat
    n * base + (if d ≤ 0x39 then d - 0x30 else if d ≤ 0x46 then d - 0x37 else d - 0x57)) 0

/-- Is the character a digit of the base? -/
def isDigitOf (base : Nat) (c : Char) : Bool :=
  (c.isDigit && c.toNat - 0x30 < base) ||
    (base == 16 && (('a' ≤ c && c ≤ 'f') || ('A' ≤ c && c ≤ 'F')))

/-- A numeral with a base mark, after the mark. -/
def based (base : Nat) (cs : List Char) : Option (Constant × List Char) :=
  match cs.dropWhile fun c => c == '_' with
  | [] => none
  | c :: _ =>
    if !isDigitOf base c || 1 < (cs.takeWhile fun c => c == '_').length then none
    else
      (moreDigits (isDigitOf base) (cs.dropWhile fun c => c == '_')).bind fun p =>
        if p.2.head?.any Char.isDigit then none
        else finish (.integer (ofDigits base p.1)) p.2

/-- The imaginary mark, or the end of a real numeral. -/
def imaginaryOr (n : Binary64.Numeral) (isReal : Bool) (cs : List Char) :
    Option (Constant × List Char) :=
  match cs with
  | 'j' :: rest => finish (.imaginary (n.value false)) rest
  | 'J' :: rest => finish (.imaginary (n.value false)) rest
  | _ =>
    if isReal then finish (.real (n.value false)) cs
    else finish (.integer (ofDigits 10 n.whole)) cs

/-- Digits before and after the point are read; an exponent may follow. A lone letter `e` belongs to
    a word after the numeral. -/
def exponentOr (whole fraction : List Char) (isReal : Bool) (cs : List Char) :
    Option (Constant × List Char) :=
  let withPower (negative : Bool) (rest : List Char) : Option (Constant × List Char) :=
    (moreDigits Char.isDigit rest).bind fun p =>
      let power : Int := ofDigits 10 p.1
      imaginaryOr ⟨whole, fraction, if negative then -power else power⟩ true p.2
  let plain := imaginaryOr ⟨whole, fraction, 0⟩ isReal cs
  match cs with
  | c :: rest =>
    if c == 'e' || c == 'E' then
      match rest with
      | '+' :: rest' => if rest'.head?.any Char.isDigit then withPower false rest' else none
      | '-' :: rest' => if rest'.head?.any Char.isDigit then withPower true rest' else none
      | _ => if rest.head?.any Char.isDigit then withPower false rest else plain
    else plain
  | [] => plain

/-- The text after a point that ends the digits `whole`. -/
def fractionAfter (whole : List Char) (cs : List Char) : Option (Constant × List Char) :=
  if cs.head?.any Char.isDigit then
    (moreDigits Char.isDigit cs).bind fun p => exponentOr whole p.1 true p.2
  else exponentOr whole [] true cs

/-- The longest decimal integer that is read. -/
def maxDigits : Nat := 4300

/-- A decimal numeral, from its first digit. Leading zeros are for real numbers, and for zero. -/
def decimal (cs : List Char) : Option (Constant × List Char) :=
  (moreDigits Char.isDigit cs).bind fun (ds, rest) =>
    match rest with
    | '.' :: rest' => fractionAfter ds rest'
    | _ =>
      (exponentOr ds [] false rest).bind fun r =>
        match r.1 with
        | .integer _ =>
          if (ds.head? == some '0' && ds.any fun c => c != '0') || maxDigits < ds.length then none
          else some r
        | _ => some r

/-- A numeral at the start of a text that starts with a digit, or with a point and a digit. -/
def read : List Char → Option (Constant × List Char)
  | '.' :: rest => fractionAfter [] rest
  | '0' :: c :: rest =>
    if c == 'x' || c == 'X' then based 16 rest
    else if c == 'o' || c == 'O' then based 8 rest
    else if c == 'b' || c == 'B' then based 2 rest
    else decimal ('0' :: c :: rest)
  | cs => decimal cs

end Numeral

end HistoryMetrics.Python
