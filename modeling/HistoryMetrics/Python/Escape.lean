import HistoryMetrics.Python.Numeral
import HistoryMetrics.Unicode.Name

/-! # Escapes in string literals

    - `decodeText`: the code points of a text literal; an unknown escape stands for itself
    - `decodeBytes`: the octets of a byte literal, which knows fewer escapes and only ASCII
-/

namespace HistoryMetrics.Python.Escape

/-- The number of a hexadecimal numeral of exactly `n` digits at the start of a text, and the rest. -/
def hex (n : Nat) (cs : List Char) : Option (Nat × List Char) :=
  let ds := cs.take n
  if ds.length == n && ds.all (Numeral.isDigitOf 16) then some (Numeral.ofDigits 16 ds, cs.drop n)
  else none

/-- Is this an octal digit? -/
def isOctal (c : Char) : Bool := Numeral.isDigitOf 8 c

/-- An octal numeral of at most `n` digits, and the rest. -/
def octal (n : Nat) (cs : List Char) : Nat × List Char :=
  let ds := (cs.take n).takeWhile isOctal
  (Numeral.ofDigits 8 ds, cs.drop ds.length)

/-- The character that a single letter or quote after a backslash stands for. -/
def simple? : Char → Option Nat
  | '\\' => some 0x5C
  | '\'' => some 0x27
  | '"' => some 0x22
  | 'a' => some 0x07
  | 'b' => some 0x08
  | 'f' => some 0x0C
  | 'n' => some 0x0A
  | 'r' => some 0x0D
  | 't' => some 0x09
  | 'v' => some 0x0B
  | _ => none

/-- The greatest code point. -/
def maxCode : Nat := 0x10FFFF

/-- The code points after a backslash: those of the escape and the text after it, or nothing when
    the escape is malformed. -/
def textEscape (c : Char) (rest : List Char) : Option (List Nat × List Char) :=
  match simple? c with
  | some n => some ([n], rest)
  | none =>
    if c == '\n' then some ([], rest)
    else if isOctal c then let r := octal 3 (c :: rest); some ([r.1], r.2)
    else if c == 'x' then (hex 2 rest).map fun r => ([r.1], r.2)
    else if c == 'u' then (hex 4 rest).map fun r => ([r.1], r.2)
    else if c == 'U' then
      (hex 8 rest).bind fun r => if maxCode < r.1 then none else some ([r.1], r.2)
    else if c == 'N' then
      match rest with
      | '\x7b' :: rest' =>
        let name := rest'.takeWhile fun d => d != '\x7d'
        match rest'.drop name.length with
        | _ :: after => (Unicode.named? name).map fun n => ([n], after)
        | [] => none
      | _ => none
    else some ([0x5C, c.toNat], rest)

/-- Decodes a text literal; `fuel` bounds the number of escapes and characters. -/
def decodeTextFrom : (fuel : Nat) → List Nat → List Char → Option (List Nat)
  | 0, _, _ => none
  | _ + 1, done, [] => some done.reverse
  | _ + 1, done, ['\\'] => some (0x5C :: done).reverse
  | fuel + 1, done, '\\' :: c :: rest =>
    match textEscape c rest with
    | some (codes, rest') => decodeTextFrom fuel (codes.reverse ++ done) rest'
    | none => none
  | fuel + 1, done, c :: rest => decodeTextFrom fuel (c.toNat :: done) rest

/-- The code points of the body of a text literal. -/
def decodeText (cs : List Char) : Option (List Nat) :=
  decodeTextFrom (cs.length + 1) [] cs

/-- The octets after a backslash. -/
def bytesEscape (c : Char) (rest : List Char) : Option (List Nat × List Char) :=
  match simple? c with
  | some n => some ([n], rest)
  | none =>
    if c == '\n' then some ([], rest)
    else if isOctal c then let r := octal 3 (c :: rest); some ([r.1 % 256], r.2)
    else if c == 'x' then (hex 2 rest).map fun r => ([r.1], r.2)
    else some ([0x5C, c.toNat], rest)

/-- Decodes a byte literal of ASCII characters. -/
def decodeBytesFrom : (fuel : Nat) → List Nat → List Char → Option (List Nat)
  | 0, _, _ => none
  | _ + 1, done, [] => some done.reverse
  | _ + 1, done, ['\\'] => some (0x5C :: done).reverse
  | fuel + 1, done, '\\' :: c :: rest =>
    match bytesEscape c rest with
    | some (octets, rest') => decodeBytesFrom fuel (octets.reverse ++ done) rest'
    | none => none
  | fuel + 1, done, c :: rest => decodeBytesFrom fuel (c.toNat :: done) rest

/-- The octets of the body of a byte literal. -/
def decodeBytes (isRaw : Bool) (cs : List Char) : Option (List UInt8) :=
  if cs.all fun c => c.toNat < 0x80 then
    if isRaw then some (cs.map fun c => UInt8.ofNat c.toNat)
    else (decodeBytesFrom (cs.length + 1) [] cs).map fun ns => ns.map UInt8.ofNat
  else none

end HistoryMetrics.Python.Escape
