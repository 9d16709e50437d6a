import HistoryMetrics.Unicode.Printable

/-! # Quoted text

    A text in a message is shown between quotes, with escapes for what cannot be printed. Single
    quotes are used unless the text holds some and no double ones.

    The text is a list of code points, so that halves of surrogate pairs can be shown as well. -/

namespace HistoryMetrics.Text

/-- A hexadecimal numeral of exactly `n` digits, in small letters. -/
def hexDigits : (n : Nat) → (value : Nat) → List Char
  | 0, _ => []
  | n + 1, value => hexDigits n (value / 16) ++ [Nat.digitChar (value % 16)]

/-- The escape of a code point by number. -/
def numericEscape (code : Nat) : List Char :=
  if code < 0x100 then '\\' :: 'x' :: hexDigits 2 code
  else if code < 0x10000 then '\\' :: 'u' :: hexDigits 4 code
  else '\\' :: 'U' :: hexDigits 8 code

/-- Is the code point a character that can be printed? -/
def isPrintableCode (code : Nat) : Bool :=
  !(0xD800 ≤ code && code < 0xE000) && Unicode.isPrintable (Char.ofNat code)

/-- How a code point is shown between the given quotes. -/
def quoteCode (quote : Char) (code : Nat) : List Char :=
  if code == quote.toNat then ['\\', quote]
  else if code == 0x5C then ['\\', '\\']
  else if code == 0x09 then ['\\', 't']
  else if code == 0x0A then ['\\', 'n']
  else if code == 0x0D then ['\\', 'r']
  else if isPrintableCode code then [Char.ofNat code]
  else numericEscape code

/-- The quotes around a text. -/
def quoteFor (codes : List Nat) : Char :=
  if codes.contains 0x27 && !codes.contains 0x22 then '"' else '\''

/-- A text between quotes. -/
def quoteCodes (codes : List Nat) : String :=
  let q := quoteFor codes
  String.ofList (q :: codes.flatMap (quoteCode q) ++ [q])

/-- A string between quotes. -/
def quoted (s : String) : String :=
  quoteCodes (s.toList.map Char.toNat)

/-- How an octet is shown between the given quotes. -/
def quoteOctet (quote : Char) (octet : Nat) : List Char :=
  if octet == quote.toNat then ['\\', quote]
  else if octet == 0x5C then ['\\', '\\']
  else if octet == 0x09 then ['\\', 't']
  else if octet == 0x0A then ['\\', 'n']
  else if octet == 0x0D then ['\\', 'r']
  else if 0x20 ≤ octet && octet < 0x7F then [Char.ofNat octet]
  else numericEscape octet

/-- Octets between quotes, marked as octets. -/
def quoteOctets (octets : List UInt8) : String :=
  let ns := octets.map UInt8.toNat
  let q := quoteFor ns
  String.ofList ('b' :: q :: ns.flatMap (quoteOctet q) ++ [q])

end HistoryMetrics.Text
