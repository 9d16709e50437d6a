/-! # Upper case in full

    Upper-casing a character may give several. Only results within ASCII matter here, because the
    words that are compared are ASCII: besides the small Latin letters, ten characters have one. -/

namespace HistoryMetrics.Unicode

/-- The upper-case form of a character when that form lies in ASCII; any other character stands
    for itself, which equals no ASCII word either. -/
def upperAscii (c : Char) : List Char :=
  match c with
  | 'ß' => ['S', 'S']
  | 'ı' => ['I']
  | 'ſ' => ['S']
  | '\uFB00' => ['F', 'F']
  | '\uFB01' => ['F', 'I']
  | '\uFB02' => ['F', 'L']
  | '\uFB03' => ['F', 'F', 'I']
  | '\uFB04' => ['F', 'F', 'L']
  | '\uFB05' => ['S', 'T']
  | '\uFB06' => ['S', 'T']
  | _ => [c.toUpper]

/-- The upper-case form of a text, as far as it lies in ASCII. -/
def upper (cs : List Char) : List Char :=
  cs.flatMap upperAscii

end HistoryMetrics.Unicode
