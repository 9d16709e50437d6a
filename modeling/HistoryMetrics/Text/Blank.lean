/-! # White space at the ends of a text and between its words

    - `isBlank`: the characters that count as white space, in all of Unicode
    - `strip`, `stripEnd`: a text without the white space around it
    - `words`: the pieces of a text between runs of white space
-/

namespace HistoryMetrics.Text

/-- **White space**: the characters of bidirectional class WS, B or S and those of category Zs.
    The four information separators and the next-line character belong to it. -/
def isBlank (c : Char) : Bool :=
  let n := c.toNat
  (0x09 ≤ n && n ≤ 0x0D) || (0x1C ≤ n && n ≤ 0x20) || n == 0x85 || n == 0xA0 || n == 0x1680 ||
    (0x2000 ≤ n && n ≤ 0x200A) || n == 0x2028 || n == 0x2029 || n == 0x202F || n == 0x205F ||
    n == 0x3000

/-- The text without the characters that satisfy `drop` at its start. -/
def trimStart (drop : Char → Bool) (cs : List Char) : List Char :=
  cs.dropWhile drop

/-- The text without the characters that satisfy `drop` at its end. -/
def trimEnd (drop : Char → Bool) (cs : List Char) : List Char :=
  (cs.reverse.dropWhile drop).reverse

/-- The text without the white space around it. -/
def strip (cs : List Char) : List Char :=
  trimEnd isBlank (trimStart isBlank cs)

/-- One character moved in front of the words of the text that follows it: white space closes a
    word, any other character extends the first one. The flag tells whether a word is open. -/
def wordsStep (c : Char) : Bool × List (List Char) → Bool × List (List Char)
  | (true, w :: ws) => if isBlank c then (false, w :: ws) else (true, (c :: w) :: ws)
  | (_, ws) => if isBlank c then (false, ws) else (true, [c] :: ws)

/-- The maximal pieces of a text that hold no white space. -/
def words (cs : List Char) : List (List Char) :=
  (cs.foldr wordsStep (false, [])).2

/-- `strip` on strings. -/
def stripped (s : String) : String :=
  String.ofList (strip s.toList)

end HistoryMetrics.Text
