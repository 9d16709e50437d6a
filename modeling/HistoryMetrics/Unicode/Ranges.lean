import HistoryMetrics.Text.Blank

/-! # Sets of characters as sorted ranges

    A property of characters is written down the way the Unicode data files do it: ranges of
    hexadecimal numbers in ascending order. `Ranges.ofText` reads that notation and `Ranges.mem`
    finds a character by halving.
-/

namespace HistoryMetrics.Unicode

/-- Ascending, disjoint ranges of character numbers, both ends included. -/
structure Ranges where
  bounds : Array (Nat × Nat)

namespace Ranges

/-- The value of a hexadecimal digit. -/
def hexDigit (c : Char) : Nat :=
  let n := c.toNat
  if n ≤ 0x39 then n - 0x30 else if n ≤ 0x46 then n - 0x37 else n - 0x57

/-- The value of a hexadecimal numeral. -/
def hexNumber (cs : List Char) : Nat :=
  cs.foldl (fun n c => n * 16 + hexDigit c) 0

/-- The words of a text, each cut at `mid`. -/
def entries (mid : Char) (text : String) : List (List (List Char)) :=
  (Text.words text.toList).map fun w => w.splitOn mid

/-- One range: a number, or two numbers joined by a hyphen. -/
def range : List (List Char) → Nat × Nat
  | [] => (1, 0)
  | [a] => (hexNumber a, hexNumber a)
  | a :: b :: _ => (hexNumber a, hexNumber b)

/-- Reads ranges separated by white space. -/
def ofText (text : String) : Ranges :=
  ⟨((entries '-' text).map range).toArray⟩

/-- Searches between the indices `lo` and `hi`, which stand at most `fuel` halvings apart. -/
def search (bounds : Array (Nat × Nat)) (n : Nat) : (fuel lo hi : Nat) → Bool
  | 0, _, _ => false
  | fuel + 1, lo, hi =>
    if lo < hi then
      let mid := (lo + hi) / 2
      match bounds[mid]? with
      | some (a, b) =>
        if n < a then search bounds n fuel lo mid
        else if b < n then search bounds n fuel (mid + 1) hi
        else true
      | none => false
    else false

/-- Is the character in one of the ranges? -/
def mem (r : Ranges) (c : Char) : Bool :=
  search r.bounds c.toNat 16 0 r.bounds.size

end Ranges

end HistoryMetrics.Unicode
