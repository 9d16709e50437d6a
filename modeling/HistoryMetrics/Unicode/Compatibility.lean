import HistoryMetrics.Unicode.Ranges
import HistoryMetrics.Unicode.CompatibilityData

/-! # The compatibility composition of a text

    Normalisation form KC: two spellings of an identifier name the same thing when their
    compatibility compositions agree.

    1. `decompose` replaces every character by its full compatibility decomposition
    2. `reorder` sorts each run of combining characters by class, keeping the order of equals
    3. `compose` joins a starter with the characters after it that are not blocked
-/

namespace HistoryMetrics.Unicode

/-! ## Tables -/

/-- A range of characters and the text of what an entry assigns to it. -/
structure Entry where
  first : Nat
  last : Nat
  value : List Char

instance : Inhabited Entry := ⟨⟨1, 0, []⟩⟩

/-- Reads entries of the form `range=value`. -/
def readEntries (text : String) : Array Entry :=
  ((Ranges.entries '=' text).map fun w =>
    let r := Ranges.range ((w.headD []).splitOn '-')
    Entry.mk r.1 r.2 (w.getD 1 [])).toArray

/-- Finds the entry of a character between the indices `lo` and `hi`. -/
def findEntry (entries : Array Entry) (n : Nat) : (fuel lo hi : Nat) → Option Entry
  | 0, _, _ => none
  | fuel + 1, lo, hi =>
    if lo < hi then
      let mid := (lo + hi) / 2
      match entries[mid]? with
      | some e =>
        if n < e.first then findEntry entries n fuel lo mid
        else if e.last < n then findEntry entries n fuel (mid + 1) hi
        else some e
      | none => none
    else none

/-- The entry of a character in a sorted table. -/
def lookUp (entries : Array Entry) (c : Char) : Option Entry :=
  findEntry entries c.toNat 16 0 entries.size

/-- Decompositions. -/
def decompositions : Array Entry := readEntries decompositionText

/-- Combining classes. -/
def combiningClasses : Array Entry := readEntries combiningText

/-- Composites, under a number made of both parts. -/
def composites : Array Entry :=
  let all := (Ranges.entries '=' compositeText).map fun w =>
    let parts := ((w.headD []).splitOn '+').map Ranges.hexNumber
    let key := parts.headD 0 * 0x110000 + parts.getD 1 0
    Entry.mk key key (w.getD 1 [])
  (all.mergeSort fun a b => a.first ≤ b.first).toArray

/-- The canonical combining class of a character; zero for a starter. -/
def combiningClass (c : Char) : Nat :=
  match lookUp combiningClasses c with
  | some e => Ranges.hexNumber e.value
  | none => 0

/-! ## Decomposition -/

/-- First Hangul syllable and the three kinds of conjoining letters, with their counts. -/
def hangulBase : Nat := 0xAC00

/-- The full compatibility decomposition of a character. -/
def decompose (c : Char) : List Char :=
  let n := c.toNat
  if hangulBase ≤ n && n < hangulBase + 11172 then
    let i := n - hangulBase
    let head := [Char.ofNat (0x1100 + i / 588), Char.ofNat (0x1161 + i % 588 / 28)]
    if i % 28 == 0 then head else head ++ [Char.ofNat (0x11A7 + i % 28)]
  else match lookUp decompositions c with
    | none => [c]
    | some e =>
      match (e.value.splitOn '.').map Ranges.hexNumber with
      | [t] => [Char.ofNat (t + (n - e.first))]
      | ts => ts.map Char.ofNat

/-- Puts a character with its class in front of a reordered text. -/
def place (x : Char × Nat) : List (Char × Nat) → List (Char × Nat)
  | [] => [x]
  | y :: rest => if 0 < y.2 && y.2 < x.2 then y :: place x rest else x :: y :: rest

/-- Canonical order: within a run of combining characters, classes ascend. -/
def reorder (cs : List (Char × Nat)) : List (Char × Nat) :=
  cs.foldr place []

/-! ## Composition -/

/-- The primary composite of two characters, Hangul syllables included. -/
def composite? (a b : Char) : Option Char :=
  let m := a.toNat
  let n := b.toNat
  if 0x1100 ≤ m && m < 0x1113 && 0x1161 ≤ n && n < 0x1176 then
    some (Char.ofNat (hangulBase + ((m - 0x1100) * 21 + (n - 0x1161)) * 28))
  else if hangulBase ≤ m && m < hangulBase + 11172 && (m - hangulBase) % 28 == 0 &&
      0x11A7 < n && n < 0x11C3 then
    some (Char.ofNat (m + (n - 0x11A7)))
  else
    let key := m * 0x110000 + n
    (findEntry composites key 16 0 composites.size).map fun e =>
      Char.ofNat (Ranges.hexNumber e.value)

/-- **The open group** of a composition: a starter, and the combining characters after it that did
    not join it, last one first. -/
structure Group where
  starter : Char
  marks : List (Char × Nat)

/-- The characters of a group. -/
def Group.chars (g : Group) : List Char :=
  g.starter :: (g.marks.reverse.map fun m => m.1)

/-- May a character of class `k` still reach the starter? Only over marks of lower classes. -/
def Group.reaches (g : Group) (k : Nat) : Bool :=
  match g.marks with
  | [] => true
  | m :: _ => m.2 < k

/-- Composes a reordered text, given the group that is open before it. -/
def composeFrom : Option Group → List (Char × Nat) → List Char
  | none, [] => []
  | some g, [] => g.chars
  | none, (c, k) :: rest =>
    if k == 0 then composeFrom (some ⟨c, []⟩) rest else c :: composeFrom none rest
  | some g, (c, k) :: rest =>
    match if g.reaches k then composite? g.starter c else none with
    | some s => composeFrom (some ⟨s, g.marks⟩) rest
    | none =>
      if k == 0 then g.chars ++ composeFrom (some ⟨c, []⟩) rest
      else composeFrom (some ⟨g.starter, (c, k) :: g.marks⟩) rest

/-- The compatibility composition of a text. A text of ASCII characters is its own. -/
def compatibility (cs : List Char) : List Char :=
  if cs.all fun c => c.toNat < 0x80 then cs
  else composeFrom none (reorder ((cs.flatMap decompose).map fun c => (c, combiningClass c)))

end HistoryMetrics.Unicode
