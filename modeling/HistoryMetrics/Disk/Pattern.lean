/-! # Patterns of paths

    A star stands for any text, a question mark for one character, brackets for one character of a
    set: single characters and ranges, or all others after an exclamation mark. A bracket that is
    never closed stands for itself.

    - `Pattern.ofText`: the items of a pattern
    - `Pattern.fits`: does a whole text fit a pattern?
-/

namespace HistoryMetrics

/-- **An item of a pattern.** A set is a list of ranges. -/
inductive PatternItem where
  | anyText
  | anyChar
  | one (c : Char)
  | set (isNegated : Bool) (ranges : List (Char × Char))
  | nothing
deriving Repr, DecidableEq

namespace Pattern

/-! ## Sets -/

/-- The pieces of the inside of brackets between the hyphens that make ranges. `skip` characters
    are passed over before the next such hyphen may stand; `piece` is the piece so far, last
    character first. -/
def pieces : (skip : Nat) → (piece : List Char) → List Char → List (List Char)
  | _, piece, [] => [piece.reverse]
  | 0, piece, c :: cs =>
    if c == '-' then piece.reverse :: pieces 2 [] cs else pieces 0 (c :: piece) cs
  | skip + 1, piece, c :: cs => pieces skip (c :: piece) cs

/-- A hyphen at the very end belongs to the last piece. -/
def withLastHyphen (ps : List (List Char)) : List (List Char) :=
  match ps.reverse with
  | [] :: p :: before => (before.reverse) ++ [p ++ ['-']]
  | _ => ps

/-- Ranges that hold nothing are dropped together with their ends, from the last one on. -/
def withoutEmptyRanges : List (List Char) → List (List Char)
  | [] => []
  | p :: ps =>
    match withoutEmptyRanges ps with
    | [] => [p]
    | q :: qs =>
      match p.getLast?, q with
      | some a, b :: q' => if b < a then (p.dropLast ++ q') :: qs else p :: q :: qs
      | _, _ => p :: q :: qs

/-- The inside of brackets as characters; the flag marks the hyphens that make ranges. -/
def marked : List (List Char) → List (Char × Bool)
  | [] => []
  | [p] => p.map fun c => (c, false)
  | p :: ps => (p.map fun c => (c, false)) ++ ('-', true) :: marked ps

/-- The ranges of the inside of brackets. -/
def ranges : List (Char × Bool) → List (Char × Char)
  | (a, _) :: ('-', true) :: (b, _) :: rest => (a, b) :: ranges rest
  | (a, _) :: rest => (a, a) :: ranges rest
  | [] => []

/-- The item that the inside of brackets makes. -/
def setOf (inside : List Char) : PatternItem :=
  let skip := if inside.head? == some '!' then 2 else 1
  match marked (withoutEmptyRanges (withLastHyphen (pieces skip [] inside))) with
  | [] => .nothing
  | [('!', _)] => .anyChar
  | ('!', _) :: rest => .set true (ranges rest)
  | chars => .set false (ranges chars)

/-! ## Patterns -/

/-- The inside of brackets and the text after them: a closing bracket right at the start, or right
    after an exclamation mark, belongs to the set. -/
def brackets (cs : List Char) : Option (List Char × List Char) :=
  let (bang, rest) := match cs with
    | '!' :: r => (['!'], r)
    | _ => ([], cs)
  let (first, rest) := match rest with
    | ']' :: r => ([']'], r)
    | _ => ([], rest)
  match rest.dropWhile fun c => c != ']' with
  | ']' :: after => some (bang ++ first ++ rest.takeWhile fun c => c != ']', after)
  | _ => none

/-- Reads the items of a pattern, `fuel` of them at most. -/
def readItems : (fuel : Nat) → List Char → List PatternItem
  | 0, _ => []
  | _ + 1, [] => []
  | fuel + 1, '*' :: rest => .anyText :: readItems fuel rest
  | fuel + 1, '?' :: rest => .anyChar :: readItems fuel rest
  | fuel + 1, '[' :: rest =>
    match brackets rest with
    | some (inside, after) => setOf inside :: readItems fuel after
    | none => .one '[' :: readItems fuel rest
  | fuel + 1, c :: rest => .one c :: readItems fuel rest

/-- **The items of a pattern.** -/
def ofText (s : String) : List PatternItem := readItems s.length s.toList

/-- Does a character fit an item that stands for one character? -/
def fitsOne (c : Char) : PatternItem → Bool
  | .anyText => false
  | .anyChar => true
  | .one d => c == d
  | .set isNegated rs => isNegated != rs.any fun r => r.1 ≤ c && c ≤ r.2
  | .nothing => false

/-- Does some end of the text fit, the text itself included? -/
def someEnd (fits : List Char → Bool) : List Char → Bool
  | [] => fits []
  | c :: cs => fits (c :: cs) || someEnd fits cs

/-- **Does a whole text fit a pattern?** -/
def fits : List PatternItem → List Char → Bool
  | [], cs => cs.isEmpty
  | .anyText :: rest, cs => someEnd (fits rest) cs
  | item :: rest, c :: cs => fitsOne c item && fits rest cs
  | _ :: _, [] => false

/-- Does a text fit the pattern that another text writes? -/
def fitsText (pattern text : String) : Bool := fits (ofText pattern) text.toList

end Pattern

end HistoryMetrics
