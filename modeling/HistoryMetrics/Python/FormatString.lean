import HistoryMetrics.Python.Escape
import HistoryMetrics.Python.Token

/-! # Formatted string literals

    The body of a formatted literal is text with replacement fields. A field holds the source of an
    expression, which no backslash and no comment sign may occur in; then perhaps an equals sign
    that shows this source, a conversion, and a format specification, which is text with fields of
    its own. Fields nest two levels deep.
-/

namespace HistoryMetrics.Python

/-- **A part of a formatted literal.** A field knows how many line ends stand before it in the
    literal. -/
inductive Piece where
  | literal (codes : List Nat)
  | field (source : List Char) (lineEnds : Nat) (shown : Option (List Nat))
      (conversion : Option Conversion) (spec : Option (List Piece))

namespace FormatString

/-- Why a run of literal text ends. -/
inductive Stop where
  | doubled
  | field
  | finish
deriving DecidableEq

/-- The literal text at the start of a body, last character first, the reason of its end and the text from there on.
    Only outside format specifications does a doubled brace stand for one, and a lone closing brace
    is refused. -/
def literalRun (isRaw : Bool) (level : Nat) :
    (fuel : Nat) → List Char → List Char → Option (List Char × Stop × List Char)
  | 0, _, _ => none
  | _ + 1, acc, [] => some (acc, .finish, [])
  | fuel + 1, acc, '\\' :: c :: rest =>
    if isRaw then literalRun isRaw level fuel ('\\' :: acc) (c :: rest)
    else if c == 'N' && rest.head? == some '\x7b' then
      let name := rest.takeWhile fun d => d != '\x7d'
      literalRun isRaw level fuel ((rest.take (name.length + 1)).reverse ++ c :: '\\' :: acc)
        (rest.drop (name.length + 1))
    else if c == '\x7b' || c == '\x7d' then
      literalRun isRaw level fuel ('\\' :: acc) (c :: rest)
    else literalRun isRaw level fuel (c :: '\\' :: acc) rest
  | fuel + 1, acc, c :: rest =>
    if c == '\x7b' || c == '\x7d' then
      if level == 0 && rest.head? == some c then some (c :: acc, .doubled, rest.drop 1)
      else if c == '\x7b' then some (acc, .field, c :: rest)
      else if level == 0 then none
      else some (acc, .finish, c :: rest)
    else literalRun isRaw level fuel (c :: acc) rest

/-- **Inside the source of a field**: the quote that is open, whether it is a triple one, and the
    closing brackets that are awaited. -/
structure FieldState where
  quote : Option Char
  isTriple : Bool
  awaited : List Char

/-- Does the character end the source of a field when it stands outside brackets and quotes? -/
def endsSource (c : Char) (rest : List Char) : Bool :=
  (c == '!' && rest.head? != some '=') || (c == '=' && rest.head? != some '=') ||
    c == ':' || c == '\x7d'

/-- Do the two characters make a comparison, which does not end the source? -/
def isComparison (c : Char) (rest : List Char) : Bool :=
  (c == '!' || c == '=' || c == '<' || c == '>') && rest.head? == some '='

/-- Splits off the source of a field. -/
def fieldSource : (fuel : Nat) → FieldState → List Char → List Char →
    Option (List Char × List Char)
  | 0, _, _, _ => none
  | _ + 1, _, _, [] => none
  | fuel + 1, s, acc, c :: rest =>
    if c == '\\' then none
    else match s.quote with
      | some q =>
        if c == q then
          if s.isTriple then
            match rest with
            | d :: e :: rest' =>
              if d == q && e == q then
                fieldSource fuel ⟨none, false, s.awaited⟩ (e :: d :: c :: acc) rest'
              else fieldSource fuel s (c :: acc) rest
            | _ => fieldSource fuel s (c :: acc) rest
          else fieldSource fuel ⟨none, false, s.awaited⟩ (c :: acc) rest
        else fieldSource fuel s (c :: acc) rest
      | none =>
        if c == '\'' || c == '"' then
          match rest with
          | d :: e :: rest' =>
            if d == c && e == c then
              fieldSource fuel ⟨some c, true, s.awaited⟩ (e :: d :: c :: acc) rest'
            else fieldSource fuel ⟨some c, false, s.awaited⟩ (c :: acc) rest
          | _ => fieldSource fuel ⟨some c, false, s.awaited⟩ (c :: acc) rest
        else match closing? c with
          | some d =>
            if 200 ≤ s.awaited.length then none
            else fieldSource fuel ⟨none, false, d :: s.awaited⟩ (c :: acc) rest
          | none =>
            if c == '#' then none
            else if s.awaited.isEmpty && isComparison c rest then
              fieldSource fuel s ((rest.take 1) ++ c :: acc) (rest.drop 1)
            else if s.awaited.isEmpty && endsSource c rest then some (acc.reverse, c :: rest)
            else if isClosing c then
              match s.awaited with
              | d :: ds =>
                if c == d then fieldSource fuel ⟨none, false, ds⟩ (c :: acc) rest else none
              | [] => none
            else fieldSource fuel s (c :: acc) rest

/-- White space that a source alone may not consist of. -/
def isFiller (c : Char) : Bool :=
  c == ' ' || c == '\t' || c == '\n' || c == '\x0c'

/-- White space that may follow the equals sign of a field. -/
def isSpace (c : Char) : Bool :=
  isFiller c || c == '\r' || c == '\x0b'

/-- What follows the source: the shown source, if an equals sign asks for it. -/
def shownSource (source : List Char) : List Char → Option (List Char) × List Char
  | '=' :: rest =>
    (some (source ++ '=' :: rest.takeWhile isSpace), rest.dropWhile isSpace)
  | cs => (none, cs)

/-- The conversion, if there is one. -/
def conversion? : List Char → Option (Option Conversion × List Char)
  | '!' :: 's' :: rest => some (some .text, rest)
  | '!' :: 'r' :: rest => some (some .quoted, rest)
  | '!' :: 'a' :: rest => some (some .ascii, rest)
  | '!' :: _ => none
  | cs => some (none, cs)

/-- The number of line ends in a text. -/
def lineEnds (cs : List Char) : Nat := cs.countP fun c => c == '\n'

/-- The code points of a run of literal text, given last character first. -/
def runCodes (isRaw : Bool) (acc : List Char) : Option (List Nat) :=
  if isRaw then some (acc.reverse.map Char.toNat) else Escape.decodeText acc.reverse

/-- Reads the pieces of a body up to its end, or up to the brace that closes the format
    specification it is. `total` is the number of line ends of the whole literal. -/
def readPieces (isRaw : Bool) (total : Nat) : (fuel level : Nat) → List Char →
    Option (List Piece × List Char)
  | 0, _, _ => none
  | fuel + 1, level, cs =>
    match literalRun isRaw level (cs.length + 1) [] cs with
    | none => none
    | some (acc, stop, rest) =>
      match runCodes isRaw acc with
      | none => none
      | some codes =>
        match stop with
        | .finish =>
          if level == 0 || rest.head? == some '\x7d' then some ([.literal codes], rest) else none
        | .doubled =>
          (readPieces isRaw total fuel level rest).map fun r => (.literal codes :: r.1, r.2)
        | .field =>
          if 2 ≤ level then none
          else match fieldSource rest.length ⟨none, false, []⟩ [] (rest.drop 1) with
            | none => none
            | some (source, rest') =>
              if source.all isFiller then none
              else
                let (shown, rest'') := shownSource source rest'
                match conversion? rest'' with
                | none => none
                | some (conv, tail) =>
                  let fieldWith (spec : Option (List Piece)) : List Char → Option (List Piece × List Char)
                    | '\x7d' :: after =>
                      let shown := shown.map fun s => s.map Char.toNat
                      let used := match conv with
                        | some c => some c
                        | none => if shown.isSome && spec.isNone then some .quoted else none
                      (readPieces isRaw total fuel level after).map fun r =>
                        (.literal codes ::
                          .field source (total - lineEnds rest) shown used spec :: r.1, r.2)
                    | _ => none
                  match tail with
                  | ':' :: specText =>
                    match readPieces isRaw total fuel (level + 1) specText with
                    | some (spec, after) => fieldWith (some spec) after
                    | none => none
                  | _ => fieldWith none tail

/-- The pieces of the body of a formatted literal. -/
def pieces (isRaw : Bool) (body : List Char) : Option (List Piece) :=
  (readPieces isRaw (lineEnds body) (body.length + 1) 0 body).bind fun r =>
    if r.2.isEmpty then some r.1 else none

end FormatString

end HistoryMetrics.Python
