import HistoryMetrics.Python.Token
import HistoryMetrics.Python.Numeral
import HistoryMetrics.Unicode.Identifier
import HistoryMetrics.Unicode.Compatibility
import HistoryMetrics.Text.Utf8

/-! # From text to tokens

    - `Place`: the text still to be read, with the line and the byte offset where it starts
    - `Layout`: the columns of the open blocks and the open brackets
    - `scan`: the tokens of a source text, or nothing when it is not well-formed

    Columns are measured twice, with tabs at every eighth and at every single column. Two
    indentations are comparable only if both measures order them alike. Inside brackets there is
    no layout.
-/

namespace HistoryMetrics.Python

/-! ## Places -/

/-- **The text still to be read**, and where it starts. -/
structure Place where
  rest : List Char
  line : Nat
  column : Nat

/-- One character further on. -/
def Place.after (p : Place) (c : Char) (rest : List Char) : Place :=
  if c == '\n' then ⟨rest, p.line + 1, 0⟩ else ⟨rest, p.line, p.column + Text.charBytes c⟩

/-- Further on by the characters that satisfy `skip`. -/
def Place.skipWhile (p : Place) (skip : Char → Bool) : Place :=
  ⟨p.rest.dropWhile skip, p.line,
    p.column + Text.byteLength (p.rest.takeWhile skip)⟩

/-- Further on in the same line, to a given rest, over ASCII characters only. -/
def Place.skipTo (p : Place) (count : Nat) : Place :=
  ⟨p.rest.drop count, p.line, p.column + count⟩

/-- After a backslash: the next line, if the line ends there and is not the last one. -/
def continuation? (p : Place) : Option Place :=
  match p.rest with
  | '\n' :: c :: rest => some ⟨c :: rest, p.line + 1, 0⟩
  | _ => none

/-- The source text with line feeds for all line ends and one at its end. -/
def normalLineEnds (cs : List Char) : List Char :=
  let rec go : List Char → List Char → List Char
    | acc, [] => (match acc with
      | '\n' :: _ => acc
      | _ => '\n' :: acc).reverse
    | acc, '\r' :: '\n' :: rest => go ('\n' :: acc) rest
    | acc, '\r' :: rest => go ('\n' :: acc) rest
    | acc, c :: rest => go (c :: acc) rest
  go [] cs

/-! ## Indentation -/

/-- A column by both measures. -/
structure Indent where
  wide : Nat
  narrow : Nat
deriving Repr, DecidableEq

/-- Measures the white space at the start of a line, from a place given by its line and column. A
    form feed starts anew; a backslash joins the next line, and the column before the first one
    that is not zero counts. -/
def measure (line column wide narrow joined : Nat) : List Char → Option (Indent × Place)
  | ' ' :: rest => measure line (column + 1) (wide + 1) (narrow + 1) joined rest
  | '\t' :: rest => measure line (column + 1) ((wide / 8 + 1) * 8) (narrow + 1) joined rest
  | '\x0c' :: rest => measure line (column + 1) 0 0 joined rest
  | '\\' :: '\n' :: c :: rest =>
    measure (line + 1) 0 wide narrow (if joined == 0 then wide else joined) (c :: rest)
  | '\\' :: _ => none
  | cs => some (if joined == 0 then ⟨wide, narrow⟩ else ⟨joined, joined⟩, ⟨cs, line, column⟩)

/-- The greatest number of blocks inside each other, the outermost text among them. -/
def maxIndents : Nat := 100

/-- The blocks that a line with the given indentation closes: how many, and those that stay. -/
def closeBlocks (i : Indent) : List Indent → Nat × List Indent
  | [] => (0, [])
  | [b] => (0, [b])
  | b :: bs => if i.wide < b.wide then ((closeBlocks i bs).1 + 1, (closeBlocks i bs).2) else (0, b :: bs)

/-- The layout marks before a line, and the blocks that are then open. -/
def indentMarks (i : Indent) (blocks : List Indent) : Option (List Lexeme × List Indent) :=
  match blocks with
  | [] => none
  | b :: _ =>
    if i.wide == b.wide then
      if i.narrow == b.narrow then some ([], blocks) else none
    else if b.wide < i.wide then
      if maxIndents ≤ blocks.length || i.narrow ≤ b.narrow then none
      else some ([.indent], i :: blocks)
    else
      let (count, left) := closeBlocks i blocks
      if left.head? == some i then some (List.replicate count .dedent, left) else none

/-! ## Words and strings -/

/-- The prefix of a string literal. -/
structure StringPrefix where
  bytes : Bool
  raw : Bool
  marked : Bool
  format : Bool

/-- The prefix with one more letter, if it may have it. -/
def StringPrefix.add (s : StringPrefix) (c : Char) : Option StringPrefix :=
  if (c == 'b' || c == 'B') && !(s.bytes || s.marked || s.format) then some ⟨true, s.raw, s.marked, s.format⟩
  else if (c == 'u' || c == 'U') && !(s.bytes || s.marked || s.raw || s.format) then
    some ⟨s.bytes, s.raw, true, s.format⟩
  else if (c == 'r' || c == 'R') && !(s.raw || s.marked) then some ⟨s.bytes, true, s.marked, s.format⟩
  else if (c == 'f' || c == 'F') && !(s.format || s.bytes || s.marked) then
    some ⟨s.bytes, s.raw, s.marked, true⟩
  else none

/-- The prefix of the string literal at the start of a text, its length, and the text from its quote
    on. -/
def stringPrefix? : StringPrefix → Nat → List Char → Option (StringPrefix × Nat × List Char)
  | _, _, [] => none
  | s, n, c :: rest =>
    if c == '"' || c == '\'' then some (s, n, c :: rest)
    else match s.add c with
      | some s' => stringPrefix? s' (n + 1) rest
      | none => none

/-- The body of a string literal up to its `size` closing quotes. The first number counts the quotes
    just read, which stand in front of the characters read so far, last one first. -/
def stringBody (quote : Char) (size : Nat) :
    Nat → List Char → Place → List Char → Option (List Char × Place)
  | _, _, _, [] => none
  | _, acc, p, '\\' :: rest =>
    match rest with
    | [] => none
    | d :: rest' =>
      stringBody quote size 0 (d :: '\\' :: acc) ((p.after '\\' rest).after d rest') rest'
  | run, acc, p, c :: rest =>
    if c == quote then
      if run + 1 == size then some ((acc.drop run).reverse, p.after c rest)
      else stringBody quote size (run + 1) (c :: acc) (p.after c rest) rest
    else if c == '\n' && size == 1 then none
    else stringBody quote size 0 (c :: acc) (p.after c rest) rest

/-- The body of the string literal whose opening quote starts the text. -/
def stringFrom (p : Place) : Option (List Char × Place) :=
  match p.rest with
  | a :: b :: c :: rest =>
    if a == b && b == c then stringBody a 3 0 [] (p.skipTo 3) rest
    else if a == b then some ([], p.skipTo 2)
    else stringBody a 1 0 [] (p.skipTo 1) (b :: c :: rest)
  | [a, b] => if a == b then some ([], p.skipTo 2) else none
  | _ => none

/-- Can the character stand in a numeral, or decide where one ends? -/
def isNumeralChar (c : Char) : Bool :=
  isWordChar c || c == '.' || c == '+' || c == '-'

/-- The token of a word: a reserved word as written, or a name in its compatibility composition. -/
def wordLexeme (word : List Char) : Option Lexeme :=
  let text := String.ofList word
  if word.all fun c => c.toNat < 0x80 then
    some (if reservedWords.contains text then .reserved text else .name text)
  else match word with
    | c :: rest =>
      if Unicode.startsIdentifier c && rest.all Unicode.continuesIdentifier then
        some (.name (String.ofList (Unicode.compatibility word)))
      else none
    | [] => none

/-! ## The scanner -/

/-- **What the scanner remembers**: the columns of the open blocks, innermost first and never
    empty, the closing brackets that are awaited, and whether a line begins. -/
structure Layout where
  blocks : List Indent
  awaited : List Char
  atLineStart : Bool

/-- The greatest number of brackets inside each other. -/
def maxBrackets : Nat := 200

/-- The layout after an operator. -/
def Layout.bracket (l : Layout) (c : Char) : Option Layout :=
  match closing? c with
  | some d => if maxBrackets ≤ l.awaited.length then none else some ⟨l.blocks, d :: l.awaited, false⟩
  | none =>
    if isClosing c then
      match l.awaited with
      | d :: ds => if c == d then some ⟨l.blocks, ds, false⟩ else none
      | [] => none
    else some l

/-- A token between two places. -/
def tokenAt (start stop : Place) (lexeme : Lexeme) : Token :=
  ⟨lexeme, start.line, start.column, stop.line⟩

/-- The token at a place that is neither white space, a comment, a line end nor a backslash, with the
    place after it. -/
def word? (p : Place) : Option (Lexeme × Place) :=
  match p.rest with
  | [] => none
  | c :: rest =>
    match stringPrefix? ⟨false, false, false, false⟩ 0 p.rest with
    | some (s, n, _) =>
      (stringFrom (p.skipTo n)).map fun b =>
        (.string ⟨s.raw, s.bytes, s.format, s.marked && c == 'u', b.1⟩, b.2)
    | none =>
      if isWordStart c then
        (wordLexeme (p.rest.takeWhile isWordChar)).map fun l => (l, p.skipWhile isWordChar)
      else if c.isDigit || (c == '.' && rest.head?.any Char.isDigit) then
        let reach := p.rest.takeWhile isNumeralChar
        (Numeral.read reach).map fun r => (.number r.1, p.skipTo (reach.length - r.2.length))
      else
        (operatorLength p.rest).map fun n => (.op (String.ofList (p.rest.take n)), p.skipTo n)

/-- The layout after a token. -/
def Layout.afterLexeme (l : Layout) : Lexeme → Option Layout
  | .op s => match s.toList with
    | [c] => l.bracket c
    | _ => some l
  | _ => some l

/-- Reads tokens from a place on, in front of which the tokens `done` were read, last one first. -/
def scanFrom : (fuel : Nat) → Layout → Place → (done : List Token) → Option (List Token)
  | 0, _, _, _ => none
  | fuel + 1, l, p, done =>
    if l.atLineStart then
      match measure p.line p.column 0 0 0 p.rest with
      | none => none
      | some (i, q) =>
        let isBlankLine := match q.rest with
          | '#' :: _ => true
          | '\n' :: _ => true
          | _ => false
        if isBlankLine || !l.awaited.isEmpty then
          if isBlankLine then
            match (q.skipWhile fun c => c != '\n') with
            | ⟨'\n' :: rest, line, _⟩ => scanFrom fuel l ⟨rest, line + 1, 0⟩ done
            | _ => none
          else scanFrom fuel ⟨l.blocks, l.awaited, false⟩ q done
        else
          match indentMarks i l.blocks with
          | none => none
          | some (marks, blocks) =>
            scanFrom fuel ⟨blocks, l.awaited, false⟩ q (marks.map (tokenAt q q) ++ done)
    else
      let q := p.skipWhile fun c => c == ' ' || c == '\t' || c == '\x0c'
      match q.rest with
      | [] =>
        if l.awaited.isEmpty then some ((tokenAt q q .endMarker :: done).reverse) else none
      | '#' :: _ => scanFrom fuel l (q.skipWhile fun c => c != '\n') done
      | '\n' :: rest =>
        let next := q.after '\n' rest
        if l.awaited.isEmpty then
          scanFrom fuel ⟨l.blocks, l.awaited, true⟩ next (tokenAt q q .newline :: done)
        else scanFrom fuel ⟨l.blocks, l.awaited, true⟩ next done
      | '\\' :: rest =>
        match continuation? (q.after '\\' rest) with
        | some next => scanFrom fuel l next done
        | none => none
      | _ =>
        match word? q with
        | none => none
        | some (lexeme, next) =>
          match l.afterLexeme lexeme with
          | none => none
          | some l' => scanFrom fuel l' next (tokenAt q next lexeme :: done)

/-- The tokens of a text whose first line has the given number. Every step of the scanner reads a
    character, enters a line or ends. -/
def scanAt (line : Nat) (text : List Char) : Option (List Token) :=
  let cs := normalLineEnds text
  scanFrom (2 * cs.length + 4) ⟨[⟨0, 0⟩], [], true⟩ ⟨cs, line, 0⟩ []

/-- The tokens of a source text. -/
def scan (text : List Char) : Option (List Token) :=
  scanAt 1 text

end HistoryMetrics.Python
