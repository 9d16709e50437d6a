import HistoryMetrics.Toml.Defect

/-! # Words of settings files

    The lexical level of the TOML notation: blanks and comments, strings of four kinds, and keys.
    A reader takes a text and gives what it read with the rest of the text. -/

namespace HistoryMetrics.Toml

/-! ## Blanks and comments -/

/-- A blank inside a line. -/
def isBlank (c : Char) : Bool := c == ' ' || c == '\t'

/-- A blank or a line end. -/
def isSpace (c : Char) : Bool := isBlank c || c == '\n'

/-- A control character, which no text may hold; tabs may stand everywhere. -/
def isControl (c : Char) : Bool := (c.toNat < 0x20 && c != '\t') || c.toNat == 0x7F

/-- The text after blanks. -/
def skipBlanks (cs : List Char) : List Char := cs.dropWhile isBlank

/-- Refuses control characters in a part of the text that begins where `rest` begins. -/
def refuseControls (allowed : Char → Bool) (part rest : List Char) {α : Type} (result : α) :
    Except TomlError α :=
  let fine (c : Char) : Bool := !isControl c || allowed c
  match part.dropWhile fine with
  | [] => .ok result
  | c :: _ => defect (.foundControl c) (rest.drop (part.takeWhile fine).length)

/-- The text after a comment, if one starts here. -/
def skipComment : List Char → Except TomlError (List Char)
  | '#' :: rest =>
    refuseControls (fun _ => false) (rest.takeWhile fun c => c != '\n') rest
      (rest.dropWhile fun c => c != '\n')
  | cs => .ok cs

/-- The text after blanks, line ends and comments. -/
def skipSpace : (fuel : Nat) → List Char → Except TomlError (List Char)
  | 0, cs => .ok cs
  | fuel + 1, cs =>
    match cs.dropWhile isSpace with
    | '#' :: rest =>
      match skipComment ('#' :: rest) with
      | .ok after => skipSpace fuel after
      | .error e => .error e
    | after => .ok after

/-! ## Strings -/

/-- Does the text start with the given one? -/
def starts (word : String) (cs : List Char) : Bool := word.toList.isPrefixOf cs

/-- The text before the first occurrence of a mark, last character first, and the text after the
    mark. -/
def untilMark (mark : List Char) : (acc : List Char) → List Char → Option (List Char × List Char)
  | acc, [] => if mark.isEmpty then some (acc, []) else none
  | acc, c :: cs =>
    if mark.isPrefixOf (c :: cs) then some (acc, (c :: cs).drop mark.length)
    else untilMark mark (c :: acc) cs

/-- A character by the number that hexadecimal digits give. -/
def numbered (n : Nat) (cs : List Char) : Read Char :=
  let ds := cs.take n
  let isHex (c : Char) : Bool :=
    c.isDigit || ('a' ≤ c && c ≤ 'f') || ('A' ≤ c && c ≤ 'F')
  if ds.length != n || !ds.all isHex then defect .noHexValue cs
  else
    let v := ds.foldl (fun v c =>
      let d := c.toNat
      v * 16 + (if d ≤ 0x39 then d - 0x30 else if d ≤ 0x46 then d - 0x37 else d - 0x57)) 0
    if v < 0xD800 || (0xE000 ≤ v && v < 0x110000) then .ok (Char.ofNat v, cs.drop n)
    else defect .noCharacter (cs.drop n)

/-- The character of an escape, after the backslash. -/
def escape : List Char → Read Char
  | 'b' :: r => .ok ('\x08', r)
  | 't' :: r => .ok ('\t', r)
  | 'n' :: r => .ok ('\n', r)
  | 'f' :: r => .ok ('\x0c', r)
  | 'r' :: r => .ok ('\r', r)
  | '"' :: r => .ok ('"', r)
  | '\\' :: r => .ok ('\\', r)
  | 'u' :: r => numbered 4 r
  | 'U' :: r => numbered 8 r
  | cs => defect .strayBackslash (cs.drop 1)

/-- The text after a backslash at the end of a line: the line end and all space after it. -/
def lineContinuation (cs : List Char) : Except TomlError (List Char) :=
  match skipBlanks cs with
  | [] => .ok []
  | '\n' :: r => .ok (r.dropWhile isSpace)
  | after => defect .strayBackslash after

/-- The rest of a string with escapes, after its opening quotes. -/
def escaped (isLong : Bool) : (fuel : Nat) → (acc : List Char) → List Char → Read (List Char)
  | 0, _, cs => defect .openString cs
  | _ + 1, _, [] => defect .openString []
  | fuel + 1, acc, '"' :: r =>
    if !isLong then .ok (acc.reverse, r)
    else if starts "\"\"" r then .ok (acc.reverse, r.drop 2)
    else escaped isLong fuel ('"' :: acc) r
  | fuel + 1, acc, '\\' :: r =>
    if isLong && r.head?.any isSpace then
      match lineContinuation r with
      | .ok after => escaped isLong fuel acc after
      | .error e => .error e
    else
      match escape r with
      | .ok (c, after) => escaped isLong fuel (c :: acc) after
      | .error e => .error e
  | fuel + 1, acc, c :: r =>
    if isControl c && !(isLong && c == '\n') then defect (.illegalControl c) (c :: r)
    else escaped isLong fuel (c :: acc) r

/-- A literal string, after its opening quotes. -/
def literal (mark : List Char) (allowed : Char → Bool) (cs : List Char) : Read (List Char) :=
  match untilMark mark [] cs with
  | none => defect (.notClosed (String.ofList mark)) []
  | some (body, rest) => refuseControls allowed body.reverse cs (body.reverse, rest)

/-- Up to two more quotes at the end of a long string belong to it. -/
def withExtraQuotes (quote : Char) (body rest : List Char) : List Char × List Char :=
  match rest with
  | a :: b :: r =>
    if a == quote then
      if b == quote then (body ++ [quote, quote], r) else (body ++ [quote], b :: r)
    else (body, rest)
  | [a] => if a == quote then (body ++ [quote], []) else (body, rest)
  | [] => (body, rest)

/-- The text of a long string after its opening quotes; a line end right there does not count. -/
def afterOpening : List Char → List Char
  | '\n' :: r => r
  | cs => cs

/-- **A string** of any kind. -/
def string (cs : List Char) : Read String :=
  match cs with
  | '"' :: r =>
    if starts "\"\"" r then
      (escaped true (r.length + 1) [] (afterOpening (r.drop 2))).map fun p =>
        let q := withExtraQuotes '"' p.1 p.2
        (String.ofList q.1, q.2)
    else (escaped false (r.length + 1) [] r).map fun p => (String.ofList p.1, p.2)
  | '\'' :: r =>
    if starts "''" r then
      (literal ['\'', '\'', '\''] (fun c => c == '\n') (afterOpening (r.drop 2))).map fun p =>
        let q := withExtraQuotes '\'' p.1 p.2
        (String.ofList q.1, q.2)
    else (literal ['\''] (fun _ => false) r).map fun p => (String.ofList p.1, p.2)
  | _ => defect .noValue cs

/-! ## Keys -/

/-- A character of a bare key. -/
def isKeyChar (c : Char) : Bool := c.isAlphanum || c == '-' || c == '_'

/-- Can the character start a key? -/
def startsKey (c : Char) : Bool := isKeyChar c || c == '"' || c == '\''

/-- One part of a key: a bare word, or a string on one line. -/
def keyPart (cs : List Char) : Read String :=
  match cs with
  | '"' :: r => (escaped false (r.length + 1) [] r).map fun p => (String.ofList p.1, p.2)
  | '\'' :: r => (literal ['\''] (fun _ => false) r).map fun p => (String.ofList p.1, p.2)
  | c :: _ =>
    if isKeyChar c then .ok (String.ofList (cs.takeWhile isKeyChar), cs.dropWhile isKeyChar)
    else defect .noKey cs
  | [] => defect .noKey cs

/-- The parts of a key: at least one, with dots between them and blanks around those. -/
def keyParts : (fuel : Nat) → List Char → Read (List String)
  | 0, cs => defect .noKey cs
  | fuel + 1, cs =>
    match keyPart cs with
    | .error e => .error e
    | .ok (part, rest) =>
      match skipBlanks rest with
      | '.' :: r =>
        match keyParts fuel (skipBlanks r) with
        | .ok (parts, rest') => .ok (part :: parts, rest')
        | .error e => .error e
      | rest' => .ok ([part], rest')

/-- **A key.** -/
def key (cs : List Char) : Read (List String) := keyParts (cs.length + 1) cs

end HistoryMetrics.Toml
