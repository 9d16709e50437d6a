import HistoryMetrics.Python.Grammar.Statement

/-! # The tree of a source text

    `Module.ofSource` reads a text of Python 3.11. It fails exactly when the text does not belong to
    the grammar: what the compiler would refuse later (a `return` outside a function, a name that is
    both local and global) is accepted. -/

namespace HistoryMetrics.Python

/-- **The readers of all constructs**, with `depth` constructs inside each other at most. -/
def grammar : (depth : Nat) → Grammar
  | 0, _ => Reader.fail
  | depth + 1, n => fun i =>
    match n with
    | .expression => Rule.expression (grammar depth) i
    | .inversion => Rule.inversion (grammar depth) i
    | .factor => Rule.factor (grammar depth) i
    | .primary => Rule.primary (grammar depth) i
    | .pattern => Rule.pattern (grammar depth) i
    | .block => Rule.block (grammar depth) i
    | .elseOfIf => Rule.elseOfIf (grammar depth) i

/-- A source text as a list of statements. -/
structure Module where
  body : List Stmt

/-- A depth that no text of the given length exceeds: every character opens fewer than eight
    constructs. -/
def depthFor (length : Nat) : Nat := 8 * (length + 4)

/-- The tree of a source text, if the text belongs to the grammar. -/
def Module.ofSource (text : List Char) : Option Module :=
  (scan text).bind fun tokens =>
    (Rule.statements (grammar (depthFor text.length)) .endMarker (.ofTokens tokens 1)).map
      fun r => ⟨r.1⟩

end HistoryMetrics.Python
