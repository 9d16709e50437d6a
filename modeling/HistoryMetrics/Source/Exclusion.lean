import HistoryMetrics.Disk.Path
import HistoryMetrics.Disk.Pattern
import HistoryMetrics.Failure

/-! # Files that are not looked at

    Hidden files, files in hidden folders, and files whose paths fit a pattern of the settings. The
    settings may hold patterns of any kind; one that is no text is refused when it is tried.

    - `Exclusion.ofValue`: the patterns of a setting
    - `Exclusion.skips`: is a path not looked at?
-/

namespace HistoryMetrics.Exclusion

/-- The fault of a setting that holds no list of patterns. -/
def noPatterns (v : Value) : Fault :=
  .wrongType (Text.quoted v.typeName ++ " object is not iterable")

/-- **The patterns of a setting.** The characters of a text and the keys of a table are patterns. -/
def ofValue (v : Value) : Except Fault (List Value) :=
  match v with
  | .list items => .ok items
  | .text s => .ok (s.toList.map fun c => .text c.toString)
  | .table entries => .ok (entries.map fun e => .text e.1)
  | v => if v.isTruthy then .error (noPatterns v) else .ok []

/-- Is a path hidden, or in a hidden folder? -/
def isHidden (p : Path) : Bool := p.parts.any fun part => part.startsWith "."

/-- Does a path fit a pattern? -/
def fitsPattern (text : String) : Value → Except Fault Bool
  | .text pattern => .ok (Pattern.fitsText pattern text)
  | v => .error (.wrongType ("expected str, bytes or os.PathLike object, not " ++ v.typeName))

/-- Does a path fit some pattern? Patterns after the first that fits are not tried. -/
def fitsAny (text : String) : List Value → Except Fault Bool
  | [] => .ok false
  | p :: ps =>
    match fitsPattern text p with
    | .ok false => fitsAny text ps
    | decided => decided

/-- **Is a path not looked at?** -/
def skips (patterns : List Value) (p : Path) : Except Fault Bool :=
  if isHidden p then .ok true else fitsAny p.text patterns

end HistoryMetrics.Exclusion
