import HistoryMetrics.Failure
import HistoryMetrics.Text.Blank
import HistoryMetrics.Unicode.Digit

/-! # Whole numbers in text

    A whole number is written with the decimal digits of any script, single low lines between them,
    a sign in front and white space around. The information separators do not count as white space
    here.

    - `Whole.parts?`: the sign and the digits
    - `Whole.read`: the number, or the fault of a text that writes none
-/

namespace HistoryMetrics.Whole

/-- White space that may stand around a number. -/
def isMargin (c : Char) : Bool := Text.isBlank c && !(0x1C ≤ c.toNat && c.toNat ≤ 0x1F)

/-- The digits of a text with single low lines between them. -/
def digits : List Char → Option (List Nat)
  | [] => none
  | [c] => (Unicode.digitValue? c).map fun d => [d]
  | c :: '_' :: rest => do
    let d ← Unicode.digitValue? c
    let ds ← digits rest
    some (d :: ds)
  | c :: rest => do
    let d ← Unicode.digitValue? c
    let ds ← digits rest
    some (d :: ds)

/-- The sign in front, and the rest. -/
def sign : List Char → Bool × List Char
  | '-' :: r => (true, r)
  | '+' :: r => (false, r)
  | cs => (false, cs)

/-- The most digits that are accepted. -/
def maxDigits : Nat := 4300

/-- The message about too many digits. -/
def tooManyDigits (count : Nat) : String :=
  "Exceeds the limit (" ++ toString maxDigits ++ " digits) for integer string conversion: value " ++
    "has " ++ toString count ++ " digits; use sys.set_int_max_str_digits() to increase the limit"

/-- The sign and the digits of a number. -/
def parts? (text : String) : Option (Bool × List Nat) :=
  let (negative, body) := sign (Text.trimEnd isMargin (Text.trimStart isMargin text.toList))
  (digits body).map fun ds => (negative, ds)

/-- The number that a sign and digits make. -/
def ofParts (negative : Bool) (ds : List Nat) : Int :=
  let n : Int := (ds.foldl (fun n d => n * 10 + d) 0 : Nat)
  if negative then -n else n

/-- The message about a text that is no number; only the beginning of a long text is shown. -/
def noNumber (text : String) : String :=
  "invalid literal for int() with base 10: " ++ String.ofList ((Text.quoted text).toList.take 200)

/-- **The whole number that a text writes.** -/
def read (text : String) : Except Fault Int :=
  match parts? text with
  | none => .error (.wrongValue (noNumber text))
  | some (negative, ds) =>
    if maxDigits < ds.length then .error (.wrongValue (tooManyDigits ds.length))
    else .ok (ofParts negative ds)

end HistoryMetrics.Whole
