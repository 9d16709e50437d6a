import HistoryMetrics.Number.Whole

/-! # Refusing settings

    A setting that is refused is shown. Whole numbers are shown by their decimal digits, and only up to a
    limit: refusing a value that holds a longer one ends with the fault of showing it. -/

namespace HistoryMetrics

namespace Value

/-- Can a whole number be shown? -/
def isShortWhole (i : Int) : Bool := (Nat.toDigits 10 i.natAbs).length ≤ Whole.maxDigits

mutual

/-- **Can a value be shown?** -/
def isShowable : Value → Bool
  | .number (.whole i) => isShortWhole i
  | .list items => areShowable items
  | .table entries => entriesShowable entries
  | .thresholds _ limits => entriesShowable limits
  | _ => true

/-- Can all items of a list be shown? -/
def areShowable : List Value → Bool
  | [] => true
  | v :: vs => isShowable v && areShowable vs

/-- Can all entries of a table be shown? -/
def entriesShowable : List (String × Value) → Bool
  | [] => true
  | (_, v) :: rest => isShowable v && entriesShowable rest

end

end Value

/-- The fault of a whole number that cannot be shown. -/
def tooLong : Fault :=
  .wrongValue ("Exceeds the limit (" ++ toString Whole.maxDigits ++
    " digits) for integer string conversion; use sys.set_int_max_str_digits() to increase the limit")

/-- **The failure of a setting that is refused.** -/
def Failure.refusing (name : String) (v : Value) (reason : String) : Failure :=
  if v.isShowable then .problem (.invalidSetting name v reason) else .fault tooLong

end HistoryMetrics
