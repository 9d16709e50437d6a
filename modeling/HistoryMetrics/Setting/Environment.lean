import HistoryMetrics.Number.Whole
import HistoryMetrics.Setting.Config

/-! # Settings from the environment

    The four plain settings can be given by variables of the environment. A switch is one of eight
    words, in any case; a number is a whole number. -/

namespace HistoryMetrics.Environment

/-- The variables of the environment. -/
abbrev Variables : Type := String → Option String

/-- The variable of a setting. -/
def variableOf (setting : String) : String :=
  "REPO_MINER_" ++ String.ofList (setting.toList.map Char.toUpper)

/-- The switch that a word sets. No letter beyond ASCII has a small form among those of the
    words. -/
def switch (text : String) : Except Fault Value :=
  let word := String.ofList (text.toList.map Char.toLower)
  if ["true", "1", "yes", "on"].contains word then .ok (.bool true)
  else if ["false", "0", "no", "off"].contains word then .ok (.bool false)
  else .error (.wrongValue ("expected true/false, got '" ++ text ++ "'"))

/-- The number that a text writes, as a value. -/
def number (text : String) : Except Fault Value := (Whole.read text).map Value.int

/-- The settings that the environment can give, each with its reader. -/
def readers : List (String × (String → Except Fault Value)) :=
  [("binary_file_threshold", number), ("git_timeout_seconds", number), ("fail_fast", switch),
   ("include_smells", switch)]

/-- Reads settings one after the other. -/
def readAll (vars : Variables) :
    List (String × (String → Except Fault Value)) → Except Problem (List (String × Value))
  | [] => .ok []
  | (setting, reader) :: rest =>
    match vars (variableOf setting) with
    | none => readAll vars rest
    | some text =>
      match reader text with
      | .error e => .error (.invalidSetting (variableOf setting) (.text text) e.message)
      | .ok v => (readAll vars rest).map fun vs => (setting, v) :: vs

/-- **The settings that the environment gives.** -/
def settings (vars : Variables) : Except Problem (List (String × Value)) := readAll vars readers

end HistoryMetrics.Environment
