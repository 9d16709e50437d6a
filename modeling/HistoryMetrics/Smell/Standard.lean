import HistoryMetrics.Setting.Config
import HistoryMetrics.Smell.Detector

/-! # The detectors of a run -/

namespace HistoryMetrics

/-- **The built-in detectors**, with the thresholds of the settings. -/
def standardDetectors (c : Config) : List Detector :=
  [c.brainMethod, c.complexMethod, c.longMethod].map fun t => .builtin t none

end HistoryMetrics
