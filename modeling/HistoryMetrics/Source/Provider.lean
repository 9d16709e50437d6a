import HistoryMetrics.Outline
import HistoryMetrics.Scene

/-! # Who reads source files

    A provider makes outlines of the source files below a folder: of all of them, or of those whose
    paths are given. -/

namespace HistoryMetrics

/-- **A provider of outlines.** -/
structure Provider (σ : Type) where
  outlines : (root : Path) → (paths : Option (List String)) → Action (Scene σ) (List SourceOutline)

end HistoryMetrics
