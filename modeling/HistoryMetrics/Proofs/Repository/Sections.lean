import HistoryMetrics.Proofs.Repository.Patch

/-! # Patches one after the other

    The readers of patches go through a text once, line by line, and keep in mind whether a hunk is open.
    Two patches in one text are read as if each stood alone: where the first one ends a line ends, and the
    title of a section closes the hunk that was open before it. Nothing is asked of what stands in between,
    so the texts may hold line boundaries of any kind, or may be no patches at all.

    - `Text.lines_append`: a text of whole lines, and the lines of what follows
    - `Patch.roles_title`: a title is read in the same way whatever came before it
    - `Patch.ofText_append`: the roles of the lines of both texts
    - `Patch.counts_append`: what is counted in both texts
-/

namespace HistoryMetrics

/-! ## Lines -/

namespace Text

/-- **A text of whole lines**: what follows it starts a line of its own. -/
theorem lines_append {before : List Char} (h : before = [] ∨ ['\n'] <:+ before) (rest : List Char) :
    lines (before ++ rest) = lines before ++ lines rest := by
  rcases h with rfl | ⟨l, rfl⟩
  · rfl
  · rw [List.append_assoc, List.singleton_append]
    exact lines_append_lineFeed l rest

/-- A text begins with its first line, which is no shorter than what stands before the first line
    boundary. -/
theorem exists_lines_of_isPlain {before : List Char} (h : IsPlain before) (hne : before ≠ [])
    (rest : List Char) : ∃ first more, lines (before ++ rest) = first :: more ∧ before <+: first := by
  induction before with
  | nil => exact absurd rfl hne
  | cons c before ih =>
    obtain ⟨hc, hbefore⟩ := isPlain_cons.1 h
    rw [List.cons_append, lines_cons_of_not_break hc]
    by_cases hlast : before = []
    · subst hlast
      cases hrest : lines ([] ++ rest) with
      | nil => exact ⟨[c], [], rfl, List.prefix_rfl⟩
      | cons l ls => exact ⟨c :: l, ls, rfl, l, rfl⟩
    · obtain ⟨first, more, hlines, hprefix⟩ := ih hbefore hlast
      rw [hlines]
      exact ⟨c :: first, more, rfl, List.cons_prefix_cons.2 ⟨rfl, hprefix⟩⟩

end Text

namespace Patch

-- Sums start at the zero of the core library, whatever other zeros are in scope.
attribute [local instance (high)] Zero.ofOfNat0

/-! ## Titles -/

/-- **A title closes the hunk that was open**: from there on a text is read as from its beginning. -/
theorem roles_title {text : List Char} (h : text = [] ∨ "diff --git ".toList <+: text) (inHunk : Bool) :
    roles inHunk (Text.lines text) = roles false (Text.lines text) := by
  rcases h with rfl | ⟨rest, rfl⟩
  · rfl
  · have hplain : Text.IsPlain "diff --git ".toList := by decide
    obtain ⟨first, more, hlines, hprefix⟩ := Text.exists_lines_of_isPlain hplain (by decide) rest
    have hfile : startsFile first = true := List.isPrefixOf_iff_prefix.2 hprefix
    rw [hlines, roles, roles, if_pos hfile, if_pos hfile]

/-! ## Both texts -/

variable {p q : String}

/-- **The lines of both texts keep their roles.** -/
theorem ofText_append (hp : p.toList = [] ∨ ['\n'] <:+ p.toList)
    (hq : q.toList = [] ∨ "diff --git ".toList <+: q.toList) :
    ofText (p ++ q) = ofText p ++ ofText q := by
  unfold ofText
  rw [String.toList_append, Text.lines_append hp, roles_append, roles_title hq]

theorem isBinary_append (hp : p.toList = [] ∨ ['\n'] <:+ p.toList) :
    isBinary (p ++ q) = (isBinary p || isBinary q) := by
  unfold isBinary
  rw [String.toList_append, Text.lines_append hp, List.any_append]

/-- **What is counted in two texts adds up**, when the first one consists of whole lines and the second
    one begins with the title of a section: the lines that are added, those that are removed, and their
    bytes. And contents that are no text stand in one of them if they stand in both together. -/
theorem counts_append (hp : p = "" ∨ ∃ before, p = before ++ "\n")
    (hq : q = "" ∨ ∃ rest, q = "diff --git " ++ rest) :
    (added (p ++ q) = added p + added q ∧ removed (p ++ q) = removed p + removed q) ∧
      contentSize (p ++ q) = contentSize p + contentSize q ∧
      (isBinary (p ++ q) = true ↔ isBinary p = true ∨ isBinary q = true) := by
  have hlines : p.toList = [] ∨ ['\n'] <:+ p.toList := by
    rcases hp with rfl | ⟨before, rfl⟩
    · exact .inl rfl
    · refine .inr ⟨before.toList, ?_⟩
      rw [String.toList_append]
      rfl
  have htitle : q.toList = [] ∨ "diff --git ".toList <+: q.toList := by
    rcases hq with rfl | ⟨rest, rfl⟩
    · exact .inl rfl
    · refine .inr ⟨rest.toList, ?_⟩
      rw [String.toList_append]
  have hroles := ofText_append hlines htitle
  refine ⟨⟨?_, ?_⟩, ?_, ?_⟩
  · simp only [added_eq_countP, hroles, List.countP_append]
  · simp only [removed_eq_countP, hroles, List.countP_append]
  · simp only [contentSize_eq_sum, hroles, List.map_append, List.sum_append]
  · rw [isBinary_append hlines, Bool.or_eq_true]

/-- Two sections. A form feed cuts the line that the first one adds, and its hunk is open at its end; there
    the header of the second one would count as a removed line. -/
theorem counts_append_openHunk :
    let p := "diff --git a/f b/f\n@@ -0,0 +1 @@\n+x\u000c+y\n"
    let q := "diff --git a/g b/g\n--- a/g\n@@ -1 +0,0 @@\n-z\n"
    ((∃ before, p = before ++ "\n") ∧ ∃ rest, q = "diff --git " ++ rest) ∧
      (added (p ++ q) = added p + added q ∧ added p = 2 ∧ added q = 0) ∧
      (removed (p ++ q) = removed p + removed q ∧ removed p = 0 ∧ removed q = 1) ∧
      contentSize (p ++ q) = contentSize p + contentSize q := by
  intro p q
  have hp : ∃ before, p = before ++ "\n" := ⟨"diff --git a/f b/f\n@@ -0,0 +1 @@\n+x\u000c+y", by decide⟩
  have hq : ∃ rest, q = "diff --git " ++ rest := ⟨"a/g b/g\n--- a/g\n@@ -1 +0,0 @@\n-z\n", by decide⟩
  have hcounts := counts_append (.inr hp) (.inr hq)
  exact ⟨⟨hp, hq⟩, ⟨hcounts.1.1, by decide, by decide⟩, ⟨hcounts.1.2, by decide, by decide⟩,
    hcounts.2.1⟩

end Patch

end HistoryMetrics
