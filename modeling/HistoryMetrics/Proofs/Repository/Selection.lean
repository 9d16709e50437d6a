import HistoryMetrics.Proofs.Text.Sorted
import HistoryMetrics.Repository.Reference

/-! # The reference that a name means

    A name may stand for the path of a reference, with or without its folder, or be its short name. What
    stands for a path goes first: short names are only looked at when no path fits. At each of the two
    levels one candidate is selected, several are ambiguous.

    - `Reference.IsAt`: names that stand for a path
    - `Decides`, `Means`: the two levels, said of the references as a set
    - `Means.unique`, `Means.congr`: a name means one thing, whatever the order of the references
    - `selectReference_means`: what is selected is what the name means
-/

namespace HistoryMetrics

/-- **Does a name stand for the path of a reference?** It is the path, or the path without the folder
    of branches or of tags. -/
def Reference.IsAt (r : Reference) (name : String) : Prop :=
  r.path = name ∨ r.path = "refs/heads/" ++ name ∨ r.path = "refs/tags/" ++ name

/-- **What candidates decide**: the only one is selected; several are an error that lists their paths
    in ascending order. Without a candidate nothing is decided. -/
inductive Decides (name : String) (IsCandidate : Reference → Prop) :
    Except Problem (Option Reference) → Prop where
  | only {r : Reference} (hone : ∀ s, IsCandidate s ↔ s = r) :
    Decides name IsCandidate (.ok (some r))
  | several {paths : List String} (hmany : 1 < paths.length)
      (hascending : paths.Pairwise fun a b => a < b)
      (hpaths : ∀ p, p ∈ paths ↔ ∃ r, IsCandidate r ∧ r.path = p) :
    Decides name IsCandidate (.error (.ambiguousReference name paths))

/-- **What a name means** among some references: paths decide first, then short names. -/
inductive Means (rs : List Reference) (name : String) :
    Except Problem (Option Reference) → Prop where
  | path {o : Except Problem (Option Reference)}
      (hdecides : Decides name (fun r => r ∈ rs ∧ r.IsAt name) o) : Means rs name o
  | shortName {o : Except Problem (Option Reference)} (hpath : ∀ r ∈ rs, ¬r.IsAt name)
      (hdecides : Decides name (fun r => r ∈ rs ∧ r.name = name) o) : Means rs name o
  | nothing (hpath : ∀ r ∈ rs, ¬r.IsAt name) (hname : ∀ r ∈ rs, r.name ≠ name) :
    Means rs name (.ok none)

/-! ## A name means one thing -/

namespace Decides

variable {name : String} {C C' : Reference → Prop} {o o' : Except Problem (Option Reference)}

theorem congr (h : ∀ r, C r ↔ C' r) (hdecides : Decides name C o) : Decides name C' o := by
  have hC : C = C' := funext fun r => propext (h r)
  rw [← hC]
  exact hdecides

/-- Something is a candidate wherever something is decided. -/
theorem exists_candidate (hdecides : Decides name C o) : ∃ r, C r := by
  cases hdecides with
  | @only r hone => exact ⟨r, (hone r).2 rfl⟩
  | @several paths hmany _ hpaths =>
    have hpos : 0 < paths.length := by omega
    obtain ⟨r, hr, -⟩ := (hpaths _).1 (List.getElem_mem hpos)
    exact ⟨r, hr⟩

/-- A list of the paths of one reference does not go on after the first. -/
theorem not_several_of_only {r : Reference} (hone : ∀ s, C s ↔ s = r) {paths : List String}
    (hascending : paths.Pairwise fun a b => a < b)
    (hpaths : ∀ p, p ∈ paths ↔ ∃ s, C s ∧ s.path = p) : ¬1 < paths.length := by
  intro hmany
  have hpath : ∀ p ∈ paths, p = r.path := by
    intro p hp
    obtain ⟨s, hs, rfl⟩ := (hpaths p).1 hp
    rw [(hone s).1 hs]
  match paths with
  | [] | [_] => simp at hmany
  | p :: q :: _ =>
    have hless : p < q := List.rel_of_pairwise_cons hascending List.mem_cons_self
    have hp := hpath p List.mem_cons_self
    have hq := hpath q (List.mem_cons_of_mem p List.mem_cons_self)
    rw [hp, hq] at hless
    exact String.lt_irrefl _ hless

theorem unique (h : Decides name C o) (h' : Decides name C o') : o = o' := by
  cases h with
  | @only r hone =>
    cases h' with
    | @only s hone' =>
      have hrs : r = s := (hone' r).1 ((hone r).2 rfl)
      rw [hrs]
    | several hmany hascending hpaths =>
      exact absurd hmany (not_several_of_only hone hascending hpaths)
  | several hmany hascending hpaths =>
    cases h' with
    | only hone => exact absurd hmany (not_several_of_only hone hascending hpaths)
    | several _ hascending' hpaths' =>
      rw [eq_of_strictlyAscending hascending hascending' fun p => by rw [hpaths, hpaths']]

end Decides

namespace Means

variable {rs rs' : List Reference} {name : String} {o o' : Except Problem (Option Reference)}

/-- What a name means depends on nothing but which references there are. -/
theorem congr (h : ∀ r, r ∈ rs ↔ r ∈ rs') (hmeans : Means rs name o) : Means rs' name o := by
  cases hmeans with
  | path hdecides => exact .path (hdecides.congr fun r => by rw [h])
  | shortName hpath hdecides =>
    exact .shortName (fun r hr => hpath r ((h r).2 hr)) (hdecides.congr fun r => by rw [h])
  | nothing hpath hname =>
    exact .nothing (fun r hr => hpath r ((h r).2 hr)) fun r hr => hname r ((h r).2 hr)

/-- **A name means one thing.** -/
theorem unique (h : Means rs name o) (h' : Means rs name o') : o = o' := by
  -- a level that decides has a candidate, so the two sides cannot stop at different levels
  cases h with
  | path hdecides =>
    obtain ⟨r, hr, hat⟩ := hdecides.exists_candidate
    cases h' with
    | path hdecides' => exact hdecides.unique hdecides'
    | shortName hpath _ => exact absurd hat (hpath r hr)
    | nothing hpath _ => exact absurd hat (hpath r hr)
  | shortName hpath hdecides =>
    obtain ⟨r, hr, hname⟩ := hdecides.exists_candidate
    cases h' with
    | path hdecides' =>
      obtain ⟨s, hs, hat⟩ := hdecides'.exists_candidate
      exact absurd hat (hpath s hs)
    | shortName _ hdecides' => exact hdecides.unique hdecides'
    | nothing _ hnone => exact absurd hname (hnone r hr)
  | nothing hpath hname =>
    cases h' with
    | path hdecides' =>
      obtain ⟨s, hs, hat⟩ := hdecides'.exists_candidate
      exact absurd hat (hpath s hs)
    | shortName _ hdecides' =>
      obtain ⟨s, hs, hsname⟩ := hdecides'.exists_candidate
      exact absurd hsname (hname s hs)
    | nothing _ _ => rfl

end Means

/-! ## Candidates -/

/-- Candidates with different paths decide, unless there are none. -/
theorem onlyOne_cases (name : String) (cs : List Reference) (h : (cs.map Reference.path).Nodup) :
    (cs = [] ∧ onlyOne name cs = .ok none) ∨ Decides name (fun r => r ∈ cs) (onlyOne name cs) := by
  match cs with
  | [] => exact .inl ⟨rfl, rfl⟩
  | [r] => exact .inr (.only fun s => List.mem_singleton)
  | r :: s :: rest =>
    right
    show Decides name _ (.error (.ambiguousReference name
      (sortedPaths ((r :: s :: rest).map Reference.path))))
    refine .several ?_ (strictlyAscending_mergeSort h) ?_
    · simp [sortedPaths]
    · intro p
      rw [sortedPaths, List.mem_mergeSort, List.mem_map]

theorem contains_qualifiedPaths_iff (r : Reference) (name : String) :
    (qualifiedPaths name).contains r.path = true ↔ r.IsAt name := by
  simp [qualifiedPaths, Reference.IsAt]

section

variable {rs : List Reference} (h : (rs.map Reference.path).Nodup)

include h

/-- References with the same path are the same. -/
theorem eq_of_path_eq {r s : Reference} (hr : r ∈ rs) (hs : s ∈ rs) (hpath : r.path = s.path) :
    r = s :=
  List.inj_on_of_nodup_map h hr hs hpath

/-- **What is selected is what the name means.** -/
theorem means_selectReference (name : String) : Means rs name (selectReference rs name) := by
  have hnodup : ∀ p : Reference → Bool, ((rs.filter p).map Reference.path).Nodup := fun p =>
    h.sublist (List.filter_sublist.map Reference.path)
  have hmem : ∀ r, r ∈ (rs.filter fun r => (qualifiedPaths name).contains r.path) ↔
      r ∈ rs ∧ r.IsAt name := by
    intro r
    rw [List.mem_filter, contains_qualifiedPaths_iff]
  have hmem' : ∀ r, r ∈ (rs.filter fun r => r.name == name) ↔ r ∈ rs ∧ r.name = name := by
    intro r
    rw [List.mem_filter, beq_iff_eq]
  rw [selectReference]
  rcases onlyOne_cases name _ (hnodup fun r => (qualifiedPaths name).contains r.path) with
    ⟨hnone, heq⟩ | hdecides
  · have hpath : ∀ r ∈ rs, ¬r.IsAt name := by
      intro r hr hat
      have hin := (hmem r).2 ⟨hr, hat⟩
      rw [hnone] at hin
      exact List.not_mem_nil hin
    rw [heq]
    show Means rs name (onlyOne name (rs.filter fun r => r.name == name))
    rcases onlyOne_cases name _ (hnodup fun r => r.name == name) with ⟨hnone', heq'⟩ | hdecides'
    · rw [heq']
      refine .nothing hpath ?_
      intro r hr hname
      have hin := (hmem' r).2 ⟨hr, hname⟩
      rw [hnone'] at hin
      exact List.not_mem_nil hin
    · exact .shortName hpath (hdecides'.congr hmem')
  · -- a decision of the first level is never "nothing", so the second level is not asked
    have hmeans := hdecides.congr hmem
    cases hfirst : onlyOne name (rs.filter fun r => (qualifiedPaths name).contains r.path) with
    | error e =>
      rw [hfirst] at hmeans
      exact .path hmeans
    | ok found =>
      rw [hfirst] at hmeans
      cases hmeans with
      | only hone => exact .path (.only hone)

theorem selectReference_eq_iff (name : String) (o : Except Problem (Option Reference)) :
    selectReference rs name = o ↔ Means rs name o := by
  constructor
  · intro heq
    rw [← heq]
    exact means_selectReference h name
  · exact (means_selectReference h name).unique

/-- **The order of the references does not matter.** -/
theorem selectReference_perm {rs' : List Reference} (hperm : rs'.Perm rs) (name : String) :
    selectReference rs' name = selectReference rs name := by
  have h' : (rs'.map Reference.path).Nodup := (hperm.map Reference.path).nodup_iff.2 h
  refine (selectReference_eq_iff h' name _).2 ?_
  exact (means_selectReference h name).congr fun r => (hperm.mem_iff).symm

/-- **A path selects its reference**, unless it stands for the path of another one as well. -/
theorem selectReference_path_iff {r : Reference} (hr : r ∈ rs) :
    selectReference rs r.path = .ok (some r) ↔
      ∀ s ∈ rs, s.path ≠ "refs/heads/" ++ r.path ∧ s.path ≠ "refs/tags/" ++ r.path := by
  have hat : r.IsAt r.path := .inl rfl
  have hlonger : ∀ folder : String, 0 < folder.length → r.path ≠ folder ++ r.path := by
    intro folder hpos heq
    have hlength := congrArg String.length heq
    rw [String.length_append] at hlength
    omega
  rw [selectReference_eq_iff h]
  constructor
  · intro hmeans s hs
    cases hmeans with
    | path hdecides =>
      cases hdecides with
      | only hone =>
        refine ⟨?_, ?_⟩
        · intro hheads
          have hsr : s = r := (hone s).1 ⟨hs, .inr (.inl hheads)⟩
          rw [hsr] at hheads
          exact hlonger _ (by decide) hheads
        · intro htags
          have hsr : s = r := (hone s).1 ⟨hs, .inr (.inr htags)⟩
          rw [hsr] at htags
          exact hlonger _ (by decide) htags
    | shortName hpath _ => exact absurd hat (hpath r hr)
  · intro hother
    refine .path (.only fun s => ⟨?_, ?_⟩)
    · rintro ⟨hs, hpath | hheads | htags⟩
      · exact eq_of_path_eq h hs hr hpath
      · exact absurd hheads (hother s hs).1
      · exact absurd htags (hother s hs).2
    · intro hsr
      rw [hsr]
      exact ⟨hr, hat⟩

end

/-- **Selection is complete and does not depend on an order.** Among references with different paths,
    what is selected for a name is exactly what the name means: paths go before short names, one
    candidate is selected, several are listed in an error, and without a candidate there is nothing. So
    another order of the references changes nothing, and the path of a reference selects it just when
    the path does not name another reference inside one of the two folders. -/
theorem selectReference_means (rs : List Reference) (h : (rs.map Reference.path).Nodup)
    (name : String) :
    (∀ o, selectReference rs name = o ↔ Means rs name o) ∧
      (∀ rs' : List Reference, rs'.Perm rs →
        selectReference rs' name = selectReference rs name) ∧
      ∀ r ∈ rs, selectReference rs r.path = .ok (some r) ↔
        ∀ s ∈ rs, s.path ≠ "refs/heads/" ++ r.path ∧ s.path ≠ "refs/tags/" ++ r.path := by
  refine ⟨selectReference_eq_iff h name, ?_, ?_⟩
  · intro rs' hperm
    exact selectReference_perm h hperm name
  · intro r hr
    exact selectReference_path_iff h hr

/-- A tag with the short name of two branches in folders, and a branch whose path in the folder of
    branches is the path of that tag. -/
def namesakes : List Reference :=
  [.ofPath "refs/heads/feature/x" .branch (some "c2"), .ofPath "refs/heads/bugfix/x" .branch (some "c1"),
   .ofPath "refs/tags/x" .tag (some "c1"), .ofPath "refs/heads/refs/tags/x" .branch (some "c3")]

theorem selectReference_means_namesakes :
    (namesakes.map Reference.path).Nodup ∧
      selectReference namesakes "x" = .ok (some (.ofPath "refs/tags/x" .tag (some "c1"))) ∧
      selectReference namesakes.reverse "refs/tags/x" = .error (.ambiguousReference "refs/tags/x"
        ["refs/heads/refs/tags/x", "refs/tags/x"]) ∧
      selectReference namesakes "refs/heads/feature/x" =
        .ok (some (.ofPath "refs/heads/feature/x" .branch (some "c2"))) := by
  have hnodup : (namesakes.map Reference.path).Nodup := by decide
  have hcandidates : (namesakes.filter fun r => (qualifiedPaths "refs/tags/x").contains r.path) =
      [.ofPath "refs/tags/x" .tag (some "c1"),
        .ofPath "refs/heads/refs/tags/x" .branch (some "c3")] := by
    cbv
  have hsorted : sortedPaths ["refs/tags/x", "refs/heads/refs/tags/x"] =
      ["refs/heads/refs/tags/x", "refs/tags/x"] := by
    simp [sortedPaths, List.mergeSort, List.MergeSort.Internal.splitInTwo]
  obtain ⟨-, hperm, hpath⟩ := selectReference_means namesakes hnodup "refs/tags/x"
  refine ⟨hnodup, by cbv, ?_, ?_⟩
  · rw [hperm _ (List.reverse_perm namesakes), selectReference, hcandidates, ← hsorted]
    rfl
  · exact (hpath _ List.mem_cons_self).2 (by decide)

end HistoryMetrics
