import HistoryMetrics.Proofs.Number.Comparison
import HistoryMetrics.Proofs.Repository.Patch
import HistoryMetrics.Proofs.Session.Lifecycle

/-! # The changes of a commit, however git behaves

    Git is asked for the list of changed paths and then for the patch of each of them. Whatever it
    answers, the changes that come out are those of the list with lines counted in, and the commands
    that were given are known to the last argument.

    - `StatusList.mem_changes_ofText`: the changes of a list
    - `Repository.Counted`: a listed change and what is made of it
    - `Patch.added_add_removed_le`: no patch has more lines than bytes
    - `changesOf_returns`: the changes of a commit, and the commands
-/

namespace HistoryMetrics

variable {σ : Type}

/-- What a change says besides its lines. -/
def Change.shape (c : Change) : String × Option String × ChangeKind := (c.path, c.oldPath, c.kind)

namespace Repository

/-! ## Commands -/

/-- The command that names the empty tree. -/
def emptyTreeCommand (r : Repository) : GitCommand :=
  r.command ["hash-object", "-t", "tree", "--stdin"] (some "")

/-- The name of the empty tree is known, or git is asked for it. -/
theorem events_emptyTree {r : Repository} {w w' : World σ} {tree : String}
    (h : r.emptyTree w = (.ok tree, w')) :
    w'.events = w.events ∨ w'.events = w.events ++ [.ran r.emptyTreeCommand true] := by
  unfold emptyTree at h
  split at h
  · cases h
    exact .inl rfl
  · rcases hrun : r.run ["hash-object", "-t", "tree", "--stdin"] (some "") w with ⟨result, w₁⟩
    rw [hrun] at h
    cases result with
    | error f => cases h
    | ok output =>
      cases h
      have hw₁ : w₁.events = w.events ++ [.ran r.emptyTreeCommand true] := events_run hrun
      exact .inr hw₁

theorem events_logUnknown (l : StatusList) (w : World σ) :
    (logUnknown l w).2.events = w.events := by
  show (List.foldl _ w l.unknowns).events = w.events
  generalize l.unknowns = us
  induction us generalizing w with
  | nil => rfl
  | cons u us ih =>
    rw [List.foldl_cons, ih]
    rfl

/-- A list that is whole gives its changes. -/
theorem listed_ok {text : String} {w w' : World σ} {changes : List Change}
    (h : listed text w = (.ok changes, w')) :
    (StatusList.ofText text).isCutOff = false ∧ changes = (StatusList.ofText text).changes ∧
      w'.events = w.events := by
  obtain ⟨_, w₁, hlog, hlisted⟩ := Action.bind_ok_iff.1 h
  have hw₁ : w₁.events = w.events := by
    rw [← events_logUnknown (StatusList.ofText text) w, hlog]
  cases hcut : (StatusList.ofText text).isCutOff with
  | true =>
    simp only [hcut, if_true] at hlisted
    cases hlisted
  | false =>
    simp only [hcut] at hlisted
    cases hlisted
    exact ⟨rfl, rfl, hw₁⟩

/-- **The paths that a change is shown by.** A move is shown by its old path and its new one; an old
    path that is empty is replaced by the new one. -/
def shownPaths (c : Change) : List String :=
  match c.kind, c.oldPath with
  | .move, some old => [if old = "" then c.path else old, c.path]
  | .move, none => [c.path, c.path]
  | _, _ => [c.path]

/-- The event of showing one change. -/
def showing (r : Repository) (base commit : String) (c : Change) : GitEvent :=
  .ran (r.command (["--literal-pathspecs", "diff"] ++ patchOptions ++
    [if c.kind = .move then "-M" else "--no-renames", base, commit, "--"] ++ shownPaths c) none) true

theorem mem_shownPaths {c : Change} {p : String} : p ∈ shownPaths c ↔
    p = c.path ∨ c.kind = .move ∧ p ≠ "" ∧ c.oldPath = some p := by
  obtain ⟨path, kind, oldPath, added, removed, isBinary⟩ := c
  unfold shownPaths
  cases kind with
  | move =>
    cases oldPath with
    | none => simp
    | some old =>
      by_cases hold : old = ""
      · subst hold
        simp only [if_true, List.mem_cons, List.not_mem_nil, or_false, or_self]
        refine ⟨Or.inl, ?_⟩
        rintro (hp | ⟨-, hne, heq⟩)
        · exact hp
        · cases heq
          exact absurd rfl hne
      · simp only [hold, if_false, List.mem_cons, List.not_mem_nil, or_false]
        constructor
        · rintro (rfl | rfl)
          · exact .inr ⟨trivial, hold, rfl⟩
          · exact .inl rfl
        · rintro (rfl | ⟨-, -, heq⟩)
          · exact .inr rfl
          · cases heq
            exact .inl rfl
  | add => simp
  | delete => simp
  | modify => simp
  | copy => simp

/-- The command that shows a change is the one given for it. -/
theorem showing_eq (r : Repository) (base commit : String) (c : Change) :
    .ran (r.command (patchArguments base commit c) none) true = r.showing base commit c := by
  obtain ⟨path, kind, oldPath, added, removed, isBinary⟩ := c
  unfold showing patchArguments shownPaths oldPathOf
  cases kind with
  | move =>
    cases oldPath with
    | none => rfl
    | some old => simp
  | add => rfl
  | delete => rfl
  | modify => rfl
  | copy => rfl

/-- What a change is shown by has nothing to do with its lines. -/
theorem showing_congr {r : Repository} {base commit : String} {c c' : Change}
    (h : c.shape = c'.shape) : r.showing base commit c = r.showing base commit c' := by
  obtain ⟨path, kind, oldPath, added, removed, isBinary⟩ := c
  cases c'
  cases h
  rfl

end Repository

/-! ## Changes that are listed -/

namespace StatusList

theorem changes_cons (e : StatusEntry) (l : StatusList) :
    (cons e l).changes = (change? e).toList ++ l.changes := by
  unfold changes cons
  cases h : change? e with
  | none => simp [h]
  | some c => simp [h]

end StatusList

/-- **A change as it is listed**: it has no lines yet, and it has an old path just when it is a copy or a
    move. -/
structure Change.IsListed (c : Change) : Prop where
  uncounted : c = .uncounted c.path c.kind c.oldPath
  oldPath_isSome : c.oldPath.isSome = true ↔ c.kind = .copy ∨ c.kind = .move

namespace StatusList

theorem isListed_pairEntry {kind : ChangeKind} (htwo : hasTwoPaths (some kind) = true)
    {old new : List Char} {c : Change} (h : change? (pairEntry kind old new) = some c) :
    c.IsListed := by
  cases h
  refine ⟨rfl, fun _ => ?_, fun _ => rfl⟩
  cases kind with
  | copy => exact .inl rfl
  | move => exact .inr rfl
  | add => cases htwo
  | delete => cases htwo
  | modify => cases htwo

theorem isListed_entry {kind : Option ChangeKind} (hmove : kind ≠ some .move)
    (hcopy : kind ≠ some .copy) {status path : List Char} {c : Change}
    (h : change? (entry kind status path) = some c) : c.IsListed := by
  cases kind with
  | none => cases h
  | some kind =>
    cases h
    refine ⟨rfl, fun hsome => absurd hsome (by simp [Change.uncounted]), ?_⟩
    rintro (hkind | hkind)
    · exact absurd (congrArg some hkind) hcopy
    · exact absurd (congrArg some hkind) hmove

/-- **All changes of a list are changes as they are listed.** -/
theorem isListed_of_mem_ofPieces (pieces : List (List Char)) :
    ∀ c ∈ (ofPieces pieces).changes, c.IsListed := by
  have hcons : ∀ {e : StatusEntry} {l : StatusList}, (∀ c, change? e = some c → c.IsListed) →
      (∀ c ∈ l.changes, c.IsListed) → ∀ c ∈ (cons e l).changes, c.IsListed := by
    intro e l he hl c hc
    rw [changes_cons, List.mem_append, Option.mem_toList] at hc
    exact hc.elim (he c) (hl c)
  fun_induction ofPieces pieces with
  | case1 => exact fun c hc => absurd hc List.not_mem_nil
  | case2 piece rest hblank ih => exact ih
  | case3 => exact fun c hc => absurd hc List.not_mem_nil
  | case4 => exact fun c hc => absurd hc List.not_mem_nil
  | case5 => exact fun c hc => absurd hc List.not_mem_nil
  | case6 piece letter more hstatus old new rest hkind ih =>
    exact hcons (fun c => isListed_pairEntry rfl) ih
  | case7 piece letter more hstatus old new rest hkind ih =>
    exact hcons (fun c => isListed_pairEntry rfl) ih
  | case8 piece letter more hstatus path rest hmove₁ hcopy₁ hmove₂ hcopy₂ ih =>
    -- a move or a copy would have been one of the cases before
    have hmove : kindOfLetter letter ≠ some .move := by
      intro hkind
      cases rest with
      | nil => exact hmove₁ hkind rfl
      | cons new rest => exact hmove₂ new rest hkind rfl
    have hcopy : kindOfLetter letter ≠ some .copy := by
      intro hkind
      cases rest with
      | nil => exact hcopy₁ hkind rfl
      | cons new rest => exact hcopy₂ new rest hkind rfl
    exact hcons (fun c => isListed_entry hmove hcopy) ih

end StatusList

/-! ## Lines that are counted in -/

/-- A line that counts is added or removed, and has an end. -/
theorem Patch.count_le_lineSize (l : PatchLine) :
    ((if isAdded l = true then 1 else 0) + if isRemoved l = true then 1 else 0) ≤ lineSize l := by
  cases l with
  | added content => exact Nat.le_add_left 1 _
  | removed content => exact Nat.le_add_left 1 _
  | other => exact Nat.le_refl 0

/-- **No patch has more lines than bytes.** -/
theorem Patch.added_add_removed_le (patch : String) :
    added patch + removed patch ≤ contentSize patch := by
  rw [added_eq_countP, removed_eq_countP, contentSize_eq_sum]
  induction ofText patch with
  | nil => exact Nat.le_refl 0
  | cons l ls ih =>
    have hl := count_le_lineSize l
    rw [List.countP_cons, List.countP_cons, List.map_cons, List.sum_cons]
    omega

namespace Repository

/-- **A listed change with its lines counted in.**

    - `shape`: the lines are all that was added
    - `oldPath_isSome`: copies and moves, and no others, know an old path
    - `binary`: a binary change has no lines
    - `bound`: a change that is not binary keeps to a limit
-/
structure Counted (r : Repository) (c c' : Change) : Prop where
  shape : c'.shape = c.shape
  oldPath_isSome : c'.oldPath.isSome = true ↔ c'.kind = .copy ∨ c'.kind = .move
  binary : c'.isBinary = true → c'.added = 0 ∧ c'.removed = 0
  bound : ∀ t : Int, r.threshold = .int t → 0 < t → c'.isBinary = false → c'.added + c'.removed ≤ t

/-- A patch that does not exceed a limit has no more bytes than that. -/
theorem contentSize_le_of_not_exceeds {t : Int} (ht : 0 < t) {patch : String}
    (h : exceeds (.int t) patch = .ok false) : (Patch.contentSize patch : Int) ≤ t := by
  have hpositive : (Value.int t).isAbove (.int 0) = .ok true := by
    rw [Value.isAbove_int, decide_eq_true ht]
  rw [exceeds, hpositive] at h
  have habove : (Value.int (Patch.contentSize patch)).isAbove (.int t) = .ok false := h
  rw [Value.isAbove_int, Except.ok.injEq, decide_eq_false_iff_not] at habove
  omega

theorem counted_of_counted {r : Repository} {c c' : Change} (hlisted : c.IsListed) {patch : String}
    (h : counted r.threshold c patch = .ok c') : r.Counted c c' := by
  have hplain : c.isBinary = false := by rw [hlisted.uncounted]; rfl
  unfold counted at h
  cases hbinary : countsAsBinary r.threshold patch with
  | error e =>
    rw [hbinary] at h
    cases h
  | ok isBinary =>
    rw [hbinary] at h
    cases isBinary with
    | true =>
      cases h
      exact ⟨rfl, hlisted.oldPath_isSome, fun _ => ⟨rfl, rfl⟩,
        fun t _ _ htext => absurd htext (by simp)⟩
    | false =>
      cases h
      refine ⟨rfl, hlisted.oldPath_isSome, fun htrue => absurd htrue (by simp [hplain]),
        fun t hthreshold ht _ => ?_⟩
      -- a text is not binary by itself, so it was the limit that was asked
      have hexceeds : exceeds (.int t) patch = .ok false := by
        rw [hthreshold, countsAsBinary] at hbinary
        split at hbinary
        · cases hbinary
        · exact hbinary
      have hlines : (Patch.added patch : Int) + Patch.removed patch ≤ Patch.contentSize patch := by
        exact_mod_cast Patch.added_add_removed_le patch
      exact hlines.trans (contentSize_le_of_not_exceeds ht hexceeds)

theorem counted_of_withLines {r : Repository} {base commit : String} {c c' : Change}
    (hlisted : c.IsListed) {w w' : World σ} (h : r.withLines base commit c w = (.ok c', w')) :
    r.Counted c c' := by
  obtain ⟨patch, -, hcounted⟩ := withLines_ok_iff.1 h
  exact counted_of_counted hlisted hcounted

/-- What depends on nothing but the shape is the same for the listed changes. -/
theorem map_eq_of_counted {α : Type} {f : Change → α}
    (hf : ∀ c c' : Change, c'.shape = c.shape → f c = f c') {r : Repository}
    {listed changes : List Change} (h : List.Forall₂ r.Counted listed changes) :
    listed.map f = changes.map f := by
  induction h with
  | nil => rfl
  | cons hcounted _ ih => rw [List.map_cons, List.map_cons, ih, hf _ _ hcounted.shape]

/-- **The run over all listed changes**: one command for each of them, in their order. -/
theorem forEach_withLines_ok {r : Repository} {base commit : String} {listed changes : List Change}
    (hlisted : ∀ c ∈ listed, c.IsListed) {w w' : World σ}
    (h : Action.forEach (r.withLines base commit) listed w = (.ok changes, w')) :
    changes.map Change.shape = listed.map Change.shape ∧
      w'.events = w.events ++ changes.map (r.showing base commit) := by
  have hevents : w'.events = w.events ++ listed.flatMap fun c => [r.showing base commit c] := by
    refine Action.forEach_ok_trace World.events (fun c _ v c' v' hstep => ?_) h
    obtain ⟨patch, hrun, -⟩ := withLines_ok_iff.1 hstep
    rw [events_run hrun, showing_eq]
  have hall : List.Forall₂ r.Counted listed changes :=
    Action.forEach_ok_forall₂ (fun c hc _ _ _ hstep => counted_of_withLines (hlisted c hc) hstep) h
  have hshown : listed.flatMap (fun c => [r.showing base commit c]) =
      changes.map (r.showing base commit) := by
    rw [← List.map_eq_flatMap]
    exact map_eq_of_counted (fun c c' hshape => showing_congr hshape.symm) hall
  rw [hevents, hshown]
  exact ⟨(map_eq_of_counted (fun c c' hshape => hshape.symm) hall).symm, rfl⟩

/-- What a commit is compared with: its parent, or the empty tree, whose name git may be asked for. -/
theorem base_ok {r : Repository} {parents : List String} (hparents : parents.length ≤ 1)
    {w w' : World σ} {base : String} (h : r.base parents w = (.ok base, w')) :
    parents = [base] ∧ w' = w ∨ parents = [] ∧ r.emptyTree w = (.ok base, w') ∧
      (w'.events = w.events ∨ w'.events = w.events ++ [.ran r.emptyTreeCommand true]) := by
  cases parents with
  | nil => exact .inr ⟨rfl, h, events_emptyTree h⟩
  | cons parent rest =>
    cases h
    have hrest : rest = [] := by
      rw [List.length_cons] at hparents
      exact List.eq_nil_of_length_eq_zero (by omega)
    exact .inl ⟨by rw [hrest], rfl⟩

end Repository

open Repository

/-- **The changes of a commit, and the commands that were given for them.**

    A commit with several parents has no changes, and nothing is done. Any other commit is compared with
    its parent or with the empty tree: git lists the changed paths, and then it shows each change by its
    own paths. The changes are those of the list, one by one; copies and moves and no others know an old
    path; a binary change has no lines; and with a limit that is positive no other change has more lines
    than the limit. -/
theorem changesOf_returns {r : Repository} {commit : String} {parents : List String}
    {w w' : World σ} {changes : List Change}
    (h : r.changesOf commit parents w = (.ok changes, w')) :
    (1 < parents.length → changes = [] ∧ w' = w) ∧
    (parents.length ≤ 1 → ∃ base raw w₁ w₂,
      (parents = [base] ∧ w₁ = w ∨ parents = [] ∧ r.emptyTree w = (.ok base, w₁) ∧
        (w₁.events = w.events ∨ w₁.events = w.events ++ [.ran r.emptyTreeCommand true])) ∧
      r.run (listingArguments base commit) none w₁ = (.ok raw, w₂) ∧
      (StatusList.ofText raw).isCutOff = false ∧
      changes.map Change.shape = (StatusList.ofText raw).changes.map Change.shape ∧
      w'.events = w₁.events ++ .ran (r.command (listingArguments base commit) none) true ::
        changes.map (r.showing base commit)) ∧
    ∀ c ∈ changes,
      (∀ p, p ∈ shownPaths c ↔ p = c.path ∨ c.kind = .move ∧ p ≠ "" ∧ c.oldPath = some p) ∧
      (c.oldPath.isSome = true ↔ c.kind = .copy ∨ c.kind = .move) ∧
      (c.isBinary = true → c.added = 0 ∧ c.removed = 0) ∧
      ∀ t : Int, r.threshold = .int t → 0 < t → c.isBinary = false → c.added + c.removed ≤ t := by
  unfold changesOf at h
  by_cases hmerge : 1 < parents.length
  · rw [if_pos hmerge] at h
    cases h
    refine ⟨fun _ => ⟨rfl, rfl⟩, fun hle => absurd hle (by omega), ?_⟩
    exact fun c hc => absurd hc List.not_mem_nil
  · rw [if_neg hmerge] at h
    have hparents : parents.length ≤ 1 := by omega
    -- the base, the list of paths, the changes in it, and one patch for each of them
    obtain ⟨⟨base, raw⟩, w₂, hlisting, h⟩ := Action.bind_ok_iff.1 h
    obtain ⟨base', w₁, hbase, hrun⟩ := Action.bind_ok_iff.1 (Action.renamed_ok_iff.1 hlisting)
    obtain ⟨raw', w₂', hrun, hpure⟩ := Action.bind_ok_iff.1 hrun
    cases hpure
    obtain ⟨listed, w₃, hlisted, hcounting⟩ := Action.bind_ok_iff.1 h
    obtain ⟨hwhole, rfl, hw₃⟩ := listed_ok hlisted
    have hall := StatusList.isListed_of_mem_ofPieces (Text.splitOn '\x00' raw.toList)
    obtain ⟨hshapes, hevents⟩ := forEach_withLines_ok hall hcounting
    refine ⟨fun hlt => absurd hlt hmerge, fun _ => ?_, fun c hc => ?_⟩
    · refine ⟨base, raw, w₁, w₂, base_ok hparents hbase, hrun, hwhole, hshapes, ?_⟩
      rw [hevents, hw₃, events_run hrun, List.append_assoc]
      rfl
    · obtain ⟨c₀, hc₀, v, v', hstep⟩ := Action.exists_step_of_mem hcounting hc
      have hcounted := counted_of_withLines (hall c₀ hc₀) hstep
      exact ⟨fun p => mem_shownPaths, hcounted.oldPath_isSome, hcounted.binary, hcounted.bound⟩

/-! ## A small world -/

/-- A list of two changes: one file is moved, and another one is changed. -/
def twoChanges : String := "R090\x00a\x00b\x00M\x00c\x00"

/-- The patch of the moved file. -/
def movedPatch : String := "diff --git a/a b/b\n@@ -1 +1 @@\n-x\n+y\n"

/-- The patch of the other file. -/
def grownPatch : String := "diff --git a/c b/c\n@@ -0,0 +1 @@\n+0123456789\n"

/-- A commit with these changes. -/
def moveAndGrowth : List String → String
  | "diff-tree" :: _ => twoChanges
  | arguments => if arguments.getLast? = some "b" then movedPatch else grownPatch

/-- The moved file has its two lines, and the other one counts as binary. Three commands are given. -/
theorem changesOf_moveAndGrowth :
    let r : Repository := ⟨⟨"/", ["project"]⟩, .null, .int 8, 0⟩
    let w : World Unit := .start oneRepository (Git.answering moveAndGrowth)
    let moved : Change := ⟨"b", .move, some "a", 1, 1, false⟩
    let grown : Change := ⟨"c", .modify, none, 0, 0, true⟩
    ∃ w', r.changesOf "2" ["1"] w = (.ok [moved, grown], w') ∧
      w'.events = [.ran (r.command (listingArguments "1" "2") none) true,
        r.showing "1" "2" moved, r.showing "1" "2" grown] ∧
      moved.added + moved.removed ≤ 8 := by
  intro r w moved grown
  -- git answers three times
  have hgit : w.git = Git.answering moveAndGrowth := rfl
  obtain ⟨w₁, hlisting, hgit₁⟩ := run_answering r (listingArguments "1" "2") hgit (by decide)
    (by decide +kernel : Git.text (Text.encode twoChanges.toList) = twoChanges)
  obtain ⟨w₂, hmoved, hgit₂⟩ := run_answering r
    (patchArguments "1" "2" (.uncounted "b" .move (some "a"))) hgit₁ (by decide)
    (by decide +kernel : Git.text (Text.encode movedPatch.toList) = movedPatch)
  obtain ⟨w₃, hgrown, -⟩ := run_answering r
    (patchArguments "1" "2" (.uncounted "c" .modify none)) hgit₂ (by decide)
    (by decide +kernel : Git.text (Text.encode grownPatch.toList) = grownPatch)
  have hread : StatusList.ofText twoChanges =
      ⟨[.change (.uncounted "b" .move (some "a")), .change (.uncounted "c" .modify none)], false⟩ := by
    decide
  have h : r.changesOf "2" ["1"] w = (.ok [moved, grown], w₃) := by
    have hlisted : listed twoChanges w₁ =
        (.ok [.uncounted "b" .move (some "a"), .uncounted "c" .modify none], w₁) := by
      rw [listed, hread]
      rfl
    refine Action.bind_ok_iff.2 ⟨("1", twoChanges), w₁, ?_, ?_⟩
    · exact Action.renamed_ok_iff.2 (Action.bind_ok_iff.2
        ⟨"1", w, rfl, Action.bind_ok_iff.2 ⟨_, w₁, hlisting, rfl⟩⟩)
    · refine Action.bind_ok_iff.2 ⟨_, w₁, hlisted, ?_⟩
      refine Action.forEach_cons_ok_iff.2 ⟨moved, w₂, [grown], ?_, ?_, rfl⟩
      · exact withLines_ok_iff.2 ⟨_, hmoved, by decide⟩
      · refine Action.forEach_cons_ok_iff.2 ⟨grown, w₃, [], ?_, rfl, rfl⟩
        exact withLines_ok_iff.2 ⟨_, hgrown, by decide⟩
  obtain ⟨-, hsingle, hall⟩ := changesOf_returns h
  obtain ⟨base, raw, v₁, v₂, hbase, -, -, -, hevents⟩ := hsingle (Nat.le_refl 1)
  refine ⟨w₃, h, ?_, (hall moved List.mem_cons_self).2.2.2 8 rfl (by decide) rfl⟩
  rcases hbase with ⟨hparents, rfl⟩ | ⟨hparents, -⟩
  · cases hparents
    rw [hevents]
    rfl
  · cases hparents

end HistoryMetrics
