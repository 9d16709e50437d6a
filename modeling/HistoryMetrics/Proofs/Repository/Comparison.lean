import HistoryMetrics.Proofs.Number.Comparison
import HistoryMetrics.Proofs.Repository.Setbacks
import HistoryMetrics.Proofs.Repository.Status

/-! # When comparing a commit fails

    A commit is compared by a few commands, and what they print is read. When one of the commands fails,
    that is told as a problem of the commit's changes. What is read is not guarded in this way: a list of
    changed paths that ends before the paths of its last status is a fault. So are a command that cannot be
    given, and a threshold that is no number. Here are all the ways in which comparing a commit fails.

    - `StatusList.IsWhole`: lists that do not end too early
    - `Appeal.Ends`, `run_renamed_error_iff`: how a command ends early
    - `listing_error_iff`, `listed_error_iff`, `withLines_error_iff`: the steps of a comparison
    - `Repository.Stops`: the ways in which comparing a commit fails
    - `changesOf_failure`: there are no others
-/

namespace HistoryMetrics

open HistoryMetrics.Action World

variable {σ : Type}

/-! ## Lists that are cut off -/

namespace StatusList

/-- **A list that is whole.** Its statuses are followed by as many paths as their letters ask for, and
    between the entries there may be blank pieces. -/
inductive IsWhole : List (List Char) → Prop where
  | nil : IsWhole []
  | blank {piece : List Char} {rest : List (List Char)} (hblank : Text.strip piece = [])
      (h : IsWhole rest) : IsWhole (piece :: rest)
  | single {status path more : List Char} {letter : Char} {rest : List (List Char)}
      (hstatus : Text.strip status = letter :: more) (hletter : ¬(letter = 'R' ∨ letter = 'C'))
      (h : IsWhole rest) : IsWhole (status :: path :: rest)
  | pair {status old new more : List Char} {letter : Char} {rest : List (List Char)}
      (hstatus : Text.strip status = letter :: more) (hletter : letter = 'R' ∨ letter = 'C')
      (h : IsWhole rest) : IsWhole (status :: old :: new :: rest)

/-- Moves and copies have letters of their own. -/
theorem letter_of_two {letter : Char} {kind : ChangeKind} (hkind : kindOfLetter letter = some kind)
    (htwo : hasTwoPaths (some kind) = true) : letter = 'R' ∨ letter = 'C' := by
  by_contra hletter
  obtain ⟨hR, hC⟩ := not_or.1 hletter
  obtain ⟨hmove, hcopy⟩ := kindOfLetter_of_single hR hC
  cases kind with
  | move => exact hmove hkind
  | copy => exact hcopy hkind
  | add => cases htwo
  | delete => cases htwo
  | modify => cases htwo

/-- **A list is not cut off** just when it is whole. -/
theorem isCutOff_eq_false_iff (pieces : List (List Char)) :
    (ofPieces pieces).isCutOff = false ↔ IsWhole pieces := by
  constructor
  · fun_induction ofPieces pieces with
    | case1 => exact fun _ => .nil
    | case2 piece rest hblank ih => exact fun h => .blank hblank (ih h)
    | case3 => exact fun h => absurd h.symm Bool.false_ne_true
    | case4 => exact fun h => absurd h.symm Bool.false_ne_true
    | case5 => exact fun h => absurd h.symm Bool.false_ne_true
    | case6 piece letter more hstatus old new rest hkind ih =>
      exact fun h => .pair hstatus (letter_of_two hkind rfl) (ih h)
    | case7 piece letter more hstatus old new rest hkind ih =>
      exact fun h => .pair hstatus (letter_of_two hkind rfl) (ih h)
    | case8 piece letter more hstatus path rest hmove₁ hcopy₁ hmove₂ hcopy₂ ih =>
      refine fun h => .single hstatus ?_ (ih h)
      -- a move or a copy would have been one of the cases before
      rintro (rfl | rfl)
      · cases rest with
        | nil => exact hmove₁ rfl rfl
        | cons new rest => exact hmove₂ new rest rfl rfl
      · cases rest with
        | nil => exact hcopy₁ rfl rfl
        | cons new rest => exact hcopy₂ new rest rfl rfl
  · intro h
    induction h with
    | nil => rfl
    | blank hblank _ ih =>
      rw [ofPieces, hblank]
      exact ih
    | single hstatus hletter _ ih =>
      obtain ⟨hR, hC⟩ := not_or.1 hletter
      rw [ofPieces_single hstatus hR hC]
      exact ih
    | pair hstatus hletter _ ih =>
      rcases hletter with rfl | rfl
      · have hmove : kindOfLetter 'R' = some .move := rfl
        rw [ofPieces_pair hstatus hmove rfl]
        exact ih
      · have hcopy : kindOfLetter 'C' = some .copy := rfl
        rw [ofPieces_pair hstatus hcopy rfl]
        exact ih

end StatusList

/-! ## Commands -/

/-- **How a command ends early**, in words for its failures.

    - `failed`: it fails for a reason
    - `refused`: it cannot be given
    - `interrupted`: the user wishes to stop -/
inductive Appeal.Ends (w : World σ) (told : String → Problem) : Appeal → Failure → Prop where
  | failed {a : Appeal} {reason : String} (hfails : a.Fails w reason) :
      Ends w told a (.problem (told reason))
  | refused {r : Repository} {arguments : List String} {input : Option String}
      (hnull : (r.command arguments input).holdsNull = true) :
      Ends w told (.command r arguments input) (.fault (.wrongValue "embedded null byte"))
  | interrupted {r : Repository} {arguments : List String} {input : Option String}
      (hnull : (r.command arguments input).holdsNull = false)
      (houtcome : r.outcome arguments input w = .interrupted) :
      Ends w told (.command r arguments input) .interrupt

namespace Repository

variable {r : Repository} {w v : World σ} {commit : String} {parents : List String} {f : Failure}

theorem run_fst_of_null {arguments : List String} {input : Option String}
    (hnull : (r.command arguments input).holdsNull = true) :
    (r.run arguments input w).1 = .error (.fault (.wrongValue "embedded null byte")) := by
  rw [run, bind_apply]
  simp only [World.log, Action.update, hnull, if_true]
  rfl

/-- **A command ends early in these ways, and in no other.** -/
theorem run_renamed_error_iff {arguments : List String} {input : Option String} {g : Problem → Problem}
    {told : String → Problem}
    (hg : ∀ arguments reason code, g (.gitCommand arguments reason code) = told reason) :
    ((r.run arguments input).renamed g w).1 = .error f ↔
      (Appeal.command r arguments input).Ends w told f := by
  constructor
  · intro h
    obtain ⟨e, hrun, rfl⟩ := renamed_fst_error_iff.1 h
    -- whatever the reason was: only the reason is told
    have hfailed : ∀ {arguments' reason code}, e = .problem (.gitCommand arguments' reason code) →
        (Appeal.command r arguments input).Ends w told (renameFailure g e) := by
      rintro arguments' reason code rfl
      have hproblem : (Appeal.command r arguments input).Ends w told (.problem (told reason)) :=
        .failed (failsFor_run_iff.1 ⟨arguments', code, hrun⟩)
      rwa [← hg arguments' reason code] at hproblem
    by_cases hnull : (r.command arguments input).holdsNull = true
    · rw [run_fst_of_null hnull] at hrun
      cases hrun
      exact .refused hnull
    · rw [Bool.not_eq_true] at hnull
      have hverdict := hrun
      rw [run_fst hnull] at hverdict
      cases houtcome : r.outcome arguments input w with
      | finished code output errors =>
        rw [houtcome, verdict, judge] at hverdict
        by_cases hcode : code = 0
        · rw [if_pos hcode] at hverdict
          cases hverdict
        · rw [if_neg hcode] at hverdict
          exact hfailed (Except.error.inj hverdict).symm
      | notStarted m =>
        rw [houtcome] at hverdict
        exact hfailed (Except.error.inj hverdict).symm
      | timedOut =>
        rw [houtcome] at hverdict
        exact hfailed (Except.error.inj hverdict).symm
      | interrupted =>
        rw [houtcome] at hverdict
        cases hverdict
        exact .interrupted hnull houtcome
  · intro h
    cases h with
    | failed hfails => exact (failsFor_run_iff.2 hfails).renamed fun arguments code => hg arguments _ code
    | refused hnull => exact renamed_fst_of_error g (run_fst_of_null hnull)
    | interrupted hnull houtcome =>
      have hrun : (r.run arguments input w).1 = .error .interrupt := by
        rw [run_fst hnull, houtcome]
        rfl
      exact renamed_fst_of_error g hrun

/-! ## The steps of a comparison -/

/-- What a commit is compared with is asked for once only. -/
theorem emptyTree_error_iff : (r.emptyTree w).1 = .error f ↔
    w.emptyTrees.lookup r.number = none ∧ (r.run Git.treeArguments (some "") w).1 = .error f := by
  unfold Git.treeArguments
  cases hknown : w.emptyTrees.lookup r.number with
  | some tree =>
    simp only [emptyTree, hknown, reduceCtorEq, false_and]
  | none =>
    rcases hrun : r.run ["hash-object", "-t", "tree", "--stdin"] (some "") w with ⟨result, w'⟩
    simp only [emptyTree, hknown, hrun, true_and]
    cases result with
    | error e => exact Iff.rfl
    | ok output => simp only [reduceCtorEq]

theorem base_error_iff : (r.base parents w).1 = .error f ↔ parents = [] ∧
    w.emptyTrees.lookup r.number = none ∧ (r.run Git.treeArguments (some "") w).1 = .error f := by
  cases parents with
  | nil =>
    rw [and_iff_right rfl]
    exact emptyTree_error_iff
  | cons parent rest =>
    have hbase : (r.base (parent :: rest) w).1 = .ok parent := rfl
    simp only [hbase, reduceCtorEq, false_and]

/-- **The changed paths cannot be listed.** -/
theorem listing_error_iff :
    ((r.listing commit parents).renamed (asDiff commit none) w).1 = .error f ↔
      (parents = [] ∧ w.emptyTrees.lookup r.number = none ∧
        (Appeal.command r Git.treeArguments (some "")).Ends w (.diff commit · none) f) ∨
      ∃ base v, r.base parents w = (.ok base, v) ∧
        (Appeal.command r (listingArguments base commit) none).Ends v (.diff commit · none) f := by
  have hrun : ∀ {arguments input} {w : World σ}, (Appeal.command r arguments input).Ends w
      (.diff commit · none) f ↔ ∃ e, (r.run arguments input w).1 = .error e ∧
        renameFailure (asDiff commit none) e = f := fun {arguments input w} => by
    rw [← run_renamed_error_iff (g := asDiff commit none) fun _ _ _ => rfl]
    exact renamed_fst_error_iff
  have hlisting : ∀ {e}, (r.listing commit parents w).1 = .error e ↔ (r.base parents w).1 = .error e ∨
      ∃ base v, r.base parents w = (.ok base, v) ∧
        (r.run (listingArguments base commit) none v).1 = .error e := by
    intro e
    rw [listing, bind_fst_error_iff]
    refine or_congr_right (exists_congr fun base => exists_congr fun v => and_congr_right fun _ => ?_)
    rw [bind_fst_error_iff]
    refine or_iff_left ?_
    rintro ⟨_, _, _, hpure⟩
    cases hpure
  rw [renamed_fst_error_iff]
  constructor
  · rintro ⟨e, hfails, htold⟩
    rcases hlisting.1 hfails with hbase | ⟨base, v, hbase, hlist⟩
    · obtain ⟨hparents, hunknown, htree⟩ := base_error_iff.1 hbase
      exact .inl ⟨hparents, hunknown, hrun.2 ⟨e, htree, htold⟩⟩
    · exact .inr ⟨base, v, hbase, hrun.2 ⟨e, hlist, htold⟩⟩
  · rintro (⟨hparents, hunknown, hends⟩ | ⟨base, v, hbase, hends⟩)
    · obtain ⟨e, htree, htold⟩ := hrun.1 hends
      exact ⟨e, hlisting.2 (.inl (base_error_iff.2 ⟨hparents, hunknown, htree⟩)), htold⟩
    · obtain ⟨e, hlist, htold⟩ := hrun.1 hends
      exact ⟨e, hlisting.2 (.inr ⟨base, v, hbase, hlist⟩), htold⟩

/-- **A list is not read** when it is cut off. -/
theorem listed_error_iff {text : String} : (listed text w).1 = .error f ↔
    ¬StatusList.IsWhole (Text.splitOn '\x00' text.toList) ∧ f = .fault .outOfRange := by
  rw [← StatusList.isCutOff_eq_false_iff, Bool.not_eq_false]
  show (listed text w).1 = _ ↔ (StatusList.ofText text).isCutOff = true ∧ _
  rw [listed]
  show ((if _ then _ else _ : Action (World σ) (List Change)) _).1 = _ ↔ _
  cases (StatusList.ofText text).isCutOff with
  | true =>
    rw [if_pos rfl, and_iff_right rfl]
    exact ⟨fun h => (Except.error.inj h).symm, fun h => by rw [h]; rfl⟩
  | false =>
    rw [if_neg Bool.false_ne_true]
    exact iff_of_false (fun h => by cases h) fun h => Bool.false_ne_true h.1

/-- A threshold that is no number does not compare, and any other one does. -/
theorem exceeds_error_iff {threshold : Value} {patch : String} {e : Fault} :
    exceeds threshold patch = .error e ↔
      threshold.number? = none ∧ e = incomparable ">" threshold (.int 0) := by
  have hint : ∀ i : Int, (Value.int i).number? = some (.whole i) := fun _ => rfl
  unfold exceeds Value.isAbove Value.compareWith
  simp only [hint]
  cases threshold.number? with
  | none => exact ⟨fun h => ⟨rfl, (Except.error.inj h).symm⟩, fun h => by rw [h.2]⟩
  | some n =>
    dsimp only
    cases n.gt (.whole 0) <;> simp only [reduceCtorEq, false_and]

/-- A patch is not counted when there is a text to be measured, and no number to measure it with. -/
theorem counted_error_iff {threshold : Value} {c : Change} {patch : String} {e : Fault} :
    counted threshold c patch = .error e ↔ Patch.isBinary patch = false ∧ threshold.number? = none ∧
      e = incomparable ">" threshold (.int 0) := by
  have hcounted : counted threshold c patch = .error e ↔ countsAsBinary threshold patch = .error e := by
    unfold counted
    rcases countsAsBinary threshold patch with e' | isBinary
    · exact ⟨fun h => congrArg _ (Except.error.inj h), fun h => congrArg _ (Except.error.inj h)⟩
    · cases isBinary <;> simp only [reduceCtorEq]
  rw [hcounted, countsAsBinary, ← exceeds_error_iff]
  cases Patch.isBinary patch with
  | true => exact iff_of_false (fun h => by cases h) fun h => Bool.false_ne_true h.1.symm
  | false => exact (and_iff_right rfl).symm

/-- **The lines of a change are not counted.** -/
theorem withLines_error_iff {base : String} {c : Change} : (r.withLines base commit c w).1 = .error f ↔
    (Appeal.command r (patchArguments base commit c) none).Ends w (.diff commit · (some c.path)) f ∨
      ∃ patch v, r.run (patchArguments base commit c) none w = (.ok patch, v) ∧
        Patch.isBinary patch = false ∧ r.threshold.number? = none ∧
        f = .fault (incomparable ">" r.threshold (.int 0)) := by
  have hresult : ∀ {patch}, (counted r.threshold c patch).mapError .fault = .error f ↔
      ∃ e, counted r.threshold c patch = .error e ∧ f = .fault e := by
    intro patch
    cases counted r.threshold c patch with
    | ok c' =>
      simp only [Except.mapError, reduceCtorEq, false_and, exists_false]
    | error e =>
      constructor
      · intro h
        exact ⟨e, rfl, (Except.error.inj h).symm⟩
      · rintro ⟨_, he, rfl⟩
        cases he
        rfl
  rw [withLines, bind_fst_error_iff, run_renamed_error_iff fun _ _ _ => rfl]
  refine or_congr_right (exists_congr fun patch => exists_congr fun v => ?_)
  rw [renamed_ok_iff]
  refine and_congr_right fun _ => ?_
  rw [show (ofResult ((counted r.threshold c patch).mapError .fault) v).1 =
    (counted r.threshold c patch).mapError .fault from rfl, hresult]
  constructor
  · rintro ⟨e, hcounted, rfl⟩
    obtain ⟨hbinary, hnumber, rfl⟩ := counted_error_iff.1 hcounted
    exact ⟨hbinary, hnumber, rfl⟩
  · rintro ⟨hbinary, hnumber, rfl⟩
    exact ⟨_, counted_error_iff.2 ⟨hbinary, hnumber, rfl⟩, rfl⟩

/-! ## All failures -/

/-- **The ways in which comparing a commit fails.**

    - `command`: one of its commands ends early
    - `cutOff`: the list of changed paths ends before the paths of its last status
    - `unlimited`: a change is not binary by itself, and the threshold is no number -/
inductive Stops (r : Repository) (w : World σ) (commit : String) (parents : List String) :
    Failure → Prop where
  | command {a : Appeal} {told : String → Problem} {v : World σ} {f : Failure}
      (hcompares : r.Compares w commit parents a told v) (hends : a.Ends v told f) :
      Stops r w commit parents f
  | cutOff {base text : String} {w₁ : World σ}
      (hlisting : r.listing commit parents w = (.ok (base, text), w₁))
      (hcut : ¬StatusList.IsWhole (Text.splitOn '\x00' text.toList)) :
      Stops r w commit parents (.fault .outOfRange)
  | unlimited {base text patch : String} {before after done : List Change} {c : Change}
      {w₁ w₂ w₃ w₄ : World σ} (hlisting : r.listing commit parents w = (.ok (base, text), w₁))
      (hlisted : listed text w₁ = (.ok (before ++ c :: after), w₂))
      (hbefore : forEach (r.withLines base commit) before w₂ = (.ok done, w₃))
      (hpatch : r.run (patchArguments base commit c) none w₃ = (.ok patch, w₄))
      (hbinary : Patch.isBinary patch = false) (hnumber : r.threshold.number? = none) :
      Stops r w commit parents (.fault (incomparable ">" r.threshold (.int 0)))

/-- **Comparing a commit fails in these ways, and in no other.** -/
theorem changesOf_error_iff (hone : parents.length ≤ 1) :
    (r.changesOf commit parents w).1 = .error f ↔ r.Stops w commit parents f := by
  -- the steps come one after another: a comparison fails at the first one that does
  rw [changesOf_eq hone, bind_fst_error_iff, listing_error_iff]
  constructor
  · rintro (hlisting | ⟨⟨base, text⟩, w₁, hlisting, hread⟩)
    · rcases hlisting with ⟨hparents, hunknown, hends⟩ | ⟨base, v, hbase, hends⟩
      · exact .command (.emptyTree hparents hunknown) hends
      · exact .command (.listing hone hbase) hends
    · rw [renamed_ok_iff] at hlisting
      rcases bind_fst_error_iff.1 hread with hlisted | ⟨changes, w₂, hlisted, hloop⟩
      · obtain ⟨hcut, rfl⟩ := listed_error_iff.1 hlisted
        exact .cutOff hlisting hcut
      · obtain ⟨before, c, after, done, w₃, rfl, hbefore, hlines⟩ := forEach_fst_error_iff.1 hloop
        rcases withLines_error_iff.1 hlines with hends | ⟨patch, w₄, hpatch, hbinary, hnumber, rfl⟩
        · exact .command (.patch hone hlisting hlisted hbefore) hends
        · exact .unlimited hlisting hlisted hbefore hpatch hbinary hnumber
  · intro h
    cases h with
    | command hcompares hends =>
      cases hcompares with
      | emptyTree hparents hunknown => exact .inl (.inl ⟨hparents, hunknown, hends⟩)
      | listing _ hbase => exact .inl (.inr ⟨_, _, hbase, hends⟩)
      | patch _ hlisting hlisted hbefore =>
        refine .inr ⟨_, _, renamed_ok_iff.2 hlisting, bind_fst_error_iff.2 (.inr ⟨_, _, hlisted, ?_⟩)⟩
        exact forEach_fst_of_error hbefore (withLines_error_iff.2 (.inl hends))
    | cutOff hlisting hcut =>
      refine .inr ⟨_, _, renamed_ok_iff.2 hlisting, bind_fst_error_iff.2 (.inl ?_)⟩
      exact listed_error_iff.2 ⟨hcut, rfl⟩
    | unlimited hlisting hlisted hbefore hpatch hbinary hnumber =>
      refine .inr ⟨_, _, renamed_ok_iff.2 hlisting, bind_fst_error_iff.2 (.inr ⟨_, _, hlisted, ?_⟩)⟩
      refine forEach_fst_of_error hbefore (withLines_error_iff.2 (.inr ?_))
      exact ⟨_, _, hpatch, hbinary, hnumber, rfl⟩

/-- The problems among them are those of the commit's changes. -/
theorem Stops.problem_eq {p : Problem} (h : r.Stops w commit parents (.problem p)) :
    ∃ reason path, p = .diff commit reason path := by
  cases h with
  | command hcompares hends =>
    cases hends with
    | @failed _ reason _ =>
      cases hcompares with
      | emptyTree _ _ => exact ⟨reason, none, rfl⟩
      | listing _ _ => exact ⟨reason, none, rfl⟩
      | patch _ _ _ _ => exact ⟨reason, _, rfl⟩

/-- Only a list that is cut off is out of range. -/
theorem Stops.outOfRange_iff : r.Stops w commit parents (.fault .outOfRange) ↔
    ∃ base text w₁, r.listing commit parents w = (.ok (base, text), w₁) ∧
      ¬StatusList.IsWhole (Text.splitOn '\x00' text.toList) := by
  constructor
  · intro h
    generalize hfault : Failure.fault .outOfRange = f at h
    cases h with
    | command _ hends => cases hends <;> cases hfault
    | cutOff hlisting hcut => exact ⟨_, _, _, hlisting, hcut⟩
    | unlimited _ _ _ _ _ _ => cases hfault
  · rintro ⟨_, _, _, hlisting, hcut⟩
    exact .cutOff hlisting hcut

end Repository

open Repository

/-- **How comparing a commit fails**, whatever git prints.

    - it fails in the ways of the table, and in no other
    - it is out of range just when the list of changed paths is cut off
    - when that list is whole, the threshold is a number, and the commands that end early fail for a reason,
      it returns the changes or fails with a problem of the commit's changes -/
theorem changesOf_failure (r : Repository) (commit : String) {parents : List String}
    (hone : parents.length ≤ 1) (w : World σ) :
    (∀ f, (r.changesOf commit parents w).1 = .error f ↔ r.Stops w commit parents f) ∧
    ((r.changesOf commit parents w).1 = .error (.fault .outOfRange) ↔
      ∃ base text w₁, r.listing commit parents w = (.ok (base, text), w₁) ∧
        ¬StatusList.IsWhole (Text.splitOn '\x00' text.toList)) ∧
    ((∀ base text w₁, r.listing commit parents w = (.ok (base, text), w₁) →
        StatusList.IsWhole (Text.splitOn '\x00' text.toList)) →
      r.threshold.number? ≠ none →
      (∀ a told v f, r.Compares w commit parents a told v → a.Ends v told f → ∃ p, f = .problem p) →
      (∃ changes, (r.changesOf commit parents w).1 = .ok changes) ∨
        ∃ reason path, (r.changesOf commit parents w).1 = .error (.problem (.diff commit reason path))) := by
  refine ⟨fun f => changesOf_error_iff hone, ?_, ?_⟩
  · rw [changesOf_error_iff hone]
    exact Stops.outOfRange_iff
  · intro hwhole hnumber hreason
    cases hresult : (r.changesOf commit parents w).1 with
    | ok changes => exact .inl ⟨changes, rfl⟩
    | error f =>
      have hstops := (changesOf_error_iff hone).1 hresult
      have hproblem : ∃ p, f = .problem p := by
        cases hstops with
        | command hcompares hends => exact hreason _ _ _ f hcompares hends
        | cutOff hlisting hcut => exact absurd (hwhole _ _ _ hlisting) hcut
        | unlimited _ _ _ _ _ hnone => exact absurd hnone hnumber
      obtain ⟨p, rfl⟩ := hproblem
      obtain ⟨reason, path, rfl⟩ := hstops.problem_eq
      exact .inr ⟨reason, path, rfl⟩

/-! ### Lists that end too early -/

/-- The list of changed paths is what git prints. -/
theorem exists_listing_answering (r : Repository) (commit parent text : String)
    (hnull : ∀ s ∈ (r.command (listingArguments parent commit) none).line, '\x00' ∉ s.toList)
    (htext : Git.text (Text.encode text.toList) = text) :
    ∃ w₁, r.listing commit [parent] (.start oneRepository (.answering fun _ => text)) =
      (.ok (parent, text), w₁) := by
  let w : World Unit := .start oneRepository (.answering fun _ => text)
  have hgit : w.git = .answering fun _ => text := rfl
  obtain ⟨w₁, hrun, -⟩ := r.run_answering (listingArguments parent commit) hgit hnull htext
  exact ⟨w₁, bind_ok_iff.2 ⟨parent, _, rfl, bind_ok_iff.2 ⟨text, w₁, hrun, rfl⟩⟩⟩

/-- The new path of a move is missing. -/
theorem changesOf_failure_move :
    let r : Repository := ⟨⟨"/", ["project"]⟩, .null, .int 0, 0⟩
    let w : World Unit := .start oneRepository (.answering fun _ => "R100\x00old")
    ["c1"].length ≤ 1 ∧ (r.changesOf "c2" ["c1"] w).1 = .error (.fault .outOfRange) := by
  intro r w
  have hone : ["c1"].length ≤ 1 := by decide
  obtain ⟨w₁, hlisting⟩ := exists_listing_answering r "c2" "c1" "R100\x00old" (by decide)
    (by decide +kernel)
  have hcut : ¬StatusList.IsWhole (Text.splitOn '\x00' "R100\x00old".toList) := by
    rw [← StatusList.isCutOff_eq_false_iff]
    decide
  exact ⟨hone, (changesOf_failure r "c2" hone w).2.1.2 ⟨"c1", _, w₁, hlisting, hcut⟩⟩

/-- **A list that ends after a status** is a fault, and no problem of the commit's changes. -/
theorem changesOf_failure_status :
    ¬∀ (r : Repository) (w : World Unit) (commit : String) (parents : List String), parents.length ≤ 1 →
      (∃ changes, (r.changesOf commit parents w).1 = .ok changes) ∨
        ∃ reason path,
          (r.changesOf commit parents w).1 = .error (.problem (.diff commit reason path)) := by
  intro hclaim
  let r : Repository := ⟨⟨"/", ["project"]⟩, .null, .int 0, 0⟩
  obtain ⟨w₁, hlisting⟩ := exists_listing_answering r "c2" "c1" "M" (by decide) (by decide +kernel)
  have hcut : ¬StatusList.IsWhole (Text.splitOn '\x00' "M".toList) := by
    rw [← StatusList.isCutOff_eq_false_iff]
    decide
  have hone : ["c1"].length ≤ 1 := by decide
  have hfails := (changesOf_error_iff hone).2 (.cutOff hlisting hcut)
  rcases hclaim r _ "c2" ["c1"] hone with ⟨changes, hok⟩ | ⟨reason, path, hproblem⟩
  · rw [hfails] at hok
    cases hok
  · rw [hfails] at hproblem
    cases hproblem

end HistoryMetrics
