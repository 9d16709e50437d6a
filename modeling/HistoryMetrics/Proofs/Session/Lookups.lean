import HistoryMetrics.Proofs.Git.Answers
import HistoryMetrics.Proofs.Session.Setbacks

/-! # Names that a session looks up

    A session looks up two kinds of names: the commit that is to be checked out, and the path of a
    reference without a target. What comes of such a name decides what comes of the operation: no object
    is a problem for a checkout, and a reference without commits. A failure of the lookup is told in the
    operation's own words, as far as it is a problem at all, unless closing the helper goes wrong, too.

    - `Session.Alike`, `alike_clearLock`: worlds in which the same answers are given
    - `checkout_of_lookup`, `idsOf_of_lookup`: what comes of the operations
    - `lookup_answered`: all of it
-/

namespace HistoryMetrics

open HistoryMetrics.Action World Repository

variable {σ α : Type}

namespace Session

/-! ## The same answers -/

/-- **The same answers are given** in both worlds. -/
structure Alike (w v : World σ) : Prop where
  git : v.git = w.git
  outside : v.outside = w.outside
  live : v.liveHelpers = w.liveHelpers

instance : Std.Refl (Alike (σ := σ)) := ⟨fun _ => ⟨rfl, rfl, rfl⟩⟩

instance : IsTrans (World σ) Alike :=
  ⟨fun _ _ _ h h' => ⟨h'.git.trans h.git, h'.outside.trans h.outside, h'.live.trans h.live⟩⟩

theorem Alike.logged (w : World σ) (r : LogRecord) : Alike w (w.logged r) :=
  ⟨rfl, outside_logged w r, rfl⟩

/-- A lock file that is left over has no influence on the answers. -/
theorem alike_clearLock (h : Handles) (id : String) :
    Moves Alike (clearLock h id : Action (World σ) Unit) := by
  have hremove : Moves Alike (removeLock id (lockOf h) : Action (World σ) Unit) := by
    intro w
    unfold removeLock
    split
    · exact ⟨rfl, rfl, rfl⟩
    · exact refl_of Alike w
  have hlocked : Moves Alike (isLocked h : Action (World σ) Bool) := fun w => refl_of Alike w
  refine hlocked.bind fun isLocked => ?_
  split
  · exact (moves_update fun w => Alike.logged w _).bind fun _ => hremove
  · exact moves_pure _

/-- A name comes to the same in both worlds. -/
theorem Alike.info {w v : World σ} (h : Alike w v) (helper : Nat) (name : String) :
    (Helper.info helper name v).1 = (Helper.info helper name w).1 := by
  have hask : (Helper.ask helper name v).1 = (Helper.ask helper name w).1 := by
    unfold Helper.ask
    rw [h.git, h.outside]
    rcases w.git.ask helper name w.outside with ⟨answer, outside⟩
    cases answer <;> rfl
  unfold Helper.info Helper.isLive
  rw [h.live, h.git, h.outside]
  split
  · rfl
  · split
    · exact hask
    · rfl

theorem Alike.closingMishap {w v : World σ} (h : Alike w v) (helper : Nat) (name : String) :
    (Appeal.lookup helper name).closingMishap v = (Appeal.lookup helper name).closingMishap w := by
  unfold Appeal.closingMishap Helper.isLive
  rw [h.live, h.git, h.outside]

/-- Nobody stops a lookup. -/
theorem lookup_ne_interrupt {w : World σ} {helper : Nat} {name : String} {f : Failure}
    (h : Helper.Lookup w helper name (.error f)) : f ≠ .interrupt := by
  cases h <;> exact nofun

theorem renameFailure_ne_interrupt {f : Failure} (h : f ≠ .interrupt) (g : Problem → Problem) :
    renameFailure g f ≠ .interrupt := by
  cases f with
  | problem p => exact nofun
  | fault e => exact nofun
  | interrupt => exact absurd rfl h

/-- **The name of a commit misleads** just when it has two words. -/
theorem misleads_commitName_iff {name : String} : Helper.Misleads (commitName name) ↔
    (Text.words (commitName name).toList).length = 2 := by
  constructor
  · intro ⟨first, second, hwords, _⟩
    rw [hwords]
    rfl
  · intro hlength
    obtain ⟨first, second, hwords⟩ := List.length_eq_two.1 hlength
    refine ⟨first, second, hwords, fun habsent => ?_⟩
    have hword : ("^\x7bcommit\x7d".toList.all fun c => !Text.isBlank c) = true := by decide
    have hblank : ∀ c ∈ "^\x7bcommit\x7d".toList, Text.isBlank c = false :=
      fun c hc => by simpa using List.all_eq_true.1 hword c hc
    -- the last word holds the mark of a commit
    obtain ⟨ws, rest, hlast⟩ := Text.words_append_word (by decide) hblank name.toList
    rw [commitName, String.toList_append, hlast] at hwords
    have hsplit : ws ++ [rest ++ "^\x7bcommit\x7d".toList] = [first] ++ [second] := hwords
    obtain ⟨-, hsecond⟩ := List.append_inj' hsplit rfl
    have hmark : '^' ∈ second := by
      rw [← List.singleton_inj.1 hsecond]
      exact List.mem_append_right _ List.mem_cons_self
    have hplain : ∀ reason ∈ Helper.absences, '^' ∉ reason.toList := by decide
    refine hplain _ habsent ?_
    rwa [String.toList_ofList]

/-! ## What comes of the operations -/

variable {w : World σ} {h : Handles} (hs : w.session = some h) (hw : w.AllSent)
  {result : Except Failure (Option ObjectInfo)}
include hs hw

/-- **A checkout** fails as the lookup does, unless closing goes wrong, and without an object. -/
theorem checkout_of_lookup {id : String} (hlock : (clearLock h id w).1 = .ok ())
    (hlookup : Helper.Lookup w h.helper (commitName id) result) :
    (∀ f, result = .error f → (checkout id w).1 =
      .error (((Appeal.lookup h.helper (commitName id)).closingMishap w).elim
        (renameFailure (asCheckout id) f) fun m => .fault m.toFault)) ∧
      (result = .ok none →
        (checkout id w).1 = .error (.problem (.checkout id "does not resolve to a commit"))) := by
  have hclear : clearLock h id w = (.ok (), (clearLock h id w).2) := Prod.ext hlock rfl
  have hsteady : Steady w (clearLock h id w).2 := steady_clearLock h id w
  have halike : Alike w (clearLock h id w).2 := alike_clearLock h id w
  -- the name is told after the lock has been removed, and comes to the same
  have hinfo : (Helper.info h.helper (commitName id) (clearLock h id w).2).1 = result :=
    (halike.info _ _).trans (Helper.info_lookup hlookup)
  constructor
  · rintro f rfl
    rw [← halike.closingMishap]
    refine operation_of_info hs hw hsteady ?_
      (renameFailure_ne_interrupt (lookup_ne_interrupt hlookup) _)
    rw [bind_apply, hclear]
    exact bind_of_error (resolveCommit_of_error hinfo)
  · rintro rfl
    exact checkout_of_none hs hw hclear hinfo

/-- **The ids of a reference without a target**: the lookup fails, there is no commit, or the walk starts
    at the commit that was found. -/
theorem idsOf_of_lookup {r : Reference} (htarget : ∀ t, r.target = some t → t = "")
    (hlookup : Helper.Lookup w h.helper (commitName r.path) result) :
    (∀ f, result = .error f → (idsOf r w).1 =
      .error (((Appeal.lookup h.helper (commitName r.path)).closingMishap w).elim
        (renameFailure (History.asHistory (some r.path)) f) fun m => .fault m.toFault)) ∧
    (result = .ok none → (idsOf r w).1 = .ok []) ∧
    ∀ info, result = .ok (some info) →
      (idsOf r w).1 = ((h.toRepository.run (reachedArguments info.id) none).renamed
        (History.asHistory (some r.path)) (Helper.info h.helper (commitName r.path) w).2).1.map
          filledLines := by
  refine ⟨?_, ?_, ?_⟩
  · rintro f rfl
    refine operation_of_info hs hw (.refl w) ?_
      (renameFailure_ne_interrupt (lookup_ne_interrupt hlookup) _)
    exact bind_of_error (startOf_of_error htarget (Helper.info_lookup hlookup))
  · rintro rfl
    exact idsOf_of_none hs htarget (Helper.info_lookup hlookup)
  · rintro info rfl
    have hstart := startOf_of_info htarget (Helper.info_lookup hlookup)
    have hv : Steady w (Helper.info h.helper (commitName r.path) w).2 :=
      (asks_startOf h r).steady_of_ok hstart
    refine (operation_fst hs ?_).trans ?_
    · rw [bind_apply, hstart]
      exact (hw.steady hv).steady ((((steady_run _ _ _).renamed _).bind fun _ => moves_pure _) _)
    · rw [bind_fst_of_ok hstart]
      exact congrArg Prod.fst (map_apply filledLines _ _)

end Session

/-- **What a helper answers decides what comes of a name**, and of the operations that look it up.

    - a name comes to what is in the table, and whatever the helper answers is no problem
    - the name of a commit misleads just when it has two words
    - a checkout fails as the lookup does, and without an object
    - the ids of a reference without a target: the lookup fails, or there is no commit and so no id, or the
      walk starts at the commit that was found
    - but if the helper broke over the name, and closing it goes wrong, too, then both operations end with
      this fault of the system -/
theorem lookup_answered {w : World σ} {h : Handles} (hs : w.session = some h) (hw : w.AllSent) :
    (∀ helper name, (∀ result, Helper.Lookup w helper name result →
        (Helper.info helper name w).1 = result) ∧
      ∀ line p, Helper.IsTold w helper name → Helper.answer w helper name = .ok line →
        (Helper.info helper name w).1 ≠ .error (.problem p)) ∧
    (∀ name, Helper.Misleads (Session.commitName name) ↔
      (Text.words (Session.commitName name).toList).length = 2) ∧
    (∀ id result, (Session.clearLock h id w).1 = .ok () →
      Helper.Lookup w h.helper (Session.commitName id) result →
      (∀ f, result = .error f → (Session.checkout id w).1 =
        .error (((Appeal.lookup h.helper (Session.commitName id)).closingMishap w).elim
          (renameFailure (Session.asCheckout id) f) fun m => .fault m.toFault)) ∧
      (result = .ok none →
        (Session.checkout id w).1 = .error (.problem (.checkout id "does not resolve to a commit")))) ∧
    ∀ (r : Reference) result, (∀ t, r.target = some t → t = "") →
      Helper.Lookup w h.helper (Session.commitName r.path) result →
      (∀ f, result = .error f → (Session.idsOf r w).1 =
        .error (((Appeal.lookup h.helper (Session.commitName r.path)).closingMishap w).elim
          (renameFailure (History.asHistory (some r.path)) f) fun m => .fault m.toFault)) ∧
      (result = .ok none → (Session.idsOf r w).1 = .ok []) ∧
      ∀ info, result = .ok (some info) →
        (Session.idsOf r w).1 = ((h.toRepository.run (Session.reachedArguments info.id) none).renamed
          (History.asHistory (some r.path))
          (Helper.info h.helper (Session.commitName r.path) w).2).1.map Session.filledLines := by
  refine ⟨fun helper name => ⟨fun result hlookup => ?_, fun line p htold hanswer => ?_⟩,
    fun name => Session.misleads_commitName_iff, fun id result hlock hlookup => ?_,
    fun r result htarget hlookup => ?_⟩
  · exact Helper.info_lookup hlookup
  · exact Helper.info_ne_problem htold hanswer p
  · exact Session.checkout_of_lookup hs hw hlock hlookup
  · exact Session.idsOf_of_lookup hs hw htarget hlookup

/-! ### Some answers -/

/-- A git whose helper answers each name with a line. -/
def Git.replying (reply : String → String) : Git Unit :=
  { Git.answering fun _ => "" with
    ask := fun _ name outside => (.ok (Text.encode (reply name).toList), outside) }

theorem isTold_replying {reply : String → String} {name : String}
    (hname : '\n' ∉ name.toList ∧ '\r' ∉ name.toList) :
    Helper.IsTold (projectOpened (.replying reply)) 0 name :=
  ⟨Helper.spansLines_eq_false_iff.2 hname, rfl⟩

/-- A commit that is missing cannot be checked out. -/
theorem lookup_answered_missing :
    let w := projectOpened (.replying fun name => Helper.absentLine name "missing")
    w.session = some projectHandles ∧
      (Session.checkout "c9" w).1 = .error (.problem (.checkout "c9" "does not resolve to a commit")) := by
  intro w
  have hs : w.session = some projectHandles := rfl
  have hw : w.AllSent := fun _ _ _ => List.not_mem_nil
  have hmisleads : ¬Helper.Misleads (Session.commitName "c9") := fun hname =>
    absurd (((lookup_answered hs hw).2.1 "c9").1 hname) (by decide)
  have habsence : "missing" ∈ Helper.absences := by decide
  have hlookup : Helper.Lookup w 0 (Session.commitName "c9") (.ok none) :=
    .absent (isTold_replying (by decide)) habsence hmisleads rfl
  have hlock : (Session.clearLock projectHandles "c9" w).1 = .ok () := by
    rw [Session.clearLock_projectHandles "c9" rfl]
  exact ⟨hs, ((lookup_answered hs hw).2.2.1 "c9" (.ok none) hlock hlookup).2 rfl⟩

/-- **A name of two words misleads, and so does the end of the file**: that there is no such object is a
    fault, and a helper that has ended has no such object. -/
theorem lookup_answered_misled :
    (¬∀ (w : World Unit) (helper : Nat) (name reason : String), Helper.IsTold w helper name →
      reason ∈ Helper.absences →
      Helper.answer w helper name = .ok (Text.encode (Helper.absentLine name reason).toList) →
      (Helper.info helper name w).1 = .ok none) ∧
    ¬∀ (w : World Unit) (helper : Nat) (name : String), Helper.IsTold w helper name →
      Helper.answer w helper name = .ok [] → ∃ reason, FailsFor reason (Helper.info helper name w).1 := by
  constructor
  · intro hclaim
    let w := projectOpened (.replying fun name => Helper.absentLine name "missing")
    have htold : Helper.IsTold w 0 "a b" := isTold_replying (by decide)
    have hmisleads : Helper.Misleads "a b" := ⟨['a'], ['b'], by decide, by decide⟩
    have habsence : "missing" ∈ Helper.absences := by decide
    have hread := hclaim w 0 "a b" "missing" htold habsence rfl
    rw [Helper.info_lookup (.misread htold habsence hmisleads rfl)] at hread
    cases hread
  · intro hclaim
    let w := projectOpened (.replying fun _ => "")
    have htold : Helper.IsTold w 0 "a" := isTold_replying (by decide)
    obtain ⟨reason, hfails⟩ := hclaim w 0 "a" htold rfl
    rw [Helper.info_lookup (.ended htold rfl)] at hfails
    exact not_failsFor_ok reason none hfails

end HistoryMetrics
