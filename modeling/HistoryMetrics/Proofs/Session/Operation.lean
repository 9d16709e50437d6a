import HistoryMetrics.Proofs.Action.Returns
import HistoryMetrics.Proofs.Session.Closing
import HistoryMetrics.Proofs.Session.Steady

/-! # How an operation ends

    Every operation on a repository is guarded in the same way, so there are only four ways for it to
    end. `Ends` lists them, `operation_ends` shows that there is no other, and what follows about one
    operation is read off this list. An operation that fails raises its failure, unless something goes
    wrong with closing.

    - `Session.Ends`: refused, returned, interrupted or failed
    - `references_ends`, `commits_ends`, ...: each of the six operations ends in one of these ways
-/

namespace HistoryMetrics.Session

open HistoryMetrics.Action World

variable {σ α β : Type}

/-! ## Open or closed -/

@[simp] theorem isOpen_logged (w : World σ) (r : LogRecord) : isOpen (w.logged r) = isOpen w := rfl

theorem isOpen_of_session {w : World σ} {h : Handles} (hs : w.session = some h) :
    isOpen w = true := by
  simp [isOpen, hs]

theorem handles_of_session {w : World σ} {h : Handles} (hs : w.session = some h) (name : String) :
    handles name w = (.ok h, w) := by
  simp only [handles, hs]

theorem handles_of_closed {w : World σ} (hs : w.session = none) (name : String) :
    handles name w = (.error (wrongState name "closed"), w) := by
  simp only [handles, hs]

/-- The folder of an open repository is known without asking for it. -/
theorem root_of_session {w : World σ} {h : Handles} (hs : w.session = some h) :
    root w = (.ok h.root, w) := by
  rw [root, bind_apply, handles_of_session hs]
  rfl

/-! ## The ways to end -/

/-- **The failure that goes on** after some tidying up in a world: that of the operation, unless
    closing the repository goes wrong. -/
def raised (name : String) (f : Failure) (w : World σ) : Failure := (failing name f w).1.getD f

theorem raised_of_allSent (name : String) (f : Failure) {w : World σ} (h : w.AllSent) :
    raised name f w = f := by
  rw [raised, failing_fst_of_allSent name f h]
  rfl

/-- What goes on is the failure of the operation, or a fault of the system. -/
theorem raised_cases (name : String) (f : Failure) (w : World σ) :
    raised name f w = f ∨ ∃ m : SystemMishap, raised name f w = .fault m.toFault := by
  unfold raised failing
  rcases closing_fst_cases (w.logged ⟨.error, logger, name ++ " failed: ", some f⟩) with h | ⟨m, h⟩
  · rw [h]
    exact .inl rfl
  · rw [h]
    exact .inr ⟨m, rfl⟩

theorem raised_ne_interrupt (name : String) {f : Failure} (hf : f ≠ .interrupt) (w : World σ) :
    raised name f w ≠ .interrupt := by
  rcases raised_cases name f w with h | ⟨m, h⟩
  · rwa [h]
  · rw [h]
    simp

/-- **How an operation ends**: with what result, and in what world. -/
inductive Ends (name : String) (w : World σ) : Except Failure α → World σ → Prop where
  | refused : w.session = none → Ends name w (.error (wrongState name "closed")) w
  | returned {h : Handles} {w' : World σ} (a : α) :
      w.session = some h → Steady w w' → Ends name w (.ok a) w'
  | interrupted {h : Handles} {w' : World σ} :
      w.session = some h → Steady w w' → Ends name w (.error .interrupt) w'
  | failed {h : Handles} {w' : World σ} (f : Failure) :
      w.session = some h → f ≠ .interrupt → Still w w' →
      Ends name w (.error (raised name f w')) (failed name f w')

/-- **A step that closes after failures** returns, is interrupted, or fails and closes. -/
theorem guarded_cases (name : String) {step : Action (World σ) α} (h : Asks step) (w : World σ) :
    (∃ a w', step.guarded (failing name) w = (.ok a, w') ∧ Steady w w') ∨
      (∃ w', step.guarded (failing name) w = (.error .interrupt, w') ∧ Steady w w') ∨
      ∃ f w', step w = (.error f, w') ∧
        step.guarded (failing name) w = (.error (raised name f w'), failed name f w') ∧
        f ≠ .interrupt ∧ Still w w' := by
  have hw := h w
  rcases hrun : step w with ⟨r, w'⟩
  rw [hrun] at hw
  cases r with
  | ok a =>
    rcases hw with hsteady | ⟨-, g, hg, -⟩
    · exact .inl ⟨a, w', guarded_ok_iff.2 hrun, hsteady⟩
    · cases hg
  | error f =>
    by_cases hf : f = .interrupt
    · subst hf
      rcases hw with hsteady | ⟨-, g, hg, hne⟩
      · refine .inr (.inl ⟨w', ?_, hsteady⟩)
        simp only [guarded, hrun]
      · cases hg
        exact absurd rfl hne
    · have hstill : Still w w' := by
        rcases hw with hsteady | ⟨hstill, -⟩
        · exact hsteady.toStill
        · exact hstill
      exact .inr (.inr ⟨f, w', rfl, guarded_of_error hrun hf, hf, hstill⟩)

/-- A step that asks no helper. -/
theorem steadily_guarded_cases (name : String) {step : Action (World σ) α} (h : Moves Steady step)
    (w : World σ) :
    (∃ a w', step.guarded (failing name) w = (.ok a, w') ∧ Steady w w') ∨
      (∃ w', step.guarded (failing name) w = (.error .interrupt, w') ∧ Steady w w') ∨
      ∃ f w', step w = (.error f, w') ∧
        step.guarded (failing name) w = (.error (raised name f w'), failed name f w') ∧
        f ≠ .interrupt ∧ Steady w w' := by
  rcases guarded_cases name h.asks w with hreturns | hstopped | ⟨f, w', hrun, hfails, hf, -⟩
  · exact .inl hreturns
  · exact .inr (.inl hstopped)
  · exact .inr (.inr ⟨f, w', hrun, hfails, hf, h.of_eq hrun⟩)

theorem operation_ends (name : String) {body : Handles → Action (World σ) α}
    (hbody : ∀ h, Asks (body h)) (w : World σ) :
    Ends name w (operation name body w).1 (operation name body w).2 := by
  have hopen : operation name body w = (handles name >>= fun h => (body h).guarded (failing name)) w :=
    rfl
  rw [hopen, bind_apply]
  cases hs : w.session with
  | none =>
    rw [handles_of_closed hs]
    exact .refused hs
  | some h =>
    rw [handles_of_session hs]
    rcases guarded_cases name (hbody h) w with ⟨a, w', hrun, hsteady⟩ | ⟨w', hrun, hsteady⟩ |
      ⟨f, w', -, hrun, hf, hstill⟩
    · simp only [hrun]
      exact .returned a hs hsteady
    · simp only [hrun]
      exact .interrupted hs hsteady
    · simp only [hrun]
      exact .failed f hs hf hstill

namespace Ends

variable {name : String} {w w' : World σ} {r : Except Failure α}

theorem of_eq {done : Except Failure α × World σ} (h : Ends name w done.1 done.2)
    (hdone : done = (r, w')) : Ends name w r w' := by
  rwa [hdone] at h

/-- Forgetting the value changes nothing about how an operation ends. -/
theorem map (h : Ends name w r w') (f : α → β) : Ends name w (r.map f) w' := by
  cases h with
  | refused hs => exact .refused hs
  | returned a hs hsteady => exact .returned (f a) hs hsteady
  | interrupted hs hsteady => exact .interrupted hs hsteady
  | failed e hs he hstill => exact .failed e hs he hstill

/-- No operation hands anything over. -/
theorem accepted (h : Ends name w r w') : w'.accepted = w.accepted := by
  cases h with
  | refused _ => rfl
  | returned _ _ hsteady => exact hsteady.accepted
  | interrupted _ hsteady => exact hsteady.accepted
  | failed _ _ _ hstill => exact (failed_accepted _ _ _).trans hstill.accepted

/-- An operation that returns leaves the repository as open as it was. -/
theorem session_of_ok {a : α} (h : Ends name w (.ok a) w') :
    w.session.isSome ∧ w'.session = w.session := by
  cases h with
  | returned _ hs hsteady => exact ⟨by simp [hs], hsteady.session⟩

theorem steady_of_ok {a : α} (h : Ends name w (.ok a) w') : Steady w w' := by
  cases h with
  | returned _ _ hsteady => exact hsteady

/-- A problem leaves the repository closed. -/
theorem session_of_problem {p : Problem} (h : Ends name w (.error (.problem p) : Except Failure α) w') :
    w'.session = none := by
  generalize hr : (Except.error (Failure.problem p) : Except Failure α) = r at h
  cases h with
  | refused hs => exact hs
  | returned _ _ _ => cases hr
  | interrupted _ _ => cases hr
  | failed _ _ _ _ => exact failed_session _ _ _

end Ends

/-! ## The six operations -/

theorem references_ends (w : World σ) :
    Ends "list references" w (references w).1 (references w).2 :=
  operation_ends _
    (fun _ => (((Repository.steady_run _ _ _).renamed _).bind fun _ => moves_pure _).asks) w

theorem commits_ends (w : World σ) : Ends "list commits" w (commits w).1 (commits w).2 :=
  operation_ends _ (fun h => (Repository.steady_commits h.toRepository _).asks) w

theorem steady_firstOf (id : String) (h : Handles) :
    Moves Steady (h.toRepository.commits (commitSelection id) >>= fun
      | c :: _ => pure c
      | [] => .fail (.problem (.historyRead ("commit not found: " ++ id) none)) :
        Action (World σ) Commit) := by
  refine (Repository.steady_commits h.toRepository _).bind fun found => ?_
  cases found with
  | nil => exact moves_fail _
  | cons c _ => exact moves_pure c

theorem commit_ends (id : String) (w : World σ) :
    Ends "read commit" w (commit id w).1 (commit id w).2 :=
  operation_ends _ (fun h => (steady_firstOf id h).asks) w

theorem idsOf_ends (r : Reference) (w : World σ) :
    Ends "list commit ids" w (idsOf r w).1 (idsOf r w).2 := by
  refine operation_ends _ (fun h => (asks_startOf h r).bind fun start => ?_) w
  cases start with
  | none => exact ((steady_log _ _ _).bind fun _ => moves_pure _).asks
  | some start =>
    exact (((Repository.steady_run _ _ _).renamed _).bind fun _ => moves_pure _).asks

theorem checkout_ends (id : String) (w : World σ) :
    Ends "checkout" w (checkout id w).1 (checkout id w).2 := by
  refine operation_ends _ (fun h => ?_) w
  refine (steady_clearLock h id).asks.bind fun _ => (asks_resolveCommit h id).bind fun _ => ?_
  exact (((Repository.steady_run _ _ _).renamed _).bind fun _ => steady_log _ _ _).asks

theorem files_ends (id : String) (w : World σ) :
    Ends "list files" w (files id w).1 (files id w).2 :=
  operation_ends _
    (fun _ => (((Repository.steady_run _ _ _).renamed _).bind fun _ => moves_pure _).asks) w

end HistoryMetrics.Session
