import HistoryMetrics.Proofs.Action.Loop
import HistoryMetrics.Repository.Walk

/-! # What reading a repository leaves alone

    An operation on an open repository gives commands to git, asks the helper, and writes into the log
    and onto the disk. None of that opens or closes anything, starts or closes a helper, or hands
    something over. `Steady w w'` says so of the worlds before and after, and the body of every
    operation is shown to be steady, with one exception: a name that is asked for may not reach the
    helper, which is remembered. But then the operation fails.

    - `World.closedHelpers`: the helpers that were closed, as the events tell
    - `World.Still`, `World.Steady`: the relations, without and with what is remembered
    - `Asks`: steps that are steady unless they fail
    - `steady_run`, `asks_info`: the two ways to ask git for something
    - `steady_commits`, `asks_startOf`, ...: the bodies of the operations
-/

namespace HistoryMetrics

open HistoryMetrics.Action

variable {σ α β : Type}

/-! ## The relation -/

namespace World

/-- The helpers that were closed, in the order in which this happened. -/
def closedHelpers (w : World σ) : List Nat :=
  w.events.filterMap fun
    | .helperClosed n => some n
    | _ => none

@[simp] theorem session_logged (w : World σ) (r : LogRecord) : (w.logged r).session = w.session := rfl

@[simp] theorem accepted_logged (w : World σ) (r : LogRecord) :
    (w.logged r).accepted = w.accepted := rfl

@[simp] theorem outside_logged (w : World σ) (r : LogRecord) : (w.logged r).outside = w.outside := by
  show (w.toScene.logged r).outside = w.outside
  unfold Scene.logged
  split <;> rfl

/-- **Nothing was opened, closed or handed over** between two worlds. -/
structure Still (w w' : World σ) : Prop where
  session : w'.session = w.session
  helpers : w'.helpers = w.helpers
  started : w'.startedHelpers = w.startedHelpers
  live : w'.liveHelpers = w.liveHelpers
  closed : w'.closedHelpers = w.closedHelpers
  accepted : w'.accepted = w.accepted

/-- **Nothing was opened, closed or handed over**, and all names have reached the helpers. -/
structure Steady (w w' : World σ) : Prop extends Still w w' where
  unsent : w'.unsent = w.unsent

theorem Still.trans {w₁ w₂ w₃ : World σ} (h : Still w₁ w₂) (h' : Still w₂ w₃) : Still w₁ w₃ :=
  ⟨h'.session.trans h.session, h'.helpers.trans h.helpers, h'.started.trans h.started,
    h'.live.trans h.live, h'.closed.trans h.closed, h'.accepted.trans h.accepted⟩

namespace Steady

theorem refl (w : World σ) : Steady w w := ⟨⟨rfl, rfl, rfl, rfl, rfl, rfl⟩, rfl⟩

theorem trans {w₁ w₂ w₃ : World σ} (h : Steady w₁ w₂) (h' : Steady w₂ w₃) : Steady w₁ w₃ :=
  ⟨h.toStill.trans h'.toStill, h'.unsent.trans h.unsent⟩

instance : Std.Refl (Steady (σ := σ)) := ⟨refl⟩

instance : IsTrans (World σ) Steady := ⟨fun _ _ _ => trans⟩

/-- Whatever happens to the scene. -/
theorem scene (w : World σ) (s : Scene σ) : Steady w { w with toScene := s } :=
  ⟨⟨rfl, rfl, rfl, rfl, rfl, rfl⟩, rfl⟩

theorem logged (w : World σ) (r : LogRecord) : Steady w (w.logged r) := scene w _

/-- Commands and questions close no helper. -/
theorem happened (w : World σ) {e : GitEvent} (h : ∀ n, e ≠ .helperClosed n) :
    Steady w (w.happened e) := by
  refine ⟨⟨rfl, rfl, rfl, rfl, ?_, rfl⟩, rfl⟩
  cases e with
  | helperClosed n => exact absurd rfl (h n)
  | _ => simp [closedHelpers, World.happened]

end Steady

end World

open World

theorem steady_log (level : Level) (logger message : String) :
    Moves Steady (World.log level logger message : Action (World σ) Unit) :=
  moves_log Steady.scene level logger message

/-! ## Commands -/

namespace Repository

theorem steady_perform (c : GitCommand) : Moves Steady (perform c : Action (World σ) String) := by
  intro w
  rcases hrun : w.git.run c w.outside w.disk with ⟨outcome, outside, disk⟩
  have hscene : Steady w { w with outside, disk } := Steady.scene w { w.toScene with outside, disk }
  simp only [perform, hrun]
  cases outcome with
  | finished code output errors =>
    exact hscene.trans (Steady.happened _ (by simp))
  | notStarted mishap =>
    exact hscene.trans (Steady.happened _ (by simp))
  | timedOut =>
    exact (hscene.trans (Steady.happened _ (by simp))).trans (Steady.happened _ (by simp))
  | interrupted =>
    exact (hscene.trans (Steady.happened _ (by simp))).trans (Steady.happened _ (by simp))

theorem steady_run (r : Repository) (arguments : List String) (input : Option String) :
    Moves Steady (r.run arguments input : Action (World σ) String) := by
  refine (steady_log _ _ _).bind fun _ => ?_
  dsimp only
  split
  · exact moves_fail _
  · exact steady_perform _

/-! ## History and changes -/

theorem steady_emptyTree (r : Repository) : Moves Steady (r.emptyTree : Action (World σ) String) := by
  intro w
  unfold emptyTree
  split
  · exact Steady.refl w
  · rcases hrun : r.run ["hash-object", "-t", "tree", "--stdin"] (some "") w with ⟨result, w'⟩
    have hw' : Steady w w' := (steady_run r _ _).of_eq hrun
    cases result with
    | error f => exact hw'
    | ok output => exact hw'.trans ⟨⟨rfl, rfl, rfl, rfl, rfl, rfl⟩, rfl⟩

theorem steady_base (r : Repository) (parents : List String) :
    Moves Steady (r.base parents : Action (World σ) String) := by
  cases parents with
  | nil => exact steady_emptyTree r
  | cons parent _ => exact moves_pure parent

theorem steady_listing (r : Repository) (commit : String) (parents : List String) :
    Moves Steady (r.listing commit parents : Action (World σ) (String × String)) :=
  (steady_base r parents).bind fun _ => (steady_run r _ _).bind fun _ => moves_pure _

theorem steady_logUnknown (l : StatusList) : Moves Steady (logUnknown l : Action (World σ) Unit) := by
  refine moves_update fun w => ?_
  -- the records are logged one after the other
  induction l.unknowns generalizing w with
  | nil => exact Steady.refl w
  | cons u us ih => exact (Steady.logged w _).trans (ih _)

theorem steady_listed (text : String) : Moves Steady (listed text : Action (World σ) (List Change)) := by
  refine (steady_logUnknown _).bind fun _ => ?_
  split
  · exact moves_fail _
  · exact moves_pure _

theorem steady_withLines (r : Repository) (base commit : String) (c : Change) :
    Moves Steady (r.withLines base commit c : Action (World σ) Change) :=
  ((steady_run r _ _).renamed _).bind fun _ => moves_ofResult _

theorem steady_changesOf (r : Repository) (commit : String) (parents : List String) :
    Moves Steady (r.changesOf commit parents : Action (World σ) (List Change)) := by
  unfold changesOf
  split
  · exact moves_pure _
  · refine ((steady_listing r commit parents).renamed _).bind fun found => ?_
    exact (steady_listed found.2).bind fun changes => .forEach (steady_withLines r _ commit) changes

theorem steady_records (r : Repository) (selection : List String) :
    Moves Steady (r.records selection : Action (World σ) (List (List Char))) :=
  ((steady_run r _ _).renamed _).bind fun _ => moves_pure _

theorem steady_commitOf (r : Repository) (record : List Char) :
    Moves Steady (r.commitOf record : Action (World σ) Commit) :=
  (moves_ofResult _).bind fun _ => (steady_changesOf r _ _).bind fun _ => moves_pure _

theorem steady_commits (r : Repository) (selection : List String) :
    Moves Steady (r.commits selection : Action (World σ) (List Commit)) :=
  (steady_records r selection).bind fun records => .forEach (steady_commitOf r) records

end Repository

/-! ## Questions to the helper -/

/-- **A step that may ask the helper**: it is steady, or it fails, and then a name may not have reached
    the helper. Nobody stops it. -/
def Asks (step : Action (World σ) α) : Prop :=
  ∀ w, Steady w (step w).2 ∨ Still w (step w).2 ∧ ∃ f, (step w).1 = .error f ∧ f ≠ .interrupt

theorem Action.Moves.asks {step : Action (World σ) α} (h : Moves Steady step) : Asks step :=
  fun w => .inl (h w)

/-- A step that returns has told the helper all that it asked. -/
theorem Asks.steady_of_ok {step : Action (World σ) α} (h : Asks step) {w w' : World σ} {a : α}
    (hrun : step w = (.ok a, w')) : Steady w w' := by
  have hw := h w
  rw [hrun] at hw
  rcases hw with hsteady | ⟨-, f, hf, -⟩
  · exact hsteady
  · cases hf

theorem Asks.bind {step : Action (World σ) α} {next : α → Action (World σ) β} (h : Asks step)
    (hnext : ∀ a, Asks (next a)) : Asks (step >>= next) := by
  intro w
  have hw := h w
  rw [bind_apply]
  rcases hstep : step w with ⟨r, w'⟩
  rw [hstep] at hw
  cases r with
  | error f =>
    rcases hw with hsteady | ⟨hstill, g, hg, hne⟩
    · exact .inl hsteady
    · cases hg
      exact .inr ⟨hstill, f, rfl, hne⟩
  | ok a =>
    have hsteady : Steady w w' := h.steady_of_ok hstep
    rcases hnext a w' with hsteady' | ⟨hstill, hfails⟩
    · exact .inl (hsteady.trans hsteady')
    · exact .inr ⟨hsteady.toStill.trans hstill, hfails⟩

theorem Asks.renamed {step : Action (World σ) α} (h : Asks step) (f : Problem → Problem) :
    Asks (step.renamed f) := by
  intro w
  have hw := h w
  rcases hstep : step w with ⟨r, w'⟩
  rw [hstep] at hw
  unfold Action.renamed
  rw [hstep]
  cases r with
  | ok a =>
    rcases hw with hsteady | ⟨-, g, hg, -⟩
    · exact .inl hsteady
    · cases hg
  | error e =>
    rcases hw with hsteady | ⟨hstill, g, hg, hne⟩
    · exact .inl hsteady
    · cases hg
      refine .inr ⟨hstill, _, rfl, ?_⟩
      cases e with
      | interrupt => exact absurd rfl hne
      | problem p => simp [renameFailure]
      | fault x => simp [renameFailure]

theorem Helper.asks_ask (helper : Nat) (name : String) :
    Asks (Helper.ask helper name : Action (World σ) (Option ObjectInfo)) := by
  intro w
  rcases hask : w.git.ask helper name w.outside with ⟨answer, outside⟩
  have hscene : Steady w { w with outside } := Steady.scene w { w.toScene with outside }
  have hasked := hscene.trans (Steady.happened _ (e := .asked helper name) (by simp))
  simp only [Helper.ask, hask]
  cases answer with
  | ok line => exact .inl hasked
  | error m =>
    refine .inr ⟨?_, _, rfl, by simp [Helper.problem]⟩
    exact ⟨hasked.session, hasked.helpers, hasked.started, hasked.live, hasked.closed, hasked.accepted⟩

theorem Helper.asks_info (helper : Nat) (name : String) :
    Asks (Helper.info helper name : Action (World σ) (Option ObjectInfo)) := by
  intro w
  unfold Helper.info
  split
  · exact .inl (Steady.refl w)
  · split
    · exact Helper.asks_ask helper name w
    · exact .inl (Steady.refl w)

/-! ## The bodies of the operations -/

namespace Session

theorem asks_peel (h : Handles) (name : String) :
    Asks (peel h name : Action (World σ) (Option String)) :=
  ((Helper.asks_info _ _).renamed _).bind fun _ => (moves_pure _).asks

theorem asks_startOf (h : Handles) (r : Reference) :
    Asks (startOf h r : Action (World σ) (Option String)) := by
  unfold startOf
  split
  · split
    · exact asks_peel h r.path
    · exact (moves_pure _).asks
  · exact asks_peel h r.path

theorem steady_removeLock (id : String) (lock : Path) :
    Moves Steady (removeLock id lock : Action (World σ) Unit) := by
  intro w
  unfold removeLock
  split
  · next disk _ => exact Steady.scene w { w.toScene with disk }
  · exact Steady.refl w

theorem steady_isLocked (h : Handles) : Moves Steady (isLocked h : Action (World σ) Bool) :=
  fun w => Steady.refl w

theorem steady_clearLock (h : Handles) (id : String) :
    Moves Steady (clearLock h id : Action (World σ) Unit) := by
  refine (steady_isLocked h).bind fun isLocked => ?_
  split
  · exact (steady_log _ _ _).bind fun _ => steady_removeLock id _
  · exact moves_pure _

theorem asks_resolveCommit (h : Handles) (id : String) :
    Asks (resolveCommit h id : Action (World σ) String) := by
  refine ((Helper.asks_info _ _).renamed _).bind fun found => ?_
  cases found with
  | none => exact (moves_fail _).asks
  | some info => exact (moves_pure _).asks

end Session

end HistoryMetrics
