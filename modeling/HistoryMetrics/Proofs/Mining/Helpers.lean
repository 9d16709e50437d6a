import HistoryMetrics.Mining.Miner
import HistoryMetrics.Proofs.Session.Lifecycle

/-! # Runs of mining lose no helper

    A run of mining opens a repository, perhaps many times, and does a lot with it, but it starts and
    closes helpers by opening and closing only. So the invariant of helpers holds all along, and the
    closing at the end of a run leaves no helper behind, whatever the run came to.

    - `Moves.during`, `Moves.withFaults`: the two ways in which mining wraps a step
    - `keepsHelpers_workOn`, `keepsHelpers_mineAll`: the work on a commit and on all of them
    - `opened_eq`: nothing goes wrong with the closing at the end
    - `mine_keepsHelpers`, `mine_closed`: a whole run
    - `mineHistory_keepsHelpers`, `mineHistory_closed`: a run that hands over the history
-/

namespace HistoryMetrics

open HistoryMetrics.Action World

variable {S σ α : Type}

/-! ## Wrapped steps -/

theorem Action.Moves.during {R : World σ → World σ → Prop} {step : Action (World σ) α}
    (h : Moves R step) (stage : Stage) (path : Option String) :
    Moves R (Miner.during stage path step) := by
  intro w
  rcases hstep : step w with ⟨r, w'⟩
  have hw : R w w' := h.of_eq hstep
  simp only [Miner.during, hstep]
  match r with
  | .ok _ => exact hw
  | .error (.problem _) => exact hw
  | .error (.fault _) => exact hw
  | .error .interrupt => exact hw

theorem Action.Moves.withFaults {R : S → S → Prop} {step : Action S α} (h : Moves R step)
    (f : Fault → Problem) : Moves R (Miner.withFaults f step) := by
  intro s
  rcases hstep : step s with ⟨r, s'⟩
  have hs : R s s' := h.of_eq hstep
  simp only [Miner.withFaults, hstep]
  match r with
  | .ok _ => exact hs
  | .error (.problem _) => exact hs
  | .error (.fault _) => exact hs
  | .error .interrupt => exact hs

/-! ## Steps on the scene and the receiver -/

theorem keepsHelpers_onScene (step : Action (Scene σ) α) :
    Moves KeepsHelpers (World.onScene step) :=
  moves_onScene (fun w s => (Steady.scene w s).keepsHelpers) step

theorem keepsHelpers_log (level : Level) (logger message : String) :
    Moves KeepsHelpers (World.log level logger message : Action (World σ) Unit) :=
  (steady_log level logger message).mono fun _ _ => Steady.keepsHelpers

theorem Sink.keepsHelpers_handOver (sink : Sink σ) (e : Emission) :
    Moves KeepsHelpers (sink.handOver e) :=
  -- what was accepted is no matter of helpers
  (keepsHelpers_onScene _).bind fun _ => moves_update fun _ =>
    ⟨fun hi => ⟨hi.live, hi.held, hi.started_lt, hi.closed_lt⟩, id⟩

namespace Session

theorem keepsHelpers_handles (name : String) :
    Moves KeepsHelpers (handles name : Action (World σ) Handles) := by
  intro w
  unfold handles
  split <;> exact refl_of KeepsHelpers w

theorem keepsHelpers_root : Moves KeepsHelpers (root : Action (World σ) Path) :=
  (keepsHelpers_handles _).bind fun _ => moves_pure _

end Session

namespace Miner

variable (m : Miner σ)

/-! ## One commit -/

theorem keepsHelpers_parse (commit : String) : Moves KeepsHelpers (m.parse commit) :=
  Session.keepsHelpers_root.bind fun _ =>
    Moves.bind (fun w => (Session.files_ends commit w).keepsHelpers) fun _ =>
      keepsHelpers_onScene _

theorem keepsHelpers_smellsOf (path : String) (o : SourceOutline) :
    Moves KeepsHelpers (m.smellsOf path o) := by
  unfold smellsOf
  split
  · exact moves_pure _
  · exact (keepsHelpers_onScene _).during _ _

theorem keepsHelpers_recordsOfOutline (c : Commit) (o : SourceOutline) :
    Moves KeepsHelpers (m.recordsOfOutline c o) :=
  ((keepsHelpers_onScene _).during _ _).bind fun _ =>
    (keepsHelpers_smellsOf m _ _).bind fun _ => moves_pure _

theorem keepsHelpers_recordsOfAll (c : Commit) (os : List SourceOutline) :
    Moves KeepsHelpers (m.recordsOfAll c os) := by
  induction os with
  | nil => exact moves_pure _
  | cons o os ih =>
    exact (keepsHelpers_recordsOfOutline m c o).bind fun _ => ih.bind fun _ => moves_pure _

theorem keepsHelpers_emitAll (sink : Sink σ) (rs : List TypeRecord) :
    Moves KeepsHelpers (emitAll sink rs) := by
  induction rs with
  | nil => exact moves_pure _
  | cons r rs ih => exact (sink.keepsHelpers_handOver _).bind fun _ => ih

theorem keepsHelpers_commitOf (id : String) (known : Option Commit) :
    Moves KeepsHelpers (commitOf id known : Staged σ Commit) := by
  cases known with
  | some c => exact moves_pure c
  | none => exact Moves.during (fun w => (Session.commit_ends id w).keepsHelpers) _ _

/-- The work on a commit, however far it gets. -/
theorem keepsHelpers_workOn (id : String) (known : Option Commit) :
    Moves KeepsHelpers (m.workOn id known) := by
  refine (keepsHelpers_commitOf id known).bind fun c => ?_
  refine (Moves.during (fun w => (Session.checkout_ends c.id w).keepsHelpers) _ _).bind fun _ => ?_
  refine ((keepsHelpers_parse m c.id).during _ _).bind fun outlines => ?_
  refine (keepsHelpers_recordsOfAll m c outlines).bind fun records => ?_
  exact (((keepsHelpers_emitAll m.sink records).withFaults _).during _ _).bind fun _ => moves_pure _

/-! ## A whole run -/

theorem keepsHelpers_mineCommit (failFast : Bool) (id : String) (known : Option Commit)
    (report : Report) : Moves KeepsHelpers (m.mineCommit failFast id known report) := by
  intro w
  rcases hwork : m.workOn id known w with ⟨r, w'⟩
  have hw : KeepsHelpers w w' := (keepsHelpers_workOn m id known).of_eq hwork
  simp only [mineCommit, hwork]
  match r with
  | .ok _ => exact hw
  | .error (.fatal _) => exact hw
  | .error (.problem stage _ p) =>
    have hlog : KeepsHelpers w' (w'.logged (skipped id stage p)) :=
      (Steady.logged w' _).keepsHelpers
    cases failFast <;> exact trans_of KeepsHelpers hw hlog

theorem keepsHelpers_reopen (path : String) : Moves KeepsHelpers (m.reopen path) := by
  intro w
  unfold reopen
  split
  · exact refl_of KeepsHelpers w
  · have hlog := (Steady.logged w (.plain .info logger ("Reopening " ++ path ++ " after failure"))).keepsHelpers
    exact trans_of KeepsHelpers hlog (Session.keepsHelpers_open _ _ _ _)

theorem keepsHelpers_mineAll (path : String) (failFast : Bool) (total : Nat) (known : List Commit)
    (ids : List String) (index : Nat) (report : Report) :
    Moves KeepsHelpers (m.mineAll path failFast total known index ids report) := by
  induction ids generalizing index report with
  | nil => exact moves_pure _
  | cons id rest ih =>
    refine (keepsHelpers_reopen m path).bind fun _ => (keepsHelpers_log _ _ _).bind fun _ => ?_
    exact (keepsHelpers_mineCommit m failFast id _ report).bind fun report' => ih _ report'

theorem keepsHelpers_select (selection : Selection) :
    Moves KeepsHelpers (select selection : Action (World σ) (List String × List Commit)) := by
  cases selection with
  | ids ids => exact moves_pure _
  | everything =>
    exact Moves.bind (fun w => (Session.commits_ends w).keepsHelpers) fun _ => moves_pure _
  | reference name =>
    refine Moves.bind (fun w => (Session.references_ends w).keepsHelpers) fun refs => ?_
    rcases selectReference refs name with p | r
    · exact moves_fail _
    · cases r with
      | none => exact (keepsHelpers_log _ _ _).bind fun _ => moves_pure _
      | some r =>
        exact Moves.bind (fun w => (Session.idsOf_ends r w).keepsHelpers) fun _ => moves_pure _

theorem keepsHelpers_mineOpen (path : String) (selection : Selection) (failFast : Bool) :
    Moves KeepsHelpers (m.mineOpen path selection failFast) :=
  (keepsHelpers_select selection).bind fun _ => Session.keepsHelpers_root.bind fun _ =>
    (keepsHelpers_log _ _ _).bind fun _ => keepsHelpers_mineAll m _ _ _ _ _ _ _

/-! ## From opening to closing -/

/-- Work on a repository that is opened for it and closed after it. -/
theorem keepsHelpers_opened (path : String) {body : Action (World σ) α}
    (hbody : Moves KeepsHelpers body) :
    Moves KeepsHelpers (do m.openAt path; body.always Session.closing) :=
  (Session.keepsHelpers_open _ _ _).bind fun _ => hbody.always Session.keepsHelpers_close

/-- No repository is open after such work if none was open before. -/
theorem opened_closed (path : String) (body : Action (World σ) α) {w : World σ}
    (hs : w.session = none) :
    ((do m.openAt path; body.always Session.closing : Action (World σ) α) w).2.session = none := by
  rw [bind_apply]
  rcases Session.open_cases (.ofText path) m.config.gitTimeout m.config.binaryThreshold hs with
    ⟨f, w', hopen, hw'⟩ | ⟨h, w', hopen, _⟩
  · simp only [openAt, hopen]
    exact hw'.session.trans hs
  · simp only [openAt, hopen]
    exact Session.close_session _

theorem allSent_of_openAt {path : String} {w w' : World σ} (h : m.openAt path w = (.ok (), w')) :
    w'.AllSent := by
  unfold openAt at h
  cases hs : w.session with
  | some held =>
    rw [Session.open_of_open _ _ _ hs] at h
    cases h
  | none =>
    rcases Session.open_cases (.ofText path) m.config.gitTimeout m.config.binaryThreshold hs with
      ⟨f, v, hopen, _⟩ | ⟨held, v, hopen, hv⟩
    · rw [hopen] at h
      cases h
    · rw [hopen] at h
      cases h
      exact hv.allSent

/-- **Nothing goes wrong with closing after such work**: it ends as the work does. -/
theorem opened_eq {path : String} {body : Action (World σ) α} (hbody : Moves KeepsHelpers body)
    {w w' : World σ} (h : m.openAt path w = (.ok (), w')) :
    (do m.openAt path; body.always Session.closing : Action (World σ) α) w =
      ((body w').1, Session.close (body w').2) := by
  have hsent := (hbody w').allSent (m.allSent_of_openAt h)
  rw [bind_apply, h]
  exact Prod.ext (always_fst (Session.closing_fst_of_allSent hsent)) rfl

theorem mine_keepsHelpers (path : String) (selection : Selection) (failFast : Option Bool) :
    Moves KeepsHelpers (m.mine path selection failFast) :=
  keepsHelpers_opened m path (keepsHelpers_mineOpen m _ _ _)

theorem mine_closed (path : String) (selection : Selection) (failFast : Option Bool) {w : World σ}
    (hs : w.session = none) : (m.mine path selection failFast w).2.session = none :=
  opened_closed m path _ hs

theorem keepsHelpers_walk :
    Moves KeepsHelpers (Walk.begin : Action (World σ) (Repository × List (List Char))) := by
  refine (Session.keepsHelpers_handles _).bind fun h => Moves.bind ?_ fun _ => moves_pure _
  exact ((Repository.steady_records _ _).mono fun _ _ => Steady.keepsHelpers).guarded
    (Session.keepsHelpers_failed _)

theorem keepsHelpers_emitHistory (r : Repository) (records : List (List Char)) (report : Report) :
    Moves KeepsHelpers (m.emitHistory r records report) := by
  induction records generalizing report with
  | nil => exact moves_pure _
  | cons record rest ih =>
    have hread : Moves KeepsHelpers (Walk.read r record : Action (World σ) Commit) :=
      ((Repository.steady_commitOf r record).mono fun _ _ => Steady.keepsHelpers).guarded
        (Session.keepsHelpers_failed _)
    exact hread.bind fun c => (m.sink.keepsHelpers_handOver _).bind fun _ => ih _

theorem mineHistory_keepsHelpers (path : String) : Moves KeepsHelpers (m.mineHistory path) :=
  keepsHelpers_opened m path (keepsHelpers_walk.bind fun _ => keepsHelpers_emitHistory m _ _ _)

theorem mineHistory_closed (path : String) {w : World σ} (hs : w.session = none) :
    (m.mineHistory path w).2.session = none :=
  opened_closed m path _ hs

end Miner

end HistoryMetrics
