import HistoryMetrics.Mining.Miner
import HistoryMetrics.Proofs.Mining.Analysis

/-! # The calls that the work on a commit makes

    The work on a commit calls the session, the reader of sources, plug-ins, detectors and the
    receiver of records. Each of these calls may raise something; the call alone decides what becomes
    of it.

    - `Miner.Call`: the calls, with the file under analysis where there is one
    - `Call.stage`, `Call.path`, `Call.isOnSession`: the columns of the table of failures
    - `Call.told`: what was raised, as the rest of the work sees it
    - `Call.contains`: the problem that a failure of the commit is made of, if the run goes on
-/

namespace HistoryMetrics.Miner

variable {σ α : Type}

/-- **A call of the work on a commit.** The calls that belong to the analysis of a file know its
    path; a plug-in and a detector are known with the path that the analysis had in the end.

    - `metric`: a plug-in in the engine's own pass
    - `smellPlan`, `smellMetric`: the engine's pass for the detectors
    - `handOver`: one of the records, and how many of them went before it
-/
inductive Call where
  | readCommit
  | checkout
  | listFiles
  | readSources (root : String)
  | metric (file id path : String)
  | smellPlan (file : String)
  | smellMetric (file id path : String)
  | detector (file smell path : String)
  | handOver (commit : String) (records : List TypeRecord) (before : Nat)

namespace Call

/-- The stage at which a call is made. -/
def stage : Call → Stage
  | .readCommit => .diff
  | .checkout => .checkout
  | .listFiles | .readSources _ => .parse
  | .metric .. => .metrics
  | .smellPlan _ | .smellMetric .. | .detector .. => .smells
  | .handOver .. => .emit

/-- The path of the file under analysis. -/
def path : Call → Option String
  | .metric file _ _ | .smellPlan file | .smellMetric file _ _ | .detector file _ _ => some file
  | _ => none

/-- Is it an operation on the open repository? -/
def isOnSession : Call → Bool
  | .readCommit | .checkout | .listFiles => true
  | _ => false

/-- The problem that a fault of a call is told as; the session tells none. -/
def wrap : Call → Fault → Option Problem
  | .readCommit, _ | .checkout, _ | .listFiles, _ | .smellPlan _, _ => none
  | .readSources root, e => some (.provider root e.shown none)
  | .metric _ id path, e | .smellMetric _ id path, e => some (.metricComputation id path e.shown)
  | .detector _ smell path, e => some (.smellDetection smell path e.shown)
  | .handOver commit _ _, e => some (.emission commit e.shown)

/-- **What was raised by a call, as the rest of the work sees it.** -/
def told (call : Call) : Failure → Failure
  | .fault e => (call.wrap e).elim (.fault e) .problem
  | f => f

/-- **The problem that the commit fails with**, unless the failure ends the whole run. -/
def contains (call : Call) (f : Failure) : Option Problem :=
  match call.told f with
  | .problem p => some p
  | _ => none

/-- The records that went before the call. -/
def handed : Call → List TypeRecord
  | .handOver _ records before => records.take before
  | _ => []

/-- What a failing call means for the work on the commit. -/
def setback (call : Call) (f : Failure) : Setback :=
  match call.told f with
  | .problem p => .problem call.stage call.path p
  | g => .fatal g

/-- Files are under analysis at two of the stages, and at no other. -/
theorem path_isSome_iff (call : Call) :
    call.path.isSome ↔ call.stage = .metrics ∨ call.stage = .smells := by
  cases call <;> simp [path, stage]

theorem handed_of_stage_ne_emit {call : Call} (h : call.stage ≠ .emit) : call.handed = [] := by
  cases call with
  | handOver commit records before => exact absurd rfl h
  | _ => rfl

theorem told_of_wrap {call : Call} {e : Fault} {p : Problem} (h : call.wrap e = some p) :
    call.told (.fault e) = .problem p := by
  simp only [told, h, Option.elim_some]

/-- Only the wish to stop and faults of the session are not contained. -/
theorem interrupt_or_fault_of_contains_eq_none {call : Call} {f : Failure}
    (hplan : ∀ file, call = .smellPlan file → ∃ p, f = .problem p) (h : call.contains f = none) :
    f = .interrupt ∨ call.isOnSession = true ∧ ∃ e, f = .fault e := by
  cases f with
  | interrupt => exact .inl rfl
  | problem p => simp [contains, told] at h
  | fault e =>
    -- all calls but those on the session tell their faults as problems
    refine .inr ⟨?_, e, rfl⟩
    cases call with
    | readCommit => rfl
    | checkout => rfl
    | listFiles => rfl
    | smellPlan file =>
      obtain ⟨p, hp⟩ := hplan file rfl
      cases hp
    | readSources root => simp [contains, told, wrap] at h
    | metric file id path => simp [contains, told, wrap] at h
    | smellMetric file id path => simp [contains, told, wrap] at h
    | detector file smell path => simp [contains, told, wrap] at h
    | handOver commit records before => simp [contains, told, wrap] at h

/-- What the session raises is told as it is. -/
theorem told_of_isOnSession {call : Call} (h : call.isOnSession = true) (f : Failure) :
    call.told f = f := by
  cases f with
  | fault e =>
    have hwrap : call.wrap e = none := by
      cases call <;> first | rfl | cases h
    simp only [told, hwrap, Option.elim_none]
  | problem p => rfl
  | interrupt => rfl

theorem eq_problem_of_contains {call : Call} {f : Failure} {p : Problem}
    (hcall : call.isOnSession = true) (h : call.contains f = some p) : f = .problem p := by
  unfold contains at h
  rw [told_of_isOnSession hcall] at h
  cases f with
  | problem q => cases h; rfl
  | interrupt => cases h
  | fault e => cases h

theorem setback_of_contains {call : Call} {f : Failure} {p : Problem}
    (h : call.contains f = some p) : call.setback f = .problem call.stage call.path p := by
  unfold contains at h
  unfold setback
  cases hf : call.told f with
  | problem q =>
    rw [hf] at h
    cases h
    rfl
  | fault e => rw [hf] at h; cases h
  | interrupt => rw [hf] at h; cases h

theorem setback_of_contains_eq_none {call : Call} {f : Failure} (h : call.contains f = none) :
    call.setback f = .fatal f := by
  cases f with
  | interrupt => rfl
  | problem p => simp [contains, told] at h
  | fault e =>
    unfold contains at h
    unfold setback
    simp only [told] at h ⊢
    cases hwrap : call.wrap e with
    | none => rfl
    | some p => rw [hwrap] at h; cases h

end Call

/-! ## Stages and wrapped steps -/

theorem during_ok {stage : Stage} {path : Option String} {step : Action (World σ) α} {w w' : World σ}
    {a : α} (h : step w = (.ok a, w')) : during stage path step w = (.ok a, w') := by
  simp only [during, h]

/-- A step at the stage of a call that raises what the call is told to have raised. -/
theorem during_error (call : Call) {f : Failure} {step : Action (World σ) α} {w w' : World σ}
    (h : step w = (.error (call.told f), w')) :
    during call.stage call.path step w = (.error (call.setback f), w') := by
  simp only [during, h, Call.setback]
  cases call.told f <;> rfl

/-- What the session raises at a stage. -/
theorem during_session_error (call : Call) (hcall : call.isOnSession = true) {f : Failure}
    {step : Action (World σ) α} {w w' : World σ} (h : step w = (.error f, w')) :
    during call.stage call.path step w = (.error (call.setback f), w') := by
  rw [← Call.told_of_isOnSession hcall f] at h
  exact during_error call h

theorem withFaults_ok {S : Type} {wrap : Fault → Problem} {step : Action S α} {s s' : S} {a : α}
    (h : step s = (.ok a, s')) : withFaults wrap step s = (.ok a, s') := by
  simp only [withFaults, h]

theorem withFaults_error {S : Type} {wrap : Fault → Problem} {step : Action S α} {s s' : S}
    {f : Failure} (h : step s = (.error f, s')) (call : Call)
    (hwrap : ∀ e, call.wrap e = some (wrap e)) :
    withFaults wrap step s = (.error (call.told f), s') := by
  simp only [withFaults, h]
  cases f with
  | fault e => rw [Call.told_of_wrap (hwrap e)]
  | problem p => rfl
  | interrupt => rfl

end HistoryMetrics.Miner
