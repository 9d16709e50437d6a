import HistoryMetrics.Git.Lookup
import HistoryMetrics.Proofs.Action.Course
import HistoryMetrics.Proofs.Git.Events
import HistoryMetrics.Proofs.Git.Run

/-! # What git is asked, and when that fails

    Git is asked for something in three ways: by a command, by starting a helper, and by a name that the
    helper is to look up. Each of them may fail, for a reason that can be told. The step that asks then
    ends with the problem of a command, which names the reason; who called it has to say it in the words
    of his own task.

    - `Appeal`: what is asked
    - `Appeal.Fails`: the ways to fail, with their reasons
    - `Appeal.closingMishap`: what goes wrong after that
    - `FailsFor`: the problem of a command, with a reason
    - `Repository.failsFor_run_iff`, `Helper.failsFor_start_iff`, `Helper.failsFor_info_iff`: an appeal
      ends with the problem of a command just when it fails
    - `Appeal.Leaves`, `leaves_run`, `leaves_start`, `leaves_info`: what an appeal leaves behind
    - `Speaks`: steps that never end with the bare problem of a command
-/

namespace HistoryMetrics

open HistoryMetrics.Action World

variable {σ α β : Type}

/-! ## Asking -/

/-- **What git is asked for.** -/
inductive Appeal where
  | command (r : Repository) (arguments : List String) (input : Option String)
  | start (root : Path)
  | lookup (helper : Nat) (name : String)

/-- The event is one of those that the appeal leaves behind. -/
def Appeal.Leaves : Appeal → GitEvent → Prop
  | .command r arguments input, e => e.Concerns (· = r.command arguments input)
  | .start root, .helperStarted _ root' => root' = root
  | .lookup helper name, .asked helper' name' => helper' = helper ∧ name' = name
  | _, _ => False

namespace Repository

/-- The world in which git is given a command: the command has been logged. -/
def announced (arguments : List String) (w : World σ) : World σ :=
  w.logged (.plain .debug commandLogger ("git " ++ " ".intercalate arguments))

/-- What git makes of a command. -/
def outcome (r : Repository) (arguments : List String) (input : Option String) (w : World σ) :
    GitOutcome :=
  let w := announced arguments w
  (w.git.run (r.command arguments input) w.outside w.disk).1

end Repository

/-! ## Failing -/

/-- **An appeal fails, and why.**

    - `exited`, `timedOut`, `notStarted`: a command that git was given
    - `noHelper`: a helper that does not start
    - `spansLines`, `ended`, `broken`: a name that the helper cannot be told, a helper that has ended
      before it, and one that ends while it is asked -/
inductive Appeal.Fails (w : World σ) : Appeal → String → Prop where
  | exited {r : Repository} {arguments : List String} {input : Option String} {code : Int}
      {output errors : List UInt8} (hnull : (r.command arguments input).holdsNull = false)
      (houtcome : r.outcome arguments input w = .finished code output errors) (hcode : code ≠ 0) :
      Fails w (.command r arguments input) (String.ofList (Text.strip (Git.text errors).toList))
  | timedOut {r : Repository} {arguments : List String} {input : Option String}
      (hnull : (r.command arguments input).holdsNull = false)
      (houtcome : r.outcome arguments input w = .timedOut) :
      Fails w (.command r arguments input) ("timed out after " ++ r.timeout.message ++ "s")
  | notStarted {r : Repository} {arguments : List String} {input : Option String} {m : SystemMishap}
      (hnull : (r.command arguments input).holdsNull = false)
      (houtcome : r.outcome arguments input w = .notStarted m) :
      Fails w (.command r arguments input) m.toFault.message
  | noHelper {root : Path} {m : SystemMishap}
      (hmishap : (w.git.startHelper w.helpers root w.outside).1 = some m) :
      Fails w (.start root) m.toFault.message
  | spansLines {helper : Nat} {name : String} (hname : Helper.spansLines name = true) :
      Fails w (.lookup helper name) ("object name spans lines: " ++ Text.quoted name)
  | ended {helper : Nat} {name : String} (hname : Helper.spansLines name = false)
      (hended : (Helper.isLive w helper && w.git.isRunning helper w.outside) = false) :
      Fails w (.lookup helper name) "object reader is not running"
  | broken {helper : Nat} {name : String} {m : SystemMishap}
      (hname : Helper.spansLines name = false)
      (hruns : (Helper.isLive w helper && w.git.isRunning helper w.outside) = true)
      (hmishap : (w.git.ask helper name w.outside).1 = .error m) :
      Fails w (.lookup helper name) m.toFault.message

/-- **What goes wrong with closing the helper after an appeal has failed**: a name that the helper was told
    only in part is sent once more. -/
def Appeal.closingMishap (w : World σ) : Appeal → Option SystemMishap
  | .lookup helper name =>
    if Helper.spansLines name then none
    else if Helper.isLive w helper && w.git.isRunning helper w.outside then
      match w.git.ask helper name w.outside with
      | (.error _, outside) => (w.git.sendRest helper outside).1
      | (.ok _, _) => none
    else none
  | .command .. | .start _ => none

/-- **A result is the problem of a command**, with a reason. -/
def FailsFor (reason : String) (result : Except Failure α) : Prop :=
  ∃ arguments code, result = .error (.problem (.gitCommand arguments reason code))

theorem not_failsFor_ok (reason : String) (a : α) : ¬ FailsFor reason (.ok a) := by
  intro ⟨_, _, h⟩
  cases h

/-- The problem is not that of a command. -/
theorem not_failsFor_problem {p : Problem} (h : p.kind ≠ .gitCommand) (reason : String) :
    ¬ FailsFor reason (.error (.problem p) : Except Failure α) := by
  intro ⟨_, _, hproblem⟩
  cases hproblem
  exact h rfl

/-- A fault is not a problem. -/
theorem not_failsFor_fault (reason : String) (result : Except Fault α) :
    ¬ FailsFor reason (result.mapError Failure.fault) := by
  intro ⟨_, _, h⟩
  cases result <;> cases h

/-- Said in other words it is the problem that these words make of the reason. -/
theorem FailsFor.renamed {step : Action (World σ) α} {w : World σ} {reason : String}
    (h : FailsFor reason (step w).1) {f : Problem → Problem} {p : Problem}
    (hf : ∀ arguments code, f (.gitCommand arguments reason code) = p) :
    (step.renamed f w).1 = .error (.problem p) := by
  obtain ⟨arguments, code, hresult⟩ := h
  rw [renamed_fst_of_problem f hresult, hf]

theorem FailsFor.bind {step : Action (World σ) α} {next : α → Action (World σ) β} {w : World σ}
    {reason : String} (h : FailsFor reason (step w).1) : FailsFor reason ((step >>= next) w).1 := by
  obtain ⟨arguments, code, hresult⟩ := h
  exact ⟨arguments, code, bind_fst_of_error hresult⟩

/-- What is made of the value does not matter. -/
theorem FailsFor.of_map {result : Except Failure α} {g : α → β} {reason : String}
    (h : FailsFor reason (result.map g)) : FailsFor reason result := by
  obtain ⟨arguments, code, hproblem⟩ := h
  cases result with
  | ok a => cases hproblem
  | error f =>
    cases hproblem
    exact ⟨arguments, code, rfl⟩

variable {w : World σ} {reason : String}

namespace Repository

variable {r : Repository} {arguments : List String} {input : Option String}

/-- What a command comes to. -/
def verdict (c : GitCommand) : GitOutcome → Except Failure String
  | .finished code output errors => judge c code output errors
  | .notStarted m => .error (.problem (.gitCommand c.arguments m.toFault.message none))
  | .timedOut => .error (.problem (tooLong c))
  | .interrupted => .error .interrupt

theorem run_fst (hnull : (r.command arguments input).holdsNull = false) :
    (r.run arguments input w).1 =
      verdict (r.command arguments input) (r.outcome arguments input w) := by
  rw [r.run_eq_perform hnull]
  show (perform _ (announced arguments w)).1 = _
  unfold outcome
  rcases hgit : (announced arguments w).git.run (r.command arguments input)
    (announced arguments w).outside (announced arguments w).disk with ⟨outcome, outside, disk⟩
  simp only [perform, hgit]
  cases outcome <;> rfl

/-- A command that git finishes without a complaint returns what git wrote. -/
theorem run_fst_of_finished (hnull : (r.command arguments input).holdsNull = false)
    {output errors : List UInt8} (houtcome : r.outcome arguments input w = .finished 0 output errors) :
    (r.run arguments input w).1 = .ok (Git.text output) := by
  rw [run_fst hnull, houtcome]
  rfl

/-- What a git with an answer to each command makes of one. -/
theorem outcome_answering {answer : List String → String} {w : World Unit}
    (hgit : w.git = .answering answer) : r.outcome arguments input w =
      .finished 0 (Text.encode (answer arguments).toList) [] := by
  have hannounced : (announced arguments w).git = .answering answer := hgit
  simp only [outcome, hannounced]
  rfl

/-- **A command fails in these ways, and in no other.** -/
theorem failsFor_run_iff : FailsFor reason (r.run arguments input w).1 ↔
    (Appeal.command r arguments input).Fails w reason := by
  constructor
  · intro ⟨arguments', code', hproblem⟩
    by_cases hnull : (r.command arguments input).holdsNull = true
    · -- such a command is a fault of its own
      rw [run, bind_apply] at hproblem
      simp only [World.log, Action.update, hnull, if_true] at hproblem
      cases hproblem
    · rw [Bool.not_eq_true] at hnull
      rw [run_fst hnull] at hproblem
      cases houtcome : r.outcome arguments input w with
      | finished code output errors =>
        rw [houtcome] at hproblem
        by_cases hcode : code = 0
        · rw [verdict, judge, if_pos hcode] at hproblem
          cases hproblem
        · rw [verdict, judge, if_neg hcode] at hproblem
          cases hproblem
          exact .exited hnull houtcome hcode
      | notStarted m =>
        rw [houtcome] at hproblem
        cases hproblem
        exact .notStarted hnull houtcome
      | timedOut =>
        rw [houtcome] at hproblem
        cases hproblem
        exact .timedOut hnull houtcome
      | interrupted =>
        rw [houtcome] at hproblem
        cases hproblem
  · intro h
    cases h with
    | @exited _ _ _ code output errors hnull houtcome hcode =>
      refine ⟨arguments, some code, ?_⟩
      rw [run_fst hnull, houtcome, verdict, judge, if_neg hcode]
      rfl
    | timedOut hnull houtcome =>
      refine ⟨arguments, none, ?_⟩
      rw [run_fst hnull, houtcome]
      rfl
    | notStarted hnull houtcome =>
      refine ⟨arguments, none, ?_⟩
      rw [run_fst hnull, houtcome]
      rfl

/-- When a command fails, its problem is told in other words, and nothing is made of its output. -/
theorem bind_run_of_fails (hfails : (Appeal.command r arguments input).Fails w reason)
    {f : Problem → Problem} {p : Problem} {next : String → Action (World σ) α}
    (hf : ∀ arguments code, f (.gitCommand arguments reason code) = p) :
    (((r.run arguments input).renamed f >>= next) w).1 = .error (.problem p) :=
  bind_fst_of_error ((failsFor_run_iff.2 hfails).renamed hf)

end Repository

namespace Helper

theorem failsFor_problem_iff {reason' : String} :
    FailsFor reason (.error (problem reason') : Except Failure α) ↔ reason' = reason := by
  constructor
  · intro ⟨_, _, hproblem⟩
    cases hproblem
    rfl
  · intro h
    rw [h]
    exact ⟨["cat-file", "--batch-check"], none, rfl⟩

/-- **A helper does not start in one way only.** -/
theorem failsFor_start_iff {root : Path} :
    FailsFor reason (start root w).1 ↔ (Appeal.start root).Fails w reason := by
  rcases hstart : w.git.startHelper w.helpers root w.outside with ⟨mishap, outside⟩
  have hmishap : (w.git.startHelper w.helpers root w.outside).1 = mishap := congrArg Prod.fst hstart
  simp only [start, hstart]
  cases mishap with
  | none =>
    refine iff_of_false (not_failsFor_ok _ _) ?_
    intro h
    cases h with
    | noHelper hsome => cases hmishap.symm.trans hsome
  | some m =>
    rw [failsFor_problem_iff]
    constructor
    · rintro rfl
      exact .noHelper hmishap
    · intro h
      cases h with
      | noHelper hsome =>
        cases hmishap.symm.trans hsome
        rfl

/-- A helper that is asked fails when it breaks. -/
theorem failsFor_ask_iff {helper : Nat} {name : String} :
    FailsFor reason (ask helper name w).1 ↔
      ∃ m, (w.git.ask helper name w.outside).1 = .error m ∧ m.toFault.message = reason := by
  rcases hask : w.git.ask helper name w.outside with ⟨answer, outside⟩
  simp only [ask, hask]
  cases answer with
  | error m =>
    show FailsFor reason (.error (problem m.toFault.message)) ↔ _
    rw [failsFor_problem_iff]
    constructor
    · intro h
      exact ⟨m, rfl, h⟩
    · intro ⟨_, hm, h⟩
      cases hm
      exact h
  | ok line =>
    refine iff_of_false (not_failsFor_fault _ _) ?_
    intro ⟨_, hm, _⟩
    cases hm

/-- **A name is not looked up in these ways, and in no other.** -/
theorem failsFor_info_iff {helper : Nat} {name : String} :
    FailsFor reason (info helper name w).1 ↔ (Appeal.lookup helper name).Fails w reason := by
  unfold info
  by_cases hname : spansLines name = true
  · rw [if_pos hname, failsFor_problem_iff]
    constructor
    · rintro rfl
      exact .spansLines hname
    · intro h
      cases h with
      | spansLines _ => rfl
      | ended hline _ => cases hname.symm.trans hline
      | broken hline _ _ => cases hname.symm.trans hline
  · rw [if_neg hname]
    rw [Bool.not_eq_true] at hname
    by_cases hruns : (isLive w helper && w.git.isRunning helper w.outside) = true
    · rw [if_pos hruns, failsFor_ask_iff]
      constructor
      · rintro ⟨m, hmishap, rfl⟩
        exact .broken hname hruns hmishap
      · intro h
        cases h with
        | spansLines hspans => cases hname.symm.trans hspans
        | ended _ hended => cases hruns.symm.trans hended
        | broken _ _ hmishap => exact ⟨_, hmishap, rfl⟩
    · rw [if_neg hruns, failsFor_problem_iff]
      rw [Bool.not_eq_true] at hruns
      constructor
      · rintro rfl
        exact .ended hname hruns
      · intro h
        cases h with
        | spansLines hspans => cases hname.symm.trans hspans
        | ended _ _ => rfl
        | broken _ hlive _ => cases hruns.symm.trans hlive

end Helper

/-! ## What is left behind -/

theorem Repository.leaves_run (r : Repository) (arguments : List String) (input : Option String)
    (w : World σ) :
    Adds (Appeal.command r arguments input).Leaves w (r.run arguments input w).2 := by
  have hannounced : Adds (Appeal.command r arguments input).Leaves w (announced arguments w) :=
    .scene w _
  by_cases hnull : (r.command arguments input).holdsNull = true
  · have hrun : (r.run arguments input w).2 = announced arguments w := by
      rw [run, bind_apply]
      simp only [World.log, Action.update, hnull, if_true]
      rfl
    rw [hrun]
    exact hannounced
  · rw [Bool.not_eq_true] at hnull
    rw [r.run_eq_perform hnull]
    refine hannounced.trans ?_
    show Adds _ (announced arguments w) (perform _ (announced arguments w)).2
    have hleaves : ∀ b, (Appeal.command r arguments input).Leaves (.ran (r.command arguments input) b) :=
      fun _ => rfl
    have hkilled : (Appeal.command r arguments input).Leaves (.killed (r.command arguments input)) := rfl
    rcases hgit : (announced arguments w).git.run (r.command arguments input)
      (announced arguments w).outside (announced arguments w).disk with ⟨outcome, outside, disk⟩
    simp only [perform, hgit]
    let done : World σ := { announced arguments w with outside, disk }
    have hdone : Adds (Appeal.command r arguments input).Leaves (announced arguments w) done :=
      .of_events_eq rfl
    have hran : ∀ b, Adds (Appeal.command r arguments input).Leaves (announced arguments w)
        (done.happened (.ran (r.command arguments input) b)) :=
      fun b => hdone.trans (Adds.happened (hleaves b) _)
    cases outcome with
    | finished code output errors => exact hran true
    | notStarted m => exact hran false
    | timedOut => exact (hran true).trans (Adds.happened hkilled _)
    | interrupted => exact (hran true).trans (Adds.happened hkilled _)

namespace Helper

theorem leaves_start (root : Path) (w : World σ) :
    Adds (Appeal.start root).Leaves w (start root w).2 := by
  have hevent : (Appeal.start root).Leaves (.helperStarted w.helpers root) := rfl
  have hadds : ∀ v : World σ, v.events = w.events ++ [.helperStarted w.helpers root] →
      Adds (Appeal.start root).Leaves w v := by
    intro v hv
    exact ⟨_, hv, by simpa using hevent⟩
  rcases hstart : w.git.startHelper w.helpers root w.outside with ⟨mishap, outside⟩
  simp only [start, hstart]
  cases mishap <;> exact hadds _ rfl

theorem leaves_info (helper : Nat) (name : String) (w : World σ) :
    Adds (Appeal.lookup helper name).Leaves w (info helper name w).2 := by
  unfold info
  by_cases hname : spansLines name = true
  · rw [if_pos hname]
    exact .refl w
  · rw [if_neg hname]
    by_cases hruns : (isLive w helper && w.git.isRunning helper w.outside) = true
    · rw [if_pos hruns]
      have hevent : (Appeal.lookup helper name).Leaves (.asked helper name) := ⟨rfl, rfl⟩
      rcases hask : w.git.ask helper name w.outside with ⟨answer, outside⟩
      simp only [ask, hask]
      cases answer <;> exact ⟨[.asked helper name], rfl, by simpa using hevent⟩
    · rw [if_neg hruns]
      exact .refl w

end Helper

/-! ## Speaking for oneself -/

/-- **A step never ends with the bare problem of a command.** -/
def Speaks (step : Action (World σ) α) : Prop := ∀ w reason, ¬ FailsFor reason (step w).1

theorem speaks_pure (a : α) : Speaks (pure a : Action (World σ) α) :=
  fun _ reason => not_failsFor_ok reason a

theorem speaks_read (f : World σ → α) : Speaks (Action.read f) :=
  fun w reason => not_failsFor_ok reason (f w)

theorem speaks_update (f : World σ → World σ) : Speaks (Action.update f) :=
  fun _ reason => not_failsFor_ok reason ()

theorem speaks_fail {f : Failure} (h : ∀ reason, ¬ FailsFor reason (.error f : Except Failure α)) :
    Speaks (Action.fail f : Action (World σ) α) :=
  fun _ => h

theorem speaks_ofResult {r : Except Failure α} (h : ∀ reason, ¬ FailsFor reason r) :
    Speaks (Action.ofResult r : Action (World σ) α) :=
  fun _ => h

namespace Speaks

variable {step : Action (World σ) α}

theorem bind {next : α → Action (World σ) β} (h : Speaks step) (hnext : ∀ a, Speaks (next a)) :
    Speaks (step >>= next) := by
  intro w reason hfails
  rcases hstep : step w with ⟨r, w'⟩
  have hfirst := h w reason
  rw [hstep] at hfirst
  cases r with
  | ok a =>
    rw [bind_fst_of_ok hstep] at hfails
    exact hnext a w' reason hfails
  | error f =>
    rw [bind_fst_of_error (congrArg Prod.fst hstep)] at hfails
    obtain ⟨arguments, code, hproblem⟩ := hfails
    cases hproblem
    exact hfirst ⟨arguments, code, rfl⟩

theorem map (h : Speaks step) (f : α → β) : Speaks (f <$> step) := by
  intro w reason
  rw [map_apply]
  exact fun hfails => h w reason hfails.of_map

/-- A step that tidies up speaks for itself, if what goes wrong with the tidying up is a fault. -/
theorem guarded (h : Speaks step) {tidy : Failure → Tidying (World σ)}
    (htidy : ∀ f w g, (tidy f w).1 = some g → ∃ e, g = .fault e) : Speaks (step.guarded tidy) := by
  intro w reason ⟨arguments, code, hproblem⟩
  rcases hstep : step w with ⟨r, w'⟩
  have hfirst := h w reason
  rw [hstep] at hfirst
  cases r with
  | ok a =>
    rw [guarded_ok_iff.2 hstep] at hproblem
    cases hproblem
  | error f =>
    by_cases hf : f = .interrupt
    · subst hf
      simp only [Action.guarded, hstep] at hproblem
      cases hproblem
    · rw [guarded_of_error hstep hf] at hproblem
      cases hmishap : (tidy f w').1 with
      | none =>
        rw [hmishap] at hproblem
        exact hfirst ⟨arguments, code, hproblem⟩
      | some g =>
        obtain ⟨e, rfl⟩ := htidy f w' g hmishap
        rw [hmishap] at hproblem
        cases hproblem

theorem forEach {τ : Type} {step : τ → Action (World σ) β} (h : ∀ x, Speaks (step x)) (xs : List τ) :
    Speaks (Action.forEach step xs) := by
  intro w reason ⟨arguments, code, hproblem⟩
  have hloop : Action.forEach step xs w =
      (.error (.problem (.gitCommand arguments reason code)), (Action.forEach step xs w).2) :=
    Prod.ext hproblem rfl
  obtain ⟨_, x, _, mid, -, -, hx⟩ := (forEach_endsAtFirst step).error_iff.1 hloop
  exact h x mid reason ⟨arguments, code, congrArg Prod.fst hx⟩

end Speaks

/-- **Words that are never those of a command** make a step speak for itself, whatever it asks. -/
theorem speaks_renamed {f : Problem → Problem}
    (hf : ∀ p arguments reason code, f p ≠ .gitCommand arguments reason code)
    (step : Action (World σ) α) : Speaks (step.renamed f) := by
  intro w reason ⟨arguments, code, hproblem⟩
  unfold renamed at hproblem
  rcases hstep : step w with ⟨r, w'⟩
  rw [hstep] at hproblem
  cases r with
  | ok a => cases hproblem
  | error e =>
    cases e with
    | problem p =>
      have hp : f p = .gitCommand arguments reason code := by
        injection hproblem with hproblem
        injection hproblem
      exact hf p arguments reason code hp
    | fault e => cases hproblem
    | interrupt => cases hproblem

end HistoryMetrics
