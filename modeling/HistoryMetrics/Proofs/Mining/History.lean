import HistoryMetrics.Proofs.Mining.Helpers
import HistoryMetrics.Proofs.Mining.Work
import Mathlib

/-! # The history of a run

    A run takes the ids one after the other. A turn is what was done for one of them: the repository
    was opened again if it was closed, and the commit was analysed or became a failure of the report.
    Between the turns the run may end early, because the repository cannot be opened again or because
    a call raises something that is not contained.

    - `Miner.Turn`, `Miner.Ending`: what a history is made of
    - `Miner.History`: the histories that the ids and the world can have
    - `Miner.Runs`: a whole run, from the opening of the repository on
    - `mineAll_history`, `mine_history`: every run that goes on after failures has a history, and its
      report is that of the turns
-/

namespace HistoryMetrics

open HistoryMetrics.Action World

variable {σ : Type}

namespace Miner

/-! ## Turns -/

/-- **What came of a commit**: it was analysed, or a call raised something and the commit failed with
    a problem. -/
inductive Outcome where
  | analysed (c : Commit) (files : List Examined)
  | failed (call : Call) (raised : Failure) (p : Problem)

/-- **A turn of a run**: an id, whether the repository was opened again for it, and what came of it. -/
structure Turn where
  id : String
  reopened : Bool
  outcome : Outcome

namespace Turn

/-- The records of an analysed commit: file by file, and type by type. -/
def records (t : Turn) : List TypeRecord :=
  match t.outcome with
  | .analysed c files => files.flatMap (Examined.records c)
  | .failed .. => []

/-- The records that the receiver has accepted. -/
def accepted (t : Turn) : List TypeRecord :=
  match t.outcome with
  | .analysed .. => t.records
  | .failed call _ _ => call.handed

/-- The failure of the report, if the commit has failed. -/
def failure? (t : Turn) : Option CommitFailure :=
  match t.outcome with
  | .analysed .. => none
  | .failed call _ p => some ⟨t.id, call.stage, p.message, call.path⟩

/-- Was the commit analysed? -/
def isAnalysed (t : Turn) : Bool :=
  match t.outcome with
  | .analysed .. => true
  | .failed .. => false

/-- Was the repository closed by a failure? -/
def isClosing (t : Turn) : Bool :=
  match t.outcome with
  | .analysed .. => false
  | .failed call _ _ => call.isOnSession

/-- The report after a turn. -/
def addTo (report : Report) (t : Turn) : Report :=
  match t.outcome with
  | .analysed .. => report.analysed t.id t.records.length
  | .failed call _ p => report.failed ⟨t.id, call.stage, p.message, call.path⟩

end Turn

/-- **The report of turns**: the ids of the analysed commits, the number of their records, and the
    failures. -/
def reportOf (turns : List Turn) : Report where
  commits := (turns.filter Turn.isAnalysed).map Turn.id
  records := (turns.map fun t => t.records.length).sum
  failures := turns.filterMap Turn.failure?

theorem foldl_addTo (turns : List Turn) (report : Report) :
    turns.foldl Turn.addTo report =
      ⟨report.commits ++ (turns.filter Turn.isAnalysed).map Turn.id,
        report.records + (turns.map fun t => t.records.length).sum,
        report.failures ++ turns.filterMap Turn.failure?⟩ := by
  induction turns generalizing report with
  | nil => simp
  | cons t turns ih =>
    rw [List.foldl_cons, ih]
    obtain ⟨id, reopened, outcome⟩ := t
    cases outcome with
    | analysed c files =>
      simp [List.filterMap_cons, List.filter_cons, Turn.addTo, Turn.isAnalysed, Turn.failure?,
        Report.analysed, Nat.add_assoc]
    | failed call f p =>
      simp [Turn.addTo, Turn.isAnalysed, Turn.failure?, Turn.records, Report.failed]

theorem foldl_addTo_empty (turns : List Turn) :
    turns.foldl Turn.addTo .empty = reportOf turns := by
  rw [foldl_addTo]
  simp [reportOf, Report.empty]

/-- **How the turns end.** -/
inductive Ending where
  | complete
  | unopened (f : Failure)
  | escaped (id : String) (call : Call) (f : Failure)

/-- The result of a run: the report, or the failure that has ended it. -/
def Ending.result (report : Report) : Ending → Except Failure Report
  | .complete => .ok report
  | .unopened f => .error f
  | .escaped _ _ f => .error f

/-- The records that were accepted in the turn that ended the run. -/
def Ending.handed : Ending → List TypeRecord
  | .escaped _ call _ => call.handed
  | _ => []

/-! ## Histories -/

section History

variable (m : Miner σ) (path : String) (total : Nat) (known : List Commit)

/-- The work on an id begins: the repository is open, and the progress is logged. -/
def Begins (index : Nat) (id : String) (w w' : World σ) : Prop :=
  ∃ w₁, m.reopen path w = (.ok (), w₁) ∧
    w' = w₁.logged (.plain .info logger (progress index total id))

/-- **The turns that follow from a world**, with their ending and the world after them. -/
inductive History : (index : Nat) → List String → World σ → List Turn → Ending → World σ → Prop where
  | complete (index : Nat) (w : World σ) : History index [] w [] .complete w
  | unopened {index : Nat} {id : String} {rest : List String} {w w' : World σ} {f : Failure} :
      m.reopen path w = (.error f, w') → History index (id :: rest) w [] (.unopened f) w'
  | escaped {index : Nat} {id : String} {rest : List String} {w w₁ w' : World σ} {call : Call}
      {f : Failure} :
      Begins m path total index id w w₁ → Stops m id (knownCommit known id) w₁ call f w' →
      call.contains f = none → History index (id :: rest) w [] (.escaped id call f) w'
  | analysed {index : Nat} {id : String} {rest : List String} {w w₁ w₂ w' : World σ} {c : Commit}
      {files : List Examined} {turns : List Turn} {e : Ending} :
      Begins m path total index id w w₁ → Completes m id (knownCommit known id) w₁ c files w₂ →
      History (index + 1) rest w₂ turns e w' →
      History index (id :: rest) w (⟨id, !Session.isOpen w, .analysed c files⟩ :: turns) e w'
  | failed {index : Nat} {id : String} {rest : List String} {w w₁ w₂ w' : World σ} {call : Call}
      {f : Failure} {p : Problem} {turns : List Turn} {e : Ending} :
      Begins m path total index id w w₁ → Stops m id (knownCommit known id) w₁ call f w₂ →
      call.contains f = some p →
      History (index + 1) rest (w₂.logged (skipped id call.stage p)) turns e w' →
      History index (id :: rest) w (⟨id, !Session.isOpen w, .failed call f p⟩ :: turns) e w'

/-- **Going over the ids has a history**, and the report is that of its turns. -/
theorem mineAll_history (ids : List String) (index : Nat) (report : Report) (w : World σ) :
    ∃ turns e w', History m path total known index ids w turns e w' ∧
      m.mineAll path false total known index ids report w =
        (e.result (turns.foldl Turn.addTo report), w') := by
  induction ids generalizing index report w with
  | nil => exact ⟨[], .complete, w, .complete index w, rfl⟩
  | cons id rest ih =>
    unfold mineAll
    rw [bind_apply]
    rcases hreopen : m.reopen path w with ⟨r, w₀⟩
    cases r with
    | error f => exact ⟨[], .unopened f, w₀, .unopened hreopen, rfl⟩
    | ok u =>
      have hbegins : Begins m path total index id w
          (w₀.logged (.plain .info logger (progress index total id))) := ⟨w₀, hreopen, rfl⟩
      simp only [bind_apply, World.log, Action.update]
      generalize w₀.logged (.plain .info logger (progress index total id)) = w₁ at hbegins ⊢
      rcases workOn_cases m id (knownCommit known id) w₁ with
        ⟨c, files, w₂, hcompletes, hwork⟩ | ⟨call, f, w₂, hstops, hwork⟩
      · obtain ⟨turns, e, w', hhistory, hrun⟩ := ih (index + 1)
          (report.analysed id (files.flatMap (Examined.records c)).length) w₂
        simp only [mineCommit, hwork]
        exact ⟨_, e, w', .analysed hbegins hcompletes hhistory, hrun⟩
      · -- whether the failure is contained decides whether there are more turns
        cases hcontains : call.contains f with
        | none =>
          simp only [mineCommit, hwork, Call.setback_of_contains_eq_none hcontains]
          exact ⟨[], .escaped id call f, w₂, .escaped hbegins hstops hcontains, rfl⟩
        | some p =>
          obtain ⟨turns, e, w', hhistory, hrun⟩ := ih (index + 1)
            (report.failed ⟨id, call.stage, p.message, call.path⟩)
            (w₂.logged (skipped id call.stage p))
          simp only [mineCommit, hwork, Call.setback_of_contains hcontains, Bool.false_eq_true,
            if_false]
          exact ⟨_, e, w', .failed hbegins hstops hcontains hhistory, hrun⟩

variable {m path total known} {index : Nat} {ids : List String} {w w' : World σ} {turns : List Turn}
  {e : Ending}

/-! ### What a history says about the ids -/

theorem History.ids_of_complete (h : History m path total known index ids w turns .complete w') :
    turns.map Turn.id = ids := by
  generalize he : Ending.complete = e at h
  induction h with
  | complete _ _ => rfl
  | unopened _ => cases he
  | escaped _ _ _ => cases he
  | analysed _ _ _ ih => rw [List.map_cons, ih he]
  | failed _ _ _ _ ih => rw [List.map_cons, ih he]

/-- The turns are those of the first ids. -/
theorem History.ids_prefix (h : History m path total known index ids w turns e w') :
    turns.map Turn.id <+: ids := by
  induction h with
  | complete _ _ => exact List.nil_prefix
  | unopened _ => exact List.nil_prefix
  | escaped _ _ _ => exact List.nil_prefix
  | analysed _ _ _ ih => exact (List.prefix_cons_inj _).2 ih
  | failed _ _ _ _ ih => exact (List.prefix_cons_inj _).2 ih

/-- What ends a run early is raised by a call for the id after those of the turns. -/
theorem History.escaped_prefix {id : String} {call : Call} {f : Failure}
    (h : History m path total known index ids w turns (.escaped id call f) w') :
    turns.map Turn.id ++ [id] <+: ids ∧ call.contains f = none ∧
      ∃ w₁ w₂, Stops m id (knownCommit known id) w₁ call f w₂ := by
  generalize he : Ending.escaped id call f = e at h
  induction h with
  | complete _ _ => cases he
  | unopened _ => cases he
  | @escaped _ _ rest _ w₁ w₂ _ _ _ hstops hcontains =>
    cases he
    exact ⟨List.prefix_append [id] rest, hcontains, w₁, w₂, hstops⟩
  | analysed _ _ _ ih =>
    obtain ⟨hpre, hstops⟩ := ih he
    exact ⟨(List.prefix_cons_inj _).2 hpre, hstops⟩
  | failed _ _ _ _ ih =>
    obtain ⟨hpre, hstops⟩ := ih he
    exact ⟨(List.prefix_cons_inj _).2 hpre, hstops⟩

/-- **What a history says of a turn has happened**: the work on the commit was complete, or it has
    stopped at the call, and the failure of the call is contained. -/
theorem History.outcome_of_mem (h : History m path total known index ids w turns e w') {t : Turn}
    (ht : t ∈ turns) : ∃ w₁ w₂,
      (∀ c files, t.outcome = .analysed c files →
        Completes m t.id (knownCommit known t.id) w₁ c files w₂) ∧
      ∀ call f p, t.outcome = .failed call f p →
        Stops m t.id (knownCommit known t.id) w₁ call f w₂ ∧ call.contains f = some p := by
  induction h with
  | complete _ _ => cases ht
  | unopened _ => cases ht
  | escaped _ _ _ => cases ht
  | @analysed _ _ _ _ w₁ w₂ _ _ _ _ _ _ hcompletes _ ih =>
    rcases List.mem_cons.1 ht with rfl | ht
    · refine ⟨w₁, w₂, fun c files heq => ?_, fun call f p heq => ?_⟩
      · cases heq
        exact hcompletes
      · cases heq
    · exact ih ht
  | @failed _ _ _ _ w₁ w₂ _ _ _ _ _ _ _ hstops hcontains _ ih =>
    rcases List.mem_cons.1 ht with rfl | ht
    · refine ⟨w₁, w₂, fun c files heq => ?_, fun call f p heq => ?_⟩
      · cases heq
      · cases heq
        exact ⟨hstops, hcontains⟩
    · exact ih ht

/-! ### What a history says about the session -/

/-- Opening the repository again hands nothing over, and the repository is open unless this fails. -/
theorem reopen_cases (m : Miner σ) (path : String) (w : World σ) :
    (∃ f w', m.reopen path w = (.error f, w') ∧ Session.isOpen w = false ∧
        w'.accepted = w.accepted) ∨
      ∃ w', m.reopen path w = (.ok (), w') ∧ Session.isOpen w' = true ∧
        w'.accepted = w.accepted := by
  by_cases hopen : Session.isOpen w = true
  · refine .inr ⟨w, ?_, hopen, rfl⟩
    rw [reopen, if_pos hopen]
  · have hreopen : m.reopen path w = m.openAt path
        (w.logged (.plain .info logger ("Reopening " ++ path ++ " after failure"))) := by
      rw [reopen, if_neg hopen]
    rw [hreopen, openAt]
    have hs : (w.logged (.plain .info logger ("Reopening " ++ path ++ " after failure"))).session =
        none := by
      simpa [Session.isOpen] using hopen
    rcases Session.open_cases (.ofText path) m.config.gitTimeout m.config.binaryThreshold hs with
      ⟨f, w', hrun, hw'⟩ | ⟨h, w', hrun, hw'⟩
    · exact .inl ⟨f, w', hrun, by simpa using hopen, hw'.accepted⟩
    · exact .inr ⟨w', hrun, Session.isOpen_of_session hw'.session, hw'.accepted⟩

theorem Begins.isOpen_accepted {id : String} {w₁ : World σ} (h : Begins m path total index id w w₁) :
    Session.isOpen w₁ = true ∧ w₁.accepted = w.accepted := by
  obtain ⟨w₀, hreopen, rfl⟩ := h
  rcases reopen_cases m path w with ⟨f, w', hrun, _⟩ | ⟨w', hrun, hopen, haccepted⟩
  · rw [hrun] at hreopen
    cases hreopen
  · rw [hrun] at hreopen
    cases hreopen
    exact ⟨hopen, haccepted⟩

theorem closed_of_reopen_error {f : Failure} (h : m.reopen path w = (.error f, w')) :
    Session.isOpen w = false ∧ w'.accepted = w.accepted := by
  rcases reopen_cases m path w with ⟨g, v, hrun, hv⟩ | ⟨v, hrun, _⟩
  · rw [hrun] at h
    cases h
    exact hv
  · rw [hrun] at h
    cases h

/-- **The repository is opened again just after the turns that have closed it.** -/
theorem History.reopened (h : History m path total known index ids w turns e w') :
    turns.map Turn.reopened =
      ((!Session.isOpen w) :: turns.map Turn.isClosing).take turns.length := by
  induction h with
  | complete _ _ => rfl
  | unopened _ => rfl
  | escaped _ _ _ => rfl
  | analysed _ hcompletes _ ih =>
    rw [List.map_cons, ih, hcompletes.isOpen]
    rfl
  | @failed _ id _ _ _ w₂ _ call _ p _ _ _ hstops hcontains _ ih =>
    rw [List.map_cons, ih, Session.isOpen_logged, hstops.isOpen m hcontains, Bool.not_not]
    rfl

/-- A run ends for want of a repository only if the turn before has closed it. -/
theorem History.isClosing_of_unopened {f : Failure}
    (h : History m path total known index ids w turns (.unopened f) w') :
    ((!Session.isOpen w) :: turns.map Turn.isClosing).getLast? = some true := by
  generalize he : Ending.unopened f = e at h
  induction h with
  | complete _ _ => cases he
  | unopened hreopen =>
    rw [(closed_of_reopen_error hreopen).1]
    rfl
  | escaped _ _ _ => cases he
  | analysed _ hcompletes _ ih =>
    have hlast := ih he
    rw [hcompletes.isOpen] at hlast
    rw [List.map_cons, List.getLast?_cons_cons]
    exact hlast
  | @failed _ id _ _ _ w₂ _ call _ p _ _ _ hstops hcontains _ ih =>
    have hlast := ih he
    rw [Session.isOpen_logged, hstops.isOpen m hcontains, Bool.not_not] at hlast
    rw [List.map_cons, List.getLast?_cons_cons]
    exact hlast

/-! ### What a history says about the receiver -/

/-- **Just the records of the turns are accepted**, in their order. -/
theorem History.accepted (h : History m path total known index ids w turns e w') :
    w'.accepted = w.accepted ++ (turns.flatMap Turn.accepted ++ e.handed).map .record := by
  induction h with
  | complete _ _ => simp [Ending.handed]
  | unopened hreopen =>
    rw [(closed_of_reopen_error hreopen).2]
    simp [Ending.handed]
  | escaped hbegins hstops _ =>
    rw [hstops.accepted, hbegins.isOpen_accepted.2]
    simp [Ending.handed]
  | analysed hbegins hcompletes _ ih =>
    rw [ih, hcompletes.accepted, hbegins.isOpen_accepted.2]
    simp [Turn.accepted, Turn.records]
  | @failed _ id _ _ _ w₂ _ call _ p _ _ hbegins hstops _ _ ih =>
    rw [ih, accepted_logged, hstops.accepted, hbegins.isOpen_accepted.2]
    simp [Turn.accepted]

end History

/-! ## Whole runs -/

variable (m : Miner σ)

/-- **The repository is opened and the ids are selected**; this is the world in which the first turn
    begins. -/
def Selects (path : String) (selection : Selection) (w : World σ) (ids : List String)
    (known : List Commit) (w' : World σ) : Prop :=
  ∃ w₁ w₂ root, m.openAt path w = (.ok (), w₁) ∧ select selection w₁ = (.ok (ids, known), w₂) ∧
    Session.root w₂ = (.ok root, w₂) ∧
    w' = w₂.logged (.plain .info logger ("Mining " ++ toString ids.length ++ " commits in " ++ root.text))

/-- The repository cannot be opened, or the ids cannot be selected. -/
inductive Unselected (path : String) (selection : Selection) (w : World σ) (f : Failure) : Prop where
  | unopened {w' : World σ} : m.openAt path w = (.error f, w') → Unselected path selection w f
  | unselected {w₁ w' : World σ} : m.openAt path w = (.ok (), w₁) →
      select selection w₁ = (.error f, w') → Unselected path selection w f

/-- **A run has these turns** over the ids that were selected. -/
def Runs (path : String) (selection : Selection) (w : World σ) (ids : List String)
    (turns : List Turn) (e : Ending) (w' : World σ) : Prop :=
  ∃ known w₁, Selects m path selection w ids known w₁ ∧
    History m path ids.length known 1 ids w₁ turns e w'

theorem openAt_ok {path : String} {w w' : World σ} (h : m.openAt path w = (.ok (), w')) :
    w'.session.isSome ∧ w'.accepted = w.accepted := by
  unfold openAt at h
  cases hs : w.session with
  | some handles =>
    rw [Session.open_of_open _ _ _ hs] at h
    cases h
  | none =>
    rcases Session.open_cases (.ofText path) m.config.gitTimeout m.config.binaryThreshold hs with
      ⟨f, v, hrun, _⟩ | ⟨handles, v, hrun, hv⟩
    · rw [hrun] at h
      cases h
    · rw [hrun] at h
      cases h
      refine ⟨?_, hv.accepted⟩
      rw [hv.session]
      rfl

/-- Selecting the ids only reads. -/
theorem steady_of_select_ok {selection : Selection} {w w' : World σ}
    {found : List String × List Commit} (h : select selection w = (.ok found, w')) : Steady w w' := by
  cases selection with
  | ids ids =>
    cases h
    exact .refl w
  | everything =>
    rcases hcommits : Session.commits w with ⟨r, w₁⟩
    have hends := (Session.commits_ends w).of_eq hcommits
    simp only [select, bind_apply, hcommits] at h
    cases r with
    | error f => cases h
    | ok commits =>
      cases h
      exact hends.steady_of_ok
  | reference name =>
    rcases hrefs : Session.references w with ⟨r, w₁⟩
    have hends := (Session.references_ends w).of_eq hrefs
    simp only [select, bind_apply, hrefs] at h
    cases r with
    | error f => cases h
    | ok refs =>
      have hsteady : Steady w w₁ := hends.steady_of_ok
      match hmatch : selectReference refs name with
      | .error p =>
        simp only [hmatch] at h
        cases h
      | .ok none =>
        simp only [hmatch] at h
        cases h
        exact hsteady.trans (Steady.logged w₁ _)
      | .ok (some ref) =>
        simp only [hmatch, bind_apply] at h
        rcases hids : Session.idsOf ref w₁ with ⟨r, w₂⟩
        have hends' := (Session.idsOf_ends ref w₁).of_eq hids
        rw [hids] at h
        cases r with
        | error f => cases h
        | ok ids =>
          cases h
          exact hsteady.trans hends'.steady_of_ok

theorem Selects.isOpen_accepted {path : String} {selection : Selection} {w w' : World σ}
    {ids : List String} {known : List Commit} (h : Selects m path selection w ids known w') :
    Session.isOpen w' = true ∧ w'.accepted = w.accepted := by
  obtain ⟨w₁, w₂, root, hopen, hselect, _, rfl⟩ := h
  obtain ⟨hsession, haccepted⟩ := openAt_ok m hopen
  have hsteady := steady_of_select_ok hselect
  refine ⟨?_, hsteady.accepted.trans haccepted⟩
  show w₂.session.isSome = true
  rw [hsteady.session]
  exact hsession

variable {m} in
/-- The ids are selected in one way only. -/
theorem Selects.unique {path : String} {selection : Selection} {w w₁ w₁' : World σ}
    {ids ids' : List String} {known known' : List Commit} (h : Selects m path selection w ids known w₁)
    (h' : Selects m path selection w ids' known' w₁') : ids' = ids ∧ known' = known ∧ w₁' = w₁ := by
  obtain ⟨v, v₂, root, hopen, hselect, hroot, rfl⟩ := h
  obtain ⟨u, u₂, root', hopen', hselect', hroot', rfl⟩ := h'
  obtain ⟨-, rfl⟩ := Prod.mk.inj (hopen'.symm.trans hopen)
  obtain ⟨hids, rfl⟩ := Prod.mk.inj (hselect'.symm.trans hselect)
  obtain ⟨rfl, rfl⟩ := Prod.mk.inj (Except.ok.inj hids)
  obtain ⟨rfl, -⟩ := Prod.mk.inj (hroot'.symm.trans hroot) |>.imp_left Except.ok.inj
  exact ⟨rfl, rfl, rfl⟩

variable {m} in
/-- A whole run over ids that can be selected is the run over these ids, and closes the repository. -/
theorem mine_of_selects {path : String} {selection : Selection} {w w₁ : World σ} {ids : List String}
    {known : List Commit} (h : Selects m path selection w ids known w₁) (failFast : Option Bool) :
    m.mine path selection failFast w =
      ((m.mineAll path (failFast.getD m.config.failFast.isTruthy) ids.length known 1 ids .empty w₁).1,
        Session.close
          (m.mineAll path (failFast.getD m.config.failFast.isTruthy) ids.length known 1 ids .empty
            w₁).2) := by
  obtain ⟨w₀, w₂, root, hopen, hselect, hroot, rfl⟩ := h
  have hmine := m.opened_eq (keepsHelpers_mineOpen m path selection
    (failFast.getD m.config.failFast.isTruthy)) hopen
  rw [mine, hmine]
  simp only [mineOpen, bind_apply, hselect, hroot, World.log, update]

/-- **Every run that goes on after failures has turns**, unless there was nothing to begin with, and
    its result is their report or the failure that has ended them. -/
theorem mine_history (path : String) (selection : Selection) (failFast : Option Bool) (w : World σ)
    (hfast : failFast.getD m.config.failFast.isTruthy = false) :
    (∃ f w', Unselected m path selection w f ∧
        m.mine path selection failFast w = (.error f, w')) ∨
      ∃ ids turns e w', Runs m path selection w ids turns e w' ∧
        m.mine path selection failFast w = (e.result (reportOf turns), Session.close w') := by
  rcases hopen : m.openAt path w with ⟨r, w₁⟩
  cases r with
  | error f =>
    refine .inl ⟨f, w₁, .unopened hopen, ?_⟩
    rw [mine, bind_apply, hopen]
  | ok u =>
    have hmine : m.mine path selection failFast w = ((m.mineOpen path selection false w₁).1,
        Session.close (m.mineOpen path selection false w₁).2) := by
      have hrun := m.opened_eq (keepsHelpers_mineOpen m path selection false) hopen
      rw [mine, hfast]
      exact hrun
    rw [hmine, mineOpen, bind_apply]
    rcases hselect : select selection w₁ with ⟨r, w₂⟩
    cases r with
    | error f => exact .inl ⟨f, _, .unselected hopen hselect, rfl⟩
    | ok found =>
      obtain ⟨ids, known⟩ := found
      -- selecting only reads, so the repository is still open
      have hsession : w₂.session.isSome := by
        rw [(steady_of_select_ok hselect).session]
        exact (openAt_ok m hopen).1
      obtain ⟨h, hs⟩ := Option.isSome_iff_exists.1 hsession
      have hroot : Session.root w₂ = (.ok h.root, w₂) := Session.root_of_session hs
      obtain ⟨turns, e, w', hhistory, hrun⟩ := mineAll_history m path ids.length known ids 1 .empty
        (w₂.logged (.plain .info logger
          ("Mining " ++ toString ids.length ++ " commits in " ++ h.root.text)))
      rw [foldl_addTo_empty] at hrun
      refine .inr ⟨ids, turns, e, w', ⟨known, _, ⟨w₁, w₂, h.root, hopen, hselect, hroot, rfl⟩,
        hhistory⟩, ?_⟩
      simp only [bind_apply, hroot, World.log, Action.update, hrun]

/-! ## A small run -/

/-- A miner without plug-ins and detectors. -/
def plainMiner : Miner Unit where
  config := ⟨.null, .null, .null, .null, .null, .standard .longMethod, .standard .longMethod,
    .standard .longMethod⟩
  provider := ⟨fun _ _ => pure []⟩
  sink := .memory
  engine := ⟨.empty, []⟩
  detectors := []

/-- A world whose git knows no commits. -/
def worldWithoutCommits : World Unit :=
  .start oneRepository (gitRefusing fun arguments => 2 < arguments.length)

end Miner

end HistoryMetrics
