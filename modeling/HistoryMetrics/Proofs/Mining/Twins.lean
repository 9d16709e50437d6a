import HistoryMetrics.Mining.Miner
import HistoryMetrics.Proofs.Session.Blind

/-! # Two miners side by side

    Two miners may differ in how they measure and in where their records go. If they read the same source
    files, make records that correspond, and hand corresponding records over with the same success, then
    their runs cannot be told apart: stage by stage, commit by commit, and as a whole.

    - `Miner.Twins`: the two miners
    - `agree_during`, `agree_withFaults`: a stage of the work
    - `Twins.agree_workOn`, `Twins.agree_mineAll`, `Twins.agree_mine`: the two runs
-/

namespace HistoryMetrics.Miner

open HistoryMetrics.Action

variable {σ α β : Type}

/-! ## Stages -/

theorem agree_during {P : World σ → World σ → Prop} {Q : α → β → Prop} {step : Action (World σ) α}
    {step' : Action (World σ) β} (h : Agree P Q step step') (stage : Stage) (path : Option String) :
    Agree P Q (during stage path step) (during stage path step') := by
  intro w v hwv
  rcases h.cases hwv with ⟨a, b, w', v', hw, hv, hab, hP⟩ | ⟨f, w', v', hw, hv, hP⟩
  · simp only [during, hw, hv]
    exact ⟨.ok hab, hP⟩
  · cases f <;> simp only [during, hw, hv] <;> exact ⟨.error _, hP⟩

theorem agree_withFaults {S : Type} {P : S → S → Prop} {Q : α → β → Prop} {step : Action S α}
    {step' : Action S β} (h : Agree P Q step step') (wrap : Fault → Problem) :
    Agree P Q (withFaults wrap step) (withFaults wrap step') := by
  intro s t hst
  rcases h.cases hst with ⟨a, b, s', t', hs, ht, hab, hP⟩ | ⟨f, s', t', hs, ht, hP⟩
  · simp only [withFaults, hs, ht]
    exact ⟨.ok hab, hP⟩
  · cases f <;> simp only [withFaults, hs, ht] <;> exact ⟨.error _, hP⟩

/-! ## Twins -/

/-- **Two miners do the same work** on the repository at a path, in worlds in relation `P`: the records of
    the second correspond to those of the first by `Q`.

    - `failFast`: they stop at the first failure, or both do not
    - `opens`, `parses`: they open the repository and read source files alike
    - `measures`: they make records that correspond
    - `emits`: they hand corresponding records over, with the same success
-/
structure Twins (P : World σ → World σ → Prop) (Q : List TypeRecord → List TypeRecord → Prop)
    (m m' : Miner σ) (path : String) : Prop where
  failFast : m'.config.failFast = m.config.failFast
  length : ∀ {rs rs'}, Q rs rs' → rs'.length = rs.length
  opens : Agree P Eq (m.openAt path) (m'.openAt path)
  parses : ∀ commit, Agree P Eq (m.parse commit) (m'.parse commit)
  measures : ∀ c os, Agree P Q (m.recordsOfAll c os) (m'.recordsOfAll c os)
  emits : ∀ id {rs rs'}, Q rs rs' → Agree P Eq (m.emit id rs) (m'.emit id rs')

section Runs

variable {Good : Path → Prop} {Held : Handles → Prop} {P : World σ → World σ → Prop}
  {Q : List TypeRecord → List TypeRecord → Prop} {m m' : Miner σ} {path : String}
  (hP : Session.Blind Good Held P)

include hP

theorem agree_commitOf (id : String) (known : Option Commit) :
    Agree P Eq (commitOf id known : Staged σ Commit) (commitOf id known) := by
  cases known with
  | some c => exact agree_pure rfl
  | none => exact agree_during (hP.agree_commit id) _ _

/-- **The same commits are selected** in both runs. -/
theorem agree_select (selection : Selection) :
    Agree P Eq (select selection : Action (World σ) _) (select selection) := by
  cases selection with
  | ids ids => exact agree_pure rfl
  | everything => exact hP.agree_allCommits.bind_eq fun _ => agree_pure rfl
  | reference name =>
    refine hP.agree_references.bind_eq fun refs => ?_
    match selectReference refs name with
    | .error p => exact agree_fail _
    | .ok none => exact (hP.agree_log _ _ _).bind_eq fun _ => agree_pure rfl
    | .ok (some r) => exact (hP.agree_idsOf r).bind_eq fun _ => agree_pure rfl

namespace Twins

variable (h : Twins P Q m m' path)

include h

/-- **The work on one commit** comes to the same in both runs. -/
theorem agree_workOn (id : String) (known : Option Commit) :
    Agree P Eq (m.workOn id known) (m'.workOn id known) := by
  refine (agree_commitOf hP id known).bind_eq fun c => ?_
  refine (agree_during (hP.agree_checkout c.id) _ _).bind_eq fun _ => ?_
  refine (agree_during (h.parses c.id) _ _).bind_eq fun os => ?_
  refine (h.measures c os).bind fun rs rs' hrs => ?_
  refine (agree_during (h.emits id hrs) _ _).bind_eq fun _ => agree_pure ?_
  exact (h.length hrs).symm

theorem agree_mineCommit (failFast : Bool) (id : String) (known : Option Commit) (report : Report) :
    Agree P Eq (m.mineCommit failFast id known report) (m'.mineCommit failFast id known report) := by
  intro w v hwv
  rcases (h.agree_workOn hP id known).cases hwv with
    ⟨n, _, w', v', hw, hv, rfl, hP'⟩ | ⟨setback, w', v', hw, hv, hP'⟩
  · simp only [mineCommit, hw, hv]
    exact ⟨.ok rfl, hP'⟩
  · cases setback with
    | fatal f =>
      simp only [mineCommit, hw, hv]
      exact ⟨.error f, hP'⟩
    | problem stage path p =>
      have hlogged := hP.logged hP' (skipped id stage p)
      simp only [mineCommit, hw, hv]
      split
      · exact ⟨.error _, hlogged⟩
      · exact ⟨.ok rfl, hlogged⟩

theorem agree_reopen : Agree P Eq (m.reopen path) (m'.reopen path) := by
  intro w v hwv
  unfold reopen Session.isOpen
  rw [hP.session hwv]
  split
  · exact ⟨.refl _, hwv⟩
  · exact h.opens _ _ (hP.logged hwv _)

/-- **All commits**, one after the other. -/
theorem agree_mineAll (failFast : Bool) (total : Nat) (known : List Commit) (ids : List String)
    (index : Nat) (report : Report) :
    Agree P Eq (m.mineAll path failFast total known index ids report)
      (m'.mineAll path failFast total known index ids report) := by
  induction ids generalizing index report with
  | nil => exact agree_pure rfl
  | cons id rest ih =>
    refine (h.agree_reopen hP).bind_eq fun _ => ?_
    refine (hP.agree_log _ _ _).bind_eq fun _ => ?_
    exact (h.agree_mineCommit hP failFast id _ report).bind_eq fun report' => ih _ report'

/-- **Whole runs** end in the same way, and in worlds that cannot be told apart. -/
theorem agree_mine (selection : Selection) (failFast : Option Bool) :
    Agree P Eq (m.mine path selection failFast) (m'.mine path selection failFast) := by
  unfold mine
  rw [h.failFast]
  refine h.opens.bind_eq fun _ => Agree.always ?_ hP.closing
  refine (agree_select hP selection).bind_eq fun found => ?_
  refine hP.agree_root.bind ?_
  rintro root _ ⟨rfl, -⟩
  exact (hP.agree_log _ _ _).bind_eq fun _ => h.agree_mineAll hP _ _ _ _ _ _

end Twins

end Runs

end HistoryMetrics.Miner
