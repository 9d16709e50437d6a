import HistoryMetrics.Proofs.Action.Agree
import HistoryMetrics.Repository.History

/-! # What reading a repository does not look at

    Reading the history gives commands, logs them, and remembers the name of the empty tree. So worlds
    that cannot be told apart by these three cannot be told apart by reading the history at all, and it
    leaves them as alike as they were.

    - `agree_perform`: a command that git carries out alike in two worlds
    - `Repository.Blind`: the worlds of a relation cannot be told apart by the three
    - `Repository.Blind.agree_commits`, `Repository.Blind.agree_commitOf`: nor by reading commits
-/

namespace HistoryMetrics

open HistoryMetrics.Action

variable {σ : Type} {P : World σ → World σ → Prop}

/-- The scene after a command. -/
def Scene.afterCommand (s : Scene σ) (git : Git σ) (c : GitCommand) : Scene σ :=
  { s with
    outside := (git.run c s.outside s.disk).2.1
    disk := (git.run c s.outside s.disk).2.2 }

/-- The world after git has carried a command out, before that is noted. -/
def World.afterCommand (w : World σ) (c : GitCommand) : World σ :=
  { w with toScene := w.toScene.afterCommand w.git c }

namespace Repository

/-- **A command comes to the same end** in worlds where git says the same of it. -/
theorem agree_perform {c : GitCommand}
    (hrun : ∀ {w v}, P w v → (v.git.run c v.outside v.disk).1 = (w.git.run c w.outside w.disk).1 ∧
      P (w.afterCommand c) (v.afterCommand c))
    (hhappened : ∀ {w v}, P w v → ∀ e, P (w.happened e) (v.happened e)) :
    Agree P Eq (perform c) (perform c) := by
  intro w v hwv
  obtain ⟨houtcome, hafter⟩ := hrun hwv
  rcases hw : w.git.run c w.outside w.disk with ⟨outcome, outside, disk⟩
  rcases hv : v.git.run c v.outside v.disk with ⟨outcome', outside', disk'⟩
  have hsame : P { w with outside, disk } { v with outside := outside', disk := disk' } := by
    simpa only [World.afterCommand, Scene.afterCommand, hw, hv] using hafter
  obtain rfl : outcome' = outcome := by simpa only [hw, hv] using houtcome
  cases outcome' with
  | finished code output errors =>
    simp only [perform, hw, hv]
    exact ⟨.refl _, hhappened hsame _⟩
  | notStarted mishap =>
    simp only [perform, hw, hv]
    exact ⟨.refl _, hhappened hsame _⟩
  | timedOut =>
    simp only [perform, hw, hv]
    exact ⟨.refl _, hhappened (hhappened hsame _) _⟩
  | interrupted =>
    simp only [perform, hw, hv]
    exact ⟨.refl _, hhappened (hhappened hsame _) _⟩

/-- **Reading a repository cannot tell worlds in relation `P` apart**, as far as single steps go.

    - `logged`, `learned`: nothing that is logged or remembered in both is noticed
    - `emptyTrees`: the same is remembered
    - `perform`: git does the same in both
-/
structure Blind (P : World σ → World σ → Prop) : Prop where
  logged : ∀ {w v}, P w v → ∀ record, P (w.logged record) (v.logged record)
  learned : ∀ {w v}, P w v → ∀ known, P { w with emptyTrees := known :: w.emptyTrees }
    { v with emptyTrees := known :: v.emptyTrees }
  emptyTrees : ∀ {w v}, P w v → v.emptyTrees = w.emptyTrees
  perform : ∀ c, Agree P Eq (perform c) (perform c)

namespace Blind

variable (hP : Blind P)

include hP

theorem agree_log (level : Level) (logger message : String) :
    Agree P Eq (World.log level logger message) (World.log level logger message) :=
  agree_update fun _ _ h => hP.logged h _

variable (r : Repository)

theorem agree_run (arguments : List String) (input : Option String) :
    Agree P Eq (r.run arguments input) (r.run arguments input) := by
  refine (hP.agree_log _ _ _).bind_eq fun _ => ?_
  dsimp only
  split
  · exact agree_fail _
  · exact hP.perform _

/-! ## Changes -/

theorem agree_emptyTree : Agree P Eq r.emptyTree r.emptyTree := by
  intro w v hwv
  simp only [emptyTree, hP.emptyTrees hwv]
  cases w.emptyTrees.lookup r.number with
  | some tree => exact ⟨.ok rfl, hwv⟩
  | none =>
    rcases (hP.agree_run r ["hash-object", "-t", "tree", "--stdin"] (some "")).cases hwv with
      ⟨output, _, w', v', hw, hv, rfl, h'⟩ | ⟨f, w', v', hw, hv, h'⟩
    · simp only [hw, hv]
      exact ⟨.ok rfl, hP.learned h' _⟩
    · simp only [hw, hv]
      exact ⟨.error f, h'⟩

theorem agree_base (parents : List String) : Agree P Eq (r.base parents) (r.base parents) := by
  cases parents with
  | nil => exact hP.agree_emptyTree r
  | cons parent _ => exact agree_pure rfl

theorem agree_listing (commit : String) (parents : List String) :
    Agree P Eq (r.listing commit parents) (r.listing commit parents) :=
  (hP.agree_base r parents).bind_eq fun _ => (hP.agree_run r _ _).bind_eq fun _ => agree_pure rfl

theorem agree_logUnknown (l : StatusList) : Agree P Eq (logUnknown l) (logUnknown l) := by
  refine agree_update fun w v h => ?_
  -- the records are logged one after the other
  induction l.unknowns generalizing w v with
  | nil => exact h
  | cons u us ih => exact ih _ _ (hP.logged h _)

theorem agree_listed (text : String) : Agree P Eq (listed text) (listed text) := by
  refine (hP.agree_logUnknown _).bind_eq fun _ => ?_
  split
  · exact agree_fail _
  · exact agree_pure rfl

theorem agree_withLines (parent commit : String) (c : Change) :
    Agree P Eq (r.withLines parent commit c) (r.withLines parent commit c) :=
  ((hP.agree_run r _ _).renamed _).bind_eq fun _ => agree_ofResult _

theorem agree_changesOf (commit : String) (parents : List String) :
    Agree P Eq (r.changesOf commit parents) (r.changesOf commit parents) := by
  unfold changesOf
  split
  · exact agree_pure rfl
  · refine ((hP.agree_listing r commit parents).renamed _).bind_eq fun found => ?_
    exact (hP.agree_listed found.2).bind_eq fun changes =>
      .forEach fun c _ => hP.agree_withLines r _ commit c

/-! ## The history -/

theorem agree_records (selection : List String) :
    Agree P Eq (r.records selection) (r.records selection) :=
  ((hP.agree_run r _ _).renamed _).bind_eq fun _ => agree_pure rfl

/-- **Reading one commit.** -/
theorem agree_commitOf (record : List Char) :
    Agree P Eq (r.commitOf record) (r.commitOf record) :=
  (agree_ofResult _).bind_eq fun _ => (hP.agree_changesOf r _ _).bind_eq fun _ => agree_pure rfl

/-- **Reading commits.** -/
theorem agree_commits (selection : List String) :
    Agree P Eq (r.commits selection) (r.commits selection) :=
  (hP.agree_records r selection).bind_eq fun _ => .forEach fun c _ => hP.agree_commitOf r c

end Blind

end Repository

end HistoryMetrics
