import HistoryMetrics.Mining.Sink
import HistoryMetrics.Proofs.Repository.Blind
import HistoryMetrics.Repository.Session

/-! # What a session does not look at

    A session opens and closes a repository, asks a helper about objects, looks for a lock and removes it,
    and reads the history. Worlds in which each of these steps comes to the same cannot be told apart by
    any operation of the session. What is held while the repository is open may be asked to have a
    property; then it is enough that the steps come to the same for a repository with this property.

    - `Session.Blind`: the worlds of a relation cannot be told apart by single steps of a session
    - `Session.Blind.agree_operation`: one operation
    - `Session.Blind.agree_open`, `Session.Blind.agree_commit`, ...: the operations of a session
-/

namespace HistoryMetrics

open HistoryMetrics.Action

variable {σ α β : Type}

namespace Session

theorem agree_acquire {P : World σ → World σ → Prop} (hP : Repository.Blind P)
    (hstart : ∀ root, Agree P Eq (Helper.start root) (Helper.start root)) (r : Repository) :
    Agree P Eq (acquire r) (acquire r) :=
  (hP.agree_run r _ _).bind_eq fun _ => (hstart _).bind_eq fun _ => agree_pure rfl

/-- **A session cannot tell worlds in relation `P` apart**, as far as single steps go.

    - `here`, `session`, `helpers`: the same is found in both
    - `ask`, `answering`, `shut`: the helper does the same in both
    - `found`, `acquired`: so do the steps that open a repository in a folder with the property `Good`,
      and what is then held has the property `Held`
    - `held`, `opened`: what is held always has this property, and may be replaced by what has it
    - `locked`, `removeLock`: the lock of what is held is the same in both
-/
structure Blind (Good : Path → Prop) (Held : Handles → Prop) (P : World σ → World σ → Prop) : Prop
    extends Repository.Blind P where
  here : ∀ {w v}, P w v → v.here = w.here
  session : ∀ {w v}, P w v → v.session = w.session
  helpers : ∀ {w v}, P w v → v.helpers = w.helpers
  ask : ∀ helper name, Agree P Eq (Helper.ask helper name) (Helper.ask helper name)
  answering : ∀ {w v}, P w v → ∀ helper,
    (Helper.isLive v helper && v.git.isRunning helper v.outside) =
      (Helper.isLive w helper && w.git.isRunning helper w.outside)
  shut : ∀ {w v}, P w v → ∀ helper,
    (Helper.closing helper { w with session := none }).1 =
        (Helper.closing helper { v with session := none }).1 ∧
      P (Helper.closing helper { w with session := none }).2
        (Helper.closing helper { v with session := none }).2
  found : ∀ {w v}, P w v → ∀ root, Good root →
    v.disk.isThere v.here (root.child ".git") = w.disk.isThere w.here (root.child ".git")
  acquired : ∀ r, Good r.root → Agree P (fun h h' => h' = h ∧ Held h) (acquire r) (acquire r)
  held : ∀ {w v}, P w v → ∀ h, w.session = some h → Held h
  opened : ∀ {w v}, P w v → ∀ h, Held h → P { w with session := some h } { v with session := some h }
  locked : ∀ {w v}, P w v → ∀ h, Held h →
    v.disk.isThere v.here (lockOf h) = w.disk.isThere w.here (lockOf h)
  removeLock : ∀ h id, Held h →
    Agree P Eq (removeLock id (lockOf h)) (removeLock id (lockOf h))

namespace Blind

variable {Good : Path → Prop} {Held : Handles → Prop} {P : World σ → World σ → Prop} {Q : α → β → Prop}
  (hP : Blind Good Held P)

include hP

theorem agree_info (helper : Nat) (name : String) :
    Agree P Eq (Helper.info helper name) (Helper.info helper name) := by
  intro w v hwv
  unfold Helper.info
  rw [hP.answering hwv]
  split
  · exact ⟨.refl _, hwv⟩
  · split
    · exact hP.ask helper name w v hwv
    · exact ⟨.refl _, hwv⟩

/-! ### Operations -/

/-- **Closing comes to the same**: the same goes wrong with it. -/
theorem closing : TidiesAlike P (Session.closing : Tidying (World σ)) := by
  intro w v h
  unfold Session.closing
  rw [hP.session h]
  cases w.session with
  | none => exact ⟨rfl, h⟩
  | some held =>
    obtain ⟨hfailure, hP'⟩ := hP.shut h held.helper
    rcases hw : Helper.closing held.helper { w with session := none } with ⟨failure, w'⟩
    rcases hv : Helper.closing held.helper { v with session := none } with ⟨failure', v'⟩
    simp only [hw, hv] at hfailure hP' ⊢
    subst hfailure
    cases failure with
    | none => exact ⟨rfl, hP.logged hP' _⟩
    | some f => exact ⟨rfl, hP'⟩

theorem failing (name : String) (f : Failure) : TidiesAlike P (Session.failing name f) :=
  fun _ _ h => hP.closing _ _ (hP.logged h _)

/-- The same is held in both worlds, and it has the property that is asked for. -/
theorem agree_handles (name : String) :
    Agree P (fun h h' => h' = h ∧ Held h) (handles name) (handles name) := by
  intro w v hwv
  unfold handles
  rw [hP.session hwv]
  cases hs : w.session with
  | none => exact ⟨.error _, hwv⟩
  | some h => exact ⟨.ok ⟨rfl, hP.held hwv h hs⟩, hwv⟩

/-- **An operation comes to the same** if its body does for whatever is held. -/
theorem agree_operation (name : String) {body : Handles → Action (World σ) α}
    {body' : Handles → Action (World σ) β} (hbody : ∀ h, Held h → Agree P Q (body h) (body' h)) :
    Agree P Q (operation name body) (operation name body') := by
  refine (hP.agree_handles name).bind ?_
  rintro h _ ⟨rfl, hheld⟩
  exact (hbody _ hheld).guarded (hP.failing name)

/-- The folder of the repository is that of what is held. -/
theorem agree_root :
    Agree P (fun folder folder' => folder' = folder ∧ ∃ h, Held h ∧ h.root = folder)
      (root : Action (World σ) Path) root := by
  refine (hP.agree_handles _).bind ?_
  rintro h _ ⟨rfl, hheld⟩
  exact agree_pure ⟨rfl, _, hheld, rfl⟩

/-! ### Opening -/

theorem agree_rootOf {path : Path} (hpath : ∀ {w v}, P w v → Good (.resolved w.here path)) :
    Agree P (fun root root' => root' = root ∧ Good root) (rootOf path) (rootOf path) := by
  intro w v hwv
  unfold rootOf
  rw [hP.here hwv]
  split
  · exact ⟨.error _, hwv⟩
  · exact ⟨.ok ⟨rfl, hpath hwv⟩, hwv⟩

theorem agree_requireRepository {root : Path} (hroot : Good root) :
    Agree P Eq (requireRepository root) (requireRepository root) := by
  intro w v hwv
  unfold requireRepository
  rw [hP.found hwv root hroot]
  split
  · exact ⟨.refl _, hwv⟩
  · exact ⟨.refl _, hwv⟩
  · exact ⟨.refl _, hwv⟩

theorem agree_newRepository (root : Path) (timeout threshold : Value) :
    Agree P (fun r r' => r' = r ∧ r.root = root) (newRepository root timeout threshold)
      (newRepository root timeout threshold) := by
  refine agree_read fun w v hwv => ?_
  rw [hP.helpers hwv]
  exact ⟨rfl, rfl⟩

theorem agree_openClosed {path : Path} (timeout threshold : Value)
    (hpath : ∀ {w v}, P w v → Good (.resolved w.here path)) :
    Agree P Eq (openClosed path timeout threshold) (openClosed path timeout threshold) := by
  refine (hP.agree_rootOf hpath).bind ?_
  rintro root _ ⟨rfl, hroot⟩
  refine (hP.agree_requireRepository hroot).bind_eq fun _ => ?_
  refine (hP.agree_newRepository _ timeout threshold).bind ?_
  rintro r _ ⟨rfl, rfl⟩
  refine ((hP.acquired _ hroot).renamed _).bind ?_
  rintro h _ ⟨rfl, hheld⟩
  refine agree_update fun w v hwv => ?_
  exact hP.logged (hP.opened hwv _ hheld) _

/-- **Opening a repository** in a folder that has the property. -/
theorem agree_open {path : Path} (timeout threshold : Value)
    (hpath : ∀ {w v}, P w v → Good (.resolved w.here path)) :
    Agree P Eq (Session.open path timeout threshold) (Session.open path timeout threshold) := by
  intro w v hwv
  unfold Session.open isOpen
  rw [hP.session hwv]
  split
  · exact ⟨.refl _, hwv⟩
  · exact hP.agree_openClosed timeout threshold hpath w v hwv

/-! ### Reading -/

theorem agree_references : Agree P Eq (references : Action (World σ) _) references := by
  refine hP.agree_operation _ fun h _ => ?_
  exact ((hP.agree_run h.toRepository _ _).renamed _).bind_eq fun _ => agree_pure rfl

theorem agree_allCommits : Agree P Eq (commits : Action (World σ) _) commits :=
  hP.agree_operation _ fun h _ => hP.agree_commits h.toRepository _

theorem agree_commit (id : String) : Agree P Eq (commit id) (commit id) := by
  refine hP.agree_operation _ fun h _ => ?_
  refine (hP.agree_commits h.toRepository _).bind_eq fun found => ?_
  cases found with
  | nil => exact agree_fail _
  | cons c _ => exact agree_pure rfl

theorem agree_peel (h : Handles) (name : String) : Agree P Eq (peel h name) (peel h name) :=
  ((hP.agree_info _ _).renamed _).bind_eq fun _ => agree_pure rfl

theorem agree_startOf (h : Handles) (r : Reference) : Agree P Eq (startOf h r) (startOf h r) := by
  unfold startOf
  split
  · split
    · exact hP.agree_peel h r.path
    · exact agree_pure rfl
  · exact hP.agree_peel h r.path

theorem agree_idsOf (r : Reference) : Agree P Eq (idsOf r) (idsOf r) := by
  refine hP.agree_operation _ fun h _ => (hP.agree_startOf h r).bind_eq fun start => ?_
  cases start with
  | none => exact (hP.agree_log _ _ _).bind_eq fun _ => agree_pure rfl
  | some start =>
    exact ((hP.agree_run h.toRepository _ _).renamed _).bind_eq fun _ => agree_pure rfl

/-! ### The working tree -/

theorem agree_clearLock {h : Handles} (hheld : Held h) (id : String) :
    Agree P Eq (clearLock h id) (clearLock h id) := by
  have hlocked : Agree P Eq (isLocked h : Action (World σ) Bool) (isLocked h) := by
    intro w v hwv
    unfold isLocked
    rw [hP.locked hwv h hheld]
    exact ⟨.refl _, hwv⟩
  refine hlocked.bind_eq fun isLocked => ?_
  split
  · exact (hP.agree_log _ _ _).bind_eq fun _ => hP.removeLock h id hheld
  · exact agree_pure rfl

theorem agree_resolveCommit (h : Handles) (id : String) :
    Agree P Eq (resolveCommit h id) (resolveCommit h id) := by
  refine ((hP.agree_info _ _).renamed _).bind_eq fun found => ?_
  cases found with
  | none => exact agree_fail _
  | some info => exact agree_pure rfl

theorem agree_checkout (id : String) : Agree P Eq (checkout id) (checkout id) := by
  refine hP.agree_operation _ fun h hheld => ?_
  refine (hP.agree_clearLock hheld id).bind_eq fun _ => ?_
  refine (hP.agree_resolveCommit h id).bind_eq fun _ => ?_
  exact ((hP.agree_run h.toRepository _ _).renamed _).bind_eq fun _ => hP.agree_log _ _ _

theorem agree_files (id : String) : Agree P Eq (files id) (files id) := by
  refine hP.agree_operation _ fun h _ => ?_
  exact ((hP.agree_run h.toRepository _ _).renamed _).bind_eq fun _ => agree_pure rfl

end Blind

end Session

end HistoryMetrics
