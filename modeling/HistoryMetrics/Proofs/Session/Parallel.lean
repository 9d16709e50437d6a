import HistoryMetrics.Proofs.Session.Beside

/-! # Two worlds side by side

    Two runs of the program that differ in what they log see the same of the world, if those who work
    for the program take no notice of its log. What they take no notice of is any relation `R` between
    scenes: scenes in relation `R` look alike to them, and what they do keeps the relation.

    - `Git.Overlooks`: git and the disk take no notice of what tells two scenes apart
    - `Parallel`: worlds that look alike, in one of which smells are left out of what was handed over
    - `blind_parallel`: a session cannot tell them apart
    - `Git.overlooks_sameButJournal`: the journal is not noticed by any git
-/

namespace HistoryMetrics

open HistoryMetrics.Action

variable {σ α : Type}

/-! ## Records without smells -/

/-- A record without its smells. -/
def TypeRecord.withoutSmells (r : TypeRecord) : TypeRecord := { r with smells := [] }

/-- What is handed over, without smells. -/
def Emission.withoutSmells : Emission → Emission
  | .commit c => .commit c
  | .record r => .record r.withoutSmells

/-! ## Scenes that look alike -/

/-- **Git and the disk take no notice of what tells two scenes apart**, and neither does the log.

    - `logged_left`, `logged_right`: one more record in the log of one of them is not noticed
    - `here`, `isThere`, `removes`: the program finds the same on both disks
    - `run`, `starts`, `isRunning`, `answers`, `sends`, `ends`: git does the same in both
-/
structure Git.Overlooks (git : Git σ) (R : Scene σ → Scene σ → Prop) : Prop where
  logged_left : ∀ {s t}, R s t → ∀ r, R (s.logged r) t
  logged_right : ∀ {s t}, R s t → ∀ r, R s (t.logged r)
  here : ∀ {s t}, R s t → s.here = t.here
  isThere : ∀ {s t}, R s t → ∀ p, s.disk.isThere s.here p = t.disk.isThere t.here p
  removes : ∀ {s t}, R s t → ∀ p, SameEnd R (s.removing p) (t.removing p)
  run : ∀ {s t}, R s t → ∀ c, (git.run c s.outside s.disk).1 = (git.run c t.outside t.disk).1 ∧
    R (s.afterCommand git c) (t.afterCommand git c)
  starts : ∀ {s t}, R s t → ∀ n root,
    (git.startHelper n root s.outside).1 = (git.startHelper n root t.outside).1 ∧
      R { s with outside := (git.startHelper n root s.outside).2 }
        { t with outside := (git.startHelper n root t.outside).2 }
  isRunning : ∀ {s t}, R s t → ∀ n, git.isRunning n s.outside = git.isRunning n t.outside
  answers : ∀ {s t}, R s t → ∀ n name,
    (git.ask n name s.outside).1 = (git.ask n name t.outside).1 ∧
      R { s with outside := (git.ask n name s.outside).2 }
        { t with outside := (git.ask n name t.outside).2 }
  sends : ∀ {s t}, R s t → ∀ n, (git.sendRest n s.outside).1 = (git.sendRest n t.outside).1 ∧
    R { s with outside := (git.sendRest n s.outside).2 }
      { t with outside := (git.sendRest n t.outside).2 }
  ends : ∀ {s t}, R s t → ∀ n, (git.endHelper n s.outside).1 = (git.endHelper n t.outside).1 ∧
    R { s with outside := (git.endHelper n s.outside).2 }
      { t with outside := (git.endHelper n t.outside).2 }

/-! ## Worlds that look alike -/

/-- **The second world is the first one, but for what is overlooked and for smells.** Before both of
    them `base` had been handed over; what was handed over since then has no smells in the second. -/
def Parallel (R : Scene σ → Scene σ → Prop) (git : Git σ) (base : List Emission) (w v : World σ) :
    Prop :=
  ∃ t new, w.git = git ∧ R w.toScene t ∧ w.accepted = base ++ new ∧
    v = { w with toScene := t, accepted := base ++ new.map Emission.withoutSmells }

variable {R : Scene σ → Scene σ → Prop} {git : Git σ} {base : List Emission}

/-- Worlds that look alike are worlds beside each other. -/
theorem parallel_eq_beside (R : Scene σ → Scene σ → Prop) (git : Git σ) (base : List Emission) :
    Parallel R git base =
      Beside (fun _ => R) (List.map Emission.withoutSmells) (fun _ => True) git base := by
  funext w v
  apply propext
  constructor
  · rintro ⟨t, new, hgit, hst, hnew, rfl⟩
    exact ⟨hgit, fun _ _ => trivial, t, new, hst, hnew, rfl⟩
  · rintro ⟨hgit, -, t, new, hst, hnew, rfl⟩
    exact ⟨t, new, hgit, hst, hnew, rfl⟩

namespace Parallel

/-- The same was done to git in both of them. -/
theorem events_eq {w v : World σ} (h : Parallel R git base w v) : v.events = w.events := by
  rw [parallel_eq_beside] at h
  exact h.events_eq

theorem scene {w v : World σ} (h : Parallel R git base w v) : R w.toScene v.toScene := by
  obtain ⟨t, new, -, ht, -, rfl⟩ := h
  exact ht

/-- The scenes of two worlds may change, if they look alike afterwards. -/
theorem withScene {w v : World σ} (h : Parallel R git base w v) {s t : Scene σ} (hst : R s t) :
    Parallel R git base { w with toScene := s } { v with toScene := t } := by
  obtain ⟨_, new, hgit, -, hnew, rfl⟩ := h
  exact ⟨t, new, hgit, hst, hnew, rfl⟩

end Parallel

/-- A step on the scenes is one on the worlds. -/
theorem Action.Agree.onScene {β : Type} {Q : α → β → Prop} {step : Action (Scene σ) α}
    {step' : Action (Scene σ) β} (h : Agree R Q step step') :
    Agree (Parallel R git base) Q (World.onScene step) (World.onScene step') := by
  rw [parallel_eq_beside]
  exact agree_onScene fun _ => h

section Overlooks

variable (hR : git.Overlooks R)

include hR

theorem Git.Overlooks.logged {s t : Scene σ} (h : R s t) (r : LogRecord) :
    R (s.logged r) (t.logged r) :=
  hR.logged_left (hR.logged_right h r) r

/-- What is overlooked is not noticed in single steps, in whatever folder and whatever is held. -/
theorem Git.Overlooks.blind : Scene.Blind git (fun _ => True) (fun _ => True) R where
  logged h r := hR.logged h r
  here h := (hR.here h).symm
  found h _ _ := (hR.isThere h _).symm
  locked h _ _ := (hR.isThere h _).symm
  removes h _ _ := hR.removes h _
  run h c := ⟨(hR.run h c).1.symm, (hR.run h c).2⟩
  starts h n root := ⟨(hR.starts h n root).1.symm, (hR.starts h n root).2⟩
  isRunning h n := (hR.isRunning h n).symm
  answers h n name := ⟨(hR.answers h n name).1.symm, (hR.answers h n name).2⟩
  sends h n := ⟨(hR.sends h n).1.symm, (hR.sends h n).2⟩
  ends h n := ⟨(hR.ends h n).1.symm, (hR.ends h n).2⟩
  acquired _ _ _ _ := trivial

/-- **A session takes no notice** of what is overlooked. -/
theorem blind_parallel :
    Session.Blind (fun _ => True) (fun _ => True) (Parallel R git base) := by
  rw [parallel_eq_beside]
  exact blind_beside fun _ => hR.blind

end Overlooks

/-! ## The journal -/

/-- **Scenes that differ in the journal only**, in which no log record is written to a file. -/
def SameButJournal (s t : Scene σ) : Prop :=
  (∀ h ∈ s.logging.handlers, ∀ p, h.target ≠ .file p) ∧ ∃ journal, t = { s with journal }

theorem Scene.logged_of_no_file {s : Scene σ}
    (h : ∀ h ∈ s.logging.handlers, ∀ p, h.target ≠ .file p) (r : LogRecord) :
    ∃ journal, s.logged r = { s with journal } := by
  have hdisk : (s.logging.receivers r).foldl (Logging.written s.time r s.here) s.disk = s.disk := by
    refine List.foldlRecOn (motive := fun d => d = s.disk) _ _ rfl fun d hd handler hmem => ?_
    have hhandler : handler ∈ s.logging.handlers := by
      unfold Logging.receivers at hmem
      split at hmem
      · exact (List.mem_filter.1 hmem).1
      · exact absurd hmem List.not_mem_nil
    rw [hd, Logging.written]
    cases htarget : handler.target with
    | console => rfl
    | foreign name => rfl
    | file p => exact absurd htarget (h handler hhandler p)
  unfold Scene.logged
  split
  · rw [hdisk]
    exact ⟨_, rfl⟩
  · exact ⟨s.journal, rfl⟩

/-- **No git takes notice of the journal.** -/
theorem Git.overlooks_sameButJournal (git : Git σ) : git.Overlooks SameButJournal where
  logged_left := by
    rintro s _ ⟨hfiles, journal, rfl⟩ r
    obtain ⟨j, hj⟩ := Scene.logged_of_no_file hfiles r
    rw [hj]
    exact ⟨hfiles, journal, rfl⟩
  logged_right := by
    rintro s _ ⟨hfiles, journal, rfl⟩ r
    obtain ⟨j, hj⟩ := Scene.logged_of_no_file (s := { s with journal }) hfiles r
    rw [hj]
    exact ⟨hfiles, j, rfl⟩
  here := by
    rintro s _ ⟨-, journal, rfl⟩
    rfl
  isThere := by
    rintro s _ ⟨-, journal, rfl⟩ p
    rfl
  removes := by
    rintro s _ ⟨hfiles, journal, rfl⟩ p
    simp only [Scene.removing]
    cases s.disk.remove s.here p with
    | error e => exact .error e
    | ok disk => exact .ok ⟨hfiles, journal, rfl⟩
  run := by
    rintro s _ ⟨hfiles, journal, rfl⟩ c
    exact ⟨rfl, hfiles, journal, rfl⟩
  starts := by
    rintro s _ ⟨hfiles, journal, rfl⟩ n root
    exact ⟨rfl, hfiles, journal, rfl⟩
  isRunning := by
    rintro s _ ⟨-, journal, rfl⟩ n
    rfl
  answers := by
    rintro s _ ⟨hfiles, journal, rfl⟩ n name
    exact ⟨rfl, hfiles, journal, rfl⟩
  sends := by
    rintro s _ ⟨hfiles, journal, rfl⟩ n
    exact ⟨rfl, hfiles, journal, rfl⟩
  ends := by
    rintro s _ ⟨hfiles, journal, rfl⟩ n
    exact ⟨rfl, hfiles, journal, rfl⟩

end HistoryMetrics
