import HistoryMetrics.Proofs.Session.Blind

/-! # Worlds beside each other

    Two runs may differ in their scenes and in what they hand over, and in nothing else. How their scenes
    differ may depend on what has been handed over so far. If each single step of git, of the log and of
    the lock keeps the scenes related, then a session cannot tell the two worlds apart.

    - `Scene.Blind`: single steps keep the scenes of a relation related
    - `Beside`: the two worlds
    - `blind_beside`: a session cannot tell them apart
-/

namespace HistoryMetrics

open HistoryMetrics.Action

variable {σ α β : Type}

namespace Scene

/-- The scene after a file has been removed, if it can be. -/
def removing (s : Scene σ) (p : Path) : Except PathFault (Scene σ) :=
  (s.disk.remove s.here p).map fun disk => { s with disk }

/-- **Single steps keep scenes in relation `R` related**, and come to the same in both.

    - `logged`: the same record in the log of both
    - `here`, `found`, `locked`, `removes`: the program finds the same on both disks
    - `run`, `starts`, `isRunning`, `answers`, `sends`, `ends`: git does the same in both
    - `acquired`: what is held after a repository has been opened has the property `Held`
-/
structure Blind (git : Git σ) (Good : Path → Prop) (Held : Handles → Prop)
    (R : Scene σ → Scene σ → Prop) : Prop where
  logged : ∀ {s t}, R s t → ∀ r, R (s.logged r) (t.logged r)
  here : ∀ {s t}, R s t → t.here = s.here
  found : ∀ {s t}, R s t → ∀ root, Good root →
    t.disk.isThere t.here (root.child ".git") = s.disk.isThere s.here (root.child ".git")
  locked : ∀ {s t}, R s t → ∀ h, Held h →
    t.disk.isThere t.here (Session.lockOf h) = s.disk.isThere s.here (Session.lockOf h)
  removes : ∀ {s t}, R s t → ∀ h, Held h →
    SameEnd R (s.removing (Session.lockOf h)) (t.removing (Session.lockOf h))
  run : ∀ {s t}, R s t → ∀ c, (git.run c t.outside t.disk).1 = (git.run c s.outside s.disk).1 ∧
    R (s.afterCommand git c) (t.afterCommand git c)
  starts : ∀ {s t}, R s t → ∀ n root,
    (git.startHelper n root t.outside).1 = (git.startHelper n root s.outside).1 ∧
      R { s with outside := (git.startHelper n root s.outside).2 }
        { t with outside := (git.startHelper n root t.outside).2 }
  isRunning : ∀ {s t}, R s t → ∀ n, git.isRunning n t.outside = git.isRunning n s.outside
  answers : ∀ {s t}, R s t → ∀ n name,
    (git.ask n name t.outside).1 = (git.ask n name s.outside).1 ∧
      R { s with outside := (git.ask n name s.outside).2 }
        { t with outside := (git.ask n name t.outside).2 }
  sends : ∀ {s t}, R s t → ∀ n, (git.sendRest n t.outside).1 = (git.sendRest n s.outside).1 ∧
    R { s with outside := (git.sendRest n s.outside).2 }
      { t with outside := (git.sendRest n t.outside).2 }
  ends : ∀ {s t}, R s t → ∀ n, (git.endHelper n t.outside).1 = (git.endHelper n s.outside).1 ∧
    R { s with outside := (git.endHelper n s.outside).2 }
      { t with outside := (git.endHelper n t.outside).2 }
  acquired : ∀ {w w' : World σ} {t r h}, w.git = git → R w.toScene t → Good r.root →
    Session.acquire r w = (.ok h, w') → Held h

end Scene

/-- **Two worlds beside each other.** Their scenes are in a relation that may depend on what has been
    handed over since `base`; what the second one hands over is made of what the first one does. All else
    is the same, and what is held while a repository is open has the property `Held`. -/
def Beside (R : List Emission → Scene σ → Scene σ → Prop)
    (change : List Emission → List Emission) (Held : Handles → Prop) (git : Git σ)
    (base : List Emission) (w v : World σ) : Prop :=
  w.git = git ∧ (∀ h, w.session = some h → Held h) ∧ ∃ t new, R new w.toScene t ∧
    w.accepted = base ++ new ∧ v = { w with toScene := t, accepted := base ++ change new }

variable {R : List Emission → Scene σ → Scene σ → Prop} {change : List Emission → List Emission}
  {Good : Path → Prop} {Held : Handles → Prop} {git : Git σ} {base : List Emission}

namespace Beside

variable {w v : World σ} (h : Beside R change Held git base w v)

include h

theorem session_eq : v.session = w.session := by
  obtain ⟨-, -, t, new, -, -, rfl⟩ := h
  rfl

/-- The same was done to git in both of them. -/
theorem events_eq : v.events = w.events := by
  obtain ⟨-, -, t, new, -, -, rfl⟩ := h
  rfl

theorem happened (e : GitEvent) : Beside R change Held git base (w.happened e) (v.happened e) := by
  obtain ⟨hgit, hheld, t, new, hst, hnew, rfl⟩ := h
  exact ⟨hgit, hheld, t, new, hst, hnew, rfl⟩

/-- The scenes may change, if they are related afterwards whatever has been handed over. -/
theorem withScene {s t : Scene σ} (hst : ∀ new, R new w.toScene v.toScene → R new s t) :
    Beside R change Held git base { w with toScene := s } { v with toScene := t } := by
  obtain ⟨hgit, hheld, _, new, hscene, hnew, rfl⟩ := h
  exact ⟨hgit, hheld, t, new, hst new hscene, hnew, rfl⟩

end Beside

/-- A step on the scenes is one on the worlds. -/
theorem agree_onScene {Q : α → β → Prop} {step : Action (Scene σ) α} {step' : Action (Scene σ) β}
    (hstep : ∀ new, Agree (R new) Q step step') :
    Agree (Beside R change Held git base) Q (World.onScene step) (World.onScene step') := by
  rintro w _ ⟨hgit, hheld, t, new, hst, hnew, rfl⟩
  obtain ⟨hend, hscene⟩ := hstep new _ _ hst
  exact ⟨hend, hgit, hheld, _, new, hscene, hnew, rfl⟩

section Blind

variable (hR : ∀ new, Scene.Blind git Good Held (R new))

include hR

theorem Beside.logged {w v : World σ} (h : Beside R change Held git base w v) (r : LogRecord) :
    Beside R change Held git base (w.logged r) (v.logged r) :=
  h.withScene fun new hst => (hR new).logged hst r

theorem agree_perform_beside (c : GitCommand) :
    Agree (Beside R change Held git base) Eq (Repository.perform c) (Repository.perform c) := by
  refine Repository.agree_perform ?_ fun h e => h.happened e
  rintro w _ ⟨rfl, hheld, t, new, hst, hnew, rfl⟩
  obtain ⟨houtcome, hscene⟩ := (hR new).run hst c
  exact ⟨houtcome, rfl, hheld, _, new, hscene, hnew, rfl⟩

theorem reading_beside : Repository.Blind (Beside R change Held git base) where
  logged h record := h.logged hR record
  learned := by
    rintro w _ ⟨hgit, hheld, t, new, hst, hnew, rfl⟩ known
    exact ⟨hgit, hheld, t, new, hst, hnew, rfl⟩
  emptyTrees := by
    rintro w _ ⟨-, -, t, new, -, -, rfl⟩
    rfl
  perform := agree_perform_beside hR

namespace Helper

theorem agree_ask_beside (helper : Nat) (name : String) :
    Agree (Beside R change Held git base) Eq (ask helper name) (ask helper name) := by
  rintro w _ ⟨rfl, hheld, t, new, hst, hnew, rfl⟩
  obtain ⟨hanswer, hscene⟩ := (hR new).answers hst helper name
  rcases hw : w.git.ask helper name w.outside with ⟨answer, x⟩
  rcases hv : w.git.ask helper name t.outside with ⟨answer', x'⟩
  simp only [hw, hv] at hanswer hscene
  subst hanswer
  simp only [ask, hw, hv]
  cases answer' with
  | error m => exact ⟨.refl _, rfl, hheld, _, new, hscene, hnew, rfl⟩
  | ok line => exact ⟨.refl _, rfl, hheld, _, new, hscene, hnew, rfl⟩

theorem agree_start_beside (root : Path) :
    Agree (Beside R change Held git base) Eq (start root) (start root) := by
  rintro w _ ⟨rfl, hheld, t, new, hst, hnew, rfl⟩
  obtain ⟨hmishap, hscene⟩ := (hR new).starts hst w.helpers root
  rcases hw : w.git.startHelper w.helpers root w.outside with ⟨mishap, x⟩
  rcases hv : w.git.startHelper w.helpers root t.outside with ⟨mishap', x'⟩
  simp only [hw, hv] at hmishap hscene
  subst hmishap
  simp only [start, hw, hv]
  cases mishap' with
  | none => exact ⟨.refl _, rfl, hheld, _, new, hscene, hnew, rfl⟩
  | some m => exact ⟨.refl _, rfl, hheld, _, new, hscene, hnew, rfl⟩

theorem sendRest_beside (helper : Nat) {w v : World σ} (h : Beside R change Held git base w v) :
    (sendRest helper w).1 = (sendRest helper v).1 ∧
      Beside R change Held git base (sendRest helper w).2 (sendRest helper v).2 := by
  obtain ⟨rfl, hheld, t, new, hst, hnew, rfl⟩ := h
  obtain ⟨hmishap, hscene⟩ := (hR new).sends hst helper
  unfold sendRest
  dsimp only
  split
  · exact ⟨hmishap.symm, rfl, hheld, _, new, hscene, hnew, rfl⟩
  · exact ⟨rfl, rfl, hheld, t, new, hst, hnew, rfl⟩

theorem await_beside (helper : Nat) {w v : World σ} (h : Beside R change Held git base w v) :
    Beside R change Held git base (await helper w) (await helper v) := by
  obtain ⟨rfl, hheld, t, new, hst, hnew, rfl⟩ := h
  obtain ⟨htime, hscene⟩ := (hR new).ends hst helper
  unfold await
  dsimp only
  rw [htime]
  split
  · exact ⟨rfl, hheld, _, new, hscene, hnew, rfl⟩
  · exact ⟨rfl, hheld, _, new, hscene, hnew, rfl⟩

/-- **Closing a helper**: the same goes wrong in both worlds. -/
theorem closing_beside (helper : Nat) {w v : World σ} (h : Beside R change Held git base w v) :
    (closing helper w).1 = (closing helper v).1 ∧
      Beside R change Held git base (closing helper w).2 (closing helper v).2 := by
  have hlive : isLive v helper = isLive w helper := by
    obtain ⟨-, -, t, new, -, -, rfl⟩ := h
    rfl
  unfold closing
  rw [hlive]
  split
  · obtain ⟨hmishap, hsent⟩ := sendRest_beside hR helper h
    rcases hw : sendRest helper w with ⟨mishap, w'⟩
    rcases hv : sendRest helper v with ⟨mishap', v'⟩
    simp only [hw, hv] at hmishap hsent ⊢
    subst hmishap
    have hforgotten : Beside R change Held git base
        ({ w' with liveHelpers := w'.liveHelpers.erase helper }.happened (.helperClosed helper))
        ({ v' with liveHelpers := v'.liveHelpers.erase helper }.happened (.helperClosed helper)) := by
      obtain ⟨hgit, hheld, t, new, hst, hnew, rfl⟩ := hsent
      exact ⟨hgit, hheld, t, new, hst, hnew, rfl⟩
    cases mishap with
    | some m => exact ⟨rfl, hforgotten⟩
    | none => exact ⟨rfl, await_beside hR helper hforgotten⟩
  · exact ⟨rfl, h⟩

end Helper

theorem agree_removeLock_beside (h : Handles) (id : String) (hheld : Held h) :
    Agree (Beside R change Held git base) Eq (Session.removeLock id (Session.lockOf h))
      (Session.removeLock id (Session.lockOf h)) := by
  rintro w _ ⟨hgit, hsession, t, new, hst, hnew, rfl⟩
  have hremoved := (hR new).removes hst h hheld
  simp only [Scene.removing] at hremoved
  cases hw : w.disk.remove w.here (Session.lockOf h) with
  | error e =>
    cases hv : t.disk.remove t.here (Session.lockOf h) with
    | error e' =>
      simp only [hw, hv, Except.map] at hremoved
      cases hremoved
      simp only [Session.removeLock, hw, hv]
      exact ⟨.refl _, hgit, hsession, t, new, hst, hnew, rfl⟩
    | ok disk' =>
      simp only [hw, hv, Except.map] at hremoved
      cases hremoved
  | ok disk =>
    cases hv : t.disk.remove t.here (Session.lockOf h) with
    | error e' =>
      simp only [hw, hv, Except.map] at hremoved
      cases hremoved
    | ok disk' =>
      simp only [hw, hv, Except.map] at hremoved
      cases hremoved with
      | ok hscene =>
        simp only [Session.removeLock, hw, hv]
        exact ⟨.ok rfl, hgit, hsession, _, new, hscene, hnew, rfl⟩

/-- What is held after a repository has been opened is the same in both worlds. -/
theorem agree_acquire_beside (r : Repository) (hr : Good r.root) :
    Agree (Beside R change Held git base) (fun h h' => h' = h ∧ Held h) (Session.acquire r)
      (Session.acquire r) := by
  refine (Session.agree_acquire (reading_beside hR) (Helper.agree_start_beside hR) r).returning ?_
  rintro w _ h w' ⟨hgit, -, t, new, hst, -, -⟩ hacquire
  exact (hR new).acquired hgit hst hr hacquire

/-- **A session cannot tell two worlds beside each other apart.** -/
theorem blind_beside : Session.Blind Good Held (Beside R change Held git base) where
  toBlind := reading_beside hR
  here := by
    rintro w _ ⟨-, -, t, new, hst, -, rfl⟩
    exact (hR new).here hst
  session h := h.session_eq
  helpers := by
    rintro w _ ⟨-, -, t, new, -, -, rfl⟩
    rfl
  ask := Helper.agree_ask_beside hR
  answering := by
    rintro w _ ⟨rfl, -, t, new, hst, -, rfl⟩ helper
    simp only [Helper.isLive, (hR new).isRunning hst]
  shut := by
    rintro w _ ⟨hgit, -, t, new, hst, hnew, rfl⟩ helper
    refine Helper.closing_beside hR helper ⟨hgit, ?_, t, new, hst, hnew, rfl⟩
    intro h hnone
    cases hnone
  found := by
    rintro w _ ⟨-, -, t, new, hst, -, rfl⟩ root hroot
    exact (hR new).found hst root hroot
  acquired := agree_acquire_beside hR
  held h := h.2.1
  opened := by
    rintro w _ ⟨hgit, -, t, new, hst, hnew, rfl⟩ h hheld
    refine ⟨hgit, ?_, t, new, hst, hnew, rfl⟩
    intro h' hh'
    cases hh'
    exact hheld
  locked := by
    rintro w _ ⟨-, -, t, new, hst, -, rfl⟩ h hheld
    exact (hR new).locked hst h hheld
  removeLock := agree_removeLock_beside hR

end Blind

end HistoryMetrics
