import HistoryMetrics.Proofs.Disk.Placement
import HistoryMetrics.Proofs.Session.Operation

/-! # The helper of an open repository

    While a repository is open, one helper of git runs for it; while none is open, no helper is left
    behind. Opening and closing are the only steps that start and close helpers, and both keep this
    invariant.

    - `HelperInv`: the invariant, that the helpers which were started and not closed are those of the
      open repository
    - `Session.close_closes`, `Session.open_cases`: what closing and opening do to the helpers
    - `KeepsHelpers`: the invariant as a relation between the worlds before and after a step, together
      with the fact that all names have reached the helper
-/

namespace HistoryMetrics

open HistoryMetrics.Action World

variable {σ α : Type}

/-! ## The invariant -/

/-- The helpers that were started and not closed. -/
def World.openHelpers (w : World σ) : List Nat :=
  w.startedHelpers.filter fun n => !w.closedHelpers.contains n

/-- **No helper is lost**: the helpers that were started and not closed are known to be running, and
    they are just the one of the open repository. -/
structure HelperInv (w : World σ) : Prop where
  live : w.liveHelpers = w.openHelpers
  held : w.openHelpers = w.session.toList.map Handles.helper
  started_lt : ∀ n ∈ w.startedHelpers, n < w.helpers
  closed_lt : ∀ n ∈ w.closedHelpers, n < w.helpers

/-- No helper was started, and nothing else has changed for a session. -/
structure Refuses (w w' : World σ) : Prop where
  session : w'.session = w.session
  helpers : w.helpers ≤ w'.helpers
  started : w'.startedHelpers = w.startedHelpers
  live : w'.liveHelpers = w.liveHelpers
  closed : w'.closedHelpers = w.closedHelpers
  accepted : w'.accepted = w.accepted

theorem World.Still.refuses {w w' : World σ} (h : Still w w') : Refuses w w' :=
  ⟨h.session, Nat.le_of_eq h.helpers.symm, h.started, h.live, h.closed, h.accepted⟩

theorem Refuses.inv {w w' : World σ} (h : Refuses w w') (hi : HelperInv w) : HelperInv w' := by
  have hopen : w'.openHelpers = w.openHelpers := by
    simp only [openHelpers, h.started, h.closed]
  refine ⟨?live, ?held, ?started, ?closed⟩
  case live => rw [h.live, hopen, hi.live]
  case held => rw [hopen, h.session, hi.held]
  case started =>
    rw [h.started]
    exact fun n hn => Nat.lt_of_lt_of_le (hi.started_lt n hn) h.helpers
  case closed =>
    rw [h.closed]
    exact fun n hn => Nat.lt_of_lt_of_le (hi.closed_lt n hn) h.helpers

namespace HelperInv

theorem start (scene : Scene σ) (git : Git σ) : HelperInv (World.start scene git) :=
  ⟨rfl, rfl, by simp [World.start], by simp [World.start, closedHelpers]⟩

theorem still {w w' : World σ} (hi : HelperInv w) (h : Still w w') : HelperInv w' :=
  h.refuses.inv hi

theorem steady {w w' : World σ} (hi : HelperInv w) (h : Steady w w') : HelperInv w' :=
  hi.still h.toStill

theorem live_eq {w : World σ} (hi : HelperInv w) {h : Handles} (hs : w.session = some h) :
    w.liveHelpers = [h.helper] := by
  rw [hi.live, hi.held, hs]; rfl

theorem openHelpers_of_closed {w : World σ} (hi : HelperInv w) (hs : w.session = none) :
    w.openHelpers = [] := by
  rw [hi.held, hs]; rfl

end HelperInv

/-! ## Closing -/

/-- **The open repository was closed**, and its helper with it. -/
structure Closes (h : Handles) (w w' : World σ) : Prop where
  session : w'.session = none
  helpers : w'.helpers = w.helpers
  started : w'.startedHelpers = w.startedHelpers
  live : w'.liveHelpers = w.liveHelpers.erase h.helper
  closed : w'.closedHelpers = w.closedHelpers ++ [h.helper]

namespace Helper

theorem steady_sendRest (helper : Nat) (w : World σ) : Steady w (sendRest helper w).2 := by
  unfold sendRest
  split
  · exact Steady.scene w { w.toScene with outside := (w.git.sendRest helper w.outside).2 }
  · exact Steady.refl w

theorem steady_await (helper : Nat) (w : World σ) : Steady w (await helper w) := by
  have hscene := Steady.scene w { w.toScene with outside := (w.git.endHelper helper w.outside).2 }
  unfold await
  dsimp only
  split
  · exact hscene
  · exact hscene.trans (Steady.happened _ (by simp))

/-- **A helper that runs is closed**, whatever goes wrong with that. -/
theorem close_of_live {helper : Nat} {w : World σ} (h : helper ∈ w.liveHelpers) :
    let w' := close helper w
    w'.session = w.session ∧ w'.helpers = w.helpers ∧ w'.startedHelpers = w.startedHelpers ∧
      w'.liveHelpers = w.liveHelpers.erase helper ∧
      w'.closedHelpers = w.closedHelpers ++ [helper] := by
  have hlive : isLive w helper = true := by simpa [isLive] using h
  have hsent := steady_sendRest helper w
  rcases hrest : sendRest helper w with ⟨mishap, v⟩
  rw [hrest] at hsent
  -- the helper is given up before anybody waits for it
  let given : World σ :=
    { v with liveHelpers := v.liveHelpers.erase helper }.happened (.helperClosed helper)
  have hgiven : given.session = w.session ∧ given.helpers = w.helpers ∧
      given.startedHelpers = w.startedHelpers ∧ given.liveHelpers = w.liveHelpers.erase helper ∧
      given.closedHelpers = w.closedHelpers ++ [helper] := by
    have hclosed : given.closedHelpers = v.closedHelpers ++ [helper] := by
      simp [given, closedHelpers, happened]
    refine ⟨hsent.session, hsent.helpers, hsent.started, ?_, hclosed.trans (by rw [hsent.closed])⟩
    exact congrArg (List.erase · helper) hsent.live
  simp only [close, closing, hlive, if_true, hrest]
  cases mishap with
  | some m => exact hgiven
  | none =>
    obtain ⟨hsession, hhelpers, hstarted, hlive', hclosed⟩ := hgiven
    have hawait := steady_await helper given
    exact ⟨hawait.session.trans hsession, hawait.helpers.trans hhelpers,
      hawait.started.trans hstarted, hawait.live.trans hlive', hawait.closed.trans hclosed⟩

end Helper

theorem Session.close_closes {w : World σ} (hi : HelperInv w) {h : Handles}
    (hs : w.session = some h) : Closes h w (Session.close w) := by
  have hlive : h.helper ∈ ({ w with session := none } : World σ).liveHelpers := by
    show h.helper ∈ w.liveHelpers
    simp [hi.live_eq hs]
  obtain ⟨hsession, hhelpers, hstarted, hlive', hclosed⟩ := Helper.close_of_live hlive
  unfold Helper.close at hsession hhelpers hstarted hlive' hclosed
  unfold Session.close Session.closing
  simp only [hs]
  rcases hend : Helper.closing h.helper { w with session := none } with ⟨failure, v⟩
  rw [hend] at hsession hhelpers hstarted hlive' hclosed
  -- what goes wrong decides only whether the closing is logged
  cases failure <;> exact ⟨hsession, hhelpers, hstarted, hlive', hclosed⟩

theorem Closes.inv {h : Handles} {w w' : World σ} (hc : Closes h w w') (hi : HelperInv w)
    (hs : w.session = some h) : HelperInv w' := by
  -- the only helper that was not closed is the one closed now
  have hopen : w'.openHelpers = [] := by
    have hall : ∀ n ∈ w.startedHelpers, n ∉ w.closedHelpers → n = h.helper := by
      intro n hn hnc
      have hmem : n ∈ w.openHelpers := by simp [openHelpers, hn, hnc]
      simpa [hi.held, hs] using hmem
    simp only [openHelpers, hc.started, hc.closed, List.filter_eq_nil_iff]
    intro n hn
    by_cases hnc : n ∈ w.closedHelpers
    · simp [hnc]
    · simp [hall n hn hnc]
  refine ⟨?live, ?held, ?started, ?closed⟩
  case live =>
    rw [hc.live, hi.live_eq hs, hopen]
    simp
  case held =>
    rw [hopen, hc.session]
    rfl
  case started =>
    rw [hc.started, hc.helpers]
    exact hi.started_lt
  case closed =>
    intro n hn
    rw [hc.closed] at hn
    rw [hc.helpers]
    rcases List.mem_append.1 hn with hn | hn
    · exact hi.closed_lt n hn
    · rw [List.mem_singleton.1 hn]
      have hmem : h.helper ∈ w.openHelpers := by simp [hi.held, hs]
      exact hi.started_lt _ (List.mem_filter.1 hmem).1

theorem HelperInv.close {w : World σ} (hi : HelperInv w) : HelperInv (Session.close w) := by
  cases hs : w.session with
  | none =>
    have hw : Session.close w = w := by simp only [Session.close, Session.closing, hs]
    rwa [hw]
  | some h => exact (Session.close_closes hi hs).inv hi hs

theorem HelperInv.failed {w : World σ} (hi : HelperInv w) (name : String) (f : Failure) :
    HelperInv (Session.failed name f w) :=
  (hi.steady (Steady.logged w _)).close

/-! ## Opening -/

/-- **A helper was started**, and nothing is left to be sent to it; `session` is what is open then. -/
structure Starts (n : Nat) (session : Option Handles) (w w' : World σ) : Prop where
  session : w'.session = session
  fresh : n = w.helpers
  helpers : w'.helpers = n + 1
  started : w'.startedHelpers = n :: w.startedHelpers
  live : w'.liveHelpers = n :: w.liveHelpers
  closed : w'.closedHelpers = w.closedHelpers
  accepted : w'.accepted = w.accepted
  sent : n ∉ w'.unsent

theorem Refuses.after {w₁ w₂ w₃ : World σ} (h : Steady w₁ w₂) (h' : Refuses w₂ w₃) :
    Refuses w₁ w₃ :=
  ⟨h'.session.trans h.session, Nat.le_trans (Nat.le_of_eq h.helpers.symm) h'.helpers,
    h'.started.trans h.started, h'.live.trans h.live, h'.closed.trans h.closed,
    h'.accepted.trans h.accepted⟩

theorem Starts.after {n : Nat} {s : Option Handles} {w₁ w₂ w₃ : World σ} (h : Steady w₁ w₂)
    (h' : Starts n s w₂ w₃) : Starts n s w₁ w₃ := by
  refine ⟨h'.session, h'.fresh.trans h.helpers, h'.helpers, ?_, ?_, h'.closed.trans h.closed,
    h'.accepted.trans h.accepted, h'.sent⟩
  · rw [h'.started, h.started]
  · rw [h'.live, h.live]

theorem Helper.start_cases (root : Path) (w : World σ) :
    (∃ f w', Helper.start root w = (.error f, w') ∧ Refuses w w') ∨
      ∃ n w', Helper.start root w = (.ok n, w') ∧ Starts n w.session w w' := by
  rcases hstart : w.git.startHelper w.helpers root w.outside with ⟨mishap, outside⟩
  let tried : World σ :=
    { w with outside, helpers := w.helpers + 1 }.happened (.helperStarted w.helpers root)
  have htried : tried.closedHelpers = w.closedHelpers := by
    simp [tried, closedHelpers, happened]
  cases mishap with
  | some m =>
    have hrun : Helper.start root w = (.error (problem m.toFault.message), tried) := by
      simp only [Helper.start, hstart, tried]
    exact .inl ⟨_, tried, hrun, rfl, Nat.le_succ _, rfl, rfl, htried, rfl⟩
  | none =>
    have hrun : Helper.start root w = (.ok w.helpers,
        { tried with
          startedHelpers := w.helpers :: w.startedHelpers
          liveHelpers := w.helpers :: w.liveHelpers
          unsent := w.unsent.filter fun k => k != w.helpers }) := by
      simp only [Helper.start, hstart, tried]
      rfl
    exact .inr ⟨_, _, hrun, rfl, rfl, rfl, rfl, rfl, htried, rfl, by simp⟩

namespace Session

theorem acquire_cases (r : Repository) (w : World σ) :
    (∃ f w', acquire r w = (.error f, w') ∧ Refuses w w') ∨
      ∃ h w', acquire r w = (.ok h, w') ∧ Starts h.helper w.session w w' := by
  rcases hrun : r.run ["rev-parse", "--absolute-git-dir"] none w with ⟨output, w₁⟩
  have hw₁ : Steady w w₁ := (Repository.steady_run r _ _).of_eq hrun
  unfold acquire
  rw [bind_apply, hrun]
  cases output with
  | error f => exact .inl ⟨f, w₁, rfl, hw₁.toStill.refuses⟩
  | ok text =>
    simp only [bind_apply]
    rcases Helper.start_cases r.root w₁ with ⟨f, w₂, hstart, hw₂⟩ | ⟨n, w₂, hstart, hw₂⟩
    · rw [hstart]
      exact .inl ⟨f, w₂, rfl, hw₂.after hw₁⟩
    · rw [hstart]
      rw [hw₁.session] at hw₂
      exact .inr ⟨_, w₂, rfl, hw₂.after hw₁⟩

/-- **How opening ends**, no repository being open. -/
theorem open_cases (path : Path) (timeout threshold : Value) {w : World σ} (hs : w.session = none) :
    (∃ f w', Session.open path timeout threshold w = (.error f, w') ∧ Refuses w w') ∨
      ∃ h w', Session.open path timeout threshold w = (.ok (), w') ∧
        Starts h.helper (some h) w w' := by
  have hclosed : isOpen w = false := by simp [isOpen, hs]
  have hbody : Session.open path timeout threshold w = openClosed path timeout threshold w := by
    simp only [Session.open, hclosed, Bool.false_eq_true, if_false]
  rw [hbody, openClosed, bind_apply]
  -- the folder of the repository
  by_cases hnull : Disk.holdsNull path = true
  · have hroot : rootOf path w = (.error (.fault (.wrongValue "embedded null byte")), w) := by
      simp only [rootOf, hnull, if_true]
    rw [hroot]
    exact .inl ⟨_, w, rfl, (Steady.refl w).toStill.refuses⟩
  have hroot : rootOf path w = (.ok (.resolved w.here path), w) := by
    simp only [rootOf, hnull, Bool.false_eq_true, if_false]
  rw [hroot]
  generalize Path.resolved w.here path = root
  simp only [bind_apply]
  have hfound_snd : (requireRepository root w).2 = w := by
    unfold requireRepository
    split <;> rfl
  have hfound : requireRepository root w = ((requireRepository root w).1, w) := Prod.ext rfl hfound_snd
  rw [hfound]
  cases (requireRepository root w).1 with
  | error f => exact .inl ⟨f, w, rfl, (Steady.refl w).toStill.refuses⟩
  | ok _ =>
    -- a command tells the folder of git, and a helper is started
    rcases acquire_cases ⟨root, timeout, threshold, w.helpers⟩ w with
      ⟨f, w', hacquire, hw'⟩ | ⟨h, w', hacquire, hw'⟩
    · refine .inl ⟨renameFailure (asUnreadable root) f, w', ?_, hw'⟩
      simp only [newRepository, Action.read, Action.renamed, hacquire]
    · refine .inr ⟨h, { w' with session := some h }.logged
        (.plain .debug logger ("Opened repository " ++ root.text)), ?_,
        ⟨rfl, hw'.fresh, hw'.helpers, hw'.started, hw'.live, hw'.closed, hw'.accepted, hw'.sent⟩⟩
      simp only [newRepository, Action.read, Action.renamed, hacquire, Action.update]

theorem open_of_open (path : Path) (timeout threshold : Value) {w : World σ} {h : Handles}
    (hs : w.session = some h) :
    Session.open path timeout threshold w = (.error (wrongState "open" "already open"), w) := by
  simp only [Session.open, isOpen_of_session hs, if_true]

end Session

theorem Starts.inv {h : Handles} {w w' : World σ} (hw : Starts h.helper (some h) w w')
    (hi : HelperInv w) (hs : w.session = none) : HelperInv w' := by
  -- the number of the helper is new, so it is not among those that were closed
  have hnew : h.helper ∉ w.closedHelpers := by
    intro hmem
    have hlt := hi.closed_lt _ hmem
    rw [hw.fresh] at hlt
    exact Nat.lt_irrefl _ hlt
  have hopen : w'.openHelpers = h.helper :: w.openHelpers := by
    simp [openHelpers, hw.started, hw.closed, hnew]
  have hnone : w.openHelpers = [] := hi.openHelpers_of_closed hs
  refine ⟨?live, ?held, ?started, ?closed⟩
  case live => rw [hw.live, hopen, hi.live]
  case held =>
    rw [hopen, hnone, hw.session]
    rfl
  case started =>
    intro n hn
    rw [hw.started] at hn
    rw [hw.helpers, hw.fresh]
    rcases List.mem_cons.1 hn with rfl | hn
    · exact Nat.lt_succ_of_le (Nat.le_of_eq hw.fresh)
    · exact Nat.lt_succ_of_lt (hi.started_lt n hn)
  case closed =>
    intro n hn
    rw [hw.closed] at hn
    rw [hw.helpers, hw.fresh]
    exact Nat.lt_succ_of_lt (hi.closed_lt n hn)

/-! ## Steps that keep the invariant -/

/-- **A step keeps the invariant**, if it held before, and leaves nothing to be sent to the helper of
    the open repository, if nothing was. -/
structure KeepsHelpers (w w' : World σ) : Prop where
  inv : HelperInv w → HelperInv w'
  allSent : w.AllSent → w'.AllSent

instance : Std.Refl (KeepsHelpers (σ := σ)) := ⟨fun _ => ⟨id, id⟩⟩

instance : IsTrans (World σ) KeepsHelpers :=
  ⟨fun _ _ _ h h' => ⟨fun hi => h'.inv (h.inv hi), fun hw => h'.allSent (h.allSent hw)⟩⟩

theorem World.AllSent.steady {w w' : World σ} (hw : w.AllSent) (h : Steady w w') : w'.AllSent := by
  intro held hs hlive
  rw [h.unsent]
  rw [h.live] at hlive
  exact hw held (h.session.symm.trans hs) hlive

/-- After a step that asks no helper, nothing goes wrong with closing. -/
theorem Session.failing_fst_of_steady {w : World σ} (hw : w.AllSent) {step : Action (World σ) α}
    (hstep : Moves Steady step) {name : String} (f : Failure) (w' : World σ)
    (h : step w = (.error f, w')) : (failing name f w').1 = none :=
  failing_fst_of_allSent name f (hw.steady (hstep.of_eq h))

theorem World.Steady.keepsHelpers {w w' : World σ} (h : Steady w w') : KeepsHelpers w w' :=
  ⟨fun hi => hi.steady h, fun hw => hw.steady h⟩

/-- **Opening** leaves nothing to be sent to the helper. -/
theorem Starts.allSent {h : Handles} {w w' : World σ} (hw : Starts h.helper (some h) w w') :
    w'.AllSent := by
  intro held hs _
  rw [hw.session] at hs
  cases hs
  exact hw.sent

/-- **No other helper runs**, so it does not matter which repository is open. -/
theorem HelperInv.allSent_openAs {w : World σ} (hi : HelperInv w) (hw : w.AllSent)
    (s : Option Handles) : ({ w with session := s } : World σ).AllSent := by
  intro held _ hlive
  have hmem : held.helper ∈ w.session.toList.map Handles.helper := by
    rw [← hi.held, ← hi.live]
    exact hlive
  obtain ⟨h, hs, hhelper⟩ := List.mem_map.1 hmem
  have hsent := hw h (Option.mem_toList.1 hs)
  rw [hhelper] at hsent
  exact hsent hlive

namespace Session

theorem keepsHelpers_open (path : Path) (timeout threshold : Value) :
    Moves KeepsHelpers (Session.open path timeout threshold : Action (World σ) Unit) := by
  intro w
  cases hs : w.session with
  | some h =>
    rw [open_of_open path timeout threshold hs]
    exact refl_of KeepsHelpers w
  | none =>
    rcases open_cases path timeout threshold hs with ⟨f, w', hopen, hw'⟩ | ⟨h, w', hopen, hw'⟩
    · rw [hopen]
      exact ⟨hw'.inv, fun _ => allSent_of_closed (hw'.session.trans hs)⟩
    · rw [hopen]
      exact ⟨fun hi => hw'.inv hi hs, fun _ => hw'.allSent⟩

theorem keepsHelpers_close (w : World σ) : KeepsHelpers w (close w) :=
  ⟨HelperInv.close, fun _ => allSent_of_closed (close_session w)⟩

theorem keepsHelpers_failed (name : String) (f : Failure) (w : World σ) :
    KeepsHelpers w (failed name f w) :=
  ⟨fun hi => hi.failed name f, fun _ => allSent_of_closed (failed_session name f w)⟩

/-- However an operation ends. -/
theorem Ends.keepsHelpers {name : String} {r : Except Failure α} {w w' : World σ}
    (h : Ends name w r w') : KeepsHelpers w w' := by
  cases h with
  | refused _ => exact refl_of KeepsHelpers w
  | returned _ _ hsteady => exact hsteady.keepsHelpers
  | interrupted _ hsteady => exact hsteady.keepsHelpers
  | failed f _ _ hstill =>
    exact ⟨fun hi => (hi.still hstill).failed name f,
      fun _ => allSent_of_closed (failed_session name f _)⟩

end Session

/-! ## A small world -/

/-- A git that has nothing to say: it refuses some commands and finishes all others. -/
def gitRefusing (refuses : List String → Bool) : Git Unit where
  run c outside disk := (.finished (if refuses c.arguments then 128 else 0) [] [], outside, disk)
  startHelper _ _ outside := (none, outside)
  isRunning _ _ := true
  ask _ _ outside := (.ok [], outside)
  sendRest _ outside := (none, outside)
  endHelper _ outside := (true, outside)

/-- A disk with one repository. -/
def oneRepository : Scene Unit where
  outside := ()
  disk := ⟨[(["project"], .folder), (["project", ".git"], .folder)], []⟩
  here := ⟨"/", []⟩
  time := ""
  logging := default
  journal := []
  lineFile := default

/-- The folder of the only repository. -/
def projectFolder : Path := ⟨"/", ["project"]⟩

/-- What is held of the only repository. -/
def projectHandles : Handles where
  root := projectFolder
  timeout := .null
  threshold := .null
  number := 0
  gitFolder := projectFolder.child ".git"
  helper := 0

/-- A world in which the only repository is open, and its helper runs. -/
def projectOpened (git : Git Unit) : World Unit :=
  { World.start oneRepository git with
    helpers := 1
    startedHelpers := [0]
    liveHelpers := [0]
    session := some projectHandles }

/-- A short path leads along its names from the top. -/
theorem locate_oneRepository {parts : List String} (hplain : ∀ part ∈ parts, '\x00' ∉ part.toList)
    (hsize : (parts.map fun name => name.utf8ByteSize + 1).sum ≤ 255) (here : Path) :
    oneRepository.disk.locate here ⟨"/", parts⟩ = oneRepository.disk.walk [] parts := by
  have hroot : ("/" : String).utf8ByteSize = 1 := rfl
  have hshort : (Path.mk "/" parts).isLong = false := by
    apply Path.isLong_eq_false
    dsimp only
    omega
  exact Disk.locate_of_plain hplain hshort

namespace Session

variable {w : World Unit}

/-- The only repository is found in its folder. -/
theorem rootOf_projectFolder (hhere : w.here = oneRepository.here) :
    rootOf projectFolder w = (.ok projectFolder, w) := by
  have hresolved : Path.resolved w.here projectFolder = projectFolder := by
    rw [hhere]
    decide
  have hnull : Disk.holdsNull projectFolder = false := by cbv
  simp only [rootOf, hnull, Bool.false_eq_true, if_false, hresolved]

theorem requireRepository_projectFolder (hdisk : w.disk = oneRepository.disk) :
    requireRepository projectFolder w = (.ok (), w) := by
  have hlocate : oneRepository.disk.locate w.here (projectFolder.child ".git") =
      .ok ["project", ".git"] := by
    refine (locate_oneRepository (by decide) (by decide) w.here).trans ?_
    exact Disk.walk_cons_ok_iff.2 ⟨rfl, by cbv, Disk.walk_cons_ok_iff.2 ⟨rfl, by cbv, rfl⟩⟩
  have hthere : w.disk.isThere w.here (projectFolder.child ".git") = .ok true := by
    rw [hdisk, Disk.isThere, Disk.lookAt_of_locate hlocate]
    rfl
  simp only [requireRepository, hthere]

/-- Nothing is locked in the only repository. -/
theorem clearLock_projectHandles (id : String) (hdisk : w.disk = oneRepository.disk) :
    clearLock projectHandles id w = (.ok (), w) := by
  have hlocate : oneRepository.disk.locate w.here (lockOf projectHandles) =
      .ok ["project", ".git", "index.lock"] := by
    refine (locate_oneRepository (by decide) (by decide) w.here).trans ?_
    refine Disk.walk_cons_ok_iff.2 ⟨rfl, by cbv, Disk.walk_cons_ok_iff.2 ⟨rfl, by cbv, ?_⟩⟩
    exact Disk.walk_cons_ok_iff.2 ⟨rfl, by cbv, rfl⟩
  have hlocked : w.disk.isThere w.here (lockOf projectHandles) = .ok false := by
    rw [hdisk, Disk.isThere, Disk.lookAt_of_locate hlocate]
    rfl
  simp only [clearLock, isLocked, bind_apply, hlocked, Except.mapError]
  rfl

/-- **Opening the only repository** succeeds when git tells where its own files are, and a helper
    starts. -/
theorem exists_open_project {v : World Unit} {output : String} (timeout threshold : Value)
    (hdisk : w.disk = oneRepository.disk) (hhere : w.here = oneRepository.here)
    (hs : w.session = none)
    (hrun : (⟨projectFolder, timeout, threshold, w.helpers⟩ : Repository).run
      ["rev-parse", "--absolute-git-dir"] none w = (.ok output, v))
    (hstart : (v.git.startHelper v.helpers projectFolder v.outside).1 = none) :
    ∃ h w', Session.open projectFolder timeout threshold w = (.ok (), w') ∧ w'.session = some h ∧
      h.root = projectFolder ∧ h.gitFolder = .ofText (String.ofList (Text.strip output.toList)) ∧
      h.helper ∈ w'.liveHelpers ∧ w'.git = v.git ∧ w'.accepted = v.accepted ∧
      ∃ r, w'.toScene = v.toScene.logged r := by
  have hclosed : isOpen w = false := by simp [isOpen, hs]
  have hroot := rootOf_projectFolder hhere
  have hfound := requireRepository_projectFolder hdisk
  rcases hstarted : v.git.startHelper v.helpers projectFolder v.outside with ⟨mishap, outside⟩
  rw [hstarted] at hstart
  obtain rfl : mishap = none := hstart
  -- the steps of opening, one after the other, each of which returns
  simp only [Session.open, hclosed, Bool.false_eq_true, if_false, openClosed, bind_apply, hroot,
    hfound, newRepository, Action.read, Action.renamed, acquire, hrun, Helper.start, hstarted,
    pure_apply, Action.update]
  exact ⟨_, _, rfl, rfl, rfl, rfl, List.mem_cons_self, rfl, rfl, _, rfl⟩

end Session

end HistoryMetrics
