import HistoryMetrics.Proofs.Mining.Helpers
import Mathlib

/-! # A repository is open or closed

    An operation is what asks the open repository for something; there are six. Opening and closing
    are no operations. A world is reachable when any sequence of opening, closing, operations and runs
    of mining leads to it, whatever git answers and whatever happens to the scene in between.

    - `Session.Request`, `Session.Call`: the operations, and all that a user can do
    - `Session.Reachable`: the worlds that a user can come to
    - `reachable_helpers`: the invariant of helpers holds in all of them
    - `session_state_machine`: the two states of a repository and the way from one to the other
-/

namespace HistoryMetrics

open HistoryMetrics.Action World

variable {σ : Type}

namespace Session

/-! ## What a user can do -/

/-- **What an open repository can be asked for**, with all that it needs to be told. -/
inductive Request where
  | references
  | commits
  | commit (id : String)
  | idsOf (r : Reference)
  | checkout (id : String)
  | files (id : String)

namespace Request

/-- The name of the operation. -/
def name : Request → String
  | .references => "list references"
  | .commits => "list commits"
  | .commit _ => "read commit"
  | .idsOf _ => "list commit ids"
  | .checkout _ => "checkout"
  | .files _ => "list files"

/-- The operation, without what it returns. -/
def run : Request → Action (World σ) Unit
  | .references => (fun _ => ()) <$> Session.references
  | .commits => (fun _ => ()) <$> Session.commits
  | .commit id => (fun _ => ()) <$> Session.commit id
  | .idsOf r => (fun _ => ()) <$> Session.idsOf r
  | .checkout id => Session.checkout id
  | .files id => (fun _ => ()) <$> Session.files id

theorem ends (q : Request) (w : World σ) : Ends q.name w (q.run w).1 (q.run w).2 := by
  cases q with
  | references => simp only [run, map_apply]; exact (references_ends w).map _
  | commits => simp only [run, map_apply]; exact (commits_ends w).map _
  | commit id => simp only [run, map_apply]; exact (commit_ends id w).map _
  | idsOf r => simp only [run, map_apply]; exact (idsOf_ends r w).map _
  | checkout id => exact checkout_ends id w
  | files id => simp only [run, map_apply]; exact (files_ends id w).map _

end Request

/-- **A call of a user.** -/
inductive Call where
  | open (path : Path) (timeout threshold : Value)
  | close
  | request (q : Request)

/-- What comes of a call. -/
def Call.run : Call → Action (World σ) Unit
  | .open path timeout threshold => Session.open path timeout threshold
  | .close => (pure () : Action (World σ) Unit).always Session.closing
  | .request q => q.run

theorem Call.keepsHelpers (c : Call) : Moves KeepsHelpers (c.run : Action (World σ) Unit) := by
  cases c with
  | «open» path timeout threshold => exact keepsHelpers_open path timeout threshold
  | close => exact (moves_pure ()).always keepsHelpers_close
  | request q => exact fun w => (q.ends w).keepsHelpers

/-- **The worlds that a user can come to.** -/
inductive Reachable : World σ → Prop where
  | start (scene : Scene σ) (git : Git σ) : Reachable (World.start scene git)
  | call {w : World σ} (c : Call) : Reachable w → Reachable (c.run w).2
  | mine {w : World σ} (m : Miner σ) (path : String) (selection : Selection)
      (failFast : Option Bool) : Reachable w → w.session = none →
      Reachable (m.mine path selection failFast w).2
  | mineHistory {w : World σ} (m : Miner σ) (path : String) : Reachable w → w.session = none →
      Reachable (m.mineHistory path w).2
  | scene {w : World σ} (s : Scene σ) : Reachable w → Reachable { w with toScene := s }

theorem reachable_helpers {w : World σ} (hw : Reachable w) : HelperInv w := by
  induction hw with
  | start scene git => exact HelperInv.start scene git
  | call c _ ih => exact (c.keepsHelpers _).inv ih
  | mine m path selection failFast _ _ ih =>
    exact (m.mine_keepsHelpers path selection failFast _).inv ih
  | mineHistory m path _ _ ih => exact (m.mineHistory_keepsHelpers path _).inv ih
  | scene s _ ih => exact ih.steady (Steady.scene _ s)

/-! ## The two states -/

/-- **Closed**: nothing is held, and every helper that was ever started has been closed. -/
structure IsClosed (w : World σ) : Prop where
  session : w.session = none
  helpers : ∀ n ∈ w.startedHelpers, n ∈ w.closedHelpers

/-- **Open**: one helper was started and has not been closed, the one that is held; all others that
    were ever started have been closed. -/
structure IsOpenWith (h : Handles) (w : World σ) : Prop where
  session : w.session = some h
  helper : w.openHelpers = [h.helper]
  others : ∀ n ∈ w.startedHelpers, n ≠ h.helper → n ∈ w.closedHelpers

end Session

namespace HelperInv

open Session

theorem isClosed {w : World σ} (hi : HelperInv w) (hs : w.session = none) : IsClosed w := by
  refine ⟨hs, fun n hn => ?_⟩
  have hnone := hi.openHelpers_of_closed hs
  rw [openHelpers, List.filter_eq_nil_iff] at hnone
  simpa using hnone n hn

theorem isOpenWith {w : World σ} (hi : HelperInv w) {h : Handles} (hs : w.session = some h) :
    IsOpenWith h w := by
  have hopen : w.openHelpers = [h.helper] := by rw [hi.held, hs]; rfl
  refine ⟨hs, hopen, fun n hn hne => ?_⟩
  -- a helper that has not been closed is the one that is held
  by_cases hclosed : n ∈ w.closedHelpers
  · exact hclosed
  · have hmem : n ∈ w.openHelpers := List.mem_filter.2 ⟨hn, by simpa using hclosed⟩
    rw [hopen] at hmem
    exact absurd (List.mem_singleton.1 hmem) hne

end HelperInv

namespace Session

/-- A world is open when there is exactly one helper that was started and not closed. -/
theorem isOpen_iff_openHelpers {w : World σ} (hi : HelperInv w) :
    isOpen w = true ↔ ∃ n, w.openHelpers = [n] := by
  rw [hi.held]
  cases hs : w.session with
  | none => simp [isOpen, hs]
  | some h => simp [isOpen, hs]

theorem Request.run_of_closed (q : Request) {w : World σ} (hs : w.session = none) :
    q.run w = (.error (wrongState q.name "closed"), w) := by
  have hends := q.ends w
  rcases hrun : q.run w with ⟨r, w'⟩
  rw [hrun] at hends
  cases hends with
  | refused _ => rfl
  | returned _ hopen _ => rw [hs] at hopen; cases hopen
  | interrupted hopen _ => rw [hs] at hopen; cases hopen
  | failed _ hopen _ _ => rw [hs] at hopen; cases hopen

/-- **An operation on an open repository** returns and leaves it open with its helper, or fails and
    leaves it closed, or is interrupted. -/
theorem Request.run_of_open (q : Request) {w : World σ} (hi : HelperInv w) {h : Handles}
    (hs : w.session = some h) :
    (∃ w', q.run w = (.ok (), w') ∧ IsOpenWith h w' ∧ w'.closedHelpers = w.closedHelpers) ∨
      (∃ f w', q.run w = (.error f, w') ∧ f ≠ .interrupt ∧ IsClosed w' ∧
        h.helper ∈ w'.closedHelpers) ∨
      ∃ w', q.run w = (.error .interrupt, w') ∧ IsOpenWith h w' := by
  have hends := q.ends w
  rcases hrun : q.run w with ⟨r, w'⟩
  rw [hrun] at hends
  have hi' : HelperInv w' := hends.keepsHelpers.inv hi
  cases hends with
  | refused hclosed => rw [hs] at hclosed; cases hclosed
  | returned a _ hsteady =>
    exact .inl ⟨w', rfl, hi'.isOpenWith (hsteady.session.trans hs), hsteady.closed⟩
  | interrupted _ hsteady =>
    exact .inr (.inr ⟨w', rfl, hi'.isOpenWith (hsteady.session.trans hs)⟩)
  | @failed _ w'' f _ hf hstill =>
    have hlogged := hstill.trans
      (Steady.logged w'' ⟨.error, logger, q.name ++ " failed: ", some f⟩).toStill
    have hclose := close_closes (hi.still hlogged) (hlogged.session.trans hs)
    refine .inr (.inl ⟨_, _, rfl, raised_ne_interrupt _ hf _, hi'.isClosed (failed_session _ _ _), ?_⟩)
    show h.helper ∈ (close _).closedHelpers
    rw [hclose.closed]
    simp

theorem close_of_open {w : World σ} (hi : HelperInv w) {h : Handles} (hs : w.session = some h) :
    IsClosed (close w) ∧ h.helper ∈ (close w).closedHelpers := by
  refine ⟨hi.close.isClosed (close_session w), ?_⟩
  rw [(close_closes hi hs).closed]
  simp

/-- **Opening, none being open**, fails and leaves none open, or starts a helper. -/
theorem open_of_closed (path : Path) (timeout threshold : Value) {w : World σ} (hi : HelperInv w)
    (hs : w.session = none) :
    (∃ f w', Session.open path timeout threshold w = (.error f, w') ∧ IsClosed w' ∧
        w'.liveHelpers = []) ∨
      ∃ h w', Session.open path timeout threshold w = (.ok (), w') ∧ IsOpenWith h w' ∧
        h.helper ∉ w.startedHelpers := by
  rcases open_cases path timeout threshold hs with ⟨f, w', hopen, hw'⟩ | ⟨h, w', hopen, hw'⟩
  · have hi' : HelperInv w' := hw'.inv hi
    have hs' : w'.session = none := hw'.session.trans hs
    refine .inl ⟨f, w', hopen, hi'.isClosed hs', ?_⟩
    rw [hi'.live, hi'.openHelpers_of_closed hs']
  · refine .inr ⟨h, w', hopen, (hw'.inv hi hs).isOpenWith hw'.session, fun hmem => ?_⟩
    have hlt := hi.started_lt _ hmem
    rw [hw'.fresh] at hlt
    exact Nat.lt_irrefl _ hlt

end Session

/-! ## The state machine -/

open Session

/-- **The state machine of a repository**, in every world that a user can come to. -/
theorem session_state_machine {w : World σ} (hw : Reachable w) :
    -- it is open when one helper was started and not closed, and this is the one that is held
    ((isOpen w = true ↔ ∃ n, w.openHelpers = [n]) ∧
      (∀ h, w.session = some h → IsOpenWith h w) ∧ (w.session = none → IsClosed w)) ∧
    -- while it is closed, an operation is refused and changes nothing
    (w.session = none → ∀ q : Request, q.run w = (.error (wrongState q.name "closed"), w)) ∧
    -- while it is open, an operation that returns leaves it open with the same helper, one that
    -- fails closes it with its helper, and so does closing
    (∀ h, w.session = some h → ∀ q : Request,
      (∃ w', q.run w = (.ok (), w') ∧ IsOpenWith h w' ∧ w'.closedHelpers = w.closedHelpers) ∨
      (∃ f w', q.run w = (.error f, w') ∧ f ≠ .interrupt ∧ IsClosed w' ∧
        h.helper ∈ w'.closedHelpers) ∨
      ∃ w', q.run w = (.error .interrupt, w') ∧ IsOpenWith h w') ∧
    (∀ h, w.session = some h →
      IsClosed (Session.close w) ∧ h.helper ∈ (Session.close w).closedHelpers) ∧
    -- opening fails and leaves no helper, or starts a new one; it is refused while it is open
    (w.session = none → ∀ path timeout threshold,
      (∃ f w', Session.open path timeout threshold w = (.error f, w') ∧ IsClosed w' ∧
        w'.liveHelpers = []) ∨
      ∃ h w', Session.open path timeout threshold w = (.ok (), w') ∧ IsOpenWith h w' ∧
        h.helper ∉ w.startedHelpers) ∧
    (∀ h, w.session = some h → ∀ path timeout threshold,
      Session.open path timeout threshold w = (.error (wrongState "open" "already open"), w)) ∧
    -- after runs of mining, whatever they came to, every helper has been closed
    (w.session = none → ∀ (m : Miner σ) (path : String),
      (∀ selection failFast, IsClosed (m.mine path selection failFast w).2) ∧
      IsClosed (m.mineHistory path w).2) := by
  have hi : HelperInv w := reachable_helpers hw
  refine ⟨⟨isOpen_iff_openHelpers hi, fun h hs => hi.isOpenWith hs, fun hs => hi.isClosed hs⟩,
    fun hs q => q.run_of_closed hs, fun h hs q => q.run_of_open hi hs,
    fun h hs => close_of_open hi hs, fun hs path timeout threshold => ?_,
    fun h hs path timeout threshold => open_of_open path timeout threshold hs,
    fun hs m path => ⟨fun selection failFast => ?_, ?_⟩⟩
  · exact open_of_closed path timeout threshold hi hs
  · exact ((m.mine_keepsHelpers path selection failFast w).inv hi).isClosed
      (m.mine_closed path selection failFast hs)
  · exact ((m.mineHistory_keepsHelpers path w).inv hi).isClosed (m.mineHistory_closed path hs)

/-! ### A repository that is opened -/

/-- The world after the repository has been opened. -/
def openedRepository : World Unit :=
  (Call.run (.open ⟨"/", ["project"]⟩ .null .null) (.start oneRepository (gitRefusing fun _ => false))).2

theorem session_state_machine_opened :
    Reachable openedRepository ∧ ∃ n, openedRepository.openHelpers = [n] := by
  have hw : Reachable openedRepository := .call _ (.start oneRepository _)
  let w : World Unit := .start oneRepository (gitRefusing fun _ => false)
  have hrun : ((⟨projectFolder, .null, .null, 0⟩ : Repository).run ["rev-parse", "--absolute-git-dir"]
      none w).1 = .ok "" := by cbv
  have hstart : ∀ n (v : World Unit), v.git = gitRefusing (fun _ => false) →
      (v.git.startHelper n projectFolder v.outside).1 = none := by
    intro n v hgit
    rw [hgit]
    rfl
  obtain ⟨h, w', hopened, hs, -⟩ := exists_open_project .null .null (w := w) rfl rfl rfl
    (Prod.ext hrun rfl) (hstart _ _ (by cbv))
  have hopen : isOpen openedRepository = true := by
    have hcall : (Call.run (.open projectFolder .null .null) w).2 = w' := congrArg Prod.snd hopened
    show isOpen (Call.run (.open projectFolder .null .null) w).2 = true
    rw [hcall]
    exact isOpen_of_session hs
  exact ⟨hw, (session_state_machine hw).1.1.1 hopen⟩

end HistoryMetrics
