import HistoryMetrics.Proofs.Session.Walks

/-! # Walks that are taken to their end

    The commits of a history are got at once, or one by one from a walk that is resumed until it has
    no more. In both ways the records of the history are read one after the other, up to the first
    that fails. With a walk something may be done with each commit before the next record is read.

    - `Repository.readEach`, `Repository.readHistory`: the records in their order
    - `Repository.StopsReading`: where the reading stops, and what has been read by then
    - `Repository.readHistory_blind`: worlds that reading cannot tell apart
    - `Session.ending`, `Session.settled`: how an operation ends, and what it leaves behind
    - `Walk.Gives`, `gives_fresh`: what a walk gives that is taken to its end
    - `commits_eq`: what the listing of commits returns
    - `SameButLog`: what is left behind, but for the log
-/

namespace HistoryMetrics

open HistoryMetrics.Action World

variable {σ : Type}

/-! ## Records in their order -/

namespace Repository

/-- **Reads records one after the other**, up to the first that fails; something is done with each
    commit. What has been read, how the reading ended, and the world after it. -/
def readEach (r : Repository) (consume : Commit → World σ → World σ) :
    List (List Char) → World σ → List Commit × Except Failure Unit × World σ
  | [], w => ([], .ok (), w)
  | record :: rest, w =>
    match r.commitOf record w with
    | (.error f, w') => ([], .error f, w')
    | (.ok c, w') =>
      let (cs, result, v) := readEach r consume rest (consume c w')
      (c :: cs, result, v)

/-- **Reads the history** and then its records. -/
def readHistory (r : Repository) (consume : Commit → World σ → World σ) (w : World σ) :
    List Commit × Except Failure Unit × World σ :=
  match r.records ["--all"] w with
  | (.error f, w') => ([], .error f, w')
  | (.ok records, w') => r.readEach consume records w'

/-- Nothing is done with a commit. -/
def untouched (_ : Commit) (w : World σ) : World σ := w

/-- **Where the reading of a history stops.**

    - `history`: the history cannot be read, and so no commit is
    - `record`: the records before this one have been read
-/
inductive StopsReading (r : Repository) (consume : Commit → World σ → World σ) (w : World σ)
    (f : Failure) : List Commit → Prop where
  | history : (r.records ["--all"] w).1 = .error f → StopsReading r consume w f []
  | record {before : List (List Char)} {record : List Char} {after : List (List Char)}
      {given : List Commit} {w₁ w₂ : World σ} :
      r.records ["--all"] w = (.ok (before ++ record :: after), w₁) →
      r.readEach consume before w₁ = (given, .ok (), w₂) →
      (r.commitOf record w₂).1 = .error f → StopsReading r consume w f given

variable (r : Repository) (consume : Commit → World σ → World σ)

/-- A reading that fails has read all records before the one that fails. -/
theorem readEach_error {records : List (List Char)} {w v : World σ} {given : List Commit}
    {f : Failure} (h : r.readEach consume records w = (given, .error f, v)) :
    ∃ before record after u, records = before ++ record :: after ∧
      r.readEach consume before w = (given, .ok (), u) ∧ (r.commitOf record u).1 = .error f := by
  induction records generalizing w given with
  | nil => cases h
  | cons record rest ih =>
    unfold readEach at h
    rcases hread : r.commitOf record w with ⟨result, w'⟩
    rw [hread] at h
    cases result with
    | error e =>
      cases h
      exact ⟨[], record, rest, w, rfl, rfl, by rw [hread]⟩
    | ok c =>
      rcases hrest : r.readEach consume rest (consume c w') with ⟨cs, result, v'⟩
      simp only [hrest] at h
      cases h
      obtain ⟨before, failing, after, u, rfl, hbefore, hfailing⟩ := ih hrest
      refine ⟨record :: before, failing, after, u, rfl, ?_, hfailing⟩
      simp only [readEach, hread, hbefore]

theorem readHistory_error {w v : World σ} {given : List Commit} {f : Failure}
    (h : r.readHistory consume w = (given, .error f, v)) : r.StopsReading consume w f given := by
  unfold readHistory at h
  rcases hrecords : r.records ["--all"] w with ⟨result, w'⟩
  rw [hrecords] at h
  cases result with
  | error e =>
    cases h
    exact .history (by rw [hrecords])
  | ok records =>
    obtain ⟨before, record, after, u, rfl, hbefore, hrecord⟩ := readEach_error r consume h
    exact .record hrecords hbefore hrecord

/-- A loop over the records returns what they read, unless one of them fails. -/
theorem forEach_commitOf {records : List (List Char)} {w v : World σ} {given : List Commit}
    {result : Except Failure Unit} (h : r.readEach untouched records w = (given, result, v)) :
    Action.forEach r.commitOf records w = (result.map fun _ => given, v) := by
  induction records generalizing w given with
  | nil =>
    cases h
    rfl
  | cons record rest ih =>
    unfold readEach at h
    rcases hread : r.commitOf record w with ⟨e, w'⟩
    rw [hread] at h
    cases e with
    | error f =>
      cases h
      simp only [Action.forEach, hread]
      rfl
    | ok c =>
      rcases hrest : r.readEach untouched rest w' with ⟨cs, result', v'⟩
      simp only [untouched, hrest] at h
      cases h
      simp only [Action.forEach, hread, ih hrest]
      cases result <;> rfl

theorem commits_of_readHistory {w v : World σ} {given : List Commit} {result : Except Failure Unit}
    (h : r.readHistory untouched w = (given, result, v)) :
    r.commits ["--all"] w = (result.map fun _ => given, v) := by
  unfold readHistory at h
  rcases hrecords : r.records ["--all"] w with ⟨e, w'⟩
  rw [hrecords] at h
  rw [commits, bind_apply, hrecords]
  cases e with
  | error f =>
    cases h
    rfl
  | ok records => exact r.forEach_commitOf h

/-! ### Names that have been sent -/

section AllSent

variable {consume : Commit → World σ → World σ} (hconsume : ∀ c w, w.AllSent → (consume c w).AllSent)
include hconsume

/-- Reading asks no helper. -/
theorem allSent_readEach (records : List (List Char)) {w : World σ} (hw : w.AllSent) :
    (r.readEach consume records w).2.2.AllSent := by
  induction records generalizing w with
  | nil => exact hw
  | cons record rest ih =>
    have hread : Steady w (r.commitOf record w).2 := r.steady_commitOf record w
    unfold readEach
    rcases hresult : r.commitOf record w with ⟨result, w'⟩
    rw [hresult] at hread
    cases result with
    | error f => exact hw.steady hread
    | ok c => exact ih (hconsume c w' (hw.steady hread))

theorem allSent_of_readHistory {w u : World σ} {given : List Commit} {result : Except Failure Unit}
    (h : r.readHistory consume w = (given, result, u)) (hw : w.AllSent) : u.AllSent := by
  unfold readHistory at h
  rcases hrecords : r.records ["--all"] w with ⟨e, w'⟩
  have hw' : w'.AllSent := hw.steady ((r.steady_records ["--all"]).of_eq hrecords)
  rw [hrecords] at h
  cases e with
  | error f =>
    cases h
    exact hw'
  | ok records =>
    have hread : r.readEach consume records w' = (given, result, u) := h
    have hall := r.allSent_readEach hconsume records hw'
    rwa [hread] at hall

end AllSent

/-! ### Readings side by side -/

section Blind

variable {P : World σ → World σ → Prop} (hP : Blind P)
  {consume consume' : Commit → World σ → World σ}
  (hconsume : ∀ c w v, P w v → P (consume c w) (consume' c v))

include hP hconsume

/-- Reading records cannot tell worlds in relation `P` apart, if what is done with the commits keeps
    them so. -/
theorem readEach_blind (records : List (List Char)) {w v : World σ} (hwv : P w v) :
    (r.readEach consume' records v).1 = (r.readEach consume records w).1 ∧
      (r.readEach consume' records v).2.1 = (r.readEach consume records w).2.1 ∧
      P (r.readEach consume records w).2.2 (r.readEach consume' records v).2.2 := by
  induction records generalizing w v with
  | nil => exact ⟨rfl, rfl, hwv⟩
  | cons record rest ih =>
    unfold readEach
    rcases (hP.agree_commitOf r record).cases hwv with
      ⟨c, _, w', v', hw, hv, rfl, h'⟩ | ⟨f, w', v', hw, hv, h'⟩
    · simp only [hw, hv]
      obtain ⟨hgiven, hresult, hend⟩ := ih (hconsume c _ _ h')
      exact ⟨congrArg (List.cons c) hgiven, hresult, hend⟩
    · simpa only [hw, hv, true_and] using h'

theorem readHistory_blind {w v : World σ} (hwv : P w v) :
    (r.readHistory consume' v).1 = (r.readHistory consume w).1 ∧
      (r.readHistory consume' v).2.1 = (r.readHistory consume w).2.1 ∧
      P (r.readHistory consume w).2.2 (r.readHistory consume' v).2.2 := by
  unfold readHistory
  rcases (hP.agree_records r ["--all"]).cases hwv with
    ⟨records, _, w', v', hw, hv, rfl, h'⟩ | ⟨f, w', v', hw, hv, h'⟩
  · simp only [hw, hv]
    exact readEach_blind r hP hconsume records h'
  · simpa only [hw, hv, true_and] using h'

end Blind

end Repository

/-! ## What an operation leaves behind -/

namespace Session

/-- **How an operation ends** whose body has ended like this in the given world: closing may go wrong. -/
def ending {α : Type} (name : String) : Except Failure α → World σ → Except Failure α
  | .ok a, _ => .ok a
  | .error .interrupt, _ => .error .interrupt
  | .error f, w => .error (raised name f w)

/-- **What an operation leaves behind** whose body has ended like this in the given world. -/
def settled (name : String) : Except Failure Unit → World σ → World σ
  | .ok _, w => w
  | .error .interrupt, w => w
  | .error f, w => failed name f w

section ending

variable {α β : Type} {name : String} {w : World σ}

theorem ending_of_allSent (hw : w.AllSent) (result : Except Failure α) : ending name result w = result := by
  cases result with
  | ok a => rfl
  | error f =>
    cases f with
    | interrupt => rfl
    | problem p => exact congrArg Except.error (raised_of_allSent name (.problem p) hw)
    | fault e => exact congrArg Except.error (raised_of_allSent name (.fault e) hw)

/-- It does not matter which operation it is. -/
theorem ending_eq (name' : String) (result : Except Failure α) :
    ending name result w = ending name' result w := by
  have hraised : ∀ f, raised name f w = raised name' f w := by
    intro f
    have hclosing : (failing name f w).1 = (failing name' f w).1 := by
      simp only [failing, closing_fst, session_logged, outside_logged]
      rfl
    rw [raised, raised, hclosing]
  cases result with
  | ok a => rfl
  | error f =>
    cases f with
    | interrupt => rfl
    | problem p => exact congrArg Except.error (hraised (.problem p))
    | fault e => exact congrArg Except.error (hraised (.fault e))

/-- The value does not matter either. -/
theorem ending_map (result : Except Failure α) (f : α → β) :
    ending name (result.map f) w = (ending name result w).map f := by
  cases result with
  | ok a => rfl
  | error g => cases g <;> rfl

/-- A failure goes on as one, whatever should have been returned. -/
theorem ending_of_error (name : String) (f : Failure) (w : World σ) :
    ∃ g, ∀ β : Type, ending name (.error f : Except Failure β) w = .error g := by
  cases f with
  | interrupt => exact ⟨.interrupt, fun _ => rfl⟩
  | problem p => exact ⟨raised name (.problem p) w, fun _ => rfl⟩
  | fault e => exact ⟨raised name (.fault e) w, fun _ => rfl⟩

/-- An operation ends with a failure only if its body does. -/
theorem ending_error {result : Except Failure α} {f : Failure} (h : ending name result w = .error f) :
    ∃ reason, result = .error reason := by
  cases result with
  | ok a => cases h
  | error reason => exact ⟨reason, rfl⟩

end ending

/-- A step that closes after failures. -/
theorem guarded_eq {α : Type} (name : String) {step : Action (World σ) α} {w w' : World σ}
    {result : Except Failure α} (h : step w = (result, w')) :
    step.guarded (failing name) w =
      (ending name result w', settled name (result.map fun _ => ()) w') := by
  cases result with
  | ok a => exact guarded_ok_iff.2 h
  | error f =>
    cases f with
    | interrupt =>
      simp only [guarded, h]
      rfl
    | problem p => exact guarded_of_error h (problem_ne_interrupt p)
    | fault e => exact guarded_of_error h (fault_ne_interrupt e)

/-- What an operation leaves behind was handed over before. -/
@[simp] theorem settled_accepted (name : String) (result : Except Failure Unit) (w : World σ) :
    (settled name result w).accepted = w.accepted := by
  cases result with
  | ok _ => rfl
  | error f =>
    cases f with
    | problem p => exact failed_accepted _ _ _
    | fault e => exact failed_accepted _ _ _
    | interrupt => rfl

/-- **The listing of commits** reads the history, and returns all of it or nothing. -/
theorem commits_eq {w v : World σ} {h : Handles} (hs : w.session = some h) {given : List Commit}
    {result : Except Failure Unit}
    (hread : h.toRepository.readHistory Repository.untouched w = (given, result, v)) :
    commits w =
      ((ending "list commits" result v).map fun _ => given, settled "list commits" result v) := by
  have hopen : commits w = (h.toRepository.commits ["--all"]).guarded (failing "list commits") w := by
    show (handles "list commits" >>= fun h => _) w = _
    rw [bind_apply, handles_of_session hs]
  rw [hopen, guarded_eq "list commits" (h.toRepository.commits_of_readHistory hread), ending_map]
  cases result <;> rfl

end Session

/-! ## Walks -/

namespace Walk

/-- **What a walk gives that is taken to its end**: the commits, how the walk ends, and the world after
    it. Something is done with each commit before the walk is resumed. -/
inductive Gives (consume : Commit → World σ → World σ) :
    Walk → World σ → List Commit → Except Failure Unit → World σ → Prop where
  | ended {walk walk' : Walk} {w v : World σ} :
      walk.next w = (.ok none, walk', v) → Gives consume walk w [] (.ok ()) v
  | failed {walk walk' : Walk} {w v : World σ} {f : Failure} :
      walk.next w = (.error f, walk', v) → Gives consume walk w [] (.error f) v
  | gave {walk walk' : Walk} {w w' v : World σ} {c : Commit} {given : List Commit}
      {result : Except Failure Unit} :
      walk.next w = (.ok (some c), walk', w') → Gives consume walk' (consume c w') given result v →
      Gives consume walk w (c :: given) result v

variable {consume : Commit → World σ → World σ}

/-- **There is only one thing that a walk can give.** -/
theorem Gives.unique {walk : Walk} {w v v' : World σ} {given given' : List Commit}
    {result result' : Except Failure Unit} (h : Gives consume walk w given result v)
    (h' : Gives consume walk w given' result' v') : given' = given ∧ result' = result ∧ v' = v := by
  induction h generalizing given' with
  | ended hnext =>
    cases h' with
    | ended hnext' => cases hnext.symm.trans hnext'; exact ⟨rfl, rfl, rfl⟩
    | failed hnext' => cases hnext.symm.trans hnext'
    | gave hnext' _ => cases hnext.symm.trans hnext'
  | failed hnext =>
    cases h' with
    | ended hnext' => cases hnext.symm.trans hnext'
    | failed hnext' => cases hnext.symm.trans hnext'; exact ⟨rfl, rfl, rfl⟩
    | gave hnext' _ => cases hnext.symm.trans hnext'
  | gave hnext _ ih =>
    cases h' with
    | ended hnext' => cases hnext.symm.trans hnext'
    | failed hnext' => cases hnext.symm.trans hnext'
    | gave hnext' hrest =>
      cases hnext.symm.trans hnext'
      obtain ⟨rfl, hresult, hv⟩ := ih hrest
      exact ⟨rfl, hresult, hv⟩

theorem Gives.iff_eq {walk : Walk} {w v v' : World σ} {given given' : List Commit}
    {result result' : Except Failure Unit} (h : Gives consume walk w given result v) :
    Gives consume walk w given' result' v' ↔ given' = given ∧ result' = result ∧ v' = v := by
  refine ⟨h.unique, ?_⟩
  rintro ⟨rfl, rfl, rfl⟩
  exact h

/-- A walk that takes the step of another one gives what that one gives. -/
theorem Gives.of_next_eq {walk walk' : Walk} {w w' v : World σ} {given : List Commit}
    {result : Except Failure Unit} (hnext : walk.next w = walk'.next w')
    (h : Gives consume walk' w' given result v) : Gives consume walk w given result v := by
  cases h with
  | ended h => exact .ended (hnext.trans h)
  | failed h => exact .failed (hnext.trans h)
  | gave h hrest => exact .gave (hnext.trans h) hrest

/-- **A walk under way reads the records that are before it.** -/
theorem gives_underWay (r : Repository) {records : List (List Char)} {w u : World σ}
    {given : List Commit} {result : Except Failure Unit}
    (h : r.readEach consume records w = (given, result, u)) :
    Gives consume (.underWay r records) w given (Session.ending operation result u)
      (Session.settled operation result u) := by
  induction records generalizing w given with
  | nil =>
    cases h
    exact .ended rfl
  | cons record rest ih =>
    unfold Repository.readEach at h
    rcases hread : r.commitOf record w with ⟨e, w'⟩
    have hguarded := Session.guarded_eq operation hread
    rw [hread] at h
    cases e with
    | error f =>
      obtain ⟨g, hg⟩ := Session.ending_of_error operation f w'
      cases h
      rw [hg] at hguarded ⊢
      refine .failed (show _ = (_, Walk.over, _) from ?_)
      simp only [next, advance, read, hguarded]
      rfl
    | ok c =>
      rcases hrest : r.readEach consume rest (consume c w') with ⟨cs, result', v'⟩
      simp only [hrest] at h
      cases h
      refine .gave (show _ = (_, Walk.underWay r rest, _) from ?_) (ih hrest)
      simp only [next, advance, read, hguarded]
      rfl

/-- **A walk reads the history of the repository that is open**, and then its records. -/
theorem gives_fresh {w u : World σ} {h : Handles} (hs : w.session = some h) {given : List Commit}
    {result : Except Failure Unit}
    (hread : h.toRepository.readHistory consume w = (given, result, u)) :
    Gives consume .fresh w given (Session.ending operation result u)
      (Session.settled operation result u) := by
  unfold Repository.readHistory at hread
  rcases hrecords : h.toRepository.records ["--all"] w with ⟨e, w'⟩
  have hguarded := Session.guarded_eq operation hrecords
  rw [hrecords] at hread
  cases e with
  | error f =>
    obtain ⟨g, hg⟩ := Session.ending_of_error operation f w'
    cases hread
    rw [hg] at hguarded ⊢
    refine .failed (show _ = (_, Walk.over, _) from ?_)
    simp only [next_fresh_of_session hs, hguarded]
    rfl
  | ok records =>
    refine .of_next_eq ?_ (gives_underWay h.toRepository hread)
    simp only [next_fresh_of_session hs, hguarded]
    rfl

end Walk

/-! ## What is left behind -/

/-- **The same world but for the log**, which may be kept in files. -/
def SameButLog (w v : World σ) : Prop :=
  ∃ disk journal, v = { w with toScene := { w.toScene with disk, journal } }

namespace SameButLog

theorem refl (w : World σ) : SameButLog w w := ⟨w.disk, w.journal, rfl⟩

theorem logged {w v : World σ} (h : SameButLog w v) (r r' : LogRecord) :
    SameButLog (w.logged r) (v.logged r') := by
  obtain ⟨disk, journal, rfl⟩ := h
  simp only [World.logged, Scene.logged]
  split <;> split <;> exact ⟨_, _, rfl⟩

/-- Git may do the same in both worlds. -/
theorem withOutside {w v : World σ} (h : SameButLog w v) (x : σ) :
    SameButLog { w with outside := x } { v with outside := x } := by
  obtain ⟨disk, journal, rfl⟩ := h
  exact ⟨disk, journal, rfl⟩

theorem sendRest {w v : World σ} (h : SameButLog w v) (helper : Nat) :
    (Helper.sendRest helper v).1 = (Helper.sendRest helper w).1 ∧
      SameButLog (Helper.sendRest helper w).2 (Helper.sendRest helper v).2 := by
  have hsame := h.withOutside (w.git.sendRest helper w.outside).2
  obtain ⟨disk, journal, rfl⟩ := h
  unfold Helper.sendRest
  split
  · exact ⟨rfl, hsame⟩
  · exact ⟨rfl, disk, journal, rfl⟩

theorem await {w v : World σ} (h : SameButLog w v) (helper : Nat) :
    SameButLog (Helper.await helper w) (Helper.await helper v) := by
  obtain ⟨disk, journal, rfl⟩ := h
  unfold Helper.await
  dsimp only
  split <;> exact ⟨disk, journal, rfl⟩

/-- Closing a helper does not look at the log. -/
theorem closingHelper {w v : World σ} (h : SameButLog w v) (helper : Nat) :
    (Helper.closing helper v).1 = (Helper.closing helper w).1 ∧
      SameButLog (Helper.closing helper w).2 (Helper.closing helper v).2 := by
  have hlive : Helper.isLive v helper = Helper.isLive w helper := by
    obtain ⟨disk, journal, rfl⟩ := h
    rfl
  obtain ⟨hmishap, hsent⟩ := h.sendRest helper
  unfold Helper.closing
  rw [hlive]
  split
  · rcases hw : Helper.sendRest helper w with ⟨mishap, w'⟩
    rcases hv : Helper.sendRest helper v with ⟨mishap', v'⟩
    rw [hw, hv] at hmishap hsent
    obtain rfl : mishap' = mishap := hmishap
    obtain ⟨disk, journal, rfl⟩ := hsent
    cases mishap' with
    | some m => exact ⟨rfl, disk, journal, rfl⟩
    | none => exact ⟨rfl, await ⟨disk, journal, rfl⟩ helper⟩
  · exact ⟨rfl, h⟩

theorem close {w v : World σ} (h : SameButLog w v) :
    SameButLog (Session.close w) (Session.close v) := by
  have hsession : v.session = w.session := by
    obtain ⟨disk, journal, rfl⟩ := h
    rfl
  unfold Session.close Session.closing
  rw [hsession]
  cases w.session with
  | none => exact h
  | some hd =>
    have hnone : SameButLog { w with session := none } { v with session := none } := by
      obtain ⟨disk, journal, rfl⟩ := h
      exact ⟨disk, journal, rfl⟩
    obtain ⟨hfailure, hend⟩ := hnone.closingHelper hd.helper
    dsimp only
    rcases hw : Helper.closing hd.helper { w with session := none } with ⟨failure, w'⟩
    rcases hv : Helper.closing hd.helper { v with session := none } with ⟨failure', v'⟩
    rw [hw, hv] at hfailure hend
    obtain rfl : failure' = failure := hfailure
    cases failure' with
    | some f => exact hend
    | none => exact hend.logged _ _

/-- Two operations that end in the same way in one world leave the same behind: the log tells which
    operation has failed. -/
theorem settled (name name' : String) (result : Except Failure Unit) (w : World σ) :
    SameButLog (Session.settled name result w) (Session.settled name' result w) := by
  have hfailed : ∀ f, SameButLog (Session.failed name f w) (Session.failed name' f w) :=
    fun f => ((refl w).logged _ _).close
  cases result with
  | ok _ => exact refl w
  | error f =>
    cases f with
    | problem p => exact hfailed (.problem p)
    | fault e => exact hfailed (.fault e)
    | interrupt => exact refl w

end SameButLog

end HistoryMetrics
