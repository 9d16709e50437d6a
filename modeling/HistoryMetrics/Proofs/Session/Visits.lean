import HistoryMetrics.Proofs.Session.Walks

/-! # Walks between the calls of a user

    A walk is resumed at any time, with calls of a user and other walks in between. It holds on to the
    repository that was open when it began, and to what git had printed then. The number of this
    repository tells whether the one that is open now is still the same.

    - `Session.Visits`: the worlds that a user can come to, and the walks that he has there
    - `Session.WalkInv`: what holds of the walks under way, in all of them
    - `Session.visits_helpers`: what holds of the helpers
    - `walk_resumed`: what a step of a walk does
    - `walk_outlives_session`: a walk is not refused while nothing is open, and closes what was opened
      after it had begun
-/

namespace HistoryMetrics

open HistoryMetrics.Action World

variable {σ : Type}

namespace Walk

variable {g : Git σ}

/-! ## A walk and the world it is in -/

/-- **What a walk under way has to do with its world.**

    - `prints`: what it has before it has been printed by git
    - `begun`: the repository it goes on with has been open
    - `later`: the repository that is open now is this one, or was opened later
-/
structure Follows (g : Git σ) (w : World σ) (walk : Walk) : Prop where
  prints : ∀ record ∈ walk.records, g.Prints record
  begun : ∀ r, walk.repository = some r → r.number < w.helpers
  later : ∀ r, walk.repository = some r → ∀ h, w.session = some h →
    h.toRepository = r ∨ r.number < h.number

/-- A walk that is not under way has nothing to do with the world. -/
theorem Follows.of_idle {w : World σ} {walk : Walk} (h : walk.repository = none) :
    walk.Follows g w := by
  constructor
  case prints =>
    intro record hrecord
    cases walk with
    | underWay r rest => cases h
    | fresh => exact absurd hrecord List.not_mem_nil
    | «over» => exact absurd hrecord List.not_mem_nil
  case begun =>
    intro r hr
    rw [h] at hr
    cases hr
  case later =>
    intro r hr
    rw [h] at hr
    cases hr

theorem Follows.renews {w w' : World σ} {walk : Walk} (h : walk.Follows g w) (hw : Renews w w') :
    walk.Follows g w' := by
  constructor
  case prints => exact h.prints
  case begun =>
    intro r hr
    have hbegun : r.number < w.helpers := h.begun r hr
    exact Nat.lt_of_lt_of_le hbegun hw.helpers
  case later =>
    intro r hr hd hs
    rcases hw.session hd hs with hs' | ⟨hle, -⟩
    · exact h.later r hr hd hs'
    · -- it has been opened just now, and its number is higher than all before
      exact .inr (Nat.lt_of_lt_of_le (h.begun r hr) hle)

end Walk

namespace Session

open Walk

/-- **The worlds that a user can come to**, and the walks that he has there, each as far as it has come.

    - `iterate`: one more walk is got
    - `resume`: one of the walks takes a step
-/
inductive Visits : World σ → List Walk → Prop where
  | start (scene : Scene σ) (git : Git σ) : Visits (World.start scene git) []
  | call {w : World σ} {walks : List Walk} (c : Call) : Visits w walks → Visits (c.run w).2 walks
  | iterate {w : World σ} {walks : List Walk} : Visits w walks → Visits w (walks ++ [.fresh])
  | resume {w : World σ} (before after : List Walk) {walk : Walk} :
      Visits w (before ++ walk :: after) →
      Visits (walk.next w).2.2 (before ++ (walk.next w).2.1 :: after)
  | scene {w : World σ} {walks : List Walk} (s : Scene σ) : Visits w walks →
      Visits { w with toScene := s } walks

/-- **The invariant of walks.** -/
structure WalkInv (g : Git σ) (w : World σ) (walks : List Walk) : Prop where
  knows : Knows g w
  opened : ∀ h, w.session = some h → h.number < w.helpers
  follows : ∀ walk ∈ walks, walk.Follows g w

variable {g : Git σ}

theorem WalkInv.renews {w w' : World σ} {walks : List Walk} (hi : WalkInv g w walks)
    (hknows : Knows g w') (hw : Renews w w') : WalkInv g w' walks := by
  constructor
  case knows => exact hknows
  case opened =>
    intro h hs
    rcases hw.session h hs with hs' | ⟨-, hlt⟩
    · exact Nat.lt_of_lt_of_le (hi.opened h hs') hw.helpers
    · exact hlt
  case follows =>
    intro walk hwalk
    exact (hi.follows walk hwalk).renews hw

/-- A repository that is open is followed. -/
theorem WalkInv.follows_goesOn {w : World σ} {walks : List Walk} (hi : WalkInv g w walks)
    {h : Handles} (hs : w.session = some h) {K : List String → Prop}
    {done : Except Failure (Option Commit) × Walk × World σ}
    (hdone : GoesOn g h.toRepository K w done) (hw : Renews w done.2.2) :
    done.2.1.Follows g done.2.2 := by
  have hopened : h.number < w.helpers := hi.opened h hs
  constructor
  case prints => exact hdone.prints
  case begun =>
    intro r hr
    rw [hdone.repository r hr]
    exact Nat.lt_of_lt_of_le hopened hw.helpers
  case later =>
    intro r hr hd hs'
    rw [hdone.repository r hr]
    rcases hw.session hd hs' with hs'' | ⟨hle, -⟩
    · rw [hs] at hs''
      cases hs''
      exact .inl rfl
    · exact .inr (Nat.lt_of_lt_of_le hopened hle)

/-- **A step of a walk keeps the invariant**, of this walk and of the others. -/
theorem WalkInv.resume {w : World σ} (before after : List Walk) {walk : Walk}
    (hi : WalkInv g w (before ++ walk :: after)) :
    WalkInv g (walk.next w).2.2 (before ++ (walk.next w).2.1 :: after) := by
  have hw : Renews w (walk.next w).2.2 := (walk.next_ends w).renews
  have hwalk : walk.Follows g w := hi.follows walk (by simp)
  have hstep : Knows g (walk.next w).2.2 ∧ (walk.next w).2.1.Follows g (walk.next w).2.2 := by
    cases walk with
    | «over» => exact ⟨hi.knows, hwalk⟩
    | underWay r rest =>
      have hdone := advance_goesOn r hwalk.prints hi.knows
      have hstill : (Walk.underWay r rest).Follows g _ := hwalk.renews hw
      refine ⟨hdone.knows, ?_⟩
      constructor
      case prints => exact hdone.prints
      case begun =>
        intro r' hr'
        rw [hdone.repository r' hr']
        exact hstill.begun r rfl
      case later =>
        intro r' hr'
        rw [hdone.repository r' hr']
        exact hstill.later r rfl
    | fresh =>
      cases hs : w.session with
      | none =>
        rw [next_fresh_of_closed hs]
        exact ⟨hi.knows, .of_idle rfl⟩
      | some h =>
        have hdone := next_fresh_goesOn hi.knows hs
        exact ⟨hdone.knows, hi.follows_goesOn hs hdone hw⟩
  obtain ⟨hknows, hopened, hfollows⟩ := hi.renews hstep.1 hw
  refine ⟨hknows, hopened, ?_⟩
  intro other hother
  rcases List.mem_append.1 hother with hother | hother
  · exact hfollows other (List.mem_append_left _ hother)
  · rcases List.mem_cons.1 hother with rfl | hother
    · exact hstep.2
    · exact hfollows other (List.mem_append_right _ (List.mem_cons_of_mem _ hother))

/-- **The invariant holds in all worlds that a user can come to.** -/
theorem visits_inv {w : World σ} {walks : List Walk} (hw : Visits w walks) :
    WalkInv w.git w walks := by
  suffices h : ∃ g, WalkInv g w walks by
    obtain ⟨g, hi⟩ := h
    rwa [hi.knows.git]
  induction hw with
  | start scene git =>
    exact ⟨git, ⟨rfl, fun _ h => absurd h List.not_mem_nil⟩, fun _ h => (by cases h),
      fun _ h => absurd h List.not_mem_nil⟩
  | call c _ ih =>
    obtain ⟨g, hi⟩ := ih
    exact ⟨g, hi.renews (c.knows hi.knows) (c.renews _)⟩
  | iterate _ ih =>
    obtain ⟨g, hi⟩ := ih
    refine ⟨g, hi.knows, hi.opened, ?_⟩
    intro walk hwalk
    rcases List.mem_append.1 hwalk with hwalk | hwalk
    · exact hi.follows walk hwalk
    · obtain rfl := List.mem_singleton.1 hwalk
      exact .of_idle rfl
  | resume before after _ ih =>
    obtain ⟨g, hi⟩ := ih
    exact ⟨g, hi.resume before after⟩
  | @scene w walks s _ ih =>
    obtain ⟨g, hi⟩ := ih
    exact ⟨g, hi.renews (hi.knows.scene s) (Steady.scene w s).renews⟩

/-- **No helper is lost in these worlds**, and all names have reached the one of the open repository. -/
theorem visits_helpers {w : World σ} {walks : List Walk} (hw : Visits w walks) :
    HelperInv w ∧ w.AllSent := by
  induction hw with
  | start scene git => exact ⟨.start scene git, allSent_of_closed rfl⟩
  | @call w _ c _ ih =>
    have hcall : KeepsHelpers w (c.run w).2 := c.keepsHelpers w
    exact ⟨hcall.inv ih.1, hcall.allSent ih.2⟩
  | iterate _ ih => exact ih
  | @resume w _ _ walk _ ih =>
    have hnext : KeepsHelpers w (walk.next w).2.2 := (walk.next_ends w).keepsHelpers
    exact ⟨hnext.inv ih.1, hnext.allSent ih.2⟩
  | @scene w _ s _ ih => exact ⟨ih.1.steady (Steady.scene w s), ih.2.steady (Steady.scene w s)⟩

end Session

open Session

/-! ## A walk that outlives its repository -/

/-- A commit with one parent. -/
def childCommit : PrintedCommit where
  id := "c4"
  parents := ["c3"]
  author := somebody
  committer := somebody
  body := "b"
  id_hex := by decide
  parents_hex := by decide

/-- A history at whose end stands something that is no commit. -/
def brokenHistory : String := PrintedCommit.print [mergeCommit "a", childCommit] ++ "?"

/-- A git that prints this history, and writes nothing for any other command. -/
def brokenAnswer (arguments : List String) : String :=
  if arguments = Repository.logArguments ["--all"] then brokenHistory else ""

theorem records_brokenHistory :
    History.records (Git.text (Text.encode brokenHistory.toList)) =
      [(mergeCommit "a").record, childCommit.record, ['?']] := by
  have htext : Git.text (Text.encode brokenHistory.toList) = brokenHistory := by decide +kernel
  have hhistory : brokenHistory.toList = (mergeCommit "a").record ++ '\x1e' :: '\n' ::
      (childCommit.record ++ '\x1e' :: '\n' :: ['?']) := by
    simp [brokenHistory, PrintedCommit.print]
  have hfirst : (mergeCommit "a").NoSeparator := by decide
  have hsecond : childCommit.NoSeparator := by decide
  rw [htext]
  show History.recordsIn brokenHistory.toList = _
  rw [hhistory, History.recordsIn_append hfirst.record (PrintedCommit.trimmed_record _)
    (PrintedCommit.record_ne_nil _), History.recordsIn_append hsecond.record
    (PrintedCommit.trimmed_record _) (PrintedCommit.record_ne_nil _)]
  rfl

/-- Words without a null character make a command that can be given. -/
theorem noNull_line {r : Repository} (hroot : r.root = projectFolder) {arguments : List String}
    (h : ∀ s ∈ arguments, '\x00' ∉ s.toList) :
    ∀ s ∈ (r.command arguments none).line, '\x00' ∉ s.toList := by
  intro s hs
  have hroot' : r.root.text = "/project" := by
    rw [hroot]
    decide
  simp only [GitCommand.line, Repository.command, hroot'] at hs
  rcases List.mem_append.1 hs with hs | hs
  · have hwords : ∀ s ∈ ["git", "-c", "core.quotepath=off", "-C", "/project"], '\x00' ∉ s.toList := by
      decide
    exact hwords s hs
  · exact h s hs

/-- Opening with a git that answers every command. -/
theorem exists_open_answering {answer : List String → String} {w : World Unit}
    (hscene : w.toScene = oneRepository) (hgit : w.git = .answering answer)
    (hs : w.session = none) :
    ∃ h w', Session.open projectFolder .null .null w = (.ok (), w') ∧ w'.session = some h ∧
      h.root = projectFolder ∧ w'.git = .answering answer := by
  obtain ⟨w₁, hrun, hgit₁⟩ := Repository.run_answering
    ⟨projectFolder, .null, .null, w.helpers⟩ folderArguments hgit (noNull_line rfl (by decide)) rfl
  have hstart : (w₁.git.startHelper w₁.helpers projectFolder w₁.outside).1 = none := by
    rw [hgit₁]
    rfl
  obtain ⟨h, w', hopen, hs', hroot, -, -, hgit', -⟩ := exists_open_project .null .null
    (congrArg Scene.disk hscene) (congrArg Scene.here hscene) hs hrun hstart
  exact ⟨h, w', hopen, hs', hroot, hgit'.trans hgit₁⟩

theorem brokenAnswer_log : brokenAnswer (Repository.logArguments ["--all"]) = brokenHistory :=
  if_pos rfl

/-- The first step of a walk through the broken history. -/
theorem exists_next_fresh {w : World Unit} (hgit : w.git = .answering brokenAnswer) {h : Handles}
    (hs : w.session = some h) (hroot : h.root = projectFolder) :
    ∃ c w', Walk.next .fresh w =
      (.ok (some c), .underWay h.toRepository [childCommit.record, ['?']], w') := by
  obtain ⟨w₁, hrun, -⟩ := Repository.run_answering h.toRepository
    (Repository.logArguments ["--all"]) hgit (noNull_line hroot (by decide)) rfl
  rw [brokenAnswer_log] at hrun
  have hrecords := Repository.records_ok_iff.2 ⟨_, hrun, records_brokenHistory.symm⟩
  have hcommit : h.toRepository.commitOf (mergeCommit "a").record w₁ =
      (.ok ((mergeCommit "a").commit []), w₁) :=
    Repository.commitOf_ok_iff.2 ⟨_, [], (mergeCommit "a").ofRecord_record, rfl, rfl⟩
  refine ⟨(mergeCommit "a").commit [], w₁, ?_⟩
  rw [Walk.next_fresh_of_session hs]
  simp only [guarded, hrecords, Walk.advance, Walk.read, hcommit]

/-- Comparing a commit gives a command. -/
theorem exists_changesOf {w : World Unit} (hgit : w.git = .answering brokenAnswer) {r : Repository}
    (hroot : r.root = projectFolder) :
    ∃ w', r.changesOf childCommit.id childCommit.parents w = (.ok [], w') ∧ w'.events ≠ w.events := by
  have hanswer : brokenAnswer (Repository.listingArguments "c3" "c4") = "" := if_neg (by decide)
  obtain ⟨w₁, hrun, -⟩ := Repository.run_answering r (Repository.listingArguments "c3" "c4") hgit
    (noNull_line hroot (by decide)) rfl
  rw [hanswer] at hrun
  have hempty : Git.text (Text.encode "".toList) = "" := by decide
  rw [hempty] at hrun
  have hlisting : r.listing "c4" ["c3"] w = (.ok ("c3", ""), w₁) :=
    bind_ok_iff.2 ⟨"c3", w, rfl, bind_ok_iff.2 ⟨"", w₁, hrun, rfl⟩⟩
  refine ⟨w₁, ?_, ?_⟩
  · refine bind_ok_iff.2 ⟨("c3", ""), w₁, renamed_ok_iff.2 hlisting, ?_⟩
    refine bind_ok_iff.2 ⟨[], w₁, ?_, rfl⟩
    rfl
  · rw [Repository.events_run hrun]
    simp

/-- **A walk that has begun goes on while no repository is open**: it gives a commit, and commands. -/
theorem exists_next_closed {w : World Unit} (hgit : w.git = .answering brokenAnswer) {r : Repository}
    (hroot : r.root = projectFolder) :
    ∃ c w', (Walk.underWay r [childCommit.record, ['?']]).next w =
      (.ok (some c), .underWay r [['?']], w') ∧ w'.events ≠ w.events := by
  obtain ⟨w', hchanges, hevents⟩ := exists_changesOf hgit hroot
  have hcommit : r.commitOf childCommit.record w = (.ok (childCommit.commit []), w') :=
    Repository.commitOf_ok_iff.2 ⟨_, [], childCommit.ofRecord_record, hchanges, rfl⟩
  refine ⟨childCommit.commit [], w', ?_, hevents⟩
  simp only [Walk.next, Walk.advance, Walk.read, guarded, hcommit]

/-- The last record is no commit. -/
theorem next_broken (r : Repository) {w : World Unit} (hw : w.AllSent) :
    ((Walk.underWay r [['?']]).next w).1 = .error (.problem (History.malformed ['?'])) :=
  Walk.advance_cons_fst r ['?'] [] hw

/-- **A user can come to a world where nothing is open and a walk is under way**, in the middle of the
    broken history. -/
theorem exists_visits_closed : ∃ (w : World Unit) (r : Repository),
    Visits w [.underWay r [childCommit.record, ['?']]] ∧ w.session = none ∧
      w.git = .answering brokenAnswer ∧ r.root = projectFolder := by
  have hstart : Visits (World.start oneRepository (.answering brokenAnswer)) [] := .start _ _
  obtain ⟨h, w₁, hopen, hs, hroot, hgit₁⟩ := exists_open_answering
    (w := World.start oneRepository (.answering brokenAnswer)) rfl rfl rfl
  have hw₁ : Visits w₁ [.fresh] := by
    have hcall := (hstart.call (.open projectFolder .null .null)).iterate
    rwa [Call.run, hopen] at hcall
  obtain ⟨c, w₂, hnext⟩ := exists_next_fresh hgit₁ hs hroot
  have hw₂ : Visits w₂ [.underWay h.toRepository [childCommit.record, ['?']]] := by
    have hresume := Visits.resume [] [] hw₁
    rwa [hnext] at hresume
  have hgit₂ : w₂.git = w₁.git := by
    have hdone := (Walk.next_fresh_goesOn (visits_inv hw₁).knows hs).knows
    rw [hnext] at hdone
    exact hdone.git
  refine ⟨close w₂, h.toRepository, hw₂.call .close, close_session w₂, ?_, hroot⟩
  rw [(knows_close (visits_inv hw₂).knows).git, hgit₂, hgit₁]

/-- **A user can open a repository while a walk of an earlier opening is under way**, with the broken
    record before it. -/
theorem exists_visits_reopened : ∃ (w : World Unit) (r : Repository) (h : Handles),
    Visits w [.underWay r [['?']]] ∧ w.session = some h ∧ r.number < h.number := by
  obtain ⟨w, r, hw, hs, hgit, hroot⟩ := exists_visits_closed
  obtain ⟨c, w₁, hnext, -⟩ := exists_next_closed hgit hroot
  have hw₁ : Visits w₁ [.underWay r [['?']]] := by
    have hresume := Visits.resume [] [] hw
    rwa [hnext] at hresume
  have hs₁ : w₁.session = none := by
    have hsame := (Walk.next_ends (.underWay r [childCommit.record, ['?']]) w).session_of_ok
      (c := some c) (by rw [hnext])
    rw [hnext] at hsame
    exact hsame.trans hs
  have hgit₁ : w₁.git = .answering brokenAnswer := by
    have hresume := (WalkInv.resume [] [] (visits_inv hw)).knows
    rw [hnext] at hresume
    exact hresume.git.trans hgit
  have hw₂ : Visits { w₁ with toScene := oneRepository } [.underWay r [['?']]] := hw₁.scene _
  obtain ⟨h, w₃, hopen, hs₃, -, -⟩ := exists_open_answering
    (w := { w₁ with toScene := oneRepository }) rfl hgit₁ hs₁
  obtain ⟨h', hs₃', hnumber⟩ := open_ok hopen
  have hbegun := ((visits_inv hw₂).follows _ List.mem_cons_self).begun r rfl
  refine ⟨w₃, r, h, ?_, hs₃, ?_⟩
  · have hcall := hw₂.call (.open projectFolder .null .null)
    rwa [Call.run, hopen] at hcall
  · rw [hs₃] at hs₃'
    cases hs₃'
    rw [hnumber]
    exact hbegun

/-! ## What a walk pays attention to -/

/-- **A step of a walk, wherever a user has come to.** -/
theorem walk_resumed {w : World σ} {walks : List Walk} (hw : Visits w walks) {walk : Walk}
    (hwalk : walk ∈ walks) :
    -- a walk that is over gives nothing and does nothing
    (walk = .over → walk.next w = (.ok none, .over, w)) ∧
    -- one that has not begun is refused while no repository is open, and else begins with the open one
    (walk = .fresh → w.session = none →
      walk.next w = (.error (wrongState Walk.operation "closed"), .over, w)) ∧
    (walk = .fresh → ∀ h, w.session = some h →
      Adds (GitEvent.BelongsTo h.toRepository (Walk.Commands w.git)) w (walk.next w).2.2 ∧
      ((h.toRepository.command (Repository.logArguments ["--all"]) none).holdsNull = false →
        GivesFirst (h.toRepository.command (Repository.logArguments ["--all"]) none) w
          (walk.next w).2.2) ∧
      ∀ r, (walk.next w).2.1.repository = some r → r = h.toRepository) ∧
    -- one that is under way goes on with its own repository, and gives commands for no other
    (∀ r, walk.repository = some r →
      (∀ h, w.session = some h → h.toRepository = r ∨ r.number < h.number) ∧
      Adds (GitEvent.BelongsTo r (ComparesTold w.git)) w (walk.next w).2.2 ∧
      (∀ record rest, walk.records = record :: rest →
        (walk.next w).1 = (r.commitOf record w).1.map some) ∧
      (∀ r', (walk.next w).2.1.repository = some r' → r' = r) ∧
      -- and what comes of it does not depend on whether a repository is open, and on which
      ∀ s, (walk.next { w with session := s }).1 = (walk.next w).1 ∧
        (walk.next { w with session := s }).2.1 = (walk.next w).2.1) ∧
    -- a step that returns or is interrupted leaves open what is open, and one that fails closes it
    (∀ c, (walk.next w).1 = .ok c → (walk.next w).2.2.session = w.session) ∧
    ((walk.next w).1 = .error .interrupt → (walk.next w).2.2.session = w.session) ∧
    ∀ f, (walk.next w).1 = .error f → f ≠ .interrupt →
      (walk.next w).2.1 = .over ∧ (walk.next w).2.2.session = none := by
  have hi : WalkInv w.git w walks := visits_inv hw
  have hfollows : walk.Follows w.git w := hi.follows walk hwalk
  obtain ⟨hhelpers, hsent⟩ := visits_helpers hw
  refine ⟨?isOver, ?closed, ?begins, ?goesOn, ?returns, ?interrupted, ?fails⟩
  case isOver =>
    rintro rfl
    rfl
  case closed =>
    rintro rfl hs
    exact Walk.next_fresh_of_closed hs
  case begins =>
    rintro rfl h hs
    have hdone := Walk.next_fresh_goesOn hi.knows hs
    have hgives := Walk.next_fresh_gives_first hi.knows hs
    exact ⟨hdone.adds, hgives, hdone.repository⟩
  case goesOn =>
    intro r hr
    cases walk with
    | fresh => cases hr
    | «over» => cases hr
    | underWay r' rest =>
      cases hr
      have hdone := Walk.advance_goesOn r hfollows.prints hi.knows
      refine ⟨hfollows.later r rfl, hdone.adds, ?_, hdone.repository, ?_⟩
      · rintro record rest rfl
        exact Walk.advance_cons_fst r record rest hsent
      · intro s
        exact Walk.advance_openAs r rest hsent (hhelpers.allSent_openAs hsent s)
  case returns => exact fun c hc => (walk.next_ends w).session_of_ok hc
  case interrupted => exact (walk.next_ends w).session_of_interrupt
  case fails => exact fun f hf hne => (walk.next_ends w).closed_of_error hf hne

/-- A walk goes on while nothing is open, and what it gives are commands for its own repository. -/
theorem walk_resumed_closed : ∃ (w : World Unit) (walk : Walk) (r : Repository),
    Visits w [walk] ∧ w.session = none ∧ walk.repository = some r ∧
      Adds (GitEvent.BelongsTo r (ComparesTold w.git)) w (walk.next w).2.2 := by
  obtain ⟨w, r, hw, hs, -, -⟩ := exists_visits_closed
  obtain ⟨-, -, -, hgoesOn, -⟩ := walk_resumed hw List.mem_cons_self
  obtain ⟨-, hadds, -⟩ := hgoesOn r rfl
  exact ⟨w, _, r, hw, hs, rfl, hadds⟩

/-- **A walk outlives the session it began in.** It is not refused while nothing is open, it gives
    commands then, and when it fails it closes a repository that was opened after it had begun. -/
theorem walk_outlives_session :
    (¬∀ (w : World Unit) (walks : List Walk) (walk : Walk) (r : Repository), Visits w walks →
      walk ∈ walks → walk.repository = some r → w.session = none →
      (walk.next w).1 = .error (wrongState Walk.operation "closed")) ∧
    (¬∀ (w : World Unit) (walks : List Walk) (walk : Walk) (r : Repository), Visits w walks →
      walk ∈ walks → walk.repository = some r → w.session = none →
      (walk.next w).2.2.events = w.events) ∧
    ¬∀ (w : World Unit) (walks : List Walk) (walk : Walk) (r : Repository) (h : Handles),
      Visits w walks → walk ∈ walks → walk.repository = some r → w.session = some h →
      r.number < h.number → (walk.next w).2.2.session = some h := by
  refine ⟨fun hall => ?refused, fun hall => ?silent, fun hall => ?left⟩
  case refused =>
    obtain ⟨w, r, hw, hs, hgit, hroot⟩ := exists_visits_closed
    obtain ⟨c, w', hnext, -⟩ := exists_next_closed hgit hroot
    have hrefused := hall w _ _ r hw List.mem_cons_self rfl hs
    rw [hnext] at hrefused
    cases hrefused
  case silent =>
    obtain ⟨w, r, hw, hs, hgit, hroot⟩ := exists_visits_closed
    obtain ⟨c, w', hnext, hevents⟩ := exists_next_closed hgit hroot
    have hsilent := hall w _ _ r hw List.mem_cons_self rfl hs
    rw [hnext] at hsilent
    exact hevents hsilent
  case left =>
    obtain ⟨w, r, h, hw, hs, hlt⟩ := exists_visits_reopened
    have hleft := hall w _ _ r h hw List.mem_cons_self rfl hs hlt
    have hclosed := (Walk.next_ends (.underWay r [['?']]) w).closed_of_error
      (next_broken r (visits_helpers hw).2) (by simp)
    rw [hclosed.2] at hleft
    cases hleft

end HistoryMetrics
