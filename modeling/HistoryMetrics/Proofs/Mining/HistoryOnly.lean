import HistoryMetrics.Proofs.Mining.History
import HistoryMetrics.Proofs.Session.Visits
import HistoryMetrics.Proofs.Session.WholeWalks

/-! # The history, at once and one by one

    The commits of a history are listed at once, or got from a walk, or handed over as they are read.
    All three read the same records in the same order, so they agree on the commits and on the failure
    that ends the reading, if one does. A receiver of commits is in between the records, and what it
    does may change what git says of the next one; one that works aside from git changes nothing.

    - `Sink.TakesAll`, `Sink.WorksAside`: receivers that refuse nothing, and do not come in git's way
    - `emitHistory_eq`, `mineHistory_eq`: handing over is reading with a receiver in between
    - `accepted_readHistory`: what has been handed over by the end
    - `history_agrees`: the three ways to the history
-/

namespace HistoryMetrics

open HistoryMetrics.Action World

variable {σ : Type}

/-! ## Receivers -/

namespace Sink

/-- **A sink that refuses nothing.** -/
def TakesAll (sink : Sink σ) : Prop := ∀ e s, ∃ s', sink.receive e s = (.ok (), s')

/-- **A sink works aside from git**, which takes no notice of what tells two scenes in relation `R`
    apart.

    - `refl`, `logged`: scenes that are the same, or to which the same has been logged
    - `receive`: what the sink does to one of them
    - `run`: git says the same in both
-/
structure WorksAside (sink : Sink σ) (git : Git σ) (R : Scene σ → Scene σ → Prop) : Prop where
  refl : ∀ s, R s s
  logged : ∀ {s t}, R s t → ∀ r, R (s.logged r) (t.logged r)
  receive : ∀ {s t}, R s t → ∀ e, R s (sink.receive e t).2
  run : ∀ {s t}, R s t → ∀ c, (git.run c t.outside t.disk).1 = (git.run c s.outside s.disk).1 ∧
    R (s.afterCommand git c) (t.afterCommand git c)

theorem takesAll_memory : (memory : Sink σ).TakesAll := fun _ s => ⟨s, rfl⟩

/-- A sink that has nothing to do is in nobody's way. -/
theorem worksAside_memory (git : Git σ) : (memory : Sink σ).WorksAside git Eq where
  refl _ := rfl
  logged h r := congrArg (Scene.logged · r) h
  receive h _ := h
  run h c := by
    subst h
    exact ⟨rfl, rfl⟩

/-- The second world is the first one after something was handed over. -/
def Aside (git : Git σ) (R : Scene σ → Scene σ → Prop) (w v : World σ) : Prop :=
  w.git = git ∧ ∃ t accepted, R w.toScene t ∧ v = { w with toScene := t, accepted }

/-- **Reading takes no notice of a sink that works aside.** -/
theorem WorksAside.blind {sink : Sink σ} {git : Git σ} {R : Scene σ → Scene σ → Prop}
    (h : sink.WorksAside git R) : Repository.Blind (Aside git R) where
  logged hwv record := by
    obtain ⟨hgit, t, accepted, ht, rfl⟩ := hwv
    exact ⟨hgit, _, accepted, h.logged ht record, rfl⟩
  learned hwv _ := by
    obtain ⟨hgit, t, accepted, ht, rfl⟩ := hwv
    exact ⟨hgit, t, accepted, ht, rfl⟩
  emptyTrees hwv := by
    obtain ⟨-, _, _, -, rfl⟩ := hwv
    rfl
  perform c := by
    refine Repository.agree_perform ?_ ?_
    · rintro w _ ⟨rfl, t, accepted, ht, rfl⟩
      obtain ⟨houtcome, hafter⟩ := h.run ht c
      exact ⟨houtcome, rfl, _, accepted, hafter, rfl⟩
    · rintro w _ ⟨hgit, t, accepted, ht, rfl⟩ e
      exact ⟨hgit, t, accepted, ht, rfl⟩

/-- Handing something over to a sink that works aside. -/
theorem WorksAside.handOver {sink : Sink σ} {git : Git σ} {R : Scene σ → Scene σ → Prop}
    (h : sink.WorksAside git R) {w v : World σ} (hwv : Aside git R w v) (e : Emission) :
    Aside git R w (sink.handOver e v).2 := by
  obtain ⟨hgit, t, accepted, ht, rfl⟩ := hwv
  have hreceive := h.receive ht e
  rcases hrun : sink.receive e t with ⟨result, t'⟩
  rw [hrun] at hreceive
  simp only [Sink.handOver, bind_apply, World.onScene, hrun]
  cases result <;> exact ⟨hgit, t', _, hreceive, rfl⟩

theorem TakesAll.handOver {sink : Sink σ} (h : sink.TakesAll) (e : Emission) (w : World σ) :
    ∃ w', sink.handOver e w = (.ok (), w') ∧ w'.accepted = w.accepted ++ [e] := by
  obtain ⟨s', hs'⟩ := h e w.toScene
  simp only [Sink.handOver, bind_apply, World.onScene, hs', Action.update]
  exact ⟨_, rfl, rfl⟩

end Sink

namespace Miner

variable (m : Miner σ)

/-- **The world after a commit was handed over.** -/
def handing (c : Commit) (w : World σ) : World σ := (m.sink.handOver (.commit c) w).2

/-! ## Handing over -/

/-- The report after some commits more. -/
def reportAfter (report : Report) (given : List Commit) : Report :=
  { report with commits := report.commits ++ given.map Commit.id }

section TakesAll

variable {m} (htakes : m.sink.TakesAll)

include htakes

theorem handOver_eq (c : Commit) (w : World σ) :
    m.sink.handOver (.commit c) w = (.ok (), m.handing c w) := by
  obtain ⟨w', hw', -⟩ := htakes.handOver (.commit c) w
  rw [handing, hw']

/-- **Handing over the commits of records** is reading them with the receiver in between. -/
theorem emitHistory_eq (r : Repository) {records : List (List Char)} {w u : World σ}
    {given : List Commit} {result : Except Failure Unit}
    (h : r.readEach m.handing records w = (given, result, u)) (report : Report) :
    m.emitHistory r records report w =
      ((Session.ending Walk.operation result u).map fun _ => reportAfter report given,
        Session.settled Walk.operation result u) := by
  induction records generalizing w given report with
  | nil =>
    cases h
    simp only [emitHistory, pure_apply, reportAfter, List.map_nil, List.append_nil]
    rfl
  | cons record rest ih =>
    unfold Repository.readEach at h
    rcases hread : r.commitOf record w with ⟨e, w'⟩
    have hguarded := Session.guarded_eq Walk.operation hread
    rw [hread] at h
    unfold emitHistory
    rw [bind_apply, Walk.read, hguarded]
    cases e with
    | error f =>
      obtain ⟨g, hg⟩ := Session.ending_of_error Walk.operation f w'
      cases h
      rw [hg, hg]
      rfl
    | ok c =>
      rcases hrest : r.readEach m.handing rest (m.handing c w') with ⟨cs, result', v⟩
      simp only [hrest] at h
      cases h
      simp only [bind_apply, Except.map, Session.ending, Session.settled, handOver_eq htakes, ih hrest]
      simp [reportAfter, Report.analysed]

omit htakes in
/-- Handing over a commit asks no helper. -/
theorem allSent_handing (c : Commit) (w : World σ) (hw : w.AllSent) : (m.handing c w).AllSent :=
  (m.sink.keepsHelpers_handOver (.commit c) w).allSent hw

theorem mineHistory_eq {path : String} {w₀ w u : World σ} {h : Handles}
    (hopen : m.openAt path w₀ = (.ok (), w)) (hs : w.session = some h) {given : List Commit}
    {result : Except Failure Unit}
    (hread : h.toRepository.readHistory m.handing w = (given, result, u)) :
    m.mineHistory path w₀ =
      (result.map fun _ => reportAfter .empty given,
        Session.close (Session.settled Walk.operation result u)) := by
  have hw : w.AllSent := m.allSent_of_openAt hopen
  have hu : u.AllSent := h.toRepository.allSent_of_readHistory allSent_handing hread hw
  have hending : Session.ending Walk.operation result u = result := Session.ending_of_allSent hu result
  unfold Repository.readHistory at hread
  rcases hrecords : h.toRepository.records ["--all"] w with ⟨e, w'⟩
  have hguarded := Session.guarded_eq Walk.operation hrecords
  rw [hrecords] at hread
  have hrun : m.mineHistory path w₀ = _ :=
    m.opened_eq (keepsHelpers_walk.bind fun _ => keepsHelpers_emitHistory m _ _ _) hopen
  rw [hrun]
  cases e with
  | error f =>
    obtain ⟨g, hg⟩ := Session.ending_of_error Walk.operation f w'
    cases hread
    rw [hg] at hguarded hending
    cases hending
    simp only [bind_apply, Walk.begin, Session.handles_of_session hs, hguarded]
    rfl
  | ok records =>
    have hbegin : Walk.begin w = (.ok (h.toRepository, records), w') := by
      simp only [Walk.begin, bind_apply, Session.handles_of_session hs, hguarded]
      rfl
    rw [bind_apply, hbegin]
    dsimp only
    rw [emitHistory_eq htakes _ hread, hending]

/-! ## What has been handed over -/

theorem accepted_handing (c : Commit) (w : World σ) :
    (m.handing c w).accepted = w.accepted ++ [.commit c] := by
  obtain ⟨w', hw', haccepted⟩ := htakes.handOver (.commit c) w
  rw [handing, hw', haccepted]

theorem accepted_readEach (r : Repository) {records : List (List Char)} {w u : World σ}
    {given : List Commit} {result : Except Failure Unit}
    (h : r.readEach m.handing records w = (given, result, u)) :
    u.accepted = w.accepted ++ given.map .commit := by
  induction records generalizing w given with
  | nil =>
    cases h
    exact (List.append_nil _).symm
  | cons record rest ih =>
    unfold Repository.readEach at h
    rcases hread : r.commitOf record w with ⟨e, w'⟩
    have hsteady : w'.accepted = w.accepted := ((r.steady_commitOf record).of_eq hread).accepted
    rw [hread] at h
    cases e with
    | error f =>
      cases h
      rw [hsteady, List.map_nil, List.append_nil]
    | ok c =>
      rcases hrest : r.readEach m.handing rest (m.handing c w') with ⟨cs, result', v⟩
      simp only [hrest] at h
      cases h
      rw [ih hrest, accepted_handing htakes, hsteady, List.append_assoc]
      rfl

theorem accepted_readHistory (r : Repository) {w u : World σ} {given : List Commit}
    {result : Except Failure Unit} (h : r.readHistory m.handing w = (given, result, u)) :
    u.accepted = w.accepted ++ given.map .commit := by
  unfold Repository.readHistory at h
  rcases hrecords : r.records ["--all"] w with ⟨e, w'⟩
  have hsteady : w'.accepted = w.accepted := ((r.steady_records ["--all"]).of_eq hrecords).accepted
  rw [hrecords] at h
  cases e with
  | error f =>
    cases h
    rw [hsteady, List.map_nil, List.append_nil]
  | ok records => rw [accepted_readEach htakes r h, hsteady]

end TakesAll

end Miner

/-! ## Three ways to the history -/

open Session

/-- **The history at once, one by one, and handed over.** A repository is open. There is one thing that
    a walk gives which is taken to its end, and the listing of commits returns or fails accordingly. -/
theorem history_agrees {w : World σ} {h : Handles} (hs : w.session = some h) :
    ∃ (given : List Commit) (result : Except Failure Unit) (v : World σ),
      (∀ given' result' v', Walk.Gives Repository.untouched .fresh w given' result' v' ↔
        given' = given ∧ result' = result ∧ v' = v) ∧
      -- the listing returns what the walk gives, or fails as the walk does
      (commits w).1 = (result.map fun _ => given) ∧
      -- the same has been done to git, and the same is open; when nothing fails, all is the same
      SameButLog (commits w).2 v ∧ (result = .ok () → (commits w).2 = v) ∧
      -- what the walk has given before it fails are the commits of the records before the first that
      -- fails, and it fails as this record does, unless a name is still to be sent when it closes
      (∀ f, result = .error f → ∃ reason,
        h.toRepository.StopsReading Repository.untouched w reason given ∧ (w.AllSent → reason = f)) ∧
      -- a miner with a sink that refuses nothing, after it has opened the repository
      ∀ (m : Miner σ) (path : String) (w₀ : World σ), m.openAt path w₀ = (.ok (), w) →
        m.sink.TakesAll → ∃ (handed : List Commit) (result' : Except Failure Unit) (u : World σ),
          (∀ given' result'' u', Walk.Gives m.handing .fresh w given' result'' u' ↔
            given' = handed ∧ result'' = result' ∧ u' = u) ∧
          m.mineHistory path w₀ =
            (result'.map fun _ => ⟨handed.map Commit.id, 0, []⟩, close u) ∧
          (close u).accepted = w.accepted ++ handed.map .commit ∧
          (∀ f, result' = .error f → h.toRepository.StopsReading m.handing w f handed) ∧
          -- if the sink works aside from git, all of this is as if it were not there
          ∀ R, m.sink.WorksAside w.git R → handed = given ∧ result' = result := by
  rcases hread : h.toRepository.readHistory Repository.untouched w with ⟨given, result, u⟩
  have hgives := Walk.gives_fresh hs hread
  have hlist := commits_eq hs hread
  have hsent : w.AllSent → u.AllSent :=
    h.toRepository.allSent_of_readHistory (fun _ _ => id) hread
  refine ⟨given, ending Walk.operation result u, settled Walk.operation result u, ?walk, ?listing,
    ?alike, ?same, ?stops, ?mining⟩
  case walk => exact fun _ _ _ => hgives.iff_eq
  case listing => rw [hlist, ending_eq Walk.operation]
  case alike =>
    rw [hlist]
    exact .settled _ _ result u
  case same =>
    intro hok
    cases result with
    | ok _ =>
      rw [hlist]
      rfl
    | error f =>
      obtain ⟨g, hg⟩ := ending_of_error Walk.operation f u
      cases (hg Unit).symm.trans hok
  case stops =>
    intro f hf
    obtain ⟨reason, rfl⟩ := ending_error hf
    refine ⟨reason, Repository.readHistory_error _ _ hread, fun hw => ?_⟩
    rw [ending_of_allSent (hsent hw)] at hf
    cases hf
    rfl
  case mining =>
    intro m path w₀ hopen htakes
    rcases hhanded : h.toRepository.readHistory m.handing w with ⟨handed, result', u'⟩
    have hgives' := Walk.gives_fresh hs hhanded
    have hw : w.AllSent := m.allSent_of_openAt hopen
    have hu' : u'.AllSent := h.toRepository.allSent_of_readHistory Miner.allSent_handing hhanded hw
    rw [ending_of_allSent hu'] at hgives'
    rw [ending_of_allSent (hsent hw)]
    refine ⟨handed, result', settled Walk.operation result' u', ?walk, ?report, ?accepted, ?stops,
      ?aside⟩
    case walk => exact fun _ _ _ => hgives'.iff_eq
    case report => exact Miner.mineHistory_eq htakes hopen hs hhanded
    case accepted =>
      rw [close_accepted, settled_accepted, Miner.accepted_readHistory htakes _ hhanded]
    case stops =>
      rintro f rfl
      exact Repository.readHistory_error _ _ hhanded
    case aside =>
      intro R haside
      have hself : Sink.Aside w.git R w w := ⟨rfl, _, _, haside.refl _, rfl⟩
      have hconsume : ∀ c u v, Sink.Aside w.git R u v →
          Sink.Aside w.git R (Repository.untouched c u) (m.handing c v) :=
        fun c _ _ huv => haside.handOver huv (.commit c)
      obtain ⟨hgiven, hresult, -⟩ :=
        h.toRepository.readHistory_blind haside.blind hconsume hself
      rw [hread, hhanded] at hgiven hresult
      exact ⟨hgiven, hresult⟩

/-! ### A history with a broken record -/

/-- A walk through the broken history gives two commits and fails at the record after them. -/
theorem exists_gives_broken : ∃ (w : World Unit) (h : Handles) (c c' : Commit) (v : World Unit),
    Miner.plainMiner.openAt "/project" (.start oneRepository (.answering brokenAnswer)) = (.ok (), w) ∧
      w.session = some h ∧ w.accepted = [] ∧
      Walk.Gives Repository.untouched .fresh w [c, c']
        (.error (.problem (History.malformed ['?']))) v := by
  have hstart : Visits (World.start oneRepository (.answering brokenAnswer)) [] := .start _ _
  obtain ⟨h, w, hopen, hs, hroot, hgit⟩ := exists_open_answering
    (w := World.start oneRepository (.answering brokenAnswer)) rfl rfl rfl
  have hpath : Path.ofText "/project" = projectFolder := by decide
  have hopenAt : Miner.plainMiner.openAt "/project" (.start oneRepository (.answering brokenAnswer)) =
      (.ok (), w) := by rw [Miner.openAt, hpath]; exact hopen
  have hw : Visits w [.fresh] := by
    have hcall := (hstart.call (.open projectFolder .null .null)).iterate
    rwa [Call.run, hopen] at hcall
  obtain ⟨c, w₁, hfirst⟩ := exists_next_fresh hgit hs hroot
  have hgit₁ : w₁.git = .answering brokenAnswer := by
    have hdone := (Walk.next_fresh_goesOn (visits_inv hw).knows hs).knows
    rw [hfirst] at hdone
    exact hdone.git.trans hgit
  obtain ⟨c', w₂, hsecond, -⟩ := exists_next_closed hgit₁ (r := h.toRepository) hroot
  have hsent₁ : w₁.AllSent := by
    have hstep := (Walk.fresh.next_ends w).keepsHelpers.allSent (visits_helpers hw).2
    rwa [hfirst] at hstep
  have hsent₂ : w₂.AllSent := by
    have hstep := ((Walk.underWay h.toRepository [childCommit.record, ['?']]).next_ends
      w₁).keepsHelpers.allSent hsent₁
    rwa [hsecond] at hstep
  have hlast := next_broken h.toRepository hsent₂
  rcases hthird : (Walk.underWay h.toRepository [['?']]).next w₂ with ⟨result, walk, v⟩
  rw [hthird] at hlast
  obtain rfl : result = _ := hlast
  exact ⟨w, h, c, c', v, hopenAt, hs, (Miner.openAt_ok _ hopenAt).2,
    .gave hfirst (.gave hsecond (.failed hthird))⟩

/-- The listing fails as the walk does, and a miner hands over what the walk gives. -/
theorem history_agrees_broken : ∃ (w : World Unit) (c c' : Commit),
    (commits w).1 = .error (.problem (History.malformed ['?'])) ∧
      ∃ w', Miner.plainMiner.mineHistory "/project" (.start oneRepository (.answering brokenAnswer)) =
        (.error (.problem (History.malformed ['?'])), w') ∧
          w'.accepted = [.commit c, .commit c'] := by
  obtain ⟨w, h, c, c', v, hopen, hs, haccepted, hgives⟩ := exists_gives_broken
  obtain ⟨given, result, v', hwalk, hlist, -, -, -, hmining⟩ := history_agrees hs
  obtain ⟨rfl, rfl, rfl⟩ := (hwalk _ _ _).1 hgives
  obtain ⟨handed, result', u, -, hmine, hhanded, -, haside⟩ :=
    hmining Miner.plainMiner "/project" _ hopen Sink.takesAll_memory
  obtain ⟨rfl, rfl⟩ := haside Eq (Sink.worksAside_memory w.git)
  refine ⟨w, c, c', hlist, _, hmine, ?_⟩
  rw [hhanded, haccepted]
  rfl

end HistoryMetrics
