import HistoryMetrics.Proofs.Repository.Blind
import HistoryMetrics.Proofs.Session.CommandLines

/-! # Walks through the history

    A walk reads the history of the open repository once, and then gives its commits one by one. Here it
    is shown what one step of a walk does: what it gives to git, what is open after it, and what it does
    not look at.

    - `Renews`: a repository that is opened has a new number
    - `Walk.next_ends`: the ways in which a step of a walk ends
    - `Walk.next_fresh_goesOn`, `Walk.advance_goesOn`: the commands of a step
    - `Walk.advance_openAs`: a walk under way does not ask what is open
-/

namespace HistoryMetrics

open HistoryMetrics.Action World

variable {σ : Type}

/-! ## Which repository is open -/

/-- **What is open after a step** was open before it, or was opened by it and has a new number. -/
structure Renews (w w' : World σ) : Prop where
  helpers : w.helpers ≤ w'.helpers
  session : ∀ h, w'.session = some h →
    w.session = some h ∨ w.helpers ≤ h.number ∧ h.number < w'.helpers

namespace Renews

theorem refl (w : World σ) : Renews w w := ⟨Nat.le_refl _, fun _ => .inl⟩

theorem trans {w₁ w₂ w₃ : World σ} (h : Renews w₁ w₂) (h' : Renews w₂ w₃) : Renews w₁ w₃ := by
  constructor
  case helpers => exact Nat.le_trans h.helpers h'.helpers
  case session =>
    intro hd hs
    -- it was opened by the second step, by the first one, or was open before
    rcases h'.session hd hs with hs₂ | ⟨hle, hlt⟩
    · rcases h.session hd hs₂ with hs₁ | ⟨hle, hlt⟩
      · exact .inl hs₁
      · exact .inr ⟨hle, Nat.lt_of_lt_of_le hlt h'.helpers⟩
    · exact .inr ⟨Nat.le_trans h.helpers hle, hlt⟩

/-- Nothing is open. -/
theorem of_closed {w w' : World σ} (hh : w'.helpers = w.helpers) (hs : w'.session = none) :
    Renews w w' := by
  constructor
  case helpers => exact Nat.le_of_eq hh.symm
  case session =>
    intro h hsome
    rw [hs] at hsome
    cases hsome

end Renews

theorem World.Still.renews {w w' : World σ} (h : Still w w') : Renews w w' := by
  constructor
  case helpers => exact Nat.le_of_eq h.helpers.symm
  case session =>
    intro hd hs
    left
    rw [← h.session, hs]

namespace Session

@[simp] theorem close_helpers (w : World σ) : (close w).helpers = w.helpers := by
  have hallows : AllowsClosing fun v v' : World σ =>
      v.helpers = w.helpers → v'.helpers = w.helpers :=
    ⟨fun _ _ => id, fun _ => id, fun _ _ => id, fun _ _ => id⟩
  exact hallows.keeps_close rfl

theorem renews_close (w : World σ) : Renews w (close w) :=
  .of_closed (close_helpers w) (close_session w)

theorem renews_failed (name : String) (f : Failure) (w : World σ) : Renews w (failed name f w) :=
  .of_closed (close_helpers _) (failed_session name f w)

/-- What is held while the repository is open tells which repository it is. -/
theorem acquire_ok {r : Repository} {h : Handles} {w w' : World σ}
    (hacquire : acquire r w = (.ok h, w')) : h.toRepository = r := by
  obtain ⟨_, _, -, hstart⟩ := bind_ok_iff.1 hacquire
  obtain ⟨_, _, -, hpure⟩ := bind_ok_iff.1 hstart
  cases hpure
  rfl

/-- **Opening takes a new number.** -/
theorem open_ok {path : Path} {timeout threshold : Value} {w w' : World σ}
    (hopen : Session.open path timeout threshold w = (.ok (), w')) :
    ∃ h, w'.session = some h ∧ h.number = w.helpers := by
  unfold Session.open at hopen
  split at hopen
  · cases hopen
  · obtain ⟨folder, w₁, hroot, hopen⟩ := bind_ok_iff.1 hopen
    obtain ⟨_, w₂, hrequire, hopen⟩ := bind_ok_iff.1 hopen
    obtain ⟨r, w₃, hnew, hopen⟩ := bind_ok_iff.1 hopen
    obtain ⟨h, w₄, hacquire, hupdate⟩ := bind_ok_iff.1 hopen
    have hr : h.toRepository = r := acquire_ok (renamed_ok_iff.1 hacquire)
    have hw₁ : w₁ = w := by
      unfold rootOf at hroot
      split at hroot
      · cases hroot
      · cases hroot
        rfl
    have hw₂ : w₂ = w₁ := by
      unfold requireRepository at hrequire
      split at hrequire
      · cases hrequire
      · cases hrequire
        rfl
      · cases hrequire
    cases hupdate
    cases hnew
    subst hw₁ hw₂
    exact ⟨h, rfl, congrArg Repository.number hr⟩

theorem renews_open (path : Path) (timeout threshold : Value) :
    Moves Renews (Session.open path timeout threshold : Action (World σ) Unit) := by
  intro w
  cases hs : w.session with
  | some h =>
    rw [open_of_open path timeout threshold hs]
    exact .refl w
  | none =>
    rcases open_cases path timeout threshold hs with ⟨f, w', hopen, hw'⟩ | ⟨h, w', hopen, hw'⟩
    · rw [hopen]
      have hnone : w'.session = none := hw'.session.trans hs
      constructor
      case helpers => exact hw'.helpers
      case session =>
        intro hd hsome
        rw [hnone] at hsome
        cases hsome
    · rw [hopen]
      obtain ⟨h', hs', hnumber⟩ := open_ok hopen
      have hlt : w.helpers < w'.helpers := by
        rw [hw'.helpers, hw'.fresh]
        exact Nat.lt_succ_self _
      constructor
      case helpers => exact Nat.le_of_lt hlt
      case session =>
        intro hd hsome
        right
        rw [hs'] at hsome
        cases hsome
        rw [hnumber]
        exact ⟨Nat.le_refl _, hlt⟩

theorem Ends.renews {α : Type} {name : String} {r : Except Failure α} {w w' : World σ}
    (h : Ends name w r w') : Renews w w' := by
  cases h with
  | refused _ => exact .refl w
  | returned _ _ hsteady => exact hsteady.renews
  | interrupted _ hsteady => exact hsteady.renews
  | failed f _ _ hstill => exact hstill.renews.trans (renews_failed name f _)

theorem Call.renews (c : Call) : Moves Renews (c.run : Action (World σ) Unit) := by
  cases c with
  | «open» path timeout threshold => exact renews_open path timeout threshold
  | close => exact renews_close
  | request q => exact fun w => (q.ends w).renews

theorem Call.knows {g : Git σ} (c : Call) {w : World σ} (hw : Knows g w) : Knows g (c.run w).2 := by
  cases c with
  | «open» path timeout threshold => exact (keeps_open path timeout threshold w hw).1
  | close => exact knows_close hw
  | request q => exact (q.keeps w hw).1

end Session

/-! ## A step of a walk -/

/-- **The event is about a command for the repository**, or only ends a helper. -/
def GitEvent.BelongsTo (r : Repository) (K : List String → Prop) (e : GitEvent) : Prop :=
  e.Concerns (r.Gives K) ∨ e.IsClosing

/-- The commands of a walk: the history is read, and its commits are compared. -/
def Walk.Commands (g : Git σ) (arguments : List String) : Prop :=
  arguments = Repository.logArguments ["--all"] ∨ ComparesTold g arguments

theorem GitEvent.BelongsTo.mono {r : Repository} {K K' : List String → Prop}
    (h : ∀ arguments, K arguments → K' arguments) {e : GitEvent} (he : e.BelongsTo r K) :
    e.BelongsTo r K' := by
  refine he.imp_left fun hc => ?_
  exact hc.mono fun c hgives => hgives.mono h

namespace Walk

open Session

/-- **How a step of a walk ends**: with what result, how it goes on, and in what world. -/
inductive Ends (w : World σ) : Except Failure (Option Commit) × Walk × World σ → Prop where
  | refused : w.session = none → Ends w (.error (wrongState operation "closed"), .over, w)
  | nothing {w' : World σ} : Steady w w' → Ends w (.ok none, .over, w')
  | gave (c : Commit) (r : Repository) (rest : List (List Char)) {w' : World σ} : Steady w w' →
      Ends w (.ok (some c), .underWay r rest, w')
  | interrupted {w' : World σ} : Steady w w' → Ends w (.error .interrupt, .over, w')
  | failed (f : Failure) {w' : World σ} : f ≠ .interrupt → Steady w w' →
      Ends w (.error (raised operation f w'), .over, Session.failed operation f w')

theorem Ends.renews {w : World σ} {done : Except Failure (Option Commit) × Walk × World σ}
    (h : Ends w done) : Renews w done.2.2 := by
  cases h with
  | refused _ => exact .refl w
  | nothing hsteady => exact hsteady.renews
  | gave _ _ _ hsteady => exact hsteady.renews
  | interrupted hsteady => exact hsteady.renews
  | failed f _ hsteady => exact hsteady.renews.trans (renews_failed operation f _)

theorem Ends.keepsHelpers {w : World σ} {done : Except Failure (Option Commit) × Walk × World σ}
    (h : Ends w done) : KeepsHelpers w done.2.2 := by
  cases h with
  | refused _ => exact refl_of KeepsHelpers w
  | nothing hsteady => exact hsteady.keepsHelpers
  | gave _ _ _ hsteady => exact hsteady.keepsHelpers
  | interrupted hsteady => exact hsteady.keepsHelpers
  | failed f _ hsteady =>
    exact trans_of KeepsHelpers hsteady.keepsHelpers (keepsHelpers_failed operation f _)

section ends

variable {w : World σ} {done : Except Failure (Option Commit) × Walk × World σ}

/-- A step that returns leaves open what is open. -/
theorem Ends.session_of_ok (h : Ends w done) {c : Option Commit} (hc : done.1 = .ok c) :
    done.2.2.session = w.session := by
  cases h with
  | refused _ => cases hc
  | nothing hsteady => exact hsteady.session
  | gave _ _ _ hsteady => exact hsteady.session
  | interrupted _ => cases hc
  | failed _ _ _ => cases hc

theorem Ends.session_of_interrupt (h : Ends w done) (hc : done.1 = .error .interrupt) :
    done.2.2.session = w.session := by
  cases h with
  | refused _ => rfl
  | nothing _ => cases hc
  | gave _ _ _ _ => cases hc
  | interrupted hsteady => exact hsteady.session
  | @failed f w' hf _ => exact absurd (Except.error.inj hc) (raised_ne_interrupt operation hf w')

/-- **A step that fails ends the walk**, and nothing is open after it. -/
theorem Ends.closed_of_error (h : Ends w done) {f : Failure} (hf : done.1 = .error f)
    (hne : f ≠ .interrupt) : done.2.1 = .over ∧ done.2.2.session = none := by
  cases h with
  | refused hs => exact ⟨rfl, hs⟩
  | nothing _ => cases hf
  | gave _ _ _ _ => cases hf
  | interrupted _ =>
    cases hf
    exact absurd rfl hne
  | failed _ _ _ => exact ⟨rfl, failed_session _ _ _⟩

end ends

theorem advance_ends (r : Repository) (records : List (List Char)) {w w₁ : World σ}
    (hw : Steady w w₁) : Ends w (advance r records w₁) := by
  cases records with
  | nil => exact .nothing hw
  | cons record rest =>
    rcases steadily_guarded_cases operation (Repository.steady_commitOf r record) w₁ with
      ⟨c, w', hread, hsteady⟩ | ⟨w', hread, hsteady⟩ | ⟨f, w', -, hread, hf, hsteady⟩
    · simp only [advance, read, hread]
      exact .gave c r rest (hw.trans hsteady)
    · simp only [advance, read, hread]
      exact .interrupted (hw.trans hsteady)
    · simp only [advance, read, hread]
      exact .failed f hf (hw.trans hsteady)

/-- **The first step**, a repository being open: its history is read, and then the walk goes on. -/
theorem next_fresh_of_session {w : World σ} {h : Handles} (hs : w.session = some h) :
    next .fresh w =
      match (h.toRepository.records ["--all"]).guarded (Session.failing operation) w with
      | (.ok records, w') => advance h.toRepository records w'
      | (.error f, w') => (.error f, .over, w') := by
  simp only [next, begin, bind_apply, handles_of_session hs]
  rcases (h.toRepository.records ["--all"]).guarded (Session.failing operation) w with ⟨r, w'⟩
  cases r <;> rfl

theorem next_fresh_of_closed {w : World σ} (hs : w.session = none) :
    next .fresh w = (.error (wrongState operation "closed"), .over, w) := by
  simp only [next, begin, bind_apply, handles_of_closed hs]

/-- **A step of a walk ends in one of these ways.** -/
theorem next_ends (walk : Walk) (w : World σ) : Ends w (walk.next w) := by
  cases walk with
  | «over» => exact .nothing (.refl w)
  | underWay r rest => exact advance_ends r rest (.refl w)
  | fresh =>
    cases hs : w.session with
    | none =>
      rw [next_fresh_of_closed hs]
      exact .refused hs
    | some h =>
      rw [next_fresh_of_session hs]
      rcases steadily_guarded_cases operation (h.toRepository.steady_records ["--all"]) w with
        ⟨records, w', hrecords, hsteady⟩ | ⟨w', hrecords, hsteady⟩ | ⟨f, w', -, hrecords, hf, hsteady⟩
      · simp only [hrecords]
        exact advance_ends h.toRepository records hsteady
      · simp only [hrecords]
        exact .interrupted hsteady
      · simp only [hrecords]
        exact .failed f hf hsteady

/-! ### What a walk has at hand -/

/-- The repository that a walk under way goes on with. -/
def repository : Walk → Option Repository
  | .underWay r _ => some r
  | .fresh | .over => none

/-- The records that a walk under way has before it. -/
def records : Walk → List (List Char)
  | .underWay _ rest => rest
  | .fresh | .over => []

/-- **A walk goes on for a repository**: what it does to git belongs to the repository, and what it has
    before it then has been printed by git. -/
structure GoesOn (g : Git σ) (r : Repository) (K : List String → Prop) (w : World σ)
    (done : Except Failure (Option Commit) × Walk × World σ) : Prop where
  knows : Knows g done.2.2
  adds : Adds (GitEvent.BelongsTo r K) w done.2.2
  prints : ∀ record ∈ done.2.1.records, g.Prints record
  repository : ∀ r', done.2.1.repository = some r' → r' = r

variable {g : Git σ}

/-- A walk that is over has nothing before it. -/
theorem GoesOn.ended {r : Repository} {K : List String → Prop} {w w' : World σ}
    {result : Except Failure (Option Commit)} (hknows : Knows g w')
    (hadds : Adds (GitEvent.BelongsTo r K) w w') : GoesOn g r K w (result, .over, w') :=
  ⟨hknows, hadds, fun _ h => absurd h List.not_mem_nil, fun _ h => by cases h⟩

/-- Closing after a failure gives no commands of its own. -/
theorem keeps_closing {α : Type} {r : Repository} {K : List String → Prop} {Q : α → Prop}
    {step : Action (World σ) α} (h : Keeps (Knows g) (Adds (GitEvent.Concerns (r.Gives K))) Q step) :
    Keeps (Knows g) (Adds (GitEvent.BelongsTo r K)) Q
      (step.guarded (Session.failing operation)) := by
  have hstep : Keeps (Knows g) (Adds (GitEvent.BelongsTo r K)) Q step :=
    h.along fun _ _ hadds => hadds.mono fun _ => .inl
  refine hstep.guarded ?_
  intro f w hw
  have hknows : Knows g (Session.failed operation f w) :=
    (keeps_failed (K := fun _ => True) operation f hw).1
  exact ⟨hknows, (adds_failed operation f w).mono fun _ => .inr⟩

theorem advance_goesOn (r : Repository) {records : List (List Char)}
    (hrecords : ∀ record ∈ records, g.Prints record) {w : World σ} (hw : Knows g w) :
    GoesOn g r (ComparesTold g) w (advance r records w) := by
  cases records with
  | nil => exact .ended hw (.refl w)
  | cons record rest =>
    obtain ⟨hrecord, hrest⟩ := List.forall_mem_cons.1 hrecords
    obtain ⟨hknows, hadds, -⟩ := keeps_closing (r.keeps_commitOf hrecord) w hw
    rcases hread : (r.commitOf record).guarded (Session.failing operation) w with ⟨result, w'⟩
    rw [hread] at hknows hadds
    cases result with
    | error f =>
      simp only [advance, read, hread]
      exact .ended hknows hadds
    | ok c =>
      simp only [advance, read, hread]
      constructor
      case knows => exact hknows
      case adds => exact hadds
      case prints => exact hrest
      case repository =>
        intro r' h
        cases h
        rfl

/-- **The first step reads the history of the open repository.** -/
theorem next_fresh_goesOn {w : World σ} (hw : Knows g w) {h : Handles} (hs : w.session = some h) :
    GoesOn g h.toRepository (Commands g) w (next .fresh w) := by
  have hread := keeps_closing (h.toRepository.keeps_records (g := g) ["--all"]) w hw
  rw [next_fresh_of_session hs]
  rcases hrecords : (h.toRepository.records ["--all"]).guarded (Session.failing operation) w with
    ⟨result, w'⟩
  rw [hrecords] at hread
  obtain ⟨hknows, hadds, hprints⟩ := hread
  have hadds' : Adds (GitEvent.BelongsTo h.toRepository (Commands g)) w w' :=
    hadds.mono fun _ he => he.mono fun _ => .inl
  cases result with
  | error f => exact .ended hknows hadds'
  | ok records =>
    -- the history has been read, and the walk goes on with its first record
    have hfirst := advance_goesOn h.toRepository (hprints records rfl) hknows
    have hcompares : Adds (GitEvent.BelongsTo h.toRepository (Commands g)) w'
        (advance h.toRepository records w').2.2 :=
      hfirst.adds.mono fun _ he => he.mono fun _ => .inr
    exact ⟨hfirst.knows, hadds'.trans hcompares, hfirst.prints, hfirst.repository⟩

/-- **The history is asked for before all else.** -/
theorem next_fresh_gives_first {w : World σ} (hw : Knows g w) {h : Handles} (hs : w.session = some h)
    (hnull : (h.toRepository.command (Repository.logArguments ["--all"]) none).holdsNull = false) :
    GivesFirst (h.toRepository.command (Repository.logArguments ["--all"]) none) w
      (next .fresh w).2.2 := by
  obtain ⟨hknows, hfirst, hprints⟩ :=
    first_guarded operation (h.toRepository.first_records (g := g) hnull) w hw
  rw [next_fresh_of_session hs]
  rcases hrecords : (h.toRepository.records ["--all"]).guarded (Session.failing operation) w with
    ⟨result, w'⟩
  rw [hrecords] at hknows hfirst hprints
  cases result with
  | error f => exact hfirst
  | ok records => exact hfirst.adds (advance_goesOn h.toRepository (hprints records rfl) hknows).adds

/-- **A walk gives the commit of the next record**, or the problem of reading it, as long as nothing
    goes wrong with closing. -/
theorem advance_cons_fst (r : Repository) (record : List Char) (rest : List (List Char))
    {w : World σ} (hw : w.AllSent) :
    (advance r (record :: rest) w).1 = (r.commitOf record w).1.map some := by
  rw [← guarded_fst (Session.failing operation) (failing_fst_of_steady hw (r.steady_commitOf record))]
  rcases hread : (r.commitOf record).guarded (Session.failing operation) w with ⟨result, w'⟩
  simp only [advance, read, hread]
  cases result <;> rfl

/-! ### What a walk does not look at -/

/-- The second world is the first one with something else open. -/
def OpenAs (s : Option Handles) (w v : World σ) : Prop := v = { w with session := s }

/-- **Reading a repository does not look at what is open.** -/
theorem blind_openAs (s : Option Handles) : Repository.Blind (OpenAs (σ := σ) s) where
  logged h _ := by
    subst h
    rfl
  learned h _ := by
    subst h
    rfl
  emptyTrees h := by
    subst h
    rfl
  perform c := by
    rintro w _ rfl
    rcases hrun : w.git.run c w.outside w.disk with ⟨outcome, outside, disk⟩
    simp only [Repository.perform, hrun]
    cases outcome <;> exact ⟨.refl _, rfl⟩

/-- **A walk under way does not ask what is open**: it returns or fails in the same way, and goes on in
    the same way. -/
theorem advance_openAs {s : Option Handles} (r : Repository) (records : List (List Char))
    {w : World σ} (hw : w.AllSent) (hs : ({ w with session := s } : World σ).AllSent) :
    (advance r records { w with session := s }).1 = (advance r records w).1 ∧
      (advance r records { w with session := s }).2.1 = (advance r records w).2.1 := by
  cases records with
  | nil => exact ⟨rfl, rfl⟩
  | cons record rest =>
    have hend := ((blind_openAs s).agree_commitOf r record w { w with session := s } rfl).1
    have hread : (read r record { w with session := s }).1 = (read r record w).1 := by
      have hsteady : Moves Steady (r.commitOf record : Action (World σ) Commit) :=
        r.steady_commitOf record
      rw [read, guarded_fst _ (failing_fst_of_steady hw hsteady),
        guarded_fst _ (failing_fst_of_steady hs hsteady)]
      exact hend.eq.symm
    rcases hw : read r record w with ⟨result, w'⟩
    rcases hv : read r record { w with session := s } with ⟨result', v'⟩
    rw [hw, hv] at hread
    obtain rfl : result' = result := hread
    simp only [advance, hw, hv]
    cases result' <;> exact ⟨rfl, rfl⟩

end Walk

end HistoryMetrics
