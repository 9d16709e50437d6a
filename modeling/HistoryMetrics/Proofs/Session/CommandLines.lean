import HistoryMetrics.Proofs.Repository.Commands
import HistoryMetrics.Proofs.Session.StateMachine

/-! # The command lines of a session

    Every operation of a session builds its command lines in its own way. They are listed here, one
    rule for each form, with what is known of the words that are no words of the program: given by the
    caller, or told by git. Then each operation is shown to give commands of its own forms only.

    - `Session.Issued`: the command lines that an operation may give
    - `Session.keeps_open`, `Session.knows_close`: opening gives one command, closing none
    - `Session.Request.keeps`: the operations give what is listed
    - `Session.Request.gives_first`: they do give it
-/

namespace HistoryMetrics

open HistoryMetrics.Action World

variable {σ α : Type}

namespace Session

/-- The command that asks for the folder of git's own files. -/
def folderArguments : List String := ["rev-parse", "--absolute-git-dir"]

/-- The command that lists the commits that can be reached from one. -/
def reachedArguments (start : String) : List String := ["rev-list", start]

/-- The command that puts a commit into the working tree. -/
def checkoutArguments (object : String) : List String := ["checkout", "--force", "--detach", object]

/-- **The command lines that an operation may give.**

    - `history`, `commit`: the history is read, and its commits are compared
    - `ofTarget`: the target of a reference is taken as it is
    - `ofPath`, `checkout`: a name is resolved first
-/
inductive Issued (g : Git σ) : Request → List String → Prop where
  | references : Issued g .references referenceArguments
  | history : Issued g .commits (Repository.logArguments ["--all"])
  | historyCompared {arguments : List String} : ComparesTold g arguments →
      Issued g .commits arguments
  | commit (id : String) : Issued g (.commit id) (Repository.logArguments (commitSelection id))
  | commitCompared {id : String} {arguments : List String} : ComparesTold g arguments →
      Issued g (.commit id) arguments
  | ofTarget {r : Reference} {t : String} : r.target = some t → t ≠ "" →
      Issued g (.idsOf r) (reachedArguments t)
  | ofPath {r : Reference} {id : String} : (∀ t, r.target = some t → t = "") →
      g.Resolves (commitName r.path) id → Issued g (.idsOf r) (reachedArguments id)
  | checkout {id object : String} : g.Resolves (commitName id) object →
      Issued g (.checkout id) (checkoutArguments object)
  | files (id : String) : Issued g (.files id) (fileArguments id)

end Session

variable {g : Git σ}

/-! ## Events that are about no command -/

/-- Commands of some kind, and whatever else is done to git. -/
abbrev AddsOnly (K : List String → Prop) (w w' : World σ) : Prop :=
  Adds (GitEvent.Allows fun c => K c.arguments) w w'

/-- Commands for one repository, of some kind. -/
theorem Action.Keeps.allowing {r : Repository} {K K' : List String → Prop} {Q : α → Prop}
    {step : Action (World σ) α}
    (h : Keeps (Knows g) (Adds (GitEvent.Concerns (r.Gives K))) Q step)
    (hK : ∀ arguments, K arguments → K' arguments) : Keeps (Knows g) (AddsOnly K') Q step := by
  refine h.along fun w w' hadds => hadds.mono fun e he => GitEvent.Concerns.allows ?_
  exact he.mono fun c hc => hK c.arguments hc.arguments

section questions

variable {K : List String → Prop}

/-- A command of the right kind. -/
theorem Repository.keeps_issue (r : Repository) {arguments : List String} (h : K arguments)
    (input : Option String) :
    Keeps (Knows g) (AddsOnly K) (g.Writes arguments) (r.run arguments input) := by
  refine (r.keeps_run arguments input).allowing fun _ harguments => ?_
  rw [harguments]
  exact h

namespace Helper

/-- What the helper returns has been told by git. -/
theorem keeps_ask (helper : Nat) (name : String) :
    Keeps (Knows g) (AddsOnly K)
      (fun found => ∀ info, found = some info → g.Resolves name info.id) (ask helper name) := by
  intro w hw
  obtain ⟨rfl, htrees⟩ := hw
  rcases hask : w.git.ask helper name w.outside with ⟨answer, outside⟩
  have hknows : Knows w.git { w with outside } := ⟨rfl, htrees⟩
  have hevent : (GitEvent.asked helper name).Allows fun c => K c.arguments := trivial
  have hadds : AddsOnly K w ({ w with outside }.happened (.asked helper name)) :=
    ⟨[.asked helper name], rfl, by simpa using hevent⟩
  simp only [ask, hask]
  cases answer with
  | error m => exact ⟨⟨rfl, htrees⟩, hadds, fun _ ha => by cases ha⟩
  | ok line =>
    refine ⟨hknows.happened _, hadds, fun found hfound info hinfo => ?_⟩
    subst hinfo
    -- an answer that can be read is the one that git gave
    have hread : ObjectInfo.ofLine (Git.text line) = .ok (some info) := by
      cases hline : ObjectInfo.ofLine (Git.text line) with
      | error e =>
        simp only [hline] at hfound
        cases hfound
      | ok found =>
        simp only [hline] at hfound
        cases hfound
        rfl
    exact ⟨helper, w.outside, line, info, by rw [hask], hread, rfl⟩

theorem keeps_info (helper : Nat) (name : String) :
    Keeps (Knows g) (AddsOnly K)
      (fun found => ∀ info, found = some info → g.Resolves name info.id) (info helper name) := by
  intro w hw
  unfold info
  split
  · exact ⟨hw, .refl w, fun _ ha => by cases ha⟩
  · split
    · exact keeps_ask helper name w hw
    · exact ⟨hw, .refl w, fun _ ha => by cases ha⟩

theorem keeps_start (root : Path) :
    Keeps (Knows g) (AddsOnly K) (fun _ => True) (start root) := by
  intro w hw
  rcases hstart : w.git.startHelper w.helpers root w.outside with ⟨mishap, outside⟩
  have hevent : (GitEvent.helperStarted w.helpers root).Allows fun c => K c.arguments := trivial
  have hadds : ∀ v : World σ, v.events = w.events ++ [.helperStarted w.helpers root] →
      AddsOnly K w v := fun v hv => ⟨_, hv, by simpa using hevent⟩
  simp only [start, hstart]
  cases mishap with
  | some m => exact ⟨⟨hw.git, hw.emptyTrees⟩, hadds _ rfl, fun _ _ => trivial⟩
  | none => exact ⟨⟨hw.git, hw.emptyTrees⟩, hadds _ rfl, fun _ _ => trivial⟩

end Helper

namespace Session

/-! ## Opening and closing -/

theorem knows_close {w : World σ} (hw : Knows g w) : Knows g (close w) := by
  have hallows : AllowsClosing fun w w' : World σ => Knows g w → Knows g w' :=
    ⟨fun _ _ hw => hw.scene _, fun _ hw => ⟨hw.git, hw.emptyTrees⟩,
      fun _ _ hw => ⟨hw.git, hw.emptyTrees⟩, fun _ _ hw => hw.happened _⟩
  exact hallows.keeps_close hw

theorem keeps_failed (name : String) (f : Failure) {w : World σ} (hw : Knows g w) :
    Knows g (failed name f w) ∧ AddsOnly K w (failed name f w) :=
  ⟨knows_close (hw.scene _), (adds_failed name f w).mono fun _ he => he.allows _⟩

/-- The handles of a session are there or not; nothing is done for that. -/
theorem keeps_handles {P : GitEvent → Prop} (name : String) :
    Keeps (Knows g) (Adds P) (fun _ => True) (handles name) := by
  intro w hw
  unfold handles
  cases w.session <;> exact ⟨hw, .refl w, fun _ _ => trivial⟩

/-- **An operation gives the commands of its body.** -/
theorem keeps_operation (name : String) {body : Handles → Action (World σ) α}
    (hbody : ∀ h, Keeps (Knows g) (AddsOnly K) (fun _ => True) (body h)) :
    Keeps (Knows g) (AddsOnly K) (fun _ => True) (operation name body) :=
  (keeps_handles name).bind fun h _ => (hbody h).guarded fun f _ hw => keeps_failed name f hw

/-- **Opening gives one command**, whatever path is given. -/
theorem keeps_open (path : Path) (timeout threshold : Value) :
    Keeps (Knows g) (AddsOnly (· = folderArguments)) (fun _ => True)
      (Session.open path timeout threshold) := by
  have hroot : Keeps (Knows g) (AddsOnly (· = folderArguments)) (fun _ => True) (rootOf path) := by
    intro w hw
    unfold rootOf
    split <;> exact ⟨hw, .refl w, fun _ _ => trivial⟩
  have hrequire : ∀ folder, Keeps (Knows g) (AddsOnly (· = folderArguments)) (fun _ => True)
      (requireRepository folder) := by
    intro folder w hw
    unfold requireRepository
    split <;> exact ⟨hw, .refl w, fun _ _ => trivial⟩
  have hnew : ∀ folder, Keeps (Knows g) (AddsOnly (· = folderArguments)) (fun _ => True)
      (newRepository folder timeout threshold) := fun folder => keeps_read fun _ _ => trivial
  have hacquire : ∀ r, Keeps (Knows g) (AddsOnly (· = folderArguments)) (fun _ => True)
      (acquire r) := by
    intro r
    have hrun := r.keeps_issue (g := g) (K := (· = folderArguments)) rfl none
    exact hrun.bind fun _ _ => (Helper.keeps_start _).bind fun _ _ => keeps_pure trivial
  intro w hw
  unfold Session.open
  split
  · exact ⟨hw, .refl w, fun _ _ => trivial⟩
  · refine (hroot.bind fun folder _ => (hrequire folder).bind fun _ _ => (hnew folder).bind
      fun r _ => ((hacquire r).renamed _).bind fun h _ => ?_) w hw
    exact keeps_update (fun v hv => ⟨hv.git, hv.emptyTrees⟩) fun v => .of_events_eq rfl

/-! ## The operations -/

theorem keeps_peel (h : Handles) (name : String) :
    Keeps (Knows g) (AddsOnly K)
      (fun found => ∀ id, found = some id → g.Resolves (commitName name) id) (peel h name) := by
  refine ((Helper.keeps_info h.helper _).renamed _).bind fun found hfound => keeps_pure ?_
  intro id hid
  obtain ⟨info, hinfo, rfl⟩ := Option.map_eq_some_iff.1 hid
  exact hfound info hinfo

/-- **Where the walk of a reference starts**: at its target, or where its path has been resolved to. -/
theorem keeps_startOf (h : Handles) (r : Reference) :
    Keeps (Knows g) (AddsOnly K)
      (fun found => ∀ start, found = some start → Issued g (.idsOf r) (reachedArguments start))
      (startOf h r) := by
  unfold startOf
  cases htarget : r.target with
  | none =>
    refine (keeps_peel h r.path).mono (fun _ _ => id) fun found hfound start hstart => ?_
    exact .ofPath (fun t ht => by rw [htarget] at ht; cases ht) (hfound start hstart)
  | some t =>
    by_cases hempty : t = ""
    · subst hempty
      refine (keeps_peel h r.path).mono (fun _ _ => id) fun found hfound start hstart => ?_
      refine .ofPath (fun t ht => ?_) (hfound start hstart)
      rw [htarget] at ht
      exact (Option.some.inj ht).symm
    · have hsome : t.isEmpty = false := by simpa using hempty
      simp only [hsome, Bool.false_eq_true, if_false]
      refine keeps_pure fun start hstart => ?_
      cases hstart
      exact .ofTarget htarget hempty

theorem keeps_clearLock (h : Handles) (id : String) :
    Keeps (Knows g) (AddsOnly K) (fun _ => True) (clearLock h id) := by
  have hheld : Keeps (Knows g) (AddsOnly K) (fun _ => True)
      (isLocked h : Action (World σ) Bool) :=
    fun w hw => ⟨hw, .refl w, fun _ _ => trivial⟩
  have hremove : ∀ lock, Keeps (Knows g) (AddsOnly K) (fun _ => True) (removeLock id lock) := by
    intro lock w hw
    unfold removeLock
    split
    · exact ⟨⟨hw.git, hw.emptyTrees⟩, .of_events_eq rfl, fun _ _ => trivial⟩
    · exact ⟨hw, .refl w, fun _ _ => trivial⟩
  refine hheld.bind fun isLocked _ => ?_
  split
  · exact (keeps_log _ _ _).bind fun _ _ => hremove _
  · exact keeps_pure trivial

theorem keeps_resolveCommit (h : Handles) (id : String) :
    Keeps (Knows g) (AddsOnly K) (g.Resolves (commitName id)) (resolveCommit h id) := by
  refine ((Helper.keeps_info h.helper _).renamed _).bind fun found hfound => ?_
  cases found with
  | none => exact keeps_fail _
  | some info => exact keeps_pure (hfound info rfl)

theorem keeps_checkout (id : String) :
    Keeps (Knows g) (AddsOnly (Issued g (.checkout id))) (fun _ => True) (checkout id) := by
  refine keeps_operation _ fun h => (keeps_clearLock h id).bind fun _ _ => ?_
  refine (keeps_resolveCommit h id).bind fun object hobject => ?_
  have hrun := h.toRepository.keeps_issue (g := g) (Issued.checkout hobject) none
  exact (hrun.renamed _).bind fun _ _ => keeps_log _ _ _

theorem keeps_idsOf (r : Reference) :
    Keeps (Knows g) (AddsOnly (Issued g (.idsOf r))) (fun _ => True) (idsOf r) := by
  refine keeps_operation _ fun h => (keeps_startOf h r).bind fun found hfound => ?_
  cases found with
  | none => exact (keeps_log _ _ _).bind fun _ _ => keeps_pure trivial
  | some start =>
    have hrun := h.toRepository.keeps_issue (g := g) (hfound start rfl) none
    exact (hrun.renamed _).bind fun _ _ => keeps_pure trivial

/-- **An operation gives commands of its own forms only**, and all that git has told stays known. -/
theorem Request.keeps (q : Request) :
    Keeps (Knows g) (AddsOnly (Issued g q)) (fun _ => True) (q.run : Action (World σ) Unit) := by
  cases q with
  | references =>
    refine Keeps.map (keeps_operation _ fun h => ?_) fun _ _ => trivial
    have hrun := h.toRepository.keeps_issue (g := g) (Issued.references (g := g)) none
    exact (hrun.renamed _).bind fun _ _ => keeps_pure trivial
  | commits =>
    refine Keeps.map (keeps_operation _ fun h => ?_) fun _ _ => trivial
    refine (h.toRepository.keeps_commits ["--all"]).allowing fun arguments harguments => ?_
    rcases harguments with rfl | hcompares
    · exact .history
    · exact .historyCompared hcompares
  | commit id =>
    refine Keeps.map (keeps_operation _ fun h => ?_) fun _ _ => trivial
    have hforms : ∀ arguments, arguments = Repository.logArguments (commitSelection id) ∨
        ComparesTold g arguments → Issued g (.commit id) arguments := by
      rintro arguments (rfl | hcompares)
      · exact .commit id
      · exact .commitCompared hcompares
    refine ((h.toRepository.keeps_commits _).allowing hforms).bind fun found _ => ?_
    cases found with
    | nil => exact keeps_fail _
    | cons c _ => exact keeps_pure trivial
  | idsOf r => exact (keeps_idsOf r).map fun _ _ => trivial
  | checkout id => exact keeps_checkout id
  | files id =>
    refine Keeps.map (keeps_operation _ fun h => ?_) fun _ _ => trivial
    have hrun := h.toRepository.keeps_issue (g := g) (Issued.files (g := g) id) none
    exact (hrun.renamed _).bind fun _ _ => keeps_pure trivial

end Session

end questions

/-! ## The first command -/

/-- What comes after the first command does not matter. -/
theorem Action.Keeps.first {α β : Type} {c : GitCommand} {Q : α → Prop} {Q' : β → Prop}
    {P : GitEvent → Prop} {step : Action (World σ) α} {next : α → Action (World σ) β}
    (h : Keeps (Knows g) (GivesFirst c) Q step)
    (hnext : ∀ a, Q a → Keeps (Knows g) (Adds P) Q' (next a)) :
    Keeps (Knows g) (GivesFirst c) Q' (step >>= next) := by
  have hafter : ∀ w w' w'' : World σ, GivesFirst c w w' → Adds P w' w'' → GivesFirst c w w'' :=
    fun _ _ _ => GivesFirst.adds
  exact h.followed hafter hnext

namespace Repository

variable (r : Repository)

/-- A command that can be given is given first, and what it returns has been written by git. -/
theorem first_run {arguments : List String} {input : Option String}
    (hnull : (r.command arguments input).holdsNull = false) :
    Keeps (Knows g) (GivesFirst (r.command arguments input)) (g.Writes arguments)
      (r.run arguments input) := by
  intro w hw
  obtain ⟨hknows, -, hvalue⟩ := r.keeps_run arguments input w hw
  exact ⟨hknows, r.run_gives hnull w, hvalue⟩

theorem first_records {selection : List String}
    (hnull : (r.command (logArguments selection) none).holdsNull = false) :
    Keeps (Knows g) (GivesFirst (r.command (logArguments selection) none))
      (fun records => ∀ record ∈ records, g.Prints record) (r.records selection) := by
  refine ((r.first_run hnull).renamed _).first (P := fun _ => True) ?_
  intro output houtput
  exact keeps_pure fun record hrecord => ⟨selection, output, houtput, hrecord⟩

/-- Reading commits gives the command that prints the history first. -/
theorem first_commits {selection : List String}
    (hnull : (r.command (logArguments selection) none).holdsNull = false) :
    Keeps (Knows g) (GivesFirst (r.command (logArguments selection) none)) (fun _ => True)
      (r.commits selection) := by
  have hcommits : ∀ records : List (List Char), (∀ record ∈ records, g.Prints record) →
      Keeps (Knows g) (Adds (GitEvent.Concerns (r.Gives (ComparesTold g)))) (fun _ => True)
        (Action.forEach r.commitOf records) := by
    intro records hprints
    exact .forEach fun record hrecord => keeps_commitOf r (hprints record hrecord)
  exact (r.first_records hnull).first hcommits

end Repository

namespace Session

/-- Closing after a failure comes later. -/
theorem first_guarded (name : String) {Q : α → Prop} {body : Action (World σ) α} {c : GitCommand}
    (hbody : Keeps (Knows g) (GivesFirst c) Q body) :
    Keeps (Knows g) (GivesFirst c) Q (body.guarded (failing name)) := by
  have hafter : ∀ w w' w'' : World σ, GivesFirst c w w' → AddsOnly (fun _ => True) w' w'' →
      GivesFirst c w w'' := fun _ _ _ => GivesFirst.adds
  exact hbody.tidied hafter fun f v hv => keeps_failed name f hv

/-- **An operation on the open repository gives the first command of its body.** -/
theorem first_operation (name : String) {body : Handles → Action (World σ) α} {c : GitCommand}
    {w : World σ} (hw : Knows g w) {h : Handles} (hs : w.session = some h)
    (hbody : Keeps (Knows g) (GivesFirst c) (fun _ => True) (body h)) :
    GivesFirst c w (operation name body w).2 := by
  have hopen : operation name body w = (handles name >>= fun h => (body h).guarded (failing name)) w :=
    rfl
  rw [hopen, bind_apply, handles_of_session hs]
  exact (first_guarded name hbody w hw).2.1

/-- The command that an operation gives first, if no name has to be resolved before it. -/
def Request.firstArguments : Request → Option (List String)
  | .references => some referenceArguments
  | .commits => some (Repository.logArguments ["--all"])
  | .commit id => some (Repository.logArguments (commitSelection id))
  | .idsOf r => (r.target.filter fun t => !t.isEmpty).map reachedArguments
  | .checkout _ => none
  | .files id => some (fileArguments id)

/-- A reference with a target is walked from there. -/
theorem startOf_target {r : Reference} {t : String} (htarget : r.target = some t)
    (hne : t.isEmpty = false) (h : Handles) : startOf h r = (pure (some t) : Action (World σ) _) := by
  simp only [startOf, htarget, hne, Bool.false_eq_true, if_false]

/-- **An operation gives its first command**, whatever git makes of it. -/
theorem Request.gives_first (q : Request) {arguments : List String}
    (hq : q.firstArguments = some arguments) {w : World σ} (hw : Knows g w) {h : Handles}
    (hs : w.session = some h)
    (hnull : (h.toRepository.command arguments none).holdsNull = false) :
    GivesFirst (h.toRepository.command arguments none) w (q.run w).2 := by
  have hrun := h.toRepository.first_run (g := g) hnull
  cases q with
  | references =>
    cases hq
    simp only [run, map_apply]
    refine first_operation _ hw hs ((hrun.renamed _).first (P := fun _ => True) ?_)
    exact fun _ _ => keeps_pure trivial
  | commits =>
    cases hq
    simp only [run, map_apply]
    exact first_operation _ hw hs (h.toRepository.first_commits hnull)
  | commit id =>
    cases hq
    simp only [run, map_apply]
    refine first_operation _ hw hs
      ((h.toRepository.first_commits hnull).first (P := fun _ => True) ?_)
    intro found _
    cases found with
    | nil => exact keeps_fail _
    | cons c _ => exact keeps_pure trivial
  | idsOf r =>
    obtain ⟨t, hsome, rfl⟩ := Option.map_eq_some_iff.1 hq
    obtain ⟨htarget, hne⟩ := Option.filter_eq_some_iff.1 hsome
    have hstart := startOf_target (σ := σ) htarget (by simpa using hne) h
    simp only [run, map_apply]
    refine first_operation _ hw hs ?_
    simp only [hstart, pure_bind]
    refine (hrun.renamed _).first (P := fun _ => True) ?_
    exact fun _ _ => keeps_pure trivial
  | checkout id => cases hq
  | files id =>
    cases hq
    simp only [run, map_apply]
    refine first_operation _ hw hs ((hrun.renamed _).first (P := fun _ => True) ?_)
    exact fun _ _ => keeps_pure trivial

end Session

end HistoryMetrics
