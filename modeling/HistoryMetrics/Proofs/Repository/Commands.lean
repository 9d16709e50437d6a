import HistoryMetrics.Proofs.Action.Contract
import HistoryMetrics.Proofs.Git.Events
import HistoryMetrics.Proofs.Repository.Log

/-! # The commands that reading a repository gives

    Git is asked for the history and for the changes of its commits. The arguments of these commands
    are words of the program and ids that git has told: an id that it printed in the history, or the
    name of the empty tree. Only the paths of changed files may be anything, and these come last, after
    two dashes.

    - `Git.Writes`, `Git.Prints`, `Git.Resolves`: what git says
    - `Git.Tells`: the ids that it has told
    - `ComparesTold`: the commands that compare a commit
    - `Repository.keeps_commitOf`, `Repository.keeps_commits`: reading commits gives no others
-/

namespace HistoryMetrics

open HistoryMetrics.Action World

variable {σ α : Type}

/-! ## What git tells -/

namespace Git

variable (g : Git σ)

/-- Git may write a text when it is given a command. -/
def Writes (arguments : List String) (output : String) : Prop :=
  ∃ c outside disk octets errors, c.arguments = arguments ∧
    (g.run c outside disk).1 = .finished 0 octets errors ∧ output = Git.text octets

/-- A record stands in a history that git may print. -/
def Prints (record : List Char) : Prop :=
  ∃ selection output, g.Writes (Repository.logArguments selection) output ∧
    record ∈ History.records output

/-- **Git may resolve a name to an id**, when it is asked for the name. -/
def Resolves (name id : String) : Prop :=
  ∃ helper outside line info, (g.ask helper name outside).1 = .ok line ∧
    ObjectInfo.ofLine (Git.text line) = .ok (some info) ∧ id = info.id

/-- The command that asks for the name of the empty tree. -/
def treeArguments : List String := ["hash-object", "-t", "tree", "--stdin"]

/-- **Git tells an id**: it resolves a name to it, prints it in the history as that of a commit or of a
    parent, or computes it for the empty tree. -/
inductive Tells : String → Prop where
  | resolved {name id : String} : g.Resolves name id → Tells id
  | commit {record : List Char} {c : Commit} :
      g.Prints record → History.ofRecord record = .ok c → Tells c.id
  | parent {record : List Char} {c : Commit} {p : String} :
      g.Prints record → History.ofRecord record = .ok c → p ∈ c.parents → Tells p
  | emptyTree {output : String} :
      g.Writes treeArguments output → Tells (String.ofList (Text.strip output.toList))

end Git

/-- **What is known in a world has been told by its git**: the names of the empty tree. -/
structure Knows (g : Git σ) (w : World σ) : Prop where
  git : w.git = g
  emptyTrees : ∀ known ∈ w.emptyTrees, g.Tells known.2

namespace Knows

variable {g : Git σ}

theorem scene {w : World σ} (h : Knows g w) (s : Scene σ) : Knows g { w with toScene := s } :=
  ⟨h.git, h.emptyTrees⟩

theorem happened {w : World σ} (h : Knows g w) (e : GitEvent) : Knows g (w.happened e) :=
  ⟨h.git, h.emptyTrees⟩

end Knows

/-! ## Commands -/

/-- The command is one for this repository, with arguments of some kind. -/
def Repository.Gives (r : Repository) (K : List String → Prop) (c : GitCommand) : Prop :=
  ∃ arguments input, c = r.command arguments input ∧ K arguments

namespace Repository.Gives

variable {r : Repository} {K K' : List String → Prop} {c : GitCommand}

theorem mono (h : r.Gives K c) (hK : ∀ arguments, K arguments → K' arguments) : r.Gives K' c := by
  obtain ⟨arguments, input, hc, harguments⟩ := h
  exact ⟨arguments, input, hc, hK arguments harguments⟩

/-- The arguments of the command are of the kind. -/
theorem arguments (h : r.Gives K c) : K c.arguments := by
  obtain ⟨arguments, input, rfl, harguments⟩ := h
  exact harguments

end Repository.Gives

/-- Commands of one kind are commands of a wider kind. -/
theorem World.Adds.gives {r : Repository} {K K' : List String → Prop} {w w' : World σ}
    (h : Adds (GitEvent.Concerns (r.Gives K)) w w') (hK : ∀ arguments, K arguments → K' arguments) :
    Adds (GitEvent.Concerns (r.Gives K')) w w' := by
  refine h.mono fun e he => ?_
  exact he.mono fun c hc => hc.mono hK

/-- **A commit is compared** with another one or with the empty tree, both of which git has told. -/
inductive ComparesTold (g : Git σ) : List String → Prop where
  | emptyTree : ComparesTold g Git.treeArguments
  | listing {parent commit : String} : g.Tells parent → g.Tells commit →
      ComparesTold g (Repository.listingArguments parent commit)
  | patch {parent commit : String} (c : Change) : g.Tells parent → g.Tells commit →
      ComparesTold g (Repository.patchArguments parent commit c)

theorem keeps_log {g : Git σ} {P : GitEvent → Prop} (level : Level) (logger message : String) :
    Keeps (Knows g) (Adds P) (fun _ => True) (World.log level logger message) :=
  keeps_update (fun _ h => h.scene _) fun w => Adds.scene w _

namespace Repository

variable {g : Git σ}

/-- Only what a command wrote that ended well is returned. -/
theorem judge_ok {c : GitCommand} {code : Int} {output errors : List UInt8} {text : String}
    (h : judge c code output errors = .ok text) : code = 0 ∧ text = Git.text output := by
  unfold judge at h
  split at h
  · next hcode =>
    cases h
    exact ⟨hcode, rfl⟩
  · cases h

/-- **What a command returns has been written by git**, in the state in which it was given. -/
theorem run_ok {r : Repository} {arguments : List String} {input : Option String} {w w' : World σ}
    {text : String} (h : r.run arguments input w = (.ok text, w')) :
    ∃ disk octets errors, (w.git.run (r.command arguments input) w.outside disk).1 =
      .finished 0 octets errors ∧ text = Git.text octets := by
  obtain ⟨⟨⟩, w₁, hlog, hperform⟩ := bind_ok_iff.1 h
  obtain ⟨disk, hw₁⟩ : ∃ disk, w₁.git = w.git ∧ w₁.outside = w.outside ∧ w₁.disk = disk := by
    cases hlog
    refine ⟨_, rfl, ?_, rfl⟩
    show (w.toScene.logged _).outside = w.outside
    unfold Scene.logged
    split <;> rfl
  obtain ⟨hgit, houtside, hdisk⟩ := hw₁
  split at hperform
  · cases hperform
  · rcases hrun : w₁.git.run (r.command arguments input) w₁.outside w₁.disk with ⟨outcome, x, d⟩
    simp only [perform, hrun] at hperform
    cases outcome with
    | finished code octets errors =>
      obtain ⟨hcode, htext⟩ := judge_ok (Prod.mk.inj hperform).1
      rw [hgit, houtside, hdisk, hcode] at hrun
      exact ⟨disk, octets, errors, congrArg Prod.fst hrun, htext⟩
    | notStarted mishap => cases hperform
    | timedOut => cases hperform
    | interrupted => cases hperform

theorem keeps_perform (c : GitCommand) :
    Keeps (Knows g) (Adds (GitEvent.Concerns (· = c))) (g.Writes c.arguments) (perform c) := by
  intro w hw
  obtain ⟨rfl, htrees⟩ := hw
  rcases hrun : w.git.run c w.outside w.disk with ⟨outcome, outside, disk⟩
  have hknows : Knows w.git { w with outside, disk } := ⟨rfl, htrees⟩
  have hran : ∀ b, Adds (GitEvent.Concerns (· = c)) w
      ({ w with outside, disk }.happened (.ran c b)) := by
    intro b
    have hevent : (GitEvent.ran c b).Concerns (· = c) := rfl
    exact ⟨[.ran c b], rfl, by simpa using hevent⟩
  have hkilled : Adds (GitEvent.Concerns (· = c)) w
      (({ w with outside, disk }.happened (.ran c true)).happened (.killed c)) := by
    have hevent : (GitEvent.killed c).Concerns (· = c) := rfl
    exact (hran true).trans (Adds.happened hevent _)
  simp only [perform, hrun]
  cases outcome with
  | finished code output errors =>
    refine ⟨hknows.happened _, hran true, fun text htext => ?_⟩
    obtain ⟨rfl, rfl⟩ := judge_ok htext
    exact ⟨c, w.outside, w.disk, output, errors, rfl, by rw [hrun], rfl⟩
  | notStarted mishap => exact ⟨hknows.happened _, hran false, fun _ ha => by cases ha⟩
  | timedOut => exact ⟨(hknows.happened _).happened _, hkilled, fun _ ha => by cases ha⟩
  | interrupted => exact ⟨(hknows.happened _).happened _, hkilled, fun _ ha => by cases ha⟩

variable (r : Repository)

/-- **A command that is given is the only one**, and what it returns has been written by git. -/
theorem keeps_run (arguments : List String) (input : Option String) :
    Keeps (Knows g) (Adds (GitEvent.Concerns (r.Gives (· = arguments)))) (g.Writes arguments)
      (r.run arguments input) := by
  refine (keeps_log _ _ _).bind fun _ _ => ?_
  dsimp only
  split
  · exact keeps_fail _
  · refine (keeps_perform (r.command arguments input)).along fun w w' h => h.mono fun e he => ?_
    exact he.mono fun c hc => ⟨arguments, input, hc, rfl⟩

/-- A command of some kind. -/
theorem keeps_run_of {K : List String → Prop} {arguments : List String} (h : K arguments)
    (input : Option String) :
    Keeps (Knows g) (Adds (GitEvent.Concerns (r.Gives K))) (g.Writes arguments)
      (r.run arguments input) := by
  refine (keeps_run r arguments input).along fun w w' hadds => hadds.gives fun _ hsame => ?_
  rw [hsame]
  exact h

/-! ### Comparing a commit -/

theorem keeps_emptyTree :
    Keeps (Knows g) (Adds (GitEvent.Concerns (r.Gives (ComparesTold g)))) g.Tells r.emptyTree := by
  intro w hw
  unfold emptyTree
  cases hlookup : w.emptyTrees.lookup r.number with
  | some tree =>
    refine ⟨hw, .refl w, fun a ha => ?_⟩
    cases ha
    obtain ⟨before, after, htrees, -⟩ := List.lookup_eq_some_iff.1 hlookup
    exact hw.emptyTrees (r.number, tree) (by simp [htrees])
  | none =>
    have hkind : ComparesTold g Git.treeArguments := .emptyTree
    have hkeeps := keeps_run_of (g := g) r hkind (some "")
    rcases hrun : r.run Git.treeArguments (some "") w with ⟨result, w'⟩
    obtain ⟨hw', hadds, hvalue⟩ := hkeeps.of_eq hw hrun
    unfold Git.treeArguments at hrun
    simp only [hrun]
    cases result with
    | error f => exact ⟨hw', hadds, fun _ ha => by cases ha⟩
    | ok output =>
      have htells : g.Tells (String.ofList (Text.strip output.toList)) :=
        .emptyTree (hvalue output rfl)
      refine ⟨⟨hw'.git, ?_⟩, hadds.trans (.of_events_eq rfl), fun a ha => ?_⟩
      · -- one more name is known, and it was told just now
        intro known hknown
        rcases List.mem_cons.1 hknown with rfl | hknown
        · exact htells
        · exact hw'.emptyTrees known hknown
      · cases ha
        exact htells

theorem keeps_base {parents : List String} (h : ∀ p ∈ parents, g.Tells p) :
    Keeps (Knows g) (Adds (GitEvent.Concerns (r.Gives (ComparesTold g)))) g.Tells
      (r.base parents) := by
  cases parents with
  | nil => exact keeps_emptyTree r
  | cons parent _ => exact keeps_pure (h parent List.mem_cons_self)

theorem keeps_listing {commit : String} (hcommit : g.Tells commit) {parents : List String}
    (h : ∀ p ∈ parents, g.Tells p) :
    Keeps (Knows g) (Adds (GitEvent.Concerns (r.Gives (ComparesTold g))))
      (fun found => g.Tells found.1) (r.listing commit parents) := by
  refine (keeps_base r h).bind fun parent hparent => ?_
  exact (keeps_run_of r (.listing hparent hcommit) none).bind fun _ _ => keeps_pure hparent

theorem keeps_listed {P : GitEvent → Prop} (text : String) :
    Keeps (Knows g) (Adds P) (fun _ => True) (listed text) := by
  -- the statuses that are not known are logged one after the other
  have hlog : Keeps (Knows g) (Adds P) (fun _ => True) (logUnknown (StatusList.ofText text)) := by
    refine keeps_update (fun w hw => ?_) fun w => ?_
    · induction (StatusList.ofText text).unknowns generalizing w with
      | nil => exact hw
      | cons u us ih => exact ih _ (hw.scene _)
    · induction (StatusList.ofText text).unknowns generalizing w with
      | nil => exact .refl w
      | cons u us ih => exact (Adds.scene w _).trans (ih _)
  refine hlog.bind fun _ _ => ?_
  split
  · exact keeps_fail _
  · exact keeps_pure trivial

theorem keeps_withLines {parent commit : String} (hparent : g.Tells parent)
    (hcommit : g.Tells commit) (c : Change) :
    Keeps (Knows g) (Adds (GitEvent.Concerns (r.Gives (ComparesTold g)))) (fun _ => True)
      (r.withLines parent commit c) :=
  ((keeps_run_of r (.patch c hparent hcommit) none).renamed _).bind fun _ _ =>
    keeps_ofResult fun _ _ => trivial

/-- **Comparing a commit** that git has told gives commands of the right kind only. -/
theorem keeps_changesOf {commit : String} (hcommit : g.Tells commit) {parents : List String}
    (h : ∀ p ∈ parents, g.Tells p) :
    Keeps (Knows g) (Adds (GitEvent.Concerns (r.Gives (ComparesTold g)))) (fun _ => True)
      (r.changesOf commit parents) := by
  unfold changesOf
  split
  · exact keeps_pure trivial
  · refine ((keeps_listing r hcommit h).renamed _).bind fun found hfound => ?_
    refine (keeps_listed found.2).bind fun changes _ => ?_
    exact .forEach fun c _ => keeps_withLines r hfound hcommit c

/-! ### Reading commits -/

/-- **The commit of a record that git has printed.** -/
theorem keeps_commitOf {record : List Char} (h : g.Prints record) :
    Keeps (Knows g) (Adds (GitEvent.Concerns (r.Gives (ComparesTold g)))) (fun _ => True)
      (r.commitOf record) := by
  have hread : ∀ c, (History.ofRecord record).mapError Failure.problem = .ok c →
      History.ofRecord record = .ok c := fun _ hc => mapError_ok_iff.1 hc
  refine (keeps_ofResult hread).bind fun c hc => ?_
  have hchanges := keeps_changesOf r (.commit h hc) fun p hp => .parent h hc hp
  exact hchanges.bind fun _ _ => keeps_pure trivial

theorem keeps_records (selection : List String) :
    Keeps (Knows g) (Adds (GitEvent.Concerns (r.Gives (· = logArguments selection))))
      (fun records => ∀ record ∈ records, g.Prints record) (r.records selection) := by
  refine ((keeps_run r (logArguments selection) none).renamed _).bind fun output houtput => ?_
  exact keeps_pure fun record hrecord => ⟨selection, output, houtput, hrecord⟩

/-- **Reading commits**: the history is asked for, and then its commits are compared. -/
theorem keeps_commits (selection : List String) :
    Keeps (Knows g) (Adds (GitEvent.Concerns (r.Gives fun arguments =>
      arguments = logArguments selection ∨ ComparesTold g arguments))) (fun _ => True)
      (r.commits selection) := by
  have hrecords : Keeps (Knows g) (Adds (GitEvent.Concerns (r.Gives fun arguments =>
      arguments = logArguments selection ∨ ComparesTold g arguments)))
      (fun records => ∀ record ∈ records, g.Prints record) (r.records selection) :=
    (keeps_records r selection).along fun _ _ hadds => hadds.gives fun _ => .inl
  refine hrecords.bind fun records hprints => .forEach fun record hrecord => ?_
  exact (keeps_commitOf r (hprints record hrecord)).along fun _ _ hadds => hadds.gives fun _ => .inr

end Repository

end HistoryMetrics
