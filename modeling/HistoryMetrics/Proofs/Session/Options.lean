import HistoryMetrics.Proofs.Session.Visits

/-! # What git may read as options

    A command ends its options with two dashes, or says so in words. What a caller gives to a session
    should stand after that, or be resolved to an id first, so that no name is taken for an option. The
    command lines of a session are gone through here. All are guarded in this way but one: the target of
    a reference is given as it is.

    - `Guarded`: only words of the program and ids that git has told may be read as options
    - `Session.Issued.guarded`: the command lines that are guarded
    - `session_guarded`: all steps of a session give guarded commands, but for targets of references
    - `idsOf_readsOption`: a target that is an option is given to git as one
-/

namespace HistoryMetrics

open HistoryMetrics.Action World

variable {σ : Type}

/-! ## Guarded command lines -/

/-- Does a word say that no options come after it? -/
def endsOptions (word : String) : Bool := word == "--end-of-options" || word == "--"

/-- **The part of a command line that git may read as options.** -/
def optionPart (arguments : List String) : List String :=
  arguments.takeWhile fun word => !endsOptions word

/-- The words that the program itself puts into command lines, before the end of options. -/
def ownWords : List String :=
  ["rev-parse", "--absolute-git-dir",
    "for-each-ref", "--format=%(refname)%00%(objectname)%00%(*objectname)", "refs/heads", "refs/tags",
    "log", "--format=" ++ History.format, "--all", "-1", "--no-walk",
    "rev-list", "checkout", "--force", "--detach",
    "ls-tree", "-r", "-z", "--name-only", "--full-tree",
    "hash-object", "-t", "tree", "--stdin",
    "diff-tree", "--name-status", "-M", "-C", "--no-commit-id",
    "--literal-pathspecs", "diff", "--unified=0", "--no-color", "--no-ext-diff", "--no-renames"]

/-- **No word of a caller is read as an option**: before the end of options stand words of the program
    and ids that git has told. -/
def Guarded (g : Git σ) (arguments : List String) : Prop :=
  ∀ word ∈ optionPart arguments, word ∈ ownWords ∨ g.Tells word

variable {g : Git σ}

/-- A command line in three parts: words of the program, ids, and what comes after the end of options. -/
theorem guarded_of_parts (own told back : List String) (hown : ∀ word ∈ own, word ∈ ownWords)
    (htold : ∀ word ∈ told, g.Tells word) (hback : ∀ word ∈ back.head?, endsOptions word = true) :
    Guarded g (own ++ told ++ back) := by
  have hnil : optionPart back = [] := by
    cases back with
    | nil => rfl
    | cons word rest =>
      have hends := hback word rfl
      simp [optionPart, hends]
  have hfront : ∀ word ∈ own ++ told, word ∈ ownWords ∨ g.Tells word := by
    intro word hword
    rcases List.mem_append.1 hword with hword | hword
    · exact .inl (hown word hword)
    · exact .inr (htold word hword)
  intro word hword
  refine hfront word ?_
  rw [optionPart, List.takeWhile_append] at hword
  split at hword
  · -- nothing of the last part can be read as an option
    rcases List.mem_append.1 hword with hword | hword
    · exact hword
    · exact absurd (show word ∈ optionPart back from hword) (by simp [hnil])
  · exact (List.takeWhile_sublist _).mem hword

/-- A command line of words of the program. -/
theorem guarded_own {own : List String} (hown : ∀ word ∈ own, word ∈ ownWords) : Guarded g own := by
  have hparts := guarded_of_parts (g := g) own [] [] hown (by simp) (by simp)
  rwa [List.append_nil, List.append_nil] at hparts

/-- **Comparing a commit is guarded**: only ids that git has told come before the paths. -/
theorem ComparesTold.guarded {arguments : List String} (h : ComparesTold g arguments) :
    Guarded g arguments := by
  cases h with
  | emptyTree => exact guarded_own (by decide)
  | @listing parent commit hparent hcommit =>
    have htold : ∀ word ∈ [parent, commit], g.Tells word := by simp [hparent, hcommit]
    exact guarded_of_parts ["diff-tree", "-r", "-z", "--name-status", "-M", "-C", "--no-commit-id"]
      [parent, commit] [] (by decide) htold (by simp)
  | @patch parent commit c hparent hcommit =>
    have htold : ∀ word ∈ [parent, commit], g.Tells word := by simp [hparent, hcommit]
    unfold Repository.patchArguments
    split
    · exact guarded_of_parts (["--literal-pathspecs", "diff"] ++ Repository.patchOptions ++ ["-M"])
        [parent, commit] ["--", Repository.oldPathOf c, c.path] (by decide) htold (by simp [endsOptions])
    · exact guarded_of_parts
        (["--literal-pathspecs", "diff"] ++ Repository.patchOptions ++ ["--no-renames"])
        [parent, commit] ["--", c.path] (by decide) htold (by simp [endsOptions])

/-- Reading the whole history is guarded, and so is comparing its commits. -/
theorem Walk.Commands.guarded {arguments : List String} (h : Walk.Commands g arguments) :
    Guarded g arguments := by
  rcases h with rfl | h
  · exact guarded_own (by decide)
  · exact h.guarded

namespace Session

/-- **A request names where to start**, so that nothing is resolved. -/
def Request.NamesStart : Request → Prop
  | .idsOf r => ∃ t, r.target = some t ∧ t ≠ ""
  | _ => False

/-- **The command lines of an operation are guarded**, unless it names where to start. -/
theorem Issued.guarded {q : Request} {arguments : List String} (h : Issued g q arguments)
    (hq : ¬q.NamesStart) : Guarded g arguments := by
  cases h with
  | references => exact guarded_own (by decide)
  | history => exact Walk.Commands.guarded (.inl rfl)
  | historyCompared hcompares => exact hcompares.guarded
  | commit id =>
    exact guarded_of_parts ["log", "--format=" ++ History.format, "-1", "--no-walk"] []
      ["--end-of-options", id, "--"] (by decide) (by simp) (by simp [endsOptions])
  | commitCompared hcompares => exact hcompares.guarded
  | @ofTarget r t htarget hne => exact absurd ⟨t, htarget, hne⟩ hq
  | @ofPath r id _ hresolves =>
    exact guarded_of_parts ["rev-list"] [id] [] (by decide)
      (by simpa using Git.Tells.resolved hresolves) (by simp)
  | @checkout id object hresolves =>
    exact guarded_of_parts ["checkout", "--force", "--detach"] [object] [] (by decide)
      (by simpa using Git.Tells.resolved hresolves) (by simp)
  | files id =>
    exact guarded_of_parts ["ls-tree", "-r", "-z", "--name-only", "--full-tree"] []
      ["--end-of-options", id] (by decide) (by simp) (by simp [endsOptions])

/-- An operation that names where to start gives one command, and the name stands in it as it is. -/
theorem Issued.of_namesStart {r : Reference} {t : String} {arguments : List String}
    (h : Issued g (.idsOf r) arguments) (htarget : r.target = some t) (hne : t ≠ "") :
    arguments = reachedArguments t := by
  cases h with
  | ofTarget htarget' _ =>
    rw [htarget] at htarget'
    cases htarget'
    rfl
  | ofPath hnone _ => exact absurd (hnone t htarget) hne

end Session

/-! ## A git that tells nothing -/

/-- A git that writes nothing. -/
def silentGit : Git Unit := .answering fun _ => ""

theorem writes_silentGit {arguments : List String} {output : String}
    (h : silentGit.Writes arguments output) : output = "" := by
  obtain ⟨c, outside, disk, octets, errors, -, hrun, rfl⟩ := h
  have hoctets : octets = [] := by
    cases hrun
    rfl
  rw [hoctets]
  rfl

theorem not_prints_silentGit (record : List Char) : ¬silentGit.Prints record := by
  rintro ⟨selection, output, hwrites, hrecord⟩
  rw [writes_silentGit hwrites] at hrecord
  exact absurd hrecord List.not_mem_nil

/-- It tells no id, not even that of the empty tree. -/
theorem eq_empty_of_tells_silentGit {id : String} (h : silentGit.Tells id) : id = "" := by
  cases h with
  | resolved hresolves =>
    obtain ⟨helper, outside, line, info, hask, hread, -⟩ := hresolves
    cases hask
    cases hread
  | commit hprints _ => exact absurd hprints (not_prints_silentGit _)
  | parent hprints _ _ => exact absurd hprints (not_prints_silentGit _)
  | emptyTree hwrites =>
    rw [writes_silentGit hwrites]
    rfl

theorem not_guarded_branches : ¬Guarded silentGit (Session.reachedArguments "--branches") := by
  intro h
  have hpart : "--branches" ∈ optionPart (Session.reachedArguments "--branches") := by decide
  rcases h _ hpart with hown | htells
  · exact absurd hown (by decide)
  · exact absurd (eq_empty_of_tells_silentGit htells) (by decide)

open Session

/-- A branch whose target looks like an option. -/
def optionReference : Reference := ⟨"main", "refs/heads/main", .branch, some "--branches"⟩

/-- A repository of this git can be opened, and then the option can be given. -/
theorem exists_visits_silentGit : ∃ (w : World Unit) (h : Handles),
    Visits w [] ∧ w.git = silentGit ∧ w.session = some h ∧
      (h.toRepository.command (reachedArguments "--branches") none).holdsNull = false := by
  have hstart : Visits (World.start oneRepository silentGit) [] := .start _ _
  obtain ⟨h, w, hopen, hs, hroot, hgit⟩ := exists_open_answering
    (w := World.start oneRepository silentGit) rfl (rfl : silentGit = .answering fun _ => "") rfl
  refine ⟨w, h, ?_, hgit, hs, ?_⟩
  · have hcall := hstart.call (.open projectFolder .null .null)
    rwa [Call.run, hopen] at hcall
  · exact GitCommand.holdsNull_eq_false_iff.2 (noNull_line hroot (by decide))

/-! ## All steps of a session -/

/-- What a walk does for a repository is guarded. -/
theorem adds_guarded {r : Repository} {K : List String → Prop}
    (hK : ∀ arguments, K arguments → Guarded g arguments) {w w' : World σ}
    (h : Adds (GitEvent.BelongsTo r K) w w') : AddsOnly (Guarded g) w w' := by
  refine h.mono fun e he => ?_
  rcases he.mono hK with hconcerns | hcloses
  · exact GitEvent.Concerns.allows (hconcerns.mono fun c hc => hc.arguments)
  · exact hcloses.allows _

/-- **Every step of a walk is guarded.** -/
theorem Walk.next_guarded {w : World σ} (hw : Knows g w) {walk : Walk} (hwalk : walk.Follows g w) :
    AddsOnly (Guarded g) w (walk.next w).2.2 := by
  cases walk with
  | «over» => exact .refl w
  | underWay r rest =>
    exact adds_guarded (fun _ hcompares => hcompares.guarded)
      (Walk.advance_goesOn r hwalk.prints hw).adds
  | fresh =>
    cases hs : w.session with
    | none =>
      rw [Walk.next_fresh_of_closed hs]
      exact .refl w
    | some h =>
      exact adds_guarded (fun _ hcommands => hcommands.guarded) (Walk.next_fresh_goesOn hw hs).adds

/-- **What git may read as options**, wherever a user has come to: words of the program, ids that git has
    told, and the target of a reference. -/
theorem session_guarded {w : World σ} {walks : List Walk} (hw : Visits w walks) :
    -- opening and the steps of walks give guarded commands, and closing gives none
    (∀ path timeout threshold,
      AddsOnly (Guarded w.git) w (Session.open path timeout threshold w).2) ∧
    (∀ walk ∈ walks, AddsOnly (Guarded w.git) w (walk.next w).2.2) ∧
    AddsOnly (fun _ => False) w (close w) ∧
    -- so do the operations, whatever names they are given, if none of these is the target of a reference
    (∀ q : Request, ¬q.NamesStart → AddsOnly (Guarded w.git) w (q.run w).2) ∧
    -- the target of a reference is the only argument of the only command that is given for it
    (∀ (r : Reference) (t : String), r.target = some t → t ≠ "" →
      AddsOnly (· = reachedArguments t) w (idsOf r w).2) ∧
    -- and an operation on an open repository does give its command, if no name has to be resolved
    ∀ (q : Request) (arguments : List String), q.firstArguments = some arguments →
      ∀ h, w.session = some h → (h.toRepository.command arguments none).holdsNull = false →
        GivesFirst (h.toRepository.command arguments none) w (q.run w).2 := by
  obtain ⟨hknows, -, hfollows⟩ := visits_inv hw
  refine ⟨fun path timeout threshold => ?opens, fun walk hwalk => ?walks, ?closes, fun q hq => ?asks,
    fun r t htarget hne => ?names, fun q arguments hq h hs hnull => ?gives⟩
  case opens =>
    refine (keeps_open path timeout threshold w hknows).2.1.mono fun e he => he.mono fun c hc => ?_
    rw [hc]
    exact guarded_own (by decide)
  case walks => exact Walk.next_guarded hknows (hfollows walk hwalk)
  case closes => exact (adds_close w).mono fun _ he => he.allows _
  case asks =>
    refine (q.keeps w hknows).2.1.mono fun e he => he.mono fun c hc => ?_
    exact hc.guarded hq
  case names =>
    refine (keeps_idsOf r w hknows).2.1.mono fun e he => he.mono fun c hc => ?_
    exact hc.of_namesStart htarget hne
  case gives => exact q.gives_first hq hknows hs hnull

/-- The target of a reference is given where nothing guards it. -/
theorem session_guarded_silentGit : ∃ (w : World Unit) (h : Handles),
    Visits w [] ∧ w.session = some h ∧
      GivesFirst (h.toRepository.command ["rev-list", "--branches"] none) w
        ((Request.idsOf optionReference).run w).2 := by
  obtain ⟨w, h, hw, -, hs, hnull⟩ := exists_visits_silentGit
  obtain ⟨-, -, -, -, -, hgives⟩ := session_guarded hw
  exact ⟨w, h, hw, hs, hgives (.idsOf optionReference) _ rfl h hs hnull⟩

/-- **A target that is an option is given to git as one.** -/
theorem idsOf_readsOption :
    ¬∀ (w : World Unit) (walks : List Walk), Visits w walks → ∀ q : Request,
      AddsOnly (Guarded w.git) w (q.run w).2 := by
  intro hall
  obtain ⟨w, h, hw, hgit, hs, hnull⟩ := exists_visits_silentGit
  have hknows : Knows w.git w := (visits_inv hw).knows
  obtain ⟨isStarted, rest, hevents⟩ :=
    (Request.idsOf optionReference).gives_first rfl hknows hs hnull
  obtain ⟨es, hes, hguarded⟩ := hall w [] hw (.idsOf optionReference)
  rw [hevents] at hes
  -- what was done begins with the command, and the command is not guarded
  have hfirst := hguarded (.ran (h.toRepository.command (reachedArguments "--branches") none) isStarted)
    (by rw [← List.append_cancel_left hes]; exact List.mem_cons_self)
  rw [hgit] at hfirst
  exact not_guarded_branches hfirst

end HistoryMetrics
