import HistoryMetrics.Proofs.Git.Answers
import HistoryMetrics.Proofs.Repository.Setbacks
import HistoryMetrics.Proofs.Session.Visits

/-! # When a session fails

    Whatever an operation of a session asks git, a failure of it ends the operation, and it is told in the
    operation's own words: as a problem of opening, of listing references, of reading the history or the
    changes of a commit, or of checking out. What is asked, and how its failure is told, stands in one
    table. There is one exception. A helper that broke while it was told a name is told the rest of it when
    it is closed; if this fails, too, then the operation ends with a fault of the system.

    - `Session.Turn`: a call of a user, or a step of a walk
    - `Turn.Asks`: the table
    - `Turn.kinds`: the kinds of problems that are the turn's own
    - `failing_fst_info`: what goes wrong with closing after a name has been looked up
    - `Turn.ends_of_fails`: a failure is told as in the table
    - `Turn.ends_of_unanswered`: a helper that has ended knows no object
    - `Turn.covers_take`: nothing else is asked
    - `Turn.speaks_take`: no problem of a command gets through
    - `turn_setback`: all of it
    - `turn_setback_broken`: the exception
-/

namespace HistoryMetrics

open HistoryMetrics.Action World Repository

variable {σ α : Type}

/-- **A name that the helper does not answer any more**, as it has ended. -/
def Appeal.Unanswered (w : World σ) : Appeal → Prop
  | .lookup helper name => Helper.IsTold w helper name ∧ Helper.answer w helper name = .ok []
  | .command .. | .start _ => False

namespace Session

/-! ## What is asked -/

/-- **A turn of a user**: a call, or the next step of a walk through the history. -/
inductive Turn where
  | call (c : Call)
  | step (walk : Walk)

/-- What comes of a turn. -/
def Turn.take : Turn → Action (World σ) Unit
  | .call c => c.run
  | .step walk => fun w => ((walk.next w).1.map fun _ => (), (walk.next w).2.2)

/-- The repository that is being opened in a folder. -/
def opening (w : World σ) (root : Path) (timeout threshold : Value) : Repository :=
  ⟨root, timeout, threshold, w.helpers⟩

/-- A folder in which a repository can be looked for. -/
def IsFound (w : World σ) (path root : Path) : Prop :=
  w.session = none ∧ rootOf path w = (.ok root, w) ∧ requireRepository root w = (.ok (), w)

/-- **What a turn asks git, and how a failure of it is told.**

    - `folder`, `helper`: opening asks for the folder of git's own files, and starts the helper
    - `references`, `files`: one command
    - `commits`, `commit`: the history, and the changes of its commits
    - `path`, `reached`: the path of a reference without a target is looked up, and the walk goes on there
    - `object`, `tree`: the commit to check out is looked up, and then it is checked out
    - `walkHistory`, `walkFirst`, `walkNext`: the steps of a walk, one commit each -/
inductive Turn.Asks (w : World σ) : Turn → Appeals σ where
  | folder {path root : Path} {timeout threshold : Value} (h : IsFound w path root) :
      Asks w (.call (.open path timeout threshold))
        (.command (opening w root timeout threshold) folderArguments none)
        (.repositoryUnreadable root.text) w
  | helper {path root : Path} {timeout threshold : Value} {output : String} {v : World σ}
      (h : IsFound w path root)
      (hfolder : (opening w root timeout threshold).run folderArguments none w = (.ok output, v)) :
      Asks w (.call (.open path timeout threshold)) (.start root) (.repositoryUnreadable root.text) v
  | references {h : Handles} (hs : w.session = some h) :
      Asks w (.call (.request .references)) (.command h.toRepository referenceArguments none)
        .referenceList w
  | commits {h : Handles} (hs : w.session = some h) {a : Appeal} {told : String → Problem} {v : World σ}
      (hreads : h.toRepository.Reads w ["--all"] a told v) :
      Asks w (.call (.request .commits)) a told v
  | commit {h : Handles} (hs : w.session = some h) {id : String} {a : Appeal} {told : String → Problem}
      {v : World σ} (hreads : h.toRepository.Reads w (commitSelection id) a told v) :
      Asks w (.call (.request (.commit id))) a told v
  | path {h : Handles} (hs : w.session = some h) {r : Reference}
      (htarget : ∀ t, r.target = some t → t = "") :
      Asks w (.call (.request (.idsOf r))) (.lookup h.helper (commitName r.path))
        (fun reason => .historyRead reason (some r.path)) w
  | reached {h : Handles} (hs : w.session = some h) {r : Reference} {start : String} {v : World σ}
      (hstart : startOf h r w = (.ok (some start), v)) :
      Asks w (.call (.request (.idsOf r))) (.command h.toRepository (reachedArguments start) none)
        (fun reason => .historyRead reason (some r.path)) v
  | object {h : Handles} (hs : w.session = some h) {id : String} {v : World σ}
      (hlock : clearLock h id w = (.ok (), v)) :
      Asks w (.call (.request (.checkout id))) (.lookup h.helper (commitName id)) (.checkout id) v
  | tree {h : Handles} (hs : w.session = some h) {id object : String} {w₁ v : World σ}
      (hlock : clearLock h id w = (.ok (), w₁)) (hobject : resolveCommit h id w₁ = (.ok object, v)) :
      Asks w (.call (.request (.checkout id)))
        (.command h.toRepository (checkoutArguments object) none) (.checkout id) v
  | files {h : Handles} (hs : w.session = some h) {id : String} :
      Asks w (.call (.request (.files id))) (.command h.toRepository (fileArguments id) none)
        (fun reason => .historyRead reason none) w
  | walkHistory {h : Handles} (hs : w.session = some h) :
      Asks w (.step .fresh) (.command h.toRepository (logArguments ["--all"]) none)
        (fun reason => .historyRead reason none) w
  | walkFirst {h : Handles} (hs : w.session = some h) {record : List Char} {rest : List (List Char)}
      {w₁ v : World σ} {a : Appeal} {told : String → Problem}
      (hrecords : h.toRepository.records ["--all"] w = (.ok (record :: rest), w₁))
      (hdescribes : h.toRepository.Describes w₁ record a told v) : Asks w (.step .fresh) a told v
  | walkNext {r : Repository} {record : List Char} {rest : List (List Char)} {v : World σ} {a : Appeal}
      {told : String → Problem} (hdescribes : r.Describes w record a told v) :
      Asks w (.step (.underWay r (record :: rest))) a told v

/-- **The kinds of problems that are a turn's own.** -/
def Turn.kinds : Turn → List ProblemKind
  | .call (.open ..) => [.repositoryUnreadable]
  | .call .close => []
  | .call (.request .references) => [.referenceList]
  | .call (.request .commits) | .call (.request (.commit _)) | .step _ => [.historyRead, .diff]
  | .call (.request (.idsOf _)) | .call (.request (.files _)) => [.historyRead]
  | .call (.request (.checkout _)) => [.checkout]

variable {w v : World σ} {a : Appeal} {told : String → Problem} {reason : String}

/-! ## Closing after a failure -/

/-- **What goes wrong with closing after a name has been looked up**, whatever came of the name. -/
theorem failing_fst_info {h : Handles} (hs : w.session = some h) (hw : w.AllSent) (operation : String)
    (f : Failure) (name : String) : (failing operation f (Helper.info h.helper name w).2).1 =
      ((Appeal.lookup h.helper name).closingMishap w).map fun m => .fault m.toFault := by
  unfold Helper.info Appeal.closingMishap
  dsimp only
  by_cases hname : Helper.spansLines name = true
  · rw [if_pos hname, if_pos hname]
    exact failing_fst_of_allSent operation f hw
  · rw [if_neg hname, if_neg hname]
    by_cases hruns : (Helper.isLive w h.helper && w.git.isRunning h.helper w.outside) = true
    · have hlive : h.helper ∈ w.liveHelpers := by
        have hboth := hruns
        rw [Bool.and_eq_true] at hboth
        simpa [Helper.isLive] using hboth.1
      rw [if_pos hruns, if_pos hruns]
      rcases hask : w.git.ask h.helper name w.outside with ⟨answer, outside⟩
      simp only [Helper.ask, hask]
      cases answer with
      | ok line => exact failing_fst_of_allSent operation f hw
      | error m =>
        -- the name is one that has not been sent, and the helper runs
        rw [failing, closing_fst, session_logged, outside_logged]
        show (w.session.bind fun h' => _) = _
        rw [hs, Option.bind_some]
        exact if_pos ⟨hlive, List.mem_cons_self⟩
    · rw [if_neg hruns, if_neg hruns]
      exact failing_fst_of_allSent operation f hw

/-! ## Failures -/

section operation

variable {name : String} {body : Handles → Action (World σ) α} {h : Handles} (hs : w.session = some h)
include hs

theorem operation_eq : operation name body w = (body h).guarded (failing name) w := by
  have hopen : operation name body w = (handles name >>= fun h => (body h).guarded (failing name)) w :=
    rfl
  rw [hopen, bind_apply, handles_of_session hs]

/-- **An operation returns what its body returns.** -/
theorem operation_of_ok {a : α} (hbody : body h w = (.ok a, v)) : operation name body w = (.ok a, v) := by
  rw [operation_eq hs, guarded_ok_iff, hbody]

/-- **An operation fails as its body does**, as long as all names have reached the helper. -/
theorem operation_fst (hsent : (body h w).2.AllSent) : (operation name body w).1 = (body h w).1 := by
  rw [operation_eq hs]
  refine guarded_fst _ fun f w' hfails => ?_
  rw [hfails] at hsent
  exact failing_fst_of_allSent name f hsent

theorem operation_fst_of_steady (hw : w.AllSent) (hbody : Moves Steady (body h)) :
    (operation name body w).1 = (body h w).1 :=
  operation_fst hs (hw.steady (hbody w))

/-- **An operation that fails over a name** raises what goes wrong with closing, and else its failure. -/
theorem operation_of_info {v : World σ} {key : String} {f : Failure} (hw : w.AllSent) (hv : Steady w v)
    (hbody : body h w = (.error f, (Helper.info h.helper key v).2)) (hf : f ≠ .interrupt) :
    (operation name body w).1 =
      .error (((Appeal.lookup h.helper key).closingMishap v).elim f fun m => .fault m.toFault) := by
  have hmishap := failing_fst_info (hv.session.trans hs) (hw.steady hv) name f key
  rw [operation_eq hs, guarded_of_error hbody hf, hmishap]
  cases (Appeal.lookup h.helper key).closingMishap v <;> rfl

end operation

/-- Whatever goes wrong with closing is a fault. -/
theorem fault_of_failing {name : String} {f g : Failure} (h : (failing name f w).1 = some g) :
    ∃ e, g = .fault e := by
  rcases closing_fst_cases (w.logged ⟨.error, logger, name ++ " failed: ", some f⟩) with hnone | ⟨m, hm⟩
  · cases hnone.symm.trans h
  · cases hm.symm.trans h
    exact ⟨m.toFault, rfl⟩

/-- A failure of taking hold of a repository is told as one of opening. -/
theorem open_of_acquire {path root : Path} {timeout threshold : Value} (h : IsFound w path root)
    (hfails : FailsFor reason (acquire (opening w root timeout threshold) w).1) :
    (Session.open path timeout threshold w).1 =
      .error (.problem (.repositoryUnreadable root.text reason)) := by
  obtain ⟨hs, hroot, hfound⟩ := h
  have hclosed : isOpen w = false := by rw [isOpen, hs]; rfl
  have hacquire : ((acquire (opening w root timeout threshold)).renamed (asUnreadable root) w).1 =
      .error (.problem (.repositoryUnreadable root.text reason)) := hfails.renamed fun _ _ => rfl
  have hnew : newRepository root timeout threshold w = (.ok (opening w root timeout threshold), w) := rfl
  unfold Session.open
  rw [hclosed]
  show (openClosed path timeout threshold w).1 = _
  rw [openClosed, bind_fst_of_ok hroot, bind_fst_of_ok hfound, bind_fst_of_ok hnew]
  exact bind_fst_of_error hacquire

/-- A reference without a target is looked up by its path. -/
theorem startOf_path {r : Reference} (htarget : ∀ t, r.target = some t → t = "") (h : Handles) :
    startOf h r = (peel h r.path : Action (World σ) _) := by
  unfold startOf
  cases hsome : r.target with
  | none => rfl
  | some t =>
    rw [htarget t hsome]
    rfl

/-- The first step of a walk fails when the history cannot be read. -/
theorem next_fresh_of_error (hw : w.AllSent) {h : Handles} (hs : w.session = some h) {f : Failure}
    (hfails : (h.toRepository.records ["--all"] w).1 = .error f) :
    (Walk.next .fresh w).1 = .error f := by
  have hguarded := guarded_fst (failing Walk.operation)
    (failing_fst_of_steady hw (h.toRepository.steady_records ["--all"]))
  rw [Walk.next_fresh_of_session hs]
  rcases hresult : (h.toRepository.records ["--all"]).guarded (failing Walk.operation) w with ⟨result, w'⟩
  rw [hresult, hfails] at hguarded
  subst hguarded
  rfl

/-- The first step of a walk goes on with the records that it has read. -/
theorem next_fresh_of_ok {h : Handles} (hs : w.session = some h) {records : List (List Char)}
    (hrecords : h.toRepository.records ["--all"] w = (.ok records, v)) :
    Walk.next .fresh w = Walk.advance h.toRepository records v := by
  rw [Walk.next_fresh_of_session hs]
  simp only [guarded, hrecords]

/-- A walk fails at the record whose commit cannot be read. -/
theorem advance_of_error (hw : w.AllSent) {r : Repository} {record : List Char} {rest : List (List Char)} {f : Failure}
    (h : (r.commitOf record w).1 = .error f) : (Walk.advance r (record :: rest) w).1 = .error f := by
  rw [Walk.advance_cons_fst r record rest hw, h]
  rfl

theorem step_of_error {walk : Walk} {f : Failure} (h : (walk.next w).1 = .error f) :
    ((Turn.step walk).take w).1 = .error f := by
  show (walk.next w).1.map _ = _
  rw [h]
  rfl

/-- Where a walk of a reference starts that has to be looked up. -/
theorem startOf_of_error {r : Reference} (htarget : ∀ t, r.target = some t → t = "") {h : Handles}
    {f : Failure} (hinfo : (Helper.info h.helper (commitName r.path) w).1 = .error f) :
    startOf h r w = (.error (renameFailure (History.asHistory (some r.path)) f),
      (Helper.info h.helper (commitName r.path) w).2) := by
  rw [startOf_path htarget]
  exact bind_of_error (Prod.ext (renamed_fst_of_error _ hinfo) (renamed_snd _ _ _))

theorem resolveCommit_of_error {id : String} {h : Handles} {f : Failure}
    (hinfo : (Helper.info h.helper (commitName id) w).1 = .error f) :
    resolveCommit h id w =
      (.error (renameFailure (asCheckout id) f), (Helper.info h.helper (commitName id) w).2) :=
  bind_of_error (Prod.ext (renamed_fst_of_error _ hinfo) (renamed_snd _ _ _))

/-- A commit is read by commands only. -/
theorem command_of_describes {r : Repository} {record : List Char}
    (h : r.Describes w record a told v) : ∃ r arguments input, a = .command r arguments input := by
  obtain ⟨c, -, hcompares⟩ := h
  cases hcompares <;> exact ⟨_, _, _, rfl⟩

theorem command_of_reads {r : Repository} {selection : List String}
    (h : r.Reads w selection a told v) : ∃ r arguments input, a = .command r arguments input := by
  cases h with
  | history => exact ⟨_, _, _, rfl⟩
  | record _ _ hdescribes => exact command_of_describes hdescribes

/-- **A failure is told as in the table**, unless closing goes wrong. -/
theorem Turn.ends_of_fails {turn : Turn} (hw : w.AllSent) (h : turn.Asks w a told v)
    (hfails : a.Fails v reason) : (turn.take w).1 =
      .error ((a.closingMishap v).elim (.problem (told reason)) fun m => .fault m.toFault) := by
  cases h with
  | folder h => exact open_of_acquire h (failsFor_run_iff.2 hfails).bind
  | helper h hfolder =>
    refine open_of_acquire h ?_
    obtain ⟨arguments, code, hstart⟩ := (Helper.failsFor_start_iff.2 hfails).bind
    refine ⟨arguments, code, ?_⟩
    unfold folderArguments at hfolder
    rw [acquire, bind_fst_of_ok hfolder]
    exact hstart
  | references hs =>
    refine map_fst_of_error ((operation_fst_of_steady hs hw ?_).trans ?_)
    · exact ((steady_run _ _ _).renamed _).bind fun _ => moves_pure _
    · exact bind_run_of_fails hfails fun _ _ => rfl
  | commits hs hreads =>
    obtain ⟨_, _, _, rfl⟩ := command_of_reads hreads
    refine map_fst_of_error ((operation_fst_of_steady hs hw (steady_commits _ _)).trans ?_)
    exact commits_of_fails hreads hfails
  | @commit h hs id a told v hreads =>
    obtain ⟨_, _, _, rfl⟩ := command_of_reads hreads
    refine map_fst_of_error ((operation_fst_of_steady hs hw (steady_firstOf id h)).trans ?_)
    exact bind_fst_of_error (commits_of_fails hreads hfails)
  | path hs htarget =>
    obtain ⟨arguments, code, hinfo⟩ := Helper.failsFor_info_iff.2 hfails
    refine map_fst_of_error (operation_of_info hs hw (.refl w) ?_ (problem_ne_interrupt _))
    exact bind_of_error (startOf_of_error htarget hinfo)
  | @reached h hs r start v hstart =>
    have hv : Steady w v := (asks_startOf h r).steady_of_ok hstart
    refine map_fst_of_error ((operation_fst hs ?_).trans ?_)
    · rw [bind_apply, hstart]
      exact (hw.steady hv).steady ((((steady_run _ _ _).renamed _).bind fun _ => moves_pure _) v)
    · rw [bind_fst_of_ok hstart]
      exact bind_run_of_fails hfails fun _ _ => rfl
  | @object h hs id v hlock =>
    have hv : Steady w v := (steady_clearLock h id).of_eq hlock
    obtain ⟨arguments, code, hinfo⟩ := Helper.failsFor_info_iff.2 hfails
    refine operation_of_info hs hw hv ?_ (problem_ne_interrupt _)
    rw [bind_apply, hlock]
    exact bind_of_error (resolveCommit_of_error hinfo)
  | @tree h hs id object w₁ v hlock hobject =>
    have hw₁ : Steady w w₁ := (steady_clearLock h id).of_eq hlock
    have hv : Steady w v := hw₁.trans ((asks_resolveCommit h id).steady_of_ok hobject)
    refine (operation_fst hs ?_).trans ?_
    · rw [bind_apply, hlock]
      dsimp only
      rw [bind_apply, hobject]
      exact (hw.steady hv).steady ((((steady_run _ _ _).renamed _).bind fun _ => steady_log _ _ _) v)
    · rw [bind_fst_of_ok hlock, bind_fst_of_ok hobject]
      exact bind_run_of_fails hfails fun _ _ => rfl
  | files hs =>
    refine map_fst_of_error ((operation_fst_of_steady hs hw ?_).trans ?_)
    · exact ((steady_run _ _ _).renamed _).bind fun _ => moves_pure _
    · exact bind_run_of_fails hfails fun _ _ => rfl
  | walkHistory hs => exact step_of_error (next_fresh_of_error hw hs (records_of_fails hfails))
  | @walkFirst h hs record rest w₁ v a told hrecords hdescribes =>
    obtain ⟨_, _, _, rfl⟩ := command_of_describes hdescribes
    have hw₁ : Steady w w₁ := (h.toRepository.steady_records ["--all"]).of_eq hrecords
    refine step_of_error ?_
    rw [next_fresh_of_ok hs hrecords]
    exact advance_of_error (hw.steady hw₁) (commitOf_of_fails hdescribes hfails)
  | walkNext hdescribes =>
    obtain ⟨_, _, _, rfl⟩ := command_of_describes hdescribes
    exact step_of_error (advance_of_error hw (commitOf_of_fails hdescribes hfails))

/-! ### A helper that has ended -/

/-- What comes of a turn that knows of no object. -/
def Turn.withoutObject : Turn → Except Failure Unit
  | .call (.request (.checkout id)) => .error (.problem (.checkout id "does not resolve to a commit"))
  | _ => .ok ()

/-- Where the walk of a reference starts that leads to a commit, or to none. -/
theorem startOf_of_info {r : Reference} (htarget : ∀ t, r.target = some t → t = "") {h : Handles}
    {found : Option ObjectInfo} (hinfo : (Helper.info h.helper (commitName r.path) w).1 = .ok found) :
    startOf h r w =
      (.ok (found.map ObjectInfo.id), (Helper.info h.helper (commitName r.path) w).2) := by
  rw [startOf_path htarget, peel, bind_apply, renamed_ok_iff.2 (Prod.ext hinfo rfl)]
  rfl

/-- A reference that leads to no commit reaches none. -/
theorem idsOf_of_none {h : Handles} (hs : w.session = some h) {r : Reference}
    (htarget : ∀ t, r.target = some t → t = "")
    (hinfo : (Helper.info h.helper (commitName r.path) w).1 = .ok none) : (idsOf r w).1 = .ok [] := by
  have hids : idsOf r w = (.ok [], (Helper.info h.helper (commitName r.path) w).2.logged
      (.plain .debug logger ("Reference " ++ r.path ++ " does not resolve to a commit"))) := by
    refine operation_of_ok hs ?_
    rw [bind_apply, startOf_of_info htarget hinfo]
    rfl
  rw [hids]

/-- A name that leads to no commit cannot be checked out. -/
theorem checkout_of_none {h : Handles} (hs : w.session = some h) (hw : w.AllSent) {id : String}
    (hlock : clearLock h id w = (.ok (), v))
    (hinfo : (Helper.info h.helper (commitName id) v).1 = .ok none) :
    (checkout id w).1 = .error (.problem (.checkout id "does not resolve to a commit")) := by
  have hfound : Helper.info h.helper (commitName id) v =
      (.ok none, (Helper.info h.helper (commitName id) v).2) := Prod.ext hinfo rfl
  have hresolve : resolveCommit h id v = (.error (.problem (.checkout id "does not resolve to a commit")),
      (Helper.info h.helper (commitName id) v).2) := by
    rw [resolveCommit, bind_apply, renamed_ok_iff.2 hfound]
    rfl
  have hv : Steady w v := (steady_clearLock h id).of_eq hlock
  have hasked : Steady v (Helper.info h.helper (commitName id) v).2 :=
    (Helper.asks_info _ _).steady_of_ok hfound
  refine (operation_fst hs ?_).trans ?_
  · rw [bind_apply, hlock]
    dsimp only
    rw [bind_of_error hresolve]
    exact hw.steady (hv.trans hasked)
  · rw [bind_fst_of_ok hlock]
    exact bind_fst_of_error (congrArg Prod.fst hresolve)

/-- **A name without an answer is one without an object.** -/
theorem Turn.ends_of_unanswered {turn : Turn} (hw : w.AllSent) (h : turn.Asks w a told v)
    (hended : a.Unanswered v) : (turn.take w).1 = turn.withoutObject := by
  cases h with
  | folder _ => exact hended.elim
  | helper _ _ => exact hended.elim
  | references _ => exact hended.elim
  | commits _ hreads =>
    obtain ⟨_, _, _, rfl⟩ := command_of_reads hreads
    exact hended.elim
  | commit _ hreads =>
    obtain ⟨_, _, _, rfl⟩ := command_of_reads hreads
    exact hended.elim
  | @path h hs r htarget =>
    obtain ⟨htold, hanswer⟩ := hended
    have hids : (idsOf r w).1 = .ok [] :=
      idsOf_of_none hs htarget (Helper.info_lookup (.ended htold hanswer))
    show (((fun _ => ()) <$> idsOf r : Action (World σ) Unit) w).1 = _
    rw [map_apply, hids]
    rfl
  | reached _ _ => exact hended.elim
  | object hs hlock =>
    obtain ⟨htold, hanswer⟩ := hended
    exact checkout_of_none hs hw hlock (Helper.info_lookup (.ended htold hanswer))
  | tree _ _ _ => exact hended.elim
  | files _ => exact hended.elim
  | walkHistory _ => exact hended.elim
  | walkFirst _ _ hdescribes =>
    obtain ⟨_, _, _, rfl⟩ := command_of_describes hdescribes
    exact hended.elim
  | walkNext hdescribes =>
    obtain ⟨_, _, _, rfl⟩ := command_of_describes hdescribes
    exact hended.elim

/-! ## Nothing else is asked -/

/-- **An operation asks what its body asks**, and closes the repository when it has failed. -/
theorem covers_operation {A : Appeals σ} {name : String} {body : Handles → Action (World σ) α}
    (hbody : ∀ h, w.session = some h → Adds A.Leave w (body h w).2) :
    Adds (fun e => e.IsClosing ∨ A.Leave e) w (operation name body w).2 := by
  cases hs : w.session with
  | none =>
    have hopen : operation name body w = (handles name >>= fun h => (body h).guarded (failing name)) w :=
      rfl
    rw [hopen, bind_apply, handles_of_closed hs]
    exact .refl w
  | some h =>
    rw [operation_eq hs]
    have hasks : Adds (fun e => e.IsClosing ∨ A.Leave e) w (body h w).2 :=
      (hbody h hs).mono fun _ => .inr
    exact course_guarded hasks fun f w' => (adds_failed name f w').mono fun _ => .inl

theorem adds_clearLock (h : Handles) (id : String) {P : GitEvent → Prop} :
    Moves (Adds P) (clearLock h id : Action (World σ) Unit) := by
  have hremove : Moves (Adds P) (removeLock id (lockOf h) : Action (World σ) Unit) := by
    intro w
    unfold removeLock
    split
    · exact .of_events_eq rfl
    · exact .refl w
  have hlocked : Moves (Adds P) (isLocked h : Action (World σ) Bool) := fun w => .refl w
  refine hlocked.bind fun isLocked => ?_
  split
  · exact (moves_log Adds.scene _ _ _).bind fun _ => hremove
  · exact moves_pure _

/-- A name that is one of the appeals. -/
theorem covers_info {A : Appeals σ} {helper : Nat} {name : String} (h : A (.lookup helper name) told w) :
    Adds A.Leave w (Helper.info helper name w).2 :=
  (Helper.leaves_info helper name w).mono fun _ he => ⟨_, _, _, h, he⟩

theorem covers_startOf {r : Reference} {h : Handles} (hs : w.session = some h) :
    Adds (Appeals.Leave ((Turn.call (.request (.idsOf r))).Asks w)) w (startOf h r w).2 := by
  by_cases htarget : ∀ t, r.target = some t → t = ""
  · rw [startOf_path htarget]
    refine course_bind ?_ fun _ _ _ => .refl _
    rw [renamed_snd]
    exact covers_info (.path hs htarget)
  · obtain ⟨t, ht⟩ := not_forall.1 htarget
    obtain ⟨hsome, hne⟩ := Classical.not_imp.1 ht
    rw [startOf_target hsome (by simpa using hne)]
    exact .refl w

theorem covers_checkout (id : String) :
    Adds (fun e => e.IsClosing ∨ Appeals.Leave ((Turn.call (.request (.checkout id))).Asks w) e) w
      (checkout id w).2 := by
  refine covers_operation fun h' hs' => ?_
  refine course_bind (adds_clearLock h' id w) fun _ w₁ hlock => ?_
  refine course_bind ?_ fun object w₂ hobject => ?_
  · refine course_bind ?_ fun found w₂ _ => ?_
    · rw [renamed_snd]
      exact covers_info (.object hs' hlock)
    · cases found <;> exact .refl w₂
  · refine course_bind ?_ fun _ w₃ _ => Adds.scene w₃ _
    rw [renamed_snd]
    exact covers_run (.tree hs' hlock hobject)

/-- **Opening** asks for the folder of git's own files, and starts the helper. -/
theorem covers_open (path : Path) (timeout threshold : Value) :
    Adds (Appeals.Leave ((Turn.call (.open path timeout threshold)).Asks w)) w
      (Session.open path timeout threshold w).2 := by
  unfold Session.open
  split
  · exact .refl w
  · next hclosed =>
    have hs : w.session = none := by simpa [isOpen] using hclosed
    have hroot_snd : (rootOf path w).2 = w := by
      unfold rootOf
      split <;> rfl
    have hfound_snd : ∀ root, (requireRepository root w).2 = w := by
      intro root
      unfold requireRepository
      split <;> rfl
    refine course_bind (by rw [hroot_snd]; exact .refl w) fun root w₁ hroot => ?_
    obtain rfl : w = w₁ := hroot_snd.symm.trans (congrArg Prod.snd hroot)
    refine course_bind (by rw [hfound_snd]; exact .refl w) fun _ w₁ hfound => ?_
    obtain rfl : w = w₁ := (hfound_snd root).symm.trans (congrArg Prod.snd hfound)
    have h : IsFound w path root := ⟨hs, hroot, hfound⟩
    refine course_bind (.refl w) fun r w₁ hnew => ?_
    cases hnew
    refine course_bind ?_ fun _ w₂ _ => .of_events_eq rfl
    rw [renamed_snd]
    refine course_bind (covers_run (.folder h)) fun output w₁ hfolder => ?_
    refine course_bind ?_ fun _ w₂ _ => .refl w₂
    exact (Helper.leaves_start root w₁).mono fun _ he => ⟨_, _, _, .helper h hfolder, he⟩

/-! ### Walks -/

/-- A step of a walk asks what reading the commit asks. -/
theorem covers_advance {A : Appeals σ} {r : Repository} {records : List (List Char)}
    (h : ∀ record rest, records = record :: rest → ∀ a told v, r.Describes w record a told v → A a told v) :
    Adds (fun e => e.IsClosing ∨ A.Leave e) w (Walk.advance r records w).2.2 := by
  cases records with
  | nil => exact .refl w
  | cons record rest =>
    have hread : Adds (fun e => e.IsClosing ∨ A.Leave e) w (Walk.read r record w).2 := by
      refine course_guarded ?_ fun f w' => (adds_failed Walk.operation f w').mono fun _ => .inl
      refine covers_commitOf.mono fun e ⟨a, told, v, hdescribes, he⟩ => .inr ?_
      exact ⟨a, told, v, h record rest rfl a told v hdescribes, he⟩
    rcases hresult : Walk.read r record w with ⟨result, w'⟩
    rw [hresult] at hread
    cases result <;> simpa only [Walk.advance, hresult] using hread

theorem covers_next (walk : Walk) :
    Adds (fun e => e.IsClosing ∨ Appeals.Leave ((Turn.step walk).Asks w) e) w (walk.next w).2.2 := by
  cases walk with
  | «over» => exact .refl w
  | underWay r records =>
    refine covers_advance fun record rest hrecords a told v hdescribes => ?_
    subst hrecords
    exact .walkNext hdescribes
  | fresh =>
    cases hs : w.session with
    | none =>
      rw [Walk.next_fresh_of_closed hs]
      exact .refl w
    | some h =>
      have hrecords : Adds (fun e => e.IsClosing ∨ Appeals.Leave ((Turn.step .fresh).Asks w) e) w
          ((h.toRepository.records ["--all"]).guarded (failing Walk.operation) w).2 := by
        refine course_guarded ?_ fun f w' => (adds_failed Walk.operation f w').mono fun _ => .inl
        exact covers_records.mono fun e he => .inr ⟨_, _, _, .walkHistory hs, he⟩
      rw [Walk.next_fresh_of_session hs]
      rcases hresult : (h.toRepository.records ["--all"]).guarded (failing Walk.operation) w with
        ⟨result, w₁⟩
      rw [hresult] at hrecords
      cases result with
      | error f => exact hrecords
      | ok records =>
        refine hrecords.trans (covers_advance fun record rest hcons a told v hdescribes => ?_)
        subst hcons
        exact .walkFirst hs (guarded_ok_iff.1 hresult) hdescribes

/-- **A turn asks what is in the table**, and may close the repository. -/
theorem Turn.covers_take (turn : Turn) :
    Adds (fun e => e.IsClosing ∨ Appeals.Leave (turn.Asks w) e) w (turn.take w).2 := by
  cases turn with
  | step walk => exact covers_next walk
  | call c =>
    cases c with
    | «open» path timeout threshold =>
      exact (covers_open path timeout threshold).mono fun _ => .inr
    | close => exact (adds_close w).mono fun _ => .inl
    | request q =>
      cases q with
      | references =>
        show Adds _ w (((fun _ => ()) <$> references : Action (World σ) Unit) w).2
        rw [map_apply]
        refine covers_operation fun h hs => ?_
        refine course_bind ?_ fun _ w₁ _ => .refl w₁
        rw [renamed_snd]
        exact covers_run (.references hs)
      | commits =>
        show Adds _ w (((fun _ => ()) <$> commits : Action (World σ) Unit) w).2
        rw [map_apply]
        refine covers_operation fun h hs => covers_commits.mono fun e ⟨a, told, v, hreads, he⟩ => ?_
        exact ⟨a, told, v, .commits hs hreads, he⟩
      | commit id =>
        show Adds _ w (((fun _ => ()) <$> commit id : Action (World σ) Unit) w).2
        rw [map_apply]
        refine covers_operation fun h hs => course_bind ?_ fun found w₁ _ => ?_
        · refine covers_commits.mono fun e ⟨a, told, v, hreads, he⟩ => ?_
          exact ⟨a, told, v, .commit hs hreads, he⟩
        · cases found <;> exact .refl w₁
      | idsOf r =>
        show Adds _ w (((fun _ => ()) <$> idsOf r : Action (World σ) Unit) w).2
        rw [map_apply]
        refine covers_operation fun h hs => course_bind (covers_startOf hs) fun found w₁ hstart => ?_
        cases found with
        | none => exact course_bind (Adds.scene w₁ _) fun _ w₂ _ => .refl w₂
        | some start =>
          refine course_bind ?_ fun _ w₂ _ => .refl w₂
          rw [renamed_snd]
          exact covers_run (.reached hs hstart)
      | checkout id => exact covers_checkout id
      | files id =>
        show Adds _ w (((fun _ => ()) <$> files id : Action (World σ) Unit) w).2
        rw [map_apply]
        refine covers_operation fun h hs => ?_
        refine course_bind ?_ fun _ w₁ _ => .refl w₁
        rw [renamed_snd]
        exact covers_run (.files hs)

/-! ## Nothing gets through -/

theorem asUnreadable_ne (root : Path) (p : Problem) (arguments : List String) (reason : String)
    (code : Option Int) : asUnreadable root p ≠ .gitCommand arguments reason code := by
  intro h
  cases p <;> cases h

theorem asReferenceList_ne (p : Problem) (arguments : List String) (reason : String)
    (code : Option Int) : asReferenceList p ≠ .gitCommand arguments reason code := by
  intro h
  cases p <;> cases h

theorem asCheckout_ne (id : String) (p : Problem) (arguments : List String) (reason : String)
    (code : Option Int) : asCheckout id p ≠ .gitCommand arguments reason code := by
  intro h
  cases p <;> cases h

theorem speaks_operation (name : String) {body : Handles → Action (World σ) α}
    (h : ∀ h, Speaks (body h)) : Speaks (operation name body) := by
  have hhandles : Speaks (handles name : Action (World σ) Handles) := by
    intro w
    cases hs : w.session with
    | none =>
      rw [handles_of_closed hs]
      exact not_failsFor_problem nofun
    | some h =>
      rw [handles_of_session hs]
      exact fun reason => not_failsFor_ok reason h
  exact hhandles.bind fun handles => (h handles).guarded fun _ _ _ => fault_of_failing

theorem speaks_clearLock (h : Handles) (id : String) :
    Speaks (clearLock h id : Action (World σ) Unit) := by
  have hremove : Speaks (removeLock id (lockOf h) : Action (World σ) Unit) := by
    intro w
    unfold removeLock
    split
    · exact fun reason => not_failsFor_ok reason ()
    · exact not_failsFor_problem nofun
  have hlocked : Speaks (isLocked h : Action (World σ) Bool) := by
    intro w reason
    unfold isLocked
    cases w.disk.isThere w.here (lockOf h) with
    | ok b => exact not_failsFor_ok reason b
    | error e => exact not_failsFor_fault reason (.error (e.toFault (lockOf h).text))
  refine hlocked.bind fun isLocked => ?_
  split
  · exact (speaks_update _).bind fun _ => hremove
  · exact speaks_pure _

theorem speaks_startOf (h : Handles) (r : Reference) :
    Speaks (startOf h r : Action (World σ) (Option String)) := by
  have hpeel : Speaks (peel h r.path : Action (World σ) (Option String)) :=
    (speaks_renamed (asHistory_ne _) _).bind fun _ => speaks_pure _
  unfold startOf
  split
  · split
    · exact hpeel
    · exact speaks_pure _
  · exact hpeel

theorem speaks_open (path : Path) (timeout threshold : Value) :
    Speaks (Session.open path timeout threshold : Action (World σ) Unit) := by
  have hroot : Speaks (rootOf path : Action (World σ) Path) := by
    intro w
    unfold rootOf
    split
    · exact fun reason => not_failsFor_fault reason (.error (.wrongValue "embedded null byte"))
    · exact fun reason => not_failsFor_ok reason _
  have hrequire : ∀ root, Speaks (requireRepository root : Action (World σ) Unit) := by
    intro root w
    unfold requireRepository
    split
    · next e _ => exact fun reason => not_failsFor_fault reason (.error (e.toFault _))
    · exact fun reason => not_failsFor_ok reason ()
    · exact not_failsFor_problem nofun
  intro w
  unfold Session.open
  split
  · exact not_failsFor_problem nofun
  · refine (hroot.bind fun root => (hrequire root).bind fun _ => (speaks_read _).bind fun r => ?_) w
    exact (speaks_renamed (asUnreadable_ne root) _).bind fun h => speaks_update _

theorem speaks_advance (r : Repository) (records : List (List Char)) :
    ¬ FailsFor reason (Walk.advance r records w).1 := by
  cases records with
  | nil => exact not_failsFor_ok reason none
  | cons record rest =>
    have hspeaks : Speaks ((r.commitOf record).guarded (failing Walk.operation) : Action (World σ) Commit) :=
      (speaks_commitOf record).guarded fun _ _ _ => fault_of_failing
    have hread := hspeaks w reason
    rcases hresult : Walk.read r record w with ⟨result, w'⟩
    unfold Walk.read at hresult
    rw [hresult] at hread
    simp only [Walk.advance, Walk.read, hresult]
    cases result with
    | ok c => exact not_failsFor_ok reason (some c)
    | error f =>
      rintro ⟨arguments, code, hproblem⟩
      cases hproblem
      exact hread ⟨arguments, code, rfl⟩

theorem speaks_next (walk : Walk) : ¬ FailsFor reason (walk.next w).1 := by
  cases walk with
  | «over» => exact not_failsFor_ok reason none
  | underWay r records => exact speaks_advance r records
  | fresh =>
    cases hs : w.session with
    | none =>
      rw [Walk.next_fresh_of_closed hs]
      exact not_failsFor_problem (fun hkind => by cases hkind) reason
    | some h =>
      have hspeaks : Speaks ((h.toRepository.records ["--all"]).guarded (failing Walk.operation) :
          Action (World σ) (List (List Char))) :=
        (speaks_records ["--all"]).guarded fun _ _ _ => fault_of_failing
      have hrecords := hspeaks w
      rw [Walk.next_fresh_of_session hs]
      rcases hresult : (h.toRepository.records ["--all"]).guarded (failing Walk.operation) w with
        ⟨result, w₁⟩
      cases result with
      | ok records => exact speaks_advance h.toRepository records
      | error f =>
        rw [hresult] at hrecords
        intro ⟨arguments, code, hproblem⟩
        cases hproblem
        exact hrecords reason ⟨arguments, code, rfl⟩

/-- **No turn ends with the bare problem of a command.** -/
theorem Turn.speaks_take (turn : Turn) : Speaks (turn.take : Action (World σ) Unit) := by
  cases turn with
  | step walk =>
    intro w reason hfails
    exact speaks_next walk hfails.of_map
  | call c =>
    cases c with
    | «open» path timeout threshold => exact speaks_open path timeout threshold
    | close =>
      intro w reason
      rcases closing_fst_cases w with hnone | ⟨m, hm⟩
      · show ¬ FailsFor reason (afterTidying (.ok ()) (closing w).1)
        rw [hnone]
        exact not_failsFor_ok reason ()
      · show ¬ FailsFor reason (afterTidying (.ok ()) (closing w).1)
        rw [hm]
        exact not_failsFor_fault reason (.error m.toFault)
    | request q =>
      cases q with
      | references =>
        refine Speaks.map (speaks_operation _ fun h => ?_) _
        exact (speaks_renamed asReferenceList_ne _).bind fun _ => speaks_pure _
      | commits => exact Speaks.map (speaks_operation _ fun h => speaks_commits _) _
      | commit id =>
        refine Speaks.map (speaks_operation _ fun h => (speaks_commits _).bind fun found => ?_) _
        cases found with
        | nil => exact speaks_fail (not_failsFor_problem nofun)
        | cons c _ => exact speaks_pure c
      | idsOf r =>
        refine Speaks.map (speaks_operation _ fun h => (speaks_startOf h r).bind fun found => ?_) _
        cases found with
        | none => exact (speaks_update _).bind fun _ => speaks_pure _
        | some start => exact (speaks_renamed (asHistory_ne _) _).bind fun _ => speaks_pure _
      | checkout id =>
        refine speaks_operation _ fun h => (speaks_clearLock h id).bind fun _ => ?_
        have hresolve : Speaks (resolveCommit h id : Action (World σ) String) := by
          refine (speaks_renamed (asCheckout_ne id) _).bind fun found => ?_
          cases found with
          | none => exact speaks_fail (not_failsFor_problem nofun)
          | some info => exact speaks_pure info.id
        refine hresolve.bind fun object => ?_
        exact (speaks_renamed (asCheckout_ne id) _).bind fun _ => speaks_update _
      | files id =>
        refine Speaks.map (speaks_operation _ fun h => ?_) _
        exact (speaks_renamed (asHistory_ne none) _).bind fun _ => speaks_pure _

/-! ## The turn's own words -/

/-- The reason is told. -/
def Names (p : Problem) (reason : String) : Prop := ("reason", .text reason) ∈ p.details

theorem own_compares {r : Repository} {commit : String} {parents : List String}
    (h : r.Compares w commit parents a told v) (reason : String) :
    (told reason).kind = .diff ∧ Names (told reason) reason := by
  cases h with
  | emptyTree _ _ => exact ⟨rfl, by simp [Names, Problem.details]⟩
  | listing _ _ => exact ⟨rfl, by simp [Names, Problem.details]⟩
  | patch _ _ _ _ => exact ⟨rfl, by simp [Names, Problem.details]⟩

theorem own_reads {r : Repository} {selection : List String} (h : r.Reads w selection a told v)
    (reason : String) : (told reason).kind ∈ [ProblemKind.historyRead, .diff] ∧ Names (told reason) reason := by
  cases h with
  | history => exact ⟨by simp [Problem.kind], by simp [Names, Problem.details]⟩
  | record _ _ hdescribes =>
    obtain ⟨c, -, hcompares⟩ := hdescribes
    obtain ⟨hkind, hnames⟩ := own_compares hcompares reason
    exact ⟨by simp [hkind], hnames⟩

/-- **A failure is told as one of the turn's own problems**, with the reason. -/
theorem Turn.own_asks {turn : Turn} (h : turn.Asks w a told v) (reason : String) :
    (told reason).kind ∈ turn.kinds ∧ Names (told reason) reason := by
  have hread : ∀ reference, Names (.historyRead reason reference) reason :=
    fun _ => List.mem_cons_self
  have hcheckout : ∀ id, Names (.checkout id reason) reason :=
    fun _ => List.mem_cons_of_mem _ List.mem_cons_self
  have hunreadable : ∀ path, Names (.repositoryUnreadable path reason) reason :=
    fun _ => List.mem_cons_of_mem _ List.mem_cons_self
  have hdescribed : ∀ {r : Repository} {w record}, r.Describes w record a told v →
      (told reason).kind ∈ [ProblemKind.historyRead, .diff] ∧ Names (told reason) reason := by
    intro r w record ⟨c, _, hcompares⟩
    obtain ⟨hkind, hnames⟩ := own_compares hcompares reason
    exact ⟨by simp [hkind], hnames⟩
  cases h with
  | folder _ => exact ⟨List.mem_cons_self, hunreadable _⟩
  | helper _ _ => exact ⟨List.mem_cons_self, hunreadable _⟩
  | references _ => exact ⟨List.mem_cons_self, List.mem_cons_self⟩
  | commits _ hreads => exact own_reads hreads reason
  | commit _ hreads => exact own_reads hreads reason
  | path _ _ => exact ⟨List.mem_cons_self, hread _⟩
  | reached _ _ => exact ⟨List.mem_cons_self, hread _⟩
  | object _ _ => exact ⟨List.mem_cons_self, hcheckout _⟩
  | tree _ _ _ => exact ⟨List.mem_cons_self, hcheckout _⟩
  | files _ => exact ⟨List.mem_cons_self, hread _⟩
  | walkHistory _ => exact ⟨List.mem_cons_self, hread _⟩
  | walkFirst _ _ hdescribes => exact hdescribed hdescribes
  | walkNext hdescribes => exact hdescribed hdescribes

end Session

open Session

/-- A turn leaves nothing to be sent to the helper, if nothing was. -/
theorem Session.Turn.allSent_take (turn : Turn) {w : World σ} (hw : w.AllSent) :
    (turn.take w).2.AllSent := by
  cases turn with
  | call c => exact (c.keepsHelpers w).allSent hw
  | step walk => exact (walk.next_ends w).keepsHelpers.allSent hw

/-- **A failure of git is told in the words of the turn that met it**, whatever git does, as long as it can
    be told the rest of a name.

    - an appeal of the table that fails ends the turn, with the problem of the table, which is one of the
      turn's own and names the reason; but if the helper broke over a name, and closing it goes wrong, too,
      then the turn ends with this fault of the system
    - a name that the helper leaves without an answer, as it has ended, counts as one without an object
    - nothing is done to git that belongs to no appeal of the table, but for closing the helper
    - no turn ends with the bare problem of a command
    - names are left to be sent only while a turn lasts -/
theorem turn_setback (turn : Turn) {w : World σ} (hw : w.AllSent) :
    (∀ a told v reason, turn.Asks w a told v → a.Fails v reason →
      (turn.take w).1 =
        .error ((a.closingMishap v).elim (.problem (told reason)) fun m => .fault m.toFault) ∧
      (told reason).kind ∈ turn.kinds ∧ Names (told reason) reason) ∧
    (∀ a told v, turn.Asks w a told v → a.Unanswered v → (turn.take w).1 = turn.withoutObject) ∧
    Adds (fun e => e.IsClosing ∨ ∃ a told v, turn.Asks w a told v ∧ a.Leaves e) w (turn.take w).2 ∧
    (∀ arguments reason code,
      (turn.take w).1 ≠ .error (.problem (.gitCommand arguments reason code))) ∧
    (turn.take w).2.AllSent := by
  refine ⟨fun a told v reason hasks hfails => ?_, fun a told v hasks hended => ?_, turn.covers_take, ?_,
    turn.allSent_take hw⟩
  · obtain ⟨hkind, hnames⟩ := Turn.own_asks hasks reason
    exact ⟨Turn.ends_of_fails hw hasks hfails, hkind, hnames⟩
  · exact Turn.ends_of_unanswered hw hasks hended
  · intro arguments reason code hproblem
    exact turn.speaks_take w reason ⟨arguments, code, hproblem⟩

/-! ### A git that refuses everything -/

/-- A git that refuses every command, and says why. -/
def gitComplaining : Git Unit :=
  { gitRefusing fun _ => true with
    run := fun _ outside disk => (.finished 128 [] (Text.encode "fatal: no\n".toList), outside, disk) }

/-- Opening the repository fails with what git says. -/
theorem turn_setback_complaining :
    let w : World Unit := .start oneRepository gitComplaining
    (Appeal.command (opening w projectFolder .null .null) folderArguments none).Fails w "fatal: no" ∧
      ((Turn.call (.open projectFolder .null .null)).take w).1 =
        .error (.problem (.repositoryUnreadable "/project" "fatal: no")) := by
  intro w
  have hfolder : IsFound w projectFolder projectFolder :=
    ⟨rfl, rootOf_projectFolder rfl, requireRepository_projectFolder rfl⟩
  have hnull : ((opening w projectFolder .null .null).command folderArguments none).holdsNull = false :=
    GitCommand.holdsNull_eq_false_iff.2 (noNull_line rfl (by decide))
  have hreason : String.ofList (Text.strip (Git.text (Text.encode "fatal: no\n".toList)).toList) =
      "fatal: no" := by
    decide +kernel
  have hfails : (Appeal.command (opening w projectFolder .null .null) folderArguments none).Fails w
      "fatal: no" := by
    rw [← hreason]
    exact .exited hnull rfl (by decide)
  have hends := ((turn_setback (.call (.open projectFolder .null .null)) (w := w)
    (allSent_of_closed rfl)).1 _ _ _ _ (.folder hfolder) hfails).1
  have hpath : projectFolder.text = "/project" := by decide
  rw [hpath] at hends
  exact ⟨hfails, hends⟩

/-! ### A git whose pipe breaks -/

/-- The mishap of a pipe that nobody reads. -/
def brokenPipe : SystemMishap := ⟨32, "Broken pipe", none⟩

/-- A git whose helper takes no name: its pipe is broken, and stays so. -/
def gitBreaking : Git Unit :=
  { gitRefusing fun _ => false with
    ask := fun _ _ outside => (.error brokenPipe, outside)
    sendRest := fun _ outside => (some brokenPipe, outside) }

/-- **A broken pipe gets through**, and a helper that has ended is not noticed. When the helper breaks
    over a name, a checkout ends with the fault of the pipe, which closing the helper raises again. When
    the helper has ended, it says nothing, and the ids of a reference without a target are none. -/
theorem turn_setback_broken :
    (¬∀ (turn : Turn) (w : World Unit), w.AllSent → ∀ a told v reason, turn.Asks w a told v →
      a.Fails v reason → (turn.take w).1 = .error (.problem (told reason))) ∧
    ¬∀ (turn : Turn) (w : World Unit), w.AllSent → ∀ a told v, turn.Asks w a told v →
      a.Unanswered v → ∃ p, (turn.take w).1 = .error (.problem p) ∧ p.kind ∈ turn.kinds := by
  constructor
  · intro hall
    let w : World Unit := projectOpened gitBreaking
    have hsent : w.AllSent := fun _ _ _ => List.not_mem_nil
    have hopen : w.session = some projectHandles := rfl
    have hasks := Turn.Asks.object hopen (clearLock_projectHandles "c1" rfl)
    have hname : Helper.spansLines (commitName "c1") = false :=
      Helper.spansLines_eq_false_iff.2 (by decide)
    have hbroken : (Appeal.lookup projectHandles.helper (commitName "c1")).Fails w
        brokenPipe.toFault.message := .broken hname rfl rfl
    have hmishap : (Appeal.lookup projectHandles.helper (commitName "c1")).closingMishap w =
        some brokenPipe := by
      rw [Appeal.closingMishap, hname]
      rfl
    have htold := hall _ w hsent _ _ _ _ hasks hbroken
    rw [Turn.ends_of_fails hsent hasks hbroken, hmishap] at htold
    cases htold
  · intro hall
    let w : World Unit := projectOpened (gitRefusing fun _ => false)
    have hsent : w.AllSent := fun _ _ _ => List.not_mem_nil
    let r : Reference := ⟨"main", "refs/heads/main", .branch, none⟩
    have hasks := Turn.Asks.path (w := w) (h := projectHandles) (r := r) rfl nofun
    have hended : (Appeal.lookup projectHandles.helper (commitName r.path)).Unanswered w :=
      ⟨⟨Helper.spansLines_eq_false_iff.2 (by decide), rfl⟩, rfl⟩
    obtain ⟨p, hproblem, -⟩ := hall _ w hsent _ _ _ hasks hended
    rw [Turn.ends_of_unanswered hsent hasks hended] at hproblem
    cases hproblem

end HistoryMetrics
