import HistoryMetrics.Command.Basic
import HistoryMetrics.Proofs.Disk.SameBut
import HistoryMetrics.Proofs.Log.Hierarchy
import HistoryMetrics.Proofs.Session.Lifecycle

/-! # Which handlers records reach

    Logging may be set up many times, and each time may fail. The handlers that the program has installed
    before are gone in any case, and those of others stay. After the last call has succeeded a record goes
    to the console and to the file of this call, to each from its own level on, and to the handlers of
    others; but only if its logger is the program or one of its parts.

    - `Scene.afterSetUps`: the scene after some calls
    - `handlers_afterSetUps`: the handlers of others stay in their order
    - `Logging.own_receivers`: the handlers of the program that a record reaches
    - `Scene.disk_logged`: what is written of it
    - `records_reach_handlers`: where a record goes after the last call
    - `namesakes_lose_records`: a logger beside the program whose records go nowhere
-/

namespace HistoryMetrics

open Command (Verbosity)

variable {σ : Type}

/-! ## Setting up -/

namespace Logging

variable {l l' : Logging} {disk disk' : Disk} {here : Path} {verbose quiet : Bool}
  {logFile : Option String} {level : Level} {file : Option Path}

/-- Both handlers of the program are its own. -/
theorem isOwn_of_mem_ownHandlers : ∀ h ∈ ownHandlers level file, h.isOwn = true := by
  cases file <;> simp [ownHandlers, Handler.isOwn]

/-- The handlers of others stay when those of the program are replaced. -/
theorem handlers_withOwn : (l.withOwn level file).withoutOwn.handlers = l.withoutOwn.handlers := by
  have hnone : (ownHandlers level file).filter (fun h => !h.isOwn) = [] := by
    rw [List.filter_eq_nil_iff]
    intro h hh
    simp [isOwn_of_mem_ownHandlers h hh]
  simp [withOwn, withoutOwn, hnone]

/-- **A call succeeds or fails**: it installs new handlers, or it only removes those of the program. -/
theorem setUp_cases (l : Logging) (disk : Disk) (here : Path) (verbose quiet : Bool)
    (logFile : Option String) :
    (∃ disk', l.setUp disk here verbose quiet logFile =
        (.ok (), l.withOwn (levelOf verbose quiet) ((fileOf logFile).map (.resolved here)), disk') ∧
      match fileOf logFile with
      | none => disk' = disk
      | some file => prepareFile disk here file = .ok disk') ∨
    ∃ e, l.setUp disk here verbose quiet logFile = (.error e, l.withoutOwn, disk) := by
  unfold setUp
  cases fileOf logFile with
  | none => exact .inl ⟨disk, rfl, rfl⟩
  | some file =>
    dsimp only
    cases hprepare : prepareFile disk here file with
    | ok disk' => exact .inl ⟨disk', rfl, rfl⟩
    | error e => exact .inr ⟨e, rfl⟩

/-- **The handlers of others stay in their order**, whether a call succeeds or fails. -/
theorem handlers_setUp :
    (l.setUp disk here verbose quiet logFile).2.1.withoutOwn.handlers = l.withoutOwn.handlers := by
  rcases setUp_cases l disk here verbose quiet logFile with ⟨disk', hset, -⟩ | ⟨e, hset⟩
  · rw [hset]
    exact handlers_withOwn
  · rw [hset]
    simp [withoutOwn]

/-- **The file of a call can be added to** when the call has made it. -/
theorem offers_of_prepareFile {file : Path} (h : prepareFile disk here file = .ok disk') :
    ∃ octets, disk'.Offers here (.resolved here file) octets := by
  unfold prepareFile at h
  cases hfolders : disk.makeFolders here file.parent with
  | error e =>
    rw [hfolders] at h
    cases h
  | ok d =>
    rw [hfolders] at h
    dsimp only at h
    cases happend : d.append here (.resolved here file) [] with
    | error e =>
      rw [happend] at h
      cases h
    | ok d' =>
      rw [happend] at h
      cases h
      exact ⟨_, .of_added happend⟩

/-! ## Receivers -/

variable {r : LogRecord}

theorem lower_rank (a b : Level) : (a.lower b).rank = min a.rank b.rank := by
  unfold Level.lower
  split <;> omega

/-- No handler has a level below the lowest one. -/
theorem lowest_rank_le (first : Level) (hs : List Handler) :
    (lowest first hs).rank ≤ first.rank ∧ ∀ h ∈ hs, (lowest first hs).rank ≤ h.level.rank := by
  induction hs generalizing first with
  | nil => exact ⟨Int.le_refl _, fun h hh => absurd hh List.not_mem_nil⟩
  | cons h hs ih =>
    obtain ⟨hfirst, hrest⟩ := ih (first.lower h.level)
    have hlowest : lowest first (h :: hs) = lowest (first.lower h.level) hs := rfl
    rw [lower_rank] at hfirst
    rw [hlowest]
    refine ⟨by omega, List.forall_mem_cons.2 ⟨by omega, hrest⟩⟩

/-- **The handlers of the program that a record reaches**: the level of the program holds back no record
    that one of them would take. -/
theorem own_receivers (hname : isProgramLogger r.logger = true) :
    ((l.withOwn level file).receivers r).filter Handler.isOwn =
      (ownHandlers level file).filter fun h => r.level.reaches h.level := by
  have hown : ((l.withOwn level file).handlers).filter Handler.isOwn = ownHandlers level file := by
    have hothers : l.withoutOwn.handlers.filter Handler.isOwn = [] := by
      rw [List.filter_eq_nil_iff]
      intro h hh
      have hnot := (List.mem_filter.1 hh).2
      rw [Bool.not_eq_true'] at hnot
      rw [hnot]
      exact Bool.false_ne_true
    rw [withOwn, List.filter_append, hothers, List.nil_append,
      List.filter_eq_self.2 isOwn_of_mem_ownHandlers]
  unfold receivers
  by_cases hlets : (l.withOwn level file).letsThrough r = true
  · rw [if_pos hlets, List.filter_comm, hown]
  · rw [if_neg hlets, List.filter_nil]
    symm
    rw [List.filter_eq_nil_iff]
    intro h hh hreaches
    -- a record for one of the handlers would have been let through
    refine hlets ?_
    have hlow := (lowest_rank_le level (ownHandlers level file)).2 h hh
    rw [Level.reaches, decide_eq_true_iff] at hreaches
    rw [letsThrough, hname, Bool.true_and, Level.reaches, decide_eq_true_iff]
    exact Int.le_trans hlow hreaches

/-- Records of other loggers reach no handler. -/
theorem receivers_of_not_isProgramLogger (hname : isProgramLogger r.logger = false) :
    l.receivers r = [] ∧ l.letsThrough r = false := by
  have hlets : l.letsThrough r = false := by
    rw [letsThrough, hname, Bool.false_and]
  refine ⟨?_, hlets⟩
  rw [receivers, hlets]
  rfl

/-- The handlers that take a record, one by one. -/
theorem filter_ownHandlers (wanted : Level) :
    (ownHandlers level file).filter (fun h => wanted.reaches h.level) =
      (if level.rank ≤ wanted.rank then [Handler.mk .console level] else []) ++
        if min level.rank Level.info.rank ≤ wanted.rank then
          file.toList.map fun p => Handler.mk (.file p) (level.lower .info)
        else [] := by
  have hconsole : wanted.reaches level = decide (level.rank ≤ wanted.rank) := rfl
  have hfile : wanted.reaches (level.lower .info) =
      decide (min level.rank Level.info.rank ≤ wanted.rank) := by
    rw [Level.reaches, lower_rank]
  cases file with
  | none => simp [ownHandlers, List.filter_cons, hconsole]
  | some p =>
    simp only [ownHandlers, Option.map_some, Option.toList_some, List.filter_cons, List.filter_nil,
      hconsole, hfile, decide_eq_true_iff]
    by_cases hlevel : level.rank ≤ wanted.rank
    · rw [if_pos hlevel, if_pos hlevel]
      rfl
    · rw [if_neg hlevel, if_neg hlevel]
      rfl

/-- Only the handlers of the program write to the disk. -/
theorem foldl_written_filter (time : String) (here : Path) (disk : Disk) (hs : List Handler) :
    hs.foldl (written time r here) disk =
      (hs.filter Handler.isOwn).foldl (written time r here) disk := by
  induction hs generalizing disk with
  | nil => rfl
  | cons h hs ih =>
    rw [List.foldl_cons, ih, List.filter_cons]
    cases hown : h.isOwn with
    | true => rfl
    | false =>
      have hforeign : written time r here disk h = disk := by
        obtain ⟨target, _⟩ := h
        cases target with
        | foreign name => rfl
        | console => cases hown
        | file p => cases hown
      rw [hforeign]
      rfl

end Logging

/-! ## Scenes -/

open Logging (levelOf fileOf)

namespace Scene

/-- **The scene after some calls** that set logging up, whichever of them fail. -/
def afterSetUps (s : Scene σ) (calls : List Verbosity) : Scene σ :=
  calls.foldl (fun s v => (setUpLogging v.verbose v.quiet v.logFile s).2) s

/-- **The handlers of others stay through all calls**, and the program stays in its folder. -/
theorem handlers_afterSetUps (s : Scene σ) (calls : List Verbosity) :
    (s.afterSetUps calls).logging.withoutOwn.handlers = s.logging.withoutOwn.handlers ∧
      (s.afterSetUps calls).here = s.here := by
  induction calls generalizing s with
  | nil => exact ⟨rfl, rfl⟩
  | cons v calls ih =>
    obtain ⟨hhandlers, hhere⟩ := ih (setUpLogging v.verbose v.quiet v.logFile s).2
    exact ⟨hhandlers.trans Logging.handlers_setUp, hhere⟩

/-- **A call that succeeds** installs the handlers of its own, and its file can be added to. -/
theorem setUpLogging_ok {s t : Scene σ} {v : Verbosity}
    (h : setUpLogging v.verbose v.quiet v.logFile s = (.ok (), t)) :
    t.logging = s.logging.withOwn (levelOf v.verbose v.quiet)
        ((fileOf v.logFile).map (.resolved s.here)) ∧
      t.here = s.here ∧
      ∀ file ∈ fileOf v.logFile, ∃ octets, t.disk.Offers t.here (.resolved s.here file) octets := by
  unfold setUpLogging at h
  rcases Logging.setUp_cases s.logging s.disk s.here v.verbose v.quiet v.logFile with
    ⟨disk', hset, hfile⟩ | ⟨e, hset⟩
  · rw [hset] at h
    obtain ⟨-, rfl⟩ := Prod.mk.inj h
    refine ⟨rfl, rfl, fun file hmem => ?_⟩
    rw [Option.mem_def.1 hmem] at hfile
    exact Logging.offers_of_prepareFile hfile
  · rw [hset] at h
    obtain ⟨herror, -⟩ := Prod.mk.inj h
    cases herror

/-- What the handlers write of a record. -/
theorem disk_logged (s : Scene σ) (r : LogRecord) : (s.logged r).disk =
    ((s.logging.receivers r).filter Handler.isOwn).foldl (Logging.written s.time r s.here) s.disk := by
  rw [← Logging.foldl_written_filter, logged]
  split
  · rfl
  · next hlets => rw [Logging.receivers, if_neg hlets, List.foldl_nil]

/-- The console writes nothing to the disk; the file does, when the record is urgent enough for it. -/
theorem disk_logged_withOwn {s : Scene σ} {l : Logging} {level : Level} {file : Option Path}
    {r : LogRecord} (hlogging : s.logging = l.withOwn level file)
    (hname : isProgramLogger r.logger = true) :
    (s.logged r).disk =
      if min level.rank Level.info.rank ≤ r.level.rank then
        (file.toList.map fun p => Handler.mk (.file p) (level.lower .info)).foldl
          (Logging.written s.time r s.here) s.disk
      else s.disk := by
  rw [disk_logged, hlogging, Logging.own_receivers hname, Logging.filter_ownHandlers, List.foldl_append]
  have hconsole : List.foldl (Logging.written s.time r s.here) s.disk
      (if level.rank ≤ r.level.rank then [Handler.mk .console level] else []) = s.disk := by
    split
    · rfl
    · rfl
  rw [hconsole]
  split
  · rfl
  · rfl

/-- **The line of a record stands once at the end of the file**, if the record is urgent enough, and all
    other paths lead to what they led to. -/
theorem entryAt_logged_withOwn {s : Scene σ} {l : Logging} {level : Level} {p : Path}
    {r : LogRecord} {octets : List UInt8} (hlogging : s.logging = l.withOwn level (some p))
    (hname : isProgramLogger r.logger = true) (hoffers : s.disk.Offers s.here p octets) :
    (s.logged r).disk.entryAt s.here p = some (.file (octets ++
        if min level.rank Level.info.rank ≤ r.level.rank then
          Text.encode (Logging.fileLine s.time r).toList
        else [])) ∧
      ∀ q, Disk.place s.here p ≠ Disk.place s.here q →
        (s.logged r).disk.entryAt s.here q = s.disk.entryAt s.here q := by
  rw [disk_logged_withOwn hlogging hname]
  by_cases hurgent : min level.rank Level.info.rank ≤ r.level.rank
  · obtain ⟨disk', happend, hoffers', -, -⟩ :=
      hoffers.append (Text.encode (Logging.fileLine s.time r).toList)
    have hwritten : ([p].map fun p => Handler.mk (.file p) (level.lower .info)).foldl
        (Logging.written s.time r s.here) s.disk = disk' := by
      show Logging.written s.time r s.here s.disk ⟨.file p, level.lower .info⟩ = disk'
      rw [Logging.written]
      dsimp only
      rw [happend]
    rw [if_pos hurgent, if_pos hurgent, Option.toList_some, hwritten]
    exact ⟨hoffers'.entry, fun q hne => Disk.entryAt_append_eq hne happend⟩
  · rw [if_neg hurgent, if_neg hurgent, List.append_nil]
    exact ⟨hoffers.entry, fun _ _ => rfl⟩

/-- **All other paths lead to what they led to**, whether there is a file or only the console. -/
theorem entryAt_logged_of_ne {s : Scene σ} {l : Logging} {level : Level} {file : Option Path}
    {r : LogRecord} (hlogging : s.logging = l.withOwn level file)
    (hname : isProgramLogger r.logger = true)
    (hoffers : ∀ p ∈ file, ∃ octets, s.disk.Offers s.here p octets) (q : Path)
    (hne : ∀ p ∈ file, Disk.place s.here p ≠ Disk.place s.here q) :
    (s.logged r).disk.entryAt s.here q = s.disk.entryAt s.here q := by
  cases file with
  | none =>
    rw [disk_logged_withOwn hlogging hname]
    split
    · rfl
    · rfl
  | some p =>
    obtain ⟨octets, hoctets⟩ := hoffers p rfl
    exact (entryAt_logged_withOwn hlogging hname hoctets).2 q (hne p rfl)

end Scene

/-! ## After the last call -/

/-- **Where a record goes after the last call**, which has succeeded. The handlers of others are those of
    the beginning, in their order. If the logger is the program or one of its parts, the handlers of the
    program that the record reaches are those of the last call: the console when it is as urgent as the
    call asks for, and the file, if the call names one, when it is so or tells of progress. Its line then
    stands once at the end of the file, and nothing else on the disk has changed. The records of other
    loggers reach no handler and leave everything as it is. -/
theorem records_reach_handlers {s t : Scene σ} {earlier : List Verbosity} {last : Verbosity}
    (hlast : Scene.setUpLogging last.verbose last.quiet last.logFile (s.afterSetUps earlier) =
      (.ok (), t))
    (name : Option String) (level : Level) (message : String) (cause : Option Failure) :
    let r : LogRecord := ⟨level, loggerName name, message, cause⟩
    let asked := levelOf last.verbose last.quiet
    t.logging.withoutOwn.handlers = s.logging.withoutOwn.handlers ∧
    (IsPartName r.logger →
      (t.logging.receivers r).filter Handler.isOwn =
        (if asked.rank ≤ level.rank then [⟨.console, asked⟩] else []) ++
          (if min asked.rank Level.info.rank ≤ level.rank then
            (fileOf last.logFile).toList.map fun file =>
              ⟨.file (.resolved s.here file), asked.lower .info⟩
          else []) ∧
      (∀ file ∈ fileOf last.logFile, ∃ octets,
        t.disk.entryAt s.here (.resolved s.here file) = some (.file octets) ∧
        (t.logged r).disk.entryAt s.here (.resolved s.here file) = some (.file (octets ++
          if min asked.rank Level.info.rank ≤ level.rank then
            Text.encode (Logging.fileLine t.time r).toList
          else []))) ∧
      ∀ path, (∀ file ∈ fileOf last.logFile,
          Disk.place s.here (.resolved s.here file) ≠ Disk.place s.here path) →
        (t.logged r).disk.entryAt s.here path = t.disk.entryAt s.here path) ∧
    (¬IsPartName r.logger → t.logging.receivers r = [] ∧ t.logged r = t) := by
  intro r asked
  obtain ⟨hhandlers, hfolder⟩ := s.handlers_afterSetUps earlier
  obtain ⟨hlogging, hhere, hoffers⟩ := Scene.setUpLogging_ok hlast
  rw [hfolder] at hlogging hhere hoffers
  refine ⟨?_, fun hpart => ?_, fun hpart => ?_⟩
  · rw [hlogging, Logging.handlers_withOwn, hhandlers]
  · have hname : isProgramLogger r.logger = true := isProgramLogger_iff.2 hpart
    refine ⟨?_, ?_, ?_⟩
    · rw [hlogging, Logging.own_receivers hname, Logging.filter_ownHandlers]
      cases fileOf last.logFile <;> rfl
    · intro file hfile
      obtain ⟨octets, hoctets⟩ := hoffers file hfile
      rw [Option.mem_def.1 hfile] at hlogging
      have hentry := (Scene.entryAt_logged_withOwn hlogging hname hoctets).1
      rw [hhere] at hentry hoctets
      exact ⟨octets, hoctets.entry, hentry⟩
    · intro path helsewhere
      have hothers := Scene.entryAt_logged_of_ne hlogging hname
        (Option.forall_mem_map.2 hoffers) path
      rw [hhere] at hothers
      exact hothers (Option.forall_mem_map.2 helsewhere)
  · have hname : isProgramLogger r.logger = false := isProgramLogger_eq_false_iff.2 hpart
    obtain ⟨hnone, hlets⟩ := t.logging.receivers_of_not_isProgramLogger hname
    refine ⟨hnone, ?_⟩
    rw [Scene.logged, hlets]
    rfl

/-! ## A log beside a repository -/

/-- The program shows everything on the console, and somebody else watches out for errors. -/
def watched : Scene Unit :=
  { oneRepository with
    logging := ⟨.debug, [⟨.console, .debug⟩, ⟨.foreign "audit", .error⟩]⟩ }

/-- A call that cannot open its file, as a folder is in its place. -/
def intoFolder : Verbosity := ⟨true, false, some "/project"⟩

/-- A quiet call with a file. -/
def quietly : Verbosity := ⟨false, true, some "/m.log"⟩

theorem afterSetUps_intoFolder :
    watched.afterSetUps [intoFolder] = { watched with logging := watched.logging.withoutOwn } := by
  have hfile : fileOf (some "/project") = some ⟨"/", ["project"]⟩ := by decide +kernel
  have hresolved : Path.resolved ⟨"/", []⟩ ⟨"/", ["project"]⟩ = ⟨"/", ["project"]⟩ := by decide +kernel
  have htarget : watched.disk.target ⟨"/", []⟩ ⟨"/", ["project"]⟩ = .error .isFolder := by
    rw [Disk.target, Disk.locate_topName rfl (by decide) (by decide) (by decide) (by decide)]
    rfl
  have hprepare : Logging.prepareFile watched.disk ⟨"/", []⟩ ⟨"/", ["project"]⟩ =
      .error (PathFault.isFolder.toFault "/project") := by
    have hfolders : watched.disk.makeFolders ⟨"/", []⟩ ⟨"/", []⟩ = .ok watched.disk := rfl
    have htext : Path.text ⟨"/", ["project"]⟩ = "/project" := by decide +kernel
    rw [Logging.prepareFile, Path.parent, List.dropLast_singleton, hfolders]
    dsimp only
    rw [hresolved, Disk.append, htarget, htext]
    rfl
  have hset : watched.logging.setUp watched.disk ⟨"/", []⟩ true false (some "/project") =
      (.error (PathFault.isFolder.toFault "/project"), watched.logging.withoutOwn, watched.disk) := by
    rw [Logging.setUp, hfile]
    dsimp only
    rw [hprepare]
  show (Scene.setUpLogging true false (some "/project") watched).2 = _
  unfold Scene.setUpLogging
  have hhere : watched.here = ⟨"/", []⟩ := rfl
  rw [hhere, hset]
  rfl

theorem exists_setUpLogging_quietly :
    ∃ t, Scene.setUpLogging quietly.verbose quietly.quiet quietly.logFile
      (watched.afterSetUps [intoFolder]) = (.ok (), t) := by
  have hfile : fileOf (some "/m.log") = some ⟨"/", ["m.log"]⟩ := by decide +kernel
  have hresolved : Path.resolved ⟨"/", []⟩ ⟨"/", ["m.log"]⟩ = ⟨"/", ["m.log"]⟩ := by decide +kernel
  have htarget : watched.disk.target ⟨"/", []⟩ ⟨"/", ["m.log"]⟩ = .ok ["m.log"] := by
    rw [Disk.target, Disk.locate_topName rfl (by decide) (by decide) (by decide) (by decide)]
    rfl
  have hprepare : ∃ disk, Logging.prepareFile watched.disk ⟨"/", []⟩ ⟨"/", ["m.log"]⟩ = .ok disk := by
    have hfolders : watched.disk.makeFolders ⟨"/", []⟩ ⟨"/", []⟩ = .ok watched.disk := rfl
    rw [Logging.prepareFile, Path.parent, List.dropLast_singleton, hfolders]
    dsimp only
    rw [hresolved, Disk.append, htarget]
    exact ⟨_, rfl⟩
  obtain ⟨disk, hdisk⟩ := hprepare
  rw [afterSetUps_intoFolder]
  unfold Scene.setUpLogging
  have hhere : watched.here = ⟨"/", []⟩ := rfl
  have hset : watched.logging.withoutOwn.setUp watched.disk ⟨"/", []⟩ false true (some "/m.log") =
      (.ok (), watched.logging.withoutOwn.withOwn .error (some ⟨"/", ["m.log"]⟩), disk) := by
    rw [Logging.setUp, hfile]
    dsimp only
    rw [hdisk, hresolved]
    rfl
  dsimp only [quietly]
  rw [hhere, hset]
  exact ⟨_, rfl⟩

/-- A name that begins with that of the program, and is not one of its parts. -/
theorem not_isPartName_tools : ¬IsPartName (loggerName (some "repo_miner_tools")) := by
  have hname : "repo_miner_tools".toList = rootLogger.toList ++ '_' :: "tools".toList := by decide
  exact not_isPartName_of_goesOn hname (by decide)

/-- After a call that has failed and a quiet one with a file, a line about progress goes to the file only;
    a record of a logger beside the program goes nowhere, however urgent. -/
theorem records_reach_handlers_watched :
    let progress : LogRecord := ⟨.info, loggerName (some "mining.miner"), "[1/2] c1", none⟩
    let stray : LogRecord := ⟨.critical, loggerName (some "repo_miner_tools"), "lost", none⟩
    IsPartName progress.logger ∧ ¬IsPartName stray.logger ∧
      ∃ t, Scene.setUpLogging quietly.verbose quietly.quiet quietly.logFile
          (watched.afterSetUps [intoFolder]) = (.ok (), t) ∧
        t.logging.withoutOwn.handlers = [⟨.foreign "audit", .error⟩] ∧
        (t.logging.receivers progress).filter Handler.isOwn = [⟨.file ⟨"/", ["m.log"]⟩, .info⟩] ∧
        t.logged stray = t := by
  intro progress stray
  have hpart : IsPartName progress.logger := isPartName_loggerName (by decide) (by decide)
  have hstray : ¬IsPartName stray.logger := not_isPartName_tools
  obtain ⟨t, ht⟩ := exists_setUpLogging_quietly
  refine ⟨hpart, hstray, t, ht, ?_, ?_, ?_⟩
  · exact (records_reach_handlers ht (some "mining.miner") .info "[1/2] c1" none).1
  · have hown := ((records_reach_handlers ht (some "mining.miner") .info "[1/2] c1" none).2.1 hpart).1
    exact hown.trans (by decide +kernel)
  · exact ((records_reach_handlers ht (some "repo_miner_tools") .critical "lost" none).2.2 hstray).2

/-- **A logger beside the program loses its records.** Its name is not put below that of the program, so
    not even the console is told of an error. -/
theorem namesakes_lose_records :
    ¬∀ (s t : Scene Unit) (last : Verbosity) (name : Option String) (level : Level) (message : String),
      Scene.setUpLogging last.verbose last.quiet last.logFile s = (.ok (), t) →
        (levelOf last.verbose last.quiet).rank ≤ level.rank →
          ⟨.console, levelOf last.verbose last.quiet⟩ ∈
            t.logging.receivers (.plain level (loggerName name) message) := by
  intro hall
  have hset : Scene.setUpLogging false false none watched =
      (.ok (), { watched with logging := watched.logging.withOwn .warning none }) := rfl
  have hname := isProgramLogger_eq_false_iff.2 not_isPartName_tools
  have hmem := hall watched _ ⟨false, false, none⟩ (some "repo_miner_tools") .error "" hset (by decide)
  have hnone := (Logging.receivers_of_not_isProgramLogger
    (l := watched.logging.withOwn .warning none)
    (r := .plain .error (loggerName (some "repo_miner_tools")) "") hname).1
  rw [hnone] at hmem
  cases hmem

end HistoryMetrics
