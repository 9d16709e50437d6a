import HistoryMetrics.Command.Basic
import HistoryMetrics.Proofs.Git.Scripted
import HistoryMetrics.Proofs.Smell.Verdicts

/-! # Mining into a file

    The command that mines may keep its records, and show a table of their smells, or write them into a
    file. Both runs prepare themselves in the same way, and the file is opened after that. If nobody else
    comes by the file then it holds in the end what was kept, however the runs ended; and the runs end
    alike if the console can show the table. A run that cannot be prepared does not open the file, so this
    stays what it was.

    - `Command.preparation`: logging is set up, and the settings are loaded
    - `LineFile.Touched`: the places that opening a file changes
    - `Outcome.withoutTables`: an outcome without the table of smells
    - `shownAfter`: what comes of a run when its outcome is shown
    - `mineInMemory_eq`, `mineToFile_eq`: what the two runs come down to
    - `runs_agree`: the two runs, after their preparation
    - `mine_to_file_agrees`: the whole command
-/

namespace HistoryMetrics

open HistoryMetrics.Action World

variable {σ : Type}

/-! ## Opening the file -/

namespace Disk

theorem unreadable_makeFrom {d d' : Disk} {here parts : List String}
    (h : d.makeFrom here parts = .ok d') : d'.unreadable = d.unreadable := by
  induction parts generalizing d here with
  | nil =>
    cases h
    rfl
  | cons part rest ih =>
    simp only [makeFrom] at h
    split at h
    · cases h
    · split at h
      · exact ih h
      · cases h
      · exact (ih h).trans (unreadable_put _ _ _)

theorem unreadable_makeFolders {d d' : Disk} {here p : Path} (h : d.makeFolders here p = .ok d') :
    d'.unreadable = d.unreadable := by
  unfold makeFolders at h
  split at h
  · cases h
  · exact unreadable_makeFrom h

end Disk

namespace LineFile

/-- **The places that opening a file changes**: that of the file, and those of folders that are made for
    it. -/
def Touched (before after : Disk) (here output : Path) (names : List String) : Prop :=
  names = Disk.place here output ∨ after.find? names ≠ before.find? names

variable {before after : Disk} {here output : Path}

/-- What opening a file consists of. -/
theorem emptied_eq_ok (h : emptied before here output = .ok after) :
    ∃ made, before.makeFolders here output.parent = .ok made ∧ made.write here output [] = .ok after := by
  unfold emptied at h
  split at h
  · cases h
  · next made hmade =>
    cases hwrite : made.write here output [] with
    | error e =>
      rw [hwrite] at h
      cases h
    | ok disk =>
      rw [hwrite] at h
      cases h
      exact ⟨made, hmade, hwrite⟩

/-- A file is opened where it can be written, if the folders around it are there. -/
theorem emptied_of_target {names : List String}
    (hfolders : before.makeFolders here output.parent = .ok before)
    (htarget : before.target here output = .ok names) :
    emptied before here output = .ok (before.put names (.file [])) := by
  rw [emptied, hfolders]
  dsimp only
  rw [Disk.write, htarget]
  rfl

/-- **Opening changes nothing else.** -/
theorem sameBut_touched (h : emptied before here output = .ok after) :
    Disk.SameBut (Touched before after here output) before after where
  unreadable := by
    obtain ⟨made, hmade, hwrite⟩ := emptied_eq_ok h
    obtain ⟨-, rfl⟩ := Disk.write_ok hwrite
    rw [Disk.unreadable_put, Disk.unreadable_makeFolders hmade]
  find? names hnames := by
    by_contra hchanged
    exact hnames (.inr hchanged)

theorem open_of_closed {s : Scene σ} (hclosed : s.lineFile.isOpen = false)
    (h : emptied s.disk s.here s.lineFile.path = .ok after) :
    LineFile.open s =
      (.ok (), { s with disk := after, lineFile := { s.lineFile with isOpen := true } }) := by
  unfold LineFile.open
  rw [hclosed, if_neg Bool.false_ne_true, h]

theorem offers_of_emptied (h : emptied before here output = .ok after) :
    after.Offers here output [] := by
  obtain ⟨made, -, hwrite⟩ := emptied_eq_ok h
  exact .of_write hwrite

end LineFile

/-- A run in a folder without a repository ends at once. -/
theorem Miner.mine_of_missing (m : Miner σ) {path : String} {w : World σ} (hclosed : w.session = none)
    (hnull : Disk.holdsNull (.ofText path) = false)
    (hmissing : w.disk.isThere w.here ((Path.resolved w.here (.ofText path)).child ".git") = .ok false)
    (selection : Selection) (failFast : Option Bool) :
    m.mine path selection failFast w =
      (.error (.problem (.repositoryNotFound (Path.resolved w.here (.ofText path)).text)), w) := by
  have hopen : m.openAt path w =
      (.error (.problem (.repositoryNotFound (Path.resolved w.here (.ofText path)).text)), w) := by
    simp only [openAt, Session.open, Session.isOpen, hclosed, Option.isSome_none, Bool.false_eq_true,
      if_false, Session.openClosed, bind_apply, Session.rootOf, hnull, Session.requireRepository, hmissing]
  rw [mine, bind_apply, hopen]

/-- Is it a line, and not a table? -/
def Console.Item.isLine : Console.Item → Bool
  | .line _ => true
  | .table _ => false

/-! ## The console -/

/-- **What is shown of some things**: those before the first that the console cannot show, which is how
    it ends. -/
theorem Scene.showAll_eq (render : Console.Renderer) (items : List Console.Item) (s : Scene σ) :
    showAll render items s =
      ((items.findSome? render).elim (.ok ()) fun f => .error (.fault f),
        { s with shown := s.shown ++ items.takeWhile fun item => (render item).isNone }) := by
  induction items generalizing s with
  | nil =>
    rw [List.takeWhile_nil, List.append_nil]
    rfl
  | cons item rest ih =>
    rw [showAll, List.findSome?_cons, List.takeWhile_cons]
    cases render item with
    | some f => simp
    | none => simp [ih]

namespace Console

variable {render : Renderer} {items : List Item}

/-- Tables that can be shown hide no fault. -/
theorem findSome?_filter_isLine (h : ∀ item ∈ items, item.isLine = false → render item = none) :
    (items.filter (·.isLine)).findSome? render = items.findSome? render := by
  induction items with
  | nil => rfl
  | cons item rest ih =>
    obtain ⟨hitem, hrest⟩ := List.forall_mem_cons.1 h
    rw [List.filter_cons, List.findSome?_cons, ← ih hrest]
    cases hline : item.isLine with
    | true => rw [if_pos rfl, List.findSome?_cons]
    | false => rw [if_neg Bool.false_ne_true, hitem hline]

/-- Tables that can be shown stand among the lines that are shown anyway. -/
theorem takeWhile_filter_isLine (h : ∀ item ∈ items, item.isLine = false → render item = none) :
    (items.filter (·.isLine)).takeWhile (fun item => (render item).isNone) =
      (items.takeWhile fun item => (render item).isNone).filter (·.isLine) := by
  induction items with
  | nil => rfl
  | cons item rest ih =>
    obtain ⟨hitem, hrest⟩ := List.forall_mem_cons.1 h
    rw [List.filter_cons, List.takeWhile_cons]
    cases hline : item.isLine with
    | true =>
      rw [if_pos rfl, List.takeWhile_cons]
      split
      · rw [List.filter_cons, hline, if_pos rfl, ih hrest]
      · rfl
    | false =>
      rw [if_neg Bool.false_ne_true, hitem hline, Option.isNone_none, if_pos rfl, List.filter_cons,
        hline, if_neg Bool.false_ne_true, ih hrest]

end Console

namespace Command

/-! ## Outcomes -/

/-- **An outcome without its tables.** -/
def Outcome.withoutTables (o : Outcome) : Outcome := { o with shown := o.shown.filter (·.isLine) }

/-- All that is shown of a run but the table of smells are lines. -/
theorem isLine_of_mineOutcome {smells : List Console.Item} {r : Report} {item : Console.Item}
    (hitem : item ∈ (mineOutcome smells r).shown) (hsmells : item ∉ smells) : item.isLine = true := by
  rcases List.mem_append.1 hitem with hin | hin
  · exact absurd hin hsmells
  · obtain ⟨line, -, rfl⟩ := List.mem_map.1 hin
    rfl

/-- Without its tables, the outcome of a run is that of a run without smells. -/
theorem withoutTables_mineOutcome (rs : List TypeRecord) (r : Report) :
    (mineOutcome (smellItems rs) r).withoutTables = mineOutcome [] r := by
  have hlines : ∀ lines : List String,
      (lines.map Console.Item.line).filter (·.isLine) = lines.map Console.Item.line := by
    intro lines
    exact List.filter_eq_self.2 fun item hitem => by
      obtain ⟨line, -, rfl⟩ := List.mem_map.1 hitem
      rfl
  have hsmells : (smellItems rs).filter (·.isLine) = [] := by
    unfold smellItems
    split
    · rfl
    · rfl
  simp only [Outcome.withoutTables, mineOutcome, List.filter_append, hsmells, hlines]

/-- **How a command ends**: problems and the wish to stop are shown. -/
def ended : Except Failure Outcome → Except Failure Outcome
  | .error (.problem p) => .ok (problemShown p)
  | .error .interrupt => .ok interrupted
  | result => result

theorem stoppable_reporting (step : Action (World σ) Outcome) (w : World σ) :
    stoppable (reporting step) w = (ended (step w).1, (step w).2) := by
  unfold stoppable reporting
  rcases step w with ⟨result, w'⟩
  cases result with
  | ok o => rfl
  | error f => cases f <;> rfl

/-- What is shown of a failure has no tables. -/
theorem ended_withoutTables (result : Except Failure Outcome) :
    ended (result.map Outcome.withoutTables) = (ended result).map Outcome.withoutTables := by
  cases result with
  | ok o => rfl
  | error f => cases f <;> rfl

/-- The tables that are shown in the end are those of an outcome. -/
theorem of_ended {result : Except Failure Outcome} {o : Outcome} {item : Console.Item}
    (h : ended result = .ok o) (hitem : item ∈ o.shown) (htable : item.isLine = false) :
    result = .ok o := by
  have honly : ∀ {text}, item ∉ [Console.Item.line text] := by
    rintro text hline
    rw [List.mem_singleton.1 hline] at htable
    cases htable
  cases result with
  | ok o' => exact h
  | error f =>
    cases f with
    | problem p =>
      cases h
      exact absurd hitem honly
    | interrupt =>
      cases h
      exact absurd hitem honly
    | fault f => cases h

/-- **What comes of a run when its outcome is shown.** -/
def shownAfter (render : Console.Renderer) (done : Except Failure Outcome × World σ) :
    Except Failure Outcome × World σ :=
  match done with
  | (.error f, w) => (.error f, w)
  | (.ok o, w) =>
    ((o.shown.findSome? render).elim (.ok o) fun f => .error (.fault f),
      { w with shown := w.shown ++ o.shown.takeWhile fun item => (render item).isNone })

theorem showing_eq (render : Console.Renderer) (step : Action (World σ) Outcome) (w : World σ) :
    showing render step w = shownAfter render (step w) := by
  unfold showing
  rw [bind_apply]
  rcases step w with ⟨result, w'⟩
  cases result with
  | error f => rfl
  | ok o =>
    dsimp only
    rw [bind_apply, World.onScene, Scene.showAll_eq, shownAfter]
    cases o.shown.findSome? render with
    | none => rfl
    | some f => rfl

/-- Showing changes nothing but what is shown. -/
theorem shownAfter_snd (render : Console.Renderer) (done : Except Failure Outcome × World σ) :
    ∃ shown, (shownAfter render done).2 = { done.2 with shown } := by
  rcases done with ⟨result, w⟩
  cases result with
  | error f => exact ⟨w.shown, rfl⟩
  | ok o => exact ⟨_, rfl⟩

/-- **Tables that can be shown change nothing about the lines.** -/
theorem shownAfter_withoutTables {render : Console.Renderer} {result : Except Failure Outcome}
    {w v : World σ} (hrender : ∀ o, result = .ok o → ∀ item ∈ o.shown, item.isLine = false →
      render item = none) (hshown : v.shown = w.shown) :
    (shownAfter render (result.map Outcome.withoutTables, v)).1 =
        (shownAfter render (result, w)).1.map Outcome.withoutTables ∧
      (shownAfter render (result.map Outcome.withoutTables, v)).2.shown.filter (·.isLine) =
        (shownAfter render (result, w)).2.shown.filter (·.isLine) := by
  cases result with
  | error f => exact ⟨rfl, congrArg (List.filter (·.isLine)) hshown⟩
  | ok o =>
    have hrender' := hrender o rfl
    constructor
    · show ((o.shown.filter (·.isLine)).findSome? render).elim _ _ = _
      rw [Console.findSome?_filter_isLine hrender', shownAfter]
      cases o.shown.findSome? render with
      | none => rfl
      | some f => rfl
    · show (v.shown ++ (o.shown.filter (·.isLine)).takeWhile _).filter _ = _
      rw [Console.takeWhile_filter_isLine hrender', hshown, shownAfter]
      simp only [List.filter_append, List.filter_filter, Bool.and_self]

/-! ## Preparation -/

/-- **What a run prepares before it mines**: logging, its settings, and the patterns of files that it does
    not look at. -/
def preparation (q : MineRequest) (vars : Environment.Variables) (v : Verbosity) :
    Action (World σ) (Config × List Value) := do
  setUpLogging v
  let config ← settings vars q.settingsFile (failFastOverride q.failFast)
  let patterns ← .ofResult ((Exclusion.ofValue config.excludePatterns).mapError .fault)
  pure (config, patterns)

/-- The run after its preparation. -/
def mineWith (q : MineRequest) (made : Config × List Value) : Action (World σ) Outcome :=
  match q.output with
  | some output => mineToFile q made.1 made.2 output
  | none => mineInMemory q made.1 made.2

variable {q : MineRequest} {vars : Environment.Variables} {v : Verbosity} {w : World σ}

/-- **A run is its preparation, and what comes after it.** If it cannot be prepared, what it should have
    written to plays no part, and nothing has been done but to set up the log and to show the problem. -/
theorem mine_eq (q : MineRequest) (vars : Environment.Variables) (v : Verbosity)
    (render : Console.Renderer) (w : World σ) :
    mine q vars v render w = match (preparation q vars v w).1 with
      | .ok made => shownAfter render
        (ended (mineWith q made (setUpLogging v w).2).1, (mineWith q made (setUpLogging v w).2).2)
      | .error f => if (setUpLogging v w).1.isOk
        then shownAfter render (ended (.error f), (setUpLogging v w).2)
        else (.error f, (setUpLogging v w).2) := by
  unfold mine preparation
  rw [bind_apply, bind_apply]
  rcases setUpLogging v w with ⟨result, w₁⟩
  cases result with
  | error f => rfl
  | ok _ =>
    dsimp only
    rw [showing_eq, mined, stoppable_reporting]
    simp only [bind_apply, settings, ofResult, pure_apply]
    cases loadConfig w₁.disk w₁.here vars q.settingsFile (failFastOverride q.failFast) with
    | error f => rfl
    | ok config =>
      dsimp only
      cases (Exclusion.ofValue config.excludePatterns).mapError Failure.fault with
      | error f => rfl
      | ok patterns => rfl

/-- A run that is prepared leaves what comes after its preparation, and what is shown. -/
theorem mine_snd {made : Config × List Value} (hmade : (preparation q vars v w).1 = .ok made)
    (render : Console.Renderer) :
    ∃ shown, (mine q vars v render w).2 = { (mineWith q made (setUpLogging v w).2).2 with shown } := by
  rw [mine_eq, hmade]
  exact shownAfter_snd render _

/-- A run that cannot be prepared leaves what the log's setting up has left, and what is shown. -/
theorem mine_snd_of_error {f : Failure} (hfails : (preparation q vars v w).1 = .error f)
    (render : Console.Renderer) :
    ∃ shown, (mine q vars v render w).2 = { (setUpLogging v w).2 with shown } := by
  rw [mine_eq, hfails]
  dsimp only
  split
  · exact shownAfter_snd render _
  · exact ⟨(setUpLogging v w).2.shown, rfl⟩

/-- What comes of the preparation when the log has been set up. -/
theorem preparation_fst {q : MineRequest} {vars : Environment.Variables} {v : Verbosity} {w : World σ}
    (hset : (setUpLogging v w).1 = .ok ()) :
    (preparation q vars v w).1 = (loadConfig (setUpLogging v w).2.disk (setUpLogging v w).2.here vars
      q.settingsFile (failFastOverride q.failFast)).bind fun config =>
        ((Exclusion.ofValue config.excludePatterns).mapError .fault).map fun patterns =>
          (config, patterns) := by
  unfold preparation
  simp only [bind_apply, settings, ofResult, pure_apply]
  rcases hrun : setUpLogging v w with ⟨result, w₁⟩
  rw [hrun] at hset
  cases hset
  -- now the settings can fail, and then their patterns
  dsimp only
  cases loadConfig w₁.disk w₁.here vars q.settingsFile (failFastOverride q.failFast) with
  | error f => rfl
  | ok config =>
    dsimp only [Except.bind]
    cases (Exclusion.ofValue config.excludePatterns).mapError Failure.fault with
    | error f => rfl
    | ok patterns => rfl

/-- The world after the log has been set up. -/
theorem setUpLogging_of_setUp {v : Verbosity} {w : World σ} {logging : Logging} {disk : Disk}
    (h : w.logging.setUp w.disk w.here v.verbose v.quiet v.logFile = (.ok (), logging, disk)) :
    setUpLogging v w = (.ok (), { w with logging, disk }) := by
  unfold setUpLogging World.onScene Scene.setUpLogging
  dsimp only
  rw [h]
  rfl

/-- **Without any settings** the defaults are taken. -/
theorem loadConfig_standard {disk : Disk} {here : Path}
    (hproject : disk.isThere here (Setting.projectFile here) = .ok false) :
    loadConfig disk here (fun _ => none) none (failFastOverride false) = .ok Config.standard := by
  unfold loadConfig
  rw [Setting.ofProject, hproject]
  rfl

/-- **A settings file that is missing** ends loading. -/
theorem loadConfig_missing {disk : Disk} {here file : Path} {vars : Environment.Variables}
    {overrides : Setting.Settings} (hproject : disk.isThere here (Setting.projectFile here) = .ok false)
    (hmissing : disk.isThere here file = .ok false) : loadConfig disk here vars (some file) overrides =
      .error (.problem (.general .configuration ("Config file not found: " ++ file.text) [])) := by
  unfold loadConfig
  rw [Setting.ofProject, hproject, Setting.ofCaller, hmissing]
  rfl

/-! ## Two runs -/

/-- The miners of the two runs differ in who receives the records. -/
theorem exists_miners (config : Config) (patterns : List Value) :
    ∃ m : Miner σ, minerFor config patterns .memory = .ok m ∧
      minerFor config patterns .lineFile = .ok { m with sink := .lineFile } ∧
      m.provider = Python.provider patterns ∧ m.sink = .memory := by
  obtain ⟨e, he⟩ := Registry.isBuiltIn_standard.make_ok
  have hmake : ∀ sink : Sink σ, minerFor config patterns sink =
      .ok ⟨config, Python.provider patterns, sink, e, Miner.detectorsFor config⟩ := by
    intro sink
    rw [minerFor, Miner.make, he]
    rfl
  exact ⟨_, hmake _, hmake _, rfl, rfl⟩

variable {q : MineRequest} {config : Config} {patterns : List Value} {m : Miner σ} {w : World σ}
  {output : Path} {disk : Disk}

/-- **The run that keeps its records** shows those that were kept since it began. -/
theorem mineInMemory_eq (hm : minerFor config patterns .memory = .ok m) :
    mineInMemory q config patterns w =
      let done := m.mine q.path.text q.selection none w
      (done.1.map (mineOutcome (smellItems
        ((done.2.accepted.drop w.accepted.length).filterMap Emission.record?))), done.2) := by
  unfold mineInMemory
  rw [hm]
  simp only [bind_apply, ofResult, Except.mapError, Action.read, acceptedSince, pure_apply]
  rcases m.mine q.path.text q.selection none w with ⟨result, w'⟩
  cases result with
  | error f => rfl
  | ok report => rfl

/-- **The run that writes its records** begins with an empty file, which it closes in the end. -/
theorem mineToFile_eq (hm : minerFor config patterns .lineFile = .ok m)
    (hempty : LineFile.emptied w.disk w.here output = .ok disk) :
    mineToFile q config patterns output w =
      let done := m.mine q.path.text q.selection none { w with disk, lineFile := ⟨output, true, 0⟩ }
      (done.1.map (mineOutcome []), (closeLineFile done.2).2) := by
  let closed : World σ := { w with lineFile := LineFile.closed output }
  have hopen : World.onScene LineFile.open closed =
      (.ok (), { w with disk, lineFile := ⟨output, true, 0⟩ }) := by
    have hscene : LineFile.open closed.toScene = _ := LineFile.open_of_closed rfl hempty
    rw [World.onScene, hscene]
    rfl
  unfold mineToFile
  rw [hm]
  simp only [bind_apply, update]
  rw [hopen]
  simp only [always, bind_apply, ofResult, Except.mapError]
  rcases m.mine q.path.text q.selection none { w with disk, lineFile := ⟨output, true, 0⟩ } with
    ⟨result, w'⟩
  cases result with
  | error f => rfl
  | ok report => rfl

/-- Closing the file shows nothing. -/
theorem shown_closeLineFile (w : World σ) : (closeLineFile w).2.shown = w.shown := by
  show (LineFile.close w.toScene).shown = w.shown
  unfold LineFile.close
  split
  · obtain ⟨disk, journal, hlogged⟩ := LineFile.logged_eq
      { w.toScene with lineFile := { w.lineFile with isOpen := false } } (LineFile.record w.lineFile)
    rw [hlogged]
  · rfl

/-- **The two runs agree** after their preparation, if nobody comes by the file. -/
theorem runs_agree (config : Config) (patterns : List Value) {Fit : σ → Prop} (hclosed : w.session = none)
    (hempty : LineFile.emptied w.disk w.here output = .ok disk)
    (hapart : w.toScene.Apart w.git Fit (LineFile.Touched w.disk disk w.here output)
      (.resolved w.here (.ofText q.path.text)) output) :
    (mineToFile q config patterns output w).1 =
        (mineInMemory q config patterns w).1.map Outcome.withoutTables ∧
      (mineToFile q config patterns output w).2.shown = (mineInMemory q config patterns w).2.shown ∧
      ∃ rs : List TypeRecord,
        (mineInMemory q config patterns w).2.accepted = w.accepted ++ rs.map .record ∧
        (∀ o, (mineInMemory q config patterns w).1 = .ok o → ∃ r, o = mineOutcome (smellItems rs) r) ∧
        (mineToFile q config patterns output w).2.lineFile = ⟨output, false, rs.length⟩ ∧
        (mineToFile q config patterns output w).2.disk.entryAt
            (mineToFile q config patterns output w).2.here output =
          some (.file (Text.encode (LineFile.textOf (rs.map .record)))) := by
  obtain ⟨m, hm, hm', hprovider, hsink⟩ := exists_miners config patterns
  rw [mineInMemory_eq hm, mineToFile_eq hm' hempty]
  -- the file has just been opened, so that the two runs start beside each other
  let v : World σ := { w with disk, lineFile := ⟨output, true, 0⟩ }
  have hwriting : Writing Fit (LineFile.Touched w.disk disk w.here output) w.toScene output [] w.toScene
      disk :=
    { fit := hapart.fit, here := rfl, logging := rfl, records := ⟨[], rfl⟩
      same := LineFile.sameBut_touched hempty
      file := LineFile.offers_of_emptied hempty }
  have hstart : WritesBeside w.git Fit (LineFile.Touched w.disk disk w.here output) w.toScene
      (.resolved w.here (.ofText q.path.text)) output w.accepted w v := by
    refine ⟨rfl, ?_, v.toScene, [], ⟨disk, hwriting, rfl⟩, (List.append_nil _).symm, ?_⟩
    · intro h hsession
      rw [hclosed] at hsession
      cases hsession
    · rw [id, List.append_nil]
  obtain ⟨hend, hafter⟩ := hapart.agree_mine hprovider hsink rfl q.selection none w v hstart
  obtain ⟨-, -, t, new, hwrites, hnew, hsecond⟩ := hafter
  obtain ⟨hline, hfile⟩ := hapart.closed hwrites
  -- what holds of the scene in the end is said of the scene that the second run has left
  have hlast : (Miner.mine { m with sink := .lineFile } q.path.text q.selection none v).2.toScene = t := by
    rw [hsecond]
  obtain ⟨after, hdisk, ht⟩ := hwrites
  obtain ⟨rs, rfl⟩ := hdisk.records
  rw [List.length_map] at hline
  rw [← hlast] at hline hfile
  have hrecords : (m.mine q.path.text q.selection none w).2.accepted.drop w.accepted.length =
      rs.map .record := by
    rw [hnew, List.drop_left]
  have hkept : (rs.map Emission.record).filterMap Emission.record? = rs := by
    rw [List.filterMap_map]
    exact List.filterMap_some
  dsimp only
  refine ⟨?_, ?_, rs, hnew, ?_, hline, hfile⟩
  · rw [← hend.eq]
    cases (m.mine q.path.text q.selection none w).1 with
    | error f => rfl
    | ok report => exact congrArg Except.ok (withoutTables_mineOutcome _ report).symm
  · rw [shown_closeLineFile, hlast, ht]
  · intro o ho
    rw [hrecords, hkept] at ho
    cases hresult : (m.mine q.path.text q.selection none w).1 with
    | error f =>
      rw [hresult] at ho
      cases ho
    | ok report =>
      rw [hresult] at ho
      cases ho
      exact ⟨report, rfl⟩

/-- **Writing to a file does not change what is mined.** Two runs begin in the same world, in which no
    repository is open; one of them is to write its records, the other is not.

    - If the log cannot be set up, or the settings or their patterns cannot be loaded, then both runs are
      the same: nothing is mined, and the file is not opened.
    - Otherwise let it be possible to open the file, and let nobody else come by it. The run without a file
      has kept some records, and the other one has closed its file, which holds the documents of these
      records, each on a line of its own and in this order. If the console can show the table of their
      smells, then both runs end alike: they exit with the same code and show the same lines, or fail in
      the same way.
-/
theorem mine_to_file_agrees {q : MineRequest} {vars : Environment.Variables} {v : Verbosity}
    {render : Console.Renderer} {w : World σ} {output : Path} (hclosed : w.session = none) :
    let prepared := (setUpLogging v w).2
    let kept := mine { q with output := none } vars v render w
    let written := mine { q with output := some output } vars v render w
    (∀ f, (preparation q vars v w).1 = .error f →
      written = kept ∧ (∃ shown, kept.2 = { prepared with shown }) ∧ prepared.accepted = w.accepted) ∧
    ∀ made disk Fit, (preparation q vars v w).1 = .ok made →
      LineFile.emptied prepared.disk prepared.here output = .ok disk →
      prepared.Apart prepared.git Fit (LineFile.Touched prepared.disk disk prepared.here output)
        (.resolved prepared.here (.ofText q.path.text)) output →
      ∃ rs : List TypeRecord, kept.2.accepted = w.accepted ++ rs.map .record ∧
        written.2.lineFile = ⟨output, false, rs.length⟩ ∧
        (∃ text, written.2.disk.entryAt written.2.here output = some (.file (Text.encode text)) ∧
          Text.splitOn '\n' text = LineFile.documents (rs.map .record) ++ [[]]) ∧
        ((∀ table ∈ smellItems rs, render table = none) →
          written.1 = kept.1.map Outcome.withoutTables ∧
          written.2.shown.filter (·.isLine) = kept.2.shown.filter (·.isLine)) := by
  intro prepared kept written
  constructor
  · intro f hf
    -- a run that is not prepared does not ask for its output
    have hmine : ∀ output, mine { q with output } vars v render w =
        if (setUpLogging v w).1.isOk then shownAfter render (ended (.error f), prepared)
        else (.error f, prepared) := by
      intro output
      have hf' : (preparation { q with output } vars v w).1 = .error f := hf
      rw [mine_eq, hf']
    have hf' : (preparation { q with output := none } vars v w).1 = .error f := hf
    exact ⟨(hmine _).trans (hmine _).symm, mine_snd_of_error hf' render, rfl⟩
  · intro made disk Fit hmade hempty hapart
    have hmade' : ∀ output, (preparation { q with output } vars v w).1 = .ok made := fun _ => hmade
    have hsession : prepared.session = none := hclosed
    obtain ⟨hend, hshown, rs, haccepted, houtcome, hline, hfile⟩ :=
      runs_agree made.1 made.2 hsession hempty hapart
    let inMemory := mineInMemory q made.1 made.2 prepared
    let toFile := mineToFile q made.1 made.2 output prepared
    obtain ⟨shown, hkept⟩ : ∃ shown, kept.2 = { inMemory.2 with shown } := mine_snd (hmade' none) render
    obtain ⟨shown', hwritten⟩ : ∃ shown, written.2 = { toFile.2 with shown } :=
      mine_snd (hmade' (some output)) render
    refine ⟨rs, by rw [hkept]; exact haccepted, by rw [hwritten]; exact hline,
      ⟨LineFile.textOf (rs.map .record), by rw [hwritten]; exact hfile, LineFile.splitOn_textOf _⟩, ?_⟩
    intro hrender
    have hkept : kept = shownAfter render (ended inMemory.1, inMemory.2) := by
      rw [show kept = _ from mine_eq _ _ _ _ _, hmade' none]
      rfl
    have hwritten : written = shownAfter render (ended toFile.1, toFile.2) := by
      rw [show written = _ from mine_eq _ _ _ _ _, hmade' (some output)]
      rfl
    have hended : ended toFile.1 = (ended inMemory.1).map Outcome.withoutTables := by
      rw [← ended_withoutTables, ← hend]
    rw [hkept, hwritten, hended]
    -- the only table that can be shown is that of the smells
    refine shownAfter_withoutTables (fun o ho item hitem htable => ?_) hshown
    obtain ⟨r, rfl⟩ := houtcome o (of_ended ho hitem htable)
    apply hrender
    by_contra hno
    rw [isLine_of_mineOutcome hitem hno] at htable
    cases htable

/-! ## A repository and a file beside it -/

/-- **A script for one commit.** It is a merge, and in its tree there is one file with one class. -/
def oneCommitScript : Script.State where
  rules := [
    ⟨["rev-parse", "--absolute-git-dir"], false, Text.encode "/repo/.git\n".toList, [], 0, [],
      .finished⟩,
    ⟨["log", "**"], false, Text.encode ("c1\x00p1 p2\x00A\x00a\x002020-01-01T00:00:00+00:00\x00" ++
      "A\x00a\x002020-01-01T00:00:00+00:00\x00merged\x1e\n").toList, [], 0, [], .finished⟩,
    ⟨["checkout", "**"], false, [], [], 0,
      [(["repo", "a.py"], some (.file (Text.encode "class A:\n    x = 1\n".toList)))], .finished⟩,
    ⟨["ls-tree", "**"], false, Text.encode "a.py\x00".toList, [], 0, [], .finished⟩]
  answers := [("c1^\x7bcommit\x7d", "c1 commit 1")]
  startMishap := none
  diesAfter := none
  breaksAfter := none
  endsInTime := true
  asked := 0

/-- A repository, and perhaps a file beside it. -/
def besideRepository (older : Option (List UInt8)) : World Script.State :=
  .start
    { outside := oneCommitScript
      disk := ⟨[(["repo"], .folder), (["repo", ".git"], .folder)] ++
        (older.map fun octets => (["out.jsonl"], Entry.file octets)).toList, []⟩
      here := ⟨"/", []⟩
      time := ""
      logging := ⟨.warning, []⟩
      journal := []
      lineFile := LineFile.closed ⟨"", []⟩ }
    Script.git

/-- The file beside the repository. -/
def outFile : Path := ⟨"/", ["out.jsonl"]⟩

/-- One commit is to be mined. -/
def oneCommit (folder : String) (settingsFile : Option Path) : MineRequest where
  path := ⟨"/", [folder]⟩
  reference := none
  ids := ["c1"]
  output := none
  failFast := false
  settingsFile := settingsFile

/-- Nothing is logged. -/
def silent : Verbosity := ⟨false, false, none⟩

/-- Everything is logged, and that into the file. -/
def loggingToOutFile : Verbosity := ⟨true, false, some "/out.jsonl"⟩

/-- The disk after the file has been opened. -/
def openedDisk : Disk := (besideRepository none).disk.put ["out.jsonl"] (.file [])

/-- A short name at the top leads to its place. -/
theorem locate_top {d : Disk} {name : String} (hplain : '\x00' ∉ name.toList) (hdots : name ≠ "..")
    (hshort : name.utf8ByteSize ≤ 255) : d.locate ⟨"/", []⟩ ⟨"/", [name]⟩ = .ok [name] :=
  Disk.locate_topName rfl (by decide) hplain hdots hshort

theorem isThere_top {d : Disk} {name : String} (hplain : '\x00' ∉ name.toList) (hdots : name ≠ "..")
    (hshort : name.utf8ByteSize ≤ 255) :
    d.isThere ⟨"/", []⟩ ⟨"/", [name]⟩ = .ok (d.find? [name]).isSome := by
  rw [Disk.isThere, Disk.lookAt_of_locate (locate_top hplain hdots hshort)]
  rfl

theorem entryAt_top {d : Disk} {name : String} (hplain : '\x00' ∉ name.toList) (hdots : name ≠ "..")
    (hshort : name.utf8ByteSize ≤ 255) : d.entryAt ⟨"/", []⟩ ⟨"/", [name]⟩ = d.find? [name] := by
  rw [Disk.entryAt, locate_top hplain hdots hshort]

/-- The file can be written on a disk without a folder in its place. -/
theorem target_outFile {d : Disk} (hfolder : d.isFolderAt ["out.jsonl"] = false) :
    d.target ⟨"/", []⟩ outFile = .ok ["out.jsonl"] := by
  have hlocate : d.locate ⟨"/", []⟩ outFile = .ok ["out.jsonl"] :=
    locate_top (by decide) (by decide) (by decide)
  have htop : d.find? (["out.jsonl"] : List String).dropLast = some .folder := rfl
  rw [Disk.target, hlocate]
  dsimp only
  rw [hfolder, htop]
  rfl

/-- Around the file there is only the top. -/
theorem makeFolders_outFile (d : Disk) : d.makeFolders ⟨"/", []⟩ outFile.parent = .ok d := by
  have hshort : outFile.parent.isLong = false := Path.isLong_eq_false (by decide)
  rw [Disk.makeFolders, Disk.refusal?_of_plain (by decide) hshort]
  rfl

theorem emptied_outFile (older : Option (List UInt8)) :
    LineFile.emptied (besideRepository older).disk ⟨"/", []⟩ outFile =
      .ok ((besideRepository older).disk.put ["out.jsonl"] (.file [])) := by
  refine LineFile.emptied_of_target (makeFolders_outFile _) (target_outFile ?_)
  cases older <;> rfl

/-- The places that opening the file changes. -/
def OutFilePlace : List String → Prop :=
  LineFile.Touched (besideRepository none).disk openedDisk ⟨"/", []⟩ outFile

/-- Opening the file changes nothing else. -/
theorem eq_of_outFilePlace {names : List String} (h : OutFilePlace names) : names = ["out.jsonl"] := by
  rcases h with hplace | hchanged
  · exact hplace
  · by_contra hne
    exact hchanged (Disk.find?_put_of_ne hne _)

/-- The repository and all that is in it is elsewhere. -/
theorem not_outFilePlace {rest names : List String} (hnames : names <+: "repo" :: rest) :
    ¬ OutFilePlace names := by
  intro hplace
  rw [eq_of_outFilePlace hplace, List.cons_prefix_cons] at hnames
  exact absurd hnames.1 (by decide)

theorem avoids_outFilePlace {names : List String} (hdots : ".." ∉ names) :
    Path.Avoids ⟨"/", "repo" :: names⟩ OutFilePlace ⟨"/", []⟩ := by
  refine Disk.avoids_of_absolute rfl ?_ fun first hfirst => not_outFilePlace hfirst
  rw [List.mem_cons, not_or]
  exact ⟨by decide, hdots⟩

/-- No rule of the script comes by the file. -/
theorem staysAway_oneCommitScript :
    ∀ rule ∈ oneCommitScript.rules, rule.StaysAway OutFilePlace ⟨"/", []⟩ outFile := by
  simp only [oneCommitScript, List.forall_mem_cons]
  refine ⟨⟨nofun, fun _ _ => ?_, nofun⟩, ⟨nofun, nofun, nofun⟩, ⟨?_, nofun, nofun⟩,
    ⟨nofun, nofun, fun id _ _ => ?_⟩, nofun⟩
  · have hlock : Session.lockIn (Git.text (Text.encode "/repo/.git\n".toList)) =
        ⟨"/", ["repo", ".git", "index.lock"]⟩ := by
      rw [Git.text_encode]
      decide +kernel
    rw [hlock]
    exact avoids_outFilePlace (by decide)
  · intro w hw
    rw [List.mem_singleton.1 hw]
    refine ⟨fun first hfirst => not_outFilePlace hfirst, ?_⟩
    refine Disk.avoids_of_absolute rfl (by decide) fun first hfirst hsame => ?_
    have hboth : ["repo", "a.py"] <+: ["out.jsonl"] := by
      rw [hsame] at hfirst
      exact hfirst
    exact absurd (List.cons_prefix_cons.1 hboth).1 (by decide)
  · have hpaths : Session.pathsOf (Git.text (Text.encode "a.py\x00".toList)) = ["a.py"] := by
      rw [Git.text_encode]
      decide +kernel
    intro p hp
    rw [hpaths] at hp
    rw [List.mem_singleton.1 hp]
    rfl

/-- Nobody comes by the file. -/
theorem apart_outFile :
    (setUpLogging silent (besideRepository none)).2.Apart Script.git
      (fun s => ∀ rule ∈ s.rules, rule.StaysAway OutFilePlace ⟨"/", []⟩ outFile) OutFilePlace
      (.resolved ⟨"/", []⟩ (.ofText (oneCommit "repo" none).path.text)) outFile where
  toPassesBy := Script.passesBy (.inl rfl)
  fit := staysAway_oneCommitScript
  output := .inl rfl
  logs := by
    intro handler hmem file htarget
    rw [List.mem_singleton.1 hmem] at htarget
    cases htarget
  inside := by
    have hroot : Path.resolved ⟨"/", []⟩ (.ofText (oneCommit "repo" none).path.text) =
        ⟨"/", ["repo"]⟩ := by
      decide +kernel
    rw [hroot]
    exact fun names hdots => avoids_outFilePlace hdots

/-- There are no settings of the project. -/
theorem isThere_projectFile {d : Disk} (h : d.find? ["repo-miner.toml"] = none) :
    d.isThere ⟨"/", []⟩ (Setting.projectFile ⟨"/", []⟩) = .ok false := by
  have htop : d.isThere ⟨"/", []⟩ (Setting.projectFile ⟨"/", []⟩) =
      .ok (d.find? ["repo-miner.toml"]).isSome := isThere_top (by decide) (by decide) (by decide)
  rw [htop, h]
  rfl

theorem preparation_oneCommit {folder : String} {v : Verbosity} {w : World σ}
    (hset : (setUpLogging v w).1 = .ok ()) (hhere : (setUpLogging v w).2.here = ⟨"/", []⟩)
    (hfind : (setUpLogging v w).2.disk.find? ["repo-miner.toml"] = none) :
    (preparation (oneCommit folder none) (fun _ => none) v w).1 =
      .ok (Config.standard, Config.standardPatterns.map .text) := by
  have hload : loadConfig (setUpLogging v w).2.disk ⟨"/", []⟩ (fun _ => none) none
      (failFastOverride false) = .ok Config.standard := loadConfig_standard (isThere_projectFile hfind)
  rw [preparation_fst hset, hhere]
  show (loadConfig _ _ _ none (failFastOverride false)).bind _ = _
  rw [hload]
  rfl

theorem mine_to_file_agrees_beside :
    let kept := mine (oneCommit "repo" none) (fun _ => none) silent .all (besideRepository none)
    let written := mine { oneCommit "repo" none with output := some outFile } (fun _ => none) silent .all
      (besideRepository none)
    (∃ rs : List TypeRecord, kept.2.accepted = rs.map .record ∧
      ∃ text, written.2.disk.entryAt written.2.here outFile = some (.file (Text.encode text)) ∧
        Text.splitOn '\n' text = LineFile.documents (rs.map .record) ++ [[]]) ∧
    written.1 = kept.1.map Outcome.withoutTables := by
  intro kept written
  have hmade : (preparation (oneCommit "repo" none) (fun _ => none) silent (besideRepository none)).1 =
      _ := preparation_oneCommit rfl rfl (by decide +kernel)
  obtain ⟨rs, haccepted, -, htext, hends⟩ :=
    (@mine_to_file_agrees _ (oneCommit "repo" none) (fun _ => none) silent .all (besideRepository none)
      outFile rfl).2 _ openedDisk _ hmade (emptied_outFile none) apart_outFile
  exact ⟨⟨rs, haccepted, htext⟩, (hends fun _ _ => rfl).1⟩

/-! ### What else may stand in the file -/

/-- The settings that are to be loaded are missing. -/
def withoutSettings : MineRequest := oneCommit "repo" (some ⟨"/", ["own.toml"]⟩)

/-- The folder that is to be mined is missing. -/
def withoutFolder : MineRequest := oneCommit "lost" none

/-- **An older file stays** if the settings are missing. -/
theorem mine_withoutSettings (output : Option Path) :
    ∃ shown, (mine { withoutSettings with output } (fun _ => none) silent .all
        (besideRepository (some [0x78]))).2 =
      { (setUpLogging silent (besideRepository (some [0x78]))).2 with shown } := by
  let w : World Script.State := besideRepository (some [0x78])
  have hproject : w.disk.isThere ⟨"/", []⟩ (Setting.projectFile ⟨"/", []⟩) = .ok false :=
    isThere_projectFile (by decide +kernel)
  have hmissing : w.disk.isThere ⟨"/", []⟩ ⟨"/", ["own.toml"]⟩ = .ok false := by
    have hfind : w.disk.find? ["own.toml"] = none := by decide +kernel
    rw [isThere_top (by decide) (by decide) (by decide), hfind]
    rfl
  have hload : loadConfig w.disk ⟨"/", []⟩ (fun _ => none) (some ⟨"/", ["own.toml"]⟩)
      (failFastOverride false) = _ := loadConfig_missing hproject hmissing
  have hfails : (preparation { withoutSettings with output } (fun _ => none) silent w).1 =
      (loadConfig w.disk ⟨"/", []⟩ (fun _ => none) (some ⟨"/", ["own.toml"]⟩)
        (failFastOverride false)).bind _ := preparation_fst rfl
  rw [hload] at hfails
  exact mine_snd_of_error hfails .all

/-- **A log that goes into the same file** adds to it when the file is closed. -/
theorem close_beside_log {s : Scene σ} {level : Level} {octets : List UInt8}
    (hopen : s.lineFile.isOpen = true) (hreceivers : s.logging.receivers (LineFile.record s.lineFile) =
      [⟨.console, level⟩, ⟨.file s.lineFile.path, level⟩])
    (hoffers : s.disk.Offers s.here s.lineFile.path octets) :
    (LineFile.close s).disk.entryAt (LineFile.close s).here s.lineFile.path = some (.file (octets ++
      Text.encode (Logging.fileLine s.time (LineFile.record s.lineFile)).toList)) := by
  have hlets : s.logging.letsThrough (LineFile.record s.lineFile) = true := by
    by_contra hnot
    rw [Logging.receivers, if_neg hnot] at hreceivers
    cases hreceivers
  obtain ⟨d', happend, hoffers', -, -⟩ := hoffers.append
    (Text.encode (Logging.fileLine s.time (LineFile.record s.lineFile)).toList)
  rw [LineFile.close, if_pos hopen, Scene.logged, if_pos hlets, hreceivers]
  show (Logging.written s.time (LineFile.record s.lineFile) s.here s.disk
    ⟨.file s.lineFile.path, level⟩).entryAt s.here s.lineFile.path = _
  rw [Logging.written]
  dsimp only
  rw [happend]
  exact hoffers'.entry

/-- A line of the log is never empty, as a line feed closes it. -/
theorem encode_fileLine_ne_nil (time : String) (r : LogRecord) :
    Text.encode (Logging.fileLine time r).toList ≠ [] := by
  rw [Text.encode, Logging.fileLine, String.toList_append, List.flatMap_append]
  exact List.append_ne_nil_of_right_ne_nil _ (by decide)

/-- The world when everything is logged, and that into the file. -/
def besideLog : World Script.State :=
  { besideRepository none with
    disk := openedDisk
    logging := ⟨.debug, [⟨.console, .debug⟩, ⟨.file outFile, .debug⟩]⟩ }

/-- The log makes the file. -/
theorem setUpLogging_toOutFile :
    setUpLogging loggingToOutFile (besideRepository none) = (.ok (), besideLog) := by
  have hfile : Logging.fileOf (some "/out.jsonl") = some outFile := by decide +kernel
  have hresolved : Path.resolved ⟨"/", []⟩ outFile = outFile := by decide +kernel
  have htarget : (besideRepository none).disk.target ⟨"/", []⟩ outFile = .ok ["out.jsonl"] :=
    target_outFile rfl
  have hprepare : Logging.prepareFile (besideRepository none).disk ⟨"/", []⟩ outFile = .ok openedDisk := by
    have hfolders : (besideRepository none).disk.makeFolders ⟨"/", []⟩ outFile.parent =
        .ok (besideRepository none).disk := makeFolders_outFile _
    rw [Logging.prepareFile, hfolders]
    dsimp only
    rw [hresolved, Disk.append, htarget]
    rfl
  have hsetUp : (besideRepository none).logging.setUp (besideRepository none).disk ⟨"/", []⟩ true false
      (some "/out.jsonl") = (.ok (), besideLog.logging, openedDisk) := by
    rw [Logging.setUp, hfile]
    dsimp only
    rw [hprepare, hresolved]
    rfl
  exact setUpLogging_of_setUp hsetUp

/-- The file of the log can be opened as a file of lines. -/
theorem emptied_besideLog : LineFile.emptied besideLog.disk ⟨"/", []⟩ outFile = .ok openedDisk :=
  LineFile.emptied_of_target (makeFolders_outFile _) (target_outFile rfl)

/-- There is nothing to mine. -/
theorem mine_missing (m : Miner Script.State) {w : World Script.State} (hclosed : w.session = none)
    (hhere : w.here = ⟨"/", []⟩) (hdisk : w.disk = openedDisk) :
    (m.mine withoutFolder.path.text withoutFolder.selection none w).2 = w := by
  have hpath : Path.ofText withoutFolder.path.text = ⟨"/", ["lost"]⟩ := by decide +kernel
  have hroot : Path.resolved ⟨"/", []⟩ ⟨"/", ["lost"]⟩ = ⟨"/", ["lost"]⟩ := by decide +kernel
  have hnull : Disk.holdsNull ⟨"/", ["lost"]⟩ = false := Disk.holdsNull_of_plain (by decide)
  have hmissing : openedDisk.isThere ⟨"/", []⟩ (Path.child ⟨"/", ["lost"]⟩ ".git") = .ok false := by
    have hshort : (Path.child ⟨"/", ["lost"]⟩ ".git").isLong = false := Path.isLong_eq_false (by decide)
    have hwalk : openedDisk.walk [] ["lost", ".git"] = .error .noEntry := by
      have htop : openedDisk.find? [] = some .folder := rfl
      have hname : Path.isLongName "lost" = false := by
        rw [Path.isLongName_eq]
        decide
      have hlost : openedDisk.find? (Path.follow [] "lost") = none := by decide +kernel
      rw [Disk.walk, htop]
      dsimp only
      rw [hname, if_neg Bool.false_ne_true, Disk.walk, hlost]
    have hlocate : openedDisk.locate ⟨"/", []⟩ (Path.child ⟨"/", ["lost"]⟩ ".git") = .error .noEntry :=
      (Disk.locate_of_plain (by decide) hshort).trans hwalk
    rw [Disk.isThere, Disk.lookAt, hlocate]
    rfl
  rw [m.mine_of_missing hclosed]
  · rw [hpath]
    exact hnull
  · rw [hhere, hdisk, hpath, hroot]
    exact hmissing

theorem preparation_withoutFolder (output : Option Path) :
    (preparation { withoutFolder with output } (fun _ => none) loggingToOutFile
      (besideRepository none)).1 = .ok (Config.standard, Config.standardPatterns.map .text) := by
  have hset : (setUpLogging loggingToOutFile (besideRepository none)).1 = .ok () := by
    rw [setUpLogging_toOutFile]
  have hworld : (setUpLogging loggingToOutFile (besideRepository none)).2 = besideLog := by
    rw [setUpLogging_toOutFile]
  have hhere : besideLog.here = ⟨"/", []⟩ := rfl
  have hfind : besideLog.disk.find? ["repo-miner.toml"] = none := by decide +kernel
  rw [← hworld] at hhere hfind
  have hmade : (preparation withoutFolder (fun _ => none) loggingToOutFile (besideRepository none)).1 =
      _ := preparation_oneCommit hset hhere hfind
  exact hmade

/-- The run without a file keeps nothing. -/
theorem mine_kept_withoutFolder :
    ∃ shown, (mine withoutFolder (fun _ => none) loggingToOutFile .all (besideRepository none)).2 =
      { besideLog with shown } := by
  have hmade : (preparation withoutFolder (fun _ => none) loggingToOutFile (besideRepository none)).1 = _ :=
    preparation_withoutFolder none
  obtain ⟨m, hm, -, -, -⟩ := exists_miners (σ := Script.State) Config.standard
    (Config.standardPatterns.map .text)
  obtain ⟨shown, h⟩ := mine_snd hmade .all
  have hmine : (mineInMemory withoutFolder Config.standard (Config.standardPatterns.map .text)
      besideLog).2 = besideLog := by
    rw [mineInMemory_eq hm]
    exact mine_missing m rfl rfl rfl
  rw [setUpLogging_toOutFile] at h
  refine ⟨shown, h.trans ?_⟩
  show { (mineInMemory withoutFolder _ _ besideLog).2 with shown } = _
  rw [hmine]

/-- The run with a file opens it, and closes it again. -/
theorem mine_written_withoutFolder :
    ∃ shown, (mine { withoutFolder with output := some outFile } (fun _ => none) loggingToOutFile .all
        (besideRepository none)).2 =
      { (closeLineFile { besideLog with lineFile := ⟨outFile, true, 0⟩ }).2 with shown } := by
  have hmade := preparation_withoutFolder (some outFile)
  obtain ⟨m, -, hm, -, -⟩ := exists_miners (σ := Script.State) Config.standard
    (Config.standardPatterns.map .text)
  obtain ⟨shown, h⟩ := mine_snd hmade .all
  have hmine : (mineToFile { withoutFolder with output := some outFile } Config.standard
      (Config.standardPatterns.map .text) outFile besideLog).2 =
        (closeLineFile { besideLog with lineFile := ⟨outFile, true, 0⟩ }).2 := by
    rw [mineToFile_eq hm emptied_besideLog]
    exact congrArg (fun w => (closeLineFile w).2) (mine_missing _ rfl rfl rfl)
  rw [setUpLogging_toOutFile] at h
  refine ⟨shown, h.trans ?_⟩
  show { (mineToFile { withoutFolder with output := some outFile } _ _ outFile besideLog).2 with shown } = _
  rw [hmine]

/-- **The file may hold what nobody has kept.** In both of these worlds it can be opened, and the run
    without a file keeps nothing. If the settings are missing, an older file stays what it was; and if the
    log is written to the same file, its lines stand there. -/
theorem mine_to_file_differs :
    (let w := besideRepository (some [0x78])
      let written := mine { withoutSettings with output := some outFile } (fun _ => none) silent .all w
      (mine withoutSettings (fun _ => none) silent .all w).2.accepted = [] ∧
      (LineFile.emptied w.disk w.here outFile).isOk = true ∧
      written.2.disk.entryAt written.2.here outFile ≠ some (.file (Text.encode (LineFile.textOf [])))) ∧
    (let w := besideRepository none
      let written := mine { withoutFolder with output := some outFile } (fun _ => none) loggingToOutFile .all w
      (mine withoutFolder (fun _ => none) loggingToOutFile .all w).2.accepted = [] ∧
      (LineFile.emptied w.disk w.here outFile).isOk = true ∧
      written.2.disk.entryAt written.2.here outFile ≠ some (.file (Text.encode (LineFile.textOf [])))) := by
  have hempty : Text.encode (LineFile.textOf []) = [] := rfl
  rw [hempty]
  constructor
  · intro w written
    obtain ⟨shown, hkept⟩ : ∃ shown, (mine withoutSettings (fun _ => none) silent .all w).2 =
        { (setUpLogging silent w).2 with shown } := mine_withoutSettings none
    obtain ⟨shown', hwritten⟩ : ∃ shown, written.2 = { (setUpLogging silent w).2 with shown } :=
      mine_withoutSettings (some outFile)
    have holder : w.disk.entryAt ⟨"/", []⟩ outFile = some (.file [0x78]) :=
      (entryAt_top (by decide) (by decide) (by decide)).trans (by decide +kernel)
    rw [hkept, hwritten]
    refine ⟨rfl, congrArg Except.isOk (emptied_outFile _), ?_⟩
    show w.disk.entryAt ⟨"/", []⟩ outFile ≠ _
    rw [holder]
    decide
  · intro w written
    obtain ⟨shown, hkept⟩ := mine_kept_withoutFolder
    obtain ⟨shown', hwritten⟩ : ∃ shown, written.2 = _ := mine_written_withoutFolder
    have hreceivers : besideLog.logging.receivers (LineFile.record ⟨outFile, true, 0⟩) =
        besideLog.logging.handlers := by decide +kernel
    have hentry := close_beside_log (s := { besideLog.toScene with lineFile := ⟨outFile, true, 0⟩ }) rfl
      hreceivers (LineFile.offers_of_emptied emptied_besideLog)
    rw [hkept, hwritten]
    refine ⟨rfl, congrArg Except.isOk (emptied_outFile _), ?_⟩
    intro hnone
    exact encode_fileLine_ne_nil _ _ (Entry.file.inj (Option.some.inj (hentry.symm.trans hnone)))

end Command

end HistoryMetrics
