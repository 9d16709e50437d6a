import HistoryMetrics.Proofs.Mining.History
import HistoryMetrics.Proofs.Mining.Types
import HistoryMetrics.Proofs.Repository.Log
import HistoryMetrics.Proofs.Session.CommandLines
import HistoryMetrics.Proofs.Session.Setbacks
import HistoryMetrics.Proofs.Smell.Measured

/-! # Mining with the built-in metrics and detectors

    With the built-in metrics and detectors a source file always has its records, and their smells are
    those that the rules find. So a run is known in advance when git is: here git prints a history of
    merges, of which it has lost some commits. All others are analysed, one record for each type, and
    the lost ones become failures of the report. Each of them closes the repository, which is opened
    again for the commit after it.

    - `map_smells_recordsOf`, `recordsOfAll_returns`: the records of source files
    - `Git.telling`: a git that prints a history and has lost some names
    - `World.Working`: the only repository is open, and such a git answers
    - `mineAll_telling`, `mine_telling`: the run over the commits, and as a whole
-/

namespace HistoryMetrics

open HistoryMetrics.Action World

/-! ## Smells by the rules -/

/-- **The verdicts on a type are found by its place.** -/
theorem verdictsAt_findingsOn (settings : List (Thresholds × Option Engine))
    {types : List TypeOutline} {type : TypeOutline} {i : Nat}
    (h : types[i]? = some type) (place : Nat) :
    verdictsAt (findingsOn settings types place) (place + i) = verdictsOn settings type := by
  induction types generalizing i place with
  | nil => cases h
  | cons first types ih =>
    rw [findingsOn_cons]
    cases i with
    | zero =>
      obtain rfl : first = type := Option.some.inj h
      -- the findings after the first one are for later places
      have hlater : (findingsOn settings types (place + 1)).find? (fun f => f.index == place) = none := by
        refine List.find?_eq_none.2 fun f hf => ?_
        have hle := le_index_of_mem_findingsOn settings hf
        simp only [beq_iff_eq]
        omega
      by_cases hnone : verdictsOn settings first = []
      · simp [verdictsAt, findingOn, hnone, hlater]
      · simp [verdictsAt, findingOn, hnone]
    | succ i =>
      have hrest := ih h (place + 1)
      have hplace : place + 1 + i = place + (i + 1) := by omega
      rw [hplace] at hrest
      have hskip : ∀ f ∈ (findingOn settings first place).toList, (f.index == place + (i + 1)) = false := by
        intro f hf
        unfold findingOn at hf
        split at hf
        · cases hf
        · obtain rfl := List.mem_singleton.1 hf
          simp
      rw [← hrest, verdictsAt, verdictsAt, List.find?_append,
        List.find?_eq_none.2 fun f hf => by rw [hskip f hf]; exact Bool.false_ne_true, Option.none_or]

/-- **The records of a source file have the smells that the rules find**, type by type. -/
theorem map_smells_recordsOf (settings : List (Thresholds × Option Engine)) (commit : String)
    (moment : Moment) {o judged : SourceOutline} (h : judged.bare = o.bare) :
    (recordsOf commit moment judged (findingsOn settings o.types 0)).map TypeRecord.smells =
      o.types.map (verdictsOn settings) := by
  have hlength : judged.types.length = o.types.length := by
    simpa [SourceOutline.bare] using congrArg (fun o : SourceOutline => o.types.length) h
  refine List.ext_getElem (by simpa [recordsOf] using hlength) fun i _ hi => ?_
  have hlt : i < o.types.length := by simpa using hi
  have htype : o.types[i]? = some o.types[i] := List.getElem?_eq_getElem hlt
  have hverdicts := verdictsAt_findingsOn settings htype 0
  rw [Nat.zero_add] at hverdicts
  simpa [recordsOf, recordOf] using hverdicts

/-- The world after some records have been logged. -/
def World.loggedAll {σ : Type} (w : World σ) (rs : List LogRecord) : World σ :=
  { w with toScene := w.toScene.loggedAll rs }

theorem World.loggedAll_append {σ : Type} (w : World σ) (rs ss : List LogRecord) :
    w.loggedAll (rs ++ ss) = (w.loggedAll rs).loggedAll ss := by
  simp only [World.loggedAll, Scene.loggedAll, List.foldl_append]

namespace Miner

section Records

variable {σ : Type} {m : Miner σ} (he : Engine.make .standard = .ok m.engine)

include he

/-- **With built-in detectors a source file has its records**, whatever the world is like. Beside that,
    something is logged. -/
theorem recordsOfOutline_returns {settings : List (Thresholds × Option Engine)}
    (hds : m.detectors = detectorsOf settings) (haccepted : ∀ s ∈ settings, s.1.IsAccepted)
    (c : Commit) (o : SourceOutline) : ∃ records,
      records.map TypeRecord.smells = o.types.map (verdictsOn settings) ∧
      ∀ w : World σ, ∃ written, m.recordsOfOutline c o w =
        (.ok records, w.loggedAll written) := by
  obtain ⟨ids, measured, written, hholds, hcompute⟩ := Engine.compute_measures he o
  have hbare : measured.bare = o.bare := by
    have hregistered : ∀ t ∈ Option.getD none Registry.standard.ids, t ∈ Registry.standard.ids :=
      fun _ ht => ht
    obtain ⟨_, _, hall⟩ := Engine.compute_holds Registry.isBuiltIn_standard he hregistered
    obtain ⟨b, hb, -, hspares⟩ := hall ⟨o, [], []⟩
    cases (hcompute []).symm.trans hb
    exact SourceOutline.bare_eq_of_without_eq hspares
  refine ⟨_, map_smells_recordsOf settings c.id c.committer.moment hbare, fun w => ?_⟩
  have hmeasure : World.onScene (Scene.calculate o (m.engine.compute none)) w =
      (.ok (ids, measured), w.loggedAll written) :=
    onScene_calculate_ok (hcompute w.notes)
  unfold recordsOfOutline
  rw [bind_apply, during_ok hmeasure]
  generalize hw₁ : w.loggedAll written = w₁
  obtain ⟨findings, written', hdetect⟩ := detectSmells_rests he haccepted hholds w₁.notes
  obtain ⟨b, hfound, -⟩ := detectSmells_eq he haccepted ⟨measured, w₁.notes, []⟩
  have hfindings : findings = findingsOn settings o.types 0 := by
    rw [← findingsOn_congr settings hbare]
    exact Except.ok.inj (congrArg Prod.fst (hdetect.symm.trans hfound))
  have hsmells : ∃ more, m.smellsOf o.path measured w₁ =
      (.ok (findingsOn settings o.types 0, measured), w₁.loggedAll more) := by
    unfold smellsOf
    rw [hds, ← hfindings]
    split
    · next hnone =>
      have hempty : findings = [] := by
        rw [hfindings, List.map_eq_nil_iff.1 (List.isEmpty_iff.1 hnone)]
        exact findingsOn_nil _ _
      exact ⟨[], by rw [hempty]; rfl⟩
    · exact ⟨written', during_ok (onScene_calculate_ok hdetect)⟩
  obtain ⟨more, hmore⟩ := hsmells
  refine ⟨written ++ more, ?_⟩
  simp only [bind_apply, hmore, World.loggedAll_append, hw₁]
  rfl

/-- **With built-in detectors source files have their records**, whatever the world is like. -/
theorem recordsOfAll_returns {settings : List (Thresholds × Option Engine)}
    (hds : m.detectors = detectorsOf settings) (haccepted : ∀ s ∈ settings, s.1.IsAccepted)
    (c : Commit) (os : List SourceOutline) : ∃ records,
      records.map TypeRecord.smells =
        (os.flatMap SourceOutline.types).map (verdictsOn settings) ∧
      ∀ w : World σ, ∃ written, m.recordsOfAll c os w =
        (.ok records, w.loggedAll written) := by
  induction os with
  | nil => exact ⟨[], rfl, fun w => ⟨[], rfl⟩⟩
  | cons o os ih =>
    obtain ⟨records, hsmells, hfirst⟩ := recordsOfOutline_returns he hds haccepted c o
    obtain ⟨rest, hsmells', hrest⟩ := ih
    refine ⟨records ++ rest, ?_, fun w => ?_⟩
    · rw [List.map_append, hsmells, hsmells', List.flatMap_cons, List.map_append]
    · obtain ⟨written, hw⟩ := hfirst w
      obtain ⟨more, hw'⟩ := hrest (w.loggedAll written)
      refine ⟨written ++ more, ?_⟩
      unfold recordsOfAll
      rw [bind_apply, hw]
      simp only [bind_apply, hw', World.loggedAll_append]
      rfl

end Records

end Miner

/-! ## Detectors and providers -/

/-- **The limits that settings give to the built-in detectors**, if there are to be any. -/
def Config.detecting (c : Config) : List (Thresholds × Option Engine) :=
  if c.includeSmells.isTruthy then
    [c.brainMethod, c.complexMethod, c.longMethod].map fun t => (t, none)
  else []

/-- All limits of the settings are accepted. -/
def Config.HasAccepted (c : Config) : Prop :=
  ∀ t ∈ [c.brainMethod, c.complexMethod, c.longMethod], t.IsAccepted

theorem Config.hasAccepted_standard : Config.standard.HasAccepted := by
  simp only [HasAccepted, List.forall_mem_cons]
  exact ⟨Thresholds.isAccepted_standard _, Thresholds.isAccepted_standard _,
    Thresholds.isAccepted_standard _, nofun⟩

theorem Miner.detectorsFor_eq (c : Config) : detectorsFor c = detectorsOf c.detecting := by
  unfold detectorsFor Config.detecting
  split <;> rfl

namespace Miner

variable {σ : Type}

theorem make_standard {e : Engine} (he : Engine.make .standard = .ok e) (config : Config)
    (provider : Provider σ) (sink : Sink σ) : make config provider sink .standard none =
      .ok ⟨config, provider, sink, e, detectorsFor config⟩ := by
  rw [make, he]
  rfl

/-- **A miner with the built-in metrics and detectors can be made.** -/
theorem exists_make_standard (config : Config) (provider : Provider σ) (sink : Sink σ) :
    ∃ m, make config provider sink .standard none = .ok m := by
  obtain ⟨e, he⟩ := Registry.isBuiltIn_standard.make_ok
  exact ⟨_, make_standard he config provider sink⟩

end Miner

theorem Config.HasAccepted.detecting {c : Config} (h : c.HasAccepted) :
    ∀ s ∈ c.detecting, s.1.IsAccepted := by
  intro s hs
  unfold Config.detecting at hs
  split at hs
  · obtain ⟨t, ht, rfl⟩ := List.mem_map.1 hs
    exact h t ht
  · cases hs

/-- **A provider that follows a script**: what it reads depends on its own state alone. -/
def Provider.scripted {σ : Type}
    (script : Path → Option (List String) → σ → Except Failure (List SourceOutline) × σ) :
    Provider σ where
  outlines root paths := fun s =>
    ((script root paths s.outside).1, { s with outside := (script root paths s.outside).2 })

/-! ## A git that tells -/

/-- What a git prints that knows the only repository and a history. -/
def toldBy (history : String) : List String → Option String
  | ["rev-parse", "--absolute-git-dir"] => some "/project/.git\n"
  | ["log", _, "--all"] => some history
  | ["checkout", "--force", "--detach", _] => some ""
  | "ls-tree" :: _ => some "mod.py\x00"
  | _ => none

/-- **A git that prints a history and has lost some names.** All other names lead to one commit. It
    leaves the disk alone. -/
def Git.telling (history : String) (isLost : String → Bool) : Git Unit where
  run c outside disk :=
    match toldBy history c.arguments with
    | some output => (.finished 0 (Text.encode output.toList) [], outside, disk)
    | none => (.finished 128 [] [], outside, disk)
  startHelper _ _ outside := (none, outside)
  isRunning _ _ := true
  ask _ name outside :=
    let line := if isLost name then Helper.absentLine name "missing" else Helper.foundLine "f0" "commit" 1
    (.ok (Text.encode line.toList), outside)
  sendRest _ outside := (none, outside)
  endHelper _ outside := (true, outside)

/-- **The only repository is there, and git tells of it.** Nobody listens to the log. -/
structure World.AtProject (history : String) (isLost : String → Bool) (w : World Unit) : Prop where
  git : w.git = .telling history isLost
  disk : w.disk = oneRepository.disk
  here : w.here = oneRepository.here
  unheard : w.logging.handlers = []

/-- **The only repository is open.** -/
structure World.Working (history : String) (isLost : String → Bool) (h : Handles) (w : World Unit) :
    Prop extends w.AtProject history isLost where
  session : w.session = some h
  root : h.root = projectFolder
  gitFolder : h.gitFolder = projectHandles.gitFolder
  live : h.helper ∈ w.liveHelpers
  sent : w.AllSent

section Telling

variable {history : String} {isLost : String → Bool} {w w' : World Unit} {h : Handles}

namespace World.AtProject

/-! ### What leaves the repository alone -/

theorem congr (hw : w.AtProject history isLost) (hgit : w'.git = w.git) (hdisk : w'.disk = w.disk)
    (hhere : w'.here = w.here) (hlogging : w'.logging = w.logging) : w'.AtProject history isLost :=
  ⟨hgit.trans hw.git, hdisk.trans hw.disk, hhere.trans hw.here, by rw [hlogging, hw.unheard]⟩

/-- A record that nobody receives leaves the disk alone. -/
theorem logged (hw : w.AtProject history isLost) (r : LogRecord) :
    (w.logged r).AtProject history isLost := by
  have hnobody : w.logging.receivers r = [] := by
    rw [Logging.receivers, hw.unheard]
    exact ite_self _
  have hdisk : (w.toScene.logged r).disk = w.disk ∧ (w.toScene.logged r).here = w.here ∧
      (w.toScene.logged r).logging = w.logging := by
    unfold Scene.logged
    split
    · exact ⟨by rw [hnobody]; rfl, rfl, rfl⟩
    · exact ⟨rfl, rfl, rfl⟩
  obtain ⟨hdisk, hhere, hlogging⟩ := hdisk
  exact hw.congr rfl hdisk hhere hlogging

theorem loggedAll (hw : w.AtProject history isLost) (rs : List LogRecord) :
    (w.loggedAll rs).AtProject history isLost := by
  induction rs generalizing w with
  | nil => exact hw
  | cons r rs ih => exact ih (hw.logged r)

/-- Closing a helper leaves the repository alone. -/
theorem closeHelper (hw : w.AtProject history isLost) (helper : Nat) :
    (Helper.closing helper w).2.AtProject history isLost := by
  have hsend : (Helper.sendRest helper w).2.AtProject history isLost := by
    unfold Helper.sendRest
    split
    · exact hw.congr rfl rfl rfl rfl
    · exact hw
  unfold Helper.closing
  split
  · rcases hsent : Helper.sendRest helper w with ⟨mishap, v⟩
    rw [hsent] at hsend
    cases mishap with
    | some m => exact hsend.congr rfl rfl rfl rfl
    | none =>
      show (Helper.await helper _).AtProject history isLost
      unfold Helper.await
      dsimp only
      split
      · exact hsend.congr rfl rfl rfl rfl
      · exact hsend.congr rfl rfl rfl rfl
  · exact hw

theorem close (hw : w.AtProject history isLost) : (Session.close w).AtProject history isLost := by
  unfold Session.close Session.closing
  split
  · exact hw
  · next held _ =>
    have hfree : ({ w with session := none } : World Unit).AtProject history isLost :=
      hw.congr rfl rfl rfl rfl
    have hclosed := hfree.closeHelper held.helper
    rcases hclosing : Helper.closing held.helper { w with session := none } with ⟨mishap, v⟩
    rw [hclosing] at hclosed
    cases mishap with
    | none => exact hclosed.logged _
    | some f => exact hclosed

/-- **A command that git knows** is finished. -/
theorem run (hw : w.AtProject history isLost) {r : Repository} (hroot : r.root = projectFolder)
    (arguments : List String) (hplain : ∀ s ∈ arguments, '\x00' ∉ s.toList) {output : String}
    (htold : toldBy history arguments = some output) (hreturn : '\r' ∉ output.toList) :
    ∃ w', r.run arguments none w = (.ok output, w') ∧ w'.AtProject history isLost := by
  have hnull : (r.command arguments none).holdsNull = false :=
    GitCommand.holdsNull_eq_false_iff.2 (noNull_line hroot hplain)
  have hlogged := hw.logged (.plain .debug Repository.commandLogger ("git " ++ " ".intercalate arguments))
  have htext : Git.text (Text.encode output.toList) = output := by
    rw [Git.text_encode_of_not_mem hreturn, String.ofList_toList]
  rw [r.run_eq_perform hnull, Repository.perform, hlogged.git]
  have htold' : toldBy history (r.command arguments none).arguments = some output := htold
  simp only [Git.telling, htold', Repository.judge, if_true, htext]
  exact ⟨_, rfl, ⟨rfl, hlogged.disk, hlogged.here, hlogged.unheard⟩⟩

/-- A name without white space reaches the helper. -/
theorem isTold (hw : w.AtProject history isLost) {helper : Nat} (hlive : helper ∈ w.liveHelpers)
    {name : String} (hname : Helper.IsWord name) : Helper.IsTold w helper name := by
  have hblank : ∀ c : Char, Text.isBlank c = true → c ∉ name.toList := by
    intro c hc hmem
    rw [hname.2 c hmem] at hc
    cases hc
  have hruns : w.git.isRunning helper w.outside = true := by
    rw [hw.git]
    rfl
  refine ⟨Helper.spansLines_eq_false_iff.2 ⟨hblank '\n' (by decide), hblank '\r' (by decide)⟩, ?_⟩
  rw [hruns, Bool.and_true]
  simpa [Helper.isLive] using hlive

/-- **A name without white space is looked up.** -/
theorem info (hw : w.AtProject history isLost) {helper : Nat} (hlive : helper ∈ w.liveHelpers)
    {name : String} (hname : Helper.IsWord name) :
    ∃ w', Helper.info helper name w =
        (.ok (if isLost name then none else some ⟨"f0", "commit", 1⟩), w') ∧
      w'.AtProject history isLost := by
  have htold : Helper.IsTold w helper name := hw.isTold hlive hname
  have hread : (Helper.info helper name w).1 =
      .ok (if isLost name then none else some ⟨"f0", "commit", 1⟩) := by
    cases hlost : isLost name with
    | true =>
      have hmissing : "missing" ∈ Helper.absences := by decide
      have hplain : ¬Helper.Misleads name := by
        rintro ⟨first, second, hwords, -⟩
        rw [hname.words] at hwords
        cases hwords
      have hanswer : Helper.answer w helper name =
          .ok (Text.encode (Helper.absentLine name "missing").toList) := by
        rw [Helper.answer, hw.git]
        simp only [Git.telling, hlost, if_true]
      exact Helper.info_lookup (.absent htold hmissing hplain hanswer)
    | false =>
      have hanswer : Helper.answer w helper name =
          .ok (Text.encode (Helper.foundLine "f0" "commit" 1).toList) := by
        rw [Helper.answer, hw.git]
        simp only [Git.telling, hlost, Bool.false_eq_true, if_false]
      have hid : Helper.IsWord "f0" := ⟨by simp, by simp [Text.isBlank]⟩
      have hkind : Helper.IsWord "commit" := ⟨by simp, by simp [Text.isBlank]⟩
      have hsize : (Nat.toDigits 10 1).length ≤ Whole.maxDigits := by decide
      exact Helper.info_lookup (.found htold hid hkind (by decide) hsize hanswer)
  refine ⟨_, Prod.ext hread rfl, ?_⟩
  unfold Helper.info Helper.ask
  repeat' split
  all_goals exact hw.congr rfl rfl rfl rfl

end World.AtProject

/-! ### Operations on the open repository -/

namespace Session

/-- **Opening the repository**, none being open. -/
theorem exists_open_telling (hw : w.AtProject history isLost) (hs : w.session = none)
    (timeout threshold : Value) :
    ∃ h w', Session.open projectFolder timeout threshold w = (.ok (), w') ∧
      w'.Working history isLost h ∧ w'.accepted = w.accepted := by
  obtain ⟨v, hrun, hv⟩ := hw.run (r := ⟨projectFolder, timeout, threshold, w.helpers⟩) rfl
    folderArguments (by decide) rfl (by decide)
  have haccepted : v.accepted = w.accepted := ((Repository.steady_run _ _ _).of_eq hrun).accepted
  have hstart : (v.git.startHelper v.helpers projectFolder v.outside).1 = none := by
    rw [hv.git]
    rfl
  obtain ⟨h, w', hopen, hsession, hroot, hfolder, hlive, hgit, haccepted', r, hscene⟩ :=
    exists_open_project timeout threshold hw.disk hw.here hs hrun hstart
  have hw' : w'.AtProject history isLost := by
    have hlogged := hv.logged r
    exact hlogged.congr hgit (congrArg Scene.disk hscene) (congrArg Scene.here hscene)
      (congrArg Scene.logging hscene)
  have hsent : w'.AllSent := (keepsHelpers_open _ _ _).of_eq hopen |>.allSent (allSent_of_closed hs)
  have hgitFolder : Path.ofText (String.ofList (Text.strip "/project/.git\n".toList)) =
      projectHandles.gitFolder := by
    decide
  exact ⟨h, w', hopen, ⟨hw', hsession, hroot, hfolder.trans hgitFolder, hlive, hsent⟩,
    haccepted'.trans haccepted⟩

end Session

namespace World.Working

variable (hw : w.Working history isLost h)

include hw

/-- What closes nothing keeps the repository open. -/
theorem steady (hstep : Steady w w') (hw' : w'.AtProject history isLost) :
    w'.Working history isLost h :=
  ⟨hw', hstep.session.trans hw.session, hw.root, hw.gitFolder, hstep.live ▸ hw.live,
    hw.sent.steady hstep⟩

theorem logged (r : LogRecord) : (w.logged r).Working history isLost h :=
  hw.steady (.logged w r) (hw.toAtProject.logged r)

theorem clearLock_eq (id : String) : Session.clearLock h id w = (.ok (), w) := by
  have hlock : Session.lockOf h = Session.lockOf projectHandles := by
    rw [Session.lockOf, hw.gitFolder]
    rfl
  have hclear : Session.clearLock h id w = Session.clearLock projectHandles id w := by
    unfold Session.clearLock Session.isLocked
    rw [hlock]
  rw [hclear, Session.clearLock_projectHandles id hw.disk]

/-- **The files of a commit** are listed. -/
theorem files {id : String} (hid : '\x00' ∉ id.toList) :
    ∃ paths w', Session.files id w = (.ok paths, w') ∧ w'.Working history isLost h := by
  have hplain : ∀ s ∈ Session.fileArguments id, '\x00' ∉ s.toList := by
    simp only [Session.fileArguments, List.forall_mem_cons]
    exact ⟨by decide, by decide, by decide, by decide, by decide, by decide, hid, nofun⟩
  obtain ⟨v, hrun, hv⟩ := hw.toAtProject.run (r := h.toRepository) hw.root _ hplain rfl
    (by decide)
  refine ⟨Session.pathsOf "mod.py\x00", v, Session.operation_of_ok hw.session ?_,
    hw.steady ((Repository.steady_run _ _ _).of_eq hrun) hv⟩
  exact bind_ok_iff.2 ⟨_, v, renamed_ok_iff.2 hrun, rfl⟩

/-- **A commit that is there is checked out.** -/
theorem checkout {id : String} (hid : Helper.IsWord (Session.commitName id))
    (hkept : isLost (Session.commitName id) = false) :
    ∃ w', Session.checkout id w = (.ok (), w') ∧ w'.Working history isLost h := by
  obtain ⟨v, hinfo, hv⟩ := hw.toAtProject.info hw.live hid
  rw [hkept, if_neg Bool.false_ne_true] at hinfo
  have hworking := hw.steady ((Helper.asks_info _ _).steady_of_ok hinfo) hv
  obtain ⟨u, hrun, hu⟩ := hv.run (r := h.toRepository) hw.root (Session.checkoutArguments "f0")
    (by decide) rfl (by decide)
  have hworking' := hworking.steady ((Repository.steady_run _ _ _).of_eq hrun) hu
  refine ⟨_, Session.operation_of_ok hw.session ?_,
    hworking'.logged (.plain .debug Session.logger ("Checked out " ++ "f0"))⟩
  refine bind_ok_iff.2 ⟨(), w, hw.clearLock_eq id, bind_ok_iff.2 ⟨"f0", v, ?_, ?_⟩⟩
  · exact bind_ok_iff.2 ⟨_, v, renamed_ok_iff.2 hinfo, rfl⟩
  · exact bind_ok_iff.2 ⟨_, u, renamed_ok_iff.2 hrun, rfl⟩

/-- **A commit that is lost cannot be checked out**, and the repository is closed. -/
theorem checkout_of_lost {id : String} (hid : Helper.IsWord (Session.commitName id))
    (hlost : isLost (Session.commitName id) = true) :
    ∃ w', Session.checkout id w =
        (.error (.problem (.checkout id "does not resolve to a commit")), w') ∧
      w'.AtProject history isLost ∧ w'.session = none ∧ w'.accepted = w.accepted := by
  obtain ⟨v, hinfo, hv⟩ := hw.toAtProject.info hw.live hid
  rw [hlost, if_pos rfl] at hinfo
  have hasked : Steady w v := (Helper.asks_info _ _).steady_of_ok hinfo
  let f : Failure := .problem (.checkout id "does not resolve to a commit")
  have hbody : (do
      Session.clearLock h id
      let object ← Session.resolveCommit h id
      let _ ← (h.toRepository.run ["checkout", "--force", "--detach", object] none).renamed
        (Session.asCheckout id)
      World.log .debug Session.logger ("Checked out " ++ object)) w = (.error f, v) := by
    have hresolve : Session.resolveCommit h id w = (.error f, v) := by
      rw [Session.resolveCommit, bind_apply, renamed_ok_iff.2 hinfo]
      rfl
    rw [bind_apply, hw.clearLock_eq id]
    exact bind_of_error hresolve
  have hmishap : (Session.failing "checkout" f v).1 = none :=
    Session.failing_fst_of_allSent _ f (hw.sent.steady hasked)
  refine ⟨Session.failed "checkout" f v, ?_, (hv.logged _).close, Session.failed_session _ f v, ?_⟩
  · rw [Session.checkout, Session.operation_eq hw.session, guarded_of_error hbody (problem_ne_interrupt _),
      hmishap]
    rfl
  · rw [Session.failed_accepted, hasked.accepted]

omit hw in
/-- **A history of merges is read**: nothing is compared. -/
theorem commits {es : List PrintedCommit} (hw : w.Working (PrintedCommit.print es) isLost h)
    (hreturn : '\r' ∉ (PrintedCommit.print es).toList) (hsep : ∀ e ∈ es, e.NoSeparator)
    (hmerges : ∀ e ∈ es, 1 < e.parents.length) :
    ∃ w', Session.commits w = (.ok (es.map fun e => e.commit []), w') ∧
      w'.Working (PrintedCommit.print es) isLost h := by
  obtain ⟨v, hrun, hv⟩ := hw.toAtProject.run (r := h.toRepository) hw.root
    (Repository.logArguments ["--all"]) (by decide) rfl hreturn
  have hread := Repository.forEach_commitOf_record (h.toRepository.forEach_changesOf_merges hmerges v)
  rw [List.zipWith_map_right, List.zipWith_self] at hread
  refine ⟨v, Session.operation_of_ok hw.session ?_,
    hw.steady ((Repository.steady_run _ _ _).of_eq hrun) hv⟩
  refine bind_ok_iff.2 ⟨es.map PrintedCommit.record, v, ?_, hread⟩
  exact Repository.records_ok_iff.2 ⟨_, hrun, (PrintedCommit.records_print hsep).symm⟩

end World.Working

/-! ### Work on a commit -/

/-- The name of a commit that was printed has no white space. -/
theorem PrintedCommit.isWord_commitName (e : PrintedCommit) :
    Helper.IsWord (Session.commitName e.id) := by
  have hrest : ∀ c ∈ "^\x7bcommit\x7d".toList, Text.isBlank c = false := by simp [Text.isBlank]
  refine ⟨by simp [Session.commitName], fun c hc => ?_⟩
  rw [Session.commitName, String.toList_append] at hc
  rcases List.mem_append.1 hc with hid | hc
  · exact isBlank_of_isHexDigit (e.id_hex c hid)
  · exact hrest c hc

/-- The open repository does not depend on what was handed over. -/
theorem World.Working.handedOver (hw : w.Working history isLost h) (es : List Emission) :
    ({ w with accepted := es } : World Unit).Working history isLost h :=
  ⟨hw.toAtProject.congr rfl rfl rfl rfl, hw.session, hw.root, hw.gitFolder, hw.live, hw.sent⟩

namespace Miner

/-- The sink that takes everything takes all records. -/
theorem emitAll_memory {σ : Type} (rs : List TypeRecord) (w : World σ) :
    emitAll .memory rs w = (.ok (), { w with accepted := w.accepted ++ rs.map .record }) := by
  induction rs generalizing w with
  | nil =>
    rw [List.map_nil, List.append_nil]
    rfl
  | cons r rs ih =>
    have hrest := ih { w with accepted := w.accepted ++ [.record r] }
    rw [List.append_assoc] at hrest
    exact hrest

/-- **A miner whose provider reads the same source files at all times**, with a sink that takes
    everything. From each commit the source files give some records. -/
structure Rereads (m : Miner Unit) (os : List SourceOutline) (records : Commit → List TypeRecord) :
    Prop where
  provider : m.provider = .scripted fun _ _ outside => (.ok os, outside)
  sink : m.sink = .memory
  returns : ∀ c (w : World Unit), ∃ written,
    m.recordsOfAll c os w = (.ok (records c), w.loggedAll written)

/-- **A miner with the built-in metrics and detectors** gives one record for each type, with the smells
    that the rules find. -/
theorem exists_rereads {config : Config} (hconfig : config.HasAccepted) {os : List SourceOutline}
    {m : Miner Unit} (hmake : make config (.scripted fun _ _ outside => (.ok os, outside)) .memory
      .standard none = .ok m) :
    ∃ records, m.Rereads os records ∧ ∀ c, (records c).map TypeRecord.smells =
      (os.flatMap SourceOutline.types).map (verdictsOn config.detecting) := by
  obtain ⟨he, hds⟩ := engine_of_make hmake
  have hdetectors : m.detectors = detectorsOf config.detecting := hds.trans (detectorsFor_eq config)
  obtain ⟨records, hrecords⟩ := Classical.axiom_of_choice fun c =>
    recordsOfAll_returns he hdetectors hconfig.detecting c os
  have hgiven : m.provider = .scripted (fun _ _ outside => (.ok os, outside)) ∧ m.sink = .memory := by
    unfold make at hmake
    obtain ⟨e, -, rfl⟩ := except_map_ok_iff.1 hmake
    exact ⟨rfl, rfl⟩
  exact ⟨records, ⟨hgiven.1, hgiven.2, fun c => (hrecords c).2⟩, fun c => (hrecords c).1⟩

variable {m : Miner Unit} {os : List SourceOutline} {records : Commit → List TypeRecord}
  (hm : m.Rereads os records)

include hm

/-- **The work on a commit that is there** is complete. -/
theorem workOn_kept (hw : w.Working history isLost h) {e : PrintedCommit}
    (hkept : isLost (Session.commitName e.id) = false) :
    ∃ w', m.workOn e.id (some (e.commit [])) w = (.ok (records (e.commit [])).length, w') ∧
      w'.Working history isLost h ∧
      w'.accepted = w.accepted ++ (records (e.commit [])).map .record := by
  have hid : '\x00' ∉ e.id.toList := e.id_noNull
  obtain ⟨w₁, hcheckout, hw₁⟩ := hw.checkout e.isWord_commitName hkept
  obtain ⟨paths, w₂, hfiles, hw₂⟩ := hw₁.files hid
  have hroot : Session.root w₁ = (.ok h.root, w₁) := Session.root_of_session hw₁.session
  have hparse : m.parse (e.commit []).id w₁ = (.ok os, w₂) := by
    refine bind_ok_iff.2 ⟨h.root, w₁, hroot, bind_ok_iff.2 ⟨paths, w₂, hfiles, ?_⟩⟩
    rw [hm.provider]
    rfl
  obtain ⟨written, hrecords⟩ := hm.returns (e.commit []) w₂
  have hemit : m.emit e.id (records (e.commit [])) (w₂.loggedAll written) = (.ok (),
      { w₂.loggedAll written with
        accepted := w₂.accepted ++ (records (e.commit [])).map .record }) := by
    rw [emit, hm.sink]
    simp only [withFaults, emitAll_memory]
    rfl
  have haccepted : w₂.accepted = w.accepted := by
    have hchecked : Steady w w₁ := ((Session.checkout_ends _ w).of_eq hcheckout).steady_of_ok
    have hlisted : Steady w₁ w₂ := ((Session.files_ends _ w₁).of_eq hfiles).steady_of_ok
    rw [hlisted.accepted, hchecked.accepted]
  have hw₃ : (w₂.loggedAll written).Working history isLost h :=
    hw₂.steady (.scene w₂ _) (hw₂.toAtProject.loggedAll written)
  rw [haccepted] at hemit
  refine ⟨_, ?_, hw₃.handedOver (w.accepted ++ (records (e.commit [])).map .record), rfl⟩
  refine bind_ok_iff.2 ⟨e.commit [], w, rfl, bind_ok_iff.2 ⟨(), w₁, during_ok hcheckout, ?_⟩⟩
  refine bind_ok_iff.2 ⟨os, w₂, during_ok hparse, bind_ok_iff.2 ⟨_, _, hrecords, ?_⟩⟩
  exact bind_ok_iff.2 ⟨(), _, during_ok hemit, rfl⟩

omit hm in
/-- **The work on a commit that is lost** stops when it is to be checked out. -/
theorem workOn_lost (m : Miner Unit) (hw : w.Working history isLost h) {e : PrintedCommit}
    (hlost : isLost (Session.commitName e.id) = true) :
    ∃ w', m.workOn e.id (some (e.commit [])) w = (.error (.problem .checkout none
        (.checkout e.id "does not resolve to a commit")), w') ∧
      w'.AtProject history isLost ∧ w'.session = none ∧ w'.accepted = w.accepted := by
  obtain ⟨w', hcheckout, hw'⟩ := hw.checkout_of_lost e.isWord_commitName hlost
  have hknown : commitOf e.id (some (e.commit [])) w = (.ok (e.commit []), w) := rfl
  have hstage : during .checkout none (Session.checkout (e.commit []).id) w = (.error (.problem
      .checkout none (.checkout e.id "does not resolve to a commit")), w') := by
    simp only [during]
    rw [show (e.commit []).id = e.id from rfl, hcheckout]
  refine ⟨w', ?_, hw'⟩
  rw [workOn, bind_apply, hknown]
  exact bind_of_error hstage

/-! ### The run over the commits -/

/-- **Between two commits** the only repository is open or closed. -/
def AtTurn (history : String) (isLost : String → Bool) (w : World Unit) : Prop :=
  (∃ h, w.Working history isLost h) ∨ w.AtProject history isLost ∧ w.session = none

omit hm in
/-- The repository is opened for the next commit, if it is closed. -/
theorem exists_reopen_telling (m : Miner Unit) (hw : AtTurn history isLost w) :
    ∃ h w', m.reopen "/project" w = (.ok (), w') ∧ w'.Working history isLost h ∧
      w'.accepted = w.accepted := by
  rcases hw with ⟨h, hw⟩ | ⟨hw, hs⟩
  · have hopen : Session.isOpen w = true := Session.isOpen_of_session hw.session
    exact ⟨h, w, by rw [reopen, if_pos hopen], hw, rfl⟩
  · have hclosed : ¬Session.isOpen w = true := by simp [Session.isOpen, hs]
    have hpath : Path.ofText "/project" = projectFolder := by decide
    obtain ⟨h, w', hrun, hw'⟩ := Session.exists_open_telling (hw.logged _) hs m.config.gitTimeout
      m.config.binaryThreshold
    refine ⟨h, w', ?_, hw'⟩
    rw [reopen, if_neg hclosed, openAt, hpath]
    exact hrun

/-- The failure of a commit that is lost. -/
def lostFailure (id : String) : CommitFailure :=
  ⟨id, .checkout, (Problem.checkout id "does not resolve to a commit").message, none⟩

/-- The report after a commit of the history. -/
def tally (isLost : String → Bool) (records : Commit → List TypeRecord) (report : Report)
    (e : PrintedCommit) : Report :=
  if isLost (Session.commitName e.id) then report.failed (lostFailure e.id)
  else report.analysed e.id (records (e.commit [])).length

/-- What is handed over of a commit of the history. -/
def handedBy (isLost : String → Bool) (records : Commit → List TypeRecord) (e : PrintedCommit) :
    List TypeRecord :=
  if isLost (Session.commitName e.id) then [] else records (e.commit [])

section Tally

variable {e : PrintedCommit}

omit hm

theorem tally_of_kept (h : isLost (Session.commitName e.id) = false) (report : Report) :
    tally isLost records report e = report.analysed e.id (records (e.commit [])).length := by
  rw [tally, if_neg (by rw [h]; exact Bool.false_ne_true)]

theorem tally_of_lost (h : isLost (Session.commitName e.id) = true) (report : Report) :
    tally isLost records report e = report.failed (lostFailure e.id) := by
  rw [tally, if_pos h]

theorem handedBy_of_kept (h : isLost (Session.commitName e.id) = false) :
    handedBy isLost records e = records (e.commit []) := by
  rw [handedBy, if_neg (by rw [h]; exact Bool.false_ne_true)]

theorem handedBy_of_lost (h : isLost (Session.commitName e.id) = true) :
    handedBy isLost records e = [] := by
  rw [handedBy, if_pos h]

end Tally

/-- **One commit**: it is analysed if it is there, and becomes a failure if it is lost. -/
theorem mineCommit_telling (hw : w.Working history isLost h) (e : PrintedCommit) (report : Report) :
    ∃ w', m.mineCommit false e.id (some (e.commit [])) report w =
        (.ok (tally isLost records report e), w') ∧
      AtTurn history isLost w' ∧
      w'.accepted = w.accepted ++ (handedBy isLost records e).map .record := by
  cases hlost : isLost (Session.commitName e.id) with
  | false =>
    obtain ⟨w', hwork, hw', haccepted⟩ := workOn_kept hm hw hlost
    rw [tally_of_kept hlost, handedBy_of_kept hlost]
    refine ⟨w', ?_, .inl ⟨h, hw'⟩, haccepted⟩
    simp only [mineCommit, hwork]
  | true =>
    obtain ⟨w', hwork, hw', hs, haccepted⟩ := workOn_lost m hw hlost
    rw [tally_of_lost hlost, handedBy_of_lost hlost]
    refine ⟨_, ?_, .inr ⟨hw'.logged (skipped e.id .checkout
      (.checkout e.id "does not resolve to a commit")), hs⟩, ?_⟩
    · simp only [mineCommit, hwork]
      rfl
    · rw [accepted_logged, haccepted, List.map_nil, List.append_nil]

/-- **The run over the commits of the history**, one after the other. -/
theorem mineAll_telling {known : List Commit} {es : List PrintedCommit}
    (hknown : ∀ e ∈ es, knownCommit known e.id = some (e.commit [])) (total index : Nat)
    (report : Report) (hw : AtTurn history isLost w) :
    ∃ w', m.mineAll "/project" false total known index (es.map PrintedCommit.id) report w =
        (.ok (es.foldl (tally isLost records) report), w') ∧
      AtTurn history isLost w' ∧
      w'.accepted = w.accepted ++ (es.flatMap (handedBy isLost records)).map .record := by
  induction es generalizing index report w with
  | nil => exact ⟨w, rfl, hw, by simp⟩
  | cons e es ih =>
    obtain ⟨h, w₁, hreopen, hw₁, haccepted₁⟩ := exists_reopen_telling m hw
    let progressed := w₁.logged (.plain .info logger (progress index total e.id))
    have hworking : progressed.Working history isLost h := hw₁.logged _
    obtain ⟨w₂, hcommit, hw₂, haccepted₂⟩ := mineCommit_telling hm hworking e report
    rw [← hknown e List.mem_cons_self] at hcommit
    obtain ⟨w', hrest, hw', haccepted'⟩ := ih (fun e' he' => hknown e' (List.mem_cons_of_mem e he'))
      (index + 1) (tally isLost records report e) hw₂
    refine ⟨w', ?_, hw', ?_⟩
    · rw [List.map_cons, mineAll]
      exact bind_ok_iff.2 ⟨(), w₁, hreopen, bind_ok_iff.2 ⟨(), progressed, rfl,
        bind_ok_iff.2 ⟨_, w₂, hcommit, hrest⟩⟩⟩
    · rw [haccepted', haccepted₂, accepted_logged, haccepted₁, List.flatMap_cons, List.map_append,
        List.append_assoc]

omit hm in
/-- Each commit of a history without repetitions is known by its id. -/
theorem knownCommit_of_nodup {cs : List Commit} (h : (cs.map Commit.id).Nodup) {c : Commit}
    (hc : c ∈ cs) : knownCommit cs c.id = some c := by
  rw [knownCommit]
  cases hfound : cs.reverse.find? fun c' => c'.id == c.id with
  | none =>
    have hnone := List.find?_eq_none.1 hfound c (List.mem_reverse.2 hc)
    simp at hnone
  | some c' =>
    have hid : c'.id = c.id := by simpa using List.find?_some hfound
    have hmem : c' ∈ cs := List.mem_reverse.1 (List.mem_of_find?_eq_some hfound)
    rw [List.inj_on_of_nodup_map h hmem hc hid]

omit hm in
/-- **The ids of a history that git tells are selected**, and the first turn can begin. -/
theorem exists_selects_telling (m : Miner Unit) {es : List PrintedCommit}
    (hreturn : '\r' ∉ (PrintedCommit.print es).toList) (hsep : ∀ e ∈ es, e.NoSeparator)
    (hmerges : ∀ e ∈ es, 1 < e.parents.length) (hids : (es.map PrintedCommit.id).Nodup)
    (isLost : String → Bool) :
    ∃ known w', Selects m "/project" .everything
        (.start oneRepository (.telling (PrintedCommit.print es) isLost))
        (es.map PrintedCommit.id) known w' ∧
      (∀ e ∈ es, knownCommit known e.id = some (e.commit [])) ∧
      AtTurn (PrintedCommit.print es) isLost w' ∧ w'.accepted = [] := by
  let start : World Unit := .start oneRepository (.telling (PrintedCommit.print es) isLost)
  have hstart : start.AtProject (PrintedCommit.print es) isLost := ⟨rfl, rfl, rfl, rfl⟩
  have hpath : Path.ofText "/project" = projectFolder := by decide
  obtain ⟨h, w₁, hopen, hw₁, haccepted₁⟩ := Session.exists_open_telling hstart rfl
    m.config.gitTimeout m.config.binaryThreshold
  rw [← hpath] at hopen
  obtain ⟨w₂, hcommits, hw₂⟩ := hw₁.commits hreturn hsep hmerges
  have haccepted₂ : w₂.accepted = w₁.accepted :=
    ((Session.commits_ends w₁).of_eq hcommits).steady_of_ok.accepted
  let known := es.map fun e => e.commit []
  have hids' : known.map Commit.id = es.map PrintedCommit.id := by
    rw [List.map_map]
    rfl
  have hselect : select .everything w₁ = (.ok (es.map PrintedCommit.id, known), w₂) := by
    rw [← hids']
    exact bind_ok_iff.2 ⟨known, w₂, hcommits, rfl⟩
  refine ⟨known, _, ⟨w₁, w₂, h.root, hopen, hselect, Session.root_of_session hw₂.session, rfl⟩,
    fun e he => knownCommit_of_nodup (hids' ▸ hids) (List.mem_map_of_mem he),
    .inl ⟨h, hw₂.logged _⟩, ?_⟩
  rw [accepted_logged, haccepted₂, haccepted₁]
  rfl

/-- **A run over a history that git tells** ends with the tally of its commits, and the records of
    those that are there are handed over in their order. -/
theorem mine_telling {es : List PrintedCommit} (hreturn : '\r' ∉ (PrintedCommit.print es).toList)
    (hsep : ∀ e ∈ es, e.NoSeparator) (hmerges : ∀ e ∈ es, 1 < e.parents.length)
    (hids : (es.map PrintedCommit.id).Nodup) (isLost : String → Bool) {failFast : Option Bool}
    (hfast : failFast.getD m.config.failFast.isTruthy = false) :
    ∃ w', m.mine "/project" .everything failFast
          (.start oneRepository (.telling (PrintedCommit.print es) isLost)) =
        (.ok (es.foldl (tally isLost records) .empty), w') ∧
      w'.accepted = (es.flatMap (handedBy isLost records)).map .record := by
  obtain ⟨known, w₁, hselects, hknown, hw₁, haccepted₁⟩ :=
    exists_selects_telling m hreturn hsep hmerges hids isLost
  obtain ⟨w₂, hall, -, haccepted₂⟩ :=
    mineAll_telling hm hknown (es.map PrintedCommit.id).length 1 .empty hw₁
  refine ⟨Session.close w₂, ?_, ?_⟩
  · rw [mine_of_selects hselects, hfast, hall]
  · rw [Session.close_accepted, haccepted₂, haccepted₁, List.nil_append]

end Miner

end Telling

/-! ## A small run -/

namespace Miner

theorem isHex_c3 : IsHex "c3" := by decide

theorem isHex_c5 : IsHex "c5" := by decide

theorem isHex_c7 : IsHex "c7" := by decide

/-- A history of three merges. -/
def threeMerges : List PrintedCommit :=
  [mergeOf "c3" isHex_c3, mergeOf "c5" isHex_c5, mergeOf "c7" isHex_c7]

/-- A world whose git has lost the second of them. -/
def worldOfMerges : World Unit :=
  .start oneRepository
    (.telling (PrintedCommit.print threeMerges) fun name => name == Session.commitName "c5")

/-- A source file with one class, whose only method is too long. -/
def longOutline : SourceOutline where
  path := "mod.py"
  language := "python"
  types := [
    { name := "Long", archetype := .classOrInterface, modifiers := default, extent := ⟨1, 300⟩
      methods := [
        { name := "run", modifiers := default, parameters := [], extent := ⟨2, 300⟩
          body := [.mk .ifThen ⟨3, 300⟩ ["x"] [.mk .simple ⟨4, 300⟩ [] []]], metrics := [] }]
      fields := [], metrics := [] }]

/-- The provider that reads this file at all times. -/
def longProvider : Provider Unit := .scripted fun _ _ outside => (.ok [longOutline], outside)

/-- From each commit the file gives one record, with the smells that the rules find. -/
theorem exists_rereads_long {config : Config} (hconfig : config.HasAccepted) {m : Miner Unit}
    (hmake : make config longProvider .memory .standard none = .ok m) :
    ∃ record : Commit → TypeRecord, m.Rereads [longOutline] (fun c => [record c]) ∧
      ∀ c, (record c).smells = verdictsOn config.detecting longOutline.types[0] := by
  obtain ⟨records, hm, hsmells⟩ := exists_rereads hconfig hmake
  have hone : ∀ c, ∃ r, records c = [r] ∧ r.smells = verdictsOn config.detecting longOutline.types[0] := by
    intro c
    obtain ⟨r, rest, hr, hverdicts, hrest⟩ := List.map_eq_cons_iff.1 (hsmells c)
    obtain rfl : rest = [] := List.map_eq_nil_iff.1 hrest
    exact ⟨r, hr, hverdicts⟩
  obtain ⟨record, hrecord⟩ := Classical.axiom_of_choice hone
  obtain rfl : records = fun c => [record c] := funext fun c => (hrecord c).1
  exact ⟨record, hm, fun c => (hrecord c).2⟩

/-- Git has lost the second merge only. -/
theorem isLost_threeMerges : (Session.commitName "c3" == Session.commitName "c5") = false ∧
    (Session.commitName "c5" == Session.commitName "c5") = true ∧
    (Session.commitName "c7" == Session.commitName "c5") = false := by
  decide

/-- Git can tell the history of the merges. -/
theorem threeMerges_tellable : '\r' ∉ (PrintedCommit.print threeMerges).toList ∧
    (∀ e ∈ threeMerges, e.NoSeparator) ∧ (∀ e ∈ threeMerges, 1 < e.parents.length) ∧
    (threeMerges.map PrintedCommit.id).Nodup := by
  have hmerges : ∀ e ∈ threeMerges, e.NoSeparator ∧ 1 < e.parents.length := by decide
  have hreturn : '\r' ∉ (PrintedCommit.print threeMerges).toList := by
    rw [PrintedCommit.print, String.toList_ofList]
    decide +kernel
  exact ⟨hreturn, fun e he => (hmerges e he).1, fun e he => (hmerges e he).2, by decide⟩

/-- The ids of the merges are selected, and the first turn can begin. -/
theorem exists_selects_threeMerges (m : Miner Unit) : ∃ known w',
    Selects m "/project" .everything worldOfMerges ["c3", "c5", "c7"] known w' ∧
      (∀ e ∈ threeMerges, knownCommit known e.id = some (e.commit [])) ∧
      AtTurn (PrintedCommit.print threeMerges) (fun name => name == Session.commitName "c5") w' ∧
      w'.accepted = [] := by
  obtain ⟨hreturn, hsep, hmerges, hids⟩ := threeMerges_tellable
  exact exists_selects_telling m hreturn hsep hmerges hids _

/-- **Two of the three commits are analysed**, and each gives one record. -/
theorem mine_threeMerges {m : Miner Unit} {record : Commit → TypeRecord}
    (hm : m.Rereads [longOutline] fun c => [record c]) (failFast : Option Bool)
    (hfast : failFast.getD m.config.failFast.isTruthy = false) :
    ∃ w', m.mine "/project" .everything failFast worldOfMerges =
        (.ok ⟨["c3", "c7"], 2, [lostFailure "c5"]⟩, w') ∧
      w'.accepted = [.record (record ((mergeOf "c3" isHex_c3).commit [])),
        .record (record ((mergeOf "c7" isHex_c7).commit []))] := by
  obtain ⟨hreturn, hsep, hmerges, hids⟩ := threeMerges_tellable
  obtain ⟨w', hmine, haccepted⟩ := mine_telling hm hreturn hsep hmerges hids
    (fun name => name == Session.commitName "c5") hfast
  obtain ⟨hthere, hlost, hthere'⟩ := isLost_threeMerges
  refine ⟨w', ?_, ?_⟩
  · have hreport : threeMerges.foldl (tally (fun name => name == Session.commitName "c5")
        fun c => [record c]) .empty = ⟨["c3", "c7"], 2, [lostFailure "c5"]⟩ := by
      rw [threeMerges, List.foldl_cons, List.foldl_cons, List.foldl_cons, List.foldl_nil,
        tally_of_kept hthere, tally_of_lost hlost, tally_of_kept hthere']
      rfl
    rw [worldOfMerges, hmine, hreport]
  · rw [haccepted, threeMerges, List.flatMap_cons, List.flatMap_cons, List.flatMap_cons,
      List.flatMap_nil, handedBy_of_kept hthere, handedBy_of_lost hlost, handedBy_of_kept hthere']
    rfl

end Miner

end HistoryMetrics
