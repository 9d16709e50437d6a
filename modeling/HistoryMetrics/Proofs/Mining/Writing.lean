import HistoryMetrics.Proofs.Disk.SameBut
import HistoryMetrics.Proofs.Mining.LineFile
import HistoryMetrics.Proofs.Mining.Twins
import HistoryMetrics.Proofs.Session.Beside
import HistoryMetrics.Proofs.Session.CommandLines
import HistoryMetrics.Python.Provider

/-! # A run that writes its records

    A run that keeps its records and one that writes them into a file differ in the disk: there is the
    file, and perhaps there are folders that were made for it. If nobody comes by these places, neither
    the log nor git nor whoever reads source files, then the two runs cannot be told apart; and what has
    been handed over so far stands in the file, line by line.

    - `Git.PassesBy`: git does not come by the file
    - `Scene.Apart`: nobody does
    - `Writing`, `Writes`: the two scenes while the runs are under way
    - `Apart.blind`: single steps of a session
    - `Apart.agree_outlines`: source files
    - `Apart.agree_handOver`: records
    - `Apart.closed`: the file in the end
    - `Apart.agree_mine`: whole runs
-/

namespace HistoryMetrics

open HistoryMetrics.Action World

variable {σ α : Type}

/-- The lock of a repository whose folder git has written. -/
def Session.lockIn (output : String) : Path :=
  (Path.ofText (String.ofList (Text.strip output.toList))).child "index.lock"

/-- **Git does not come by a file**, as long as its state is fit: the file and some other places are
    hidden from it.

    - `run`: a command does the same on all disks that are the same but at the hidden places
    - `leaves`: the file stays there with all that it holds
    - `folder`: the lock of the repository is elsewhere
    - `lists`: the files of a commit are told by their paths in the working tree
    - `fit_run`, `fit_start`, `fit_ask`, `fit_send`, `fit_end`: the state stays fit
-/
structure Git.PassesBy (git : Git σ) (Fit : σ → Prop) (hidden : List String → Prop)
    (here output : Path) : Prop where
  run : ∀ {c x d d'}, Fit x → Disk.SameBut hidden d d' →
    (git.run c x d').1 = (git.run c x d).1 ∧ (git.run c x d').2.1 = (git.run c x d).2.1 ∧
      Disk.SameBut hidden (git.run c x d).2.2 (git.run c x d').2.2
  leaves : ∀ {c x d octets}, Fit x → d.Offers here output octets →
    (git.run c x d).2.2.Offers here output octets
  folder : ∀ {c x d octets errors}, Fit x → c.arguments = Session.folderArguments →
    (git.run c x d).1 = .finished 0 octets errors →
      (Session.lockIn (Git.text octets)).Avoids hidden here
  lists : ∀ {c x d id octets errors}, Fit x → c.arguments = Session.fileArguments id →
    (git.run c x d).1 = .finished 0 octets errors →
      ∀ p ∈ Session.pathsOf (Git.text octets), (Path.ofText p).root = ""
  fit_run : ∀ {c x d}, Fit x → Fit (git.run c x d).2.1
  fit_start : ∀ {n folder x}, Fit x → Fit (git.startHelper n folder x).2
  fit_ask : ∀ {n name x}, Fit x → Fit (git.ask n name x).2
  fit_send : ∀ {n x}, Fit x → Fit (git.sendRest n x).2
  fit_end : ∀ {n x}, Fit x → Fit (git.endHelper n x).2

/-- **Nobody comes by a file** in a scene.

    - `output`: the place of the file is hidden
    - `logs`: the log is written elsewhere
    - `inside`: nothing is hidden in the repository or on the way to it
-/
structure Scene.Apart (git : Git σ) (Fit : σ → Prop) (hidden : List String → Prop) (s : Scene σ)
    (root output : Path) : Prop extends git.PassesBy Fit hidden s.here output where
  fit : Fit s.outside
  output : hidden (Disk.place s.here output)
  logs : ∀ handler ∈ s.logging.handlers, ∀ file, handler.target = .file file →
    file.Avoids hidden s.here
  inside : ∀ names, ".." ∉ names → Path.Avoids ⟨root.root, root.parts ++ names⟩ hidden s.here

/-- A path that avoids a place leads elsewhere. -/
theorem Path.Avoids.place_ne {p q : Path} {hidden : List String → Prop} {here : Path}
    (h : p.Avoids hidden here) (hq : hidden (Disk.place here q)) :
    Disk.place here p ≠ Disk.place here q := by
  intro hsame
  apply h.way p.parts (List.prefix_refl _)
  show hidden (Disk.place here p)
  rwa [hsame]

/-- What a sink takes is remembered. -/
theorem Sink.handOver_of_receive {sink : Sink σ} {e : Emission} {w : World σ} {s : Scene σ}
    (h : sink.receive e w.toScene = (.ok (), s)) :
    sink.handOver e w = (.ok (), { w with toScene := s, accepted := w.accepted ++ [e] }) := by
  simp only [handOver, bind_apply, World.onScene, h]
  rfl

/-- **A file that is closed** holds what it held, if the log is written elsewhere. -/
theorem LineFile.close_of_open {s : Scene σ} {entry : Entry} (hopen : s.lineFile.isOpen = true)
    (hlogs : LogsElsewhere s) (hentry : s.disk.entryAt s.here s.lineFile.path = some entry) :
    (close s).lineFile = { s.lineFile with isOpen := false } ∧
      (close s).disk.entryAt (close s).here s.lineFile.path = some entry := by
  let shut : Scene σ := { s with lineFile := { s.lineFile with isOpen := false } }
  have hclose : close s = shut.logged (record s.lineFile) := if_pos hopen
  have hstays : (shut.logged (record s.lineFile)).disk.entryAt shut.here shut.lineFile.path =
      some entry := entryAt_logged hlogs hentry
  obtain ⟨after, journal, hlogged⟩ := logged_eq shut (record s.lineFile)
  rw [hlogged] at hstays
  rw [hclose, hlogged]
  exact ⟨rfl, hstays⟩

/-! ## Two scenes -/

section Runs

variable (Fit : σ → Prop) (hidden : List String → Prop) (first : Scene σ) (root output : Path)

/-- **A scene, and the disk of a run that writes what is handed over.** Some records have been handed over
    since both were in the first scene. -/
structure Writing (new : List Emission) (s : Scene σ) (disk : Disk) : Prop where
  fit : Fit s.outside
  here : s.here = first.here
  logging : s.logging = first.logging
  records : ∃ rs : List TypeRecord, new = rs.map .record
  same : Disk.SameBut hidden s.disk disk
  file : disk.Offers first.here output (Text.encode (LineFile.textOf new))

/-- **The scene of a run that writes what is handed over**, beside the scene of one that does not. -/
def Writes (new : List Emission) (s t : Scene σ) : Prop :=
  ∃ disk, Writing Fit hidden first output new s disk ∧
    t = { s with disk, lineFile := ⟨output, true, new.length⟩ }

/-- What is held is the repository, with a lock that is elsewhere. -/
def HeldApart (h : Handles) : Prop :=
  h.root = root ∧ (Session.lockOf h).Avoids hidden first.here

variable {Fit hidden first root output} {git : Git σ} {new : List Emission} {s t : Scene σ} {disk : Disk}

/-- Both disks may change in the same way. -/
theorem Writing.withDisk (h : Writing Fit hidden first output new s disk) {d d' : Disk}
    (hsame : Disk.SameBut hidden d d')
    (hfile : d'.Offers first.here output (Text.encode (LineFile.textOf new))) :
    Writing Fit hidden first output new { s with disk := d } d' :=
  { h with same := hsame, file := hfile }

/-- So may git's state, if it stays fit. -/
theorem Writing.withOutside (h : Writing Fit hidden first output new s disk) {x : σ} (hx : Fit x) :
    Writing Fit hidden first output new { s with outside := x } disk :=
  { h with fit := hx }

namespace Scene.Apart

variable (hapart : first.Apart git Fit hidden root output)

include hapart

/-- **The log** is written to the same files on both disks. -/
theorem logged (h : Writes Fit hidden first output new s t) (r : LogRecord) :
    Writes Fit hidden first output new (s.logged r) (t.logged r) := by
  obtain ⟨disk, hdisk, rfl⟩ := h
  have hreceivers : ∀ handler ∈ s.logging.receivers r, ∀ file, handler.target = .file file →
      file.Avoids hidden first.here := by
    intro handler hmem
    apply hapart.logs
    rw [← hdisk.logging]
    unfold Logging.receivers at hmem
    split at hmem
    · exact List.mem_of_mem_filter hmem
    · exact absurd hmem List.not_mem_nil
  unfold Scene.logged
  dsimp only
  split
  · refine ⟨_, ?_, rfl⟩
    have hsame := hdisk.same.foldl_written s.time r hreceivers
    have hfile := hdisk.file.foldl_written s.time r fun handler hmem file htarget =>
      (hreceivers handler hmem file htarget).place_ne hapart.output
    rw [← hdisk.here] at hsame hfile
    exact { hdisk with same := hsame, file := by rw [← hdisk.here]; exact hfile }
  · exact ⟨disk, hdisk, rfl⟩

theorem loggedAll (h : Writes Fit hidden first output new s t) (rs : List LogRecord) :
    Writes Fit hidden first output new (s.loggedAll rs) (t.loggedAll rs) := by
  induction rs generalizing s t with
  | nil => exact h
  | cons r rs ih => exact ih (hapart.logged h r)

/-! ### A session -/

/-- **What is held after the repository has been opened** has its lock elsewhere. -/
theorem held {w w' : World σ} {r : Repository} {h : Handles} (hgit : w.git = git)
    (hscene : Writes Fit hidden first output new w.toScene t) (hr : r.root = root)
    (hacquire : Session.acquire r w = (.ok h, w')) : HeldApart hidden first root h := by
  obtain ⟨disk, hdisk, rfl⟩ := hscene
  obtain ⟨text, w₁, hrun, hstart⟩ := bind_ok_iff.1 hacquire
  obtain ⟨helper, w₂, -, hpure⟩ := bind_ok_iff.1 hstart
  obtain ⟨d, octets, errors, hfinished, rfl⟩ := Repository.run_ok hrun
  cases hpure
  rw [hgit] at hfinished
  exact ⟨hr, hapart.folder hdisk.fit rfl hfinished⟩

/-- **Single steps of a session come to the same** in both scenes. -/
theorem blind (new : List Emission) :
    Scene.Blind git (· = root) (HeldApart hidden first root) (Writes Fit hidden first output new) where
  logged h r := hapart.logged h r
  here := by
    rintro s _ ⟨disk, -, rfl⟩
    rfl
  found := by
    rintro s _ ⟨disk, hdisk, rfl⟩ folder rfl
    have hinside := hapart.inside [".git"] (by decide)
    rw [← hdisk.here] at hinside
    exact hdisk.same.isThere_eq hinside
  locked := by
    rintro s _ ⟨disk, hdisk, rfl⟩ h ⟨-, hlock⟩
    rw [← hdisk.here] at hlock
    exact hdisk.same.isThere_eq hlock
  removes := by
    rintro s _ ⟨disk, hdisk, rfl⟩ h ⟨-, hlock⟩
    have hremoved := hdisk.same.remove hlock
    rw [← hdisk.here] at hremoved
    refine hremoved.map fun d d' _ hd' hsame => ⟨d', ?_, rfl⟩
    rw [hdisk.here] at hd'
    exact hdisk.withDisk hsame (hdisk.file.of_remove (hlock.place_ne hapart.output) hd')
  run := by
    rintro s _ ⟨disk, hdisk, rfl⟩ c
    obtain ⟨houtcome, houtside, hsame⟩ := hapart.run (c := c) hdisk.fit hdisk.same
    refine ⟨houtcome, (git.run c s.outside disk).2.2, ?_, ?_⟩
    · exact
        { hdisk with
          fit := hapart.fit_run hdisk.fit
          same := hsame
          file := hapart.leaves hdisk.fit hdisk.file }
    · simp only [Scene.afterCommand, houtside]
  starts := by
    rintro s _ ⟨disk, hdisk, rfl⟩ n folder
    exact ⟨rfl, disk, hdisk.withOutside (hapart.fit_start hdisk.fit), rfl⟩
  isRunning := by
    rintro s _ ⟨disk, -, rfl⟩ n
    rfl
  answers := by
    rintro s _ ⟨disk, hdisk, rfl⟩ n name
    exact ⟨rfl, disk, hdisk.withOutside (hapart.fit_ask hdisk.fit), rfl⟩
  sends := by
    rintro s _ ⟨disk, hdisk, rfl⟩ n
    exact ⟨rfl, disk, hdisk.withOutside (hapart.fit_send hdisk.fit), rfl⟩
  ends := by
    rintro s _ ⟨disk, hdisk, rfl⟩ n
    exact ⟨rfl, disk, hdisk.withOutside (hapart.fit_end hdisk.fit), rfl⟩
  acquired hgit hscene hr hacquire := hapart.held hgit hscene hr hacquire

/-! ### Source files -/

/-- **A path that is looked at** leads into the repository, where nothing is hidden. -/
theorem avoids_of_shown {path : Path} (hrelative : path.root = "")
    (hshown : Exclusion.isHidden path = false) : (root.join path).Avoids hidden first.here := by
  have hparts : ∀ part ∈ path.parts, part.startsWith "." = false := by
    simpa [Exclusion.isHidden] using hshown
  rw [Path.join_of_relative hrelative]
  exact hapart.inside path.parts (Path.dots_not_mem hparts)

theorem agree_outlineAt (patterns : List Value) {path : Path} (hrelative : path.root = "") :
    Agree (Writes Fit hidden first output new) Eq (Python.outlineAt patterns root path)
      (Python.outlineAt patterns root path) := by
  rintro s _ ⟨disk, hdisk, rfl⟩
  unfold Python.outlineAt
  cases hskips : Exclusion.skips patterns path with
  | error f => exact ⟨.refl _, disk, hdisk, rfl⟩
  | ok skip =>
    cases skip with
    | true => exact ⟨.refl _, disk, hdisk, rfl⟩
    | false =>
      have hshown : Exclusion.isHidden path = false := by
        by_contra hpath
        rw [Bool.not_eq_false] at hpath
        rw [Exclusion.skips, if_pos hpath] at hskips
        cases hskips
      have havoids := hapart.avoids_of_shown hrelative hshown
      rw [← hdisk.here] at havoids
      simp only [hdisk.same.isFile_eq havoids, hdisk.same.read_eq havoids]
      cases s.disk.isFile s.here (root.join path) with
      | error e => exact ⟨.refl _, disk, hdisk, rfl⟩
      | ok isFile =>
        cases isFile with
        | false => exact ⟨.refl _, disk, hdisk, rfl⟩
        | true =>
          cases s.disk.read s.here (root.join path) with
          | error e => exact ⟨.refl _, disk, hdisk, rfl⟩
          | ok octets =>
            rw [if_neg Bool.false_ne_true, if_neg Bool.false_ne_true]
            dsimp only
            cases Python.sourceOutline (Python.sourceText octets) path.text with
            | ok o => exact ⟨.refl _, disk, hdisk, rfl⟩
            | error e => exact ⟨.refl _, hapart.logged ⟨disk, hdisk, rfl⟩ _⟩

/-- **The same outlines are read** in both runs. -/
theorem agree_outlines (patterns : List Value) {paths : List String}
    (hlisted : ∀ p ∈ paths, (Path.ofText p).root = "") :
    Agree (Writes Fit hidden first output new) Eq
      ((Python.provider patterns).outlines root (some paths))
      ((Python.provider patterns).outlines root (some paths)) := by
  -- the paths are those that were given, whatever is on the disk
  let given : List Path := Path.sorted ((paths.filter Python.isSourceName).map .ofText)
  have hgiven : ∀ p ∈ given, p.root = "" := by
    intro p hp
    obtain ⟨text, htext, rfl⟩ := List.mem_map.1 (List.mem_mergeSort.1 hp)
    exact hlisted text (List.mem_of_mem_filter htext)
  have hread : Agree (Writes Fit hidden first output new)
      (fun found found' => found' = found ∧ found = .ok given)
      (Action.read fun s : Scene σ => Python.candidates s.disk s.here root (some paths))
      (Action.read fun s : Scene σ => Python.candidates s.disk s.here root (some paths)) :=
    agree_read fun _ _ _ => ⟨rfl, rfl⟩
  refine hread.bind ?_
  rintro _ _ ⟨rfl, rfl⟩
  have htaken : Agree (Writes Fit hidden first output new) (fun ps ps' => ps' = ps ∧ ps = given)
      (Action.ofResult ((Except.ok given : Except Fault (List Path)).mapError .fault))
      (Action.ofResult ((Except.ok given : Except Fault (List Path)).mapError .fault)) :=
    fun _ _ hst => ⟨.ok ⟨rfl, rfl⟩, hst⟩
  refine htaken.bind ?_
  rintro _ _ ⟨rfl, rfl⟩
  refine (Agree.forEach fun p hp => ?_).bind_eq fun _ => agree_pure rfl
  exact hapart.agree_outlineAt patterns (hgiven p hp)

/-! ### Records -/

theorem agree_calculate (o : SourceOutline) (c : Calculation α) :
    Agree (Writes Fit hidden first output new) Eq (Scene.calculate o c) (Scene.calculate o c) := by
  rintro s _ ⟨disk, hdisk, rfl⟩
  unfold Scene.calculate
  dsimp only
  rcases c ⟨o, s.notes, []⟩ with ⟨result, done⟩
  have hnotes : Writing Fit hidden first output new { s with notes := done.notes } disk :=
    ⟨hdisk.fit, hdisk.here, hdisk.logging, hdisk.records, hdisk.same, hdisk.file⟩
  have hscene : Writes Fit hidden first output new (s.analysed done)
      (Scene.analysed { s with disk, lineFile := ⟨output, true, new.length⟩ } done) :=
    hapart.loggedAll ⟨disk, hnotes, rfl⟩ done.journal
  cases result with
  | error f => exact ⟨.error f, hscene⟩
  | ok a => exact ⟨.ok rfl, hscene⟩

/-- **A record is added to the file**, as one more line. -/
theorem receive (h : Writes Fit hidden first output new s t) (r : TypeRecord) :
    ∃ t', Sink.lineFile.receive (.record r) t = (.ok (), t') ∧
      Writes Fit hidden first output (new ++ [.record r]) s t' := by
  obtain ⟨disk, hdisk, rfl⟩ := h
  obtain ⟨rs, hrs⟩ := hdisk.records
  obtain ⟨d', happend, hfile, hunreadable, hfind⟩ :=
    hdisk.file.append (Text.encode (LineFile.lineOf (.record r)).toList)
  have hline : LineFile.textOf [.record r] = (LineFile.lineOf (.record r)).toList := List.append_nil _
  have htext : Text.encode (LineFile.textOf (new ++ [.record r])) =
      Text.encode (LineFile.textOf new) ++ Text.encode (LineFile.lineOf (.record r)).toList := by
    rw [LineFile.textOf_append, hline]
    exact List.flatMap_append
  let opened : Scene σ := { s with disk, lineFile := ⟨output, true, new.length⟩ }
  have hopen : LineFile.open opened = (.ok (), opened) := if_pos rfl
  refine ⟨{ s with disk := d', lineFile := ⟨output, true, new.length + 1⟩ }, ?_, d', ?_, ?_⟩
  · refine bind_ok_iff.2 ⟨(), opened, hopen, ?_⟩
    unfold LineFile.write
    dsimp only
    rw [hdisk.here, happend]
  · refine
      { hdisk with
        records := ⟨rs ++ [r], by rw [hrs, List.map_append]; rfl⟩
        same := ⟨hunreadable.trans hdisk.same.unreadable, fun names hnames => ?_⟩
        file := by rw [htext]; exact hfile }
    -- the line stands at a hidden place
    rw [hfind names, hdisk.same.find? names hnames]
    rintro rfl
    exact hnames hapart.output
  · rw [List.length_append]
    rfl

/-- **In the end the file holds what was handed over**, and it is closed. -/
theorem closed (h : Writes Fit hidden first output new s t) :
    (LineFile.close t).lineFile = ⟨output, false, new.length⟩ ∧
      (LineFile.close t).disk.entryAt (LineFile.close t).here output =
        some (.file (Text.encode (LineFile.textOf new))) := by
  obtain ⟨disk, hdisk, rfl⟩ := h
  refine LineFile.close_of_open rfl ?_ ?_
  · intro handler hmem file htarget
    have hmem' : handler ∈ first.logging.handlers := by
      rw [← hdisk.logging]
      exact hmem
    have hne := (hapart.logs handler hmem' file htarget).place_ne hapart.output
    rw [← hdisk.here] at hne
    exact hne
  · have hentry := hdisk.file.entry
    rw [← hdisk.here] at hentry
    exact hentry

end Scene.Apart

/-! ## Two worlds -/

/-- **The world of a run that writes what is handed over**, beside the world of one that does not. Before
    both of them `base` had been handed over. -/
abbrev WritesBeside (git : Git σ) (Fit : σ → Prop) (hidden : List String → Prop) (first : Scene σ)
    (root output : Path) (base : List Emission) : World σ → World σ → Prop :=
  Beside (Writes Fit hidden first output) id (HeldApart hidden first root) git base

namespace Scene.Apart

variable (hapart : first.Apart git Fit hidden root output) {base : List Emission}

include hapart

theorem blind_session :
    Session.Blind (· = root) (HeldApart hidden first root)
      (WritesBeside git Fit hidden first root output base) :=
  blind_beside hapart.blind

/-- The files of a commit are listed by paths in the working tree. -/
theorem listed {w v w' : World σ} {commit : String} {paths : List String}
    (h : WritesBeside git Fit hidden first root output base w v)
    (hfiles : Session.files commit w = (.ok paths, w')) :
    ∀ p ∈ paths, (Path.ofText p).root = "" := by
  obtain ⟨rfl, -, t, new, ⟨disk, hdisk, -⟩, -, -⟩ := h
  obtain ⟨held, w₁, hhandles, hbody⟩ := bind_ok_iff.1 hfiles
  obtain ⟨text, w₂, hrun, hpure⟩ := bind_ok_iff.1 (guarded_ok_iff.1 hbody)
  have hw₁ : w₁ = w := by
    unfold Session.handles at hhandles
    split at hhandles
    · cases hhandles
      rfl
    · cases hhandles
  subst hw₁
  obtain ⟨d, octets, errors, hfinished, rfl⟩ := Repository.run_ok (renamed_ok_iff.1 hrun)
  cases hpure
  exact hapart.lists hdisk.fit rfl hfinished

/-- **The files of a commit are read alike.** -/
theorem agree_parse {m m' : Miner σ} {patterns : List Value}
    (hprovider : m.provider = Python.provider patterns) (hsame : m'.provider = m.provider)
    (commit : String) :
    Agree (WritesBeside git Fit hidden first root output base) Eq (m.parse commit) (m'.parse commit) := by
  refine hapart.blind_session.agree_root.bind ?_
  rintro folder _ ⟨rfl, h, ⟨hroot, -⟩, rfl⟩
  refine ((hapart.blind_session.agree_files commit).returning hapart.listed).bind ?_
  rintro paths _ ⟨rfl, hpaths⟩
  rw [hsame, hprovider, hroot]
  exact agree_onScene fun new => Miner.agree_withFaults (hapart.agree_outlines patterns hpaths) _

theorem agree_measured (o : SourceOutline) (c : Calculation α) :
    Agree (WritesBeside git Fit hidden first root output base) Eq (World.onScene (Scene.calculate o c))
      (World.onScene (Scene.calculate o c)) :=
  agree_onScene fun _ => hapart.agree_calculate o c

theorem agree_recordsOfOutline {m m' : Miner σ} (hengine : m'.engine = m.engine)
    (hdetectors : m'.detectors = m.detectors) (c : Commit) (o : SourceOutline) :
    Agree (WritesBeside git Fit hidden first root output base) Eq (m.recordsOfOutline c o)
      (m'.recordsOfOutline c o) := by
  unfold Miner.recordsOfOutline Miner.smellsOf
  rw [hengine, hdetectors]
  refine (Miner.agree_during (hapart.agree_measured o _) _ _).bind_eq fun measured => ?_
  refine Agree.bind_eq ?_ fun _ => agree_pure rfl
  split
  · exact agree_pure rfl
  · exact Miner.agree_during (hapart.agree_measured _ _) _ _

theorem agree_recordsOfAll {m m' : Miner σ} (hengine : m'.engine = m.engine)
    (hdetectors : m'.detectors = m.detectors) (c : Commit) (os : List SourceOutline) :
    Agree (WritesBeside git Fit hidden first root output base) Eq (m.recordsOfAll c os)
      (m'.recordsOfAll c os) := by
  induction os with
  | nil => exact agree_pure rfl
  | cons o os ih =>
    refine (hapart.agree_recordsOfOutline hengine hdetectors c o).bind_eq fun rs => ?_
    exact ih.bind_eq fun rest => agree_pure rfl

/-- **A record is kept in one run and written in the other.** -/
theorem agree_handOver (r : TypeRecord) :
    Agree (WritesBeside git Fit hidden first root output base) Eq
      (Sink.memory.handOver (.record r)) (Sink.lineFile.handOver (.record r)) := by
  rintro w _ ⟨hgit, hheld, t, new, hst, hnew, rfl⟩
  obtain ⟨t', hreceive, hst'⟩ := hapart.receive hst r
  rw [Sink.handOver_of_receive rfl, Sink.handOver_of_receive hreceive]
  refine ⟨.ok rfl, hgit, hheld, t', new ++ [.record r], hst', ?_, ?_⟩
  · rw [hnew, List.append_assoc]
  · rw [id, id, ← List.append_assoc]

theorem agree_emitAll (rs : List TypeRecord) :
    Agree (WritesBeside git Fit hidden first root output base) Eq (Miner.emitAll .memory rs)
      (Miner.emitAll .lineFile rs) := by
  induction rs with
  | nil => exact agree_pure rfl
  | cons r rs ih => exact (hapart.agree_handOver r).bind_eq fun _ => ih

/-- **The two miners do the same work.** -/
theorem twins {m : Miner σ} {patterns : List Value} (hprovider : m.provider = Python.provider patterns)
    (hsink : m.sink = .memory) {path : String} (hroot : .resolved first.here (.ofText path) = root) :
    Miner.Twins (WritesBeside git Fit hidden first root output base) Eq m { m with sink := .lineFile }
      path where
  failFast := rfl
  length h := by rw [h]
  opens := by
    refine hapart.blind_session.agree_open _ _ ?_
    rintro w _ ⟨-, -, t, new, ⟨disk, hdisk, -⟩, -, -⟩
    rw [hdisk.here]
    exact hroot
  parses := hapart.agree_parse hprovider rfl
  measures := hapart.agree_recordsOfAll rfl rfl
  emits id rs _ hrs := by
    subst hrs
    unfold Miner.emit
    rw [hsink]
    exact Miner.agree_withFaults (hapart.agree_emitAll rs) _

/-- **Whole runs** end in the same way, and all that was handed over stands in the file. -/
theorem agree_mine {m : Miner σ} {patterns : List Value}
    (hprovider : m.provider = Python.provider patterns) (hsink : m.sink = .memory) {path : String}
    (hroot : .resolved first.here (.ofText path) = root) (selection : Selection)
    (failFast : Option Bool) :
    Agree (WritesBeside git Fit hidden first root output base) Eq (m.mine path selection failFast)
      (Miner.mine { m with sink := .lineFile } path selection failFast) :=
  (hapart.twins hprovider hsink hroot).agree_mine hapart.blind_session selection failFast

end Scene.Apart

end Runs

end HistoryMetrics
