import HistoryMetrics.Proofs.Disk.Path
import HistoryMetrics.Proofs.Disk.Placement
import HistoryMetrics.Python.Provider
import Mathlib

/-! # Selected files of a working tree

    The files of a tree are looked at in one of two ways: all that stand below the folder, or those whose
    paths are given. Either way each file counts for itself: what it is, and what is made of it, does not
    depend on the others. So the outlines of selected files are those of the whole tree, in the same order,
    without the outlines of other files.

    There is one way in which a file that is missing does more than to have no outline: the system does not
    take paths with a name that is too long, and looking at the first such path ends it all with a fault.

    The provider logs a warning about each file that is not Python. The log must not go to a Python file of
    the tree, as the tree would then change while it is read.

    - `IsSource`, `WorkingTree`: the files that are looked at, and what is asked of the tree
    - `Shows`, `Stops`: files with an outline, and files whose paths are not taken
    - `outlineOf?`, `faultOf?`: what is made of one file
    - `Alike.logged`, `outlineAt_eq`, `forEach_outlineAt`: one file, and all of them
    - `outlines_eq`: the outlines of a whole tree or of selected files
    - `outlines_of_selected_files`: the main statement
-/

namespace HistoryMetrics

open Python

namespace Python

variable {σ : Type} {root path : Path} {s t : Scene σ} {patterns : List String}

/-! ## Working trees -/

/-- **A path that is looked at**: a relative one that is not hidden and has the name of a Python file. -/
structure IsSource (path : Path) : Prop where
  relative : path.root = ""
  named : isSourceName (path.parts.getLastD "") = true
  shown : Exclusion.isHidden path = false

/-- **A working tree.** No place has two entries, and the entries have the names that files can have. The
    system takes the path of the folder, and those of all Python files below it. These files can be read,
    and no log is written to them. -/
structure WorkingTree (root : Path) (s : Scene σ) : Prop where
  nodup : (s.disk.entries.map Prod.fst).Nodup
  names : ∀ names ∈ s.disk.entries.map Prod.fst, ∀ name ∈ names, Path.IsName name
  rootTaken : ∃ there, s.disk.isThere s.here root = .ok there
  taken : ∀ path, IsSource path → Disk.place s.here (root.join path) ∈ s.disk.entries.map Prod.fst →
    ∃ isFile, s.disk.isFile s.here (root.join path) = .ok isFile
  readable : ∀ path octets, IsSource path →
    s.disk.entryAt s.here (root.join path) = some (.file octets) →
      Disk.place s.here (root.join path) ∉ s.disk.unreadable
  logsAside : ∀ h ∈ s.logging.handlers, ∀ file, h.target = .file file → ∀ path, IsSource path →
    Disk.place s.here file ≠ Disk.place s.here (root.join path)

/-- **A relative path as it is written**, without anything that does not count. -/
structure IsNormalised (file : String) : Prop where
  relative : (Path.ofText file).root = ""
  text : (Path.ofText file).text = file

/-- **A file is looked at** if it has the name of a Python file, is not hidden and fits no pattern. -/
structure IsLookedAt (patterns : List String) (file : String) : Prop where
  named : isSourceName file = true
  shown : ∀ part ∈ (Path.ofText file).parts, part.startsWith "." = false
  included : ∀ pattern ∈ patterns, Pattern.fitsText pattern file = false

/-- **A file shows an outline** if it is looked at, and is a file with a text that has this outline. -/
structure Shows (patterns : List String) (root : Path) (s : Scene σ) (file : String)
    (o : SourceOutline) : Prop extends IsLookedAt patterns file where
  parsed : ∃ octets, s.disk.entryAt s.here (root.join (.ofText file)) = some (.file octets) ∧
    sourceOutline (sourceText octets) file = .ok o

/-- **A file stops the provider** if it is looked at, and the system does not take its path. -/
structure Stops (patterns : List String) (root : Path) (s : Scene σ) (file : String)
    (e : PathFault) : Prop extends IsLookedAt patterns file where
  refused : s.disk.isFile s.here (root.join (.ofText file)) = .error e

/-! ## Names and places -/

theorem isSourceName_iff (name : String) :
    isSourceName name = true ↔ ['.', 'p', 'y'] <:+ name.toList := by
  rw [isSourceName, String.endsWith_eq_endsWith_toSlice, String.Slice.endsWith_string_iff,
    String.copy_toSlice]
  rfl

/-- A path has the name of a Python file just when its last name is one. -/
theorem isSourceName_text {names : List String} (hne : names ≠ []) :
    isSourceName (Path.text ⟨"", names⟩) = isSourceName (names.getLastD "") := by
  rw [Bool.eq_iff_iff, isSourceName_iff, isSourceName_iff]
  exact Path.suffix_text_iff (by decide) hne

theorem IsSource.parts_ne_nil (h : IsSource path) : path.parts ≠ [] := by
  intro hnil
  have hnamed := h.named
  rw [hnil, isSourceName_iff] at hnamed
  exact absurd hnamed (by decide)

/-- The last name of a given path is the name of a Python file if the path is. -/
theorem named_ofText {file : String} (hfile : IsNormalised file) (hnamed : isSourceName file = true) :
    isSourceName ((Path.ofText file).parts.getLastD "") = true := by
  have hpath : Path.ofText file = ⟨"", (Path.ofText file).parts⟩ := by
    rw [← hfile.relative]
  have hne : (Path.ofText file).parts ≠ [] := by
    intro hnil
    have htext := hfile.text
    rw [hpath, hnil] at htext
    rw [← htext, isSourceName_iff] at hnamed
    exact absurd hnamed (by decide)
  rw [← isSourceName_text hne, ← hpath, hfile.text]
  exact hnamed

theorem place_join (h : IsSource path) :
    Disk.place s.here (root.join path) = Disk.place s.here root ++ path.parts := by
  have hshown : ∀ part ∈ path.parts, part.startsWith "." = false := by
    simpa [Exclusion.isHidden] using h.shown
  rw [Path.join_of_relative h.relative, Disk.place, List.foldl_append,
    Path.foldl_follow (Path.dots_not_mem hshown)]
  rfl

theorem walk_append (d : Disk) (start xs ys : List String) :
    d.walk start (xs ++ ys) = (d.walk start xs).bind fun folder => d.walk folder ys := by
  induction xs generalizing start with
  | nil => rfl
  | cons x xs ih =>
    rw [List.cons_append, Disk.walk, Disk.walk]
    split
    · split
      · rfl
      · exact ih _
    · rfl
    · rfl

/-- What stands at a place leads to an answer, and so do faults that only mean that nothing does. -/
theorem isThere_ok_iff {d : Disk} {here p : Path} :
    (∃ there, d.isThere here p = .ok there) ↔
      ∀ e, d.locate here p = .error e → e.isAbsence = true := by
  unfold Disk.isThere Disk.lookAt
  cases d.locate here p with
  | ok names => simp [Except.map]
  | error e =>
    cases he : e.isAbsence with
    | true => simp [he, Except.map]
    | false => simp [he, Except.map]

/-- A path below a folder leads somewhere only if the path to the folder does. -/
theorem exists_locate_of_join {d : Disk} {here : Path} {names : List String} (h : path.root = "")
    (hroot : ∃ there, d.isThere here root = .ok there)
    (hlocate : d.locate here (root.join path) = .ok names) :
    ∃ folder, d.locate here root = .ok folder := by
  rw [Path.join_of_relative h] at hlocate
  obtain ⟨htaken, hwalk⟩ := Disk.locate_ok_iff.1 hlocate
  cases hfolder : d.locate here root with
  | ok folder => exact ⟨folder, rfl⟩
  | error e =>
    exfalso
    have habsent := isThere_ok_iff.1 hroot e hfolder
    unfold Disk.locate at hfolder
    cases hrefusal : Disk.refusal? root with
    | some e' =>
      -- only a null character is an absence, and the longer path has it as well
      rw [hrefusal] at hfolder
      cases hfolder
      unfold Disk.refusal? at hrefusal htaken
      have hnull : Disk.holdsNull root = true := by
        by_contra hnull
        rw [if_neg hnull] at hrefusal
        split at hrefusal
        · cases hrefusal
          cases habsent
        · cases hrefusal
      rw [if_pos] at htaken
      · cases htaken
      · rw [Disk.holdsNull, List.any_append, Bool.or_eq_true]
        exact .inl hnull
    | none =>
      have hstart : Disk.startOf here ⟨root.root, root.parts ++ path.parts⟩ =
          Disk.startOf here root := rfl
      simp only [hrefusal] at hfolder
      rw [hstart, walk_append, hfolder] at hwalk
      cases hwalk

/-! ## One file -/

/-- **What is made of one file**, if anything. -/
def outlineOf? (patterns : List String) (root : Path) (s : Scene σ) (path : Path) :
    Option SourceOutline :=
  if Exclusion.isHidden path || patterns.any fun pattern => Pattern.fitsText pattern path.text then none
  else match s.disk.entryAt s.here (root.join path) with
    | some (.file octets) => (sourceOutline (sourceText octets) path.text).toOption
    | _ => none

/-- **The fault that looking at a file ends in**, if the system does not take its path. -/
def faultOf? (patterns : List String) (root : Path) (s : Scene σ) (path : Path) : Option Fault :=
  if Exclusion.isHidden path || patterns.any fun pattern => Pattern.fitsText pattern path.text then none
  else match s.disk.isFile s.here (root.join path) with
    | .ok _ => none
    | .error e => some (e.toFault (root.join path).text)

theorem skipped_eq_false :
    (Exclusion.isHidden path || patterns.any fun pattern => Pattern.fitsText pattern path.text) = false ↔
      Exclusion.isHidden path = false ∧
        ∀ pattern ∈ patterns, Pattern.fitsText pattern path.text = false := by
  rw [Bool.or_eq_false_iff, List.any_eq_false]
  simp

theorem path_of_sourceOutline {source text : String} {o : SourceOutline}
    (h : sourceOutline source text = .ok o) : o.path = text := by
  unfold sourceOutline at h
  simp only at h
  split at h
  · cases h
  · split at h
    · cases h
    · split at h
      · cases h
      · cases h
        rfl

theorem outlineOf?_eq_some {o : SourceOutline} :
    outlineOf? patterns root s path = some o ↔
      Exclusion.isHidden path = false ∧
        (∀ pattern ∈ patterns, Pattern.fitsText pattern path.text = false) ∧
        ∃ octets, s.disk.entryAt s.here (root.join path) = some (.file octets) ∧
          sourceOutline (sourceText octets) path.text = .ok o := by
  unfold outlineOf?
  rw [← and_assoc, ← skipped_eq_false]
  cases Exclusion.isHidden path || patterns.any fun pattern => Pattern.fitsText pattern path.text with
  | true => simp
  | false =>
    simp only [Bool.false_eq_true, if_false, true_and]
    constructor
    · intro h
      split at h
      · next octets hentry =>
        refine ⟨octets, hentry, ?_⟩
        cases houtline : sourceOutline (sourceText octets) path.text with
        | error e =>
          rw [houtline] at h
          cases h
        | ok o' =>
          rw [houtline] at h
          cases h
          rfl
      · cases h
    · rintro ⟨octets, hentry, houtline⟩
      rw [hentry]
      simp only [houtline]
      rfl

/-- A file has a fault just if it is not skipped and its path is not taken. -/
theorem faultOf?_eq_some {f : Fault} :
    faultOf? patterns root s path = some f ↔
      Exclusion.isHidden path = false ∧
        (∀ pattern ∈ patterns, Pattern.fitsText pattern path.text = false) ∧
        ∃ e, s.disk.isFile s.here (root.join path) = .error e ∧
          e.toFault (root.join path).text = f := by
  unfold faultOf?
  rw [← and_assoc, ← skipped_eq_false]
  cases Exclusion.isHidden path || patterns.any fun pattern => Pattern.fitsText pattern path.text with
  | true => simp
  | false => cases s.disk.isFile s.here (root.join path) <;> simp

theorem outlineOf?_path {o : SourceOutline} (h : outlineOf? patterns root s path = some o) :
    o.path = path.text := by
  obtain ⟨-, -, octets, -, houtline⟩ := outlineOf?_eq_some.1 h
  exact path_of_sourceOutline houtline

theorem isLookedAt_iff {file : String} (hfile : IsNormalised file) (hnamed : isSourceName file = true) :
    IsLookedAt patterns file ↔ Exclusion.isHidden (.ofText file) = false ∧
      ∀ pattern ∈ patterns, Pattern.fitsText pattern (Path.ofText file).text = false := by
  rw [hfile.text]
  constructor
  · intro h
    exact ⟨by simpa [Exclusion.isHidden] using h.shown, h.included⟩
  · rintro ⟨hshown, hpatterns⟩
    exact ⟨hnamed, by simpa [Exclusion.isHidden] using hshown, hpatterns⟩

theorem outlineOf?_ofText {file : String} {o : SourceOutline} (hfile : IsNormalised file)
    (hnamed : isSourceName file = true) :
    outlineOf? patterns root s (.ofText file) = some o ↔ Shows patterns root s file o := by
  rw [outlineOf?_eq_some, ← and_assoc, ← isLookedAt_iff hfile hnamed, hfile.text]
  exact ⟨fun h => ⟨h.1, h.2⟩, fun h => ⟨h.toIsLookedAt, h.parsed⟩⟩

theorem faultOf?_ofText {file : String} {f : Fault} (hfile : IsNormalised file)
    (hnamed : isSourceName file = true) :
    faultOf? patterns root s (.ofText file) = some f ↔
      ∃ e, Stops patterns root s file e ∧ e.toFault (root.join (.ofText file)).text = f := by
  rw [faultOf?_eq_some, ← and_assoc, ← isLookedAt_iff hfile hnamed]
  constructor
  · rintro ⟨hlooked, e, hrefused, hf⟩
    exact ⟨e, ⟨hlooked, hrefused⟩, hf⟩
  · rintro ⟨e, hstops, hf⟩
    exact ⟨hstops.toIsLookedAt, e, hstops.refused, hf⟩

/-! ## One step -/

theorem skips_texts (patterns : List String) (path : Path) :
    Exclusion.skips (patterns.map .text) path =
      .ok (Exclusion.isHidden path || patterns.any fun pattern => Pattern.fitsText pattern path.text) := by
  have hany : ∀ text, Exclusion.fitsAny text (patterns.map .text) =
      .ok (patterns.any fun pattern => Pattern.fitsText pattern text) := by
    intro text
    induction patterns with
    | nil => rfl
    | cons pattern rest ih =>
      rw [List.map_cons, Exclusion.fitsAny, List.any_cons, Exclusion.fitsPattern]
      cases Pattern.fitsText pattern text with
      | true => rfl
      | false => exact ih
  unfold Exclusion.skips
  by_cases hhidden : Exclusion.isHidden path = true
  · rw [if_pos hhidden, hhidden]
    rfl
  · rw [if_neg hhidden, hany]
    rw [Bool.not_eq_true] at hhidden
    rw [hhidden]
    rfl

/-- **Two scenes with the same Python files** below a folder, and with the same log. -/
structure Alike (root : Path) (s t : Scene σ) : Prop where
  here : t.here = s.here
  logging : t.logging = s.logging
  unreadable : t.disk.unreadable = s.disk.unreadable
  lookAt : ∀ path, IsSource path →
    t.disk.lookAt t.here (root.join path) = s.disk.lookAt s.here (root.join path)

theorem Alike.refl (root : Path) (s : Scene σ) : Alike root s s := ⟨rfl, rfl, rfl, fun _ _ => rfl⟩

theorem Alike.logged (htree : WorkingTree root s) (h : Alike root s t) (r : LogRecord) :
    Alike root s (t.logged r) := by
  unfold Scene.logged
  by_cases hlets : t.logging.letsThrough r = true
  · rw [if_pos hlets]
    have hunreadable := Logging.unreadable_foldl_written t.time r t.here t.disk (t.logging.receivers r)
    refine ⟨h.here, h.logging, hunreadable.trans h.unreadable, ?_⟩
    intro path hpath
    rw [← h.lookAt path hpath]
    apply Logging.lookAt_foldl_written
    intro handler hmem file htarget
    rw [Logging.receivers, if_pos hlets, h.logging] at hmem
    rw [h.here]
    exact htree.logsAside handler (List.mem_of_mem_filter hmem) file htarget path hpath
  · rw [if_neg hlets]
    exact h

/-- **One file is looked at**: what is made of it depends on this file only. -/
theorem outlineAt_eq (htree : WorkingTree root s) (h : Alike root s t) (hrelative : path.root = "")
    (hnamed : isSourceName (path.parts.getLastD "") = true) (patterns : List String) :
    (∃ f, faultOf? patterns root s path = some f ∧
      outlineAt (patterns.map .text) root path t = (.error (.fault f), t)) ∨
    faultOf? patterns root s path = none ∧
      ∃ t', outlineAt (patterns.map .text) root path t =
        (.ok (outlineOf? patterns root s path), t') ∧ Alike root s t' := by
  unfold outlineAt outlineOf? faultOf?
  rw [skips_texts]
  by_cases hskip : (Exclusion.isHidden path ||
      patterns.any fun pattern => Pattern.fitsText pattern path.text) = true
  · simp only [hskip, if_true]
    exact .inr ⟨trivial, t, rfl, h⟩
  · rw [Bool.not_eq_true] at hskip
    have hsource : IsSource path := ⟨hrelative, hnamed, (Bool.or_eq_false_iff.1 hskip).1⟩
    have hlook := h.lookAt path hsource
    have hentry : s.disk.entryAt s.here (root.join path) =
        (s.disk.lookAt s.here (root.join path)).toOption.join := Disk.entryAt_eq_lookAt
    simp only [hskip, Bool.false_eq_true, if_false, Disk.isFile, hlook]
    cases hfile : s.disk.lookAt s.here (root.join path) with
    | error e => exact .inl ⟨_, rfl, rfl⟩
    | ok entry =>
      refine .inr ⟨rfl, ?_⟩
      rw [hfile] at hentry hlook
      cases entry with
      | none =>
        simp only [hentry]
        exact ⟨t, rfl, h⟩
      | some entry =>
        cases entry with
        | folder =>
          simp only [hentry]
          exact ⟨t, rfl, h⟩
        | file octets =>
          -- the file can be read, so what is in it decides
          have hentry' : t.disk.entryAt t.here (root.join path) = some (.file octets) := by
            rw [Disk.entryAt_eq_lookAt, hlook]
            rfl
          obtain ⟨hlocate, hfind⟩ := Disk.entryAt_eq_some hentry'
          have hreadable := htree.readable path octets hsource hentry
          rw [← h.here, ← h.unreadable] at hreadable
          have hread : t.disk.read t.here (root.join path) = .ok octets := by
            simp only [Disk.read, hlocate, List.contains_iff_mem, hreadable, if_false, hfind]
          simp only [hread, hentry, Except.map, Option.any, Entry.isFile]
          cases houtline : sourceOutline (sourceText octets) path.text with
          | ok o => exact ⟨t, by simp [Except.toOption, houtline], h⟩
          | error e =>
            exact ⟨t.logged (skipped path e), by simp [Except.toOption, houtline], h.logged htree _⟩

/-- **All files are looked at**, each for itself, up to the first whose path is not taken. -/
theorem forEach_outlineAt (htree : WorkingTree root s) (h : Alike root s t) (patterns : List String)
    {ps : List Path} (hps : ∀ p ∈ ps, p.root = "" ∧ isSourceName (p.parts.getLastD "") = true) :
    (Action.forEach (outlineAt (patterns.map .text) root) ps t).1 =
      match ps.findSome? (faultOf? patterns root s) with
      | some f => .error (.fault f)
      | none => .ok (ps.map (outlineOf? patterns root s)) := by
  induction ps generalizing t with
  | nil => rfl
  | cons p ps ih =>
    obtain ⟨hp, hrest⟩ := List.forall_mem_cons.1 hps
    rcases outlineAt_eq htree h hp.1 hp.2 patterns with ⟨f, hf, hstop⟩ | ⟨hnone, u, hu, halike⟩
    · simp only [Action.forEach, hstop, List.findSome?_cons, hf]
    · have htail := ih halike hrest
      simp only [Action.forEach, hu, List.findSome?_cons, hnone]
      cases hend : Action.forEach (outlineAt (patterns.map .text) root) ps u with
      | mk r t' =>
        rw [hend] at htail
        dsimp only at htail
        rw [htail]
        cases ps.findSome? (faultOf? patterns root s) with
        | some f => rfl
        | none => rfl

/-! ## All files -/

/-- The system takes the path of the folder, so what is below it is found. -/
theorem sourcesBelow_ok (htree : WorkingTree root s) :
    ∃ below, sourcesBelow s.disk s.here root = .ok below := by
  unfold sourcesBelow
  cases hfolder : s.disk.locate s.here root with
  | ok folder => exact ⟨_, rfl⟩
  | error e =>
    have habsent := isThere_ok_iff.1 htree.rootTaken e hfolder
    simp only [habsent, if_true]
    exact ⟨_, rfl⟩

theorem mem_sourcesBelow {below : List Path} (h : sourcesBelow s.disk s.here root = .ok below) :
    path ∈ below ↔ ∃ folder, s.disk.locate s.here root = .ok folder ∧ path.root = "" ∧
      isSourceName (path.parts.getLastD "") = true ∧ path.parts ≠ [] ∧
        folder ++ path.parts ∈ s.disk.entries.map Prod.fst := by
  have hbelow : ∀ folder names, names ∈ s.disk.namesBelow folder ↔
      names ≠ [] ∧ folder ++ names ∈ s.disk.entries.map Prod.fst := by
    intro folder names
    rw [Disk.namesBelow, List.mem_filterMap]
    constructor
    · rintro ⟨whole, hwhole, hnames⟩
      by_cases hin : (folder.isPrefixOf whole && decide (folder.length < whole.length)) = true
      · rw [if_pos hin] at hnames
        cases hnames
        rw [Bool.and_eq_true, List.isPrefixOf_iff_prefix, decide_eq_true_eq] at hin
        obtain ⟨⟨names, rfl⟩, hlonger⟩ := hin
        rw [List.drop_left]
        refine ⟨?_, hwhole⟩
        rintro rfl
        simp at hlonger
      · rw [if_neg hin] at hnames
        cases hnames
    · rintro ⟨hne, hmem⟩
      refine ⟨folder ++ names, hmem, ?_⟩
      have hpos := List.length_pos_iff.2 hne
      rw [if_pos, List.drop_left]
      rw [Bool.and_eq_true, List.isPrefixOf_iff_prefix, decide_eq_true_eq, List.length_append]
      exact ⟨List.prefix_append _ _, by omega⟩
  unfold sourcesBelow at h
  cases hfolder : s.disk.locate s.here root with
  | error e =>
    simp only [hfolder] at h
    split at h
    · cases h
      simp
    · cases h
  | ok folder =>
    simp only [hfolder, Except.ok.injEq] at h
    simp only [← h, List.mem_map, List.mem_filter, hbelow, Except.ok.injEq, exists_eq_left']
    constructor
    · rintro ⟨names, ⟨⟨hne, hmem⟩, hnamed⟩, rfl⟩
      exact ⟨rfl, hnamed, hne, hmem⟩
    · rintro ⟨hrelative, hnamed, hne, hmem⟩
      refine ⟨path.parts, ⟨⟨hne, hmem⟩, hnamed⟩, ?_⟩
      rw [← hrelative]

/-- The paths below a folder are all different, as the places are. -/
theorem nodup_sourcesBelow (htree : WorkingTree root s) {below : List Path}
    (h : sourcesBelow s.disk s.here root = .ok below) : below.Nodup := by
  unfold sourcesBelow at h
  split at h
  · split at h
    · cases h
      exact List.nodup_nil
    · cases h
  · next folder _ =>
    cases h
    have hdrop : (s.disk.namesBelow folder).Nodup := by
      refine htree.nodup.filterMap ?_
      intro xs ys names hxs hys
      simp only [Option.mem_def, Option.ite_none_right_eq_some, Bool.and_eq_true,
        List.isPrefixOf_iff_prefix, Option.some.injEq] at hxs hys
      obtain ⟨⟨⟨below, rfl⟩, -⟩, hxs⟩ := hxs
      obtain ⟨⟨⟨below', rfl⟩, -⟩, hys⟩ := hys
      rw [List.drop_left] at hxs hys
      rw [hxs, hys]
    refine (hdrop.filter _).map ?_
    intro xs ys hpath
    exact (Path.mk.inj hpath).2

/-- A path below a folder is the path that its text names. -/
theorem ofText_text_of_below (htree : WorkingTree root s) {below : List Path}
    (h : sourcesBelow s.disk s.here root = .ok below) (hpath : path ∈ below) :
    Path.ofText path.text = path := by
  obtain ⟨folder, -, hrelative, -, hne, hmem⟩ := (mem_sourcesBelow h).1 hpath
  have hpath : path = ⟨"", path.parts⟩ := by
    rw [← hrelative]
  have hnames : ∀ name ∈ path.parts, Path.IsName name := by
    intro name hname
    exact htree.names _ hmem name (List.mem_append_right _ hname)
  rw [hpath]
  exact Path.ofText_text hne hnames

/-- **No path below the folder stops the provider**: the system takes them all. -/
theorem faultOf?_of_below (htree : WorkingTree root s) {below : List Path}
    (h : sourcesBelow s.disk s.here root = .ok below) (hpath : path ∈ below) :
    faultOf? patterns root s path = none := by
  by_contra hfault
  obtain ⟨f, hf⟩ := Option.ne_none_iff_exists'.1 hfault
  obtain ⟨hshown, -, e, hrefused, -⟩ := faultOf?_eq_some.1 hf
  obtain ⟨folder, hfolder, hrelative, hnamed, -, hmem⟩ := (mem_sourcesBelow h).1 hpath
  have hsource : IsSource path := ⟨hrelative, hnamed, hshown⟩
  rw [Disk.locate_ok hfolder, ← place_join hsource] at hmem
  obtain ⟨isFile, htaken⟩ := htree.taken path hsource hmem
  rw [hrefused] at htaken
  cases htaken

/-- A file of which something is made stands below the folder. -/
theorem below_of_outlineOf? (htree : WorkingTree root s) {below : List Path}
    (hbelow : sourcesBelow s.disk s.here root = .ok below) {o : SourceOutline} (hsource : IsSource path)
    (h : outlineOf? patterns root s path = some o) : path ∈ below := by
  obtain ⟨-, -, octets, hentry, -⟩ := outlineOf?_eq_some.1 h
  obtain ⟨hlocate, hfind⟩ := Disk.entryAt_eq_some hentry
  obtain ⟨folder, hfolder⟩ := exists_locate_of_join hsource.relative htree.rootTaken hlocate
  obtain rfl := Disk.locate_ok hfolder
  refine (mem_sourcesBelow hbelow).2
    ⟨_, hfolder, hsource.relative, hsource.named, hsource.parts_ne_nil, ?_⟩
  rw [place_join hsource] at hfind
  by_contra hmissing
  have hne : (Disk.place s.here root ++ path.parts).isEmpty = false := by
    simpa using fun _ => hsource.parts_ne_nil
  rw [Disk.find?, hne] at hfind
  rw [← Entries.lookup_eq_none_iff_names] at hmissing
  simp only [Bool.false_eq_true, if_false, hmissing] at hfind
  cases hfind

/-- The paths to look at among the given ones, in their order. -/
def selected (paths : List String) : List Path := Path.sorted ((paths.filter isSourceName).map .ofText)

theorem mem_selected {paths : List String} :
    path ∈ selected paths ↔ ∃ file ∈ paths, isSourceName file = true ∧ Path.ofText file = path := by
  simp only [selected, Path.mem_sorted, List.mem_map, List.mem_filter, and_assoc]

theorem eq_of_ofText_eq {file other : String} (hfile : IsNormalised file) (hother : IsNormalised other)
    (h : Path.ofText file = Path.ofText other) : file = other := by
  rw [← hfile.text, h, hother.text]

theorem nodup_selected {paths : List String} (hnodup : paths.Nodup)
    (hpaths : ∀ file ∈ paths, IsNormalised file) : (selected paths).Nodup := by
  rw [selected, Path.nodup_sorted]
  refine (hnodup.filter _).map_on ?_
  intro file hfile other hother h
  exact eq_of_ofText_eq (hpaths file (List.mem_of_mem_filter hfile))
    (hpaths other (List.mem_of_mem_filter hother)) h

/-- Selected paths are relative and have names of Python files, hidden ones included. -/
theorem named_of_mem_selected {paths : List String} (hpaths : ∀ file ∈ paths, IsNormalised file)
    (h : path ∈ selected paths) : path.root = "" ∧ isSourceName (path.parts.getLastD "") = true := by
  obtain ⟨file, hfile, hnamed, rfl⟩ := mem_selected.1 h
  exact ⟨(hpaths file hfile).relative, named_ofText (hpaths file hfile) hnamed⟩

/-- **The outlines of a tree or of selected files** are made of each of these files for itself, unless one
    of them stops the provider. -/
theorem outlines_eq (htree : WorkingTree root s) (patterns : List String) {paths : Option (List String)}
    {ps : List Path} (hcandidates : candidates s.disk s.here root paths = .ok ps)
    (hps : ∀ p ∈ ps, p.root = "" ∧ isSourceName (p.parts.getLastD "") = true) :
    ((provider (patterns.map .text)).outlines root paths s).1 =
      match ps.findSome? (faultOf? patterns root s) with
      | some f => .error (.fault f)
      | none => .ok (ps.filterMap (outlineOf? patterns root s)) := by
  have heach := forEach_outlineAt htree (Alike.refl root s) patterns hps
  simp only [provider, Action.bind_apply, Action.read, hcandidates, Except.mapError, Action.ofResult]
  cases hend : Action.forEach (outlineAt (patterns.map .text) root) ps s with
  | mk r t =>
    rw [hend] at heach
    dsimp only at heach
    rw [heach]
    cases ps.findSome? (faultOf? patterns root s) with
    | some f => rfl
    | none => simp [Action.pure_apply, List.filterMap_map]

/-- **The outlines of the whole tree**: nothing stops the provider. -/
theorem outlines_whole (htree : WorkingTree root s) (patterns : List String) {below : List Path}
    (hbelow : sourcesBelow s.disk s.here root = .ok below) :
    ((provider (patterns.map .text)).outlines root none s).1 =
      .ok ((Path.sorted below).filterMap (outlineOf? patterns root s)) := by
  have hcandidates : candidates s.disk s.here root none = .ok (Path.sorted below) := by
    rw [candidates, hbelow]
    rfl
  have hnone : (Path.sorted below).findSome? (faultOf? patterns root s) = none := by
    rw [List.findSome?_eq_none_iff]
    intro p hp
    exact faultOf?_of_below htree hbelow (Path.mem_sorted.1 hp)
  rw [outlines_eq htree patterns hcandidates, hnone]
  intro p hp
  obtain ⟨-, -, hrelative, hnamed, -⟩ := (mem_sourcesBelow hbelow).1 (Path.mem_sorted.1 hp)
  exact ⟨hrelative, hnamed⟩

/-! ## Selected files -/

theorem keys_of_relative (h : path.root = "") : path.keys = path.parts := by
  rw [Path.keys, Path.isAbsolute, h]
  rfl

theorem path_eq {p q : Path} (hp : p.root = "") (hq : q.root = "") (h : p.parts = q.parts) : p = q := by
  cases p
  cases q
  simp only at hp hq h
  rw [hp, hq, h]

/-- Ascending lists of different relative paths with the same members are the same list. -/
theorem eq_of_ascending_paths {xs ys : List Path} (hrelative : ∀ p ∈ xs, p.root = "")
    (hxs : xs.Pairwise fun p q => p.keys ≤ q.keys) (hys : ys.Pairwise fun p q => p.keys ≤ q.keys)
    (hxs' : xs.Nodup) (hys' : ys.Nodup) (h : ∀ p, p ∈ xs ↔ p ∈ ys) : xs = ys := by
  have hperm : xs.Perm ys := (List.perm_ext_iff_of_nodup hxs' hys').2 h
  refine hperm.eq_of_pairwise ?_ hxs hys
  intro p q hp hq hpq hqp
  have hkeys : p.keys = q.keys := le_antisymm hpq hqp
  have hp' := hrelative p hp
  have hq' := hrelative q ((h q).2 hq)
  rw [keys_of_relative hp', keys_of_relative hq'] at hkeys
  exact path_eq hp' hq' hkeys

/-- The paths of selected files, and the selected ones among the paths of all files, are the same, as far
    as something is made of them. -/
theorem filter_selected (htree : WorkingTree root s) {below : List Path}
    (hbelow : sourcesBelow s.disk s.here root = .ok below) {paths : List String} (hnodup : paths.Nodup)
    (hpaths : ∀ file ∈ paths, IsNormalised file) (patterns : List String) :
    (selected paths).filter (fun p => (outlineOf? patterns root s p).isSome) =
      ((Path.sorted below).filter fun p => paths.contains p.text).filter
        fun p => (outlineOf? patterns root s p).isSome := by
  apply eq_of_ascending_paths
  · intro p hp
    exact (named_of_mem_selected hpaths (List.mem_of_mem_filter hp)).1
  · exact (Path.pairwise_sorted _).filter _
  · exact ((Path.pairwise_sorted _).filter _).filter _
  · exact (nodup_selected hnodup hpaths).filter _
  · refine List.Nodup.filter _ (List.Nodup.filter _ ?_)
    exact Path.nodup_sorted.2 (nodup_sourcesBelow htree hbelow)
  · intro p
    rw [List.mem_filter, List.mem_filter, List.mem_filter, List.contains_iff_mem, mem_selected,
      Path.mem_sorted]
    constructor
    · rintro ⟨⟨file, hfile, hnamed, rfl⟩, hsome⟩
      obtain ⟨o, ho⟩ := Option.isSome_iff_exists.1 hsome
      have hnormalised := hpaths file hfile
      have hsource : IsSource (.ofText file) :=
        ⟨hnormalised.relative, named_ofText hnormalised hnamed, (outlineOf?_eq_some.1 ho).1⟩
      refine ⟨⟨below_of_outlineOf? htree hbelow hsource ho, ?_⟩, hsome⟩
      rwa [hnormalised.text]
    · rintro ⟨⟨hmem, hin⟩, hsome⟩
      obtain ⟨-, -, hrelative, hnamed, hne, -⟩ := (mem_sourcesBelow hbelow).1 hmem
      refine ⟨⟨p.text, hin, ?_, ofText_text_of_below htree hbelow hmem⟩, hsome⟩
      have hpath : p = ⟨"", p.parts⟩ := by
        rw [← hrelative]
      rw [hpath, isSourceName_text hne]
      exact hnamed

/-- What is made of some paths is made of those of which something is made. -/
theorem filterMap_filter_isSome {α β : Type} (f : α → Option β) (xs : List α) :
    (xs.filter fun x => (f x).isSome).filterMap f = xs.filterMap f := by
  rw [List.filterMap_filter]
  apply List.filterMap_congr
  intro x _
  cases f x <;> rfl

/-- The outlines of some paths are the outlines of all paths, as far as theirs are among these. -/
theorem filter_filterMap_outlineOf? (paths : List String) (ps : List Path) :
    (ps.filterMap (outlineOf? patterns root s)).filter (fun o => paths.contains o.path) =
      (ps.filter fun p => paths.contains p.text).filterMap (outlineOf? patterns root s) := by
  rw [List.filter_filterMap, List.filterMap_filter]
  apply List.filterMap_congr
  intro p _
  cases ho : outlineOf? patterns root s p with
  | none => simp
  | some o =>
    rw [← outlineOf?_path ho]
    simp [Option.filter]

/-- The selected paths come in the order of their names, and none comes twice. -/
theorem pairwise_selected {paths : List String} (hnodup : paths.Nodup)
    (hpaths : ∀ file ∈ paths, IsNormalised file) :
    (selected paths).Pairwise fun p q => p.parts < q.parts := by
  have hstrict : (selected paths).Pairwise fun p q => p.keys ≤ q.keys ∧ p ≠ q :=
    (Path.pairwise_sorted _).and (nodup_selected hnodup hpaths)
  refine hstrict.imp_of_mem ?_
  intro p q hp hq hpq
  have hrelative := (named_of_mem_selected hpaths hp).1
  have hrelative' := (named_of_mem_selected hpaths hq).1
  rw [keys_of_relative hrelative, keys_of_relative hrelative'] at hpq
  exact lt_of_le_of_ne hpq.1 fun hparts => hpq.2 (path_eq hrelative hrelative' hparts)

/-- The order of a list has no effect on the order in which its files are looked at. -/
theorem selected_perm {paths paths' : List String} (hnodup : paths.Nodup)
    (hpaths : ∀ file ∈ paths, IsNormalised file) (hperm : paths'.Perm paths) :
    selected paths' = selected paths := by
  have hmem : ∀ p, p ∈ selected paths' ↔ p ∈ selected paths := by
    intro p
    simp only [mem_selected, hperm.mem_iff]
  have hpaths' : ∀ file ∈ paths', IsNormalised file := fun file hfile =>
    hpaths file (hperm.mem_iff.1 hfile)
  exact eq_of_ascending_paths (fun p hp => (named_of_mem_selected hpaths' hp).1)
    (Path.pairwise_sorted _) (Path.pairwise_sorted _)
    (nodup_selected (hperm.nodup_iff.2 hnodup) hpaths') (nodup_selected hnodup hpaths) hmem

/-- **What is made of selected files** if none of them stops the provider. -/
theorem outlines_selected (htree : WorkingTree root s) (patterns : List String) {paths : List String}
    (hpaths : ∀ file ∈ paths, IsNormalised file)
    (htaken : ∀ file ∈ paths, ∀ e, ¬ Stops patterns root s file e) :
    ((provider (patterns.map .text)).outlines root (some paths) s).1 =
      .ok ((selected paths).filterMap (outlineOf? patterns root s)) := by
  have hnone : (selected paths).findSome? (faultOf? patterns root s) = none := by
    rw [List.findSome?_eq_none_iff]
    intro p hp
    obtain ⟨file, hfile, hnamed, rfl⟩ := mem_selected.1 hp
    by_contra hfault
    obtain ⟨f, hf⟩ := Option.ne_none_iff_exists'.1 hfault
    obtain ⟨e, hstops, -⟩ := (faultOf?_ofText (hpaths file hfile) hnamed).1 hf
    exact htaken file hfile e hstops
  rw [outlines_eq htree patterns (show candidates _ _ _ (some paths) = .ok (selected paths) from rfl)
    fun p hp => named_of_mem_selected hpaths hp, hnone]

/-- **The first file that stops the provider ends it all** with its fault. -/
theorem outlines_stopped (htree : WorkingTree root s) (patterns : List String) {paths : List String}
    (hnodup : paths.Nodup) (hpaths : ∀ file ∈ paths, IsNormalised file) {file : String}
    (hfile : file ∈ paths) {e : PathFault} (hstops : Stops patterns root s file e)
    (hfirst : ∀ other ∈ paths, ∀ e', Stops patterns root s other e' →
      (Path.ofText file).parts ≤ (Path.ofText other).parts) :
    ((provider (patterns.map .text)).outlines root (some paths) s).1 =
      .error (.fault (e.toFault (root.join (.ofText file)).text)) := by
  have hfault : faultOf? patterns root s (.ofText file) = some (e.toFault (root.join (.ofText file)).text) :=
    (faultOf?_ofText (hpaths file hfile) hstops.named).2 ⟨e, hstops, rfl⟩
  obtain ⟨before, after, hsplit⟩ :=
    List.append_of_mem (mem_selected.2 ⟨file, hfile, hstops.named, rfl⟩)
  have hearlier : ∀ p ∈ before, faultOf? patterns root s p = none := by
    intro p hp
    have hascending := pairwise_selected hnodup hpaths
    rw [hsplit, List.pairwise_append] at hascending
    have hlt := hascending.2.2 p hp (.ofText file) List.mem_cons_self
    have hmem : p ∈ selected paths := by
      rw [hsplit]
      exact List.mem_append_left _ hp
    obtain ⟨other, hother, hnamed, rfl⟩ := mem_selected.1 hmem
    by_contra hfault'
    obtain ⟨f, hf⟩ := Option.ne_none_iff_exists'.1 hfault'
    obtain ⟨e', hstops', -⟩ := (faultOf?_ofText (hpaths other hother) hnamed).1 hf
    exact absurd (hfirst other hother e' hstops') (not_le.2 hlt)
  have hfound : (selected paths).findSome? (faultOf? patterns root s) =
      some (e.toFault (root.join (.ofText file)).text) := by
    rw [hsplit, List.findSome?_append, List.findSome?_eq_none_iff.2 hearlier, List.findSome?_cons, hfault]
    rfl
  rw [outlines_eq htree patterns (show candidates _ _ _ (some paths) = .ok (selected paths) from rfl)
    fun p hp => named_of_mem_selected hpaths hp, hfound]

/-- **Selected files of a tree have the outlines that they have in the whole tree.** For a working tree
    and a list of different relative paths of which none stops the provider, the provider makes of the
    listed files just those outlines that it makes of the whole tree and whose paths are in the list. They
    come in the order of the names of their paths, and none comes twice. There is one for each file of the
    list that shows it, so any other path of the list has no effect. The order of the list has no effect
    either, and what stands elsewhere in the tree has none. If paths of the list stop the provider, it ends
    with the fault of the first of them. -/
theorem outlines_of_selected_files (htree : WorkingTree root s) (patterns : List String) :
    ∃ whole, ((provider (patterns.map .text)).outlines root none s).1 = .ok whole ∧
      ∀ paths : List String, paths.Nodup → (∀ file ∈ paths, IsNormalised file) →
        ((∀ file ∈ paths, ∀ e, ¬ Stops patterns root s file e) →
          ∃ found, ((provider (patterns.map .text)).outlines root (some paths) s).1 = .ok found ∧
            found = whole.filter (fun o => paths.contains o.path) ∧
            found.Pairwise (fun o o' => (Path.ofText o.path).parts < (Path.ofText o'.path).parts) ∧
            (∀ o, o ∈ found ↔ ∃ file ∈ paths, Shows patterns root s file o) ∧
            (∀ paths', paths'.Perm paths →
              ((provider (patterns.map .text)).outlines root (some paths') s).1 = .ok found) ∧
            ∀ t : Scene σ, WorkingTree root t →
              (∀ file ∈ paths, t.disk.lookAt t.here (root.join (.ofText file)) =
                s.disk.lookAt s.here (root.join (.ofText file))) →
              ((provider (patterns.map .text)).outlines root (some paths) t).1 = .ok found) ∧
        ∀ file ∈ paths, ∀ e, Stops patterns root s file e →
          (∀ other ∈ paths, ∀ e', Stops patterns root s other e' →
            (Path.ofText file).parts ≤ (Path.ofText other).parts) →
          ((provider (patterns.map .text)).outlines root (some paths) s).1 =
            .error (.fault (e.toFault (root.join (.ofText file)).text)) := by
  obtain ⟨below, hbelow⟩ := sourcesBelow_ok htree
  refine ⟨_, outlines_whole htree patterns hbelow, ?_⟩
  intro paths hnodup hpaths
  refine ⟨?_, fun file hfile e hstops hfirst =>
    outlines_stopped htree patterns hnodup hpaths hfile hstops hfirst⟩
  intro htaken
  refine ⟨_, outlines_selected htree patterns hpaths htaken, ?_, ?_, ?_, ?_, ?_⟩
  · -- paths of which something is made are the same in both lists
    rw [filter_filterMap_outlineOf?, ← filterMap_filter_isSome,
      filter_selected htree hbelow hnodup hpaths patterns, filterMap_filter_isSome]
  · -- the paths ascend strictly, and an outline has the path of its file
    rw [List.pairwise_filterMap]
    refine (pairwise_selected hnodup hpaths).imp_of_mem ?_
    intro p q hp hq hpq o ho o' ho'
    obtain ⟨file, hfile, -, rfl⟩ := mem_selected.1 hp
    obtain ⟨file', hfile', -, rfl⟩ := mem_selected.1 hq
    rw [outlineOf?_path ho, outlineOf?_path ho', (hpaths file hfile).text, (hpaths file' hfile').text]
    exact hpq
  · intro o
    rw [List.mem_filterMap]
    constructor
    · rintro ⟨p, hp, ho⟩
      obtain ⟨file, hfile, hnamed, rfl⟩ := mem_selected.1 hp
      exact ⟨file, hfile, (outlineOf?_ofText (hpaths file hfile) hnamed).1 ho⟩
    · rintro ⟨file, hfile, hshows⟩
      exact ⟨.ofText file, mem_selected.2 ⟨file, hfile, hshows.named, rfl⟩,
        (outlineOf?_ofText (hpaths file hfile) hshows.named).2 hshows⟩
  · intro paths' hperm
    have hpaths' : ∀ file ∈ paths', IsNormalised file := fun file hfile =>
      hpaths file (hperm.mem_iff.1 hfile)
    have htaken' : ∀ file ∈ paths', ∀ e, ¬ Stops patterns root s file e := fun file hfile =>
      htaken file (hperm.mem_iff.1 hfile)
    rw [outlines_selected htree patterns hpaths' htaken', selected_perm hnodup hpaths hperm]
  · intro t htree' hsame
    have htaken' : ∀ file ∈ paths, ∀ e, ¬ Stops patterns root t file e := by
      intro file hfile e hstops
      refine htaken file hfile e ⟨hstops.toIsLookedAt, ?_⟩
      have hrefused := hstops.refused
      rwa [Disk.isFile, hsame file hfile, ← Disk.isFile] at hrefused
    rw [outlines_selected htree' patterns hpaths htaken']
    congr 1
    apply List.filterMap_congr
    intro p hp
    obtain ⟨file, hfile, -, rfl⟩ := mem_selected.1 hp
    unfold outlineOf?
    rw [Disk.entryAt_eq_lookAt, Disk.entryAt_eq_lookAt, hsame file hfile]

/-- A tree with a file that is not Python, a hidden file, a folder whose files are excluded, and a folder
    that has the name of a Python file. Everything is logged to a file beside the tree. -/
def sceneOfTree : Scene Unit where
  outside := ()
  disk :=
    { entries :=
        [(["repo"], .folder), (["repo", "b.py"], .file (Text.encode "class B(:".toList)),
          (["repo", "z.py"], .file []), (["repo", "a.py"], .file (Text.encode "class A: x = 1".toList)),
          (["repo", "p.py"], .folder), (["repo", "p.py", "c.py"], .file []),
          (["repo", ".git"], .folder), (["repo", ".git", "d.py"], .file []),
          (["repo", "old"], .folder), (["repo", "old", "e.py"], .file []), (["log.txt"], .file [])]
      unreadable := [] }
  here := ⟨"/", []⟩
  time := ""
  logging := ⟨.debug, [⟨.file ⟨"/", ["log.txt"]⟩, .debug⟩]⟩
  journal := []
  lineFile := default

/-- A path from the top with a few short names is taken. -/
theorem lookAt_sceneOfTree {names : List String} (hnames : ∀ name ∈ names, name.utf8ByteSize ≤ 255)
    (hlength : names.length ≤ 15) : ∃ e, sceneOfTree.disk.lookAt ⟨"/", []⟩ ⟨"/", names⟩ = .ok e := by
  apply Disk.lookAt_ok
  · apply Path.isLong_eq_false
    have hroot : "/".utf8ByteSize = 1 := rfl
    have hsum : (names.map fun name => name.utf8ByteSize + 1).sum ≤
        (names.map fun name => name.utf8ByteSize + 1).length * 256 := by
      apply List.sum_le_card_nsmul
      intro n hn
      obtain ⟨name, hname, rfl⟩ := List.mem_map.1 hn
      exact Nat.succ_le_succ (hnames name hname)
    rw [List.length_map] at hsum
    dsimp only
    omega
  · intro name hname
    rw [Path.isLongName_eq, decide_eq_false (Nat.not_lt.2 (hnames name hname))]

theorem workingTree_sceneOfTree : WorkingTree ⟨"/", ["repo"]⟩ sceneOfTree where
  nodup := by decide
  names := by
    intro names hnames name hname
    have hgood : ∀ name ∈ (sceneOfTree.disk.entries.map Prod.fst).flatten,
        name ≠ "" ∧ name ≠ "." ∧ '/' ∉ name.toList := by decide
    obtain ⟨hempty, hdot, hslash⟩ := hgood name (List.mem_flatten.2 ⟨names, hnames, hname⟩)
    exact ⟨hempty, hdot, hslash⟩
  rootTaken := by
    have hshort : ∀ name ∈ ["repo"], name.utf8ByteSize ≤ 255 := by decide
    obtain ⟨entry, hentry⟩ := lookAt_sceneOfTree hshort (by decide)
    refine ⟨entry.isSome, ?_⟩
    rw [Disk.isThere, show sceneOfTree.here = ⟨"/", []⟩ from rfl, hentry]
    rfl
  taken := by
    intro path hpath hmem
    rw [place_join hpath] at hmem
    have hshort : ∀ names ∈ sceneOfTree.disk.entries.map Prod.fst,
        (∀ name ∈ names, name.utf8ByteSize ≤ 255) ∧ names.length ≤ 15 := by decide +kernel
    obtain ⟨hnames, hlength⟩ := hshort _ hmem
    obtain ⟨entry, hentry⟩ := lookAt_sceneOfTree hnames hlength
    refine ⟨entry.any Entry.isFile, ?_⟩
    rw [Disk.isFile, Path.join_of_relative hpath.relative]
    exact congrArg (Except.map fun e => e.any Entry.isFile) hentry
  readable := by
    intro path octets _ _
    exact List.not_mem_nil
  logsAside := by
    intro h hh file hfile path hpath
    rw [place_join hpath]
    obtain rfl := List.mem_singleton.1 hh
    cases hfile
    show ["log.txt"] ≠ "repo" :: path.parts
    simp

/-- Some paths in that tree, and one where nothing stands, in the order of their names. -/
def filesOfTree : List String :=
  [".git/d.py", "a.py", "b.py", "none.py", "old/e.py", "p.py", "p.py/c.py"]

/-- The name of a Python file, with some letters after the first. -/
def longerName (n : Nat) : String := String.ofList ('a' :: List.replicate n 'a' ++ ['.', 'p', 'y'])

theorem toList_longerName (n : Nat) :
    (longerName n).toList = 'a' :: List.replicate n 'a' ++ ['.', 'p', 'y'] := String.toList_ofList

theorem isName_longerName (n : Nat) : Path.IsName (longerName n) := by
  have hlength : (longerName n).toList.length = n + 4 := by simp [toList_longerName]
  constructor
  · intro h
    simp [h] at hlength
  · intro h
    rw [h, show ".".toList = ['.'] from rfl, List.length_singleton] at hlength
    omega
  · simp [toList_longerName, List.mem_replicate]

theorem text_longerName (n : Nat) : Path.text ⟨"", [longerName n]⟩ = longerName n := by
  simp [Path.text]

theorem ofText_longerName (n : Nat) : Path.ofText (longerName n) = ⟨"", [longerName n]⟩ := by
  have hname : ∀ name ∈ [longerName n], Path.IsName name :=
    List.forall_mem_singleton.2 (isName_longerName n)
  have hpath := Path.ofText_text (List.cons_ne_nil _ _) hname
  rwa [text_longerName] at hpath

theorem isNormalised_longerName (n : Nat) : IsNormalised (longerName n) where
  relative := by rw [ofText_longerName]
  text := by rw [ofText_longerName, text_longerName]

theorem isNormalised_filesOfTree : ∀ file ∈ filesOfTree, IsNormalised file := by
  have hpaths : ∀ file ∈ filesOfTree,
      (Path.ofText file).root = "" ∧ (Path.ofText file).text = file := by decide +kernel
  intro file hfile
  exact ⟨(hpaths file hfile).1, (hpaths file hfile).2⟩

theorem not_stops_filesOfTree : ∀ file ∈ filesOfTree, ∀ e,
    ¬ Stops ["old/*"] ⟨"/", ["repo"]⟩ sceneOfTree file e := by
  have hshort : ∀ file ∈ filesOfTree,
      (∀ name ∈ "repo" :: (Path.ofText file).parts, name.utf8ByteSize ≤ 255) ∧
        ("repo" :: (Path.ofText file).parts).length ≤ 15 := by decide +kernel
  intro file hfile e hstops
  obtain ⟨hnames, hlength⟩ := hshort file hfile
  obtain ⟨entry, hentry⟩ := lookAt_sceneOfTree hnames hlength
  have hrefused := hstops.refused
  rw [Path.join_of_relative (isNormalised_filesOfTree file hfile).relative, Disk.isFile] at hrefused
  have htaken := congrArg (Except.map fun e => e.any Entry.isFile) hentry
  exact absurd (hrefused.symm.trans htaken) (by simp [Except.map])

theorem utf8ByteSize_longerName (n : Nat) : (longerName n).utf8ByteSize = n + 4 := by
  rw [← Text.byteLength_toList, toList_longerName]
  induction n with
  | zero => rfl
  | succ n ih =>
    rw [List.cons_append, Text.byteLength_cons] at ih ⊢
    rw [List.replicate_succ, List.cons_append, Text.byteLength_cons, ih, Text.charBytes,
      if_pos (by decide)]
    omega

/-- The way to a long name leads through a folder, and the name is not taken. -/
theorem lookAt_longerName {n : Nat} (hlow : 252 ≤ n) (hhigh : n ≤ 4000) :
    sceneOfTree.disk.lookAt sceneOfTree.here (Path.join ⟨"/", ["repo"]⟩ (.ofText (longerName n))) =
      .error .tooLong := by
  have hplain : ∀ part ∈ (Path.mk "/" ["repo", longerName n]).parts, '\x00' ∉ part.toList := by
    simp [toList_longerName, List.mem_replicate]
  have hshort : (Path.mk "/" ["repo", longerName n]).isLong = false := by
    apply Path.isLong_eq_false
    have hroot : "/".utf8ByteSize = 1 := rfl
    have hrepo : "repo".utf8ByteSize = 4 := rfl
    simp only [List.map_cons, List.map_nil, List.sum_cons, List.sum_nil, hroot, hrepo,
      utf8ByteSize_longerName]
    omega
  have hlong : Path.isLongName (longerName n) = true := by
    rw [Path.isLongName_eq, utf8ByteSize_longerName]
    exact decide_eq_true (by omega)
  have hrepo : Path.isLongName "repo" = false := by
    rw [Path.isLongName_eq]
    decide
  have hfolder : sceneOfTree.disk.find? (Path.follow [] "repo") = some .folder := rfl
  have hwalk : sceneOfTree.disk.walk [] ["repo", longerName n] = .error .tooLong := by
    simp only [Disk.walk, Disk.find?, List.isEmpty_nil, if_true, hrepo, Bool.false_eq_true, if_false]
    simp only [Disk.find?] at hfolder
    simp only [hfolder, hlong, if_true]
  have hlocate : sceneOfTree.disk.locate sceneOfTree.here ⟨"/", ["repo", longerName n]⟩ =
      .error .tooLong := by
    rw [Disk.locate_of_plain hplain hshort]
    exact hwalk
  rw [ofText_longerName, Path.join_of_relative rfl]
  show sceneOfTree.disk.lookAt sceneOfTree.here ⟨"/", ["repo", longerName n]⟩ = _
  rw [Disk.lookAt, hlocate]
  rfl

theorem stops_longerName {n : Nat} (hlow : 252 ≤ n) (hhigh : n ≤ 4000) :
    Stops ["old/*"] ⟨"/", ["repo"]⟩ sceneOfTree (longerName n) .tooLong where
  named := by
    rw [isSourceName_iff, toList_longerName]
    exact List.suffix_append _ _
  shown := by
    rw [ofText_longerName, List.forall_mem_singleton, ← Bool.not_eq_true, String.startsWith_string_iff,
      toList_longerName]
    simp [show ".".toList = ['.'] from rfl]
  included := by
    rw [List.forall_mem_singleton, Pattern.fitsText, toList_longerName]
    rfl
  refused := by
    rw [Disk.isFile, lookAt_longerName hlow hhigh]
    rfl

/-- A name that is too long for the system, of a file that does not exist. -/
def longName : String := longerName 299

theorem stops_longName : Stops ["old/*"] ⟨"/", ["repo"]⟩ sceneOfTree longName .tooLong :=
  stops_longerName (by decide) (by decide)

/-- The long name is not among those paths, as they do not stop the provider. -/
theorem longName_not_mem : longName ∉ filesOfTree := fun hmem =>
  not_stops_filesOfTree longName hmem .tooLong stops_longName

theorem sorted_filesOfTree : selected filesOfTree = (filesOfTree.filter isSourceName).map .ofText :=
  List.mergeSort_of_pairwise (by decide +kernel)

theorem outlines_of_selected_files_in_tree :
    (∃ found, ((provider [.text "old/*"]).outlines ⟨"/", ["repo"]⟩ (some filesOfTree.reverse)
        sceneOfTree).1 = .ok found ∧
      found.map SourceOutline.path = ["a.py", "p.py/c.py"] ∧
      ∀ o, o ∈ found ↔ ∃ file ∈ filesOfTree, Shows ["old/*"] ⟨"/", ["repo"]⟩ sceneOfTree file o) ∧
    ((provider [.text "old/*"]).outlines ⟨"/", ["repo"]⟩ (some (longName :: filesOfTree))
        sceneOfTree).1 =
      .error (.fault (.system 36 "File name too long" (some ("/repo/" ++ longName)))) := by
  obtain ⟨whole, -, hselected⟩ := outlines_of_selected_files workingTree_sceneOfTree ["old/*"]
  constructor
  · obtain ⟨found, hfound, -, -, hmem, hreversed, -⟩ :=
      (hselected filesOfTree (by decide) isNormalised_filesOfTree).1 not_stops_filesOfTree
    refine ⟨found, hreversed _ (List.reverse_perm _), ?_, hmem⟩
    have heq := outlines_selected workingTree_sceneOfTree ["old/*"] isNormalised_filesOfTree
      not_stops_filesOfTree
    rw [hfound, sorted_filesOfTree] at heq
    rw [Except.ok.inj heq]
    unfold outlineOf? Disk.entryAt Disk.locate Disk.refusal? Disk.holdsNull
    simp only [String.contains_char_eq]
    decide +kernel
  · have hstopped := (hselected (longName :: filesOfTree) (List.nodup_cons.2 ⟨longName_not_mem, by decide⟩)
      (List.forall_mem_cons.2 ⟨isNormalised_longerName 299, isNormalised_filesOfTree⟩)).2
      longName List.mem_cons_self .tooLong stops_longName
    have htext : (Path.join ⟨"/", ["repo"]⟩ (.ofText longName)).text = "/repo/" ++ longName := by
      rw [longName, ofText_longerName, Path.join_of_relative rfl]
      simp [Path.text, ← String.append_assoc]
    rw [htext] at hstopped
    apply hstopped
    intro other hother e' hstops
    rcases List.mem_cons.1 hother with rfl | hother
    · exact le_refl _
    · exact absurd hstops (not_stops_filesOfTree other hother e')

/-- A missing file with a name that is too long does more than to have no outline. -/
theorem outlines_of_longName :
    WorkingTree ⟨"/", ["repo"]⟩ sceneOfTree ∧ ["a.py", longName].Nodup ∧
      (∀ file ∈ ["a.py", longName], IsNormalised file) ∧
      sceneOfTree.disk.entryAt sceneOfTree.here (Path.join ⟨"/", ["repo"]⟩ (.ofText longName)) = none ∧
      ∀ found, ((provider [.text "old/*"]).outlines ⟨"/", ["repo"]⟩ (some ["a.py", longName])
        sceneOfTree).1 ≠ .ok found := by
  have hmem : "a.py" ∈ filesOfTree := by decide
  have hne : "a.py" ≠ longName := fun h => longName_not_mem (h ▸ hmem)
  have hnodup : ["a.py", longName].Nodup := by simpa using hne
  have hnormalised : ∀ file ∈ ["a.py", longName], IsNormalised file :=
    List.forall_mem_cons.2 ⟨isNormalised_filesOfTree "a.py" hmem,
      List.forall_mem_singleton.2 (isNormalised_longerName 299)⟩
  refine ⟨workingTree_sceneOfTree, hnodup, hnormalised, ?_, ?_⟩
  · rw [Disk.entryAt_eq_lookAt, longName, lookAt_longerName (by decide) (by decide)]
    rfl
  · intro found hfound
    have hstopped := outlines_stopped workingTree_sceneOfTree ["old/*"] hnodup hnormalised
      (List.mem_cons_of_mem _ List.mem_cons_self) stops_longName ?_
    · rw [show ["old/*"].map Value.text = [.text "old/*"] from rfl, hfound] at hstopped
      cases hstopped
    · intro other hother e' hstops
      rcases List.mem_cons.1 hother with rfl | hother
      · exact absurd hstops (not_stops_filesOfTree "a.py" hmem e')
      · rw [List.mem_singleton.1 hother]

end Python

end HistoryMetrics
