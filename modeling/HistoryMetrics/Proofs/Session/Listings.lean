import HistoryMetrics.Proofs.Repository.Reference
import HistoryMetrics.Proofs.Session.Setbacks

/-! # Listings of an open repository

    Two operations of a session pass on what one command of git prints: the paths of the files of a commit,
    each closed by a null character, and the branches and tags, each on a line of its own. What git prints
    is read with one kind of line ends, and the lines of references end at every line boundary of Unicode.
    So a path with a carriage return comes out as another path, and a reference whose name holds a line
    boundary does not come out at all. Everything else comes out as git has printed it.

    - `Session.operation_run_fst`: an operation that passes on what a command prints
    - `files_printed`: the paths of files
    - `references_printed`: branches and tags
-/

namespace HistoryMetrics

open HistoryMetrics.Action World Repository

variable {σ α : Type}

/-- **An operation that passes on what a command prints**, once git has finished it without a
    complaint. -/
theorem Session.operation_run_fst {w : World σ} {h : Handles} (hs : w.session = some h) {name : String}
    {arguments : List String} {told : Problem → Problem} {make : String → α}
    (hnull : (h.toRepository.command arguments none).holdsNull = false) {output errors : List UInt8}
    (houtcome : h.toRepository.outcome arguments none w = .finished 0 output errors) :
    (operation name (fun h => do
      let text ← (h.toRepository.run arguments none).renamed told
      pure (make text)) w).1 = .ok (make (Git.text output)) := by
  have hrun : h.toRepository.run arguments none w =
      (.ok (Git.text output), (h.toRepository.run arguments none w).2) :=
    Prod.ext (run_fst_of_finished hnull houtcome) rfl
  refine congrArg Prod.fst (operation_of_ok hs (v := (h.toRepository.run arguments none w).2) ?_)
  rw [bind_apply, renamed_ok_iff.2 hrun]
  rfl

/-! ## Paths -/

/-- The bytes of paths, each closed by a null character. -/
def printedPaths (paths : List String) : List UInt8 :=
  paths.flatMap fun p => Text.encode p.toList ++ [0]

/-- A path as it is read: with line feeds for line ends of any kind. -/
def readPath (p : String) : String := String.ofList (Text.universalNewlines p.toList)

theorem readPath_eq_self_iff {p : String} : readPath p = p ↔ '\r' ∉ p.toList := by
  rw [readPath, ← String.toList_inj, String.toList_ofList, Text.universalNewlines_eq_self_iff]

theorem printedPaths_eq (paths : List String) : printedPaths paths =
    Text.encode ((paths.map String.toList).flatMap fun p => p ++ ['\x00']) := by
  have hnull : Text.encode ['\x00'] = [0] := by decide
  rw [Text.encode, List.flatMap_assoc, List.flatMap_map, printedPaths]
  refine List.flatMap_congr fun p _ => ?_
  rw [List.flatMap_append, ← hnull]
  rfl

/-- **Paths between null characters** are found again, but for their line ends. -/
theorem pathsOf_printedPaths {paths : List String} (h : ∀ p ∈ paths, p ≠ "" ∧ '\x00' ∉ p.toList) :
    Session.pathsOf (Git.text (printedPaths paths)) = paths.map readPath := by
  let pieces : List (List Char) := (paths.map String.toList).map Text.universalNewlines
  have hpieces : ∀ p ∈ pieces, '\x00' ∉ p ∧ p ≠ [] := by
    intro piece hpiece
    obtain ⟨cs, hcs, rfl⟩ := List.mem_map.1 hpiece
    obtain ⟨p, hp, rfl⟩ := List.mem_map.1 hcs
    obtain ⟨hne, hnull⟩ := h p hp
    refine ⟨Text.not_mem_universalNewlines (by decide) hnull, ?_⟩
    rw [ne_eq, Text.universalNewlines_eq_nil_iff, String.toList_eq_nil_iff]
    exact hne
  -- line ends are read piece by piece, as a null character is none of them
  have htext : (Git.text (printedPaths paths)).toList = pieces.flatMap fun p => p ++ ['\x00'] := by
    rw [printedPaths_eq, Git.text_encode, String.toList_ofList,
      Text.universalNewlines_flatMap_sep (by decide) (by decide)]
  -- behind the last null character there is an empty piece
  have hfilter : (pieces ++ [[]]).filter (fun p => !p.isEmpty) = pieces := by
    rw [List.filter_append, List.filter_eq_self.2 fun p hp => by simpa using (hpieces p hp).2]
    simp
  rw [Session.pathsOf, htext, Text.splitOn_flatMap_sep fun p hp => (hpieces p hp).1, hfilter,
    List.map_map, List.map_map]
  rfl

section listings

variable {w : World σ} {h : Handles} (hs : w.session = some h) (commit : String)
include hs

theorem Session.files_fst {paths : List String} (hpaths : ∀ p ∈ paths, p ≠ "" ∧ '\x00' ∉ p.toList)
    (hnull : (h.toRepository.command (fileArguments commit) none).holdsNull = false)
    {errors : List UInt8} (houtcome : h.toRepository.outcome (fileArguments commit) none w =
      .finished 0 (printedPaths paths) errors) :
    (files commit w).1 = .ok (paths.map readPath) := by
  rw [← pathsOf_printedPaths hpaths]
  exact operation_run_fst hs hnull houtcome

/-- **The paths of the files of a commit**, when git prints them, each closed by a null character, and
    finishes without a complaint.

    - they come out in their order, each of them with line feeds for line ends of any kind
    - so they come out as they are just when none of them holds a carriage return -/
theorem files_printed {paths : List String} (hpaths : ∀ p ∈ paths, p ≠ "" ∧ '\x00' ∉ p.toList)
    (hnull : (h.toRepository.command (Session.fileArguments commit) none).holdsNull = false)
    {errors : List UInt8} (houtcome : h.toRepository.outcome (Session.fileArguments commit) none w =
      .finished 0 (printedPaths paths) errors) :
    (Session.files commit w).1 = .ok (paths.map readPath) ∧
      ((Session.files commit w).1 = .ok paths ↔ ∀ p ∈ paths, '\r' ∉ p.toList) := by
  have hfiles := Session.files_fst hs commit hpaths hnull houtcome
  refine ⟨hfiles, ?_⟩
  rw [hfiles, Except.ok.injEq]
  constructor
  · intro heq p hp
    have hself : paths.map readPath = paths.map id := by rw [heq, List.map_id]
    exact readPath_eq_self_iff.1 (List.map_inj_left.1 hself p hp)
  · intro hreturn
    rw [List.map_congr_left fun p hp => readPath_eq_self_iff.2 (hreturn p hp)]
    exact List.map_id paths

end listings

/-! ### Some paths -/

/-- A repository that is open, with a git that answers every command. -/
theorem exists_session_answering (answer : List String → String) :
    ∃ (w : World Unit) (h : Handles), w.session = some h ∧ w.git = .answering answer ∧
      ∀ arguments : List String, (∀ s ∈ arguments, '\x00' ∉ s.toList) →
        (h.toRepository.command arguments none).holdsNull = false := by
  obtain ⟨h, w, -, hs, hroot, hgit⟩ := exists_open_answering
    (w := .start oneRepository (.answering answer)) rfl rfl rfl
  refine ⟨w, h, hs, hgit, fun arguments hnull => ?_⟩
  exact GitCommand.holdsNull_eq_false_iff.2 (noNull_line hroot hnull)

/-- A path with a line feed, and one beyond the first plane. -/
theorem files_printed_names : ∃ (w : World Unit) (h : Handles), w.session = some h ∧
    h.toRepository.outcome (Session.fileArguments "c1") none w =
      .finished 0 (printedPaths ["a\nb", "ä/𝕏"]) [] ∧
    (Session.files "c1" w).1 = .ok ["a\nb", "ä/𝕏"] := by
  obtain ⟨w, h, hs, hgit, hgiven⟩ := exists_session_answering fun _ => "a\nb\x00ä/𝕏\x00"
  have houtcome : h.toRepository.outcome (Session.fileArguments "c1") none w =
      .finished 0 (printedPaths ["a\nb", "ä/𝕏"]) [] := by
    rw [outcome_answering hgit, printedPaths_eq]
    rfl
  have hfiles := files_printed hs "c1" (by decide) (hgiven _ (by decide)) houtcome
  exact ⟨w, h, hs, houtcome, hfiles.2.2 (by decide)⟩

/-- **A path with a carriage return** comes out as another one. -/
theorem files_printed_return : ¬∀ (w : World Unit) (h : Handles) (commit : String) (paths : List String),
    w.session = some h → (∀ p ∈ paths, p ≠ "" ∧ '\x00' ∉ p.toList) →
    (h.toRepository.command (Session.fileArguments commit) none).holdsNull = false →
    h.toRepository.outcome (Session.fileArguments commit) none w = .finished 0 (printedPaths paths) [] →
    (Session.files commit w).1 = .ok paths := by
  intro hclaim
  obtain ⟨w, h, hs, hgit, hgiven⟩ := exists_session_answering fun _ => "a\rb\x00"
  have hpaths : ∀ p ∈ ["a\rb"], p ≠ "" ∧ '\x00' ∉ p.toList := by decide
  have hnull := hgiven (Session.fileArguments "c1") (by decide)
  have houtcome : h.toRepository.outcome (Session.fileArguments "c1") none w =
      .finished 0 (printedPaths ["a\rb"]) [] := by
    rw [outcome_answering hgit, printedPaths_eq]
    rfl
  have hread := hclaim w h "c1" ["a\rb"] hs hpaths hnull houtcome
  rw [Session.files_fst hs "c1" hpaths hnull houtcome] at hread
  have hsame : readPath "a\rb" = "a\rb" := by simpa using hread
  exact readPath_eq_self_iff.1 hsame (by decide)

/-! ## Branches and tags -/

section listings

variable {w : World σ} {h : Handles} (hs : w.session = some h)
include hs

theorem Session.references_fst {es : List PrintedReference}
    (hnull : (h.toRepository.command referenceArguments none).holdsNull = false)
    {errors : List UInt8} (houtcome : h.toRepository.outcome referenceArguments none w =
      .finished 0 (Text.encode (PrintedReference.print es).toList) errors) :
    (references w).1 = .ok (Reference.list (PrintedReference.print es)) := by
  have htext : Git.text (Text.encode (PrintedReference.print es).toList) = PrintedReference.print es := by
    rw [Git.text_encode_of_not_mem (PrintedReference.noReturn_print es), String.ofList_toList]
  rw [← htext]
  exact operation_run_fst hs hnull houtcome

/-- **The branches and tags**, when git prints them, each on a line of its own, and finishes without a
    complaint. Symbolic names aside:

    - one of them comes out just when its name holds no line boundary
    - when none of the names holds one, all of them come out in their order, and nothing else does -/
theorem references_printed {es : List PrintedReference}
    (hnull : (h.toRepository.command Session.referenceArguments none).holdsNull = false)
    {errors : List UInt8} (houtcome : h.toRepository.outcome Session.referenceArguments none w =
      .finished 0 (Text.encode (PrintedReference.print es).toList) errors) :
    ∃ found, (Session.references w).1 = .ok found ∧
      (∀ e ∈ es, ¬e.IsHead → ((∃ r ∈ found, e.IsReadAs r) ↔ e.HasPlainName)) ∧
      ((∀ e ∈ es, e.HasPlainName) →
        List.Forall₂ PrintedReference.IsReadAs (es.filter fun e => ¬e.IsHead) found) := by
  refine ⟨_, Session.references_fst hs hnull houtcome, ?_, ?_⟩
  · intro e he hhead
    exact PrintedReference.mem_list_print he hhead
  · intro hplain
    exact PrintedReference.list_print hplain

end listings

/-! ### Some names -/

/-- A branch that leads to a commit. -/
def branchOf (name : List Char) (hne : name ≠ [])
    (hallowed : name.all Reference.nameAllows = true) : PrintedReference where
  kind := .branch
  name := String.ofList name
  object := "c1"
  peeled := none
  name_ne := by simpa using hne
  name_allowed := by rwa [String.toList_ofList]
  object_hex := by decide
  peeled_hex := nofun

section branchOf

variable {name : List Char} {hne : name ≠ []} {hallowed : name.all Reference.nameAllows = true}

theorem hasPlainName_branchOf : (branchOf name hne hallowed).HasPlainName ↔
    ∀ c ∈ name, c ∉ ['\u0085', '\u2028', '\u2029'] := by
  simp only [PrintedReference.HasPlainName, branchOf, String.toList_ofList]

theorem isHead_branchOf : (branchOf name hne hallowed).IsHead ↔
    "/HEAD".toList <:+ "refs/heads/".toList ++ name := by
  simp only [PrintedReference.IsHead, PrintedReference.path, branchOf, ReferenceKind.folder,
    String.toList_append, String.toList_ofList]

end branchOf

/-- A branch in a folder. -/
def folderBranch : PrintedReference := branchOf ['ä', '/', 'b'] (by decide) (by decide)

/-- A branch whose name holds a line separator. -/
def tornBranch : PrintedReference := branchOf ['a', '\u2028', 'b'] (by decide) (by decide)

/-- A tag with a message, and the name of a current commit. -/
def headTag : PrintedReference where
  kind := .tag
  name := "v1/HEAD"
  object := "d1"
  peeled := some "c1"
  name_ne := by decide
  name_allowed := by decide +kernel
  object_hex := by decide
  peeled_hex := by
    rintro p ⟨⟩
    decide

/-- A branch in a folder comes out, and a symbolic name does not. -/
theorem references_printed_folder : ∃ (w : World Unit) (h : Handles), w.session = some h ∧
    h.toRepository.outcome Session.referenceArguments none w =
      .finished 0 (Text.encode (PrintedReference.print [folderBranch, headTag]).toList) [] ∧
    ∃ r, (Session.references w).1 = .ok [r] ∧ r.path = "refs/heads/ä/b" := by
  obtain ⟨w, h, hs, hgit, hgiven⟩ :=
    exists_session_answering fun _ => PrintedReference.print [folderBranch, headTag]
  have houtcome : h.toRepository.outcome Session.referenceArguments none w =
      .finished 0 (Text.encode (PrintedReference.print [folderBranch, headTag]).toList) [] :=
    outcome_answering hgit
  obtain ⟨found, hfound, -, hall⟩ := references_printed hs (hgiven _ (by decide)) houtcome
  have hplain : ∀ e ∈ [folderBranch, headTag], e.HasPlainName := by
    intro e he
    rcases List.mem_pair.1 he with rfl | rfl
    · exact hasPlainName_branchOf.2 (by simp)
    · decide
  have hread := hall hplain
  have hbranch : ¬folderBranch.IsHead := fun hhead => absurd (isHead_branchOf.1 hhead) (by decide)
  have htag : headTag.IsHead := by decide
  simp only [List.filter_cons, hbranch, htag, not_true_eq_false, not_false_eq_true, decide_true,
    decide_false, if_true, Bool.false_eq_true, if_false, List.filter_nil] at hread
  obtain ⟨r, rest, hr, hrest, rfl⟩ := List.forall₂_cons_left_iff.1 hread
  cases hrest
  exact ⟨w, h, hs, houtcome, r, hfound, hr.path⟩

/-- **A branch whose name holds a line boundary** is torn apart. -/
theorem references_printed_separator : ¬∀ (w : World Unit) (h : Handles) (es : List PrintedReference),
    w.session = some h → (es.map PrintedReference.path).Nodup →
    (h.toRepository.command Session.referenceArguments none).holdsNull = false →
    h.toRepository.outcome Session.referenceArguments none w =
      .finished 0 (Text.encode (PrintedReference.print es).toList) [] →
    ∃ found, (Session.references w).1 = .ok found ∧
      List.Forall₂ PrintedReference.IsReadAs (es.filter fun e => ¬e.IsHead) found := by
  intro hclaim
  obtain ⟨w, h, hs, hgit, hgiven⟩ :=
    exists_session_answering fun _ => PrintedReference.print [tornBranch]
  have hnull := hgiven Session.referenceArguments (by decide)
  have houtcome : h.toRepository.outcome Session.referenceArguments none w =
      .finished 0 (Text.encode (PrintedReference.print [tornBranch]).toList) [] :=
    outcome_answering hgit
  obtain ⟨found, hfound, hread⟩ := hclaim w h [tornBranch] hs (List.nodup_singleton _) hnull houtcome
  rw [Session.references_fst hs hnull houtcome] at hfound
  cases hfound
  have hhead : ¬tornBranch.IsHead := fun hhead => absurd (isHead_branchOf.1 hhead) (by decide)
  simp only [List.filter_cons, hhead, not_false_eq_true, decide_true, if_true, List.filter_nil] at hread
  -- the reference that was read would hold a line boundary
  obtain ⟨r, rest, hr, -, hlist⟩ := List.forall₂_cons_left_iff.1 hread
  have hmem : r ∈ Reference.list (PrintedReference.print [tornBranch]) := by
    rw [hlist]
    exact List.mem_cons_self
  have hplain : tornBranch.HasPlainName :=
    (PrintedReference.mem_list_print (List.mem_singleton_self _) hhead).1 ⟨r, hmem, hr⟩
  exact hasPlainName_branchOf.1 hplain '\u2028' (by simp) (by simp)

end HistoryMetrics
