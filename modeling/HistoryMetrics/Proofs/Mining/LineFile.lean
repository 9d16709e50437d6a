import HistoryMetrics.Mining.Sink
import HistoryMetrics.Proofs.Action.Returns
import HistoryMetrics.Proofs.Disk.Placement
import HistoryMetrics.Proofs.Text.Document
import Mathlib

/-! # What stands in a file of lines

    A file of lines is opened by the first emission, or by hand, and it may be closed and opened again.
    Opening empties it, while the counter goes on. So the file holds what was handed over since it was
    last opened, line by line and in this order, and the counter counts everything: the two agree just
    when nothing was handed over before.

    - `LineFile.Call`: what can be asked of a file of lines
    - `kept`, `overwritten`: the emissions since the last opening, and those before it
    - `Written`: what is known of the scene after some calls
    - `Written.call`, `written_run`: it is known after one more call, and so after all of them
    - `lineFile_holds_kept`: the file and the counter, after a last close
-/

namespace HistoryMetrics.LineFile

open HistoryMetrics.Action

variable {σ : Type}

/-! ## Calls -/

/-- **What can be asked of a file of lines.** -/
inductive Call where
  | «open»
  | close
  | emit (e : Emission)

namespace Call

/-- What a call does. -/
def run : Call → Action (Scene σ) Unit
  | .open => LineFile.open
  | .close => .update LineFile.close
  | .emit e => Sink.lineFile.receive e

/-- Does the call close the file? -/
def isClose : Call → Bool
  | .close => true
  | _ => false

/-- What the call hands over. -/
def emission? : Call → Option Emission
  | .emit e => some e
  | _ => none

end Call

/-- What was handed over by some calls. -/
def emissions (calls : List Call) : List Emission := calls.filterMap Call.emission?

/-- The calls for which the file has been open without a break, up to the end. -/
def current (calls : List Call) : List Call := calls.rtakeWhile fun c => !c.isClose

/-- The calls without the closes at their end. -/
def untilClosed (calls : List Call) : List Call := calls.rdropWhile Call.isClose

/-- **What was handed over since the file was last opened.** -/
def kept (calls : List Call) : List Emission := emissions (current (untilClosed calls))

/-- **What was handed over before the file was last opened.** -/
def overwritten (calls : List Call) : List Emission :=
  emissions ((untilClosed calls).rdropWhile fun c => !c.isClose)

/-- The text of the lines of some emissions. -/
def textOf (es : List Emission) : List Char := es.flatMap fun e => (lineOf e).toList

variable {calls : List Call} {c : Call} {e : Emission}

theorem emissions_append (calls more : List Call) :
    emissions (calls ++ more) = emissions calls ++ emissions more := List.filterMap_append

/-- Closes hand over nothing. -/
theorem emissions_of_isClose (h : ∀ c ∈ calls, c.isClose = true) : emissions calls = [] := by
  refine List.filterMap_eq_nil_iff.2 fun c hc => ?_
  cases c with
  | «open» => rfl
  | close => rfl
  | emit e => exact absurd (h _ hc) Bool.false_ne_true

/-- **Each emission was overwritten or kept.** -/
theorem emissions_eq (calls : List Call) : emissions calls = overwritten calls ++ kept calls := by
  have hcalls : emissions calls = emissions (untilClosed calls) := by
    have hclose : emissions (calls.rtakeWhile Call.isClose) = [] :=
      emissions_of_isClose fun c hc => List.mem_rtakeWhile_imp hc
    have hsplit := List.rdropWhile_append_rtakeWhile (p := Call.isClose) (l := calls)
    rw [← hsplit, emissions_append, hclose, List.append_nil, hsplit]
    rfl
  have hsplit := List.rdropWhile_append_rtakeWhile (p := fun c => !c.isClose) (l := untilClosed calls)
  rw [hcalls, overwritten, kept, current, ← emissions_append, hsplit]

theorem kept_close (calls : List Call) : kept (calls ++ [.close]) = kept calls := by
  rw [kept, kept, untilClosed, List.rdropWhile_concat_pos _ _ _ rfl]
  rfl

theorem kept_append (h : c.isClose = false) :
    kept (calls ++ [c]) = emissions (current calls) ++ c.emission?.toList := by
  have hlast : ¬ c.isClose = true := by rw [h]; exact Bool.false_ne_true
  rw [kept, untilClosed, List.rdropWhile_concat_neg _ _ _ hlast, current,
    List.rtakeWhile_concat_pos _ _ _ (by rw [h]; rfl), emissions_append]
  cases c <;> rfl

theorem current_close (calls : List Call) : current (calls ++ [.close]) = [] :=
  List.rtakeWhile_concat_neg _ _ _ Bool.false_ne_true

theorem current_append (h : c.isClose = false) : current (calls ++ [c]) = current calls ++ [c] :=
  List.rtakeWhile_concat_pos _ _ _ (by rw [h]; rfl)

theorem current_ne_nil (h : c.isClose = false) : current (calls ++ [c]) ≠ [] := by
  rw [current_append h]
  exact List.append_ne_nil_of_right_ne_nil _ (List.cons_ne_nil _ _)

/-- An open file was opened by some call. -/
theorem exists_of_current (h : current calls ≠ []) : ∃ c ∈ calls, c.isClose = false := by
  obtain ⟨c, hc⟩ := List.exists_mem_of_ne_nil _ h
  have hopen := List.mem_rtakeWhile_imp hc
  rw [Bool.not_eq_true'] at hopen
  exact ⟨c, (List.rtakeWhile_suffix _ _).mem hc, hopen⟩

/-- While the file is open, its calls are those without a break. -/
theorem kept_of_current (h : current calls ≠ []) : kept calls = emissions (current calls) := by
  cases calls using List.reverseRecOn with
  | nil => exact absurd rfl h
  | append_singleton calls c =>
    cases hc : c.isClose with
    | true =>
      rw [current, List.rtakeWhile_concat_neg _ _ _ (by rw [hc]; decide)] at h
      exact absurd rfl h
    | false => rw [kept_append hc, current_append hc, emissions_append]; cases c <;> rfl

theorem textOf_append (es more : List Emission) : textOf (es ++ more) = textOf es ++ textOf more :=
  List.flatMap_append

/-! ## Logging -/

/-- **The handlers of the log write to other files.** -/
def LogsElsewhere (s : Scene σ) : Prop :=
  ∀ h ∈ s.logging.handlers, ∀ p, h.target = .file p →
    Disk.place s.here p ≠ Disk.place s.here s.lineFile.path

/-- A record that is logged leaves all but the disk and the journal as they are. -/
theorem logged_eq (s : Scene σ) (r : LogRecord) :
    ∃ disk journal, s.logged r = { s with disk, journal } := by
  unfold Scene.logged
  split
  · exact ⟨_, _, rfl⟩
  · exact ⟨s.disk, s.journal, rfl⟩

theorem entryAt_logged {s : Scene σ} {r : LogRecord} {entry : Entry} (hlogs : LogsElsewhere s)
    (hentry : s.disk.entryAt s.here s.lineFile.path = some entry) :
    (s.logged r).disk.entryAt s.here s.lineFile.path = some entry := by
  unfold Scene.logged
  split
  · next hlets =>
    show Disk.entryAt (List.foldl _ _ _) _ _ = some entry
    rw [Logging.entryAt_foldl_written]
    · exact hentry
    · intro h hmem
      rw [Logging.receivers, if_pos hlets] at hmem
      exact hlogs h (List.mem_of_mem_filter hmem)
  · exact hentry

/-- **A file that was opened is empty.** -/
theorem emptied_ok {disk disk' : Disk} {here path : Path} (h : emptied disk here path = .ok disk') :
    disk'.entryAt here path = some (.file []) := by
  unfold emptied at h
  split at h
  · cases h
  · next d hfolders =>
    cases hwrite : d.write here path [] with
    | error e =>
      rw [hwrite] at h
      cases h
    | ok d' =>
      rw [hwrite] at h
      cases h
      exact Disk.entryAt_write hwrite

/-! ## The scene after some calls -/

/-- **What is known of the scene after some calls** on a file that has not been opened before.

    - `isOpen`: the file is open when the last call was not a close
    - `lines`: the counter counts everything that was handed over
    - `file`: the file holds what was kept
    - `untouched`: as long as it was only closed, nothing has happened -/
structure Written (first : Scene σ) (calls : List Call) (s : Scene σ) : Prop where
  path : s.lineFile.path = first.lineFile.path
  here : s.here = first.here
  logging : s.logging = first.logging
  isOpen : s.lineFile.isOpen = true ↔ current calls ≠ []
  lines : s.lineFile.lines = (emissions calls).length
  file : (∃ c ∈ calls, c.isClose = false) →
    s.disk.entryAt s.here s.lineFile.path = some (.file (Text.encode (textOf (kept calls))))
  untouched : (∀ c ∈ calls, c.isClose = true) → s = first

namespace Written

variable {first s s' : Scene σ}

theorem start {path : Path} (h : first.lineFile = closed path) : Written first [] first where
  path := rfl
  here := rfl
  logging := rfl
  isOpen := by rw [h]; exact ⟨nofun, fun h => absurd rfl h⟩
  lines := by rw [h]; rfl
  file := by rintro ⟨c, hc, -⟩; exact absurd hc List.not_mem_nil
  untouched _ := rfl

theorem logsElsewhere (h : Written first calls s) (hlogs : LogsElsewhere first) :
    LogsElsewhere s := by
  unfold LogsElsewhere
  rw [h.logging, h.here, h.path]
  exact hlogs

/-- **After an opening**: an open file stays as it is, another one is empty. -/
theorem opened (h : Written first calls s) (hopen : LineFile.open s = (.ok (), s')) :
    Written first (calls ++ [.open]) s' := by
  have hnoClose : Call.isClose .open = false := rfl
  have hcurrent : current (calls ++ [.open]) ≠ [] := current_ne_nil hnoClose
  have hlines : (emissions (calls ++ [.open])).length = (emissions calls).length := by
    rw [emissions_append]
    exact List.length_append
  have hkept : kept (calls ++ [.open]) = emissions (current calls) :=
    (kept_append hnoClose).trans (List.append_nil _)
  have huntouched : ¬ ∀ c ∈ calls ++ [.open], c.isClose = true := fun hall =>
    Bool.false_ne_true (hall .open (List.mem_append_right _ (List.mem_singleton_self _)))
  unfold LineFile.open at hopen
  by_cases hisOpen : s.lineFile.isOpen = true
  · rw [if_pos hisOpen] at hopen
    cases hopen
    have hunder := h.isOpen.1 hisOpen
    have hsome := exists_of_current hunder
    exact
      { path := h.path, here := h.here, logging := h.logging
        isOpen := ⟨fun _ => hcurrent, fun _ => hisOpen⟩
        lines := h.lines.trans hlines.symm
        file := fun _ => by rw [hkept, ← kept_of_current hunder]; exact h.file hsome
        untouched := fun hall => absurd hall huntouched }
  · rw [if_neg hisOpen] at hopen
    have hclosed : current calls = [] := by
      by_contra hunder
      exact hisOpen (h.isOpen.2 hunder)
    cases hempty : emptied s.disk s.here s.lineFile.path with
    | error f =>
      rw [hempty] at hopen
      cases hopen
    | ok disk =>
      rw [hempty] at hopen
      cases hopen
      have hfile := emptied_ok hempty
      exact
        { path := h.path, here := h.here, logging := h.logging
          isOpen := ⟨fun _ => hcurrent, fun _ => rfl⟩
          lines := h.lines.trans hlines.symm
          file := fun _ => by rw [hkept, hclosed]; exact hfile
          untouched := fun hall => absurd hall huntouched }

/-- **After an emission**: its line stands at the end of the open file. -/
theorem emitted (h : Written first (calls ++ [.open]) s)
    (hwrite : LineFile.write (lineOf e) s = (.ok (), s')) :
    Written first (calls ++ [.emit e]) s' := by
  have hnoClose : Call.isClose (.emit e) = false := rfl
  have hcurrent : current (calls ++ [.emit e]) ≠ [] := current_ne_nil hnoClose
  have hopen : current (calls ++ [.open]) ≠ [] := current_ne_nil rfl
  have hkept : kept (calls ++ [.emit e]) = kept (calls ++ [.open]) ++ [e] := by
    rw [kept_append hnoClose, kept_append rfl]
    exact congrArg (· ++ [e]) (List.append_nil _).symm
  have hbefore := h.file ⟨.open, List.mem_append_right _ (List.mem_singleton_self _), rfl⟩
  have hlines := h.lines
  unfold LineFile.write at hwrite
  split at hwrite
  · cases hwrite
  · next disk happend =>
    cases hwrite
    have hfile := Disk.entryAt_append hbefore happend
    have htext : textOf [e] = (lineOf e).toList := List.append_nil _
    exact
      { path := h.path, here := h.here, logging := h.logging
        isOpen := ⟨fun _ => hcurrent, fun _ => h.isOpen.2 hopen⟩
        lines := by
          show s.lineFile.lines + 1 = _
          rw [hlines, emissions_append, emissions_append]
          simp [emissions, Call.emission?]
        file := fun _ => by
          rw [hkept, textOf_append, htext, Text.encode, List.flatMap_append]
          exact hfile
        untouched := fun hall =>
          absurd (hall _ (List.mem_append_right _ (List.mem_singleton_self _))) Bool.false_ne_true }

/-- **After a close**: the file stays as it is. -/
theorem closed (h : Written first calls s) (hlogs : LogsElsewhere first) :
    Written first (calls ++ [.close]) (close s) := by
  have hlines : (emissions (calls ++ [.close])).length = (emissions calls).length := by
    rw [emissions_append]
    exact List.length_append
  have hsome : (∃ c ∈ calls ++ [.close], c.isClose = false) → ∃ c ∈ calls, c.isClose = false := by
    intro ⟨c, hc, hopen⟩
    rcases List.mem_append.1 hc with hc | hc
    · exact ⟨c, hc, hopen⟩
    · obtain rfl := List.mem_singleton.1 hc
      cases hopen
  have hstays : current (calls ++ [.close]) = [] := current_close calls
  unfold close
  by_cases hisOpen : s.lineFile.isOpen = true
  · rw [if_pos hisOpen]
    let shut : Scene σ := { s with lineFile := { s.lineFile with isOpen := false } }
    have hshut : LogsElsewhere shut := h.logsElsewhere hlogs
    obtain ⟨disk, journal, hlogged⟩ := logged_eq shut (record s.lineFile)
    have hunder := h.isOpen.1 hisOpen
    exact
      { path := by rw [hlogged]; exact h.path
        here := by rw [hlogged]; exact h.here
        logging := by rw [hlogged]; exact h.logging
        isOpen := by rw [hlogged, hstays]; exact ⟨nofun, fun hne => absurd rfl hne⟩
        lines := by rw [hlogged]; exact h.lines.trans hlines.symm
        file := fun hopen => by
          have hfile := entryAt_logged (r := record s.lineFile) hshut (h.file (hsome hopen))
          rw [kept_close]
          rw [hlogged] at hfile ⊢
          exact hfile
        untouched := fun hall => by
          obtain ⟨c, hc, hopen⟩ := exists_of_current hunder
          rw [hall c (List.mem_append_left _ hc)] at hopen
          cases hopen }
  · rw [if_neg hisOpen]
    exact
      { path := h.path, here := h.here, logging := h.logging
        isOpen := by rw [hstays]; exact ⟨fun hopen => absurd hopen hisOpen, fun hne => absurd rfl hne⟩
        lines := h.lines.trans hlines.symm
        file := fun hopen => by rw [kept_close]; exact h.file (hsome hopen)
        untouched := fun hall => h.untouched fun c hc => hall c (List.mem_append_left _ hc) }

/-- **After one more call.** -/
theorem call (h : Written first calls s) (hlogs : LogsElsewhere first)
    (hrun : c.run s = (.ok (), s')) : Written first (calls ++ [c]) s' := by
  cases c with
  | «open» => exact h.opened hrun
  | close =>
    cases hrun
    exact h.closed hlogs
  | emit e =>
    obtain ⟨⟨⟩, t, hopen, hwrite⟩ := bind_ok_iff.1 hrun
    exact (h.opened hopen).emitted hwrite

end Written

/-- **After all calls.** -/
theorem written_run {first s s' : Scene σ} {before : List Call} {units : List Unit}
    (h : Written first before s) (hlogs : LogsElsewhere first)
    (hrun : Action.forEach Call.run calls s = (.ok units, s')) :
    Written first (before ++ calls) s' := by
  induction calls generalizing before s units with
  | nil =>
    obtain ⟨-, rfl⟩ := forEach_nil_ok_iff.1 hrun
    rwa [List.append_nil]
  | cons c rest ih =>
    obtain ⟨⟨⟩, t, units', hc, hrest, -⟩ := forEach_cons_ok_iff.1 hrun
    have hstep := ih (h.call hlogs hc) hrest
    rwa [List.append_assoc] at hstep

/-! ## The whole file -/

/-- The documents of some emissions. -/
def documents (es : List Emission) : List (List Char) :=
  es.map fun e => (Document.text e.toTable).toList

/-- The lines of the documents of some emissions. -/
theorem splitOn_textOf (es : List Emission) :
    Text.splitOn '\n' (textOf es) = documents es ++ [[]] := by
  have hlines := Document.splitOn_lines (es.map Emission.toTable)
  rw [List.flatMap_map, List.map_map] at hlines
  exact hlines

/-- **A file holds what was kept, and the counter counts what was handed over.** Some calls have
    returned, on a file that had not been opened before, and then the file was closed. The counter is
    the number of emissions. If the file was ever opened it holds the documents of the emissions that
    were kept, in this order and each on a line of its own; so it holds a line for each emission just
    when none was handed over before the file was last opened. -/
theorem lineFile_holds_kept {first s : Scene σ} {path : Path} {calls : List Call}
    {units : List Unit} (hfirst : first.lineFile = closed path) (hlogs : LogsElsewhere first)
    (hrun : Action.forEach Call.run calls first = (.ok units, s)) :
    (close s).lineFile = ⟨path, false, (emissions calls).length⟩ ∧
      emissions calls = overwritten calls ++ kept calls ∧
      ((∀ c ∈ calls, c.isClose = true) → close s = first) ∧
      ((∃ c ∈ calls, c.isClose = false) →
        ∃ text, (close s).disk.entryAt (close s).here path = some (.file (Text.encode text)) ∧
          Text.splitOn '\n' text = documents (kept calls) ++ [[]] ∧
          (Text.splitOn '\n' text = documents (emissions calls) ++ [[]] ↔ overwritten calls = [])) := by
  have hwritten : Written first (calls ++ [.close]) (close s) :=
    (written_run (Written.start hfirst) hlogs hrun).closed hlogs
  have hpath : (close s).lineFile.path = path := by rw [hwritten.path, hfirst]; rfl
  have hsplit := emissions_eq calls
  refine ⟨?_, hsplit, ?_, ?_⟩
  · have hclosed : (close s).lineFile.isOpen = false := by
      have hopen := hwritten.isOpen
      rw [current_close] at hopen
      simpa using hopen
    have hlines : (close s).lineFile.lines = (emissions calls).length := by
      rw [hwritten.lines, emissions_append]
      exact List.length_append
    rw [← hpath, ← hclosed, ← hlines]
  · intro hall
    refine hwritten.untouched fun c hc => ?_
    rcases List.mem_append.1 hc with hc | hc
    · exact hall c hc
    · rw [List.mem_singleton.1 hc]
      rfl
  · rintro ⟨c, hc, hopen⟩
    have hfile := hwritten.file ⟨c, List.mem_append_left _ hc, hopen⟩
    rw [hpath, kept_close] at hfile
    refine ⟨textOf (kept calls), hfile, splitOn_textOf _, ?_⟩
    rw [splitOn_textOf, List.append_cancel_right_eq]
    constructor
    · -- the numbers of lines already tell
      intro heq
      have hlength := congrArg List.length heq
      simp only [documents, List.length_map] at hlength
      rw [hsplit, List.length_append] at hlength
      exact List.length_eq_zero_iff.1 (by omega)
    · intro hnone
      rw [hsplit, hnone, List.nil_append]

/-! ## A file that is opened twice -/

/-- A scene in which the file of lines is at the top; it may stand there already, with some octets. -/
def topScene (file : Option (List UInt8)) (isOpen : Bool) (lines : Nat) : Scene Unit where
  outside := ()
  disk := ⟨(file.map fun octets => (["out"], .file octets)).toList, []⟩
  here := ⟨"/", []⟩
  time := ""
  logging := ⟨.warning, [⟨.console, .warning⟩]⟩
  journal := []
  lineFile := ⟨⟨"", ["out"]⟩, isOpen, lines⟩

theorem open_topScene (file : Option (List UInt8)) (lines : Nat) :
    LineFile.open (topScene file false lines) = (.ok (), topScene (some []) true lines) := by
  cases file <;> cbv

theorem write_topScene (octets : List UInt8) (lines : Nat) (line : String) :
    LineFile.write line (topScene (some octets) true lines) =
      (.ok (), topScene (some (octets ++ Text.encode line.toList)) true (lines + 1)) := by
  let s := topScene (some octets) true lines
  have happend : ∀ more, s.disk.append s.here s.lineFile.path more =
      .ok (topScene (some (octets ++ more)) true lines).disk := by
    intro more
    cbv
  unfold LineFile.write
  rw [happend]
  rfl

theorem close_topScene (file : Option (List UInt8)) (isOpen : Bool) (lines : Nat) :
    close (topScene file isOpen lines) = topScene file false lines := by
  cases isOpen with
  | false => rfl
  | true =>
    -- the record of a close is not urgent enough for this log
    have hsilent : ∀ r : LogRecord, r.level = .debug →
        (topScene file false lines).logging.letsThrough r = false := by
      intro r hlevel
      rw [Logging.letsThrough, hlevel]
      exact Bool.and_false _
    show Scene.logged (topScene file false lines) _ = _
    rw [Scene.logged, hsilent _ rfl]
    rfl

theorem emit_topScene (file : Option (List UInt8)) (lines : Nat) (e : Emission) :
    (Call.emit e).run (topScene file false lines) =
      (.ok (), topScene (some (Text.encode (lineOf e).toList)) true (lines + 1)) :=
  bind_ok_iff.2 ⟨(), _, open_topScene file lines, write_topScene [] lines (lineOf e)⟩

/-- A line is never empty, as a line feed closes it. -/
theorem encode_lineOf_ne_nil (e : Emission) : Text.encode (lineOf e).toList ≠ [] := by
  rw [Text.encode, lineOf, String.toList_append, List.flatMap_append]
  exact List.append_ne_nil_of_right_ne_nil _ (by decide)

/-- Two lines are more than the second of them. -/
theorem encode_lineOf_ne_textOf (e e' : Emission) :
    Text.encode (lineOf e').toList ≠ Text.encode (textOf [e, e']) := by
  intro heq
  have htext : textOf [e, e'] = (lineOf e).toList ++ (lineOf e').toList :=
    congrArg ((lineOf e).toList ++ ·) (List.append_nil _)
  rw [htext, Text.encode, Text.encode, List.flatMap_append] at heq
  exact encode_lineOf_ne_nil e (List.self_eq_append_left.1 heq)

/-- A commit that changed nothing. -/
def idleCommit (id : String) : Commit := ⟨id, "", default, default, [], []⟩

/-- Two commits are handed over, and the file is closed after each. -/
def reopening : List Call :=
  [.emit (.commit (idleCommit "c1")), .close, .emit (.commit (idleCommit "c2")), .close]

theorem run_reopening (file : Option (List UInt8)) (lines : Nat) :
    Action.forEach Call.run reopening (topScene file false lines) =
      (.ok [(), (), (), ()], topScene
        (some (Text.encode (lineOf (.commit (idleCommit "c2"))).toList)) false (lines + 2)) := by
  have hclose : ∀ file lines, Call.run .close (topScene file true lines) =
      (.ok (), topScene file false lines) := by
    intro file lines
    exact congrArg (Prod.mk _) (close_topScene file true lines)
  simp only [reopening, Action.forEach, emit_topScene, hclose]

theorem lineFile_holds_kept_reopening :
    ∃ s, Action.forEach Call.run reopening (topScene none false 0) = (.ok [(), (), (), ()], s) ∧
      (close s).lineFile = ⟨⟨"", ["out"]⟩, false, 2⟩ ∧
      ∃ text, (close s).disk.entryAt (close s).here ⟨"", ["out"]⟩ = some (.file (Text.encode text)) ∧
        Text.splitOn '\n' text = documents [.commit (idleCommit "c2")] ++ [[]] := by
  have hlogs : LogsElsewhere (topScene none false 0) := by
    intro h hmem p htarget
    rw [List.mem_singleton.1 hmem] at htarget
    cases htarget
  have hrun := run_reopening none 0
  obtain ⟨hfile, -, -, hopened⟩ := lineFile_holds_kept rfl hlogs hrun
  obtain ⟨text, hentry, htext, -⟩ := hopened ⟨_, List.mem_cons_self, rfl⟩
  exact ⟨_, hrun, hfile, text, hentry, htext⟩

/-- **The first commit is gone**, although the counter has counted it. -/
theorem lineFile_reopened_forgets :
    ∃ s, Action.forEach Call.run reopening (topScene none false 0) = (.ok [(), (), (), ()], s) ∧
      (close s).lineFile.lines = (emissions reopening).length ∧
      (close s).disk.entryAt (close s).here (close s).lineFile.path ≠
        some (.file (Text.encode (textOf (emissions reopening)))) := by
  refine ⟨_, run_reopening none 0, ?_, ?_⟩
  · rw [close_topScene]
    rfl
  · rw [close_topScene]
    have hentry : ∀ octets, (topScene (some octets) false 2).disk.entryAt ⟨"/", []⟩ ⟨"", ["out"]⟩ =
        some (.file octets) := by
      intro octets
      cbv
    intro heq
    have hentries := (hentry _).symm.trans heq
    exact encode_lineOf_ne_textOf _ _ (Entry.file.inj (Option.some.inj hentries))

end HistoryMetrics.LineFile
