import HistoryMetrics.Proofs.Action.Agree
import HistoryMetrics.Proofs.Disk.Path
import HistoryMetrics.Proofs.Disk.Placement

/-! # Disks that are the same but at some places

    A path is followed name by name, so it leads to the same on two disks if none of the places on its way
    is among those at which the disks may differ. Files are added to and removed with the same success, and
    the disks are as alike afterwards as they were.

    The file at such a place is out of the way of everybody else: what is written to or removed from other
    places leaves it there, with what it holds, and it can still be added to.

    - `Disk.SameBut`, `Path.Avoids`: the two disks, and paths that avoid the places
    - `SameBut.entryAt_eq`, `SameBut.isThere_eq`, `SameBut.read_eq`: what a path leads to
    - `SameBut.append`, `SameBut.remove`, `SameBut.foldl_written`: changes of both disks
    - `Disk.Offers`: a file that can be added to; `Offers.append`, `Offers.put`, `Offers.erase`
-/

namespace HistoryMetrics

open HistoryMetrics.Action

/-- **A path avoids some places**: none of them is on its way, and none is the folder around its own
    place. -/
structure Path.Avoids (p : Path) (hidden : List String → Prop) (here : Path) : Prop where
  way : ∀ names, names <+: p.parts → ¬ hidden (Disk.place here ⟨p.root, names⟩)
  folder : ¬ hidden (Disk.place here p).dropLast

namespace Disk

variable {hidden : List String → Prop} {d d' : Disk} {here p q : Path} {names other : List String}
  {octets more : List UInt8}

/-- **A path from the top without double dots** avoids all places but itself and those around it. -/
theorem avoids_of_absolute (habs : p.isAbsolute = true) (hdots : ".." ∉ p.parts)
    (h : ∀ names, names <+: p.parts → ¬ hidden names) : p.Avoids hidden here := by
  have hplace : ∀ names, names <+: p.parts → place here ⟨p.root, names⟩ = names := by
    intro names hnames
    have habs' : (Path.mk p.root names).isAbsolute = true := habs
    rw [place, startOf, if_pos habs', Path.foldl_follow fun hmem => hdots (hnames.mem hmem), List.nil_append]
  constructor
  · intro names hnames
    rw [hplace names hnames]
    exact h names hnames
  · have hself : place here p = p.parts := hplace p.parts (List.prefix_refl _)
    rw [hself]
    exact h _ (List.dropLast_prefix _)

/-- **Two disks are the same but at some places.** -/
structure SameBut (hidden : List String → Prop) (d d' : Disk) : Prop where
  unreadable : d'.unreadable = d.unreadable
  find? : ∀ names, ¬ hidden names → d'.find? names = d.find? names

/-! ## Removing -/

theorem find?_erase_of_ne (hne : other ≠ names) : (d.erase names).find? other = d.find? other := by
  unfold erase find?
  by_cases hempty : other.isEmpty = true
  · rw [if_pos hempty, if_pos hempty]
  · rw [if_neg hempty, if_neg hempty]
    induction d.entries with
    | nil => rfl
    | cons e rest ih =>
      obtain ⟨name, content⟩ := e
      by_cases he : name = names
      · have hother : ¬ other = name := fun h => hne (h.trans he)
        have hdrop : (name != names) = false := bne_eq_false_iff_eq.2 he
        simp only [List.filter_cons, hdrop, Bool.false_eq_true, if_false, Entries.lookup_cons_eq,
          if_neg hother]
        exact ih
      · have hkeep : (name != names) = true := bne_iff_ne.2 he
        simp only [List.filter_cons, hkeep, if_true, Entries.lookup_cons_eq]
        rw [ih]

theorem find?_erase (hne : names ≠ []) : (d.erase names).find? names = none := by
  have hempty : names.isEmpty = false := by simpa using hne
  rw [erase, find?, hempty, if_neg Bool.false_ne_true, Entries.lookup_eq_none_iff_names]
  intro hmem
  obtain ⟨e, he, hname⟩ := List.mem_map.1 hmem
  have hkept := (List.mem_filter.1 he).2
  rw [bne_iff_ne] at hkept
  exact hkept hname

/-- A walk passes through folders only, so it does not need a file. -/
theorem walk_erase {start parts : List String} (h : d.walk start parts = .ok names)
    (hfile : d.isFolderAt other = false) : (d.erase other).walk start parts = .ok names := by
  induction parts generalizing start with
  | nil => exact h
  | cons part rest ih =>
    obtain ⟨hfolder, hshort, hrest⟩ := walk_cons_ok_iff.1 h
    have hne : start ≠ other := by
      rintro rfl
      simp [isFolderAt, hfolder] at hfile
    rw [walk_cons_ok_iff, find?_erase_of_ne hne]
    exact ⟨hfolder, hshort, ih hrest⟩

theorem locate_erase (h : d.locate here p = .ok names) (hfile : d.isFolderAt other = false) :
    (d.erase other).locate here p = .ok names := by
  obtain ⟨htaken, hwalk⟩ := locate_ok_iff.1 h
  exact locate_ok_iff.2 ⟨htaken, walk_erase hwalk hfile⟩

/-! ## The same paths -/

namespace SameBut

theorem refl (hidden : List String → Prop) (d : Disk) : SameBut hidden d d := ⟨rfl, fun _ _ => rfl⟩

theorem walk_eq (h : SameBut hidden d d') {start parts : List String}
    (hway : ∀ names, names <+: parts → ¬ hidden (names.foldl Path.follow start)) :
    d'.walk start parts = d.walk start parts := by
  induction parts generalizing start with
  | nil => rfl
  | cons part rest ih =>
    have hrest : ∀ names, names <+: rest → ¬ hidden (names.foldl Path.follow (Path.follow start part)) :=
      fun names hnames => hway (part :: names) (List.cons_prefix_cons.2 ⟨rfl, hnames⟩)
    rw [walk, walk, h.find? start (hway [] List.nil_prefix), ih hrest]

/-- **A path that avoids the places leads to one place on both disks**, or meets the same fault. -/
theorem locate_eq (h : SameBut hidden d d') (hp : p.Avoids hidden here) :
    d'.locate here p = d.locate here p := by
  unfold locate
  rw [h.walk_eq hp.way]

/-- What stands at the place of such a path is the same. -/
theorem find?_place (h : SameBut hidden d d') (hp : p.Avoids hidden here) :
    d'.find? (place here p) = d.find? (place here p) :=
  h.find? _ (hp.way p.parts (List.prefix_refl _))

theorem entryAt_eq (h : SameBut hidden d d') (hp : p.Avoids hidden here) :
    d'.entryAt here p = d.entryAt here p := by
  unfold entryAt
  rw [h.locate_eq hp]
  cases hlocate : d.locate here p with
  | error e => rfl
  | ok names =>
    obtain rfl := locate_ok hlocate
    exact h.find?_place hp

theorem lookAt_eq (h : SameBut hidden d d') (hp : p.Avoids hidden here) :
    d'.lookAt here p = d.lookAt here p := by
  unfold lookAt
  rw [h.locate_eq hp]
  cases hlocate : d.locate here p with
  | error e => rfl
  | ok names =>
    obtain rfl := locate_ok hlocate
    dsimp only
    rw [h.find?_place hp]

theorem isThere_eq (h : SameBut hidden d d') (hp : p.Avoids hidden here) :
    d'.isThere here p = d.isThere here p := by
  rw [isThere, isThere, h.lookAt_eq hp]

theorem isFile_eq (h : SameBut hidden d d') (hp : p.Avoids hidden here) :
    d'.isFile here p = d.isFile here p := by
  rw [isFile, isFile, h.lookAt_eq hp]

theorem read_eq (h : SameBut hidden d d') (hp : p.Avoids hidden here) :
    d'.read here p = d.read here p := by
  unfold read
  rw [h.locate_eq hp, h.unreadable]
  cases hlocate : d.locate here p with
  | error e => rfl
  | ok names =>
    obtain rfl := locate_ok hlocate
    simp only [h.find?_place hp]

theorem target_eq (h : SameBut hidden d d') (hp : p.Avoids hidden here) :
    d'.target here p = d.target here p := by
  unfold target isFolderAt
  rw [h.locate_eq hp]
  cases hlocate : d.locate here p with
  | error e => rfl
  | ok names =>
    obtain rfl := locate_ok hlocate
    dsimp only
    rw [h.find?_place hp, h.find? _ hp.folder]

/-! ## The same changes -/

theorem put (h : SameBut hidden d d') (names : List String) (e : Entry) :
    SameBut hidden (d.put names e) (d'.put names e) where
  unreadable := by rw [unreadable_put, unreadable_put, h.unreadable]
  find? other hother := by
    by_cases hother' : other = names
    · by_cases hne : names = []
      · rw [hother', hne]
        rfl
      · rw [hother', find?_put hne, find?_put hne]
    · rw [find?_put_of_ne hother', find?_put_of_ne hother', h.find? other hother]

theorem erase (h : SameBut hidden d d') (names : List String) :
    SameBut hidden (d.erase names) (d'.erase names) where
  unreadable := h.unreadable
  find? other hother := by
    by_cases hother' : other = names
    · by_cases hne : names = []
      · rw [hother', hne]
        rfl
      · rw [hother', find?_erase hne, find?_erase hne]
    · rw [find?_erase_of_ne hother', find?_erase_of_ne hother', h.find? other hother]

/-- **Both disks are added to at a path**, or neither is. -/
theorem append (h : SameBut hidden d d') (hp : p.Avoids hidden here) (octets : List UInt8) :
    SameEnd (SameBut hidden) (d.append here p octets) (d'.append here p octets) := by
  unfold Disk.append
  rw [h.target_eq hp]
  cases htarget : d.target here p with
  | error e => exact .error e
  | ok names =>
    obtain rfl := locate_ok (target_ok htarget).1
    have hcontents : d'.contents (place here p) = d.contents (place here p) := by
      rw [contents, contents, h.find?_place hp]
    refine .ok ?_
    dsimp only
    rw [hcontents]
    exact h.put _ _

/-- **A file is removed from both disks**, or from neither. -/
theorem remove (h : SameBut hidden d d') (hp : p.Avoids hidden here) :
    SameEnd (SameBut hidden) (d.remove here p) (d'.remove here p) := by
  unfold Disk.remove
  rw [h.locate_eq hp]
  cases hlocate : d.locate here p with
  | error e => exact .error e
  | ok names =>
    obtain rfl := locate_ok hlocate
    simp only [h.find?_place hp]
    cases d.find? (place here p) with
    | none => exact .error _
    | some e =>
      cases e with
      | folder => exact .error _
      | file octets => exact .ok (h.erase _)

theorem written (h : SameBut hidden d d') (time : String) (r : LogRecord) {handler : Handler}
    (hhandler : ∀ file, handler.target = .file file → file.Avoids hidden here) :
    SameBut hidden (Logging.written time r here d handler) (Logging.written time r here d' handler) := by
  unfold Logging.written
  split
  · next file htarget =>
    have hend := h.append (hhandler file htarget) (Text.encode (Logging.fileLine time r).toList)
    rcases hend.cases with ⟨after, after', hd, hd', hafter⟩ | ⟨e, hd, hd'⟩
    · rw [hd, hd']
      exact hafter
    · rw [hd, hd']
      exact h
  · exact h

/-- **The same is logged on both disks**, to files that avoid the places. -/
theorem foldl_written (h : SameBut hidden d d') (time : String) (r : LogRecord) {handlers : List Handler}
    (hhandlers : ∀ handler ∈ handlers, ∀ file, handler.target = .file file →
      file.Avoids hidden here) :
    SameBut hidden (handlers.foldl (Logging.written time r here) d)
      (handlers.foldl (Logging.written time r here) d') := by
  induction handlers generalizing d d' with
  | nil => exact h
  | cons handler rest ih =>
    obtain ⟨hfirst, hrest⟩ := List.forall_mem_cons.1 hhandlers
    exact ih (h.written time r hfirst) hrest

end SameBut

/-! ## A file out of the way -/

/-- **A file that can be added to**, and what it holds. -/
structure Offers (d : Disk) (here p : Path) (octets : List UInt8) : Prop where
  entry : d.entryAt here p = some (.file octets)
  target : d.target here p = .ok (place here p)

theorem target_eq_ok_iff :
    d.target here p = .ok (place here p) ↔ d.locate here p = .ok (place here p) ∧
      d.find? (place here p) ≠ some .folder ∧ d.find? (place here p).dropLast = some .folder := by
  unfold target isFolderAt
  cases hlocate : d.locate here p with
  | error e => simp
  | ok names =>
    obtain rfl := locate_ok hlocate
    dsimp only
    by_cases hfolder : d.find? (place here p) = some .folder
    · simp [hfolder]
    · have hnot : (d.find? (place here p) == some .folder) = false := beq_eq_false_iff_ne.2 hfolder
      rw [hnot, if_neg Bool.false_ne_true]
      cases hparent : d.find? (place here p).dropLast with
      | none => simp
      | some e =>
        cases e with
        | folder => simp [hfolder]
        | file octets => simp

namespace Offers

/-- The file is there on all disks that are the same on its way. -/
theorem of_sameBut (h : d.Offers here p octets) (hsame : SameBut hidden d d')
    (hp : p.Avoids hidden here) : d'.Offers here p octets :=
  ⟨(hsame.entryAt_eq hp).trans h.entry, (hsame.target_eq hp).trans h.target⟩

theorem ne_nil (h : d.Offers here p octets) : place here p ≠ [] := (target_ok h.target).2.2

/-- The file still stands there after something has been put elsewhere, and not in place of a folder. -/
theorem put (h : d.Offers here p octets) (hne : names ≠ place here p)
    (hfile : d.isFolderAt names = false) (e : Entry) : (d.put names e).Offers here p octets := by
  obtain ⟨hlocate, hfind⟩ := entryAt_eq_some h.entry
  obtain ⟨-, hnot, hparent⟩ := (target_eq_ok_iff).1 h.target
  have hlocate' := locate_put hlocate hfile e
  have hfind' : (d.put names e).find? (place here p) = some (.file octets) := by
    rw [find?_put_of_ne (Ne.symm hne), hfind]
  have hdrop : (place here p).dropLast ≠ names := by
    rintro rfl
    simp [isFolderAt, hparent] at hfile
  constructor
  · rw [entryAt, hlocate']
    exact hfind'
  · rw [target_eq_ok_iff, hfind', find?_put_of_ne hdrop]
    exact ⟨hlocate', by simp, hparent⟩

/-- It still stands there after another file has been removed. -/
theorem erase (h : d.Offers here p octets) (hne : names ≠ place here p)
    (hfile : d.isFolderAt names = false) : (d.erase names).Offers here p octets := by
  obtain ⟨hlocate, hfind⟩ := entryAt_eq_some h.entry
  obtain ⟨-, hnot, hparent⟩ := (target_eq_ok_iff).1 h.target
  have hlocate' := locate_erase hlocate hfile
  have hfind' : (d.erase names).find? (place here p) = some (.file octets) := by
    rw [find?_erase_of_ne (Ne.symm hne), hfind]
  have hdrop : (place here p).dropLast ≠ names := by
    rintro rfl
    simp [isFolderAt, hparent] at hfile
  constructor
  · rw [entryAt, hlocate']
    exact hfind'
  · rw [target_eq_ok_iff, hfind', find?_erase_of_ne hdrop]
    exact ⟨hlocate', by simp, hparent⟩

theorem of_append (h : d.Offers here p octets) (hq : place here q ≠ place here p)
    (happend : d.append here q more = .ok d') : d'.Offers here p octets := by
  obtain ⟨htarget, rfl⟩ := append_ok happend
  exact h.put hq (target_ok htarget).2.1 _

theorem of_remove (h : d.Offers here p octets) (hq : place here q ≠ place here p)
    (hremove : d.remove here q = .ok d') : d'.Offers here p octets := by
  unfold Disk.remove at hremove
  cases hlocate : d.locate here q with
  | error e =>
    rw [hlocate] at hremove
    cases hremove
  | ok names =>
    obtain rfl := locate_ok hlocate
    simp only [hlocate] at hremove
    cases hfind : d.find? (place here q) with
    | none =>
      simp only [hfind] at hremove
      cases hremove
    | some e =>
      simp only [hfind] at hremove
      cases e with
      | folder => cases hremove
      | file content =>
        cases hremove
        exact h.erase hq (by simp [isFolderAt, hfind])

theorem foldl_written (h : d.Offers here p octets) (time : String) (r : LogRecord)
    {handlers : List Handler} (hhandlers : ∀ handler ∈ handlers, ∀ file, handler.target = .file file →
      place here file ≠ place here p) :
    (handlers.foldl (Logging.written time r here) d).Offers here p octets := by
  induction handlers generalizing d with
  | nil => exact h
  | cons handler rest ih =>
    obtain ⟨hfirst, hrest⟩ := List.forall_mem_cons.1 hhandlers
    refine ih ?_ hrest
    unfold Logging.written
    split
    · next file htarget =>
      split
      · next happend => exact h.of_append (hfirst file htarget) happend
      · exact h
    · exact h

/-- **The file is added to**: it holds what it held, and then what was added. -/
theorem append (h : d.Offers here p octets) (more : List UInt8) :
    ∃ d', d.append here p more = .ok d' ∧ d'.Offers here p (octets ++ more) ∧
      d'.unreadable = d.unreadable ∧ ∀ names, names ≠ place here p → d'.find? names = d.find? names := by
  obtain ⟨hlocate, hnot, hparent⟩ := (target_eq_ok_iff).1 h.target
  have hfile : d.isFolderAt (place here p) = false := (target_ok h.target).2.1
  have happend : d.append here p more =
      .ok (d.put (place here p) (.file (d.contents (place here p) ++ more))) := by
    rw [Disk.append, h.target]
    rfl
  have hdrop : (place here p).dropLast ≠ place here p := by
    intro hsame
    rw [hsame] at hparent
    exact hnot hparent
  refine ⟨_, happend, ⟨entryAt_append h.entry happend, ?_⟩, unreadable_put _ _ _, ?_⟩
  · rw [target_eq_ok_iff, find?_put h.ne_nil, find?_put_of_ne hdrop]
    exact ⟨locate_put hlocate hfile _, by simp, hparent⟩
  · intro names hne
    exact find?_put_of_ne hne _

/-- A file that was put where one can be written can be added to. -/
theorem of_target (h : d.target here p = .ok (place here p)) (octets : List UInt8) :
    (d.put (place here p) (.file octets)).Offers here p octets := by
  obtain ⟨hlocate, hfolder, hne⟩ := target_ok h
  obtain ⟨-, hnot, hparent⟩ := (target_eq_ok_iff).1 h
  have hdrop : (place here p).dropLast ≠ place here p := by
    intro hsame
    rw [hsame] at hparent
    exact hnot hparent
  refine ⟨entryAt_put h octets, ?_⟩
  rw [target_eq_ok_iff, find?_put hne, find?_put_of_ne hdrop]
  exact ⟨locate_put hlocate hfolder _, by simp, hparent⟩

/-- A file that was written anew can be added to. -/
theorem of_write (h : d.write here p octets = .ok d') : d'.Offers here p octets := by
  obtain ⟨htarget, rfl⟩ := write_ok h
  exact of_target htarget octets

/-- A file that was added to can be added to again. -/
theorem of_added (h : d.append here p octets = .ok d') :
    d'.Offers here p (d.contents (place here p) ++ octets) := by
  obtain ⟨htarget, rfl⟩ := append_ok h
  exact of_target htarget _

end Offers

end Disk

end HistoryMetrics
