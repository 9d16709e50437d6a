import HistoryMetrics.Log.Delivery
import HistoryMetrics.Proofs.Disk.Path
import HistoryMetrics.Proofs.Lookup

/-! # Where files are put

    A path leads to one place, if it leads anywhere: the names that are left when its double dots are
    followed. Writing puts a file at this place and leaves all other places as they are; and as a file
    never takes the place of a folder, all paths that led somewhere lead there still.

    - `Disk.place`: the place of a path
    - `find?_put`, `find?_put_of_ne`: what stands where after an entry has been put
    - `write_ok`, `append_ok`: writing puts a file at the place of the path
    - `entryAt_write`, `entryAt_append`: what the path leads to afterwards
    - `lookAt_append_eq`, `entryAt_append_eq`: what other paths lead to
    - `Logging.lookAt_foldl_written`: what they lead to after a record has been logged
-/

namespace HistoryMetrics.Disk

variable {d d' : Disk} {here p q : Path} {names other : List String} {octets : List UInt8}

/-! ## Entries -/

/-- **An entry that was put somewhere stands there.** -/
theorem find?_put (hne : names ≠ []) (e : Entry) : (d.put names e).find? names = some e := by
  have hempty : names.isEmpty = false := by simpa using hne
  unfold put find?
  by_cases h : (d.entries.any fun x => x.1 == names) = true
  · obtain ⟨x, hx, hname⟩ := List.any_eq_true.1 h
    have hmem : names ∈ d.entries.map Prod.fst :=
      List.mem_map.2 ⟨x, hx, beq_iff_eq.1 hname⟩
    cases hold : d.entries.lookup names with
    | none => exact absurd hmem (Entries.lookup_eq_none_iff_names.1 hold)
    | some old => simp only [hempty, h, if_true, Entries.lookup_replace, hold, Option.map_some,
        Bool.false_eq_true, if_false]
  · have hnone : d.entries.lookup names = none := by
      rw [Entries.lookup_eq_none_iff_names]
      rintro hmem
      obtain ⟨x, hx, hname⟩ := List.mem_map.1 hmem
      exact h (List.any_eq_true.2 ⟨x, hx, beq_iff_eq.2 hname⟩)
    simp [hempty, h, List.lookup_append, hnone]

/-- All other places are left as they are. -/
theorem find?_put_of_ne (hne : other ≠ names) (e : Entry) :
    (d.put names e).find? other = d.find? other := by
  unfold put find?
  split
  · rfl
  · split
    · simp only [Entries.lookup_replace, if_neg hne]
    · simp [List.lookup_append, Entries.lookup_cons_eq, hne]

/-! ## Paths -/

/-- **The place of a path**, seen from a folder. -/
def place (here p : Path) : List String := p.parts.foldl Path.follow (startOf here p)

/-- **A walk goes on** through a folder, to a name that is not too long. -/
theorem walk_cons_ok_iff {start rest : List String} {part : String} :
    d.walk start (part :: rest) = .ok names ↔
      d.find? start = some .folder ∧ Path.isLongName part = false ∧
        d.walk (Path.follow start part) rest = .ok names := by
  rw [walk]
  cases d.find? start with
  | none => simp
  | some e =>
    cases e with
    | file octets => simp
    | folder => cases Path.isLongName part <;> simp

theorem walk_ok {start parts : List String} (h : d.walk start parts = .ok names) :
    names = parts.foldl Path.follow start := by
  induction parts generalizing start with
  | nil =>
    cases h
    rfl
  | cons part rest ih =>
    obtain ⟨-, -, hrest⟩ := walk_cons_ok_iff.1 h
    exact ih hrest

theorem locate_ok_iff :
    d.locate here p = .ok names ↔
      refusal? p = none ∧ d.walk (startOf here p) p.parts = .ok names := by
  unfold locate
  cases refusal? p with
  | some e =>
    constructor
    · intro h
      cases h
    · rintro ⟨h, -⟩
      cases h
  | none =>
    constructor
    · exact fun h => ⟨rfl, h⟩
    · exact fun h => h.2

/-- A path leads to its place, if it leads anywhere. -/
theorem locate_ok (h : d.locate here p = .ok names) : names = place here p :=
  walk_ok (locate_ok_iff.1 h).2

theorem holdsNull_of_plain (h : ∀ part ∈ p.parts, '\x00' ∉ part.toList) : holdsNull p = false := by
  simpa [holdsNull, String.contains_char_eq] using h

/-- A path without null characters that is not too long is taken. -/
theorem refusal?_of_plain (h : ∀ part ∈ p.parts, '\x00' ∉ part.toList) (hshort : p.isLong = false) :
    refusal? p = none := by
  rw [refusal?, holdsNull_of_plain h, hshort]
  rfl

/-- **A path that is taken** is walked from the top, or from the folder. -/
theorem locate_of_plain (h : ∀ part ∈ p.parts, '\x00' ∉ part.toList) (hshort : p.isLong = false) :
    d.locate here p = d.walk (startOf here p) p.parts := by
  rw [locate, refusal?_of_plain h hshort]

/-- **A short name at the top** leads to the place of this name, whether or not anything stands there. -/
theorem locate_topName {root name : String} (hstart : startOf here ⟨root, [name]⟩ = [])
    (hroot : root.utf8ByteSize ≤ 2) (hplain : '\x00' ∉ name.toList) (hdots : name ≠ "..")
    (hshort : name.utf8ByteSize ≤ 255) : d.locate here ⟨root, [name]⟩ = .ok [name] := by
  have hname : Path.isLongName name = false := by
    rw [Path.isLongName_eq, decide_eq_false (Nat.not_lt.2 hshort)]
  have hpath : (Path.mk root [name]).isLong = false := by
    apply Path.isLong_eq_false
    simp only [List.map_cons, List.map_nil, List.sum_cons, List.sum_nil]
    omega
  have hplain' : ∀ part ∈ (Path.mk root [name]).parts, '\x00' ∉ part.toList :=
    List.forall_mem_singleton.2 hplain
  have htop : d.find? [] = some .folder := rfl
  rw [locate_of_plain hplain' hpath, hstart, walk_cons_ok_iff, Path.follow, beq_eq_false_iff_ne.2 hdots]
  exact ⟨htop, hname, rfl⟩

/-- A walk passes through folders only, and no folder is replaced. -/
theorem walk_put {start parts : List String} (h : d.walk start parts = .ok names)
    (hfile : d.isFolderAt other = false) (e : Entry) :
    (d.put other e).walk start parts = .ok names := by
  induction parts generalizing start with
  | nil => exact h
  | cons part rest ih =>
    obtain ⟨hfolder, hshort, hrest⟩ := walk_cons_ok_iff.1 h
    have hne : start ≠ other := by
      rintro rfl
      simp [isFolderAt, hfolder] at hfile
    rw [walk_cons_ok_iff, find?_put_of_ne hne]
    exact ⟨hfolder, hshort, ih hrest⟩

theorem locate_put (h : d.locate here p = .ok names) (hfile : d.isFolderAt other = false) (e : Entry) :
    (d.put other e).locate here p = .ok names := by
  obtain ⟨htaken, hwalk⟩ := locate_ok_iff.1 h
  exact locate_ok_iff.2 ⟨htaken, walk_put hwalk hfile e⟩

/-- A walk that passes through folders only does not pass through a file that was put somewhere. -/
theorem walk_of_put {start parts : List String} (hne : other ≠ [])
    (h : (d.put other (.file octets)).walk start parts = .ok names) :
    d.walk start parts = .ok names := by
  induction parts generalizing start with
  | nil => exact h
  | cons part rest ih =>
    obtain ⟨hfolder, hshort, hrest⟩ := walk_cons_ok_iff.1 h
    by_cases hstart : start = other
    · rw [hstart, find?_put hne] at hfolder
      cases hfolder
    · rw [find?_put_of_ne hstart] at hfolder
      exact walk_cons_ok_iff.2 ⟨hfolder, hshort, ih hrest⟩

theorem locate_of_put (hne : other ≠ [])
    (h : (d.put other (.file octets)).locate here p = .ok names) : d.locate here p = .ok names := by
  obtain ⟨htaken, hwalk⟩ := locate_ok_iff.1 h
  exact locate_ok_iff.2 ⟨htaken, walk_of_put hne hwalk⟩

/-- **A walk meets the same faults**, except that nothing stands at the path, after a file was put
    somewhere. -/
theorem walk_put_error_iff {start parts : List String} {e : PathFault} (hne : other ≠ [])
    (hfile : d.isFolderAt other = false) (he : e.isAbsence = false) :
    (d.put other (.file octets)).walk start parts = .error e ↔ d.walk start parts = .error e := by
  induction parts generalizing start with
  | nil => rw [walk, walk]
  | cons part rest ih =>
    rw [walk, walk]
    by_cases hstart : start = other
    · -- the walk ends here on both disks, and nothing stands at the path
      rw [hstart, find?_put hne]
      cases hfind : d.find? other with
      | none => cases e <;> simp_all [PathFault.isAbsence]
      | some entry =>
        cases entry with
        | file octets' => rfl
        | folder => simp [isFolderAt, hfind] at hfile
    · rw [find?_put_of_ne hstart]
      cases d.find? start with
      | none => rfl
      | some entry =>
        cases entry with
        | file octets' => rfl
        | folder =>
          dsimp only
          split
          · rfl
          · exact ih

theorem locate_put_error_iff {e : PathFault} (hne : other ≠ []) (hfile : d.isFolderAt other = false)
    (he : e.isAbsence = false) :
    (d.put other (.file octets)).locate here p = .error e ↔ d.locate here p = .error e := by
  unfold locate
  cases refusal? p with
  | some e' => rfl
  | none => exact walk_put_error_iff hne hfile he

/-! ## Writing -/

/-- **Where a file can be written**: at the place of the path, which is not that of a folder. -/
theorem target_ok (h : d.target here p = .ok names) :
    d.locate here p = .ok names ∧ d.isFolderAt names = false ∧ names ≠ [] := by
  unfold target at h
  cases hlocate : d.locate here p with
  | error e => simp [hlocate] at h
  | ok found =>
    simp only [hlocate] at h
    cases hfolder : d.isFolderAt found with
    | true => simp [hfolder] at h
    | false =>
      have hfound : found = names := by
        simp only [hfolder, Bool.false_eq_true, if_false] at h
        split at h
        · cases h
          rfl
        · cases h
        · cases h
      subst hfound
      refine ⟨rfl, hfolder, ?_⟩
      rintro rfl
      simp [isFolderAt, find?] at hfolder

theorem write_ok (h : d.write here p octets = .ok d') :
    d.target here p = .ok (place here p) ∧ d' = d.put (place here p) (.file octets) := by
  unfold write at h
  cases htarget : d.target here p with
  | error e =>
    rw [htarget] at h
    cases h
  | ok names =>
    obtain rfl := locate_ok (target_ok htarget).1
    rw [htarget] at h
    cases h
    exact ⟨rfl, rfl⟩

theorem append_ok (h : d.append here p octets = .ok d') :
    d.target here p = .ok (place here p) ∧
      d' = d.put (place here p) (.file (d.contents (place here p) ++ octets)) := by
  unfold append at h
  cases htarget : d.target here p with
  | error e =>
    rw [htarget] at h
    cases h
  | ok names =>
    obtain rfl := locate_ok (target_ok htarget).1
    rw [htarget] at h
    cases h
    exact ⟨rfl, rfl⟩

/-- What a path leads to stands at its place. -/
theorem entryAt_eq_some {e : Entry} (h : d.entryAt here p = some e) :
    d.locate here p = .ok (place here p) ∧ d.find? (place here p) = some e := by
  unfold entryAt at h
  cases hlocate : d.locate here p with
  | error f => simp [hlocate] at h
  | ok names =>
    obtain rfl := locate_ok hlocate
    rw [hlocate] at h
    exact ⟨rfl, h⟩

theorem entryAt_put (h : d.target here p = .ok (place here p)) (octets : List UInt8) :
    (d.put (place here p) (.file octets)).entryAt here p = some (.file octets) := by
  obtain ⟨hlocate, hfolder, hne⟩ := target_ok h
  rw [entryAt, locate_put hlocate hfolder]
  exact find?_put hne _

/-- **A file that was written holds what was written.** -/
theorem entryAt_write (h : d.write here p octets = .ok d') :
    d'.entryAt here p = some (.file octets) := by
  obtain ⟨htarget, rfl⟩ := write_ok h
  exact entryAt_put htarget octets

/-- **A file that was added to holds what it held, and then what was added.** -/
theorem entryAt_append {before : List UInt8} (hfile : d.entryAt here p = some (.file before))
    (h : d.append here p octets = .ok d') :
    d'.entryAt here p = some (.file (before ++ octets)) := by
  obtain ⟨htarget, rfl⟩ := append_ok h
  have hcontents : d.contents (place here p) = before := by
    simp only [contents, (entryAt_eq_some hfile).2]
  rw [hcontents]
  exact entryAt_put htarget _

/-- The only fault of a walk that is more than an absence. -/
theorem walk_error {start parts : List String} {e : PathFault} (h : d.walk start parts = .error e)
    (he : e.isAbsence = false) : e = .tooLong := by
  induction parts generalizing start with
  | nil => cases h
  | cons part rest ih =>
    rw [walk] at h
    split at h
    · split at h
      · cases h
        rfl
      · exact ih h
    · cases h
      cases he
    · cases h
      cases he

/-- **The one fault of looking at a path**: the system does not take it, as it is too long. -/
theorem lookAt_error {e : PathFault} (h : d.lookAt here p = .error e) :
    e = .tooLong ∧ d.locate here p = .error .tooLong := by
  unfold lookAt at h
  cases hlocate : d.locate here p with
  | ok names =>
    rw [hlocate] at h
    cases h
  | error e' =>
    simp only [hlocate] at h
    split at h
    · cases h
    · next hpresent =>
      cases h
      rw [Bool.not_eq_true] at hpresent
      have htooLong : e = .tooLong := by
        unfold locate refusal? at hlocate
        split at hlocate
        · next hrefusal =>
          cases hlocate
          split at hrefusal
          · cases hrefusal
            cases hpresent
          · split at hrefusal
            · cases hrefusal
              rfl
            · cases hrefusal
        · exact walk_error hlocate hpresent
      rw [htooLong]
      exact ⟨rfl, rfl⟩

/-- A path that leads to a place tells what stands there. -/
theorem lookAt_of_locate (h : d.locate here p = .ok names) : d.lookAt here p = .ok (d.find? names) := by
  rw [lookAt, h]

/-- What a path leads to, from what the system tells of it. -/
theorem entryAt_eq_lookAt : d.entryAt here p = (d.lookAt here p).toOption.join := by
  unfold entryAt lookAt
  cases d.locate here p with
  | ok names => rfl
  | error e => cases he : e.isAbsence <;> simp [he, Except.toOption]

/-- A walk along short names fails only where nothing stands. -/
theorem isAbsence_of_walk {start parts : List String} {e : PathFault}
    (hnames : ∀ part ∈ parts, Path.isLongName part = false) (h : d.walk start parts = .error e) :
    e.isAbsence = true := by
  induction parts generalizing start with
  | nil => cases h
  | cons part rest ih =>
    obtain ⟨hpart, hrest⟩ := List.forall_mem_cons.1 hnames
    rw [walk, hpart] at h
    split at h
    · exact ih hrest h
    · cases h
      rfl
    · cases h
      rfl

/-- **A path without long names that is not too long** is taken. -/
theorem lookAt_ok (hshort : p.isLong = false) (hnames : ∀ part ∈ p.parts, Path.isLongName part = false) :
    ∃ e, d.lookAt here p = .ok e := by
  have hlocate : ∀ e, d.locate here p = .error e → e.isAbsence = true := by
    intro e h
    unfold locate refusal? at h
    rw [hshort] at h
    cases hnull : holdsNull p with
    | true =>
      simp only [hnull, if_true] at h
      cases h
      rfl
    | false =>
      simp only [hnull, Bool.false_eq_true, if_false] at h
      exact isAbsence_of_walk hnames h
  unfold lookAt
  cases hend : d.locate here p with
  | ok names => exact ⟨_, rfl⟩
  | error e => exact ⟨none, by simp [hlocate e hend]⟩

/-- **Paths to other places** tell what they told, also if this is nothing or a fault. -/
theorem lookAt_append_eq (hne : place here q ≠ place here p) (h : d.append here q octets = .ok d') :
    d'.lookAt here p = d.lookAt here p := by
  obtain ⟨htarget, rfl⟩ := append_ok h
  obtain ⟨-, hfile, hne'⟩ := target_ok htarget
  unfold lookAt
  cases hlocate : d.locate here p with
  | ok names =>
    obtain rfl := locate_ok hlocate
    rw [locate_put hlocate hfile]
    dsimp only
    rw [find?_put_of_ne (Ne.symm hne)]
  | error e =>
    cases he : e.isAbsence with
    | false => rw [(locate_put_error_iff hne' hfile he).2 hlocate]
    | true =>
      -- on the other disk nothing stands there either, maybe for another reason
      cases hlocate' : (d.put (place here q)
          (.file (d.contents (place here q) ++ octets))).locate here p with
      | ok names =>
        rw [locate_of_put hne' hlocate'] at hlocate
        cases hlocate
      | error e' =>
        cases he' : e'.isAbsence with
        | true => simp [he, he']
        | false =>
          rw [(locate_put_error_iff hne' hfile he').1 hlocate'] at hlocate
          cases hlocate
          exact absurd he' (by rw [he]; decide)

theorem entryAt_append_eq (hne : place here q ≠ place here p) (h : d.append here q octets = .ok d') :
    d'.entryAt here p = d.entryAt here p := by
  rw [entryAt_eq_lookAt, entryAt_eq_lookAt, lookAt_append_eq hne h]

/-- The files that cannot be read are the same after a file has been put somewhere. -/
theorem unreadable_put (d : Disk) (names : List String) (e : Entry) :
    (d.put names e).unreadable = d.unreadable := by
  unfold put
  split
  · rfl
  · rfl

end HistoryMetrics.Disk

namespace HistoryMetrics.Logging

/-! ## Logs -/

variable (time : String) (r : LogRecord) (here : Path)

theorem unreadable_written (disk : Disk) (h : Handler) :
    (written time r here disk h).unreadable = disk.unreadable := by
  unfold written
  split
  · split
    · next happend =>
      obtain ⟨-, rfl⟩ := Disk.append_ok happend
      exact Disk.unreadable_put _ _ _
    · rfl
  · rfl

theorem unreadable_foldl_written (disk : Disk) (handlers : List Handler) :
    (handlers.foldl (written time r here) disk).unreadable = disk.unreadable := by
  induction handlers generalizing disk with
  | nil => rfl
  | cons h rest ih => rw [List.foldl_cons, ih, unreadable_written]

theorem lookAt_written_eq {disk : Disk} {h : Handler} {p : Path}
    (helsewhere : ∀ file, h.target = .file file → Disk.place here file ≠ Disk.place here p) :
    (written time r here disk h).lookAt here p = disk.lookAt here p := by
  unfold written
  split
  · next file htarget =>
    split
    · next happend => exact Disk.lookAt_append_eq (helsewhere file htarget) happend
    · rfl
  · rfl

/-- **What handlers write leaves all paths alone** that lead to other places than their files. -/
theorem lookAt_foldl_written {disk : Disk} {handlers : List Handler} {p : Path}
    (helsewhere : ∀ h ∈ handlers, ∀ file, h.target = .file file →
      Disk.place here file ≠ Disk.place here p) :
    (handlers.foldl (written time r here) disk).lookAt here p = disk.lookAt here p := by
  induction handlers generalizing disk with
  | nil => rfl
  | cons h rest ih =>
    obtain ⟨hfirst, hrest⟩ := List.forall_mem_cons.1 helsewhere
    rw [List.foldl_cons, ih hrest, lookAt_written_eq time r here hfirst]

theorem entryAt_foldl_written {disk : Disk} {handlers : List Handler} {p : Path}
    (helsewhere : ∀ h ∈ handlers, ∀ file, h.target = .file file →
      Disk.place here file ≠ Disk.place here p) :
    (handlers.foldl (written time r here) disk).entryAt here p = disk.entryAt here p := by
  rw [Disk.entryAt_eq_lookAt, Disk.entryAt_eq_lookAt, lookAt_foldl_written time r here helsewhere]

end HistoryMetrics.Logging
