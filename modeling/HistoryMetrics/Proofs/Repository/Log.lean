import HistoryMetrics.Proofs.Repository.Changes
import HistoryMetrics.Proofs.Time.Iso
import Mathlib.Data.List.DropRight

/-! # The history, printed and read back

    Git prints a commit as nine fields with null characters between them, and ends it with a record
    separator and a line feed. No field but the message may hold a null character; names, addresses and
    messages may well hold a record separator, since git does not care. Here the printed form is defined,
    and the history is shown to be read back just when none of them does.

    - `PrintedPerson`, `PrintedCommit`: what git prints of a commit
    - `PrintedCommit.ofRecord_record`: a record is read back
    - `PrintedCommit.records_print`: the records of a history
    - `Repository.commits_noSeparator`: no text of a commit that was read holds a record separator
    - `commits_print_iff`: the whole history
-/

namespace HistoryMetrics

/-! ## The printed form -/

/-- **What git prints of a person**: a name, an address, and a moment in one of its spellings. -/
structure PrintedPerson where
  name : String
  address : String
  written : String
  moment : Moment
  name_noNull : '\x00' ∉ name.toList
  address_noNull : '\x00' ∉ address.toList
  written_noNull : '\x00' ∉ written.toList
  written_noSeparator : '\x1e' ∉ written.toList
  written_read : Moment.read written = .ok moment

/-- Does a text consist of hexadecimal digits? -/
def IsHex (s : String) : Prop := ∀ c ∈ s.toList, c.isHexDigit = true

instance (s : String) : Decidable (IsHex s) :=
  List.decidableBAll (fun c : Char => c.isHexDigit = true) s.toList

/-- **What git prints of a commit.** -/
structure PrintedCommit where
  id : String
  parents : List String
  author : PrintedPerson
  committer : PrintedPerson
  body : String
  id_hex : IsHex id
  parents_hex : ∀ p ∈ parents, p ≠ "" ∧ IsHex p

/-- The person that was printed. -/
def PrintedPerson.person (p : PrintedPerson) : Person := ⟨p.name, p.address, p.moment⟩

namespace PrintedCommit

/-- The fields of a commit, in their order. -/
def fields (e : PrintedCommit) : List String :=
  [e.id, " ".intercalate e.parents, e.author.name, e.author.address, e.author.written,
    e.committer.name, e.committer.address, e.committer.written, e.body]

/-- The record of a commit. -/
def record (e : PrintedCommit) : List Char := ['\x00'].intercalate (e.fields.map String.toList)

/-- **The printed history.** -/
def print (es : List PrintedCommit) : String :=
  String.ofList (es.flatMap fun e => e.record ++ ['\x1e', '\n'])

/-- **The commit that was printed**, with its changes. Line feeds at the end of a body do not belong to
    the message. -/
def commit (e : PrintedCommit) (changes : List Change) : Commit where
  id := e.id
  message := String.ofList (e.body.toList.rdropWhile (· == '\n'))
  author := e.author.person
  committer := e.committer.person
  parents := e.parents
  changes := changes

/-- The texts that people write. -/
def texts (e : PrintedCommit) : List String :=
  [e.author.name, e.author.address, e.committer.name, e.committer.address, e.body]

end PrintedCommit

namespace PrintedCommit

/-! ## One record -/

theorem isBlank_of_isHexDigit {c : Char} (h : c.isHexDigit = true) : Text.isBlank c = false := by
  have hval : c.toNat = c.val.toNat := rfl
  simp only [Char.isHexDigit, Char.isDigit, Bool.or_eq_true, Bool.and_eq_true, decide_eq_true_eq,
    ge_iff_le, UInt32.le_iff_toNat_le] at h
  simp at h
  -- no white space lies between the digits and the letters
  simp [Text.isBlank]
  omega

variable (e : PrintedCommit)

/-- The parents hold nothing but digits and spaces. -/
theorem not_mem_parents {c : Char} (hc : c.isHexDigit = false) (hspace : c ≠ ' ') :
    c ∉ (" ".intercalate e.parents).toList := by
  rw [String.toList_intercalate]
  intro hmem
  rcases Text.mem_intercalate hmem with h | ⟨p, hp, h⟩
  · exact hspace (List.mem_singleton.1 h)
  · obtain ⟨parent, hparent, rfl⟩ := List.mem_map.1 hp
    rw [(e.parents_hex parent hparent).2 c h] at hc
    cases hc

theorem words_parents :
    (Text.words (" ".intercalate e.parents).toList).map String.ofList = e.parents := by
  have hwords : Text.words (" ".intercalate e.parents).toList = e.parents.map String.toList := by
    rw [String.toList_intercalate]
    refine Text.words_intercalate (fun p hp => ?_) fun p hp c hc => ?_
    · obtain ⟨parent, hparent, rfl⟩ := List.mem_map.1 hp
      intro hnil
      exact (e.parents_hex parent hparent).1 (String.toList_eq_nil_iff.1 hnil)
    · obtain ⟨parent, hparent, rfl⟩ := List.mem_map.1 hp
      exact isBlank_of_isHexDigit ((e.parents_hex parent hparent).2 c hc)
  rw [hwords, List.map_map]
  exact List.map_id'' (fun _ => String.ofList_toList) e.parents

/-- A record of its first fields, and its message. -/
theorem record_eq : e.record = e.id.toList ++ '\x00' :: ((" ".intercalate e.parents).toList ++
    '\x00' :: (e.author.name.toList ++ '\x00' :: (e.author.address.toList ++
    '\x00' :: (e.author.written.toList ++ '\x00' :: (e.committer.name.toList ++
    '\x00' :: (e.committer.address.toList ++ '\x00' :: (e.committer.written.toList ++
    '\x00' :: e.body.toList))))))) := by
  simp [record, fields, List.intercalate]

theorem id_noNull : '\x00' ∉ e.id.toList := fun h => absurd (e.id_hex _ h) (by decide)

/-- The fields are where the null characters are, and a message may hold more of them. -/
theorem splitAtMost_record : Text.splitAtMost '\x00' 8 e.record = e.fields.map String.toList := by
  rw [record_eq, Text.splitAtMost_append_sep e.id_noNull,
    Text.splitAtMost_append_sep (e.not_mem_parents (by decide) (by decide)),
    Text.splitAtMost_append_sep e.author.name_noNull,
    Text.splitAtMost_append_sep e.author.address_noNull,
    Text.splitAtMost_append_sep e.author.written_noNull,
    Text.splitAtMost_append_sep e.committer.name_noNull,
    Text.splitAtMost_append_sep e.committer.address_noNull,
    Text.splitAtMost_append_sep e.committer.written_noNull, Text.splitAtMost]
  rfl

theorem person_eq (id : String) (p : PrintedPerson) :
    History.person id p.name.toList p.address.toList p.written.toList = .ok p.person := by
  rw [History.person, String.ofList_toList, p.written_read]
  simp only [String.ofList_toList]
  rfl

/-- **A record is read back.** -/
theorem ofRecord_record : History.ofRecord e.record = .ok (e.commit []) := by
  rw [History.ofRecord, splitAtMost_record]
  simp only [fields, List.map_cons, List.map_nil, person_eq, words_parents, String.ofList_toList]
  rfl

/-! ## The records of a history -/

/-- A record begins with an id, and not with a line feed. -/
theorem trimmed_record : History.trimmed e.record = e.record := by
  rw [History.trimmed, Text.trimStart, record_eq]
  cases hid : e.id.toList with
  | nil => rfl
  | cons c cs =>
    have hc : (c == '\n') = false := by
      rw [beq_eq_false_iff_ne]
      rintro rfl
      exact absurd (e.id_hex '\n' (by rw [hid]; exact List.mem_cons_self)) (by decide)
    rw [List.cons_append, List.dropWhile_cons_of_neg (by rw [hc]; exact Bool.false_ne_true)]

theorem record_ne_nil : e.record ≠ [] := by
  rw [record_eq]
  simp

/-- **No text of the commit holds a record separator.** -/
def NoSeparator : Prop := ∀ s ∈ e.texts, '\x1e' ∉ s.toList

instance : Decidable e.NoSeparator :=
  inferInstanceAs (Decidable (∀ s ∈ e.texts, '\x1e' ∉ s.toList))

variable {e}

theorem NoSeparator.record (h : e.NoSeparator) : '\x1e' ∉ e.record := by
  obtain ⟨hname, haddress, hname', haddress', hbody⟩ : '\x1e' ∉ e.author.name.toList ∧
      '\x1e' ∉ e.author.address.toList ∧ '\x1e' ∉ e.committer.name.toList ∧
      '\x1e' ∉ e.committer.address.toList ∧ '\x1e' ∉ e.body.toList := by
    simpa [NoSeparator, texts] using h
  have hfields : ∀ s ∈ e.fields, '\x1e' ∉ s.toList := by
    simp only [fields, List.forall_mem_cons]
    exact ⟨fun hmem => absurd (e.id_hex _ hmem) (by decide),
      e.not_mem_parents (by decide) (by decide), hname, haddress, e.author.written_noSeparator,
      hname', haddress', e.committer.written_noSeparator, hbody,
      fun s hs => absurd hs List.not_mem_nil⟩
  intro hmem
  rcases Text.mem_intercalate hmem with hsep | ⟨field, hfield, hc⟩
  · exact absurd (List.mem_singleton.1 hsep) (by decide)
  · obtain ⟨s, hs, rfl⟩ := List.mem_map.1 hfield
    exact hfields s hs hc

end PrintedCommit

namespace History

/-- The records of a text. -/
def recordsIn (cs : List Char) : List (List Char) :=
  ((Text.splitOn '\x1e' cs).map trimmed).filter fun r => !r.isEmpty

/-- A line feed in front of a text belongs to no record. -/
theorem recordsIn_lineFeed (cs : List Char) : recordsIn ('\n' :: cs) = recordsIn cs := by
  have hsplit : Text.splitOn '\x1e' ('\n' :: cs) = Text.joinLine '\n' (Text.splitOn '\x1e' cs) := rfl
  unfold recordsIn
  rw [hsplit]
  cases Text.splitOn '\x1e' cs with
  | nil => rfl
  | cons p ps => rfl

/-- A record ends with its separator, and the line feed after it is passed over. -/
theorem recordsIn_append {record : List Char} (hseparator : '\x1e' ∉ record)
    (htrimmed : trimmed record = record) (hne : record ≠ []) (rest : List Char) :
    recordsIn (record ++ '\x1e' :: '\n' :: rest) = record :: recordsIn rest := by
  rw [← recordsIn_lineFeed rest]
  unfold recordsIn
  rw [Text.splitOn_append_sep hseparator, List.map_cons, htrimmed, List.filter_cons_of_pos]
  simpa using hne

end History

namespace PrintedCommit

/-- **The records of a history are those that were printed**, when no text holds a separator. -/
theorem records_print {es : List PrintedCommit} (h : ∀ e ∈ es, e.NoSeparator) :
    History.records (print es) = es.map record := by
  rw [History.records, print, String.toList_ofList]
  show History.recordsIn _ = _
  induction es with
  | nil => rfl
  | cons e es ih =>
    obtain ⟨he, hes⟩ := List.forall_mem_cons.1 h
    rw [List.flatMap_cons, List.append_assoc, List.map_cons, ← ih hes]
    exact History.recordsIn_append he.record e.trimmed_record e.record_ne_nil _

end PrintedCommit

/-! ## Reading the history -/

/-- The texts of a commit that people write. -/
def Commit.texts (c : Commit) : List String :=
  [c.author.name, c.author.email, c.committer.name, c.committer.email, c.message]

namespace History

theorem person_ok {id : String} {name address moment : List Char} {p : Person}
    (h : person id name address moment = .ok p) :
    p.name = String.ofList name ∧ p.email = String.ofList address := by
  unfold person at h
  split at h
  · cases h
    exact ⟨rfl, rfl⟩
  · cases h

theorem mem_of_mem_trimEnd {drop : Char → Bool} {cs : List Char} {c : Char}
    (h : c ∈ Text.trimEnd drop cs) : c ∈ cs := by
  rw [Text.trimEnd, List.mem_reverse] at h
  exact List.mem_reverse.1 ((List.dropWhile_sublist drop).mem h)

/-- The texts of a commit come from its record. -/
theorem mem_of_ofRecord {record : List Char} {commit : Commit} (h : ofRecord record = .ok commit) :
    ∀ s ∈ commit.texts, ∀ c ∈ s.toList, c ∈ record := by
  unfold ofRecord at h
  split at h
  case h_2 => cases h
  case h_1 id parents name address moment name' address' moment' body hpieces =>
    have hpiece : ∀ piece ∈ [name, address, name', address', body], ∀ c ∈ piece, c ∈ record := by
      intro piece hpiece c hc
      have hmem : piece ∈ Text.splitAtMost '\x00' 8 record := by
        rw [hpieces]
        simp only [List.mem_cons, List.not_mem_nil, or_false] at hpiece ⊢
        tauto
      exact Text.mem_of_mem_splitAtMost hmem hc
    split at h
    case h_1 => cases h
    case h_2 => cases h
    case h_3 author committer hauthor hcommitter =>
      cases h
      obtain ⟨hname, haddress⟩ := person_ok hauthor
      obtain ⟨hname', haddress'⟩ := person_ok hcommitter
      simp only [List.forall_mem_cons] at hpiece
      obtain ⟨hp₁, hp₂, hp₃, hp₄, hp₅, -⟩ := hpiece
      simp only [Commit.texts, hname, haddress, hname', haddress', List.forall_mem_cons,
        String.toList_ofList]
      exact ⟨hp₁, hp₂, hp₃, hp₄, fun c hc => hp₅ c (mem_of_mem_trimEnd hc),
        fun s hs => absurd hs List.not_mem_nil⟩

/-- A record is what stands between two separators. -/
theorem not_mem_of_mem_records {text : String} {record : List Char} (h : record ∈ records text) :
    '\x1e' ∉ record := by
  obtain ⟨piece, hpiece, rfl⟩ := List.mem_map.1 (List.mem_filter.1 h).1
  intro hmem
  exact Text.not_mem_of_mem_splitOn hpiece ((List.dropWhile_sublist _).mem hmem)

end History

namespace Repository

variable {σ : Type}

/-- The command that prints the history. -/
def logArguments (selection : List String) : List String :=
  ["log", "--format=" ++ History.format] ++ selection

theorem records_ok_iff {r : Repository} {selection : List String} {w w₁ : World σ}
    {found : List (List Char)} : r.records selection w = (.ok found, w₁) ↔
      ∃ text, r.run (logArguments selection) none w = (.ok text, w₁) ∧
        found = History.records text := by
  rw [records, Action.bind_ok_iff]
  constructor
  · rintro ⟨text, w', hrun, hpure⟩
    cases hpure
    exact ⟨text, Action.renamed_ok_iff.1 hrun, rfl⟩
  · rintro ⟨text, hrun, rfl⟩
    exact ⟨text, w₁, Action.renamed_ok_iff.2 hrun, rfl⟩

theorem commitOf_ok_iff {r : Repository} {record : List Char} {c : Commit} {w w' : World σ} :
    r.commitOf record w = (.ok c, w') ↔ ∃ c₀ changes, History.ofRecord record = .ok c₀ ∧
      r.changesOf c₀.id c₀.parents w = (.ok changes, w') ∧ c = { c₀ with changes } := by
  rw [commitOf, Action.bind_ok_iff]
  constructor
  · rintro ⟨c₀, w₁, hrecord, h⟩
    obtain ⟨hresult, rfl⟩ := Action.ofResult_ok_iff.1 hrecord
    obtain ⟨changes, w₂, hchanges, hpure⟩ := Action.bind_ok_iff.1 h
    cases hpure
    exact ⟨c₀, changes, Action.mapError_ok_iff.1 hresult, hchanges, rfl⟩
  · rintro ⟨c₀, changes, hrecord, hchanges, rfl⟩
    refine ⟨c₀, w, ?_, Action.bind_ok_iff.2 ⟨changes, w', hchanges, rfl⟩⟩
    exact Action.ofResult_ok_iff.2 ⟨Action.mapError_ok_iff.2 hrecord, rfl⟩

/-- **No text of a commit that was read holds a record separator.** -/
theorem commits_noSeparator {r : Repository} {selection : List String} {w w₂ : World σ}
    {commits : List Commit} (h : r.commits selection w = (.ok commits, w₂)) :
    ∀ c ∈ commits, ∀ s ∈ c.texts, '\x1e' ∉ s.toList := by
  obtain ⟨found, w₁, hrecords, hcommits⟩ := Action.bind_ok_iff.1 h
  obtain ⟨text, -, rfl⟩ := records_ok_iff.1 hrecords
  intro c hc s hs hmem
  obtain ⟨record, hrecord, v, v', hstep⟩ := Action.exists_step_of_mem hcommits hc
  obtain ⟨c₀, changes, hread, -, rfl⟩ := commitOf_ok_iff.1 hstep
  exact History.not_mem_of_mem_records hrecord (History.mem_of_ofRecord hread s hs _ hmem)

/-- Records that were printed give the commits that were printed. -/
theorem forEach_commitOf_record {r : Repository} {es : List PrintedCommit} {w w' : World σ}
    {changes : List (List Change)}
    (h : Action.forEach (fun e : PrintedCommit => r.changesOf e.id e.parents) es w =
      (.ok changes, w')) :
    Action.forEach r.commitOf (es.map PrintedCommit.record) w =
      (.ok (List.zipWith PrintedCommit.commit es changes), w') := by
  induction es generalizing w changes with
  | nil =>
    cases h
    rfl
  | cons e es ih =>
    obtain ⟨cs, w₁, css, hfirst, hrest, rfl⟩ := Action.forEach_cons_ok_iff.1 h
    refine Action.forEach_cons_ok_iff.2 ⟨e.commit cs, w₁, _, ?_, ih hrest, rfl⟩
    exact commitOf_ok_iff.2 ⟨e.commit [], cs, e.ofRecord_record, hfirst, rfl⟩

end Repository

/-! ## The whole history -/

/-- What a commit keeps of a body: all of it but line feeds. -/
theorem mem_message {body : List Char} {c : Char} (hc : c ≠ '\n') (h : c ∈ body) :
    c ∈ body.rdropWhile (· == '\n') := by
  have hparts : body.rdropWhile (· == '\n') ++ body.rtakeWhile (· == '\n') = body :=
    List.rdropWhile_append_rtakeWhile
  rw [← hparts] at h
  rcases List.mem_append.1 h with h | h
  · exact h
  · exact absurd (by simpa using List.mem_rtakeWhile_imp h) hc

/-- A separator in a text of a commit is one in a text of what was printed, and the other way round. -/
theorem PrintedCommit.noSeparator_of_commit {e : PrintedCommit} {changes : List Change}
    (h : ∀ s ∈ (e.commit changes).texts, '\x1e' ∉ s.toList) : e.NoSeparator := by
  simp only [Commit.texts, commit, PrintedPerson.person, List.forall_mem_cons,
    String.toList_ofList] at h
  obtain ⟨hname, haddress, hname', haddress', hmessage, -⟩ := h
  simp only [NoSeparator, texts, List.forall_mem_cons]
  exact ⟨hname, haddress, hname', haddress', fun hmem => hmessage (mem_message (by decide) hmem),
    fun s hs => absurd hs List.not_mem_nil⟩

/-- **The history is read back just when no text holds a record separator.**

    The strict format of moments may stand in a history. Let git have printed the history, and let the
    changes of each commit be found. Then reading it gives just the commits that were printed, with these
    changes, if and only if no name, no address and no message holds a record separator. -/
theorem commits_print_iff {σ : Type} (r : Repository) (selection : List String)
    (es : List PrintedCommit) (changes : List (List Change)) (w w₁ w₂ : World σ)
    (hlog : r.run (Repository.logArguments selection) none w = (.ok (PrintedCommit.print es), w₁))
    (hchanges : Action.forEach (fun e : PrintedCommit => r.changesOf e.id e.parents) es w₁ =
      (.ok changes, w₂)) :
    (∀ m : Moment, m.IsStrict → ∀ s ∈ m.strictTexts,
      Moment.read s = .ok m ∧ '\x00' ∉ s.toList ∧ '\x1e' ∉ s.toList) ∧
    (r.commits selection w = (.ok (List.zipWith PrintedCommit.commit es changes), w₂) ↔
      ∀ e ∈ es, e.NoSeparator) := by
  refine ⟨fun m hm s hs => ?_, ?_, ?_⟩
  · have hnot : ∀ c : Char, c.isDigit = false → c ∉ ['-', ':', 'T', '+', 'Z'] → c ∉ s.toList := by
      intro c hdigit hmark hc
      rcases Moment.mem_strict hm hs c hc with h | h
      · rw [h] at hdigit
        cases hdigit
      · exact hmark h
    exact ⟨Moment.read_strict hm hs, hnot _ (by decide) (by decide), hnot _ (by decide) (by decide)⟩
  · -- what was read holds no separator, so what was printed did not either
    intro h e he
    have hlength : es.length = changes.length :=
      (Action.forEach_ok_forall₂ (Q := fun _ _ => True) (fun _ _ _ _ _ _ => trivial)
        hchanges).length_eq
    obtain ⟨i, hi, rfl⟩ := List.getElem_of_mem he
    have hi' : i < changes.length := hlength ▸ hi
    have hmem : es[i].commit changes[i] ∈ List.zipWith PrintedCommit.commit es changes := by
      refine List.mem_iff_getElem.2 ⟨i, ?_, List.getElem_zipWith⟩
      rw [List.length_zipWith]
      exact Nat.lt_min.2 ⟨hi, hi'⟩
    exact PrintedCommit.noSeparator_of_commit (Repository.commits_noSeparator h _ hmem)
  · -- without a separator the records are those that were printed, and each is read back
    intro h
    refine Action.bind_ok_iff.2 ⟨es.map PrintedCommit.record, w₁, ?_, ?_⟩
    · exact Repository.records_ok_iff.2 ⟨_, hlog, (PrintedCommit.records_print h).symm⟩
    · exact Repository.forEach_commitOf_record hchanges

/-! ### One commit -/

/-- A moment in universal time. -/
def someMoment : Moment := ⟨⟨2024, 2, 29⟩, ⟨23, 5, 0, 0⟩, some 0⟩

theorem isStrict_someMoment : someMoment.IsStrict where
  date := ⟨by decide, by decide, by decide, by decide, by decide, by decide⟩
  time := ⟨by decide, by decide, by decide, rfl⟩
  offset := ⟨0, by decide, rfl⟩

/-- Somebody at this moment. -/
def somebody : PrintedPerson where
  name := "A B"
  address := "a@b"
  written := "2024-02-29T23:05:00Z"
  moment := someMoment
  name_noNull := by decide
  address_noNull := by decide
  written_noNull := by decide
  written_noSeparator := by decide
  written_read := Moment.read_strict isStrict_someMoment
    (Moment.mem_strictTexts.2 (.inr ⟨rfl, by decide +kernel⟩))

/-- A commit with two parents, so that nothing is compared. -/
def mergeCommit (body : String) : PrintedCommit where
  id := "c3"
  parents := ["c1", "c2"]
  author := somebody
  committer := somebody
  body := body
  id_hex := by decide
  parents_hex := by decide

/-- Another merge, with an id of its own. -/
def mergeOf (id : String) (hid : IsHex id) : PrintedCommit :=
  { mergeCommit "a\n" with
    id
    id_hex := hid }

@[simp] theorem mergeOf_id (id : String) (hid : IsHex id) : (mergeOf id hid).id = id := rfl

/-- Nothing is compared for merges. -/
theorem Repository.forEach_changesOf_merges {σ : Type} (r : Repository) {es : List PrintedCommit}
    (hmerges : ∀ e ∈ es, 1 < e.parents.length) (w : World σ) :
    Action.forEach (fun e : PrintedCommit => r.changesOf e.id e.parents) es w =
      (.ok (es.map fun _ => []), w) := by
  induction es with
  | nil => rfl
  | cons e es ih =>
    obtain ⟨he, hes⟩ := List.forall_mem_cons.1 hmerges
    have hnone : r.changesOf e.id e.parents w = (.ok [], w) := by
      rw [Repository.changesOf, if_pos he]
      rfl
    exact Action.forEach_cons_ok_iff.2 ⟨[], w, _, hnone, ih hes, rfl⟩

/-- A history of merges is printed, and nothing is compared. -/
theorem exists_run_merges (r : Repository) (selection : List String) {es : List PrintedCommit}
    (hmerges : ∀ e ∈ es, 1 < e.parents.length)
    (hnull : ∀ s ∈ (r.command (Repository.logArguments selection) none).line, '\x00' ∉ s.toList)
    (hreturn : '\r' ∉ (PrintedCommit.print es).toList) :
    ∃ (w w₁ : World Unit), r.run (Repository.logArguments selection) none w =
        (.ok (PrintedCommit.print es), w₁) ∧
      Action.forEach (fun e : PrintedCommit => r.changesOf e.id e.parents) es w₁ =
        (.ok (es.map fun _ => []), w₁) := by
  let answer : List String → String := fun _ => PrintedCommit.print es
  have hgit : (World.start oneRepository (.answering answer)).git = .answering answer := rfl
  have htext : Git.text (Text.encode (PrintedCommit.print es).toList) = PrintedCommit.print es := by
    rw [Git.text_encode_of_not_mem hreturn, String.ofList_toList]
  obtain ⟨w₁, hrun, -⟩ := r.run_answering (Repository.logArguments selection) hgit hnull htext
  exact ⟨_, w₁, hrun, r.forEach_changesOf_merges hmerges w₁⟩

/-- Two commits, the first with a message of two lines and with line feeds at its end. -/
theorem commits_print_merges :
    let r : Repository := ⟨⟨"/", ["project"]⟩, .null, .int 0, 0⟩
    let first := mergeCommit "a\n\nb\n\n"
    let second := mergeOf "c5" (by decide)
    ∃ (w w₁ : World Unit), r.commits ["--all"] w = (.ok [first.commit [], second.commit []], w₁) ∧
      (first.commit []).message = "a\n\nb" ∧ (second.commit []).id = "c5" := by
  intro r first second
  have hmerges : ∀ e ∈ [first, second], 1 < e.parents.length := by decide
  have hreturn : '\r' ∉ (PrintedCommit.print [first, second]).toList := by
    rw [PrintedCommit.print, String.toList_ofList]
    decide +kernel
  obtain ⟨w, w₁, hlog, hchanges⟩ := exists_run_merges r ["--all"] hmerges (by decide) hreturn
  refine ⟨w, w₁, (commits_print_iff r ["--all"] _ _ w w₁ w₁ hlog hchanges).2.2 ?_, by decide, rfl⟩
  decide

/-- **A record separator in a message cuts the commit in two.** -/
theorem commits_print_separator :
    ¬∀ (r : Repository) (selection : List String) (es : List PrintedCommit)
      (changes : List (List Change)) (w w₁ w₂ : World Unit),
      r.run (Repository.logArguments selection) none w = (.ok (PrintedCommit.print es), w₁) →
      Action.forEach (fun e : PrintedCommit => r.changesOf e.id e.parents) es w₁ =
        (.ok changes, w₂) →
      r.commits selection w = (.ok (List.zipWith PrintedCommit.commit es changes), w₂) := by
  intro h
  have hmerges : ∀ e ∈ [mergeCommit "a\x1eb"], 1 < e.parents.length := by decide
  have hreturn : '\r' ∉ (PrintedCommit.print [mergeCommit "a\x1eb"]).toList := by
    rw [PrintedCommit.print, String.toList_ofList]
    decide +kernel
  obtain ⟨w, w₁, hlog, hchanges⟩ := exists_run_merges ⟨⟨"/", ["project"]⟩, .null, .int 0, 0⟩ ["--all"]
    hmerges (by decide) hreturn
  have hread := Repository.commits_noSeparator (h _ _ _ _ _ _ _ hlog hchanges)
  have hmessage := hread ((mergeCommit "a\x1eb").commit []) List.mem_cons_self
    ((mergeCommit "a\x1eb").commit []).message (by decide)
  exact hmessage (by decide)

end HistoryMetrics
