import HistoryMetrics.Proofs.Git.Appeal
import HistoryMetrics.Proofs.Number.Whole
import HistoryMetrics.Proofs.Text.Pieces

/-! # What a helper answers

    To a name the helper answers with a line of three words about the object, or with the name itself and
    the word that says why there is no such object. The line is read by its words, whatever the name was.
    So a name of two words misleads: the answer that there is no such object is taken for one about an
    object, and the reason for its size. At the end of the file the helper answers nothing, and that is
    read as an answer, too.

    - `Helper.foundLine`, `Helper.absentLine`: the answers
    - `Helper.Misleads`: names that are taken for something else
    - `Helper.ofLine_foundLine`, `Helper.ofLine_absentLine`: answers are read
    - `Helper.Lookup`: what comes of a name
    - `Helper.info_lookup`: nothing else comes of it
-/

namespace HistoryMetrics.Helper

variable {σ : Type}

/-! ## Answers -/

/-- The words that say why there is no such object. -/
def absences : List String := ["missing", "ambiguous"]

/-- A text without white space. -/
def IsWord (s : String) : Prop := s ≠ "" ∧ ∀ c ∈ s.toList, Text.isBlank c = false

/-- The line about an object. -/
def foundLine (id kind : String) (size : Nat) : String :=
  id ++ " " ++ kind ++ " " ++ toString size ++ "\n"

/-- The line about a name that stands for no object. -/
def absentLine (name reason : String) : String := name ++ " " ++ reason ++ "\n"

/-- **A name that misleads**: it has two words, and the second one is not one of those that say that there
    is no object. -/
def Misleads (name : String) : Prop :=
  ∃ first second, Text.words name.toList = [first, second] ∧ String.ofList second ∉ absences

/-- The words of a printed number. -/
theorem words_number (n : Nat) : Text.words (toString n).toList = [(toString n).toList] := by
  rw [Nat.toString_eq_ofList_toDigits, String.toList_ofList]
  exact Text.words_of_word Nat.toDigits_ne_nil fun c hc =>
    Whole.not_isBlank_of_isDigit (Nat.isDigit_of_mem_toDigits (by decide) (by decide) hc)

theorem IsWord.words {s : String} (h : IsWord s) : Text.words s.toList = [s.toList] :=
  Text.words_of_word (by simpa using h.1) h.2

/-- The words of the answer about an object. -/
theorem words_foundLine {id kind : String} (hid : IsWord id) (hkind : IsWord kind) (size : Nat) :
    (Text.words (foundLine id kind size).toList).map String.ofList = [id, kind, toString size] := by
  have hline : (foundLine id kind size).toList =
      id.toList ++ ' ' :: (kind.toList ++ ' ' :: ((toString size).toList ++ '\n' :: [])) := by
    simp [foundLine]
  have hend : Text.words [] = [] := rfl
  rw [hline, Text.words_append_blank (by decide), Text.words_append_blank (by decide),
    Text.words_append_blank (by decide), hid.words, hkind.words, words_number, hend]
  simp only [List.cons_append, List.nil_append, List.append_nil, List.map_cons, List.map_nil,
    String.ofList_toList]

/-- The words of the answer that there is no such object. -/
theorem words_absentLine {reason : String} (hreason : reason ∈ absences) (name : String) :
    Text.words (absentLine name reason).toList = Text.words name.toList ++ [reason.toList] := by
  have hline : (absentLine name reason).toList = name.toList ++ ' ' :: (reason.toList ++ '\n' :: []) := by
    simp [absentLine]
  have hword : ∀ reason ∈ absences, Text.words (reason.toList ++ '\n' :: []) = [reason.toList] := by
    decide
  rw [hline, Text.words_append_blank (by decide), hword reason hreason]

/-- A word that says why there is no object is no number. -/
theorem read_absence {reason : String} (h : reason ∈ absences) :
    Whole.read reason = .error (.wrongValue (Whole.noNumber reason)) := by
  have hletter : ∀ {c : Char}, c.isDigit = false ∧ c.toNat < 0x660 → Unicode.digitValue? c = none :=
    fun hc => Unicode.digitValue?_eq_none hc.1 hc.2
  -- neither of the words begins with a digit
  rcases List.mem_cons.1 h with rfl | h
  · exact Whole.read_eq_error (c := 'm') rfl (hletter (by decide))
  · obtain rfl := List.mem_singleton.1 h
    exact Whole.read_eq_error (c := 'a') rfl (hletter (by decide))

/-- **The answer about an object is read**, unless its size has too many digits. -/
theorem ofLine_foundLine {id kind : String} (hid : IsWord id) (hkind : IsWord kind)
    (hpresent : kind ∉ absences) (size : Nat) : ObjectInfo.ofLine (foundLine id kind size) =
      (Whole.read (toString size)).map fun n => some ⟨id, kind, n⟩ := by
  have hkinds : (kind == "missing" || kind == "ambiguous") = false := by
    simpa [absences] using hpresent
  rw [ObjectInfo.ofLine, words_foundLine hid hkind]
  simp only [hkinds, Bool.false_eq_true, if_false]

/-- **The answer that there is no such object is read**, unless the name misleads. -/
theorem ofLine_absentLine {reason : String} (hreason : reason ∈ absences) (name : String) :
    (¬Misleads name → ObjectInfo.ofLine (absentLine name reason) = .ok none) ∧
      (Misleads name → ObjectInfo.ofLine (absentLine name reason) =
        .error (.wrongValue (Whole.noNumber reason))) := by
  have hkinds : ∀ kind : String, (kind == "missing" || kind == "ambiguous") = true ↔ kind ∈ absences := by
    intro kind
    simp [absences]
  unfold ObjectInfo.ofLine
  rw [words_absentLine hreason, List.map_append]
  constructor
  · intro hname
    split
    · next first second size hwords =>
      -- three words, so that the name has two
      have hsplit : (Text.words name.toList).map String.ofList ++ [reason.toList].map String.ofList =
          [first, second] ++ [size] := hwords
      obtain ⟨hpair, -⟩ := List.append_inj' hsplit rfl
      obtain ⟨first', rest, hfirst, -, hrest⟩ := List.map_eq_cons_iff.1 hpair
      obtain ⟨second', rest', rfl, hsecond, hnil⟩ := List.map_eq_cons_iff.1 hrest
      rw [List.map_eq_nil_iff.1 hnil] at hfirst
      have habsent : second ∈ absences := by
        by_contra hnot
        exact hname ⟨first', second', hfirst, by rwa [hsecond]⟩
      rw [if_pos ((hkinds second).2 habsent)]
    · rfl
  · intro ⟨first, second, hwords, hsecond⟩
    -- the second word stands where the kind is expected, and the reason where the size is
    have hpresent : ¬(String.ofList second == "missing" || String.ofList second == "ambiguous") = true :=
      fun h => hsecond ((hkinds _).1 h)
    rw [hwords]
    simp only [List.map_cons, List.map_nil, List.cons_append, List.nil_append, String.ofList_toList,
      if_neg hpresent, read_absence hreason]
    rfl

/-! ## Lookups -/

/-- The name is told to the helper. -/
def IsTold (w : World σ) (helper : Nat) (name : String) : Prop :=
  spansLines name = false ∧ (isLive w helper && w.git.isRunning helper w.outside) = true

/-- What the helper answers to a name. -/
def answer (w : World σ) (helper : Nat) (name : String) : Except SystemMishap (List UInt8) :=
  (w.git.ask helper name w.outside).1

/-- **What comes of a name.**

    - `spansLines`, `notRunning`: it is not told to the helper
    - `broken`, `ended`: the helper takes no name any more, or has nothing more to say
    - `found`, `oversized`: it is about an object, whose size may have too many digits
    - `absent`, `misread`: there is no such object, and the name may mislead -/
inductive Lookup (w : World σ) (helper : Nat) (name : String) :
    Except Failure (Option ObjectInfo) → Prop where
  | spansLines (hname : Helper.spansLines name = true) :
      Lookup w helper name (.error (problem ("object name spans lines: " ++ Text.quoted name)))
  | notRunning (hname : Helper.spansLines name = false)
      (hended : (isLive w helper && w.git.isRunning helper w.outside) = false) :
      Lookup w helper name (.error (problem "object reader is not running"))
  | broken (htold : IsTold w helper name) {m : SystemMishap} (hanswer : answer w helper name = .error m) :
      Lookup w helper name (.error (problem m.toFault.message))
  | ended (htold : IsTold w helper name) (hanswer : answer w helper name = .ok []) :
      Lookup w helper name (.ok none)
  | found (htold : IsTold w helper name) {id kind : String} (hid : IsWord id) (hkind : IsWord kind)
      (hpresent : kind ∉ absences) {size : Nat}
      (hsize : (Nat.toDigits 10 size).length ≤ Whole.maxDigits)
      (hanswer : answer w helper name = .ok (Text.encode (foundLine id kind size).toList)) :
      Lookup w helper name (.ok (some ⟨id, kind, size⟩))
  | oversized (htold : IsTold w helper name) {id kind : String} (hid : IsWord id) (hkind : IsWord kind)
      (hpresent : kind ∉ absences) {size : Nat}
      (hsize : Whole.maxDigits < (Nat.toDigits 10 size).length)
      (hanswer : answer w helper name = .ok (Text.encode (foundLine id kind size).toList)) :
      Lookup w helper name
        (.error (.fault (.wrongValue (Whole.tooManyDigits (Nat.toDigits 10 size).length))))
  | absent (htold : IsTold w helper name) {reason : String} (hreason : reason ∈ absences)
      (hname : ¬Misleads name)
      (hanswer : answer w helper name = .ok (Text.encode (absentLine name reason).toList)) :
      Lookup w helper name (.ok none)
  | misread (htold : IsTold w helper name) {reason : String} (hreason : reason ∈ absences)
      (hname : Misleads name)
      (hanswer : answer w helper name = .ok (Text.encode (absentLine name reason).toList)) :
      Lookup w helper name (.error (.fault (.wrongValue (Whole.noNumber reason))))

variable {w : World σ} {helper : Nat} {name : String}

/-- A name that is told to the helper is answered. -/
theorem info_of_told (htold : IsTold w helper name) : (info helper name w).1 =
    match answer w helper name with
    | .error m => .error (problem m.toFault.message)
    | .ok line => (ObjectInfo.ofLine (Git.text line)).mapError .fault := by
  have hname : ¬spansLines name = true := by
    rw [htold.1]
    decide
  rw [info, if_neg hname, if_pos htold.2]
  rcases hask : w.git.ask helper name w.outside with ⟨result, outside⟩
  simp only [ask, answer, hask]
  cases result <;> rfl

theorem info_of_line (htold : IsTold w helper name) {line : String} (hreturn : '\r' ∉ line.toList)
    (hanswer : answer w helper name = .ok (Text.encode line.toList)) :
    (info helper name w).1 = (ObjectInfo.ofLine line).mapError .fault := by
  rw [info_of_told htold, hanswer]
  simp only [Git.text_encode_of_not_mem hreturn, String.ofList_toList]

theorem noReturn_foundLine {id kind : String} (hid : IsWord id) (hkind : IsWord kind) (size : Nat) :
    '\r' ∉ (foundLine id kind size).toList := by
  have hword : ∀ {s : String}, (∀ c ∈ s.toList, Text.isBlank c = false) → '\r' ∉ s.toList :=
    fun h hc => absurd (h _ hc) (by decide)
  have hsize : '\r' ∉ (toString size).toList := by
    refine hword fun c hc => ?_
    rw [Nat.toString_eq_ofList_toDigits, String.toList_ofList] at hc
    exact Whole.not_isBlank_of_isDigit (Nat.isDigit_of_mem_toDigits (by decide) (by decide) hc)
  unfold foundLine
  generalize toString size = digits at hsize
  simp [hword hid.2, hword hkind.2, hsize]

theorem spansLines_eq_false_iff : spansLines name = false ↔ '\n' ∉ name.toList ∧ '\r' ∉ name.toList := by
  simp only [spansLines, Bool.or_eq_false_iff, String.contains_char_eq, decide_eq_false_iff_not]

theorem noReturn_absentLine {reason : String} (hreason : reason ∈ absences)
    (hname : spansLines name = false) : '\r' ∉ (absentLine name reason).toList := by
  have hname' : '\r' ∉ name.toList := (spansLines_eq_false_iff.1 hname).2
  have hreason' : ∀ reason ∈ absences, '\r' ∉ reason.toList := by decide
  simp [absentLine, hname', hreason' reason hreason]

/-- **Nothing else comes of a name.** -/
theorem info_lookup {result : Except Failure (Option ObjectInfo)} (h : Lookup w helper name result) :
    (info helper name w).1 = result := by
  cases h with
  | spansLines hname =>
    rw [info, if_pos hname]
  | notRunning hname hended =>
    have hname' : ¬spansLines name = true := by
      rw [hname]
      decide
    rw [info, if_neg hname', if_neg (by rw [hended]; decide)]
  | broken htold hanswer => rw [info_of_told htold, hanswer]
  | ended htold hanswer =>
    rw [info_of_told htold, hanswer]
    rfl
  | found htold hid hkind hpresent hsize hanswer =>
    rw [info_of_line htold (noReturn_foundLine hid hkind _) hanswer, ofLine_foundLine hid hkind hpresent,
      Whole.read_toString, if_neg (Nat.not_lt.2 hsize)]
    rfl
  | oversized htold hid hkind hpresent hsize hanswer =>
    rw [info_of_line htold (noReturn_foundLine hid hkind _) hanswer, ofLine_foundLine hid hkind hpresent,
      Whole.read_toString, if_pos hsize]
    rfl
  | absent htold hreason hname hanswer =>
    rw [info_of_line htold (noReturn_absentLine hreason htold.1) hanswer,
      (ofLine_absentLine hreason name).1 hname]
    rfl
  | misread htold hreason hname hanswer =>
    rw [info_of_line htold (noReturn_absentLine hreason htold.1) hanswer,
      (ofLine_absentLine hreason name).2 hname]
    rfl

/-- **No answer is a problem**, whatever the helper says, and even when it says nothing. -/
theorem info_ne_problem (htold : IsTold w helper name) {line : List UInt8}
    (hanswer : answer w helper name = .ok line) (p : Problem) :
    (info helper name w).1 ≠ .error (.problem p) := by
  rw [info_of_told htold, hanswer]
  intro hproblem
  cases hread : ObjectInfo.ofLine (Git.text line) <;> simp only [hread] at hproblem <;> cases hproblem

end HistoryMetrics.Helper
