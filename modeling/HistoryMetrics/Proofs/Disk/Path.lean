import HistoryMetrics.Disk.Path
import HistoryMetrics.Proofs.Text.Pieces
import Mathlib

/-! # Paths and their texts

    The text of a relative path is its names with slashes between them. A name holds no slash, so the text
    can be taken apart again, and what the text ends in is what its last name ends in. Paths are ordered
    by their names, one by one.

    - `Path.IsName`: what can be a name of a path
    - `ofText_text`: the path that the text of a path names
    - `suffix_text_iff`: the end of a text without a slash
    - `foldl_follow`: paths without double dots
    - `isLongName_eq`, `isLong_eq_false`: the lengths of names and paths
    - `keysLe_iff_le`, `pairwise_sorted`: the order on paths
-/

namespace HistoryMetrics.Path

variable {names : List String} {name : String}

/-! ## Names -/

/-- **A name of a path**: a text without slashes that is neither empty nor a single dot. -/
structure IsName (name : String) : Prop where
  ne_empty : name ≠ ""
  ne_dot : name ≠ "."
  no_slash : '/' ∉ name.toList

/-! ## Texts -/

/-- The characters of the text of a relative path. -/
theorem toList_text (hne : names ≠ []) :
    (text ⟨"", names⟩).toList = ['/'].intercalate (names.map String.toList) := by
  have hempty : names.isEmpty = false := by simpa using hne
  have hslash : "/".toList = ['/'] := rfl
  simp [text, hempty, String.toList_intercalate, hslash]

theorem rootOf_of_head? {cs : List Char} (h : cs.head? ≠ some '/') : rootOf cs = "" := by
  unfold rootOf
  split
  · simp at h
  · simp at h
  · simp at h
  · rfl

/-- **The text of a relative path names this path.** -/
theorem ofText_text (hne : names ≠ []) (h : ∀ name ∈ names, IsName name) :
    ofText (text ⟨"", names⟩) = ⟨"", names⟩ := by
  have hslash : ∀ cs ∈ names.map String.toList, '/' ∉ cs := by
    intro cs hcs
    obtain ⟨name, hname, rfl⟩ := List.mem_map.1 hcs
    exact (h name hname).no_slash
  have hpieces : Text.splitOn '/' (text ⟨"", names⟩).toList = names.map String.toList := by
    rw [Text.splitOn_eq, toList_text hne]
    exact List.splitOn_intercalate '/' hslash (by simpa using hne)
  have hroot : rootOf (text ⟨"", names⟩).toList = "" := by
    apply rootOf_of_head?
    cases names with
    | nil => exact absurd rfl hne
    | cons first rest =>
      have hfirst := h first List.mem_cons_self
      -- the text begins with the first character of the first name
      cases hchars : first.toList with
      | nil => exact absurd (by simpa using hchars) hfirst.ne_empty
      | cons c cs =>
        rw [toList_text hne, List.map_cons, hchars]
        have hhead : (['/'].intercalate ((c :: cs) :: rest.map String.toList)).head? = some c := by
          cases rest with
          | nil => simp [List.intercalate]
          | cons second rest => simp [List.intercalate]
        rw [hhead]
        intro hc
        apply hfirst.no_slash
        rw [hchars, Option.some.inj hc]
        exact List.mem_cons_self
  have hkept : ∀ cs ∈ names.map String.toList, (!cs.isEmpty && cs != ['.']) = true := by
    intro cs hcs
    obtain ⟨name, hname, rfl⟩ := List.mem_map.1 hcs
    rw [Bool.and_eq_true, Bool.not_eq_true', bne_iff_ne]
    constructor
    · simpa using (h name hname).ne_empty
    · intro hdot
      apply (h name hname).ne_dot
      exact String.toList_injective hdot
  have hmap : (String.ofList ∘ String.toList) = id := by
    funext name
    exact String.ofList_toList
  rw [ofText, hroot, namesOf, hpieces, List.filter_eq_self.2 hkept, List.map_map, hmap, List.map_id]

/-- An end of a text that holds no separator lies after the last separator. -/
theorem suffix_append_sep_iff {sep : Char} {ending before after : List Char} (h : sep ∉ ending) :
    ending <:+ before ++ sep :: after ↔ ending <:+ after := by
  constructor
  · intro hend
    have hafter : sep :: after <:+ before ++ sep :: after := List.suffix_append _ _
    rcases List.suffix_or_suffix_of_suffix hend hafter with hshort | hlong
    · rcases List.suffix_cons_iff.1 hshort with rfl | hin
      · exact absurd List.mem_cons_self h
      · exact hin
    · exact absurd (hlong.mem List.mem_cons_self) h
  · intro hend
    exact hend.trans ((List.suffix_cons _ _).trans (List.suffix_append _ _))

/-- **The text of a path ends in what its last name ends in**, as long as there is no slash in it. -/
theorem suffix_text_iff {ending : List Char} (hslash : '/' ∉ ending) (hne : names ≠ []) :
    ending <:+ (text ⟨"", names⟩).toList ↔ ending <:+ (names.getLastD "").toList := by
  rw [toList_text hne]
  induction names with
  | nil => exact absurd rfl hne
  | cons first rest ih =>
    cases rest with
    | nil => simp [List.intercalate]
    | cons second rest =>
      have hsplit : ['/'].intercalate ((first :: second :: rest).map String.toList) =
          first.toList ++ '/' :: ['/'].intercalate ((second :: rest).map String.toList) := by
        simp [List.intercalate]
      rw [hsplit, suffix_append_sep_iff hslash, ih (List.cons_ne_nil _ _)]
      rfl

/-! ## Lengths -/

/-- The length of a name, as the library counts it. -/
theorem isLongName_eq (name : String) : isLongName name = decide (255 < name.utf8ByteSize) := by
  rw [isLongName, Text.byteLength_toList]

theorem utf8ByteSize_intercalate_le (names : List String) :
    ("/".intercalate names).utf8ByteSize ≤ (names.map fun name => name.utf8ByteSize + 1).sum := by
  induction names with
  | nil => exact Nat.zero_le _
  | cons first rest ih =>
    rw [List.map_cons, List.sum_cons]
    cases rest with
    | nil => simp
    | cons second rest =>
      have hslash : "/".utf8ByteSize = 1 := rfl
      rw [String.intercalate_cons_cons, String.utf8ByteSize_append, String.utf8ByteSize_append, hslash]
      omega

/-- **A path is not too long** if its names, with a slash for each of them, are not. -/
theorem isLong_eq_false {p : Path}
    (h : p.root.utf8ByteSize + (p.parts.map fun name => name.utf8ByteSize + 1).sum ≤ 4095) :
    p.isLong = false := by
  have hintercalate := utf8ByteSize_intercalate_le p.parts
  have hlength : p.text.utf8ByteSize ≤ 4095 := by
    unfold text
    split
    · exact Nat.le_of_lt (by decide)
    · rw [String.utf8ByteSize_append]
      omega
  rw [isLong, Text.byteLength_toList, decide_eq_false (by omega)]

/-! ## Relative paths -/

/-- A relative path, seen from a folder, adds its names. -/
theorem join_of_relative {p q : Path} (h : q.root = "") : p.join q = ⟨p.root, p.parts ++ q.parts⟩ := by
  rw [join, isAbsolute, h]
  rfl

/-- Names that are not hidden are no double dots. -/
theorem dots_not_mem (h : ∀ part ∈ names, part.startsWith "." = false) : ".." ∉ names := by
  intro hmem
  have hshown := h ".." hmem
  rw [← Bool.not_eq_true, String.startsWith_string_iff] at hshown
  exact hshown (by decide)

/-- **Without double dots a path is followed name by name.** -/
theorem foldl_follow {start : List String} (h : ".." ∉ names) :
    names.foldl follow start = start ++ names := by
  induction names generalizing start with
  | nil => simp
  | cons part rest ih =>
    rw [List.mem_cons, not_or] at h
    have hfollow : follow start part = start ++ [part] := by
      rw [follow, beq_eq_false_iff_ne.2 (Ne.symm h.1)]
      rfl
    rw [List.foldl_cons, hfollow, ih h.2, List.append_assoc]
    rfl

/-! ## The order -/

/-- **Names are compared one by one.** -/
theorem keysLe_iff_le (as bs : List String) : keysLe as bs = true ↔ as ≤ bs := by
  rw [le_iff_lt_or_eq]
  induction as generalizing bs with
  | nil => cases bs <;> simp [keysLe]
  | cons a as ih =>
    cases bs with
    | nil => simp [keysLe]
    | cons b bs =>
      simp only [keysLe, Bool.or_eq_true, Bool.and_eq_true, decide_eq_true_eq, beq_iff_eq, ih,
        List.cons_lt_cons_iff, List.cons.injEq, and_or_left, or_assoc]

/-- **Sorted paths ascend.** -/
theorem pairwise_sorted (ps : List Path) : (sorted ps).Pairwise fun p q => p.keys ≤ q.keys := by
  have htrans : ∀ p q r : Path, le p q = true → le q r = true → le p r = true := by
    simp only [le, keysLe_iff_le]
    exact fun _ _ _ => le_trans
  have htotal : ∀ p q : Path, (le p q || le q p) = true := by
    intro p q
    simp only [le, Bool.or_eq_true, keysLe_iff_le]
    exact le_total _ _
  refine (List.pairwise_mergeSort htrans htotal ps).imp ?_
  intro p q hle
  exact (keysLe_iff_le _ _).1 hle

theorem mem_sorted {p : Path} {ps : List Path} : p ∈ sorted ps ↔ p ∈ ps := List.mem_mergeSort

theorem nodup_sorted {ps : List Path} : (sorted ps).Nodup ↔ ps.Nodup :=
  (List.mergeSort_perm ps _).nodup_iff

end HistoryMetrics.Path
