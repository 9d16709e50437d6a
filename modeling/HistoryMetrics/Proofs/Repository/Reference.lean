import HistoryMetrics.Proofs.Repository.Log
import HistoryMetrics.Repository.Reference

/-! # Branches and tags, printed and read back

    Git prints a branch or a tag on a line of its own: its path, its object, and for a tag with a message
    the object that it leads to, with null characters between them. The listing is cut into lines at every
    line boundary of Unicode. A name that git allows may hold three of them; such a name is torn apart, and
    its reference is not found again.

    - `PrintedReference`: what git prints of a branch or a tag
    - `PrintedReference.IsReadAs`: the reference that it stands for
    - `PrintedReference.HasPlainName`: names without a line boundary
    - `Reference.isPlain_of_mem_list`: no path that is read holds a line boundary
    - `PrintedReference.list_print`, `PrintedReference.mem_list_print`: the references of a listing
-/

namespace HistoryMetrics

/-! ## The printed form -/

/-- May a character stand in the name of a reference? Not so control characters, the space, and those
    that have a meaning of their own. -/
def Reference.nameAllows (c : Char) : Bool :=
  0x20 < c.toNat && c.toNat != 0x7F && !(['~', '^', ':', '?', '*', '[', '\\'].contains c)

/-- The folder of the references of a kind. -/
def ReferenceKind.folder : ReferenceKind → String
  | .branch => "refs/heads/"
  | .tag => "refs/tags/"

/-- **What git prints of a branch or a tag**: where it stands in the folder of its kind, its object, and
    perhaps the object that this one leads to. -/
structure PrintedReference where
  kind : ReferenceKind
  name : String
  object : String
  peeled : Option String
  name_ne : name ≠ ""
  name_allowed : name.toList.all Reference.nameAllows = true
  object_hex : object ≠ "" ∧ IsHex object
  peeled_hex : ∀ p ∈ peeled, p ≠ "" ∧ IsHex p

namespace PrintedReference

/-- The path of a reference. -/
def path (e : PrintedReference) : String := e.kind.folder ++ e.name

/-- The fields of a line. -/
def fields (e : PrintedReference) : List (List Char) :=
  [e.path.toList, e.object.toList, (e.peeled.getD "").toList]

/-- The line of a reference. -/
def line (e : PrintedReference) : List Char := ['\x00'].intercalate e.fields

/-- **The printed listing.** -/
def print (es : List PrintedReference) : String :=
  String.ofList (es.flatMap fun e => e.line ++ ['\n'])

/-- Is this the symbolic name of a current commit? -/
def IsHead (e : PrintedReference) : Prop := "/HEAD".toList <:+ e.path.toList

instance (e : PrintedReference) : Decidable e.IsHead :=
  inferInstanceAs (Decidable ("/HEAD".toList <:+ e.path.toList))

/-- **The reference that was printed**: its name is what stands after the last slash, and it leads to the
    last of its objects. -/
structure IsReadAs (e : PrintedReference) (r : Reference) : Prop where
  path : r.path = e.path
  name : ∃ before, e.path.toList = before ++ '/' :: r.name.toList ∧ '/' ∉ r.name.toList
  kind : r.kind = e.kind
  target : r.target = some (e.peeled.getD e.object)

/-- **A name without a line boundary.** Of all line boundaries, a name may hold these three. -/
def HasPlainName (e : PrintedReference) : Prop :=
  ∀ c ∈ e.name.toList, c ∉ ['\u0085', '\u2028', '\u2029']

instance (e : PrintedReference) : Decidable e.HasPlainName :=
  List.decidableBAll (fun c => c ∉ ['\u0085', '\u2028', '\u2029']) e.name.toList

/-! ## Line boundaries -/

theorem isLineBreak_eq_false_iff {c : Char} (h : Reference.nameAllows c = true) :
    Text.isLineBreak c = false ↔ c ∉ ['\u0085', '\u2028', '\u2029'] := by
  have hlow : 0x20 < c.toNat := by
    simp only [Reference.nameAllows, Bool.and_eq_true, decide_eq_true_eq] at h
    exact h.1.1
  have hchar : ∀ d : Char, c = d ↔ c.toNat = d.toNat := fun d => Char.toNat_inj.symm
  simp only [List.mem_cons, List.not_mem_nil, or_false, hchar, Text.isLineBreak]
  simp only [Bool.or_eq_false_iff, Bool.and_eq_false_iff, decide_eq_false_iff_not, beq_eq_false_iff_ne]
  have hvalues : '\u0085'.toNat = 0x85 ∧ '\u2028'.toNat = 0x2028 ∧ '\u2029'.toNat = 0x2029 := by decide
  omega

variable (e : PrintedReference)

theorem nameAllows_of_mem {c : Char} (hc : c ∈ e.name.toList) : Reference.nameAllows c = true :=
  List.all_eq_true.1 e.name_allowed c hc

theorem isPlain_folder (kind : ReferenceKind) : Text.IsPlain kind.folder.toList := by
  cases kind <;> decide

theorem toList_path : e.path.toList = e.kind.folder.toList ++ e.name.toList :=
  String.toList_append

theorem isPlain_path_iff : Text.IsPlain e.path.toList ↔ e.HasPlainName := by
  rw [toList_path]
  constructor
  · intro h c hc
    exact (isLineBreak_eq_false_iff (e.nameAllows_of_mem hc)).1 (h c (List.mem_append_right _ hc))
  · intro h c hc
    rcases List.mem_append.1 hc with hc | hc
    · exact isPlain_folder e.kind c hc
    · exact (isLineBreak_eq_false_iff (e.nameAllows_of_mem hc)).2 (h c hc)

theorem isPlain_of_isHex {s : String} (h : IsHex s) : Text.IsPlain s.toList := by
  intro c hc
  have hdigit := h c hc
  simp only [Char.isHexDigit, Char.isDigit, Bool.or_eq_true, Bool.and_eq_true, decide_eq_true_eq,
    UInt32.le_iff_toNat_le] at hdigit
  have hval : c.val.toNat = c.toNat := rfl
  simp only [Text.isLineBreak, Bool.or_eq_false_iff, Bool.and_eq_false_iff, decide_eq_false_iff_not,
    beq_eq_false_iff_ne]
  simp at hdigit
  omega

theorem isHex_peeled : IsHex (e.peeled.getD "") := by
  cases hpeeled : e.peeled with
  | none => exact fun c hc => absurd hc List.not_mem_nil
  | some p => exact (e.peeled_hex p hpeeled).2

theorem line_eq : e.line =
    e.path.toList ++ '\x00' :: (e.object.toList ++ '\x00' :: (e.peeled.getD "").toList) := by
  simp [line, fields, List.intercalate]

theorem isPlain_line (h : e.HasPlainName) : Text.IsPlain e.line := by
  have hnull : Text.isLineBreak '\x00' = false := by decide
  intro c hc
  rw [line_eq] at hc
  simp only [List.mem_append, List.mem_cons] at hc
  rcases hc with hc | rfl | hc | rfl | hc
  · exact e.isPlain_path_iff.2 h c hc
  · exact hnull
  · exact isPlain_of_isHex e.object_hex.2 c hc
  · exact hnull
  · exact isPlain_of_isHex e.isHex_peeled c hc

/-! ## Reading back -/

/-- What may stand neither in a name nor in a number stands in no field. -/
theorem not_mem_fields {c : Char} (hname : Reference.nameAllows c = false) (hhex : c.isHexDigit = false)
    (hslash : c ∉ "refs/heads/tags".toList) : ∀ f ∈ e.fields, c ∉ f := by
  have hdigits : ∀ {s : String}, IsHex s → c ∉ s.toList := by
    intro s hs hc
    rw [hs c hc] at hhex
    cases hhex
  have hpath : c ∉ e.path.toList := by
    have hfolder : e.kind.folder.toList ⊆ "refs/heads/tags".toList := by
      cases e.kind <;> decide
    intro hc
    rw [toList_path] at hc
    rcases List.mem_append.1 hc with hc | hc
    · exact hslash (hfolder hc)
    · rw [e.nameAllows_of_mem hc] at hname
      cases hname
  intro f hf
  simp only [fields, List.mem_cons, List.not_mem_nil, or_false] at hf
  rcases hf with rfl | rfl | rfl
  · exact hpath
  · exact hdigits e.object_hex.2
  · exact hdigits e.isHex_peeled

/-- No listing holds a carriage return. -/
theorem noReturn_print (es : List PrintedReference) : '\r' ∉ (print es).toList := by
  intro hc
  rw [print, String.toList_ofList] at hc
  obtain ⟨e, -, hc⟩ := List.mem_flatMap.1 hc
  rcases List.mem_append.1 hc with hc | hc
  · rcases Text.mem_intercalate hc with hc | ⟨f, hf, hc⟩
    · exact absurd hc (by decide)
    · exact e.not_mem_fields (by decide) (by decide) (by decide) f hf hc
  · exact absurd hc (by decide)

theorem splitOn_line : Text.splitOn '\x00' e.line = e.fields := by
  have hnull := e.not_mem_fields (c := '\x00') (by decide) (by decide) (by decide)
  rw [Text.splitOn_eq, line, List.splitOn_intercalate '\x00' hnull (by simp [fields])]

/-- The path begins with the folder of its kind, and with no other. -/
theorem kindOfPath_path : Reference.kindOfPath e.path = e.kind := by
  unfold Reference.kindOfPath
  cases hkind : e.kind with
  | branch =>
    rw [if_neg]
    rw [String.startsWith_string_iff, toList_path, hkind]
    simp [ReferenceKind.folder]
  | tag =>
    rw [if_pos]
    rw [String.startsWith_string_iff, toList_path, hkind]
    exact List.prefix_append _ _

theorem isHead_path_iff : Reference.isHead e.path = true ↔ e.IsHead := by
  have hne : e.path ≠ "HEAD" := by
    intro h
    have hpath := e.toList_path
    rw [h] at hpath
    cases hkind : e.kind <;> rw [hkind] at hpath <;> simp [ReferenceKind.folder] at hpath
  rw [Reference.isHead, Bool.or_eq_true, beq_iff_eq, String.endsWith_eq_endsWith_toSlice,
    String.Slice.endsWith_string_iff, String.copy_toSlice]
  exact or_iff_right hne

/-- The reference that was printed. -/
def reference : Reference := .ofPath e.path e.kind (some (e.peeled.getD e.object))

theorem isReadAs_reference : e.IsReadAs e.reference where
  path := rfl
  name := by
    -- there is a slash in the path: the one that ends the folder
    have hslash : '/' ∈ e.path.toList.reverse := by
      rw [List.mem_reverse, toList_path]
      refine List.mem_append_left _ ?_
      cases e.kind <;> decide
    obtain ⟨last, before, hsplit, hlast⟩ := List.eq_append_cons_of_mem hslash
    have hpath : e.path.toList = before.reverse ++ '/' :: last.reverse := by
      rw [← List.reverse_reverse e.path.toList, hsplit]
      simp
    have hlast' : '/' ∉ last.reverse := by simpa using hlast
    refine ⟨before.reverse, ?_⟩
    rw [reference, Reference.ofPath, String.toList_ofList, hpath, Text.afterLast_append_sep hlast']
    exact ⟨rfl, hlast'⟩
  kind := rfl
  target := rfl

/-- **A line that was left whole** is read as its reference, unless it is that of a symbolic name. -/
theorem ofLine?_line :
    Reference.ofLine? e.line = if e.IsHead then none else some e.reference := by
  have hne : e.line.isEmpty = false := by
    rw [line_eq]
    simp
  have htarget : (if (e.peeled.getD "").isEmpty then e.object else e.peeled.getD "") =
      e.peeled.getD e.object := by
    cases hpeeled : e.peeled with
    | none => rfl
    | some p =>
      have hp : p.isEmpty = false := by simpa using (e.peeled_hex p hpeeled).1
      rw [Option.getD_some, hp]
      rfl
  have hparts : ∀ (i : Nat) (hi : i < 3), String.ofList (e.fields[i]?.getD []) =
      [e.path, e.object, e.peeled.getD ""][i] := by
    intro i hi
    match i, hi with
    | 0, _ => exact String.ofList_toList
    | 1, _ => exact String.ofList_toList
    | 2, _ => exact String.ofList_toList
  simp only [Reference.ofLine?, hne, splitOn_line, hparts 0 (by decide), hparts 1 (by decide),
    hparts 2 (by decide), List.getElem_cons_zero, List.getElem_cons_succ, htarget, kindOfPath_path,
    isHead_path_iff, Bool.false_eq_true, if_false]
  rfl

theorem list_eq (es : List PrintedReference) : Reference.list (print es) =
    es.flatMap fun e => (Text.printed e.line).filterMap Reference.ofLine? := by
  have hlines : Text.lines (print es).toList = (es.map line).flatMap Text.printed := by
    rw [print, String.toList_ofList, ← Text.lines_flatMap_lineFeed, List.flatMap_map]
  rw [Reference.list, hlines, List.flatMap_map, List.filterMap_flatMap]

/-- The references of a line that was left whole. -/
theorem filterMap_printed (h : e.HasPlainName) :
    (Text.printed e.line).filterMap Reference.ofLine? = if e.IsHead then [] else [e.reference] := by
  rw [Text.printed_of_isPlain (e.isPlain_line h), List.filterMap_cons, ofLine?_line]
  by_cases hhead : e.IsHead
  · simp only [if_pos hhead, List.filterMap_nil]
  · simp only [if_neg hhead, List.filterMap_nil]

end PrintedReference

/-- **No path that is read holds a line boundary.** -/
theorem Reference.isPlain_of_mem_list {text : String} {r : Reference} (h : r ∈ Reference.list text) :
    Text.IsPlain r.path.toList := by
  obtain ⟨line, hline, hread⟩ := List.mem_filterMap.1 h
  have hplain : Text.IsPlain line := Text.isPlain_of_mem_lines hline
  -- the path is the first part of the line
  have hpath : r.path.toList = (Text.splitOn '\x00' line)[0]?.getD [] := by
    unfold Reference.ofLine? at hread
    split at hread
    · cases hread
    · simp only at hread
      split at hread
      · cases hread
      · cases hread
        exact String.toList_ofList
  intro c hc
  rw [hpath] at hc
  cases hpart : (Text.splitOn '\x00' line)[0]? with
  | none =>
    rw [hpart] at hc
    exact absurd hc List.not_mem_nil
  | some part =>
    rw [hpart] at hc
    exact hplain c (Text.mem_of_mem_splitOn (List.mem_of_getElem? hpart) hc)

namespace PrintedReference

/-- **A reference is found again** just when its name holds no line boundary. -/
theorem mem_list_print {es : List PrintedReference} {e : PrintedReference} (he : e ∈ es)
    (hhead : ¬e.IsHead) : (∃ r ∈ Reference.list (print es), e.IsReadAs r) ↔ e.HasPlainName := by
  constructor
  · intro ⟨r, hr, hread⟩
    rw [← e.isPlain_path_iff, ← hread.path]
    exact Reference.isPlain_of_mem_list hr
  · intro h
    refine ⟨e.reference, ?_, e.isReadAs_reference⟩
    rw [list_eq]
    refine List.mem_flatMap.2 ⟨e, he, ?_⟩
    rw [e.filterMap_printed h, if_neg hhead]
    exact List.mem_singleton_self _

/-- **The references of a listing** whose names hold no line boundaries, each of them once and in its
    order. -/
theorem list_print {es : List PrintedReference} (h : ∀ e ∈ es, e.HasPlainName) :
    List.Forall₂ IsReadAs (es.filter fun e => ¬e.IsHead) (Reference.list (print es)) := by
  rw [list_eq]
  induction es with
  | nil => exact .nil
  | cons e es ih =>
    obtain ⟨he, hes⟩ := List.forall_mem_cons.1 h
    rw [List.flatMap_cons, e.filterMap_printed he]
    by_cases hhead : e.IsHead
    · rw [if_pos hhead, List.filter_cons_of_neg (by simpa using hhead)]
      exact ih hes
    · rw [if_neg hhead, List.filter_cons_of_pos (by simpa using hhead)]
      exact .cons e.isReadAs_reference (ih hes)

end PrintedReference

end HistoryMetrics
