import HistoryMetrics.Log
import Mathlib.Data.List.Basic

/-! # The loggers of the program

    Loggers hand their records on to those above them, which are found by cutting names at dots. A name is
    put below the name of the program unless it begins with it. This does not always make it the name of a
    part of the program: a name may begin with that of the program and go on without a dot, and of two dots
    in a row only one is a place to cut.

    - `IsAbove`, `mem_loggersAbove_iff`: the names above a name
    - `IsPartName`, `isProgramLogger_iff`: the names of the program and its parts
    - `isPartName_loggerName`, `not_isPartName_of_goesOn`: where names are put
    - `ReachesProgram`, `reachesProgram_iff`: handing on, whichever loggers are in use
-/

namespace HistoryMetrics

/-! ## Names above names -/

/-- **A name above another**, both written backwards: it is followed by an odd number of dots, and then by
    something else or by nothing. -/
def IsAbove (above name : List Char) : Prop :=
  ∃ dots rest, name = rest ++ (List.replicate (2 * dots + 1) '.' ++ above) ∧ rest.getLast? ≠ some '.'

section above

variable {above name : List Char} {c : Char}

/-- A name that ends with a dot is cut before the dot, and then before what stands there. -/
theorem isAbove_dot_cons : IsAbove above ('.' :: c :: name) ↔ above = c :: name ∨ IsAbove above name := by
  constructor
  · rintro ⟨dots, rest, hname, hrest⟩
    match rest, dots with
    | [], 0 => exact .inl (List.cons.inj hname).2.symm
    | [], dots + 1 =>
      -- two of the dots are passed at once
      have htwo : 2 * (dots + 1) + 1 = 2 * dots + 1 + 1 + 1 := by omega
      rw [htwo, List.replicate_succ, List.replicate_succ] at hname
      exact .inr ⟨dots, [], (List.cons.inj (List.cons.inj hname).2).2, nofun⟩
    | [d], _ =>
      rw [(List.cons.inj hname).1] at hrest
      exact absurd rfl hrest
    | d :: e :: rest, dots =>
      refine .inr ⟨dots, rest, (List.cons.inj (List.cons.inj hname).2).2, ?_⟩
      cases rest with
      | nil => exact nofun
      | cons f rest => rwa [List.getLast?_cons_cons, List.getLast?_cons_cons] at hrest
  · rintro (rfl | ⟨dots, rest, rfl, hrest⟩)
    · exact ⟨0, [], rfl, nofun⟩
    · cases rest with
      | cons d rest =>
        refine ⟨dots, '.' :: c :: d :: rest, rfl, ?_⟩
        rwa [List.getLast?_cons_cons, List.getLast?_cons_cons]
      | nil =>
        by_cases hc : c = '.'
        · subst hc
          exact ⟨dots + 1, [], rfl, nofun⟩
        · refine ⟨dots, ['.', c], rfl, ?_⟩
          simpa using hc

/-- A name is not cut anywhere else. -/
theorem isAbove_cons (hne : above ≠ []) (hnot : ∀ d rest, c = '.' → name = d :: rest → False) :
    IsAbove above (c :: name) ↔ IsAbove above name := by
  constructor
  · rintro ⟨dots, rest, hname, hrest⟩
    cases rest with
    | nil =>
      rw [List.replicate_succ] at hname
      obtain ⟨rfl, rfl⟩ := List.cons.inj hname
      obtain ⟨d, more, hmore⟩ := List.exists_cons_of_ne_nil
        (List.append_ne_nil_of_right_ne_nil (List.replicate (2 * dots) '.') hne)
      exact absurd hmore (hnot d more rfl)
    | cons d rest =>
      obtain ⟨-, rfl⟩ := List.cons.inj hname
      refine ⟨dots, rest, rfl, ?_⟩
      cases rest with
      | nil => exact nofun
      | cons e rest => rwa [List.getLast?_cons_cons] at hrest
  · rintro ⟨dots, rest, rfl, hrest⟩
    refine ⟨dots, c :: rest, rfl, ?_⟩
    cases rest with
    | cons d rest => rwa [List.getLast?_cons_cons]
    | nil =>
      intro hc
      have hdot : c = '.' := by simpa using hc
      rw [List.replicate_succ] at hnot
      exact hnot '.' (List.replicate (2 * dots) '.' ++ above) hdot rfl

/-- **The loggers above a logger are those whose names stand above its name.** -/
theorem mem_loggersAbove_iff (hne : above ≠ []) : above ∈ loggersAbove name ↔ IsAbove above name := by
  -- the cases of the cutting: a dot and the character before it, any other character, the end
  induction name using loggersAbove.induct with
  | case1 c name ih => rw [loggersAbove, List.mem_cons, ih, isAbove_dot_cons]
  | case2 c name hnot ih =>
    rw [loggersAbove, ih, isAbove_cons hne hnot]
    exact hnot
  | case3 =>
    constructor
    · intro h
      cases h
    · rintro ⟨dots, rest, hname, -⟩
      simp at hname

end above

/-! ## Names of the program -/

/-- **The names of the program and its parts**: the name of the program, and those that go on from it with
    an odd number of dots. -/
def IsPartName (name : String) : Prop :=
  name = rootLogger ∨ ∃ dots more,
    name.toList = rootLogger.toList ++ (List.replicate (2 * dots + 1) '.' ++ more) ∧
      more.head? ≠ some '.'

theorem isAbove_rootLogger_iff {name : String} :
    IsAbove rootLogger.toList.reverse name.toList.reverse ↔ ∃ dots more,
      name.toList = rootLogger.toList ++ (List.replicate (2 * dots + 1) '.' ++ more) ∧
        more.head? ≠ some '.' := by
  constructor
  · rintro ⟨dots, rest, hname, hrest⟩
    refine ⟨dots, rest.reverse, ?_, ?_⟩
    · rw [← List.reverse_inj, hname]
      simp
    · rwa [List.head?_reverse]
  · rintro ⟨dots, more, hname, hmore⟩
    refine ⟨dots, more.reverse, ?_, ?_⟩
    · rw [hname]
      simp
    · rwa [List.getLast?_reverse]

theorem isProgramLogger_iff {name : String} : isProgramLogger name = true ↔ IsPartName name := by
  have hne : rootLogger.toList.reverse ≠ [] := by decide
  rw [isProgramLogger, Bool.or_eq_true, beq_iff_eq, List.contains_iff_mem, mem_loggersAbove_iff hne,
    isAbove_rootLogger_iff]
  rfl

theorem isProgramLogger_eq_false_iff {name : String} :
    isProgramLogger name = false ↔ ¬IsPartName name := by
  rw [Bool.eq_false_iff, Ne, isProgramLogger_iff]

/-- A name that begins with that of the program is left as it is. -/
theorem loggerName_of_begins {name : String} (h : rootLogger.toList <+: name.toList) :
    loggerName (some name) = name :=
  if_pos (String.startsWith_string_iff.2 h)

theorem loggerName_of_not_begins {name : String} (h : ¬rootLogger.toList <+: name.toList) :
    loggerName (some name) = rootLogger ++ "." ++ name :=
  if_neg fun hprefix => h (String.startsWith_string_iff.1 hprefix)

/-- **Names are put below that of the program**, unless they begin with it or with a dot. -/
theorem isPartName_loggerName {name : String} (h : ¬rootLogger.toList <+: name.toList)
    (hdot : name.toList.head? ≠ some '.') : IsPartName (loggerName (some name)) := by
  rw [loggerName_of_not_begins h]
  refine .inr ⟨0, name.toList, ?_, hdot⟩
  simp

/-- **A name that goes on from that of the program without a dot** is not put below it. -/
theorem not_isPartName_of_goesOn {name : String} {c : Char} {more : List Char}
    (hname : name.toList = rootLogger.toList ++ c :: more) (hc : c ≠ '.') :
    ¬IsPartName (loggerName (some name)) := by
  have hprefix : rootLogger.toList <+: name.toList := ⟨c :: more, hname.symm⟩
  rw [loggerName_of_begins hprefix]
  rintro (rfl | ⟨dots, rest, hdots, -⟩)
  · simp at hname
  · rw [hname, List.replicate_succ] at hdots
    exact hc (List.cons.inj (List.append_cancel_left hdots)).1

/-! ## Loggers in use -/

section inUse

variable {inUse : List String}

/-- **A logger whose records reach the program.** They are handed on to the nearest logger above that is
    in use, and by that one in the same way. -/
inductive ReachesProgram (inUse : List String) : String → Prop where
  | self : ReachesProgram inUse rootLogger
  | handsOn {name : String} {above : List Char}
      (h : (loggersAbove name.toList.reverse).find? (fun a => inUse.contains (.ofList a.reverse)) =
        some above)
      (habove : ReachesProgram inUse (.ofList above.reverse)) : ReachesProgram inUse name

/-- Above a name that does not end with a dot stand the same names as further above what it is above. -/
theorem loggersAbove_of_split {name above : List Char} {nearer further : List (List Char)}
    (h : loggersAbove name = nearer ++ above :: further) (hdot : above.head? ≠ some '.') :
    loggersAbove above = further := by
  induction name using loggersAbove.induct generalizing nearer with
  | case1 c name ih =>
    rw [loggersAbove] at h
    cases nearer with
    | nil =>
      obtain ⟨rfl, rfl⟩ := List.cons.inj h
      rw [loggersAbove]
      rintro d rest rfl
      exact fun _ => hdot rfl
    | cons _ nearer => exact ih (List.cons.inj h).2
  | case2 c name hnot ih =>
    rw [loggersAbove] at h
    · exact ih h
    · exact hnot
  | case3 => simp [loggersAbove] at h

/-- **The names of the program and its parts reach it**, whichever loggers are in use, as long as none of
    them has a name that ends with a dot. -/
theorem reachesProgram_iff (hroot : rootLogger ∈ inUse)
    (hdots : ∀ name ∈ inUse, name.toList.getLast? ≠ some '.') {name : String} :
    ReachesProgram inUse name ↔ isProgramLogger name = true := by
  have hcontains : ∀ above : List Char, inUse.contains (.ofList above.reverse) = true →
      above.head? ≠ some '.' := by
    intro above hmem
    have hlast := hdots _ (List.contains_iff_mem.1 hmem)
    rwa [String.toList_ofList, List.getLast?_reverse] at hlast
  constructor
  · intro h
    induction h with
    | self => decide
    | @handsOn name above hfind _ ih =>
      obtain ⟨hmem, nearer, further, hsplit, -⟩ := List.find?_eq_some_iff_append.1 hfind
      have hfurther := loggersAbove_of_split hsplit (hcontains above hmem)
      rw [isProgramLogger, String.toList_ofList, List.reverse_reverse, hfurther] at ih
      rw [isProgramLogger, hsplit]
      simp only [Bool.or_eq_true, beq_iff_eq, List.contains_iff_mem, List.mem_append,
        List.mem_cons] at ih ⊢
      obtain heq | hroot' := ih
      · have habove : rootLogger.toList.reverse = above := by
          rw [← heq, String.toList_ofList, List.reverse_reverse]
        exact .inr (.inr (.inl habove))
      · exact .inr (.inr (.inr hroot'))
  · intro h
    -- by the loggers above, of which there are fewer at each step
    generalize hn : (loggersAbove name.toList.reverse).length = n
    induction n using Nat.strongRecOn generalizing name with
    | ind n ih =>
      subst hn
      rw [isProgramLogger, Bool.or_eq_true, beq_iff_eq, List.contains_iff_mem] at h
      rcases h with rfl | hmem
      · exact .self
      · have hsome : ((loggersAbove name.toList.reverse).find?
            fun a => inUse.contains (.ofList a.reverse)).isSome = true := by
          rw [List.find?_isSome]
          refine ⟨_, hmem, List.contains_iff_mem.2 ?_⟩
          rwa [List.reverse_reverse, String.ofList_toList]
        obtain ⟨above, hfind⟩ := Option.isSome_iff_exists.1 hsome
        obtain ⟨huse, nearer, further, hsplit, hnearer⟩ := List.find?_eq_some_iff_append.1 hfind
        have hfurther := loggersAbove_of_split hsplit (hcontains above huse)
        refine .handsOn hfind (ih _ ?_ ?_ rfl)
        · rw [String.toList_ofList, List.reverse_reverse, hfurther, hsplit]
          simp only [List.length_append, List.length_cons]
          omega
        · -- the logger of the program is in use, so it is not nearer than the nearest one in use
          rw [isProgramLogger, String.toList_ofList, List.reverse_reverse, hfurther]
          rw [hsplit, List.mem_append, List.mem_cons] at hmem
          rcases hmem with hmem | heq | hmem
          · have hnot := hnearer _ hmem
            rw [List.reverse_reverse, String.ofList_toList, List.contains_iff_mem.2 hroot] at hnot
            cases hnot
          · rw [← heq, List.reverse_reverse, String.ofList_toList]
            simp
          · simp [hmem]

end inUse

end HistoryMetrics
