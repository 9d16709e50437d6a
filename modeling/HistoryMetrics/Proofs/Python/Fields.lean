import HistoryMetrics.Proofs.Metric.Reference
import HistoryMetrics.Proofs.Python.Levels
import HistoryMetrics.Python.Outline
import Mathlib.Data.List.Forall2
import Mathlib.Data.Set.Card

/-! # Fields of a class

    A class has a field for each name that its body binds by an assignment, and for each attribute that
    its `__init__` gives to `self`, however deep the assignment stands. A name may be bound many times and
    in both ways: it makes one field, in the place of its first binding, and what the class body binds
    comes before everything else.

    - `Assignment`, `Stmt.assignments`: what a statement assigns to
    - `BindsName`, `BindsAttribute`: the names and attributes that a class body binds
    - `mem_receiverLevelsAll_iff`: the walk through `__init__` meets every assignment
    - `map_name_firstBindings`, `mem_firstBindings_iff`: the first binding of each name
    - `fieldOutlines_eq_some_iff`: the fields and their bindings, one by one
    - `fields_are_bindings`: what the fields of a class are
-/

namespace HistoryMetrics

open Python

namespace Python

/-! ## Assignments -/

/-- **An assignment to one target**, with the line of its statement and its annotation. -/
structure Assignment where
  target : Expr
  line : Nat
  hint : Option Expr

/-- **The assignments that a statement makes itself**, in their order. -/
def Stmt.assignments : Stmt → List Assignment
  | .simple s (.assign targets _) => targets.map fun t => ⟨t, s.line, none⟩
  | .simple s (.annotated target hint _) => [⟨target, s.line, some hint⟩]
  | _ => []

/-- The binding that an assignment makes, if its target is of the kind that is asked for. -/
def Assignment.binding? (target? : Expr → Option String) (a : Assignment) : Option Binding :=
  (target? a.target).map fun x => ⟨x, a.line, a.hint⟩

theorem bindings_eq (target? : Expr → Option String) (s : Span) (content : Simple) :
    content.bindings target? s.line =
      (Stmt.assignments (.simple s content)).filterMap (Assignment.binding? target?) := by
  cases content with
  | assign targets value =>
    simp only [Simple.bindings, Stmt.assignments, List.map_filterMap, List.filterMap_map]
    rfl
  | annotated target hint value =>
    simp only [Simple.bindings, Stmt.assignments, List.filterMap_cons, List.filterMap_nil,
      Assignment.binding?]
    cases target? target <;> rfl
  | _ => rfl

theorem plainTarget?_eq_some_iff {e : Expr} {x : String} :
    plainTarget? e = some x ↔ ∃ s, e = .name s x := by
  cases e with
  | name s y => simp [plainTarget?]
  | _ => simp [plainTarget?]

theorem receiverTarget?_eq_some_iff {e : Expr} {x : String} :
    receiverTarget? e = some x ↔ ∃ s t, e = .attribute s (.name t "self") x := by
  unfold receiverTarget?
  split
  · next s t y attr =>
    by_cases hself : y = "self"
    · simp [hself]
    · simp [hself]
  · next hno =>
    constructor
    · intro h
      cases h
    · rintro ⟨s, t, rfl⟩
      exact absurd rfl (hno s t "self" x)

/-! ## The class body -/

/-- The assignments of a class body itself, in the order of the source. -/
def assignmentsOf (body : List Stmt) : List Assignment := body.flatMap Stmt.assignments

/-- **Does a class body bind a name?** The name is then the target of an assignment of the body itself. -/
def BindsName (body : List Stmt) (x : String) : Prop :=
  ∃ a ∈ assignmentsOf body, ∃ s, a.target = .name s x

theorem classBindings_eq (body : List Stmt) :
    classBindings body = (assignmentsOf body).filterMap (Assignment.binding? plainTarget?) := by
  rw [classBindings, assignmentsOf, List.filterMap_flatMap]
  apply List.flatMap_congr
  intro s _
  cases s with
  | simple s content => exact bindings_eq plainTarget? s content
  | _ => rfl

theorem bindsName_iff (body : List Stmt) (x : String) :
    BindsName body x ↔ x ∈ (classBindings body).map Binding.name := by
  simp only [BindsName, classBindings_eq, List.mem_map, List.mem_filterMap, Assignment.binding?,
    Option.map_eq_some_iff, plainTarget?_eq_some_iff]
  constructor
  · rintro ⟨a, ha, s, htarget⟩
    exact ⟨⟨x, a.line, a.hint⟩, ⟨a, ha, x, ⟨s, htarget⟩, rfl⟩, rfl⟩
  · rintro ⟨_, ⟨a, ha, y, ⟨s, htarget⟩, rfl⟩, rfl⟩
    exact ⟨a, ha, s, htarget⟩

/-! ## Statements inside statements -/

/-- The body of a handler. -/
def Handler.body : Handler → List Stmt
  | .mk _ _ _ body => body

/-- The body of a case. -/
def MatchCase.body : MatchCase → List Stmt
  | .mk _ _ body => body

/-- **The statements directly inside a statement**, those of its handlers and cases included. -/
def Stmt.inside : Stmt → List Stmt
  | .simple .. => []
  | .ifElse _ _ body orElse => body ++ orElse
  | .forEach _ _ _ _ body orElse => body ++ orElse
  | .whileLoop _ _ body orElse => body ++ orElse
  | .withBlock _ _ _ body => body
  | .tryBlock _ _ body handlers orElse final =>
    body ++ handlers.flatMap Handler.body ++ orElse ++ final
  | .switch _ _ cases => cases.flatMap MatchCase.body
  | .function _ _ _ _ body _ _ => body
  | .classDef _ _ _ _ body _ => body

theorem Stmt.sizeOf_lt_of_mem_inside {s t : Stmt} (h : t ∈ s.inside) : sizeOf t < sizeOf s := by
  have hlist : ∀ {l : List Stmt}, t ∈ l → sizeOf t < sizeOf l := fun h => List.sizeOf_lt_of_mem h
  cases s with
  | simple => cases h
  | ifElse | forEach | whileLoop =>
    simp only [inside, List.mem_append] at h
    rcases h with h | h
    all_goals
      have := hlist h
      simp only [ifElse.sizeOf_spec, forEach.sizeOf_spec, whileLoop.sizeOf_spec]
      omega
  | withBlock | function | classDef =>
    simp only [inside] at h
    have := hlist h
    simp only [withBlock.sizeOf_spec, function.sizeOf_spec, classDef.sizeOf_spec]
    omega
  | tryBlock _ _ body handlers orElse final =>
    simp only [inside, List.mem_append, List.mem_flatMap] at h
    simp only [tryBlock.sizeOf_spec]
    rcases h with ((h | ⟨⟨_, _, _, inner⟩, hhandler, h⟩) | h) | h
    case inl.inl.inr =>
      have hsize := List.sizeOf_lt_of_mem hhandler
      have := hlist (l := inner) h
      simp only [Handler.mk.sizeOf_spec] at hsize
      omega
    all_goals
      have := hlist h
      omega
  | switch _ subject cases =>
    obtain ⟨⟨_, _, inner⟩, hcase, h⟩ := List.mem_flatMap.1 h
    have hsize := List.sizeOf_lt_of_mem hcase
    have := hlist (l := inner) h
    simp only [MatchCase.mk.sizeOf_spec] at hsize
    simp only [switch.sizeOf_spec]
    omega

/-- The nesting of statements. -/
def Stmt.nesting : Nesting Stmt := ⟨Stmt.inside, sizeOf, fun _ _ h => Stmt.sizeOf_lt_of_mem_inside h⟩

/-- **Does the `__init__` of a class bind an attribute?** The attribute of `self` is then the target of an
    assignment at some depth inside a function of that name in the class body. -/
def BindsAttribute (body : List Stmt) (x : String) : Prop :=
  ∃ span isAsync params inner decorators returns,
    .function span isAsync "__init__" params inner decorators returns ∈ body ∧
      ∃ s ∈ inner, ∃ t, Stmt.nesting.Within t s ∧
        ∃ a ∈ t.assignments, ∃ p q, a.target = .attribute p (.name q "self") x

/-! ## The walk through `__init__` -/

theorem mem_flatten_sideBySide {α : Type} {a : α} (xs ys : List (List α)) :
    a ∈ (sideBySide xs ys).flatten ↔ a ∈ xs.flatten ∨ a ∈ ys.flatten := by
  induction xs generalizing ys with
  | nil => simp [sideBySide]
  | cons x xs ih =>
    cases ys with
    | nil => simp [sideBySide]
    | cons y ys =>
      simp only [sideBySide, List.flatten_cons, List.mem_append, ih]
      tauto

theorem mem_receiverLevelsAll {b : Binding} (ss : List Stmt) :
    b ∈ (receiverLevelsAll ss).flatten ↔ ∃ s ∈ ss, b ∈ (receiverLevels s).flatten := by
  induction ss with
  | nil => simp [receiverLevelsAll]
  | cons s ss ih =>
    simp only [receiverLevelsAll, mem_flatten_sideBySide, ih, List.mem_cons, exists_eq_or_imp]

theorem mem_handlerLevels {b : Binding} (hs : List Handler) :
    b ∈ (handlerLevels hs).flatten ↔
      ∃ s ∈ hs.flatMap Handler.body, b ∈ (receiverLevels s).flatten := by
  induction hs with
  | nil => simp [handlerLevels]
  | cons h hs ih =>
    cases h with
    | mk s type name body =>
      simp only [handlerLevels, mem_flatten_sideBySide, ih, List.flatten_cons, List.nil_append,
        mem_receiverLevelsAll, List.flatMap_cons, Handler.body, List.mem_append, or_and_right,
        exists_or]

theorem mem_caseLevels {b : Binding} (cs : List MatchCase) :
    b ∈ (caseLevels cs).flatten ↔
      ∃ s ∈ cs.flatMap MatchCase.body, b ∈ (receiverLevels s).flatten := by
  induction cs with
  | nil => simp [caseLevels]
  | cons c cs ih =>
    cases c with
    | mk pattern guard body =>
      simp only [caseLevels, mem_flatten_sideBySide, ih, List.flatten_cons, List.nil_append,
        mem_receiverLevelsAll, List.flatMap_cons, MatchCase.body, List.mem_append, or_and_right,
        exists_or]

/-- The attributes of the receiver that a statement binds itself. -/
def Stmt.receiverBindings (s : Stmt) : List Binding :=
  s.assignments.filterMap (Assignment.binding? receiverTarget?)

/-- One level of the walk: what a statement binds itself, and what is bound inside it. -/
theorem mem_receiverLevels {b : Binding} (s : Stmt) :
    b ∈ (receiverLevels s).flatten ↔
      b ∈ s.receiverBindings ∨ ∃ t ∈ s.inside, b ∈ (receiverLevels t).flatten := by
  cases s with
  | simple s content =>
    rw [receiverLevels, bindings_eq]
    simp [Stmt.receiverBindings, Stmt.inside]
  | ifElse | forEach | whileLoop | withBlock | tryBlock | switch | function | classDef =>
    simp only [receiverLevels, List.flatten_cons, List.nil_append, mem_flatten_sideBySide,
      mem_receiverLevelsAll, mem_handlerLevels, mem_caseLevels, Stmt.receiverBindings,
      Stmt.assignments, Stmt.inside, List.filterMap_nil, List.not_mem_nil, false_or, List.mem_append,
      or_and_right, exists_or, or_assoc]

/-- **The walk meets every assignment** at any depth, and nothing else. -/
theorem mem_receiverLevels_iff {b : Binding} (s : Stmt) :
    b ∈ (receiverLevels s).flatten ↔ ∃ t, Stmt.nesting.Within t s ∧ b ∈ t.receiverBindings := by
  constructor
  · intro h
    -- by the size of the statement
    generalize hn : sizeOf s = n
    induction n using Nat.strongRecOn generalizing s with
    | ind n ih =>
      rcases (mem_receiverLevels s).1 h with hown | ⟨t, ht, hb⟩
      · exact ⟨s, .self, hown⟩
      · have hless := Stmt.sizeOf_lt_of_mem_inside ht
        obtain ⟨u, hwithin, hu⟩ := ih (sizeOf t) (hn ▸ hless) t hb rfl
        exact ⟨u, .inside ht hwithin, hu⟩
  · rintro ⟨t, hwithin, hb⟩
    induction hwithin with
    | self => exact (mem_receiverLevels t).2 (.inl hb)
    | inside hc _ ih => exact (mem_receiverLevels _).2 (.inr ⟨_, hc, ih⟩)

theorem bindsAttribute_iff (body : List Stmt) (x : String) :
    BindsAttribute body x ↔ x ∈ (receiverBindings body).map Binding.name := by
  have hown : ∀ t : Stmt, (∃ a ∈ t.assignments, ∃ p q, a.target = .attribute p (.name q "self") x) ↔
      ∃ b ∈ t.receiverBindings, b.name = x := by
    intro t
    simp only [Stmt.receiverBindings, List.mem_filterMap, Assignment.binding?, Option.map_eq_some_iff,
      receiverTarget?_eq_some_iff]
    constructor
    · rintro ⟨a, ha, p, q, htarget⟩
      exact ⟨⟨x, a.line, a.hint⟩, ⟨a, ha, x, ⟨p, q, htarget⟩, rfl⟩, rfl⟩
    · rintro ⟨_, ⟨a, ha, y, ⟨p, q, htarget⟩, rfl⟩, rfl⟩
      exact ⟨a, ha, p, q, htarget⟩
  simp only [BindsAttribute, hown, List.mem_map, receiverBindings, List.mem_flatMap]
  constructor
  · rintro ⟨span, isAsync, params, inner, decorators, returns, hfun, s, hs, t, hwithin, b, hb, hname⟩
    refine ⟨b, ⟨_, hfun, ?_⟩, hname⟩
    show b ∈ (receiverLevelsAll inner).flatten
    exact (mem_receiverLevelsAll inner).2 ⟨s, hs, (mem_receiverLevels_iff s).2 ⟨t, hwithin, hb⟩⟩
  · rintro ⟨b, ⟨f, hf, hb⟩, hname⟩
    cases f with
    | function span isAsync name params inner decorators returns =>
      by_cases hinit : name = "__init__"
      · subst hinit
        obtain ⟨s, hs, hlevels⟩ := (mem_receiverLevelsAll inner).1 hb
        obtain ⟨t, hwithin, ht⟩ := (mem_receiverLevels_iff s).1 hlevels
        exact ⟨span, isAsync, params, inner, decorators, returns, hf, s, hs, t, hwithin, b, ht, hname⟩
      · simp [hinit] at hb
    | _ => cases hb

/-! ## First bindings -/

/-- **The names of the first bindings**: each name once, in the order of its first binding, but for those
    that have been seen. -/
theorem map_name_firstBindings (seen : List String) (bs : List Binding) :
    (firstBindings seen bs).map Binding.name =
      ((bs.map Binding.name).filter fun x => !seen.contains x).eraseDups := by
  induction bs generalizing seen with
  | nil => rfl
  | cons b bs ih =>
    by_cases hseen : seen.contains b.name = true
    · simp only [firstBindings, hseen, if_true, ih, List.map_cons, List.filter_cons, Bool.not_true,
        Bool.false_eq_true, if_false]
    · rw [Bool.not_eq_true] at hseen
      simp only [firstBindings, hseen, Bool.false_eq_true, if_false, ih, List.map_cons,
        List.filter_cons, Bool.not_false, if_true, List.eraseDups_cons, List.filter_filter]
      -- what has been seen now is the name itself, and what had been seen before
      congr 2
      apply List.filter_congr
      intro x _
      rw [List.contains_cons, Bool.not_or]

/-- **A first binding** is one before which its name is not bound. -/
theorem mem_firstBindings_iff {seen : List String} {bs : List Binding} {b : Binding} :
    b ∈ firstBindings seen bs ↔ b.name ∉ seen ∧
      ∃ before after, bs = before ++ b :: after ∧ ∀ a ∈ before, a.name ≠ b.name := by
  induction bs generalizing seen with
  | nil => simp [firstBindings]
  | cons c bs ih =>
    have hsplit : (∃ before after, c :: bs = before ++ b :: after ∧ ∀ a ∈ before, a.name ≠ b.name) ↔
        c = b ∨ c.name ≠ b.name ∧
          ∃ before after, bs = before ++ b :: after ∧ ∀ a ∈ before, a.name ≠ b.name := by
      constructor
      · rintro ⟨before, after, heq, hbefore⟩
        cases before with
        | nil => exact .inl (List.cons.inj heq).1
        | cons d before =>
          obtain ⟨rfl, rfl⟩ := List.cons.inj heq
          rw [List.forall_mem_cons] at hbefore
          exact .inr ⟨hbefore.1, before, after, rfl, hbefore.2⟩
      · rintro (rfl | ⟨hne, before, after, rfl, hbefore⟩)
        · exact ⟨[], bs, rfl, fun a ha => absurd ha List.not_mem_nil⟩
        · exact ⟨c :: before, after, rfl, List.forall_mem_cons.2 ⟨hne, hbefore⟩⟩
    rw [hsplit]
    by_cases hseen : c.name ∈ seen
    · simp only [firstBindings, List.contains_iff_mem, hseen, if_true, ih]
      constructor
      · rintro ⟨hb, hrest⟩
        exact ⟨hb, .inr ⟨fun hname => hb (hname ▸ hseen), hrest⟩⟩
      · rintro ⟨hb, rfl | ⟨-, hrest⟩⟩
        · exact absurd hseen hb
        · exact ⟨hb, hrest⟩
    · simp only [firstBindings, List.contains_iff_mem, hseen, if_false, List.mem_cons, ih, not_or]
      constructor
      · rintro (rfl | ⟨⟨hne, hb⟩, hrest⟩)
        · exact ⟨hseen, .inl rfl⟩
        · exact ⟨hb, .inr ⟨Ne.symm hne, hrest⟩⟩
      · rintro ⟨hb, rfl | ⟨hne, hrest⟩⟩
        · exact .inl rfl
        · exact .inr ⟨⟨Ne.symm hne, hb⟩, hrest⟩

/-- **First bindings of two lists**: those of the first list come first, and what it binds counts as seen
    from then on. -/
theorem exists_firstBindings_append (seen : List String) (bs cs : List Binding) :
    ∃ seen', (∀ x, x ∈ seen' ↔ x ∈ seen ∨ x ∈ bs.map Binding.name) ∧
      firstBindings seen (bs ++ cs) = firstBindings seen bs ++ firstBindings seen' cs := by
  induction bs generalizing seen with
  | nil => exact ⟨seen, by simp, rfl⟩
  | cons b bs ih =>
    by_cases hseen : seen.contains b.name = true
    · obtain ⟨seen', hmem, hfirst⟩ := ih seen
      have hb : b.name ∈ seen := List.contains_iff_mem.1 hseen
      refine ⟨seen', ?_, ?_⟩
      · intro x
        rw [hmem, List.map_cons, List.mem_cons]
        constructor
        · rintro (hx | hx)
          · exact .inl hx
          · exact .inr (.inr hx)
        · rintro (hx | rfl | hx)
          · exact .inl hx
          · exact .inl hb
          · exact .inr hx
      · simp only [List.cons_append, firstBindings, hseen, if_true, hfirst]
    · obtain ⟨seen', hmem, hfirst⟩ := ih (b.name :: seen)
      refine ⟨seen', ?_, ?_⟩
      · intro x
        rw [hmem, List.map_cons, List.mem_cons, List.mem_cons]
        tauto
      · rw [Bool.not_eq_true] at hseen
        simp only [List.cons_append, firstBindings, hseen, Bool.false_eq_true, if_false, hfirst]

/-! ## Fields -/

/-- A field as the binding says it. -/
structure Binding.Makes (b : Binding) (f : Field) : Prop where
  name : f.name = b.name
  line : f.line = b.line
  hint : annotationText b.hint = some f.typeName

theorem Binding.makes_of_field? {b : Binding} {f : Field} (h : b.field? = some f) : b.Makes f := by
  obtain ⟨text, htext, rfl⟩ := Option.map_eq_some_iff.1 h
  exact ⟨rfl, rfl, htext⟩

theorem mapM_eq_some_iff {α β : Type} {f : α → Option β} {xs : List α} {ys : List β} :
    xs.mapM f = some ys ↔ List.Forall₂ (fun x y => f x = some y) xs ys := by
  induction xs generalizing ys with
  | nil =>
    rw [List.mapM_nil, List.forall₂_nil_left_iff]
    exact ⟨fun h => (Option.some.inj h).symm, fun h => h ▸ rfl⟩
  | cons x xs ih =>
    simp only [List.mapM_cons, Option.bind_eq_bind, Option.bind_eq_some_iff, Option.pure_def,
      Option.some.injEq, List.forall₂_cons_left_iff, ← ih]
    constructor
    · rintro ⟨y, hy, ys', hys', rfl⟩
      exact ⟨y, ys', hy, hys', rfl⟩
    · rintro ⟨y, ys', hy, hys', rfl⟩
      exact ⟨y, hy, ys', hys', rfl⟩

/-- **The fields and the first bindings**, one by one. -/
theorem fieldOutlines_makes {body : List Stmt} {fields : List Field}
    (h : fieldOutlines body = some fields) :
    List.Forall₂ Binding.Makes (fieldBindings body) fields := by
  rw [fieldOutlines, mapM_eq_some_iff] at h
  exact h.imp fun _ _ => Binding.makes_of_field?

/-- A class has fields unless the annotation of some first binding cannot be written. -/
theorem exists_fieldOutlines_iff (body : List Stmt) :
    (∃ fields, fieldOutlines body = some fields) ↔
      ∀ b ∈ fieldBindings body, ∃ text, annotationText b.hint = some text := by
  have hfield : ∀ b : Binding, (∃ f, b.field? = some f) ↔ ∃ text, annotationText b.hint = some text := by
    intro b
    simp [Binding.field?]
  unfold fieldOutlines
  simp only [mapM_eq_some_iff, ← hfield]
  induction fieldBindings body with
  | nil => simp
  | cons b bs ih =>
    rw [List.forall_mem_cons]
    constructor
    · intro ⟨fields, hall⟩
      obtain ⟨f, rest, hf, hrest, -⟩ := List.forall₂_cons_left_iff.1 hall
      exact ⟨⟨f, hf⟩, ih.1 ⟨rest, hrest⟩⟩
    · intro ⟨⟨f, hf⟩, hbs⟩
      obtain ⟨rest, hrest⟩ := ih.2 hbs
      exact ⟨f :: rest, .cons hf hrest⟩

theorem map_name_of_makes {bs : List Binding} {fields : List Field}
    (h : List.Forall₂ Binding.Makes bs fields) :
    fields.map Field.name = bs.map Binding.name := by
  induction h with
  | nil => rfl
  | cons hmakes _ ih => rw [List.map_cons, List.map_cons, hmakes.name, ih]

/-- Fields made by two lists of bindings are those made by the first and those made by the second. -/
theorem exists_append_of_makes {bs cs : List Binding} {fields : List Field}
    (h : List.Forall₂ Binding.Makes (bs ++ cs) fields) :
    ∃ own others, fields = own ++ others ∧ List.Forall₂ Binding.Makes bs own ∧
      List.Forall₂ Binding.Makes cs others := by
  induction bs generalizing fields with
  | nil => exact ⟨[], fields, rfl, .nil, h⟩
  | cons b bs ih =>
    obtain ⟨f, rest, hf, hrest, rfl⟩ := List.forall₂_cons_left_iff.1 h
    obtain ⟨own, others, rfl, hown, hothers⟩ := ih hrest
    exact ⟨f :: own, others, rfl, .cons hf hown, hothers⟩

theorem exists_makes_of_mem {bs : List Binding} {fields : List Field}
    (h : List.Forall₂ Binding.Makes bs fields) {f : Field} (hf : f ∈ fields) :
    ∃ b ∈ bs, b.Makes f := by
  induction h with
  | nil => exact absurd hf List.not_mem_nil
  | @cons b g bs fields hmakes _ ih =>
    rcases List.mem_cons.1 hf with rfl | hf
    · exact ⟨b, List.mem_cons_self, hmakes⟩
    · obtain ⟨c, hc, hcf⟩ := ih hf
      exact ⟨c, List.mem_cons_of_mem b hc, hcf⟩

/-- Does an assignment bind the name? -/
def Assignment.binds (x : String) (a : Assignment) : Bool := plainTarget? a.target == some x

/-- The names that a class body itself binds, in the order of its assignments. -/
theorem map_name_classBindings (body : List Stmt) :
    (classBindings body).map Binding.name =
      (assignmentsOf body).filterMap fun a => plainTarget? a.target := by
  rw [classBindings_eq, List.map_filterMap]
  congr 1
  funext a
  simp [Assignment.binding?, Function.comp_def]

/-- **The first binding of a name** comes from the first assignment that binds the name. -/
theorem exists_first_assignment {body : List Stmt} {b : Binding}
    (h : b ∈ firstBindings [] (classBindings body)) :
    ∃ a, (assignmentsOf body).find? (Assignment.binds b.name) = some a ∧ a.line = b.line ∧
      a.hint = b.hint := by
  obtain ⟨-, before, after, hsplit, hbefore⟩ := mem_firstBindings_iff.1 h
  have hfind : (classBindings body).find? (fun c => c.name == b.name) = some b := by
    rw [hsplit, List.find?_eq_some_iff_append]
    refine ⟨beq_self_eq_true _, before, after, rfl, ?_⟩
    intro a ha
    simpa using hbefore a ha
  rw [classBindings_eq, List.find?_filterMap, Option.bind_eq_some_iff] at hfind
  obtain ⟨a, ha, hbinding⟩ := hfind
  obtain ⟨x, hx, rfl⟩ := Option.map_eq_some_iff.1 hbinding
  refine ⟨a, ?_, rfl, rfl⟩
  rw [← ha]
  congr 1
  funext c
  cases hc : plainTarget? c.target with
  | none => simp [Assignment.binds, Assignment.binding?, hc]
  | some y => simp [Assignment.binds, Assignment.binding?, hc]

/-- **The fields of a class are its bindings, each name once.** A class has fields just when the annotation
    of the first binding of each name can be written. Then their names are all different, and they are the
    names that the class body binds and the attributes that its `__init__` binds. First come the names of
    the class body, in the order of their first assignments, each with the line and the annotation of that
    assignment. The metric for the number of fields gives the number of these names and attributes. -/
theorem fields_are_bindings (body : List Stmt) :
    ((∃ fields, fieldOutlines body = some fields) ↔
        ∀ b ∈ fieldBindings body, ∃ text, annotationText b.hint = some text) ∧
      ∀ fields, fieldOutlines body = some fields →
        (fields.map Field.name).Nodup ∧
        (∀ x, x ∈ fields.map Field.name ↔ BindsName body x ∨ BindsAttribute body x) ∧
        (∃ own others, fields = own ++ others ∧
          own.map Field.name =
            ((assignmentsOf body).filterMap fun a => plainTarget? a.target).eraseDups ∧
          (∀ f ∈ others, ¬ BindsName body f.name) ∧
          ∀ f ∈ own, ∃ a, (assignmentsOf body).find? (Assignment.binds f.name) = some a ∧
            f.line = a.line ∧ annotationText a.hint = some f.typeName) ∧
        ∀ outer s name bases keywords decorators ts,
          typeOutlines outer (.classDef s name bases keywords body decorators) = some ts →
            ∃ t inner, ts = t :: inner ∧ t.fields = fields ∧
              t.reference "NOA" =
                some (.int {x | BindsName body x ∨ BindsAttribute body x}.ncard) := by
  refine ⟨exists_fieldOutlines_iff body, ?_⟩
  intro fields hfields
  have hmakes := fieldOutlines_makes hfields
  have hnames : fields.map Field.name =
      ((classBindings body ++ receiverBindings body).map Binding.name).eraseDups := by
    rw [map_name_of_makes hmakes, fieldBindings, map_name_firstBindings]
    simp
  have hnodup : (fields.map Field.name).Nodup := by
    rw [hnames]
    exact nodup_eraseDups _
  have hmem : ∀ x, x ∈ fields.map Field.name ↔ BindsName body x ∨ BindsAttribute body x := by
    intro x
    rw [hnames, List.mem_eraseDups, List.map_append, List.mem_append, bindsName_iff,
      bindsAttribute_iff]
  refine ⟨hnodup, hmem, ?_, ?_⟩
  · -- what the class body binds is seen before `__init__` is looked at
    obtain ⟨seen, hseen, hfirst⟩ :=
      exists_firstBindings_append [] (classBindings body) (receiverBindings body)
    rw [fieldBindings, hfirst] at hmakes
    obtain ⟨own, others, rfl, hown, hothers⟩ := exists_append_of_makes hmakes
    refine ⟨own, others, rfl, ?_, ?_, ?_⟩
    · rw [map_name_of_makes hown, map_name_firstBindings, ← map_name_classBindings]
      simp
    · intro f hf
      obtain ⟨b, hb, hbf⟩ := exists_makes_of_mem hothers hf
      rw [bindsName_iff, hbf.name]
      intro hclass
      exact (mem_firstBindings_iff.1 hb).1 ((hseen b.name).2 (.inr hclass))
    · intro f hf
      obtain ⟨b, hb, hbf⟩ := exists_makes_of_mem hown hf
      obtain ⟨a, ha, hline, hhint⟩ := exists_first_assignment hb
      rw [← hbf.name] at ha
      exact ⟨a, ha, by rw [hbf.line, hline], by rw [hhint]; exact hbf.hint⟩
  · intro outer s name bases keywords decorators ts hts
    have hcard : {x | BindsName body x ∨ BindsAttribute body x}.ncard = fields.length := by
      have hset : {x | BindsName body x ∨ BindsAttribute body x} =
          ((fields.map Field.name).toFinset : Set String) := by
        ext x
        rw [Set.mem_ofPred_eq, ← hmem, Finset.mem_coe, List.mem_toFinset]
      rw [hset, Set.ncard_coe_finset, List.toFinset_card_of_nodup hnodup, List.length_map]
    simp only [typeOutlines, hfields, Option.bind_eq_bind, Option.bind_some,
      Option.bind_eq_some_iff] at hts
    obtain ⟨inner, -, hts⟩ := hts
    cases hts
    refine ⟨_, inner, rfl, rfl, ?_⟩
    rw [hcard]
    rfl

/-- An attribute of the receiver. -/
def receiverAttribute (x : String) : Expr := .attribute ⟨9, 8, 9⟩ (.name ⟨9, 8, 9⟩ "self") x

/-- A class body with a chained assignment, an annotation after the name is bound, and two `__init__`s, of
    which the second binds attributes inside an `if`. -/
def bodyWithRebindings : List Stmt :=
  let one : Expr := .name ⟨9, 8, 9⟩ "one"
  let int : Expr := .name ⟨9, 8, 9⟩ "int"
  [.simple ⟨2, 4, 2⟩ (.assign [.name ⟨2, 4, 2⟩ "a", .name ⟨2, 8, 2⟩ "b"] one),
    .simple ⟨3, 4, 3⟩ (.annotated (.name ⟨3, 4, 3⟩ "c") int none),
    .simple ⟨4, 4, 4⟩ (.annotated (.name ⟨4, 4, 4⟩ "a") int none),
    .function ⟨5, 4, 6⟩ false "__init__" .empty
      [.simple ⟨6, 8, 6⟩ (.assign [receiverAttribute "b", receiverAttribute "d"] one)] [] none,
    .function ⟨7, 4, 9⟩ false "__init__" .empty
      [.ifElse ⟨8, 8, 9⟩ one
        [.simple ⟨9, 12, 9⟩ (.annotated (receiverAttribute "e") int (some one))]
        [.simple ⟨9, 12, 9⟩ (.assign [receiverAttribute "d"] one)]] [] none]

/-- The fields of the body, each at its first binding. -/
def fieldsWithRebindings : List Field :=
  let field (x : String) (line : Nat) (typeName : Option String) : Field :=
    { name := x, modifiers := Modifiers.ofList [visibility x], typeName, line }
  [field "a" 2 none, field "b" 2 none, field "c" 3 (some "int"), field "d" 6 none,
    field "e" 9 (some "int")]

theorem fieldOutlines_bodyWithRebindings :
    fieldOutlines bodyWithRebindings = some fieldsWithRebindings := by
  rfl

theorem fields_are_bindings_of_rebindings :
    fieldOutlines bodyWithRebindings = some fieldsWithRebindings ∧
      BindsName bodyWithRebindings "b" ∧ BindsAttribute bodyWithRebindings "e" ∧
      {x | BindsName bodyWithRebindings x ∨ BindsAttribute bodyWithRebindings x}.ncard = 5 := by
  obtain ⟨-, hfields⟩ := fields_are_bindings bodyWithRebindings
  obtain ⟨-, -, -, hnoa⟩ := hfields fieldsWithRebindings fieldOutlines_bodyWithRebindings
  have hb : BindsName bodyWithRebindings "b" :=
    (bindsName_iff bodyWithRebindings "b").2 (by decide)
  have he : BindsAttribute bodyWithRebindings "e" :=
    (bindsAttribute_iff bodyWithRebindings "e").2 (by decide)
  refine ⟨fieldOutlines_bodyWithRebindings, hb, he, ?_⟩
  have htypes : ∃ ts, typeOutlines "" (.classDef ⟨1, 0, 9⟩ "C" [] [] bodyWithRebindings []) = some ts :=
    ⟨_, rfl⟩
  obtain ⟨ts, hts⟩ := htypes
  obtain ⟨t, inner, -, hown, hcount⟩ := hnoa "" ⟨1, 0, 9⟩ "C" [] [] [] ts hts
  have hfive : t.reference "NOA" = some (.int 5) := by
    show some (Value.int t.fields.length) = _
    rw [hown]
    rfl
  rw [hfive] at hcount
  simp only [Option.some.injEq, Value.int, Value.number.injEq, Number.whole.injEq] at hcount
  omega

end Python

end HistoryMetrics
