import HistoryMetrics.Proofs.Python.Variables

/-! # Parameters among the variables

    A parameter is one of the variables of its method if the body uses its name. But names are told apart
    by their text only: one that the language provides and one of a receiver never count, even where they
    are parameters. Nor does what the header of a class uses.

    - `UsedIn`, `UsedByClass`: where a body uses a name
    - `GivenIn`: does a handler or a case give the name?
    - `parameter_accessed_iff`: which parameters count
    - `parameters_overlooked`: used parameters that do not
-/

namespace HistoryMetrics

open Python

namespace Python

/-! ## Uses -/

/-- **Does a body use a name**, other than to call a function by it? The headers of definitions are left
    out. -/
def UsedIn (body : List Stmt) (x : String) : Prop :=
  ∃ i ∈ itemsOf body, i.isDefinition = false ∧ i.Uses x

/-- Does the header of a class in a body use a name? -/
def UsedByClass (body : List Stmt) (x : String) : Prop :=
  ∃ isElif span name bases keywords inner decorators,
    .stmt isElif (.classDef span name bases keywords inner decorators) ∈ itemsOf body ∧
      (Item.stmt isElif (.classDef span name bases keywords inner decorators)).Uses x

/-- Does a handler or a case in a body give a name to something? -/
def GivenIn (body : List Stmt) (x : String) : Prop := ∃ i ∈ itemsOf body, i.Gives x

/-- Definitions give no names. -/
theorem Item.isDefinition_of_gives {i : Item} {x : String} (h : i.Gives x) : i.isDefinition = false := by
  match i with
  | .stmt _ _ => cases h
  | .handler _ | .case _ => rfl

/-- The qualified name of an attribute has a dot in it. -/
theorem Item.dot_mem_of_usesAttribute {i : Item} {x : String} (h : i.UsesAttribute x) :
    '.' ∈ x.toList := by
  obtain ⟨s, s', r, attr, -, -, rfl⟩ := h
  simp [String.toList_append]

/-- A name that stands directly in the header of an item is used there. -/
theorem Item.uses_of_mem_header {i : Item} {s : Span} {x : String} (h : .expr (.name s x) ∈ i.header) :
    i.Uses x := by
  refine ⟨s, ?_⟩
  rw [Node.levels_eq]
  exact List.mem_append_left _ h

section

variable (s : Span) (name : String) (params : Parameters) (body : List Stmt) (decorators : List Expr)

/-- **What a body uses is a variable of the method**, unless its name belongs to the language or to a
    receiver. -/
theorem mem_accessedVariables_of_usedIn {x : String} (hused : UsedIn body x)
    (hreceiver : isReceiver x = false) (hbuiltin : isBuiltin x = false) :
    x ∈ (methodOutline s name params body decorators).accessedVariables := by
  obtain ⟨i, hi, hdefinition, huses⟩ := hused
  rw [mem_accessedVariables_iff]
  exact ⟨i, hi, hdefinition, .inl (.inl ⟨huses, hreceiver, hbuiltin⟩)⟩

/-- **A name without dots is a variable of a method** for no other reason, unless a handler or a case
    gives it. -/
theorem mem_accessedVariables_iff_usedIn {x : String} (hx : '.' ∉ x.toList) :
    x ∈ (methodOutline s name params body decorators).accessedVariables ↔
      (UsedIn body x ∧ isReceiver x = false ∧ isBuiltin x = false) ∨ GivenIn body x := by
  constructor
  · intro h
    rw [mem_accessedVariables_iff] at h
    obtain ⟨i, hi, hdefinition, hreads | hgives⟩ := h
    · cases hreads with
      | inl hreads => exact .inl ⟨⟨i, hi, hdefinition, hreads.1⟩, hreads.2⟩
      -- the qualified name of an attribute is never mistaken for a plain one
      | inr hattribute => exact absurd (Item.dot_mem_of_usesAttribute hattribute) hx
    · exact .inr ⟨i, hi, hgives⟩
  · intro h
    cases h with
    | inl h =>
      obtain ⟨hused, hreceiver, hbuiltin⟩ := h
      exact mem_accessedVariables_of_usedIn s name params body decorators hused hreceiver hbuiltin
    | inr h =>
      obtain ⟨i, hi, hgives⟩ := h
      rw [mem_accessedVariables_iff]
      exact ⟨i, hi, Item.isDefinition_of_gives hgives, .inr hgives⟩

/-! ## Parameters -/

/-- **Every parameter that the body uses counts**, the receiver in front apart, unless its name belongs to
    the language or to a receiver. No other parameter counts, unless a handler or a case gives its name
    again. -/
theorem parameter_accessed_iff :
    ∀ x ∈ (methodOutline s name params body decorators).parameters,
      (UsedIn body x → isReceiver x = false → isBuiltin x = false →
        x ∈ (methodOutline s name params body decorators).accessedVariables) ∧
      ('.' ∉ x.toList →
        (x ∈ (methodOutline s name params body decorators).accessedVariables ↔
          (UsedIn body x ∧ isReceiver x = false ∧ isBuiltin x = false) ∨ GivenIn body x)) := by
  intro x _
  constructor
  · exact mem_accessedVariables_of_usedIn s name params body decorators
  · exact mem_accessedVariables_iff_usedIn s name params body decorators

end

/-- The parameters `self, first, /, *rest, key, **options`. -/
def mixedParameters : Parameters :=
  .mk [.mk "self" none, .mk "first" none] [] (some (.mk "rest" none)) [.mk "key" none] [none]
    (some (.mk "options" none)) []

/-- A function inside that uses one of them, and a statement that uses another. -/
def handedOn : List Stmt :=
  [.function ⟨2, 4, 3⟩ false "inner" .empty
    [.simple ⟨3, 8, 3⟩ (.giveBack (some (.name ⟨3, 15, 3⟩ "first")))] [] none,
   .simple ⟨4, 4, 4⟩ (.giveBack (some (.name ⟨4, 11, 4⟩ "options")))]

theorem parameter_accessed_handedOn :
    (∀ x ∈ ["first", "options"],
      x ∈ (methodOutline default "f" mixedParameters handedOn []).parameters ∧
        x ∈ (methodOutline default "f" mixedParameters handedOn []).accessedVariables) ∧
      "key" ∉ (methodOutline default "f" mixedParameters handedOn []).accessedVariables := by
  have hfirst : UsedIn handedOn "first" :=
    ⟨_, mem_itemsOf_of_mem_inside (mem_itemsOf_of_mem (.head _)) (.head _), rfl,
      Item.uses_of_mem_header (.head _)⟩
  have hoptions : UsedIn handedOn "options" :=
    ⟨_, mem_itemsOf_of_mem (.tail _ (.head _)), rfl, Item.uses_of_mem_header (.head _)⟩
  have hkey : ¬UsedIn handedOn "key" := by
    simp [UsedIn, handedOn, itemsOf, plainItems, Item.all_eq, Item.inside, Item.isDefinition, Item.Uses,
      Item.header, Simple.nodes, Simple.expressions, Node.exprs, Node.levels_eq_levels,
      Nesting.levels_cons, Node.nesting, Node.children, Node.ofExpr]
  have hgiven : ¬GivenIn handedOn "key" := by
    simp [GivenIn, handedOn, itemsOf, plainItems, Item.all_eq, Item.inside, Item.Gives]
  have hcounts := parameter_accessed_iff default "f" mixedParameters handedOn []
  have hparameters : (methodOutline default "f" mixedParameters handedOn []).parameters =
      ["first", "key", "rest", "options"] := rfl
  rw [hparameters] at hcounts ⊢
  refine ⟨?_, ?_⟩
  · simp only [List.forall_mem_cons]
    exact ⟨⟨by decide, (hcounts "first" (by decide)).1 hfirst rfl (by decide)⟩,
      ⟨by decide, (hcounts "options" (by decide)).1 hoptions rfl (by decide)⟩, by simp⟩
  · rw [(hcounts "key" (by decide)).2 (by decide)]
    simp [hkey, hgiven]

/-- A method with one parameter after its receiver. -/
def receiving (x : String) : Parameters := .mk [] [.mk "self" none, .mk x none] none [] [] none []

/-- A body that gives a name back. -/
def givingBack (x : String) : List Stmt := [.simple ⟨2, 4, 2⟩ (.giveBack (some (.name ⟨2, 11, 2⟩ x)))]

/-- A class whose base is the parameter. -/
def derived : List Stmt :=
  [.classDef ⟨2, 4, 3⟩ "Inner" [.name ⟨2, 16, 2⟩ "base"] [] [.simple ⟨3, 8, 3⟩ .pass] []]

/-- **Not every used parameter counts**: one with a name of the language does not, nor does a later one
    with the name of a receiver, nor one that only the header of a class uses. -/
theorem parameters_overlooked :
    (¬∀ (s : Span) (name : String) (params : Parameters) (body : List Stmt) (decorators : List Expr),
        ∀ x ∈ (methodOutline s name params body decorators).parameters,
          UsedIn body x → isReceiver x = false →
            x ∈ (methodOutline s name params body decorators).accessedVariables) ∧
      (¬∀ (s : Span) (name : String) (params : Parameters) (body : List Stmt) (decorators : List Expr),
        ∀ x ∈ (methodOutline s name params body decorators).parameters,
          UsedIn body x → isBuiltin x = false →
            x ∈ (methodOutline s name params body decorators).accessedVariables) ∧
      ¬∀ (s : Span) (name : String) (params : Parameters) (body : List Stmt) (decorators : List Expr),
        ∀ x ∈ (methodOutline s name params body decorators).parameters,
          UsedByClass body x → isReceiver x = false → isBuiltin x = false →
            x ∈ (methodOutline s name params body decorators).accessedVariables := by
  have hgiven : ∀ x, ¬GivenIn (givingBack x) x := by
    intro x h
    simp [GivenIn, givingBack, itemsOf, plainItems, Item.all_eq, Item.inside, Item.Gives] at h
  have hused : ∀ x, UsedIn (givingBack x) x := fun x =>
    ⟨_, mem_itemsOf_of_mem (.head _), rfl, Item.uses_of_mem_header (.head _)⟩
  refine ⟨?_, ?_, ?_⟩
  · intro hall
    have hmem := hall default "f" (receiving "id") (givingBack "id") [] "id" (.head _) (hused _) rfl
    have hbuiltin : isBuiltin "id" = true := by decide
    rw [mem_accessedVariables_iff_usedIn _ _ _ _ _ (by decide)] at hmem
    simp [hbuiltin, hgiven] at hmem
  · intro hall
    have hmem := hall default "f" (receiving "cls") (givingBack "cls") [] "cls" (.head _) (hused _)
      (by decide)
    have hreceiver : isReceiver "cls" = true := rfl
    rw [mem_accessedVariables_iff_usedIn _ _ _ _ _ (by decide)] at hmem
    simp [hreceiver, hgiven] at hmem
  · intro hall
    have hclass : UsedByClass derived "base" :=
      ⟨_, _, _, _, _, _, _, mem_itemsOf_of_mem (.head _), Item.uses_of_mem_header (.head _)⟩
    have hmem := hall default "f" (receiving "base") derived [] "base" (.head _) hclass rfl (by decide)
    rw [mem_accessedVariables_iff_usedIn _ _ _ _ _ (by decide)] at hmem
    simp [UsedIn, GivenIn, derived, itemsOf, plainItems, Item.all_eq, Item.inside, Item.isDefinition,
      Item.Gives] at hmem

end Python

end HistoryMetrics
