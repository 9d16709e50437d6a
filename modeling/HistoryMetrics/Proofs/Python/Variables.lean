import HistoryMetrics.Metric.Measure
import HistoryMetrics.Proofs.Python.Conversion
import HistoryMetrics.Proofs.Python.Levels
import HistoryMetrics.Python.Outline
import Mathlib.Data.List.Basic

/-! # Variables of a body

    Each item of a body brings the variables of its own header along, and decision points bring none. So
    the variables of a method are those of its items. Whether a name is among them can be told from what
    the header of an item holds: a name that is read, an attribute of the receiver, or a name that the
    item gives to something.

    - `names_walkAll_bodySkeleton`: the variables met in a walk over a skeleton
    - `Pattern.Captures`, `Item.Gives`: the names that an item gives
    - `Item.Uses`, `Item.Reads`: the names that an item reads
    - `Item.mem_names_iff`, `mem_accessedVariables_iff`: the variables of an item, and of a method
-/

namespace HistoryMetrics

open Python

namespace Python

/-! ## Decision points name nothing -/

/-- The names of some statements and of all statements inside them. -/
def namesIn (ss : List Statement) : List String := (Statement.walkAll ss).flatMap Statement.names

@[simp] theorem namesIn_nil : namesIn [] = [] := rfl

@[simp] theorem namesIn_append (ss ts : List Statement) :
    namesIn (ss ++ ts) = namesIn ss ++ namesIn ts := by
  simp [namesIn]

theorem namesIn_cons (s : Statement) (ss : List Statement) :
    namesIn (s :: ss) = s.names ++ namesIn s.children ++ namesIn ss := by
  simp [namesIn, Statement.walk_eq]

theorem namesIn_flatMap {α : Type} (f : α → List Statement) (as : List α) :
    namesIn (as.flatMap f) = as.flatMap fun a => namesIn (f a) := by
  induction as with
  | nil => rfl
  | cons a as ih => rw [List.flatMap_cons, List.flatMap_cons, namesIn_append, ih]

theorem namesIn_point (kind : StatementKind) (s : Span) (inner : List Statement) :
    namesIn [point kind s inner] = namesIn inner := by
  rw [namesIn_cons, namesIn_nil, List.append_nil]
  rfl

theorem namesIn_ownPoints (n : Node) : namesIn (ownPoints n) = [] := by
  have hreplicate : ∀ (k : Nat) (s : Span),
      namesIn (List.replicate k (point .booleanOp s [])) = [] := by
    intro k s
    induction k with
    | zero => rfl
    | succ k ih =>
      rw [List.replicate_succ, ← List.singleton_append, namesIn_append, namesIn_point, ih]
      rfl
  have hfilters : ∀ filters : List Expr,
      namesIn (filters.map fun f => point .ifThen f.span []) = [] := by
    intro filters
    induction filters with
    | nil => rfl
    | cons f filters ih =>
      rw [List.map_cons, ← List.singleton_append, namesIn_append, namesIn_point, ih]
      rfl
  unfold ownPoints
  split
  · exact hreplicate _ _
  · exact hreplicate _ _
  · exact hfilters _
  · rfl

/-- **Decision points name nothing.** -/
theorem namesIn_decisions (n : Node) : namesIn (decisions n) = [] := by
  induction n using Node.inductionOn with
  | step n ih =>
    have hinside : namesIn (decisionsOfAll n.children) = [] := by
      rw [decisionsOfAll, namesIn_flatMap]
      exact List.flatMap_eq_nil_iff.2 ih
    rw [decisions_eq]
    cases conditionalSpan? n with
    | some s =>
      show namesIn [point .conditional s (decisionsOfAll n.children)] = []
      rw [namesIn_point, hinside]
    | none =>
      show namesIn (ownPoints n ++ decisionsOfAll n.children) = []
      rw [namesIn_append, namesIn_ownPoints, hinside]
      rfl

theorem namesIn_decisionsOfAll (ns : List Node) : namesIn (decisionsOfAll ns) = [] := by
  rw [decisionsOfAll, namesIn_flatMap]
  exact List.flatMap_eq_nil_iff.2 fun n _ => namesIn_decisions n

/-! ## A walk over a skeleton -/

/-- What items turn into names what each of them and the items inside it name. -/
theorem namesIn_flatMap_converted {is : List Item}
    (h : ∀ i ∈ is, namesIn i.converted = i.all.flatMap Item.names) :
    namesIn (is.flatMap Item.converted) = (is.flatMap Item.all).flatMap Item.names := by
  rw [namesIn_flatMap, List.flatMap_assoc]
  exact List.flatMap_congr h

theorem namesIn_converted (i : Item) : namesIn i.converted = i.all.flatMap Item.names := by
  induction i using Item.inductionOn with
  | step i ih =>
    obtain ⟨s, -, hnames, hwalk⟩ := walkAll_converted i
    have hpoints : i.points.flatMap Statement.names = [] := namesIn_decisionsOfAll i.scanned
    -- what is left are the names of the item itself and those of the items inside
    rw [namesIn, hwalk, List.flatMap_cons, List.flatMap_append, hnames, hpoints, List.nil_append,
      ← namesIn, namesIn_flatMap_converted ih, Item.all_eq i, List.flatMap_cons]

/-- **The variables met in a walk over the skeleton of a body** are those of its items, in order. -/
theorem names_walkAll_bodySkeleton (body : List Stmt) :
    (Statement.walkAll (bodySkeleton body)).flatMap Statement.names =
      (itemsOf body).flatMap Item.names := by
  rw [bodySkeleton, skeletons_plain, ← namesIn, namesIn_flatMap_converted fun i _ => namesIn_converted i]
  rfl

/-- The variables of a method are those of the items of its body. -/
theorem mem_accessedVariables_iff_names (s : Span) (name : String) (params : Parameters)
    (body : List Stmt) (decorators : List Expr) (x : String) :
    x ∈ (methodOutline s name params body decorators).accessedVariables ↔
      ∃ i ∈ itemsOf body, x ∈ i.names := by
  have hnames := names_walkAll_bodySkeleton body
  rw [Method.accessedVariables, List.mem_eraseDups, ← List.mem_flatMap, ← hnames]
  rfl

/-! ## Names given by patterns -/

namespace Pattern

/-- The patterns directly inside a pattern. -/
def subpatterns : Pattern → List Pattern
  | .sequence _ ps => ps
  | .mapping _ _ ps _ => ps
  | .record _ _ ps _ fs => ps ++ fs
  | .capture _ p _ => p.toList
  | .either _ ps => ps
  | .value .. => []
  | .singleton .. => []
  | .star .. => []

/-- **Is `q` the pattern, or does it stand somewhere inside it?** -/
inductive Contains (q : Pattern) : Pattern → Prop where
  | self : Contains q q
  | inside {p r : Pattern} (hr : r ∈ p.subpatterns) (h : Contains q r) : Contains q p

/-- The name that a pattern gives itself: a capture and a star may give one. -/
def ownCapture : Pattern → Option String
  | .star _ name => name
  | .capture _ _ name => name
  | _ => none

/-- **Does a pattern capture under a name**, at any depth? -/
def Captures (p : Pattern) (x : String) : Prop := ∃ q, Contains q p ∧ q.ownCapture = some x

/-- The patterns inside a pattern are among its nodes. -/
theorem mem_ofPattern_of_mem {p q : Pattern} (h : q ∈ p.subpatterns) :
    .pattern q ∈ Node.ofPattern p := by
  cases p <;> simp only [subpatterns, List.not_mem_nil] at h <;> simp only [Node.ofPattern]
  case mapping => exact List.mem_append_right _ (List.mem_map_of_mem h)
  case record =>
    rw [← List.map_append]
    exact List.mem_cons_of_mem _ (List.mem_map_of_mem h)
  all_goals exact List.mem_map_of_mem h

/-- Patterns stand directly inside patterns only. -/
theorem of_mem_children {n : Node} {q : Pattern} (h : .pattern q ∈ n.children) :
    ∃ p, n = .pattern p ∧ q ∈ p.subpatterns := by
  match n with
  | .pattern p =>
    refine ⟨p, rfl, ?_⟩
    cases p <;> simp_all [Node.children, Node.ofPattern, subpatterns, Node.exprs]
  | .expr e | .callee e =>
    cases e <;> simp [Node.children, Node.ofExpr, Node.exprs, Node.optional] at h
  | .comprehension (.mk ..) | .keyword (.mk ..) | .parameters (.mk ..) | .parameter (.mk ..) =>
    simp [Node.children, Node.exprs, Node.optional] at h

/-- **A pattern somewhere inside a node** stands inside the pattern that the node is. -/
theorem of_within {n : Node} {q : Pattern} (h : Node.nesting.Within (.pattern q) n) :
    ∃ p, n = .pattern p ∧ Contains q p := by
  induction h with
  | self => exact ⟨q, rfl, .self⟩
  | inside hc _ ih =>
    obtain ⟨r, rfl, hr⟩ := ih
    obtain ⟨p, rfl, hp⟩ := of_mem_children hc
    exact ⟨p, rfl, .inside hp hr⟩

theorem within_of_contains {p q : Pattern} (h : Contains q p) :
    Node.nesting.Within (.pattern q) (.pattern p) := by
  induction h with
  | self => exact .self
  | inside hr _ ih => exact .inside (mem_ofPattern_of_mem hr) ih

end Pattern

/-! ## Names in nodes -/

/-- The variables of nodes are what their levels bring along. -/
theorem namedVariables_eq_gathered (ns : List Node) :
    namedVariables ns = Node.nesting.gathered named ns := by
  rw [namedVariables, Node.levels_eq_levels, Nesting.gathered]

/-- Whether nodes are looked at one by one or together makes no difference. -/
theorem variablesOfEach_perm (ns : List Node) : (variablesOfEach ns).Perm (namedVariables ns) := by
  have heach : (fun n => namedVariables [n]) = fun n => Node.nesting.gathered named [n] :=
    funext fun n => namedVariables_eq_gathered [n]
  rw [variablesOfEach, heach, namedVariables_eq_gathered]
  exact (Node.nesting.gathered_perm_flatMap ns).symm

theorem mem_named_name_iff (s : Span) (id x : String) :
    x ∈ named (.expr (.name s id)) ↔ x = id ∧ isReceiver id = false ∧ isBuiltin id = false := by
  cases hreceiver : isReceiver id <;> cases hbuiltin : isBuiltin id <;>
    simp [named, hreceiver, hbuiltin]

theorem mem_named_attribute_iff (s s' : Span) (r attr x : String) :
    x ∈ named (.expr (.attribute s (.name s' r) attr)) ↔
      isReceiver r = true ∧ x = r ++ "." ++ attr := by
  cases hr : isReceiver r <;> simp [named, hr]

theorem mem_named_pattern_iff (p : Pattern) (x : String) :
    x ∈ named (.pattern p) ↔ p.ownCapture = some x := by
  cases p with
  | star _ name | capture _ _ name => simp [named, Pattern.ownCapture]
  | _ => simp [named, Pattern.ownCapture]

/-- What a node names itself: a name that belongs neither to the language nor to a receiver, an attribute
    of a receiver, or what a pattern captures. -/
theorem mem_named_iff (n : Node) (x : String) :
    x ∈ named n ↔
      (∃ s, n = .expr (.name s x) ∧ isReceiver x = false ∧ isBuiltin x = false) ∨
        (∃ s s' r attr, n = .expr (.attribute s (.name s' r) attr) ∧ isReceiver r = true ∧
          x = r ++ "." ++ attr) ∨
        ∃ q, n = .pattern q ∧ q.ownCapture = some x := by
  constructor
  · intro hx
    match n with
    | .expr (.name s id) =>
      obtain ⟨rfl, hreceiver, hbuiltin⟩ := (mem_named_name_iff s id x).1 hx
      exact .inl ⟨s, rfl, hreceiver, hbuiltin⟩
    | .expr (.attribute s (.name s' r) attr) =>
      have hattribute := (mem_named_attribute_iff s s' r attr x).1 hx
      exact .inr (.inl ⟨s, s', r, attr, rfl, hattribute⟩)
    | .pattern q => exact .inr (.inr ⟨q, rfl, (mem_named_pattern_iff q x).1 hx⟩)
  · rintro (⟨s, rfl, hfree⟩ | ⟨s, s', r, attr, rfl, hattribute⟩ | ⟨q, rfl, hown⟩)
    · exact (mem_named_name_iff s x x).2 ⟨rfl, hfree⟩
    · exact (mem_named_attribute_iff s s' r attr x).2 hattribute
    · exact (mem_named_pattern_iff q x).2 hown

namespace Item

/-! ## Names in items -/

/-- **Does an item use a name** in its header, other than to call a function by it? -/
def Uses (i : Item) (x : String) : Prop := ∃ s, .expr (.name s x) ∈ Node.levels i.header

/-- **Does an item use an attribute of a receiver**, under its qualified name? -/
def UsesAttribute (i : Item) (x : String) : Prop :=
  ∃ s s' r attr, .expr (.attribute s (.name s' r) attr) ∈ Node.levels i.header ∧
    isReceiver r = true ∧ x = r ++ "." ++ attr

/-- **The variables that an item reads**: names that belong neither to the language nor to a receiver, and
    attributes of a receiver. -/
def Reads (i : Item) (x : String) : Prop :=
  (i.Uses x ∧ isReceiver x = false ∧ isBuiltin x = false) ∨ i.UsesAttribute x

/-- **The names that an item gives**: a handler to what it catches, a case to what its pattern
    captures. -/
def Gives : Item → String → Prop
  | .handler (.mk _ _ name _), x => name = some x
  | .case (.mk pattern _ _), x => pattern.Captures x
  | _, _ => False

/-- The name of a handler. -/
def handlerName : Item → List String
  | .handler (.mk _ _ name _) => name.toList
  | .stmt .. => []
  | .case _ => []

/-- Definitions bring no variables along. -/
theorem names_of_isDefinition {i : Item} (h : i.isDefinition = true) : i.names = [] := by
  match i with
  | .stmt _ (.function ..) | .stmt _ (.classDef ..) => rfl

/-- **The variables of an item** that is no definition are all that its header names, and the name of a
    handler. -/
theorem names_perm {i : Item} (h : i.isDefinition = false) :
    i.names.Perm (namedVariables i.header ++ i.handlerName) := by
  match i with
  | .stmt _ (.function ..) | .stmt _ (.classDef ..) => cases h
  | .stmt _ (.simple ..) =>
    rw [handlerName, List.append_nil]
    exact List.Perm.refl _
  | .stmt _ (.ifElse ..) | .stmt _ (.forEach ..) | .stmt _ (.whileLoop ..) | .stmt _ (.withBlock ..)
  | .stmt _ (.tryBlock ..) | .stmt _ (.switch ..) | .case _ =>
    rw [handlerName, List.append_nil]
    exact variablesOfEach_perm _
  | .handler (.mk _ type name _) => exact (variablesOfEach_perm _).append_right _

/-- Patterns stand in the header of a case only. -/
theorem of_pattern_mem_header {i : Item} {p : Pattern} (h : .pattern p ∈ i.header) :
    ∃ guard body, i = .case (.mk p guard body) := by
  match i with
  | .case (.mk q guard body) =>
    rcases List.mem_cons.1 h with hq | hguard
    · cases hq
      exact ⟨guard, body, rfl⟩
    · simp [Node.optional, Node.exprs] at hguard
  | .stmt _ (.simple ..) => simp [header, Simple.nodes, Node.exprs] at h
  | .stmt _ (.withBlock ..) => simp [header, WithItem.nodes, Node.optional, Node.exprs] at h
  | .stmt _ (.function ..) | .stmt _ (.classDef ..) | .handler (.mk ..) =>
    simp [header, Node.optional, Node.exprs] at h
  | .stmt _ (.ifElse ..) | .stmt _ (.forEach ..) | .stmt _ (.whileLoop ..) | .stmt _ (.tryBlock ..)
  | .stmt _ (.switch ..) =>
    simp [header] at h

/-- The patterns in the levels of a header are those inside the pattern of a case. -/
theorem exists_pattern_iff (i : Item) (x : String) :
    (∃ q, .pattern q ∈ Node.levels i.header ∧ q.ownCapture = some x) ↔
      ∃ p guard body, i = .case (.mk p guard body) ∧ p.Captures x := by
  constructor
  · rintro ⟨q, hq, hown⟩
    rw [Node.levels_eq_levels, Nesting.mem_levels_iff] at hq
    obtain ⟨n, hn, hwithin⟩ := hq
    obtain ⟨p, rfl, hcontains⟩ := Pattern.of_within hwithin
    obtain ⟨guard, body, rfl⟩ := of_pattern_mem_header hn
    exact ⟨p, guard, body, rfl, q, hcontains, hown⟩
  · rintro ⟨p, guard, body, rfl, q, hcontains, hown⟩
    refine ⟨q, ?_, hown⟩
    rw [Node.levels_eq_levels, Nesting.mem_levels_iff]
    exact ⟨.pattern p, List.mem_cons_self, Pattern.within_of_contains hcontains⟩

/-- What the header of an item names is what the item reads and what the pattern of a case
    captures. -/
theorem mem_namedVariables_header_iff (i : Item) (x : String) :
    x ∈ namedVariables i.header ↔
      i.Reads x ∨ ∃ p guard body, i = .case (.mk p guard body) ∧ p.Captures x := by
  rw [← exists_pattern_iff, namedVariables, List.mem_flatMap]
  simp only [mem_named_iff]
  constructor
  · rintro ⟨n, hn, hnamed⟩
    obtain ⟨s, rfl, hreceiver, hbuiltin⟩ | ⟨s, s', r, attr, rfl, hr, hx⟩ | ⟨q, rfl, hown⟩ := hnamed
    · exact .inl (.inl ⟨⟨s, hn⟩, hreceiver, hbuiltin⟩)
    · exact .inl (.inr ⟨s, s', r, attr, hn, hr, hx⟩)
    · exact .inr ⟨q, hn, hown⟩
  · rintro ((⟨⟨s, hn⟩, hreceiver, hbuiltin⟩ | ⟨s, s', r, attr, hn, hr, hx⟩) | ⟨q, hn, hown⟩)
    · exact ⟨_, hn, .inl ⟨s, rfl, hreceiver, hbuiltin⟩⟩
    · exact ⟨_, hn, .inr (.inl ⟨s, s', r, attr, rfl, hr, hx⟩)⟩
    · exact ⟨_, hn, .inr (.inr ⟨q, rfl, hown⟩)⟩

/-- **The variables of an item** are those that it reads and the names that it gives; definitions bring
    none. -/
theorem mem_names_iff (i : Item) (x : String) :
    x ∈ i.names ↔ i.isDefinition = false ∧ (i.Reads x ∨ i.Gives x) := by
  cases hdefinition : i.isDefinition with
  | true => simp [names_of_isDefinition hdefinition]
  | false =>
    rw [(names_perm hdefinition).mem_iff, List.mem_append, mem_namedVariables_header_iff]
    match i with
    | .handler (.mk s type name body) => simp [Gives, handlerName]
    | .case (.mk pattern guard body) => simp [Gives, handlerName]
    | .stmt _ _ => simp [Gives, handlerName]

end Item

/-- **The variables of a method** are what the items of its body read and the names that they give, as
    far as they are no definitions. -/
theorem mem_accessedVariables_iff (s : Span) (name : String) (params : Parameters) (body : List Stmt)
    (decorators : List Expr) (x : String) :
    x ∈ (methodOutline s name params body decorators).accessedVariables ↔
      ∃ i ∈ itemsOf body, i.isDefinition = false ∧ (i.Reads x ∨ i.Gives x) := by
  simp only [mem_accessedVariables_iff_names, Item.mem_names_iff]

end Python

end HistoryMetrics
