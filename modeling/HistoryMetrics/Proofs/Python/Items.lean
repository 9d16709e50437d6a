import HistoryMetrics.Python.Skeleton

/-! # The items of a body

    Statements, exception handlers and the cases of a `match` are the items of a body. They form a
    tree, and its order is that of the source: an item stands before those inside it, and those stand
    in the order of the parts of the construct.

    - `Item.inside`: the items directly inside an item; the body of a class is left out
    - `Item.header`: the nodes directly inside an item
    - `Item.all`, `itemsOf`: all items in order
    - `Item.inductionOn`: what holds of an item whenever it holds of the items inside holds of all
-/

namespace HistoryMetrics.Python

/-- **An item of a body.** A statement may be the `elif` of the statement around it. -/
inductive Item where
  | stmt (isElif : Bool) (s : Stmt)
  | handler (h : Handler)
  | case (c : MatchCase)

/-- Is this an `if` that starts at the given column? -/
def Stmt.isIfAt (column : Nat) : Stmt → Bool
  | .ifElse s _ _ _ => s.column == column
  | _ => false

/-- Statements as items, none of them an `elif`. -/
def plainItems (ss : List Stmt) : List Item := ss.map (.stmt false)

/-- The items of the `else` part of an `if` at the given column. An `if` at the same column is an
    `elif` if it is the only statement there. -/
def elseItems (column : Nat) (ss : List Stmt) : List Item :=
  ss.map fun s => .stmt (ss.length == 1 && s.isIfAt column) s

namespace Item

/-! ## The tree of items -/

/-- **The items directly inside an item.** -/
def inside : Item → List Item
  | .stmt _ (.simple ..) => []
  | .stmt _ (.ifElse s _ body orElse) => plainItems body ++ elseItems s.column orElse
  | .stmt _ (.forEach _ _ _ _ body orElse) => plainItems body ++ plainItems orElse
  | .stmt _ (.whileLoop _ _ body orElse) => plainItems body ++ plainItems orElse
  | .stmt _ (.withBlock _ _ _ body) => plainItems body
  | .stmt _ (.tryBlock _ _ body handlers orElse final) =>
    plainItems body ++ handlers.map .handler ++ plainItems orElse ++ plainItems final
  | .stmt _ (.switch _ _ cases) => cases.map .case
  | .stmt _ (.function _ _ _ _ body _ _) => plainItems body
  | .stmt _ (.classDef ..) => []
  | .handler (.mk _ _ _ body) => plainItems body
  | .case (.mk _ _ body) => plainItems body

/-- **The nodes directly inside an item.** -/
def header : Item → List Node
  | .stmt _ (.simple _ content) => content.nodes
  | .stmt _ (.ifElse _ test _ _) => [.expr test]
  | .stmt _ (.forEach _ _ target source _ _) => [.expr target, .expr source]
  | .stmt _ (.whileLoop _ test _ _) => [.expr test]
  | .stmt _ (.withBlock _ _ items _) => items.flatMap WithItem.nodes
  | .stmt _ (.tryBlock ..) => []
  | .stmt _ (.switch _ subject _) => [.expr subject]
  | .stmt _ (.function _ _ _ params _ decorators returns) =>
    .parameters params :: (Node.exprs decorators ++ Node.optional returns)
  | .stmt _ (.classDef _ _ bases keywords _ decorators) =>
    Node.exprs bases ++ keywords.map .keyword ++ Node.exprs decorators
  | .handler (.mk _ type _ _) => Node.optional type
  | .case (.mk pattern guard _) => .pattern pattern :: Node.optional guard

/-- The size of what an item holds. -/
noncomputable def weight : Item → Nat
  | .stmt _ s => sizeOf s
  | .handler h => sizeOf h
  | .case c => sizeOf c

@[simp] theorem weight_stmt (isElif : Bool) (s : Stmt) : (stmt isElif s).weight = sizeOf s := rfl

@[simp] theorem weight_handler (h : Handler) : (handler h).weight = sizeOf h := rfl

@[simp] theorem weight_case (c : MatchCase) : (case c).weight = sizeOf c := rfl

theorem weight_lt_of_mem_plain {j : Item} {ss : List Stmt} (h : j ∈ plainItems ss) :
    j.weight < sizeOf ss := by
  obtain ⟨s, hs, rfl⟩ := List.mem_map.1 h
  exact List.sizeOf_lt_of_mem hs

theorem weight_lt_of_mem_else {j : Item} {column : Nat} {ss : List Stmt}
    (h : j ∈ elseItems column ss) : j.weight < sizeOf ss := by
  obtain ⟨s, hs, rfl⟩ := List.mem_map.1 h
  exact List.sizeOf_lt_of_mem hs

/-- **An item inside another one weighs less.** -/
theorem weight_lt_of_mem {i j : Item} (h : j ∈ i.inside) : j.weight < i.weight := by
  match i with
  | .stmt _ (.simple ..) => cases h
  | .stmt _ (.classDef ..) => cases h
  | .stmt _ (.ifElse s test body orElse) =>
    simp only [weight_stmt, Stmt.ifElse.sizeOf_spec]
    rcases List.mem_append.1 h with h | h
    · have := weight_lt_of_mem_plain h
      omega
    · have := weight_lt_of_mem_else h
      omega
  | .stmt _ (.forEach _ _ target source body orElse) =>
    simp only [weight_stmt, Stmt.forEach.sizeOf_spec]
    rcases List.mem_append.1 h with h | h
    all_goals
      have := weight_lt_of_mem_plain h
      omega
  | .stmt _ (.whileLoop _ test body orElse) =>
    simp only [weight_stmt, Stmt.whileLoop.sizeOf_spec]
    rcases List.mem_append.1 h with h | h
    all_goals
      have := weight_lt_of_mem_plain h
      omega
  | .stmt _ (.withBlock _ _ items body) =>
    simp only [weight_stmt, Stmt.withBlock.sizeOf_spec]
    have := weight_lt_of_mem_plain h
    omega
  | .stmt _ (.tryBlock _ _ body handlers orElse final) =>
    simp only [weight_stmt, Stmt.tryBlock.sizeOf_spec]
    simp only [inside, List.mem_append] at h
    rcases h with ((h | h) | h) | h
    case inl.inl.inr =>
      obtain ⟨handler, hhandler, rfl⟩ := List.mem_map.1 h
      have := List.sizeOf_lt_of_mem hhandler
      simp only [weight_handler]
      omega
    all_goals
      have := weight_lt_of_mem_plain h
      omega
  | .stmt _ (.switch _ subject cases) =>
    obtain ⟨c, hc, rfl⟩ := List.mem_map.1 h
    have := List.sizeOf_lt_of_mem hc
    simp only [weight_stmt, weight_case, Stmt.switch.sizeOf_spec]
    omega
  | .stmt _ (.function _ _ _ params body decorators returns) =>
    simp only [weight_stmt, Stmt.function.sizeOf_spec]
    have := weight_lt_of_mem_plain h
    omega
  | .handler (.mk _ type _ body) =>
    simp only [weight_handler, Handler.mk.sizeOf_spec]
    have := weight_lt_of_mem_plain h
    omega
  | .case (.mk pattern guard body) =>
    simp only [weight_case, MatchCase.mk.sizeOf_spec]
    have := weight_lt_of_mem_plain h
    omega

/-- What holds of an item whenever it holds of the items inside holds of every item. -/
@[elab_as_elim]
theorem inductionOn {motive : Item → Prop} (i : Item)
    (step : ∀ i : Item, (∀ j ∈ i.inside, motive j) → motive i) : motive i :=
  step i fun j _ => inductionOn j step
termination_by i.weight
decreasing_by exact weight_lt_of_mem ‹_›

/-- **An item and all items inside it**, each before those inside it. -/
def all (i : Item) : List Item := i :: i.inside.attach.flatMap fun j => all j.1
termination_by i.weight
decreasing_by exact weight_lt_of_mem j.2

/-- The items of an item, without the bookkeeping of the recursion. -/
theorem all_eq (i : Item) : i.all = i :: i.inside.flatMap all := by
  rw [all, List.flatMap_def, List.flatMap_def, List.map_attach_eq_pmap, List.pmap_eq_map]

/-- With an item, what is inside it stands inside the same items. -/
theorem mem_all_of_mem_inside {i j k : Item} (h : i ∈ k.all) (hj : j ∈ i.inside) : j ∈ k.all := by
  induction k using inductionOn with
  | step k ih =>
    rw [all_eq] at h ⊢
    rw [List.mem_cons, List.mem_flatMap]
    right
    rcases List.mem_cons.1 h with rfl | h
    · refine ⟨j, hj, ?_⟩
      rw [all_eq]
      exact List.mem_cons_self
    · obtain ⟨l, hl, hi⟩ := List.mem_flatMap.1 h
      exact ⟨l, hl, ih l hl hi⟩

/-! ## What an item counts as -/

/-- **The kind of an item.** -/
def kind : Item → StatementKind
  | .stmt _ (.simple ..) => .simple
  | .stmt isElif (.ifElse ..) => if isElif then .elseIf else .ifThen
  | .stmt _ (.forEach ..) => .forEach
  | .stmt _ (.whileLoop ..) => .whileLoop
  | .stmt _ (.withBlock ..) => .withBlock
  | .stmt _ (.tryBlock ..) => .tryBlock
  | .stmt _ (.switch ..) => .switch
  | .stmt _ (.function ..) => .block
  | .stmt _ (.classDef ..) => .block
  | .handler _ => .handler
  | .case _ => .case

/-- Is the item a function or a class? -/
def isDefinition : Item → Bool
  | .stmt _ (.function ..) | .stmt _ (.classDef ..) => true
  | _ => false

/-- The lines of an item; those of a case are the lines of its pattern. -/
def extent : Item → Extent
  | .stmt _ s => s.span.extent
  | .handler (.mk s _ _ _) => s.extent
  | .case (.mk pattern _ _) => pattern.span.extent

end Item

/-- **All items of a body**, in the order of the source. -/
def itemsOf (body : List Stmt) : List Item := (plainItems body).flatMap Item.all

theorem mem_itemsOf_of_mem {body : List Stmt} {s : Stmt} (h : s ∈ body) :
    .stmt false s ∈ itemsOf body := by
  refine List.mem_flatMap.2 ⟨.stmt false s, List.mem_map_of_mem h, ?_⟩
  rw [Item.all_eq]
  exact List.mem_cons_self

/-- With an item, a body holds what is inside the item. -/
theorem mem_itemsOf_of_mem_inside {body : List Stmt} {i j : Item} (h : i ∈ itemsOf body)
    (hj : j ∈ i.inside) : j ∈ itemsOf body := by
  obtain ⟨k, hk, hi⟩ := List.mem_flatMap.1 h
  exact List.mem_flatMap.2 ⟨k, hk, Item.mem_all_of_mem_inside hi hj⟩

end HistoryMetrics.Python
