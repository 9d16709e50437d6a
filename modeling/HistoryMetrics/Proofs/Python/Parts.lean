import HistoryMetrics.Proofs.Metric.Reference
import HistoryMetrics.Proofs.Python.Variables

/-! # Statements as a whole

    A statement can be looked at as a whole: everything that stands in it, level by level, with no regard
    to what the measures make of it. The variables found that way are compared with those of a skeleton,
    which are collected piece by piece: from each header, from each handler, from each case and from each
    statement without a body. The pieces are a partition: no variable is lost, and none counts twice.

    - `Part`, `Part.inside`: what stands directly inside a statement, a handler, a case or a resource
    - `Part.nesting`: how parts stand inside each other
    - `Part.namesWithin`, `wholeVariables`: the variables of parts, and of a statement as a whole
    - `names_all_perm`: the items inside an item one by one, and the item as a whole
    - `names_walk_wholeVariables`: the variables of a skeleton are those of the statements as a whole
-/

namespace HistoryMetrics

open Python

namespace Python

/-- **A part of a source text**: a statement, or what may stand directly inside one. -/
inductive Part where
  | stmt (s : Stmt)
  | handler (h : Handler)
  | case (c : MatchCase)
  | resource (w : WithItem)
  | node (n : Node)

namespace Part

/-! ## The tree of parts -/

/-- Nodes as parts. -/
def nodes (ns : List Node) : List Part := ns.map .node

/-- Statements as parts. -/
def stmts (ss : List Stmt) : List Part := ss.map .stmt

/-- **The parts directly inside a part**, in the order in which the grammar declares them. -/
def inside : Part → List Part
  | .stmt (.simple _ content) => nodes content.nodes
  | .stmt (.ifElse _ test body orElse) => .node (.expr test) :: (stmts body ++ stmts orElse)
  | .stmt (.forEach _ _ target source body orElse) =>
    .node (.expr target) :: .node (.expr source) :: (stmts body ++ stmts orElse)
  | .stmt (.whileLoop _ test body orElse) => .node (.expr test) :: (stmts body ++ stmts orElse)
  | .stmt (.withBlock _ _ items body) => items.map .resource ++ stmts body
  | .stmt (.tryBlock _ _ body handlers orElse final) =>
    stmts body ++ handlers.map .handler ++ stmts orElse ++ stmts final
  | .stmt (.switch _ subject cases) => .node (.expr subject) :: cases.map .case
  | .stmt (.function _ _ _ params body decorators returns) =>
    .node (.parameters params) :: (stmts body ++ nodes (Node.exprs decorators) ++
      nodes (Node.optional returns))
  | .stmt (.classDef _ _ bases keywords body decorators) =>
    nodes (Node.exprs bases) ++ nodes (keywords.map .keyword) ++ stmts body ++
      nodes (Node.exprs decorators)
  | .handler (.mk _ type _ body) => nodes (Node.optional type) ++ stmts body
  | .case (.mk pattern guard body) =>
    .node (.pattern pattern) :: (nodes (Node.optional guard) ++ stmts body)
  | .resource w => nodes w.nodes
  | .node n => nodes n.children

/-- The variables that a part names itself: what its node names, or the name of a handler. -/
def named : Part → List String
  | .node n => Python.named n
  | .handler (.mk _ _ name _) => name.toList
  | .stmt _ => []
  | .case _ => []
  | .resource _ => []

/-- The size of what a part holds. -/
noncomputable def weight : Part → Nat
  | .stmt s => sizeOf s
  | .handler h => sizeOf h
  | .case c => sizeOf c
  | .resource w => sizeOf w
  | .node n => n.weight

/-! ## Weights -/

-- Sums start at the zero of the core library, whatever other zeros are in scope.
attribute [local instance (high)] Zero.ofOfNat0

/-- The weight of some parts together. -/
noncomputable def total (ps : List Part) : Nat := (ps.map weight).sum

@[simp] theorem total_nil : total [] = 0 := rfl

@[simp] theorem total_cons (p : Part) (ps : List Part) : total (p :: ps) = p.weight + total ps := by
  simp [total]

@[simp] theorem total_append (ps qs : List Part) : total (ps ++ qs) = total ps + total qs := by
  simp [total]

@[simp] theorem total_nodes (ns : List Node) : total (nodes ns) = Node.total ns := by
  rw [total, nodes, List.map_map]
  rfl

/-- Things wrapped as parts of the same size weigh less than their list. -/
theorem total_map_lt {α : Type} [SizeOf α] (f : α → Part) (h : ∀ a, (f a).weight = sizeOf a)
    (as : List α) : total (as.map f) < sizeOf as := by
  induction as with
  | nil => simp
  | cons a as ih => simp [h]; omega

theorem total_stmts_lt (ss : List Stmt) : total (stmts ss) < sizeOf ss :=
  total_map_lt .stmt (fun _ => rfl) ss

/-- The nodes of a statement without a body weigh less than it. -/
theorem total_simple_lt (content : Simple) : Node.total content.nodes < sizeOf content := by
  have hlist (es : List Expr) : Node.total (es.map .expr) < sizeOf es := Node.total_exprs_lt es
  have hoptional (e : Option Expr) : Node.total (e.toList.map .expr) < sizeOf e :=
    Node.total_optional_lt e
  cases content <;>
    simp only [Simple.nodes, Simple.expressions, Node.exprs, List.map_append, List.map_cons,
      List.map_nil, Node.total_append, Node.total_cons, Node.total_nil, Node.weight] <;>
    simp only [Simple.expr.sizeOf_spec, Simple.assign.sizeOf_spec, Simple.augmented.sizeOf_spec,
      Simple.annotated.sizeOf_spec, Simple.giveBack.sizeOf_spec, Simple.delete.sizeOf_spec,
      Simple.raise.sizeOf_spec, Simple.assert.sizeOf_spec, Simple.importNames.sizeOf_spec,
      Simple.importFrom.sizeOf_spec, Simple.scope.sizeOf_spec, Simple.pass.sizeOf_spec,
      Simple.leave.sizeOf_spec, Simple.next.sizeOf_spec]
  case assign targets value => have h := hlist targets; omega
  case annotated target annotation value => have h := hoptional value; omega
  case giveBack value => have h := hoptional value; omega
  case delete targets => have h := hlist targets; omega
  case raise exception cause =>
    have h := hoptional exception
    have h' := hoptional cause
    omega
  case assert test message => have h := hoptional message; omega
  all_goals omega

/-- **The parts inside a part weigh less than it.** -/
theorem total_inside_lt (p : Part) : total p.inside < p.weight := by
  match p with
  | .stmt (.simple _ content) =>
    have h := total_simple_lt content
    simp only [inside, total_nodes, weight, Stmt.simple.sizeOf_spec]
    omega
  | .stmt (.ifElse _ test body orElse) =>
    have hbody := total_stmts_lt body
    have helse := total_stmts_lt orElse
    simp only [inside, total_cons, total_append, weight, Node.weight, Stmt.ifElse.sizeOf_spec]
    omega
  | .stmt (.forEach _ _ target source body orElse) =>
    have hbody := total_stmts_lt body
    have helse := total_stmts_lt orElse
    simp only [inside, total_cons, total_append, weight, Node.weight, Stmt.forEach.sizeOf_spec]
    omega
  | .stmt (.whileLoop _ test body orElse) =>
    have hbody := total_stmts_lt body
    have helse := total_stmts_lt orElse
    simp only [inside, total_cons, total_append, weight, Node.weight, Stmt.whileLoop.sizeOf_spec]
    omega
  | .stmt (.withBlock _ _ items body) =>
    have hitems := total_map_lt .resource (fun _ => rfl) items
    have hbody := total_stmts_lt body
    simp only [inside, total_append, weight, Stmt.withBlock.sizeOf_spec]
    omega
  | .stmt (.tryBlock _ _ body handlers orElse final) =>
    have hbody := total_stmts_lt body
    have hhandlers := total_map_lt .handler (fun _ => rfl) handlers
    have helse := total_stmts_lt orElse
    have hfinal := total_stmts_lt final
    simp only [inside, total_append, weight, Stmt.tryBlock.sizeOf_spec]
    omega
  | .stmt (.switch _ subject cases) =>
    have hcases := total_map_lt .case (fun _ => rfl) cases
    simp only [inside, total_cons, weight, Node.weight, Stmt.switch.sizeOf_spec]
    omega
  | .stmt (.function _ _ _ params body decorators returns) =>
    have hbody := total_stmts_lt body
    have hdecorators := Node.total_exprs_lt decorators
    have hreturns := Node.total_optional_lt returns
    simp only [inside, total_cons, total_append, total_nodes, weight, Node.weight,
      Stmt.function.sizeOf_spec]
    omega
  | .stmt (.classDef _ _ bases keywords body decorators) =>
    have hbases := Node.total_exprs_lt bases
    have hkeywords := Node.total_map_lt Node.keyword (fun _ => rfl) keywords
    have hbody := total_stmts_lt body
    have hdecorators := Node.total_exprs_lt decorators
    simp only [inside, total_append, total_nodes, weight, Stmt.classDef.sizeOf_spec]
    omega
  | .handler (.mk _ type _ body) =>
    have htype := Node.total_optional_lt type
    have hbody := total_stmts_lt body
    simp only [inside, total_append, total_nodes, weight, Handler.mk.sizeOf_spec]
    omega
  | .case (.mk pattern guard body) =>
    have hguard := Node.total_optional_lt guard
    have hbody := total_stmts_lt body
    simp only [inside, total_cons, total_append, total_nodes, weight, Node.weight,
      MatchCase.mk.sizeOf_spec]
    omega
  | .resource (.mk context target) =>
    have htarget := Node.total_optional_lt target
    simp only [inside, WithItem.nodes, total_nodes, Node.total_cons, weight, Node.weight,
      WithItem.mk.sizeOf_spec]
    omega
  | .node n =>
    have hchildren := Node.total_children_lt n
    simp only [inside, total_nodes, weight]
    omega

theorem weight_le_total {p : Part} {ps : List Part} (h : p ∈ ps) : p.weight ≤ total ps := by
  induction ps with
  | nil => cases h
  | cons q ps ih =>
    rw [total_cons]
    cases h with
    | head => omega
    | tail _ h =>
      have := ih h
      omega

/-- How parts stand inside each other. -/
def nesting : Nesting Part where
  inside := inside
  exists_weight := ⟨weight, fun p _ h => Nat.lt_of_le_of_lt (weight_le_total h) (total_inside_lt p)⟩

/-! ## Variables -/

/-- The variables of parts as a whole, level by level. -/
def namesWithin (ps : List Part) : List String := nesting.gathered named ps

theorem namesWithin_append_perm (ps qs : List Part) :
    (namesWithin (ps ++ qs)).Perm (namesWithin ps ++ namesWithin qs) :=
  nesting.gathered_append_perm ps qs

theorem namesWithin_singleton (p : Part) : namesWithin [p] = p.named ++ namesWithin p.inside :=
  nesting.gathered_singleton p

theorem namesWithin_perm_flatMap (ps : List Part) :
    (namesWithin ps).Perm (ps.flatMap fun p => namesWithin [p]) :=
  nesting.gathered_perm_flatMap ps

/-- The variables of nodes do not depend on whether they are looked at as parts. -/
theorem namesWithin_nodes (ns : List Node) : namesWithin (nodes ns) = namedVariables ns := by
  have hlevels : nesting.levels (nodes ns) = (Node.nesting.levels ns).map .node :=
    Node.nesting.levels_map Part.node (fun _ => rfl) ns
  rw [namesWithin, Nesting.gathered, hlevels, List.flatMap_map, namedVariables, Node.levels_eq_levels]
  rfl

/-- The variables of resources are those of their nodes. -/
theorem namesWithin_resources_perm (items : List WithItem) :
    (namesWithin (items.map .resource)).Perm (namedVariables (items.flatMap WithItem.nodes)) := by
  rw [← namesWithin_nodes]
  induction items with
  | nil => exact List.Perm.refl _
  | cons w items ih =>
    have hhead : namesWithin [.resource w] = namesWithin (nodes w.nodes) := namesWithin_singleton _
    have hnodes : nodes ((w :: items).flatMap WithItem.nodes) =
        nodes w.nodes ++ nodes (items.flatMap WithItem.nodes) := by
      rw [nodes, List.flatMap_cons, List.map_append]
      rfl
    rw [hnodes]
    refine (namesWithin_append_perm [.resource w] _).trans ?_
    rw [hhead]
    exact (ih.append_left _).trans (namesWithin_append_perm _ _).symm

end Part

/-! ## Items -/

/-- An item as a part. -/
def Item.part : Item → Part
  | .stmt _ s => .stmt s
  | .handler h => .handler h
  | .case c => .case c

theorem map_part_plainItems (ss : List Stmt) : (plainItems ss).map Item.part = Part.stmts ss := by
  rw [plainItems, List.map_map]
  rfl

theorem map_part_elseItems (column : Nat) (ss : List Stmt) :
    (elseItems column ss).map Item.part = Part.stmts ss := by
  rw [elseItems, List.map_map]
  rfl

/-- **What stands directly inside an item** that is no definition: what belongs to its header, then the
    items inside. -/
theorem exists_headerParts {i : Item} (h : i.isDefinition = false) :
    ∃ front : List Part, i.part.inside = front ++ i.inside.map Item.part ∧
      (Part.namesWithin front).Perm (namedVariables i.header) := by
  have hheader : (Part.namesWithin (Part.nodes i.header)).Perm (namedVariables i.header) := by
    rw [Part.namesWithin_nodes]
  match i with
  | .stmt _ (.function ..) | .stmt _ (.classDef ..) => cases h
  | .stmt _ (.withBlock _ _ items body) =>
    -- a resource is a part of its own, which stands between the statement and its nodes
    refine ⟨items.map .resource, ?_, Part.namesWithin_resources_perm items⟩
    simp only [Item.part, Part.inside, Item.inside, map_part_plainItems]
  | .stmt _ (.simple _ content) => exact ⟨_, (List.append_nil _).symm, hheader⟩
  | .stmt _ (.tryBlock ..) | .stmt _ (.switch ..) =>
    refine ⟨_, ?_, hheader⟩
    simp only [Item.part, Part.inside, Item.inside, Item.header, Part.nodes, List.map_append,
      List.map_map, List.map_cons, List.map_nil, List.nil_append, List.cons_append,
      map_part_plainItems]
    rfl
  | .stmt _ (.ifElse ..) | .stmt _ (.forEach ..) | .stmt _ (.whileLoop ..) | .handler (.mk ..)
  | .case (.mk ..) =>
    refine ⟨_, ?_, hheader⟩
    simp only [Item.part, Part.inside, Item.inside, Item.header, Part.nodes, List.map_append,
      List.map_cons, List.map_nil, List.nil_append, List.cons_append, map_part_plainItems,
      map_part_elseItems]

theorem named_part (i : Item) : i.part.named = i.handlerName := by
  match i with
  | .stmt _ _ | .handler (.mk ..) | .case _ => rfl

/-- **The items inside an item one by one** bring the variables of the item as a whole along. -/
theorem names_all_perm (i : Item) (h : ∀ j ∈ i.all, j.isDefinition = false) :
    (i.all.flatMap Item.names).Perm (Part.namesWithin [i.part]) := by
  induction i using Item.inductionOn with
  | step i ih =>
    rw [Item.all_eq] at h ⊢
    have hi := h i List.mem_cons_self
    have hinside : ((i.inside.flatMap Item.all).flatMap Item.names).Perm
        (Part.namesWithin (i.inside.map Item.part)) := by
      refine List.Perm.trans ?_ (Part.namesWithin_perm_flatMap _).symm
      rw [List.flatMap_assoc, List.flatMap_map]
      refine List.Perm.flatMap_left _ ?_
      intro j hj
      apply ih j hj
      intro k hk
      exact h k (List.mem_cons_of_mem i (List.mem_flatMap.2 ⟨j, hj, hk⟩))
    -- the parts of the header and the items inside are all that stands directly inside the item
    obtain ⟨front, hparts, hfront⟩ := exists_headerParts hi
    rw [List.flatMap_cons, Part.namesWithin_singleton, hparts, named_part]
    have hnames : i.names.Perm (i.handlerName ++ Part.namesWithin front) :=
      ((Item.names_perm hi).trans List.perm_append_comm).trans (hfront.symm.append_left _)
    refine (hnames.append hinside).trans ?_
    rw [List.append_assoc]
    exact (Part.namesWithin_append_perm _ _).symm.append_left _

/-! ## Bodies -/

/-- **The variables of a statement as a whole**, whatever stands in it. -/
def wholeVariables (s : Stmt) : List String := Part.namesWithin [.stmt s]

/-- **Nothing is lost between the pieces of a statement, and nothing counts twice**: in a body without
    definitions, the variables met in a walk over the skeleton are those of the statements as a whole,
    as often as they stand there. So a method accesses as many variables as its statements name. -/
theorem names_walk_wholeVariables (s : Span) (name : String) (params : Parameters) (body : List Stmt)
    (decorators : List Expr) (h : ∀ i ∈ itemsOf body, i.isDefinition = false) :
    ((Statement.walkAll (bodySkeleton body)).flatMap Statement.names).Perm
        (body.flatMap wholeVariables) ∧
      (methodOutline s name params body decorators).accessedVariables.length =
        (body.flatMap wholeVariables).toFinset.card := by
  have hperm : ((Statement.walkAll (bodySkeleton body)).flatMap Statement.names).Perm
      (body.flatMap wholeVariables) := by
    rw [names_walkAll_bodySkeleton, itemsOf, plainItems, List.flatMap_map, List.flatMap_assoc]
    refine List.Perm.flatMap_left _ ?_
    intro t ht
    apply names_all_perm (.stmt false t)
    intro i hi
    apply h
    rw [itemsOf, plainItems, List.flatMap_map]
    exact List.mem_flatMap.2 ⟨t, ht, hi⟩
  refine ⟨hperm, ?_⟩
  rw [Method.length_accessedVariables, Method.distinctVariables, ← Method.statements_eq,
    ← List.toFinset_eq_of_perm _ _ hperm]
  rfl

/-- A resource, a pattern with a guard, a handler that names what it catches, and a call. -/
def guardedCase : List Stmt :=
  [.withBlock ⟨1, 0, 6⟩ false
    [⟨.attribute ⟨1, 5, 1⟩ (.name ⟨1, 5, 1⟩ "self") "pool", some (.name ⟨1, 18, 1⟩ "conn")⟩]
    [.switch ⟨2, 4, 6⟩ (.name ⟨2, 10, 2⟩ "conn")
      [.mk (.sequence ⟨3, 13, 3⟩ [.capture ⟨3, 14, 3⟩ none (some "first"),
          .star ⟨3, 21, 3⟩ (some "others")])
        (some (.name ⟨3, 34, 3⟩ "limit"))
        [.tryBlock ⟨4, 12, 6⟩ false
          [.simple ⟨4, 17, 4⟩ (.assign [.name ⟨4, 17, 4⟩ "total"]
            (.call ⟨4, 25, 4⟩ (.name ⟨4, 25, 4⟩ "scan") [.name ⟨4, 30, 4⟩ "first"] []))]
          [.mk ⟨5, 12, 6⟩ (some (.name ⟨5, 19, 5⟩ "KeyError")) (some "missing")
            [.simple ⟨6, 16, 6⟩ (.raise (some (.name ⟨6, 22, 6⟩ "missing")) none)]] [] []]]]]

theorem names_walk_guardedCase :
    (∀ i ∈ itemsOf guardedCase, i.isDefinition = false) ∧
      ((Statement.walkAll (bodySkeleton guardedCase)).flatMap Statement.names).Perm
        ["self.pool", "conn", "conn", "limit", "first", "others", "missing", "total", "first",
          "missing"] ∧
      (methodOutline default "f" .empty guardedCase []).accessedVariables.length = 7 := by
  have hitems : ∀ i ∈ itemsOf guardedCase, i.isDefinition = false := by
    simp [itemsOf, guardedCase, plainItems, Item.all_eq, Item.inside, Item.isDefinition]
  have hbuiltin : ["conn", "limit", "KeyError", "missing", "total", "scan", "first"].map isBuiltin =
      [false, false, true, false, false, false, false] := by
    decide
  have hwhole : guardedCase.flatMap wholeVariables =
      ["self.pool", "conn", "conn", "limit", "first", "others", "missing", "total", "first",
        "missing"] := by
    simp only [List.map_cons, List.map_nil, List.cons.injEq] at hbuiltin
    simp [guardedCase, wholeVariables, Part.namesWithin, Nesting.gathered, Nesting.levels_cons,
      Part.nesting, Part.inside, Part.nodes, Part.stmts, Part.named, Simple.nodes, Simple.expressions,
      WithItem.nodes, Node.exprs, Node.optional, Node.children, Node.ofExpr, Node.ofPattern, named,
      isReceiver, hbuiltin]
  have hnames := names_walk_wholeVariables default "f" .empty guardedCase [] hitems
  rw [hwhole] at hnames
  exact ⟨hitems, hnames.1, hnames.2⟩

end Python

end HistoryMetrics
