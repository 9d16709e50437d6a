import HistoryMetrics.Metric.Measure
import HistoryMetrics.Proofs.Python.Conversion
import HistoryMetrics.Proofs.Python.Levels
import HistoryMetrics.Python.Outline

/-! # Decisions of a source text and complexity

    The complexity of a method is counted on its skeleton. The decisions of its source are counted
    here on the syntax tree, with no regard to where in a statement an expression stands. The two
    agree but for one position: the type that a handler names is not looked at.

    - `Node.decisionCount`: the decisions of nodes and of all nodes below them
    - `decisionCount`: the decisions of a body, those of its items and those inside their headers
    - `decisionsIn_decisionsOfAll`: the points found in some nodes are as many as their decisions
    - `complexity_decisionCount`: complexity and decisions, with the exact condition for them to agree
    - `complexity_overlooks_handlerTypes`: a body for which they do not
-/

namespace HistoryMetrics

open Python

/-- The decisions among statements and all statements inside them. -/
def Statement.decisionsIn (ss : List Statement) : Nat :=
  (walkAll ss).countP fun s => s.kind.isDecision

namespace Python

-- Sums start at the zero of the core library, whatever other zeros are in scope.
attribute [local instance (high)] Zero.ofOfNat0

/-! ## Decisions of nodes -/

namespace Node

/-- **The decisions that a node stands for itself**: a conditional expression is one, a connective is
    one for each of its operators, a clause of a comprehension one for each of its filters. -/
def ownDecisions : Node → Nat
  | .expr (.conditional ..) | .callee (.conditional ..) => 1
  | .expr (.boolOp _ _ values) | .callee (.boolOp _ _ values) => values.length - 1
  | .comprehension (.mk _ _ _ filters) => filters.length
  | _ => 0

/-- **The decisions of nodes** and of all nodes below them. -/
def decisionCount (ns : List Node) : Nat := ((levels ns).map ownDecisions).sum

@[simp] theorem decisionCount_nil : decisionCount [] = 0 := by
  simp [decisionCount, levels]

@[simp] theorem decisionCount_append (ms ns : List Node) :
    decisionCount (ms ++ ns) = decisionCount ms + decisionCount ns := by
  have hsum := ((levels_append_perm ms ns).map ownDecisions).sum_nat
  rw [List.map_append, List.sum_append] at hsum
  exact hsum

theorem decisionCount_cons (n : Node) (ns : List Node) :
    decisionCount (n :: ns) = decisionCount [n] + decisionCount ns :=
  decisionCount_append [n] ns

/-- The decisions of a node are its own and those of the nodes inside. -/
theorem decisionCount_singleton (n : Node) :
    decisionCount [n] = n.ownDecisions + decisionCount n.children := by
  simp [decisionCount, levels_eq [n]]

end Node

/-! ## Decision points -/

open Statement (decisionsIn)

theorem decisionsIn_append (ss ts : List Statement) :
    decisionsIn (ss ++ ts) = decisionsIn ss + decisionsIn ts := by
  simp [decisionsIn]

theorem decisionsIn_cons (s : Statement) (ss : List Statement) :
    decisionsIn (s :: ss) =
      (if s.kind.isDecision then 1 else 0) + decisionsIn s.children + decisionsIn ss := by
  simp only [decisionsIn, Statement.walkAll_cons, Statement.walk_eq, List.cons_append,
    List.countP_cons, List.countP_append]
  omega

/-- Points of one kind of decision with nothing inside them. -/
theorem decisionsIn_replicate (s : Span) (k : Nat) :
    decisionsIn (List.replicate k (point .booleanOp s [])) = k := by
  induction k with
  | zero => rfl
  | succ k ih =>
    rw [List.replicate_succ, decisionsIn_cons, ih]
    exact Nat.add_comm 1 k

theorem decisionsIn_filters (filters : List Expr) :
    decisionsIn (filters.map fun f => point .ifThen f.span []) = filters.length := by
  induction filters with
  | nil => rfl
  | cons f filters ih =>
    rw [List.map_cons, decisionsIn_cons, ih, List.length_cons]
    exact Nat.add_comm 1 filters.length

/-- Apart from a conditional expression, a node makes as many points as it stands for decisions. -/
theorem decisionsIn_ownPoints {n : Node} (h : conditionalSpan? n = none) :
    decisionsIn (ownPoints n) = n.ownDecisions := by
  match n with
  | .expr e | .callee e =>
    cases e with
    | boolOp s _ values => exact decisionsIn_replicate s (values.length - 1)
    | conditional => cases h
    | _ => rfl
  | .comprehension (.mk _ _ _ filters) => exact decisionsIn_filters filters
  | .keyword _ | .parameters _ | .parameter _ | .pattern _ => rfl

theorem ownDecisions_of_conditionalSpan? {n : Node} {s : Span} (h : conditionalSpan? n = some s) :
    n.ownDecisions = 1 := by
  match n with
  | .expr e | .callee e =>
    cases e with
    | conditional => rfl
    | _ => cases h
  | .comprehension _ | .keyword _ | .parameters _ | .parameter _ | .pattern _ => cases h

theorem decisionsIn_decisionsOfAll_of_each {ns : List Node}
    (h : ∀ n ∈ ns, decisionsIn (decisions n) = Node.decisionCount [n]) :
    decisionsIn (decisionsOfAll ns) = Node.decisionCount ns := by
  induction ns with
  | nil => simp [decisionsOfAll, decisionsIn]
  | cons n ns ih =>
    have hns := ih fun m hm => h m (List.mem_cons_of_mem n hm)
    rw [decisionsOfAll] at hns
    rw [decisionsOfAll, List.flatMap_cons, decisionsIn_append, h n List.mem_cons_self, hns,
      ← Node.decisionCount_cons]

theorem decisionsIn_decisions (n : Node) :
    decisionsIn (decisions n) = Node.decisionCount [n] := by
  induction n using Node.inductionOn with
  | step n ih =>
    have hinside := decisionsIn_decisionsOfAll_of_each ih
    rw [Node.decisionCount_singleton, decisions_eq]
    cases hspan : conditionalSpan? n with
    | some s =>
      -- what is inside a conditional expression hangs below its point
      rw [decisionsIn_cons, ownDecisions_of_conditionalSpan? hspan, ← hinside]
      rfl
    | none => rw [decisionsIn_append, decisionsIn_ownPoints hspan, hinside]

/-- **The points found in some nodes are as many as their decisions.** -/
theorem decisionsIn_decisionsOfAll (ns : List Node) :
    decisionsIn (decisionsOfAll ns) = Node.decisionCount ns :=
  decisionsIn_decisionsOfAll_of_each fun n _ => decisionsIn_decisions n

/-! ## Decisions of a body -/

namespace Item

/-- **The decisions that an item stands for itself**: an `if`, a loop, a handler and a case are one. -/
def ownDecisions : Item → Nat
  | .stmt _ (.ifElse ..) | .stmt _ (.forEach ..) | .stmt _ (.whileLoop ..) => 1
  | .handler _ | .case _ => 1
  | _ => 0

/-- The type that a handler names. -/
def handlerType : Item → List Node
  | .handler (.mk _ type _ _) => Node.optional type
  | _ => []

theorem ownDecisions_eq (i : Item) :
    i.ownDecisions = if i.kind.isDecision then 1 else 0 := by
  match i with
  | .stmt true (.ifElse ..) | .stmt false (.ifElse ..) => rfl
  | .stmt _ (.simple ..) | .stmt _ (.forEach ..) | .stmt _ (.whileLoop ..) | .stmt _ (.withBlock ..)
  | .stmt _ (.tryBlock ..) | .stmt _ (.switch ..) | .stmt _ (.function ..) | .stmt _ (.classDef ..) =>
    rfl
  | .handler _ | .case _ => rfl

/-- Decisions are looked for in all of a header but the type that a handler names. -/
theorem header_eq {i : Item} (h : i.isDefinition = false) : i.header = i.scanned ++ i.handlerType := by
  match i with
  | .stmt _ (.function ..) | .stmt _ (.classDef ..) => cases h
  | .stmt _ (.simple ..) | .stmt _ (.ifElse ..) | .stmt _ (.forEach ..) | .stmt _ (.whileLoop ..)
  | .stmt _ (.withBlock ..) | .stmt _ (.tryBlock ..) | .stmt _ (.switch ..) | .case _ =>
    exact (List.append_nil _).symm
  | .handler (.mk ..) => rfl

end Item

/-- **The decisions of a body**: those that its items stand for, and those of all nodes in their
    headers. -/
def decisionCount (body : List Stmt) : Nat :=
  ((itemsOf body).map fun i => i.ownDecisions + Node.decisionCount i.header).sum

/-- The types that the handlers of a body name. -/
def handlerTypes (body : List Stmt) : List Node := (itemsOf body).flatMap Item.handlerType

/-- The decisions met in a walk are those of its items and those of the points between them. -/
theorem Meets.countP_isDecision {is : List Item} {ss : List Statement} (h : Meets is ss) :
    (ss.countP fun s => s.kind.isDecision) =
      (is.map fun i => i.ownDecisions + Node.decisionCount i.scanned).sum := by
  induction h with
  | nil => rfl
  | @cons i is s ss hlabel _ ih =>
    have hkind : s.kind = i.kind := congrArg Prod.fst hlabel
    have hpoints := decisionsIn_decisionsOfAll i.scanned
    rw [decisionsIn, ← Item.points] at hpoints
    rw [List.countP_cons, List.countP_append, hkind, hpoints, ih, List.map_cons, List.sum_cons,
      Item.ownDecisions_eq]
    omega

/-- **The complexity of a method** counts all decisions of its body but those in the types that
    handlers name. -/
theorem complexity_add_handlerTypes (s : Span) (name : String) (params : Parameters)
    (body : List Stmt) (decorators : List Expr) (h : ∀ i ∈ itemsOf body, i.isDefinition = false) :
    (methodOutline s name params body decorators).complexity +
        Node.decisionCount (handlerTypes body) = 1 + decisionCount body := by
  have hitems : ∀ is : List Item, (∀ i ∈ is, i.isDefinition = false) →
      (is.map fun i => i.ownDecisions + Node.decisionCount i.scanned).sum +
          Node.decisionCount (is.flatMap Item.handlerType) =
        (is.map fun i => i.ownDecisions + Node.decisionCount i.header).sum := by
    intro is his
    induction is with
    | nil => simp
    | cons i is ih =>
      have htail := ih fun j hj => his j (List.mem_cons_of_mem i hj)
      rw [List.map_cons, List.map_cons, List.sum_cons, List.sum_cons, List.flatMap_cons,
        Node.decisionCount_append, ← htail, Item.header_eq (his i List.mem_cons_self),
        Node.decisionCount_append]
      omega
  rw [decisionCount, ← hitems _ h, ← (meets_itemsOf body).countP_isDecision, handlerTypes,
    ← Nat.add_assoc]
  rfl

/-- **When complexity is one more than the decisions of the source.** In a body without definitions
    every decision counts once, whatever the position of its expression, but for those in the types
    that handlers name; so complexity is right just when there are none of these. -/
theorem complexity_decisionCount (s : Span) (name : String) (params : Parameters)
    (body : List Stmt) (decorators : List Expr) (h : ∀ i ∈ itemsOf body, i.isDefinition = false) :
    (methodOutline s name params body decorators).complexity +
        Node.decisionCount (handlerTypes body) = 1 + decisionCount body ∧
      ((methodOutline s name params body decorators).complexity = 1 + decisionCount body ↔
        Node.decisionCount (handlerTypes body) = 0) := by
  have hcount := complexity_add_handlerTypes s name params body decorators h
  refine ⟨hcount, ?_⟩
  omega

/-- A loop with a connective in its condition and a handler in its body. -/
def guardedLoop : List Stmt :=
  [.whileLoop ⟨1, 0, 5⟩ (.boolOp ⟨1, 6, 1⟩ .both [.name ⟨1, 6, 1⟩ "a", .name ⟨1, 12, 1⟩ "b"])
    [.tryBlock ⟨2, 4, 5⟩ false [.simple ⟨3, 8, 3⟩ .pass]
      [.mk ⟨4, 4, 5⟩ (some (.name ⟨4, 11, 4⟩ "KeyError")) none [.simple ⟨5, 8, 5⟩ .pass]] [] []] []]

theorem complexity_guardedLoop :
    (∀ i ∈ itemsOf guardedLoop, i.isDefinition = false) ∧
      Node.decisionCount (handlerTypes guardedLoop) = 0 ∧
      (methodOutline default "f" .empty guardedLoop []).complexity = 1 + decisionCount guardedLoop ∧
      decisionCount guardedLoop = 3 := by
  have hitems : ∀ i ∈ itemsOf guardedLoop, i.isDefinition = false := by
    simp [itemsOf, guardedLoop, plainItems, Item.all_eq, Item.inside, Item.isDefinition]
  have htypes : Node.decisionCount (handlerTypes guardedLoop) = 0 := by cbv
  exact ⟨hitems, htypes,
    (complexity_decisionCount default "f" .empty guardedLoop [] hitems).2.2 htypes, by cbv⟩

/-- A handler that names one of two types by a condition. -/
def chosenHandler : List Stmt :=
  [.tryBlock ⟨1, 0, 4⟩ false [.simple ⟨2, 4, 2⟩ .pass]
    [.mk ⟨3, 0, 4⟩
      (some (.conditional ⟨3, 8, 3⟩ (.name ⟨3, 20, 3⟩ "flag") (.name ⟨3, 8, 3⟩ "KeyError")
        (.name ⟨3, 30, 3⟩ "ValueError")))
      none [.simple ⟨4, 4, 4⟩ .pass]] [] []]

/-- **Complexity is not always one more than the decisions**: the condition in the type that a handler
    names is overlooked. -/
theorem complexity_overlooks_handlerTypes :
    ¬∀ (s : Span) (name : String) (params : Parameters) (body : List Stmt) (decorators : List Expr),
      (∀ i ∈ itemsOf body, i.isDefinition = false) →
        (methodOutline s name params body decorators).complexity = 1 + decisionCount body := by
  intro hall
  have hitems : ∀ i ∈ itemsOf chosenHandler, i.isDefinition = false := by
    simp [itemsOf, chosenHandler, plainItems, Item.all_eq, Item.inside, Item.isDefinition]
  have htypes : Node.decisionCount (handlerTypes chosenHandler) = 1 := by cbv
  have hcount := complexity_add_handlerTypes default "f" .empty chosenHandler [] hitems
  have hclaim := hall default "f" .empty chosenHandler [] hitems
  omega

end Python

end HistoryMetrics
