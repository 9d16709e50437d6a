import HistoryMetrics.Proofs.Python.Items

/-! # What the skeleton of a body keeps

    The skeleton of a body is a tree of another shape: the chain of an `if` is laid out flat, and the
    decisions of a header stand beside the statements of the body. Nevertheless a walk over it meets
    the items of the body in their order, each once, and right after an item the decision points of
    its header.

    - `Item.scanned`, `Item.points`: where decisions are looked for, and what is found there
    - `Item.names`: the variables of an item
    - `walkAll_converted`: what an item turns into, taken apart
    - `Meets`: walks that meet items and their points
    - `walk_bodySkeleton`: the walk over a skeleton
-/

namespace HistoryMetrics

open Python

/-- The kind and the lines of a statement. -/
def Statement.label (s : Statement) : StatementKind × Extent := (s.kind, s.extent)

namespace Python

namespace Item

/-- The kind and the lines of an item. -/
def label (i : Item) : StatementKind × Extent := (i.kind, i.extent)

/-- **The nodes in which decisions are looked for**: those of the header, unless the item is a
    definition or a handler. -/
def scanned : Item → List Node
  | .stmt _ (.function ..) => []
  | .stmt _ (.classDef ..) => []
  | .handler _ => []
  | i => i.header

/-- **The decision points of an item**, and those inside them. -/
def points (i : Item) : List Statement := Statement.walkAll (decisionsOfAll i.scanned)

/-- **The variables of an item**: those of its header, which a definition does not look at, and the
    name that a handler gives to what it catches. -/
def names : Item → List String
  | .stmt _ (.simple _ content) => namedVariables content.nodes
  | .stmt _ (.function ..) => []
  | .stmt _ (.classDef ..) => []
  | .handler (.mk _ type name _) => variablesOfEach (Node.optional type) ++ name.toList
  | i => variablesOfEach i.header

/-- **The statements that an item turns into.** An `if` brings the rest of its chain along. -/
def converted : Item → List Statement
  | .stmt isElif s => skeleton (if isElif then .elseIf else .ifThen) s
  | .handler h => handlerSkeletons [h]
  | .case c => caseSkeletons [c]

end Item

/-! ## Skeletons side by side -/

theorem skeletons_eq (kind : StatementKind) (ss : List Stmt) :
    skeletons kind ss = ss.flatMap (skeleton kind) := by
  induction ss with
  | nil => rfl
  | cons s ss ih => rw [skeletons, ih, List.flatMap_cons]

theorem skeletons_plain (ss : List Stmt) :
    skeletons .ifThen ss = (plainItems ss).flatMap Item.converted := by
  rw [skeletons_eq, plainItems, List.flatMap_map]
  rfl

theorem handlerSkeletons_eq (hs : List Handler) :
    handlerSkeletons hs = (hs.map Item.handler).flatMap Item.converted := by
  induction hs with
  | nil => rfl
  | cons h hs ih =>
    cases h
    rw [handlerSkeletons, ih]
    rfl

theorem caseSkeletons_eq (cs : List MatchCase) :
    caseSkeletons cs = (cs.map Item.case).flatMap Item.converted := by
  induction cs with
  | nil => rfl
  | cons c cs ih =>
    cases c
    rw [caseSkeletons, ih]
    rfl

/-- The items of an `else` part are `elif`s when it continues a chain, and only then. -/
theorem elseItems_eq (column : Nat) (ss : List Stmt) :
    elseItems column ss = ss.map (.stmt (continuesChain column ss)) := by
  match ss with
  | [] => rfl
  | [s] => cases s <;> rfl
  | s :: t :: ss => simp [elseItems, continuesChain]

theorem skeletons_else (column : Nat) (ss : List Stmt) :
    skeletons (if continuesChain column ss then .elseIf else .ifThen) ss =
      (elseItems column ss).flatMap Item.converted := by
  rw [skeletons_eq, elseItems_eq, List.flatMap_map]
  rfl

/-! ## One item -/

/-- **What an item turns into**: a statement of its kind on its lines with its variables, in which its
    decisions come first. What the items inside turn into follows there, or else next to it. -/
theorem converted_eq (i : Item) :
    ∃ nested rest,
      i.converted = .mk i.kind i.extent i.names (decisionsOfAll i.scanned ++ nested) :: rest ∧
        i.inside.flatMap Item.converted = nested ++ rest := by
  match i with
  | .stmt _ (.simple s content) =>
    exact ⟨[], [], by rw [List.append_nil]; rfl, rfl⟩
  | .stmt isElif (.ifElse s test body orElse) =>
    simp only [Item.inside, List.flatMap_append, ← skeletons_plain, ← skeletons_else, Item.converted,
      skeleton, headed]
    -- only the rest of a chain stands next to its first part
    cases continuesChain s.column orElse with
    | true => exact ⟨_, _, by rw [if_pos rfl, List.append_nil]; rfl, rfl⟩
    | false => exact ⟨_, [], rfl, by rw [List.append_nil]; rfl⟩
  | .stmt _ (.forEach s _ target source body orElse) =>
    simp only [Item.inside, List.flatMap_append, ← skeletons_plain]
    exact ⟨_, [], rfl, (List.append_nil _).symm⟩
  | .stmt _ (.whileLoop s test body orElse) =>
    simp only [Item.inside, List.flatMap_append, ← skeletons_plain]
    exact ⟨_, [], rfl, (List.append_nil _).symm⟩
  | .stmt _ (.withBlock s _ items body) =>
    simp only [Item.inside, ← skeletons_plain]
    exact ⟨_, [], rfl, (List.append_nil _).symm⟩
  | .stmt _ (.tryBlock s _ body handlers orElse final) =>
    simp only [Item.inside, List.flatMap_append, ← skeletons_plain, ← handlerSkeletons_eq]
    exact ⟨_, [], rfl, (List.append_nil _).symm⟩
  | .stmt _ (.switch s subject cases) =>
    simp only [Item.inside, ← caseSkeletons_eq]
    exact ⟨_, [], rfl, (List.append_nil _).symm⟩
  | .stmt _ (.function s _ _ _ body _ _) =>
    simp only [Item.inside, ← skeletons_plain]
    exact ⟨_, [], rfl, (List.append_nil _).symm⟩
  | .stmt _ (.classDef s _ _ _ _ _) => exact ⟨[], [], rfl, rfl⟩
  | .handler (.mk s type name body) =>
    simp only [Item.inside, ← skeletons_plain]
    exact ⟨_, [], rfl, (List.append_nil _).symm⟩
  | .case (.mk pattern guard body) =>
    simp only [Item.inside, ← skeletons_plain]
    exact ⟨_, [], rfl, (List.append_nil _).symm⟩

/-- A walk over what an item turns into: a statement with its kind, its lines and its variables, then its
    decision points, then what the items inside turn into. -/
theorem walkAll_converted (i : Item) :
    ∃ s : Statement, s.label = i.label ∧ s.names = i.names ∧
      Statement.walkAll i.converted =
        s :: (i.points ++ Statement.walkAll (i.inside.flatMap Item.converted)) := by
  obtain ⟨nested, rest, hconverted, hinside⟩ := converted_eq i
  refine ⟨.mk i.kind i.extent i.names (decisionsOfAll i.scanned ++ nested), rfl, rfl, ?_⟩
  rw [hconverted, hinside, Statement.walkAll_cons, Statement.walk_eq, Statement.children,
    Statement.walkAll_append, Statement.walkAll_append, List.cons_append, List.append_assoc]
  rfl

/-! ## All items -/

/-- **A walk that meets items**: each in its turn, as a statement of its kind on its lines, and right
    after it the decision points of its header. -/
inductive Meets : List Item → List Statement → Prop where
  | nil : Meets [] []
  | cons {i : Item} {is : List Item} {s : Statement} {ss : List Statement} :
      s.label = i.label → Meets is ss → Meets (i :: is) (s :: (i.points ++ ss))

theorem Meets.append {is js : List Item} {ss ts : List Statement} (h : Meets is ss)
    (h' : Meets js ts) : Meets (is ++ js) (ss ++ ts) := by
  induction h with
  | nil => exact h'
  | cons hlabel _ ih =>
    rw [List.cons_append, List.cons_append, List.append_assoc]
    exact .cons hlabel ih

theorem Meets.flatMap {is : List Item}
    (h : ∀ i ∈ is, Meets i.all (Statement.walkAll i.converted)) :
    Meets (is.flatMap Item.all) (Statement.walkAll (is.flatMap Item.converted)) := by
  induction is with
  | nil => exact .nil
  | cons i is ih =>
    rw [List.flatMap_cons, List.flatMap_cons, Statement.walkAll_append]
    exact (h i List.mem_cons_self).append (ih fun j hj => h j (List.mem_cons_of_mem i hj))

theorem meets_all (i : Item) : Meets i.all (Statement.walkAll i.converted) := by
  induction i using Item.inductionOn with
  | step i ih =>
    obtain ⟨s, hlabel, -, hwalk⟩ := walkAll_converted i
    rw [Item.all_eq, hwalk]
    exact .cons hlabel (.flatMap ih)

/-- **A walk over the skeleton of a body meets the items of the body.** -/
theorem meets_itemsOf (body : List Stmt) :
    Meets (itemsOf body) (Statement.walkAll (bodySkeleton body)) := by
  rw [bodySkeleton, skeletons_plain]
  exact .flatMap fun i _ => meets_all i

/-- The statements that stand for the items, without the decision points between them. -/
theorem Meets.heads {is : List Item} {ss : List Statement} (h : Meets is ss) :
    ∃ heads : List Statement, heads.map Statement.label = is.map Item.label ∧
      ss = (heads.zip is).flatMap fun p => p.1 :: p.2.points := by
  induction h with
  | nil => exact ⟨[], rfl, rfl⟩
  | @cons i is s ss hlabel _ ih =>
    obtain ⟨heads, hheads, hss⟩ := ih
    refine ⟨s :: heads, ?_, ?_⟩
    · rw [List.map_cons, List.map_cons, hlabel, hheads]
    · rw [List.zip_cons_cons, List.flatMap_cons, ← hss]
      rfl

/-- **Nothing is lost and nothing is doubled.** When the decision points are dropped from a walk over
    the skeleton of a body, what is left are the items of the body in the order of the source, each
    once, with its kind and its lines. The points of an item stand right after it. -/
theorem walk_bodySkeleton (body : List Stmt) :
    ∃ heads : List Statement,
      heads.map (fun s => (s.kind, s.extent)) = (itemsOf body).map (fun i => (i.kind, i.extent)) ∧
        Statement.walkAll (bodySkeleton body) =
          (heads.zip (itemsOf body)).flatMap fun p => p.1 :: p.2.points :=
  (meets_itemsOf body).heads

/-- An `if` with an `elif`, which is met after the body of the `if`. -/
example :
    (itemsOf [.ifElse ⟨1, 0, 4⟩ (.name ⟨1, 3, 1⟩ "a") [.simple ⟨2, 4, 2⟩ .pass]
      [.ifElse ⟨3, 0, 4⟩ (.name ⟨3, 5, 3⟩ "b") [.simple ⟨4, 4, 4⟩ .pass] []]]).map Item.label =
      [(.ifThen, ⟨1, 4⟩), (.simple, ⟨2, 2⟩), (.elseIf, ⟨3, 4⟩), (.simple, ⟨4, 4⟩)] := by
  cbv

end Python

end HistoryMetrics
