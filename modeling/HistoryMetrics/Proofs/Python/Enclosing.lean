import HistoryMetrics.Proofs.Python.Conversion
import HistoryMetrics.Proofs.Surroundings

/-! # Decision points and what encloses them

    The decision points of an expression are a forest of their own. It holds one point for each decision
    of the expression, in the order of a walk from the outside in, and no other statement. Two points stand
    one inside the other just when the outer one is the point of a conditional expression around the
    decision that the inner one stands for; a connective and a filter enclose nothing.

    - `Node.marks`: the decisions that a node stands for
    - `Node.choices`: the conditional expression that a node is
    - `marked`, `signed`: decisions and points, each with what encloses it
    - `placedAll_decisions`: the points of a node are the decisions of all nodes inside it
    - `decisions_placed`: the points of an expression
-/

namespace HistoryMetrics.Python

namespace Node

/-- **The decisions that a node stands for itself**, by their kinds and lines: a conditional expression is
    one, a connective is one for each of its operators, and a clause of a comprehension is one for each of
    its filters, on the lines of the filter. -/
def marks : Node → List (StatementKind × Extent)
  | .expr (.conditional s ..) | .callee (.conditional s ..) => [(.conditional, s.extent)]
  | .expr (.boolOp s _ values) | .callee (.boolOp s _ values) =>
    List.replicate (values.length - 1) (.booleanOp, s.extent)
  | .comprehension (.mk _ _ _ filters) => filters.map fun f => (.ifThen, f.span.extent)
  | _ => []

/-- **The conditional expression that a node is**, if it is one. -/
def choices : Node → List (StatementKind × Extent)
  | .expr (.conditional s ..) | .callee (.conditional s ..) => [(.conditional, s.extent)]
  | _ => []

end Node

/-! ## Single nodes -/

/-- A conditional expression stands for itself and nothing else. -/
theorem marks_of_conditionalSpan? {n : Node} {s : Span} (h : conditionalSpan? n = some s) :
    n.marks = [(.conditional, s.extent)] ∧ n.choices = [(.conditional, s.extent)] := by
  match n with
  | .expr e | .callee e =>
    cases e with
    | conditional =>
      cases h
      exact ⟨rfl, rfl⟩
    | _ => cases h
  | .comprehension _ | .keyword _ | .parameters _ | .parameter _ | .pattern _ => cases h

/-- Any other node makes the points of its decisions, and encloses none. -/
theorem map_label_ownPoints {n : Node} (h : conditionalSpan? n = none) :
    (ownPoints n).map Statement.label = n.marks ∧ n.choices = [] := by
  match n with
  | .expr e | .callee e =>
    cases e with
    | boolOp s _ values => exact ⟨List.map_replicate, rfl⟩
    | conditional => cases h
    | _ => exact ⟨rfl, rfl⟩
  | .comprehension (.mk _ _ _ filters) => exact ⟨List.map_map, rfl⟩
  | .keyword _ | .parameters _ | .parameter _ | .pattern _ => exact ⟨rfl, rfl⟩

/-- Nothing stands inside the points that a node makes itself, conditional expressions apart. -/
theorem children_of_mem_ownPoints {n : Node} : ∀ s ∈ ownPoints n, s.children = [] := by
  intro s hs
  unfold ownPoints at hs
  split at hs
  · rw [List.eq_of_mem_replicate hs]
    rfl
  · rw [List.eq_of_mem_replicate hs]
    rfl
  · obtain ⟨f, -, rfl⟩ := List.mem_map.1 hs
    rfl
  · cases hs

/-! ## Decisions and points in their places -/

/-- **A statement and the statements around it**, by their kinds and lines. -/
def signed (p : List Statement × Statement) : List (StatementKind × Extent) × StatementKind × Extent :=
  (p.1.map Statement.label, p.2.label)

/-- **The decisions of a node**, each with the conditional expressions around the node. -/
def marked (p : List Node × Node) : List (List (StatementKind × Extent) × StatementKind × Extent) :=
  p.2.marks.map fun mark => (p.1.flatMap Node.choices, mark)

/-- What more encloses something. -/
def enclosed (outer : List (StatementKind × Extent))
    (q : List (StatementKind × Extent) × StatementKind × Extent) :
    List (StatementKind × Extent) × StatementKind × Extent :=
  (outer ++ q.1, q.2)

theorem map_signed_behind (s : Statement) (ps : List (List Statement × Statement)) :
    (ps.map (Nesting.behind s)).map signed = (ps.map signed).map (enclosed [s.label]) := by
  rw [List.map_map, List.map_map]
  rfl

theorem flatMap_marked_behind (n : Node) (ps : List (List Node × Node)) :
    (ps.map (Nesting.behind n)).flatMap marked = (ps.flatMap marked).map (enclosed n.choices) := by
  rw [List.flatMap_map, List.map_flatMap]
  refine List.flatMap_congr fun p _ => ?_
  rw [marked, marked, List.map_map]
  rfl

/-- What encloses nothing changes nothing. -/
theorem map_enclosed_nil (qs : List (List (StatementKind × Extent) × StatementKind × Extent)) :
    qs.map (enclosed []) = qs := List.map_id qs

theorem map_signed_decisionsOfAll_of_each {ns : List Node}
    (h : ∀ n ∈ ns, (Statement.nesting.placedAll (decisions n)).map signed =
      (Node.nesting.placed n).flatMap marked) :
    (Statement.nesting.placedAll (decisionsOfAll ns)).map signed =
      (Node.nesting.placedAll ns).flatMap marked := by
  induction ns with
  | nil => rfl
  | cons n ns ih =>
    obtain ⟨hn, hns⟩ := List.forall_mem_cons.1 h
    have hcons : decisionsOfAll (n :: ns) = decisions n ++ decisionsOfAll ns := rfl
    rw [hcons, Nesting.placedAll_append, List.map_append, hn, ih hns, Nesting.placedAll_cons,
      List.flatMap_append]

/-- **The points of a node are the decisions of all nodes inside it**, in the order of a walk from the
    outside in. Around each point are the points of the conditional expressions around its node. -/
theorem placedAll_decisions (n : Node) :
    (Statement.nesting.placedAll (decisions n)).map signed =
      (Node.nesting.placed n).flatMap marked := by
  induction n using Node.inductionOn with
  | step n ih =>
    have hinside := map_signed_decisionsOfAll_of_each ih
    rw [decisions_eq, Nesting.placed_eq, List.flatMap_cons, flatMap_marked_behind]
    cases hspan : conditionalSpan? n with
    | some s =>
      -- the point encloses those of all nodes inside
      obtain ⟨hmarks, hchoices⟩ := marks_of_conditionalSpan? hspan
      have hself : marked ([], n) = [([], .conditional, s.extent)] := by
        rw [marked, hmarks]
        rfl
      rw [Nesting.placedAll_cons, Nesting.placedAll_nil, List.append_nil, Nesting.placed_eq,
        List.map_cons, map_signed_behind, hself, hchoices]
      exact congrArg (fun qs => _ :: List.map (enclosed [(.conditional, s.extent)]) qs) hinside
    | none =>
      obtain ⟨hmarks, hchoices⟩ := map_label_ownPoints hspan
      have hself : ((ownPoints n).map fun s => (([] : List Statement), s)).map signed =
          marked ([], n) := by
        rw [marked, ← hmarks, List.map_map, List.map_map]
        rfl
      rw [Nesting.placedAll_append, List.map_append, hchoices, map_enclosed_nil,
        Nesting.placedAll_of_bare _ children_of_mem_ownPoints, hself]
      exact congrArg (marked ([], n) ++ ·) hinside

/-- **The decision points of an expression are exact.** A walk over them meets, in the order of a walk over
    the nodes of the expression from the outside in, one point for each conditional expression, one less
    than the values for each connective, one for each filter of a comprehension, and nothing else; and the
    statements around a point are those of the conditional expressions around its node, one for one and the
    outermost first. The nodes are all that a walk level by level meets, each as often. -/
theorem decisions_placed (e : Expr) :
    (Statement.nesting.placedAll (decisions (.expr e))).map
        (fun p => (p.1.map Statement.label, p.2.label)) =
      ((Node.nesting.placed (.expr e)).flatMap fun p =>
        p.2.marks.map fun mark => (p.1.flatMap Node.choices, mark)) ∧
    (Statement.walkAll (decisions (.expr e))).map Statement.label =
      (((Node.nesting.placed (.expr e)).map Prod.snd).flatMap Node.marks) ∧
    ((Node.nesting.placed (.expr e)).map Prod.snd).Perm (Node.levels [.expr e]) := by
  have hplaced := placedAll_decisions (.expr e)
  refine ⟨hplaced, ?_, ?_⟩
  · have hlabels : (Statement.walkAll (decisions (.expr e))).map Statement.label =
        ((Statement.nesting.placedAll (decisions (.expr e))).map signed).map Prod.snd := by
      rw [← Statement.map_snd_placedAll, List.map_map, List.map_map]
      rfl
    rw [hlabels, hplaced, List.map_flatMap, List.flatMap_map]
    refine List.flatMap_congr fun p _ => ?_
    rw [marked, List.map_map]
    exact List.map_id _
  · have hperm := Node.nesting.map_snd_placedAll_perm [.expr e]
    rwa [Nesting.placedAll_cons, Nesting.placedAll_nil, List.append_nil,
      ← Node.levels_eq_levels] at hperm

/-- A conditional expression in a filter, inside another conditional expression: its point stands inside
    that of the outer one only, beside the point of the filter. -/
example :
    let x := Expr.name ⟨1, 0, 1⟩ "x"
    let inner := Expr.conditional ⟨3, 0, 3⟩ x x (.boolOp ⟨3, 9, 3⟩ .both [x, x, x])
    let e := Expr.conditional ⟨1, 0, 4⟩ x x (.gather ⟨2, 0, 4⟩ .list x [.mk false x x [inner]])
    (Statement.nesting.placedAll (decisions (.expr e))).map signed =
      [([], .conditional, ⟨1, 4⟩), ([(.conditional, ⟨1, 4⟩)], .ifThen, ⟨3, 3⟩),
        ([(.conditional, ⟨1, 4⟩)], .conditional, ⟨3, 3⟩),
        ([(.conditional, ⟨1, 4⟩), (.conditional, ⟨3, 3⟩)], .booleanOp, ⟨3, 3⟩),
        ([(.conditional, ⟨1, 4⟩), (.conditional, ⟨3, 3⟩)], .booleanOp, ⟨3, 3⟩)] := by
  cbv

end HistoryMetrics.Python
