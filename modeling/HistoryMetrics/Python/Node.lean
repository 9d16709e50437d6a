import HistoryMetrics.Python.Tree

/-! # Nodes inside expressions and patterns

    Expressions, patterns and what stands between them are all nodes. `Node.children` gives the
    nodes directly inside one, in the order in which the grammar declares the parts of a construct:
    the keys of a mapping come before all its values, the defaults of parameters after all
    parameters.

    - `Node.children`, `Node.weight`: the nodes inside weigh less together than the node itself
    - `Node.inductionOn`: what holds of a node whenever it holds of its children holds of all nodes
    - `Node.levels`: all nodes below some, level by level

    An expression in the position of a called function is a node of its own kind: naming a function
    in order to call it reads no variable.
-/

namespace HistoryMetrics.Python

/-- **A node** of an expression or a pattern. -/
inductive Node where
  | expr (e : Expr)
  | callee (e : Expr)
  | comprehension (c : Comprehension)
  | keyword (k : Keyword)
  | parameters (p : Parameters)
  | parameter (p : Parameter)
  | pattern (p : Pattern)

namespace Node

-- Sums start at the zero of the core library, whatever other zeros are in scope.
attribute [local instance (high)] Zero.ofOfNat0

/-- Expressions as nodes. -/
def exprs (es : List Expr) : List Node := es.map .expr

/-- An expression that may be missing, as nodes. -/
def optional (e : Option Expr) : List Node := exprs e.toList

/-- The nodes directly inside an expression. -/
def ofExpr : Expr → List Node
  | .constant .. => []
  | .name .. => []
  | .attribute _ e _ => [.expr e]
  | .subscript _ e i => [.expr e, .expr i]
  | .call _ f args ks => .callee f :: (exprs args ++ ks.map .keyword)
  | .boolOp _ _ es => exprs es
  | .unary _ _ e => [.expr e]
  | .binary _ _ a b => [.expr a, .expr b]
  | .compare _ a _ es => .expr a :: exprs es
  | .conditional _ c a b => [.expr c, .expr a, .expr b]
  | .named _ t e => [.expr t, .expr e]
  | .lambda _ p e => [.parameters p, .expr e]
  | .display _ _ es => exprs es
  | .dict _ ks vs => exprs (ks.filterMap id) ++ exprs vs
  | .gather _ _ e cs => .expr e :: cs.map .comprehension
  | .gatherDict _ k v cs => .expr k :: .expr v :: cs.map .comprehension
  | .await _ e => [.expr e]
  | .yield _ e => optional e
  | .yieldFrom _ e => [.expr e]
  | .starred _ e => [.expr e]
  | .formatted _ e _ s => .expr e :: optional s
  | .joined _ es => exprs es
  | .slice _ a b c => optional a ++ optional b ++ optional c

/-- The nodes directly inside a pattern. -/
def ofPattern : Pattern → List Node
  | .value _ e => [.expr e]
  | .singleton .. => []
  | .sequence _ ps => ps.map .pattern
  | .mapping _ ks ps _ => exprs ks ++ ps.map .pattern
  | .record _ t ps _ fs => .expr t :: (ps.map .pattern ++ fs.map .pattern)
  | .star .. => []
  | .capture _ p _ => p.toList.map .pattern
  | .either _ ps => ps.map .pattern

/-- **The nodes directly inside a node.** -/
def children : Node → List Node
  | .expr e => ofExpr e
  | .callee e => ofExpr e
  | .comprehension (.mk _ t s fs) => .expr t :: .expr s :: exprs fs
  | .keyword (.mk _ e) => [.expr e]
  | .parameters (.mk po ps r ko kd kr ds) =>
    po.map .parameter ++ ps.map .parameter ++ r.toList.map .parameter ++ ko.map .parameter ++
      exprs (kd.filterMap id) ++ kr.toList.map .parameter ++ exprs ds
  | .parameter (.mk _ a) => optional a
  | .pattern p => ofPattern p

/-! ## Weights -/

/-- The size of what a node holds. -/
noncomputable def weight : Node → Nat
  | .expr e => sizeOf e
  | .callee e => sizeOf e
  | .comprehension c => sizeOf c
  | .keyword k => sizeOf k
  | .parameters p => sizeOf p
  | .parameter p => sizeOf p
  | .pattern p => sizeOf p

/-- The weight of some nodes together. -/
noncomputable def total (ns : List Node) : Nat := (ns.map weight).sum

@[simp] theorem total_nil : total [] = 0 := rfl

@[simp] theorem total_cons (n : Node) (ns : List Node) : total (n :: ns) = n.weight + total ns := by
  simp [total]

@[simp] theorem total_append (ms ns : List Node) : total (ms ++ ns) = total ms + total ns := by
  simp [total]

/-- Items wrapped as nodes of the same size weigh less than their list. -/
theorem total_map_lt {α : Type} [SizeOf α] (f : α → Node) (h : ∀ a, (f a).weight = sizeOf a)
    (as : List α) : total (as.map f) < sizeOf as := by
  induction as with
  | nil => simp
  | cons a as ih => simp [h]; omega

/-- The item that may be missing weighs less than the option. -/
theorem total_toList_lt {α : Type} [SizeOf α] (f : α → Node) (h : ∀ a, (f a).weight = sizeOf a)
    (o : Option α) : total (o.toList.map f) < sizeOf o := by
  cases o with
  | none => simp
  | some a => simp [h]

/-- Items that are not missing weigh less than the list of them all. -/
theorem total_filterMap_lt {α : Type} [SizeOf α] (f : α → Node)
    (h : ∀ a, (f a).weight = sizeOf a) (os : List (Option α)) :
    total ((os.filterMap id).map f) < sizeOf os := by
  induction os with
  | nil => simp
  | cons o os ih => cases o with
    | none => simp at ih ⊢; omega
    | some a => simp [h] at ih ⊢; omega

theorem total_exprs_lt (es : List Expr) : total (exprs es) < sizeOf es :=
  total_map_lt .expr (fun _ => rfl) es

theorem total_optional_lt (e : Option Expr) : total (optional e) < sizeOf e :=
  total_toList_lt .expr (fun _ => rfl) e

theorem total_keys_lt (ks : List (Option Expr)) : total (exprs (ks.filterMap id)) < sizeOf ks :=
  total_filterMap_lt .expr (fun _ => rfl) ks

/-- The nodes inside an expression weigh less than it. -/
theorem total_ofExpr_lt (e : Expr) : total (ofExpr e) < sizeOf e := by
  cases e <;> simp only [ofExpr, total_nil, total_cons, total_append, weight] <;>
    simp only [Expr.constant.sizeOf_spec, Expr.name.sizeOf_spec, Expr.attribute.sizeOf_spec,
      Expr.subscript.sizeOf_spec, Expr.call.sizeOf_spec, Expr.boolOp.sizeOf_spec,
      Expr.unary.sizeOf_spec, Expr.binary.sizeOf_spec, Expr.compare.sizeOf_spec,
      Expr.conditional.sizeOf_spec, Expr.named.sizeOf_spec, Expr.lambda.sizeOf_spec,
      Expr.display.sizeOf_spec, Expr.dict.sizeOf_spec, Expr.gather.sizeOf_spec,
      Expr.gatherDict.sizeOf_spec, Expr.await.sizeOf_spec, Expr.yield.sizeOf_spec,
      Expr.yieldFrom.sizeOf_spec, Expr.starred.sizeOf_spec, Expr.formatted.sizeOf_spec,
      Expr.joined.sizeOf_spec, Expr.slice.sizeOf_spec]
  case call _ f args ks =>
    have h := total_exprs_lt args
    have h' := total_map_lt Node.keyword (fun _ => rfl) ks
    omega
  case boolOp _ _ es => have h := total_exprs_lt es; omega
  case compare _ _ _ es => have h := total_exprs_lt es; omega
  case display _ _ es => have h := total_exprs_lt es; omega
  case dict _ ks vs => have h := total_keys_lt ks; have h' := total_exprs_lt vs; omega
  case gather _ _ _ cs => have h := total_map_lt Node.comprehension (fun _ => rfl) cs; omega
  case gatherDict _ _ _ cs => have h := total_map_lt Node.comprehension (fun _ => rfl) cs; omega
  case yield _ e => have h := total_optional_lt e; omega
  case formatted _ _ _ s => have h := total_optional_lt s; omega
  case joined _ es => have h := total_exprs_lt es; omega
  case slice _ a b c =>
    have h := total_optional_lt a
    have h' := total_optional_lt b
    have h'' := total_optional_lt c
    omega
  all_goals omega

/-- The nodes inside a pattern weigh less than it. -/
theorem total_ofPattern_lt (p : Pattern) : total (ofPattern p) < sizeOf p := by
  have all (ps : List Pattern) : total (ps.map Node.pattern) < sizeOf ps :=
    total_map_lt Node.pattern (fun _ => rfl) ps
  cases p <;> simp only [ofPattern, total_nil, total_cons, total_append, weight] <;>
    simp only [Pattern.value.sizeOf_spec, Pattern.singleton.sizeOf_spec,
      Pattern.sequence.sizeOf_spec, Pattern.mapping.sizeOf_spec, Pattern.record.sizeOf_spec,
      Pattern.star.sizeOf_spec, Pattern.capture.sizeOf_spec, Pattern.either.sizeOf_spec]
  case sequence _ ps => have h := all ps; omega
  case mapping _ ks ps _ => have h := total_exprs_lt ks; have h' := all ps; omega
  case record _ _ ps _ fs => have h := all ps; have h' := all fs; omega
  case capture _ p _ => have h := total_toList_lt Node.pattern (fun _ => rfl) p; omega
  case either _ ps => have h := all ps; omega
  all_goals omega

/-- **The nodes inside a node weigh less than it.** -/
theorem total_children_lt (n : Node) : total n.children < n.weight := by
  have all (ps : List Parameter) : total (ps.map Node.parameter) < sizeOf ps :=
    total_map_lt Node.parameter (fun _ => rfl) ps
  match n with
  | .expr e => exact total_ofExpr_lt e
  | .callee e => exact total_ofExpr_lt e
  | .pattern p => exact total_ofPattern_lt p
  | .comprehension (.mk _ t s fs) =>
    have h := total_exprs_lt fs
    simp only [children, total_cons, weight, Comprehension.mk.sizeOf_spec]
    omega
  | .keyword (.mk _ e) =>
    simp only [children, total_cons, total_nil, weight, Keyword.mk.sizeOf_spec]
    omega
  | .parameter (.mk _ a) =>
    have h := total_optional_lt a
    simp only [children, weight, Parameter.mk.sizeOf_spec]
    omega
  | .parameters (.mk po ps r ko kd kr ds) =>
    have h1 := all po
    have h2 := all ps
    have h3 := total_toList_lt Node.parameter (fun _ => rfl) r
    have h4 := all ko
    have h5 := total_keys_lt kd
    have h6 := total_toList_lt Node.parameter (fun _ => rfl) kr
    have h7 := total_exprs_lt ds
    simp only [children, total_append, weight, Parameters.mk.sizeOf_spec]
    omega

/-- A node weighs at most as much as the nodes it is among. -/
theorem weight_le_total {n : Node} {ns : List Node} (h : n ∈ ns) : n.weight ≤ total ns := by
  induction ns with
  | nil => cases h
  | cons m ns ih =>
    cases h with
    | head => simp
    | tail _ h => have := ih h; simp; omega

/-- A node inside another one weighs less. -/
theorem weight_lt_of_mem {c n : Node} (h : c ∈ n.children) : c.weight < n.weight :=
  Nat.lt_of_le_of_lt (weight_le_total h) (total_children_lt n)

/-- What holds of a node whenever it holds of the nodes inside holds of every node. -/
@[elab_as_elim]
theorem inductionOn {motive : Node → Prop} (n : Node)
    (step : ∀ n : Node, (∀ c ∈ n.children, motive c) → motive n) : motive n :=
  step n fun c _ => inductionOn c step
termination_by n.weight
decreasing_by exact weight_lt_of_mem ‹_›

/-! ## Levels -/

/-- Going one level down makes nodes lighter, unless there are none. -/
theorem total_flatMap_children (ns : List Node) (h : ns ≠ []) :
    total (ns.flatMap children) < total ns := by
  induction ns with
  | nil => exact absurd rfl h
  | cons n ns ih =>
    have hn := total_children_lt n
    cases ns with
    | nil => simpa using hn
    | cons m ms =>
      have h' := ih (by simp)
      simp only [List.flatMap_cons, total_append, total_cons] at h' ⊢
      omega

/-- **Nodes and all nodes below them**, level by level. -/
def levels (ns : List Node) : List Node :=
  match _h : ns with
  | [] => []
  | m :: ms => (m :: ms) ++ levels ((m :: ms).flatMap children)
termination_by total ns
decreasing_by
  subst _h
  exact total_flatMap_children _ (by simp)

end Node

end HistoryMetrics.Python
