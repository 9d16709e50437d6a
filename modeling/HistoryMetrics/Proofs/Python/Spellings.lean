import HistoryMetrics.Proofs.Metric.Reference
import HistoryMetrics.Proofs.Python.Complexity
import HistoryMetrics.Proofs.Python.Variables

/-! # Two spellings of a chain

    An `if` that is alone in the `else` part of another one can be written as an `elif`, or inside the
    `else` part. The tree of the source knows the two apart by columns only, but their skeletons differ:
    an `elif` stands beside its `if`, the other one inside it. Decisions and variables are the same in
    both, wherever the chain stands. Nesting is not: each `if` of the chain may go one level deeper.

    - `Link`, `chain`: a chain of `if`s
    - `Frame`, `Site`: where in a body something stands
    - `marksIn`: what decisions and variables are counted by
    - `marksIn_chain`, `Site.sameMarks_fill`: the marks of a chain, and of a body around it
    - `deepestIn_chain`: how deep the two spellings nest
    - `chain_spellings_agree`: what the measures say of the two
-/

namespace HistoryMetrics

open Python

namespace Python

/-! ## Chains -/

/-- **One `if` of a chain**, without its `else` part. -/
structure Link where
  span : Span
  test : Expr
  body : List Stmt

namespace Link

/-- The same test and the same body. -/
structure SameCode (l m : Link) : Prop where
  test : m.test = l.test
  body : m.body = l.body

/-- Does the second link start at the column of the first? -/
def SameColumn (l m : Link) : Prop := m.span.column = l.span.column

end Link

/-- **A chain of `if`s**: each is alone in the `else` part of the one before, and the last one has the
    given `else` part. -/
def chain (final : List Stmt) : Link → List Link → Stmt
  | l, [] => .ifElse l.span l.test l.body final
  | l, m :: rest => .ifElse l.span l.test l.body [chain final m rest]

/-- Is a single `if` all that there is? -/
def IsSingleIf (ss : List Stmt) : Prop := ∃ s test body orElse, ss = [.ifElse s test body orElse]

theorem continuesChain_of_not_isSingleIf {ss : List Stmt} (h : ¬ IsSingleIf ss) (column : Nat) :
    continuesChain column ss = false := by
  unfold continuesChain
  split
  · exact absurd ⟨_, _, _, _, rfl⟩ h
  · rfl

theorem continuesChain_chain (column : Nat) (final : List Stmt) (l : Link) (rest : List Link) :
    continuesChain column [chain final l rest] = (l.span.column == column) := by
  cases rest with
  | nil => rfl
  | cons m rest => rfl

/-! ## Places -/

/-- **A statement with one of its bodies left open.** -/
inductive Frame where
  | ifBody (span : Span) (test : Expr) (orElse : List Stmt)
  | elseOfIf (span : Span) (test : Expr) (body : List Stmt)
  | forBody (span : Span) (isAsync : Bool) (target source : Expr) (orElse : List Stmt)
  | elseOfFor (span : Span) (isAsync : Bool) (target source : Expr) (body : List Stmt)
  | whileBody (span : Span) (test : Expr) (orElse : List Stmt)
  | elseOfWhile (span : Span) (test : Expr) (body : List Stmt)
  | withBody (span : Span) (isAsync : Bool) (items : List WithItem)
  | tryBody (span : Span) (isGroup : Bool) (handlers : List Handler) (orElse final : List Stmt)
  | handlerBody (span : Span) (isGroup : Bool) (body : List Stmt) (before : List Handler)
      (place : Span) (type : Option Expr) (name : Option String) (after : List Handler)
      (orElse final : List Stmt)
  | elseOfTry (span : Span) (isGroup : Bool) (body : List Stmt) (handlers : List Handler)
      (final : List Stmt)
  | finalOfTry (span : Span) (isGroup : Bool) (body : List Stmt) (handlers : List Handler)
      (orElse : List Stmt)
  | caseBody (span : Span) (subject : Expr) (before : List MatchCase) (pattern : Pattern)
      (guard : Option Expr) (after : List MatchCase)
  | functionBody (span : Span) (isAsync : Bool) (name : String) (params : Parameters)
      (decorators : List Expr) (returns : Option Expr)
  | classBody (span : Span) (name : String) (bases : List Expr) (keywords : List Keyword)
      (decorators : List Expr)

/-- The statement with the open body filled in. -/
def Frame.fill (ss : List Stmt) : Frame → Stmt
  | .ifBody s test orElse => .ifElse s test ss orElse
  | .elseOfIf s test body => .ifElse s test body ss
  | .forBody s isAsync target source orElse => .forEach s isAsync target source ss orElse
  | .elseOfFor s isAsync target source body => .forEach s isAsync target source body ss
  | .whileBody s test orElse => .whileLoop s test ss orElse
  | .elseOfWhile s test body => .whileLoop s test body ss
  | .withBody s isAsync items => .withBlock s isAsync items ss
  | .tryBody s isGroup handlers orElse final => .tryBlock s isGroup ss handlers orElse final
  | .handlerBody s isGroup body before place type name after orElse final =>
    .tryBlock s isGroup body (before ++ .mk place type name ss :: after) orElse final
  | .elseOfTry s isGroup body handlers final => .tryBlock s isGroup body handlers ss final
  | .finalOfTry s isGroup body handlers orElse => .tryBlock s isGroup body handlers orElse ss
  | .caseBody s subject before pattern guard after =>
    .switch s subject (before ++ .mk pattern guard ss :: after)
  | .functionBody s isAsync name params decorators returns =>
    .function s isAsync name params ss decorators returns
  | .classBody s name bases keywords decorators => .classDef s name bases keywords ss decorators

/-- A frame between the statements before and after it. -/
structure Layer where
  before : List Stmt
  frame : Frame
  after : List Stmt

/-- **A site in a body**: the statements right before and after it, and the layers around these, the
    outermost first. -/
structure Site where
  around : List Layer
  before : List Stmt
  after : List Stmt

/-- The statements of a layer with its frame filled in. -/
def Layer.fill (layer : Layer) (ss : List Stmt) : List Stmt :=
  layer.before ++ layer.frame.fill ss :: layer.after

/-- **The body with a statement at a site.** -/
def Site.fill (p : Site) (s : Stmt) : List Stmt :=
  p.around.foldr Layer.fill (p.before ++ s :: p.after)

/-! ## Marks -/

/-- What decisions and variables need to know of a statement. -/
def markOf (s : Statement) : Bool × List String := (s.kind.isDecision, s.names)

/-- **The marks of some statements** and of all statements inside them, in the order of a walk. -/
def marksIn (ss : List Statement) : List (Bool × List String) := (Statement.walkAll ss).map markOf

@[simp] theorem marksIn_nil : marksIn [] = [] := rfl

@[simp] theorem marksIn_cons (kind : StatementKind) (e : Extent) (names : List String)
    (children ss : List Statement) :
    marksIn (.mk kind e names children :: ss) =
      (kind.isDecision, names) :: (marksIn children ++ marksIn ss) := by
  simp [marksIn, Statement.walk_eq, Statement.children, markOf, Statement.kind, Statement.names]

@[simp] theorem marksIn_append (ss ts : List Statement) :
    marksIn (ss ++ ts) = marksIn ss ++ marksIn ts := by
  simp [marksIn]

theorem skeletons_append (kind : StatementKind) (ss ts : List Stmt) :
    skeletons kind (ss ++ ts) = skeletons kind ss ++ skeletons kind ts := by
  simp only [skeletons_eq, List.flatMap_append]

theorem handlerSkeletons_append (hs gs : List Handler) :
    handlerSkeletons (hs ++ gs) = handlerSkeletons hs ++ handlerSkeletons gs := by
  simp only [handlerSkeletons_eq, List.map_append, List.flatMap_append]

theorem caseSkeletons_append (cs ds : List MatchCase) :
    caseSkeletons (cs ++ ds) = caseSkeletons cs ++ caseSkeletons ds := by
  simp only [caseSkeletons_eq, List.map_append, List.flatMap_append]

/-- **Two lists of statements have the same marks**, and go on with a chain alike when they are in the
    `else` part of an `if`. -/
structure SameMarks (ss ts : List Stmt) : Prop where
  continues : ∀ column, continuesChain column ss = continuesChain column ts
  marks : ∀ kind, marksIn (skeletons kind ss) = marksIn (skeletons kind ts)

/-- What an `if` continues depends on how the statements of its `else` part begin. -/
theorem continuesChain_between (column : Nat) (before after : List Stmt) {s t : Stmt}
    (h : continuesChain column [s] = continuesChain column [t]) :
    continuesChain column (before ++ s :: after) = continuesChain column (before ++ t :: after) := by
  have hmore : ∀ (s t : Stmt) (ss : List Stmt), continuesChain column (s :: t :: ss) = false := by
    intro s t ss
    simp [continuesChain]
  cases before with
  | nil =>
    cases after with
    | nil => exact h
    | cons a after => exact (hmore s a after).trans (hmore t a after).symm
  | cons b before =>
    cases before with
    | nil => exact (hmore b s after).trans (hmore b t after).symm
    | cons c before => exact (hmore b c _).trans (hmore b c _).symm

/-- Statements between others. -/
theorem sameMarks_between (before after : List Stmt) {s t : Stmt}
    (hcontinues : ∀ column, continuesChain column [s] = continuesChain column [t])
    (hmarks : ∀ kind, marksIn (skeleton kind s) = marksIn (skeleton kind t)) :
    SameMarks (before ++ s :: after) (before ++ t :: after) where
  continues column := continuesChain_between column before after (hcontinues column)
  marks kind := by simp only [skeletons_append, skeletons, marksIn_append, hmarks kind]

/-- **A frame adds the same marks** to what has the same marks. -/
theorem SameMarks.frame {ss ts : List Stmt} (h : SameMarks ss ts) (frame : Frame) (kind : StatementKind) :
    marksIn (skeleton kind (frame.fill ss)) = marksIn (skeleton kind (frame.fill ts)) := by
  have hbody := h.marks .ifThen
  cases frame with
  | elseOfIf s test body =>
    -- the statements of the `else` part are inside the `if`, or else beside it
    have hchained := h.marks .elseIf
    have hcontinues := h.continues s.column
    cases hc : continuesChain s.column ts with
    | true =>
      rw [hc] at hcontinues
      simp only [Frame.fill, skeleton, headed, hc, hcontinues, if_true, marksIn_cons, marksIn_append,
        hchained]
    | false =>
      rw [hc] at hcontinues
      simp only [Frame.fill, skeleton, headed, hc, hcontinues, Bool.false_eq_true, if_false,
        marksIn_cons, marksIn_append, hbody]
  | ifBody | forBody | elseOfFor | whileBody | elseOfWhile | withBody | tryBody | elseOfTry | finalOfTry
  | functionBody | classBody =>
    simp only [Frame.fill, skeleton, headed, marksIn_cons, marksIn_append, hbody]
  | handlerBody =>
    simp only [Frame.fill, skeleton, handlerSkeletons_append, handlerSkeletons, marksIn_cons,
      marksIn_append, hbody]
  | caseBody =>
    simp only [Frame.fill, skeleton, headed, caseSkeletons_append, caseSkeletons, marksIn_cons,
      marksIn_append, hbody]

theorem SameMarks.layer {ss ts : List Stmt} (h : SameMarks ss ts) (layer : Layer) :
    SameMarks (layer.fill ss) (layer.fill ts) := by
  refine sameMarks_between layer.before layer.after ?_ (h.frame layer.frame)
  intro column
  cases layer.frame <;> rfl

/-- **Statements with the same marks** can stand for each other at every site. -/
theorem Site.sameMarks_fill (p : Site) {s t : Stmt}
    (hcontinues : ∀ column, continuesChain column [s] = continuesChain column [t])
    (hmarks : ∀ kind, marksIn (skeleton kind s) = marksIn (skeleton kind t)) :
    SameMarks (p.fill s) (p.fill t) := by
  unfold Site.fill
  induction p.around with
  | nil => exact sameMarks_between p.before p.after hcontinues hmarks
  | cons layer around ih => exact ih.layer layer

/-- Bodies with the same marks have the same complexity. -/
theorem SameMarks.complexity_eq {ss ts : List Stmt} (h : SameMarks ss ts) (s : Span) (name : String)
    (params : Parameters) (decorators : List Expr) :
    (methodOutline s name params ss decorators).complexity =
      (methodOutline s name params ts decorators).complexity := by
  have hcount : ∀ ms : List Statement,
      (Statement.walkAll ms).countP (fun s => s.kind.isDecision) = (marksIn ms).countP Prod.fst := by
    intro ms
    rw [marksIn, List.countP_map]
    rfl
  have hbody := h.marks .ifThen
  show 1 + _ = 1 + _
  rw [Method.statements, Method.statements, hcount, hcount]
  show 1 + (marksIn (skeletons .ifThen ss)).countP Prod.fst = _
  rw [hbody]
  rfl

/-- Bodies with the same marks access the same variables. -/
theorem SameMarks.accessedVariables_eq {ss ts : List Stmt} (h : SameMarks ss ts) (s : Span) (name : String)
    (params : Parameters) (decorators : List Expr) :
    (methodOutline s name params ss decorators).accessedVariables =
      (methodOutline s name params ts decorators).accessedVariables := by
  have hnames : ∀ ms : List Statement,
      (Statement.walkAll ms).flatMap Statement.names = (marksIn ms).flatMap Prod.snd := by
    intro ms
    rw [marksIn, List.flatMap_map]
    rfl
  have hbody := h.marks .ifThen
  rw [Method.accessedVariables, Method.accessedVariables, Method.statements, Method.statements, hnames,
    hnames]
  show ((marksIn (skeletons .ifThen ss)).flatMap Prod.snd).eraseDups = _
  rw [hbody]
  rfl

/-! ## Decisions and variables of a chain -/

/-- **The marks of a chain** do not depend on its spelling: a walk meets the tests and bodies in the same
    order, whether the rest of the chain stands beside its first `if` or inside it. -/
theorem marksIn_chain {final : List Stmt} (hfinal : ¬ IsSingleIf final) {flat nested : List Link}
    (hcode : List.Forall₂ Link.SameCode flat nested) {l m : Link} (hlm : l.SameCode m)
    (hflat : (l :: flat).IsChain Link.SameColumn)
    (hnested : (m :: nested).IsChain fun a b => ¬ a.SameColumn b) {kind kind' : StatementKind}
    (hkind : kind.isDecision = kind'.isDecision) :
    marksIn (skeleton kind (chain final l flat)) = marksIn (skeleton kind' (chain final m nested)) := by
  induction hcode generalizing l m kind kind' with
  | nil =>
    simp only [chain, skeleton, headed, continuesChain_of_not_isSingleIf hfinal, Bool.false_eq_true,
      if_false, marksIn_cons, marksIn_append, hkind, hlm.test, hlm.body]
  | @cons l' m' flat nested hlm' _ ih =>
    rw [List.isChain_cons_cons] at hflat hnested
    have hin : continuesChain l.span.column [chain final l' flat] = true := by
      rw [continuesChain_chain, beq_iff_eq]
      exact hflat.1
    have hout : continuesChain m.span.column [chain final m' nested] = false := by
      rw [continuesChain_chain, beq_eq_false_iff_ne]
      exact hnested.1
    have hkinds : StatementKind.isDecision .elseIf = StatementKind.isDecision .ifThen := rfl
    have hrest := ih hlm' hflat.2 hnested.2 hkinds
    simp only [chain, skeleton, headed, hin, hout, Bool.false_eq_true, if_true, if_false, marksIn_cons,
      marksIn_append, skeletons, marksIn_nil, hkind, hlm.test, hlm.body, hrest, List.append_nil,
      List.append_assoc]

/-! ## Nesting of a chain -/

/-- The deepest level that some statements on the lowest level reach. -/
def deepestIn (ss : List Statement) : Nat := Statement.deepestOf 0 ss

@[simp] theorem deepestIn_nil : deepestIn [] = 0 := rfl

theorem deepestIn_cons (kind : StatementKind) (e : Extent) (names : List String)
    (children ss : List Statement) :
    deepestIn (.mk kind e names children :: ss) =
      max ((if kind.isNesting then 1 else 0) + deepestIn children) (deepestIn ss) := by
  have hlevel : ∀ level, Statement.deepestOf level children = level + deepestIn children := by
    intro level
    rw [deepestIn, Statement.deepestOf_eq, Statement.deepestOf_eq 0, Nat.zero_add]
  simp only [deepestIn, Statement.deepestOf, Statement.deepest]
  by_cases hkind : kind.isNesting = true
  · simp only [hkind, if_true, hlevel]
    omega
  · simp only [hkind, Bool.false_eq_true, if_false, hlevel]
    omega

theorem deepestIn_append (ss ts : List Statement) :
    deepestIn (ss ++ ts) = max (deepestIn ss) (deepestIn ts) := by
  induction ss with
  | nil => exact (Nat.zero_max _).symm
  | cons s ss ih =>
    cases s with
    | mk kind e names children =>
      rw [List.cons_append, deepestIn_cons, deepestIn_cons, ih, Nat.max_assoc]

/-- **How deep a chain nests.** Spelled with `elif`s it stays on one level; otherwise each `if` of the
    chain is one level below the one before, so that the chain goes at most that much deeper. -/
theorem deepestIn_chain {final : List Stmt} (hfinal : ¬ IsSingleIf final) {flat nested : List Link}
    (hcode : List.Forall₂ Link.SameCode flat nested) {l m : Link} (hlm : l.SameCode m)
    (hflat : (l :: flat).IsChain Link.SameColumn)
    (hnested : (m :: nested).IsChain fun a b => ¬ a.SameColumn b) {kind kind' : StatementKind}
    (hkind : kind.isNesting = true) (hkind' : kind'.isNesting = true) :
    deepestIn (skeleton kind (chain final l flat)) ≤ deepestIn (skeleton kind' (chain final m nested)) ∧
      deepestIn (skeleton kind' (chain final m nested)) ≤
        deepestIn (skeleton kind (chain final l flat)) + flat.length := by
  induction hcode generalizing l m kind kind' with
  | nil =>
    have hsame : deepestIn (skeleton kind (chain final l [])) =
        deepestIn (skeleton kind' (chain final m [])) := by
      simp only [chain, skeleton, headed, continuesChain_of_not_isSingleIf hfinal, Bool.false_eq_true,
        if_false, deepestIn_cons, hkind, hkind', hlm.test, hlm.body]
    omega
  | @cons l' m' flat nested hlm' _ ih =>
    rw [List.isChain_cons_cons] at hflat hnested
    have hin : continuesChain l.span.column [chain final l' flat] = true := by
      rw [continuesChain_chain, beq_iff_eq]
      exact hflat.1
    have hout : continuesChain m.span.column [chain final m' nested] = false := by
      rw [continuesChain_chain, beq_eq_false_iff_ne]
      exact hnested.1
    have helseIf : StatementKind.isNesting .elseIf = true := rfl
    have hifThen : StatementKind.isNesting .ifThen = true := rfl
    have hrest := ih hlm' hflat.2 hnested.2 helseIf hifThen
    -- beside the first `if` the rest keeps its level, inside it everything is one level deeper
    simp only [chain, skeleton, headed, hin, hout, Bool.false_eq_true, if_true, if_false, deepestIn_cons,
      deepestIn_append, skeletons, hkind, hkind', hlm.test, hlm.body, List.append_nil,
      List.length_cons]
    have hnil : deepestIn [] = 0 := deepestIn_nil
    omega

/-- The nesting of a method whose body is a single statement. -/
theorem nesting_singleton (s : Span) (name : String) (params : Parameters) (t : Stmt)
    (decorators : List Expr) :
    (methodOutline s name params [t] decorators).nesting = deepestIn (skeleton .ifThen t) := by
  show deepestIn (skeletons .ifThen [t]) = _
  rw [skeletons, skeletons, List.append_nil]

/-! ## The measures -/

/-- **The two spellings of a chain measure alike.** The chain is spelled once with `elif`s, each `if` at
    the column of the one before, and once with `if`s that are alone in an `else` part, each at another
    column than the one before; the first `if` is the same. At every site in the body of a method,
    complexity and variables are the same for both. Where the chain is the whole body, nesting is at most
    as deep with `elif`s, and without them deeper by at most the number of `if`s after the first. -/
theorem chain_spellings_agree {first : Link} {flat nested : List Link} {final : List Stmt}
    (hcode : List.Forall₂ Link.SameCode flat nested)
    (hflat : (first :: flat).IsChain Link.SameColumn)
    (hnested : (first :: nested).IsChain fun a b => ¬ a.SameColumn b) (hfinal : ¬ IsSingleIf final)
    (s : Span) (name : String) (params : Parameters) (decorators : List Expr) :
    (∀ site : Site,
      (methodOutline s name params (site.fill (chain final first flat)) decorators).complexity =
          (methodOutline s name params (site.fill (chain final first nested)) decorators).complexity ∧
        (methodOutline s name params (site.fill (chain final first flat)) decorators).accessedVariables =
          (methodOutline s name params (site.fill (chain final first nested))
            decorators).accessedVariables) ∧
      (methodOutline s name params [chain final first flat] decorators).nesting ≤
          (methodOutline s name params [chain final first nested] decorators).nesting ∧
      (methodOutline s name params [chain final first nested] decorators).nesting ≤
          (methodOutline s name params [chain final first flat] decorators).nesting + flat.length := by
  have hfirst : first.SameCode first := ⟨rfl, rfl⟩
  refine ⟨?_, ?_⟩
  · intro site
    have hmarks : SameMarks (site.fill (chain final first flat)) (site.fill (chain final first nested)) := by
      apply site.sameMarks_fill
      · intro column
        rw [continuesChain_chain, continuesChain_chain]
      · intro kind
        exact marksIn_chain hfinal hcode hfirst hflat hnested rfl
    exact ⟨hmarks.complexity_eq s name params decorators,
      hmarks.accessedVariables_eq s name params decorators⟩
  · have hifThen : StatementKind.isNesting .ifThen = true := rfl
    have hdeep := deepestIn_chain hfinal hcode hfirst hflat hnested hifThen hifThen
    rw [nesting_singleton, nesting_singleton]
    exact hdeep

/-- One `if` of a chain whose bodies do nothing. -/
def idleLink (column : Nat) (x : String) : Link :=
  ⟨⟨1, column, 9⟩, .name ⟨1, 12, 1⟩ x, [.simple ⟨9, 12, 9⟩ .pass]⟩

/-- Two more `if`s, each so much to the right of the one before. -/
def idleLinks (step : Nat) : List Link := [idleLink step "b", idleLink (step + step) "c"]

/-- A last `else` part that asks once more. -/
def askingAgain : List Stmt := [.simple ⟨9, 12, 9⟩ .pass, chain [] (idleLink 8 "d") []]

/-- The body of a loop. -/
def insideLoop : Site := ⟨[⟨[], .whileBody ⟨1, 0, 9⟩ (.name ⟨1, 6, 1⟩ "e") [], []⟩], [], []⟩

/-- A method with the given body. -/
def methodWith (body : List Stmt) : Method := methodOutline default "f" .empty body []

/-- Spelled with `elif`s the three `if`s nest one level less deep for each `if` after the first. -/
theorem nesting_threeIfs :
    (methodWith [chain askingAgain (idleLink 0 "a") (idleLinks 0)]).nesting = 2 ∧
      (methodWith [chain askingAgain (idleLink 0 "a") (idleLinks 4)]).nesting = 4 := by
  rw [methodWith, nesting_singleton, methodWith, nesting_singleton]
  simp [chain, askingAgain, idleLinks, idleLink, skeleton, skeletons, headed, continuesChain,
    deepestIn_cons, decisionsOfAll, decisions_eq, conditionalSpan?, ownPoints, Node.children,
    Node.ofExpr, Simple.nodes, Simple.expressions, Node.exprs, StatementKind.isNesting]

theorem chain_spellings_agree_threeIfs :
    (methodWith (insideLoop.fill (chain askingAgain (idleLink 0 "a") (idleLinks 0)))).accessedVariables =
        (methodWith (insideLoop.fill
          (chain askingAgain (idleLink 0 "a") (idleLinks 4)))).accessedVariables ∧
      (methodWith [chain askingAgain (idleLink 0 "a") (idleLinks 0)]).nesting = 2 ∧
      (methodWith [chain askingAgain (idleLink 0 "a") (idleLinks 4)]).nesting = 4 ∧
      (methodWith [chain askingAgain (idleLink 0 "a") (idleLinks 4)]).nesting ≤
        (methodWith [chain askingAgain (idleLink 0 "a") (idleLinks 0)]).nesting + 2 := by
  have hcode : List.Forall₂ Link.SameCode (idleLinks 0) (idleLinks 4) :=
    .cons ⟨rfl, rfl⟩ (.cons ⟨rfl, rfl⟩ .nil)
  have hflat : (idleLink 0 "a" :: idleLinks 0).IsChain Link.SameColumn := by
    simp [idleLinks, idleLink, Link.SameColumn]
  have hnested : (idleLink 0 "a" :: idleLinks 4).IsChain fun a b => ¬ a.SameColumn b := by
    simp [idleLinks, idleLink, Link.SameColumn]
  have hfinal : ¬ IsSingleIf askingAgain := by
    intro ⟨s, test, body, orElse, h⟩
    simp [askingAgain] at h
  have hagree := chain_spellings_agree hcode hflat hnested hfinal default "f" .empty []
  exact ⟨(hagree.1 insideLoop).2, nesting_threeIfs.1, nesting_threeIfs.2, hagree.2.2⟩

end Python

end HistoryMetrics
