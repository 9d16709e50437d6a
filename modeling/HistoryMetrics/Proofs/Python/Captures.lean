import HistoryMetrics.Proofs.Python.Variables
import Mathlib

/-! # Names bound by patterns

    A pattern binds names in three places, at any depth: a capture, a star, and the entries of a mapping
    that its keys leave over. The first two are variables of the case; the third is not looked at. Such a
    name counts only where something else names it as well.

    - `Pattern.GathersRest`, `Pattern.Binds`: the names that a pattern binds
    - `caseSkeletons_names`: the cases of a `match`, one by one
    - `switch_counts_captures`: which bound names count
    - `switch_overlooks_rests`: the others do not
-/

namespace HistoryMetrics

open Python

namespace Python

namespace Pattern

/-- The name that a mapping pattern itself gives to the entries that its keys leave over. -/
def ownRest : Pattern → Option String
  | .mapping _ _ _ rest => rest
  | _ => none

/-- **Does a pattern gather entries of a mapping under a name**, at any depth? -/
def GathersRest (p : Pattern) (x : String) : Prop := ∃ q, Contains q p ∧ q.ownRest = some x

/-- **The names that a pattern binds.** -/
def Binds (p : Pattern) (x : String) : Prop := p.Captures x ∨ p.GathersRest x

/-- Where all captures are counted, all bound names are exactly if the rests are. -/
theorem all_binds_iff {p : Pattern} {Counted : String → Prop} (h : ∀ x, p.Captures x → Counted x) :
    (∀ x, p.Binds x → Counted x) ↔ ∀ x, p.GathersRest x → Counted x := by
  constructor
  · intro hall x hrest
    exact hall x (.inr hrest)
  · intro hrests x hx
    cases hx with
    | inl hcapture => exact h x hcapture
    | inr hrest => exact hrests x hrest

end Pattern

/-- The pattern of a case. -/
def MatchCase.pattern : MatchCase → Pattern
  | .mk pattern _ _ => pattern

/-- A case gives the names that its pattern captures. -/
theorem gives_case_iff (c : MatchCase) (x : String) : (Item.case c).Gives x ↔ c.pattern.Captures x := by
  cases c
  rfl

/-- **The variables of a case** are the names that its pattern captures, and what its header reads. -/
theorem mem_names_case_iff (c : MatchCase) (x : String) :
    x ∈ (Item.case c).names ↔ c.pattern.Captures x ∨ (Item.case c).Reads x := by
  rw [Item.mem_names_iff, gives_case_iff]
  constructor
  · intro h
    exact h.2.symm
  · intro h
    exact ⟨rfl, h.symm⟩

/-- The cases of a `match` turn into statements one by one, with the variables of the cases. -/
theorem caseSkeletons_names (cases : List MatchCase) :
    List.Forall₂ (fun c s => s.kind = .case ∧ s.names = (Item.case c).names) cases
      (caseSkeletons cases) := by
  induction cases with
  | nil => exact .nil
  | cons c cases ih =>
    cases c with
    | mk pattern guard body =>
      rw [caseSkeletons]
      exact .cons ⟨rfl, rfl⟩ ih

/-- **What a pattern captures counts**, however deep it stands and whether or not it is used. The
    statement of each case names the captures of its pattern and what its header reads. So it names all
    that the pattern binds exactly if rests of mappings are named in some other way. A method with the
    `match` somewhere in its body accesses all captures, and all that a pattern binds exactly if each rest
    is read or given by an item of the body. -/
theorem switch_counts_captures (kind : StatementKind) (span : Span) (subject : Expr)
    (cases : List MatchCase) :
    (∃ children, skeleton kind (.switch span subject cases) =
        [headed .switch span [.expr subject] children] ∧
      List.Forall₂ (fun c s => s.kind = .case ∧
          (∀ x, x ∈ s.names ↔ c.pattern.Captures x ∨ (Item.case c).Reads x) ∧
          ((∀ x, c.pattern.Binds x → x ∈ s.names) ↔
            ∀ x, c.pattern.GathersRest x → c.pattern.Captures x ∨ (Item.case c).Reads x))
        cases children) ∧
      ∀ (s : Span) (name : String) (params : Parameters) (body : List Stmt) (decorators : List Expr)
        (isElif : Bool), .stmt isElif (.switch span subject cases) ∈ itemsOf body →
        ∀ c ∈ cases,
          (∀ x, c.pattern.Captures x →
            x ∈ (methodOutline s name params body decorators).accessedVariables) ∧
          ((∀ x, c.pattern.Binds x →
              x ∈ (methodOutline s name params body decorators).accessedVariables) ↔
            ∀ x, c.pattern.GathersRest x →
              ∃ i ∈ itemsOf body, i.isDefinition = false ∧ (i.Reads x ∨ i.Gives x)) := by
  refine ⟨⟨caseSkeletons cases, by rw [skeleton], ?_⟩, ?_⟩
  · refine (caseSkeletons_names cases).imp ?_
    intro c s h
    obtain ⟨hkind, hnames⟩ := h
    rw [hnames]
    refine ⟨hkind, mem_names_case_iff c, ?_⟩
    simp only [mem_names_case_iff]
    exact Pattern.all_binds_iff fun x => .inl
  · intro s name params body decorators isElif hswitch c hc
    -- a case is an item of its own, wherever the `match` stands
    have hcase : .case c ∈ itemsOf body :=
      mem_itemsOf_of_mem_inside hswitch (List.mem_map_of_mem hc)
    have hcaptures : ∀ x, c.pattern.Captures x →
        x ∈ (methodOutline s name params body decorators).accessedVariables := by
      intro x hcapture
      rw [mem_accessedVariables_iff]
      exact ⟨.case c, hcase, rfl, .inr ((gives_case_iff c x).2 hcapture)⟩
    refine ⟨hcaptures, ?_⟩
    simp only [← mem_accessedVariables_iff s name params body decorators]
    exact Pattern.all_binds_iff hcaptures

/-- A `match` with one case. -/
def matching (c : MatchCase) : Stmt :=
  .switch ⟨1, 0, 3⟩ (.attribute ⟨1, 6, 1⟩ (.name ⟨1, 6, 1⟩ "self") "command") [c]

/-- A case whose pattern captures under three names, on two levels. -/
def nestedCaptures : MatchCase :=
  .mk (.sequence ⟨2, 9, 2⟩
      [.capture ⟨2, 10, 2⟩ (some (.either ⟨2, 10, 2⟩ [.singleton ⟨2, 10, 2⟩ .none,
        .singleton ⟨2, 17, 2⟩ .true])) (some "verb"),
       .mapping ⟨2, 32, 2⟩ [.constant ⟨2, 33, 2⟩ (.integer 1)]
        [.capture ⟨2, 36, 2⟩ none (some "place")] none,
       .star ⟨2, 44, 2⟩ (some "others")])
    none [.simple ⟨3, 8, 3⟩ .pass]

theorem switch_counts_nestedCaptures :
    .stmt false (matching nestedCaptures) ∈ itemsOf [matching nestedCaptures] ∧
      ∀ x ∈ ["verb", "place", "others"],
        x ∈ (methodOutline default "f" .empty [matching nestedCaptures] []).accessedVariables := by
  have hswitch : .stmt false (matching nestedCaptures) ∈ itemsOf [matching nestedCaptures] :=
    mem_itemsOf_of_mem List.mem_cons_self
  have hcaptures := ((switch_counts_captures .ifThen _ _ _).2 default "f" .empty
    [matching nestedCaptures] [] false hswitch nestedCaptures List.mem_cons_self).1
  have hverb : nestedCaptures.pattern.Captures "verb" := ⟨_, .inside (.head _) .self, rfl⟩
  have hplace : nestedCaptures.pattern.Captures "place" :=
    ⟨_, .inside (.tail _ (.head _)) (.inside (.head _) .self), rfl⟩
  have hothers : nestedCaptures.pattern.Captures "others" :=
    ⟨_, .inside (.tail _ (.tail _ (.head _))) .self, rfl⟩
  refine ⟨hswitch, ?_⟩
  simp only [List.forall_mem_cons]
  exact ⟨hcaptures _ hverb, hcaptures _ hplace, hcaptures _ hothers, by simp⟩

/-- A case with a mapping whose rest is named nowhere else. -/
def leftOver : MatchCase :=
  .mk (.mapping ⟨2, 9, 2⟩ [.constant ⟨2, 10, 2⟩ (.integer 1)] [.capture ⟨2, 13, 2⟩ none (some "kind")]
    (some "rest")) none [.simple ⟨3, 8, 3⟩ .pass]

/-- **Not all that a pattern binds counts**: the rest of a mapping is overlooked. -/
theorem switch_overlooks_rests :
    (¬∀ cases : List MatchCase,
        List.Forall₂ (fun c s => ∀ x, c.pattern.Binds x → x ∈ s.names) cases (caseSkeletons cases)) ∧
      ¬∀ (s : Span) (name : String) (params : Parameters) (body : List Stmt) (decorators : List Expr)
        (isElif : Bool) (span : Span) (subject : Expr) (cases : List MatchCase),
        .stmt isElif (.switch span subject cases) ∈ itemsOf body →
          ∀ c ∈ cases, ∀ x, c.pattern.Binds x →
            x ∈ (methodOutline s name params body decorators).accessedVariables := by
  have hrest : leftOver.pattern.Binds "rest" := .inr ⟨_, .self, rfl⟩
  constructor
  · intro hall
    have hcase : "rest" ∈ (Item.case leftOver).names := by
      cases hall [leftOver] with
      | cons h _ => exact h "rest" hrest
    have hnames : (Item.case leftOver).names = ["kind"] := by cbv
    simp [hnames] at hcase
  · intro hall
    have hmem := hall default "f" .empty [matching leftOver] [] false _ _ [leftOver]
      (mem_itemsOf_of_mem List.mem_cons_self) leftOver List.mem_cons_self "rest" hrest
    have hvariables : (methodOutline default "f" .empty [matching leftOver] []).accessedVariables =
        ["self.command", "kind"] := by
      cbv
    simp [hvariables] at hmem

end Python

end HistoryMetrics
