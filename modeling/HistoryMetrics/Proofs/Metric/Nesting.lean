import HistoryMetrics.Proofs.Metric.Reference
import HistoryMetrics.Proofs.Surroundings

/-! # How deep a body is nested

    The measure of nesting goes through a body with the level that it has reached and keeps the deepest
    one. What it finds is the most levels on a path from the top of the body to one of its statements. So
    it does not matter in what order statements stand beside each other, or which of them belong to the
    same part of a body; and a statement around a whole body adds its own level to every path.

    - `Statement.mem_chainsOf_iff`: the chains of a body are its paths
    - `Statement.Rearranged`: statements in another order, at any depth
    - `nesting_of_paths`: the measure, and what follows for bodies put together
-/

namespace HistoryMetrics

namespace Statement

/-! ## Paths -/

theorem chainsOf_eq_flatMap (ss : List Statement) : chainsOf ss = ss.flatMap chains := by
  induction ss with
  | nil => rfl
  | cons s ss ih => rw [chainsOf, List.flatMap_cons, ih]

/-- A statement alone, and the chains of what is inside it with the statement in front. -/
theorem chains_eq (s : Statement) :
    s.chains = [s] :: (chainsOf s.children).map fun chain => s :: chain := by
  cases s
  rfl

/-- **A chain is what stands around a statement**, and then the statement. -/
theorem chainsOf_eq_map (ss : List Statement) :
    chainsOf ss = (nesting.placedAll ss).map fun p => p.1 ++ [p.2] := by
  have heach : ∀ s : Statement, s.chains = (nesting.placed s).map fun p => p.1 ++ [p.2] := by
    intro s
    induction s using nesting.inductionOn with
    | step s ih =>
      have hinside : chainsOf s.children =
          (nesting.placedAll s.children).map fun p => p.1 ++ [p.2] := by
        rw [chainsOf_eq_flatMap, Nesting.placedAll, List.map_flatMap]
        exact List.flatMap_congr ih
      rw [chains_eq, hinside, Nesting.placed_eq, List.map_cons, List.map_map, List.map_map]
      rfl
  rw [chainsOf_eq_flatMap, Nesting.placedAll, List.map_flatMap]
  exact List.flatMap_congr fun s _ => heach s

/-- **The chains of statements are the paths from them down.** -/
theorem mem_chainsOf_iff {ss path : List Statement} : path ∈ chainsOf ss ↔ nesting.IsPath ss path := by
  rw [chainsOf_eq_map, List.mem_map]
  constructor
  · rintro ⟨p, hp, rfl⟩
    exact nesting.mem_placedAll_iff.1 hp
  · intro h
    obtain ⟨around, s, rfl⟩ := h.exists_eq
    exact ⟨(around, s), nesting.mem_placedAll_iff.2 h, rfl⟩

/-- There is a path to every statement of a walk, and to no other. -/
theorem mem_walkAll_iff {ss : List Statement} {s : Statement} :
    s ∈ walkAll ss ↔ ∃ around, nesting.IsPath ss (around ++ [s]) := by
  rw [← map_snd_placedAll, List.mem_map]
  constructor
  · rintro ⟨p, hp, rfl⟩
    exact ⟨p.1, nesting.mem_placedAll_iff.1 hp⟩
  · rintro ⟨around, h⟩
    exact ⟨(around, s), nesting.mem_placedAll_iff.2 h, rfl⟩

/-! ## The deepest path -/

variable {cs : List (List Statement)}

theorem levelsOn_le_deepestOn {chain : List Statement} (h : chain ∈ cs) :
    levelsOn chain ≤ deepestOn cs := by
  induction cs with
  | nil => cases h
  | cons c cs ih =>
    have hcons : deepestOn (c :: cs) = max (levelsOn c) (deepestOn cs) := rfl
    rw [hcons]
    rcases List.mem_cons.1 h with rfl | h
    · exact Nat.le_max_left _ _
    · exact (ih h).trans (Nat.le_max_right _ _)

theorem exists_levelsOn_eq (h : cs ≠ []) : ∃ chain ∈ cs, levelsOn chain = deepestOn cs := by
  induction cs with
  | nil => exact absurd rfl h
  | cons c cs ih =>
    have hcons : deepestOn (c :: cs) = max (levelsOn c) (deepestOn cs) := rfl
    by_cases hle : deepestOn cs ≤ levelsOn c
    · exact ⟨c, List.mem_cons_self, by omega⟩
    · have hne : cs ≠ [] := by
        rintro rfl
        exact hle (Nat.zero_le _)
      obtain ⟨chain, hchain, heq⟩ := ih hne
      exact ⟨chain, List.mem_cons_of_mem c hchain, by omega⟩

/-! ## Bodies put together -/

theorem deepestOn_chainsOf_append (ss ts : List Statement) :
    deepestOn (chainsOf (ss ++ ts)) = max (deepestOn (chainsOf ss)) (deepestOn (chainsOf ts)) := by
  simp only [chainsOf_eq_flatMap, List.flatMap_append, deepestOn_append]

/-- The chains through a statement, and those of the statements beside it. -/
theorem deepestOn_chainsOf_cons (s : Statement) (ss : List Statement) :
    deepestOn (chainsOf (s :: ss)) =
      max ((if s.kind.isNesting then 1 else 0) + deepestOn (chainsOf s.children))
        (deepestOn (chainsOf ss)) := by
  rw [chainsOf, deepestOn_append, chains_eq, deepestOn_through]

/-- **Statements in another order**: those beside each other may change places, at any depth. -/
inductive Rearranged : List Statement → List Statement → Prop where
  | nil : Rearranged [] []
  | cons {s t : Statement} {ss ts : List Statement} (hkind : s.kind = t.kind)
      (hextent : s.extent = t.extent) (hnames : s.names = t.names)
      (hchildren : Rearranged s.children t.children) (hrest : Rearranged ss ts) :
      Rearranged (s :: ss) (t :: ts)
  | swap (s t : Statement) (ss : List Statement) : Rearranged (s :: t :: ss) (t :: s :: ss)
  | trans {ss ts us : List Statement} (h : Rearranged ss ts) (h' : Rearranged ts us) :
      Rearranged ss us

theorem Rearranged.refl_of_each {ss : List Statement}
    (h : ∀ s ∈ ss, Rearranged s.children s.children) : Rearranged ss ss := by
  induction ss with
  | nil => exact .nil
  | cons s ss ih =>
    obtain ⟨hs, hss⟩ := List.forall_mem_cons.1 h
    exact .cons rfl rfl rfl hs (ih hss)

@[refl] theorem Rearranged.refl (ss : List Statement) : Rearranged ss ss := by
  have hchildren : ∀ s : Statement, Rearranged s.children s.children := by
    intro s
    induction s using nesting.inductionOn with
    | step s ih => exact .refl_of_each ih
  exact .refl_of_each fun s _ => hchildren s

/-- Statements beside each other in another order. -/
theorem Rearranged.of_perm {ss ts : List Statement} (h : ss.Perm ts) : Rearranged ss ts := by
  induction h with
  | nil => exact .nil
  | cons s _ ih => exact .cons rfl rfl rfl (.refl s.children) ih
  | swap s t ss => exact .swap t s ss
  | trans _ _ ih ih' => exact ih.trans ih'

/-- **The order of statements beside each other does not matter.** -/
theorem Rearranged.deepestOn_eq {ss ts : List Statement} (h : Rearranged ss ts) :
    deepestOn (chainsOf ss) = deepestOn (chainsOf ts) := by
  induction h with
  | nil => rfl
  | cons hkind _ _ _ _ ihchildren ihrest =>
    rw [deepestOn_chainsOf_cons, deepestOn_chainsOf_cons, hkind, ihchildren, ihrest]
  | swap s t ss =>
    simp only [deepestOn_chainsOf_cons]
    omega
  | trans _ _ ih ih' => exact ih.trans ih'

end Statement

open Statement

/-- **Nesting is the most levels on a path** from the top of a body to one of its statements, and zero for
    a body without statements. Of two bodies one after the other it is the larger one. Another order of the
    statements beside each other, at any depth, changes nothing. A single statement of one of the ten kinds
    around a body adds one. -/
theorem nesting_of_paths (m : Method) :
    ((∀ s, s ∈ m.statements ↔ ∃ around, nesting.IsPath m.body (around ++ [s])) ∧
      (∀ path, nesting.IsPath m.body path → levelsOn path ≤ m.nesting) ∧
      (m.body ≠ [] → ∃ path, nesting.IsPath m.body path ∧ levelsOn path = m.nesting) ∧
      (m.body = [] → m.nesting = 0)) ∧
    (∀ more, { m with body := m.body ++ more }.nesting = max m.nesting { m with body := more }.nesting) ∧
    (∀ other, Rearranged m.body other → { m with body := other }.nesting = m.nesting) ∧
    ∀ kind extent names, kind ∈ StatementKind.nestingKinds →
      { m with body := [.mk kind extent names m.body] }.nesting = m.nesting + 1 := by
  have hnesting : ∀ m : Method, m.nesting = deepestOn (chainsOf m.body) := Method.nesting_eq
  simp only [hnesting]
  refine ⟨⟨fun s => mem_walkAll_iff, ?_, ?_, ?_⟩, ?_, ?_, ?_⟩
  · intro path hpath
    exact levelsOn_le_deepestOn (mem_chainsOf_iff.2 hpath)
  · intro hbody
    have hchains : chainsOf m.body ≠ [] := by
      obtain ⟨s, hs⟩ := List.exists_mem_of_ne_nil _ hbody
      exact List.ne_nil_of_mem (mem_chainsOf_iff.2 (.here hs))
    obtain ⟨path, hpath, hdeepest⟩ := exists_levelsOn_eq hchains
    exact ⟨path, mem_chainsOf_iff.1 hpath, hdeepest⟩
  · intro hbody
    rw [hbody]
    rfl
  · exact fun more => deepestOn_chainsOf_append m.body more
  · exact fun other hother => hother.deepestOn_eq.symm
  · intro kind extent names hkind
    have hopens : kind.isNesting = true := by
      rw [StatementKind.isNesting_eq]
      exact decide_eq_true hkind
    rw [deepestOn_chainsOf_cons, Statement.kind, hopens, if_pos rfl, Nat.add_comm]
    exact Nat.max_eq_left (Nat.zero_le _)

/-- A loop with a `try` in it, inside an `if` that goes on with another condition. -/
def ladder : List Statement :=
  let loop := .mk .forEach ⟨3, 6⟩ [] [.mk .tryBlock ⟨4, 6⟩ [] [.mk .simple ⟨5, 5⟩ [] []]]
  [.mk .ifThen ⟨1, 8⟩ [] [.mk .simple ⟨2, 2⟩ [] [], loop],
   .mk .elseIf ⟨7, 8⟩ [] [.mk .simple ⟨8, 8⟩ [] []]]

/-- The same statements, with the parts of the `if` and the statements of its first part exchanged. -/
def turnedLadder : List Statement :=
  let loop := .mk .forEach ⟨3, 6⟩ [] [.mk .tryBlock ⟨4, 6⟩ [] [.mk .simple ⟨5, 5⟩ [] []]]
  [.mk .elseIf ⟨7, 8⟩ [] [.mk .simple ⟨8, 8⟩ [] []],
   .mk .ifThen ⟨1, 8⟩ [] [loop, .mk .simple ⟨2, 2⟩ [] []]]

theorem nesting_of_paths_ladder :
    let m : Method := { (default : Method) with body := ladder }
    (m.body ≠ [] ∧ Rearranged m.body turnedLadder ∧ .withBlock ∈ StatementKind.nestingKinds) ∧
      (m.nesting = 3 ∧ ∃ path, nesting.IsPath m.body path ∧ levelsOn path = m.nesting) ∧
      { m with body := turnedLadder }.nesting = m.nesting ∧
      { m with body := [.mk .withBlock ⟨0, 8⟩ [] m.body] }.nesting = m.nesting + 1 := by
  intro m
  have hbody : m.body ≠ [] := List.cons_ne_nil _ _
  have hturned : Rearranged m.body turnedLadder :=
    (Rearranged.of_perm (.swap _ _ _)).trans
      (.cons rfl rfl rfl (.refl _) (.cons rfl rfl rfl (.of_perm (.swap _ _ _)) .nil))
  have hwith : .withBlock ∈ StatementKind.nestingKinds := by decide
  obtain ⟨⟨-, -, hdeepest, -⟩, -, hother, haround⟩ := nesting_of_paths m
  exact ⟨⟨hbody, hturned, hwith⟩, ⟨rfl, hdeepest hbody⟩, hother turnedLadder hturned,
    haround .withBlock ⟨0, 8⟩ [] hwith⟩

end HistoryMetrics
