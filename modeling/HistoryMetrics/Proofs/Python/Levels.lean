import HistoryMetrics.Python.Node

/-! # Things inside things, level by level

    A walk level by level lists some things, then what stands directly inside them, then what stands
    inside that. It ends because what is inside a thing is lighter than the thing. Which things it
    meets, and how often, does not depend on the order in which a walk goes down.

    - `Nesting`: what stands directly inside each thing
    - `Nesting.levels`, `Nesting.levels_eq`: the walk
    - `Nesting.levels_append_perm`: two walks side by side meet the things of both
    - `Nesting.Within`, `Nesting.mem_levels_iff`: what a walk meets is what stands somewhere inside
    - `Nesting.gathered`: what the things of a walk bring along
    - `Node.nesting`, `Node.levels_eq_levels`: the nodes of expressions and patterns
-/

namespace HistoryMetrics

/-- **A nesting**: what stands directly inside each thing. It never goes down for ever, because what is
    inside weighs less. -/
structure Nesting (α : Type) where
  inside : α → List α
  exists_weight : ∃ weight : α → Nat, ∀ a, ∀ b ∈ inside a, weight b < weight a

namespace Nesting

variable {α β : Type} (t : Nesting α)

/-! ## Weights -/

/-- The weight of a thing. -/
noncomputable def weight : α → Nat := t.exists_weight.choose

theorem weight_lt_of_mem {a b : α} (h : b ∈ t.inside a) : t.weight b < t.weight a :=
  t.exists_weight.choose_spec a b h

/-- One more than the weight of the heaviest of some things. -/
noncomputable def height (as : List α) : Nat := (as.map fun a => t.weight a + 1).foldr max 0

theorem height_cons (a : α) (as : List α) :
    t.height (a :: as) = max (t.weight a + 1) (t.height as) := rfl

theorem weight_lt_height {a : α} {as : List α} (h : a ∈ as) : t.weight a < t.height as := by
  induction as with
  | nil => cases h
  | cons b as ih =>
    rw [height_cons]
    cases h with
    | head => omega
    | tail _ h =>
      have := ih h
      omega

theorem height_le {as : List α} {k : Nat} (h : ∀ a ∈ as, t.weight a < k) : t.height as ≤ k := by
  induction as with
  | nil => exact Nat.zero_le k
  | cons b as ih =>
    have hb := h b List.mem_cons_self
    have has := ih fun a ha => h a (List.mem_cons_of_mem b ha)
    rw [height_cons]
    omega

/-- **Going one level down makes things lighter**, unless there are none. -/
theorem height_flatMap_lt {as : List α} (h : as ≠ []) :
    t.height (as.flatMap t.inside) < t.height as := by
  obtain ⟨a, ha⟩ := List.exists_mem_of_ne_nil as h
  have hpos : 0 < t.height as := Nat.lt_of_le_of_lt (Nat.zero_le _) (t.weight_lt_height ha)
  have hle : t.height (as.flatMap t.inside) ≤ t.height as - 1 := by
    apply t.height_le
    intro c hc
    obtain ⟨b, hb, hcb⟩ := List.mem_flatMap.1 hc
    have hless := t.weight_lt_of_mem hcb
    have hbound := t.weight_lt_height hb
    omega
  omega

/-! ## Levels -/

/-- **Things and all that stands inside them**, level by level. -/
def levels (as : List α) : List α :=
  match _h : as with
  | [] => []
  | b :: bs => (b :: bs) ++ levels ((b :: bs).flatMap t.inside)
termination_by t.height as
decreasing_by
  subst _h
  exact t.height_flatMap_lt (by simp)

@[simp] theorem levels_nil : t.levels [] = [] := by
  rw [levels]

theorem levels_cons (a : α) (as : List α) :
    t.levels (a :: as) = a :: (as ++ t.levels ((a :: as).flatMap t.inside)) := by
  rw [levels, List.cons_append]

theorem levels_eq (as : List α) : t.levels as = as ++ t.levels (as.flatMap t.inside) := by
  cases as with
  | nil => simp
  | cons a as => exact t.levels_cons a as

/-- What holds of no things, and of some things when it holds of the level below, holds of all. -/
theorem levels_induction {motive : List α → Prop} (nil : motive [])
    (step : ∀ as, as ≠ [] → motive (as.flatMap t.inside) → motive as) (as : List α) :
    motive as := by
  by_cases h : as = []
  · rw [h]
    exact nil
  · exact step as h (levels_induction nil step (as.flatMap t.inside))
termination_by t.height as
decreasing_by exact t.height_flatMap_lt h

/-- A walk that lists some things and then what stands inside them is the walk by levels. -/
theorem levels_unique {walk : List α → List α} (hnil : walk [] = [])
    (hstep : ∀ as, walk as = as ++ walk (as.flatMap t.inside)) (as : List α) :
    walk as = t.levels as := by
  induction as using t.levels_induction with
  | nil => rw [hnil, levels_nil]
  | step as _ ih => rw [hstep, ih, ← levels_eq]

/-- Things of another kind with the same nesting have the same levels. -/
theorem levels_map {u : Nesting β} (f : α → β) (h : ∀ a, u.inside (f a) = (t.inside a).map f)
    (as : List α) : u.levels (as.map f) = (t.levels as).map f := by
  induction as using t.levels_induction with
  | nil => simp
  | step as _ ih =>
    have hbelow : (as.map f).flatMap u.inside = (as.flatMap t.inside).map f := by
      simp only [List.flatMap_map, List.map_flatMap, h]
    rw [levels_eq, hbelow, ih, t.levels_eq as, List.map_append]

/-- **Two walks side by side** meet the things of both. -/
theorem levels_append_perm (as bs : List α) :
    (t.levels (as ++ bs)).Perm (t.levels as ++ t.levels bs) := by
  -- by the height of both lists, which gets less from level to level
  generalize hk : t.height (as ++ bs) = k
  induction k using Nat.strongRecOn generalizing as bs with
  | ind k ih =>
    subst hk
    by_cases hempty : as ++ bs = []
    · obtain ⟨rfl, rfl⟩ := List.append_eq_nil_iff.1 hempty
      simp
    · have hless := t.height_flatMap_lt hempty
      rw [List.flatMap_append] at hless
      have hbelow := ih _ hless (as.flatMap t.inside) (bs.flatMap t.inside) rfl
      rw [t.levels_eq (as ++ bs), t.levels_eq as, t.levels_eq bs, List.flatMap_append]
      refine (hbelow.append_left (as ++ bs)).trans ?_
      rw [List.append_assoc, List.append_assoc]
      refine List.Perm.append_left as ?_
      rw [← List.append_assoc, ← List.append_assoc]
      exact List.perm_append_comm.append_right _

/-! ## Somewhere inside -/

/-- **Is `b` the thing, or does it stand somewhere inside it?** -/
inductive Within (b : α) : α → Prop where
  | self : Within b b
  | inside {a c : α} (hc : c ∈ t.inside a) (h : Within b c) : Within b a

/-- **A walk meets** what stands somewhere inside the things it starts from. -/
theorem mem_levels_iff {b : α} {as : List α} : b ∈ t.levels as ↔ ∃ a ∈ as, t.Within b a := by
  induction as using t.levels_induction with
  | nil => simp
  | step as _ ih =>
    rw [levels_eq, List.mem_append, ih]
    constructor
    · rintro (hb | ⟨c, hc, hwithin⟩)
      · exact ⟨b, hb, .self⟩
      · obtain ⟨a, ha, hca⟩ := List.mem_flatMap.1 hc
        exact ⟨a, ha, .inside hca hwithin⟩
    · rintro ⟨a, ha, hwithin⟩
      cases hwithin with
      | self => exact .inl ha
      | inside hc hwithin => exact .inr ⟨_, List.mem_flatMap.2 ⟨a, ha, hc⟩, hwithin⟩

/-! ## What things bring along -/

/-- **What the things of a walk bring along**, in the order of the walk. -/
def gathered (own : α → List β) (as : List α) : List β := (t.levels as).flatMap own

variable {own : α → List β}

@[simp] theorem gathered_nil : t.gathered own [] = [] := by
  simp [gathered]

theorem gathered_singleton (a : α) :
    t.gathered own [a] = own a ++ t.gathered own (t.inside a) := by
  rw [gathered, t.levels_eq [a], List.flatMap_append, List.flatMap_singleton, List.flatMap_singleton,
    gathered]

theorem gathered_append_perm (as bs : List α) :
    (t.gathered own (as ++ bs)).Perm (t.gathered own as ++ t.gathered own bs) := by
  have hperm := (t.levels_append_perm as bs).flatMap_right own
  rw [List.flatMap_append] at hperm
  exact hperm

/-- Walks from several things one after the other bring along what one walk from all does. -/
theorem gathered_perm_flatMap (as : List α) :
    (t.gathered own as).Perm (as.flatMap fun a => t.gathered own [a]) := by
  induction as with
  | nil => simp
  | cons a as ih =>
    rw [List.flatMap_cons]
    exact (t.gathered_append_perm [a] as).trans (ih.append_left _)

end Nesting

/-! ## Nodes -/

namespace Python.Node

/-- The nesting of nodes. -/
def nesting : Nesting Node := ⟨children, weight, fun _ _ h => weight_lt_of_mem h⟩

theorem levels_eq (ns : List Node) : levels ns = ns ++ levels (ns.flatMap children) := by
  cases ns with
  | nil => simp [levels]
  | cons n ns => rw [levels]

/-- The levels of nodes are those of their nesting. -/
theorem levels_eq_levels (ns : List Node) : levels ns = nesting.levels ns :=
  nesting.levels_unique (by simp [levels]) levels_eq ns

/-- The levels of two forests side by side hold the nodes of both. -/
theorem levels_append_perm (ms ns : List Node) :
    (levels (ms ++ ns)).Perm (levels ms ++ levels ns) := by
  simp only [levels_eq_levels]
  exact nesting.levels_append_perm ms ns

end Python.Node

end HistoryMetrics
