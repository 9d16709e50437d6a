import HistoryMetrics.Outline
import HistoryMetrics.Proofs.Python.Levels
import Mathlib.Data.List.Perm.Basic

/-! # Things and what stands around them

    A walk from the outside in lists a thing before all that stands inside it. Here each thing of such a
    walk comes with the things around it, so that more can be said of its place than that it is met: how
    deep it stands, and inside of which things.

    - `Nesting.inductionOn`: what holds of a thing whenever it holds of what stands inside it
    - `Nesting.placed`, `Nesting.placedAll`: the walks
    - `Nesting.map_snd_placedAll_perm`: they meet what a walk level by level meets
    - `Nesting.IsPath`, `Nesting.mem_placedAll_iff`: what stands around a thing is the way to it
    - `Statement.nesting`, `Statement.map_snd_placedAll`: the walks over statements
-/

namespace HistoryMetrics

namespace Nesting

variable {α : Type} (t : Nesting α)

/-- What holds of a thing whenever it holds of what stands inside it holds of all things. -/
theorem inductionOn {motive : α → Prop} (a : α)
    (step : ∀ a, (∀ b ∈ t.inside a, motive b) → motive a) : motive a :=
  step a fun b _ => inductionOn b step
termination_by t.weight a
decreasing_by exact t.weight_lt_of_mem ‹_›

/-- What stands inside a thing, as seen from around it. -/
def behind (a : α) (p : List α × α) : List α × α := (a :: p.1, p.2)

/-- **A thing and all that stands inside it**, each with what stands around it, the outermost first. -/
def placed (a : α) : List (List α × α) :=
  ([], a) :: ((t.inside a).attach.flatMap fun b => placed b.1).map (behind a)
termination_by t.weight a
decreasing_by exact t.weight_lt_of_mem b.2

/-- **Things and all that stands inside them**, each with what stands around it. -/
def placedAll (as : List α) : List (List α × α) := as.flatMap t.placed

/-- A thing with nothing around it, then what stands inside it with the thing around. -/
theorem placed_eq (a : α) : t.placed a = ([], a) :: (t.placedAll (t.inside a)).map (behind a) := by
  have hinside : ((t.inside a).attach.flatMap fun b => t.placed b.1) = t.placedAll (t.inside a) := by
    rw [placedAll, List.flatMap_def, List.flatMap_def, List.map_attach_eq_pmap, List.pmap_eq_map]
  rw [placed, hinside]

@[simp] theorem placedAll_nil : t.placedAll [] = [] := rfl

@[simp] theorem placedAll_cons (a : α) (as : List α) :
    t.placedAll (a :: as) = t.placed a ++ t.placedAll as := rfl

@[simp] theorem placedAll_append (as bs : List α) :
    t.placedAll (as ++ bs) = t.placedAll as ++ t.placedAll bs := List.flatMap_append

/-- Things with nothing inside them. -/
theorem placedAll_of_bare {as : List α} (h : ∀ a ∈ as, t.inside a = []) :
    t.placedAll as = as.map fun a => ([], a) := by
  induction as with
  | nil => rfl
  | cons a as ih =>
    obtain ⟨ha, has⟩ := List.forall_mem_cons.1 h
    rw [placedAll_cons, ih has, placed_eq, ha]
    rfl

/-- What is seen from around a thing is the same things in the same order. -/
theorem map_snd_behind (a : α) (ps : List (List α × α)) :
    (ps.map (behind a)).map Prod.snd = ps.map Prod.snd := by
  rw [List.map_map]
  rfl

/-- **A walk from the outside in** meets what a walk level by level meets, everything as often. -/
theorem map_snd_placedAll_perm (as : List α) : ((t.placedAll as).map Prod.snd).Perm (t.levels as) := by
  -- walks from several things one after the other, and then level by level
  have hlevels : ∀ as : List α, (t.levels as).Perm (as.flatMap fun a => t.levels [a]) := by
    intro as
    have hgathered : (t.gathered (fun a => [a]) as).Perm
        (as.flatMap fun a => t.gathered (fun a => [a]) [a]) := t.gathered_perm_flatMap as
    simpa only [gathered, List.flatMap_singleton'] using hgathered
  have heach : ∀ a, ((t.placed a).map Prod.snd).Perm (t.levels [a]) := by
    intro a
    induction a using t.inductionOn with
    | step a ih =>
      have hinside : ((t.placedAll (t.inside a)).map Prod.snd).Perm (t.levels (t.inside a)) := by
        rw [placedAll, List.map_flatMap]
        exact (List.Perm.flatMap_left _ ih).trans (hlevels _).symm
      rw [placed_eq, List.map_cons, map_snd_behind, levels_eq, List.flatMap_singleton]
      exact hinside.cons a
  rw [placedAll, List.map_flatMap]
  exact (List.Perm.flatMap_left _ fun a _ => heach a).trans (hlevels as).symm

/-! ## Paths -/

/-- **A path**: it starts at one of some things, and each of its things is directly inside the one
    before. -/
inductive IsPath : List α → List α → Prop where
  | here {as : List α} {a : α} (h : a ∈ as) : IsPath as [a]
  | down {as path : List α} {a : α} (h : a ∈ as) (hpath : IsPath (t.inside a) path) :
      IsPath as (a :: path)

theorem mem_placed_iff {around : List α} {a b : α} :
    (around, b) ∈ t.placed a ↔
      (around = [] ∧ b = a) ∨ ∃ rest, around = a :: rest ∧ (rest, b) ∈ t.placedAll (t.inside a) := by
  rw [placed_eq, List.mem_cons, Prod.mk.injEq]
  refine or_congr Iff.rfl ?_
  constructor
  · intro h
    obtain ⟨p, hp, heq⟩ := List.mem_map.1 h
    obtain ⟨rfl, rfl⟩ := Prod.mk.inj heq
    exact ⟨p.1, rfl, hp⟩
  · rintro ⟨rest, rfl, h⟩
    exact List.mem_map.2 ⟨(rest, b), h, rfl⟩

/-- **What stands around a thing is the way to it.** -/
theorem mem_placedAll_iff {as around : List α} {b : α} :
    (around, b) ∈ t.placedAll as ↔ t.IsPath as (around ++ [b]) := by
  -- by the number of things around
  induction around generalizing as with
  | nil =>
    rw [placedAll, List.mem_flatMap]
    constructor
    · rintro ⟨a, ha, hplaced⟩
      obtain ⟨-, rfl⟩ | ⟨rest, hrest, -⟩ := t.mem_placed_iff.1 hplaced
      · exact .here ha
      · cases hrest
    · intro h
      cases h with
      | here hb => exact ⟨b, hb, t.mem_placed_iff.2 (.inl ⟨rfl, rfl⟩)⟩
      | down _ hpath => cases hpath
  | cons c around ih =>
    rw [placedAll, List.mem_flatMap]
    constructor
    · rintro ⟨a, ha, hplaced⟩
      obtain ⟨hnil, -⟩ | ⟨rest, hrest, hinside⟩ := t.mem_placed_iff.1 hplaced
      · cases hnil
      · obtain ⟨rfl, rfl⟩ := List.cons.inj hrest
        exact .down ha (ih.1 hinside)
    · intro h
      generalize hpath : (c :: around) ++ [b] = path at h
      cases h with
      | here _ => simp at hpath
      | down ha hdown =>
        obtain ⟨rfl, rfl⟩ := List.cons.inj hpath
        exact ⟨c, ha, t.mem_placed_iff.2 (.inr ⟨around, rfl, ih.2 hdown⟩)⟩

/-- A path ends somewhere. -/
theorem IsPath.exists_eq {as path : List α} (h : t.IsPath as path) :
    ∃ around b, path = around ++ [b] := by
  rcases List.eq_nil_or_concat' path with rfl | ⟨around, b, rfl⟩
  · cases h
  · exact ⟨around, b, rfl⟩

end Nesting

/-! ## Statements -/

namespace Statement

theorem sizeOf_lt_of_mem {s c : Statement} (h : c ∈ s.children) : sizeOf c < sizeOf s := by
  cases s with
  | mk kind extent names children =>
    have hless := List.sizeOf_lt_of_mem h
    simp only [Statement.mk.sizeOf_spec, Statement.children] at hless ⊢
    omega

/-- The nesting of statements. -/
def nesting : Nesting Statement := ⟨children, sizeOf, fun _ _ h => sizeOf_lt_of_mem h⟩

theorem walkAll_eq_flatMap (ss : List Statement) : walkAll ss = ss.flatMap walk := by
  induction ss with
  | nil => rfl
  | cons s ss ih => rw [walkAll_cons, List.flatMap_cons, ih]

/-- **The walk over statements** lists them in the order in which they are placed. -/
theorem map_snd_placedAll (ss : List Statement) :
    (nesting.placedAll ss).map Prod.snd = walkAll ss := by
  have heach : ∀ s, (nesting.placed s).map Prod.snd = s.walk := by
    intro s
    induction s using nesting.inductionOn with
    | step s ih =>
      rw [Nesting.placed_eq, List.map_cons, Nesting.map_snd_behind, walk_eq, Nesting.placedAll,
        List.map_flatMap, List.flatMap_congr ih, walkAll_eq_flatMap]
      rfl
  rw [Nesting.placedAll, List.map_flatMap, List.flatMap_congr fun s _ => heach s, walkAll_eq_flatMap]

end Statement

end HistoryMetrics
