import HistoryMetrics.Proofs.Action.Moves

/-! # Loops that end with the first failure

    A loop does a step for each item of a list, one after the other. Once a step has failed the items
    after it are left alone, and the loop fails with what the step has failed with. Loops of this kind
    differ in what they make of the values of their steps, and that does not matter for their failures.

    - `EndsAtFirst`: what makes a loop one of this kind
    - `EndsAtFirst.error_iff`: the item at which such a loop fails
    - `EndsAtFirst.moves`: where the loop leads
-/

namespace HistoryMetrics.Action

variable {S τ α β ε : Type}

/-- **A loop that ends with the first failure.**

    - `nil`: without items there is nothing to do
    - `failed`: when the first step fails, so does the loop
    - `passed`: when the first step returns, the loop goes on, and something is made of the result
-/
structure EndsAtFirst (step : τ → ExceptT ε (StateM S) β) (loop : List τ → ExceptT ε (StateM S) α) :
    Prop where
  nil : ∀ s, ∃ a, loop [] s = (.ok a, s)
  failed : ∀ {x s f s'}, step x s = (.error f, s') → ∀ xs, loop (x :: xs) s = (.error f, s')
  passed : ∀ {x s b s'}, step x s = (.ok b, s') →
    ∃ g : α → α, ∀ xs, loop (x :: xs) s = ((loop xs s').1.map g, (loop xs s').2)

namespace EndsAtFirst

variable {step : τ → ExceptT ε (StateM S) β} {loop : List τ → ExceptT ε (StateM S) α}
  (h : EndsAtFirst step loop)

include h

/-- After a step that returned, the loop fails just when it fails on the other items. -/
theorem cons_error_iff {x : τ} {xs : List τ} {s t s' : S} {b : β} {f : ε}
    (hx : step x s = (.ok b, t)) :
    loop (x :: xs) s = (.error f, s') ↔ loop xs t = (.error f, s') := by
  obtain ⟨g, hg⟩ := h.passed hx
  rw [hg]
  rcases loop xs t with ⟨r, u⟩
  cases r with
  | ok a => exact ⟨nofun, nofun⟩
  | error e => exact Iff.rfl

/-- After a step that returned, the loop returns just when it returns on the other items. -/
theorem cons_ok_iff {x : τ} {xs : List τ} {s t s' : S} {b : β} (hx : step x s = (.ok b, t)) :
    (∃ a, loop (x :: xs) s = (.ok a, s')) ↔ ∃ a, loop xs t = (.ok a, s') := by
  obtain ⟨g, hg⟩ := h.passed hx
  rw [hg]
  rcases loop xs t with ⟨r, u⟩
  cases r with
  | error e =>
    constructor
    · rintro ⟨a, ha⟩
      cases ha
    · rintro ⟨a, ha⟩
      cases ha
  | ok a =>
    constructor
    · rintro ⟨a', ha⟩
      cases ha
      exact ⟨a, rfl⟩
    · rintro ⟨a', ha⟩
      cases ha
      exact ⟨g a, rfl⟩

/-- **Where a loop fails**: the items before have been gone through, and the step for the next one
    fails. -/
theorem error_iff {xs : List τ} {s s' : S} {f : ε} :
    loop xs s = (.error f, s') ↔
      ∃ before x after mid, xs = before ++ x :: after ∧ (∃ a, loop before s = (.ok a, mid)) ∧
        step x mid = (.error f, s') := by
  induction xs generalizing s with
  | nil =>
    obtain ⟨a, ha⟩ := h.nil s
    rw [ha]
    refine ⟨nofun, ?_⟩
    rintro ⟨before, x, after, mid, hxs, -⟩
    exact absurd hxs (by simp)
  | cons y ys ih =>
    rcases hy : step y s with ⟨r, t⟩
    cases r with
    | error e =>
      -- it fails at the first item, and at no other
      rw [h.failed hy]
      obtain ⟨a, ha⟩ := h.nil s
      constructor
      · intro heq
        cases heq
        exact ⟨[], y, ys, s, rfl, ⟨a, ha⟩, hy⟩
      · rintro ⟨before, x, after, mid, hxs, ⟨a', hbefore⟩, hx⟩
        cases before with
        | nil =>
          cases hxs
          rw [ha] at hbefore
          cases hbefore
          rw [hy] at hx
          cases hx
          rfl
        | cons y' before =>
          cases hxs
          rw [h.failed hy] at hbefore
          cases hbefore
    | ok b =>
      rw [h.cons_error_iff hy, ih]
      constructor
      · rintro ⟨before, x, after, mid, rfl, hbefore, hx⟩
        exact ⟨y :: before, x, after, mid, rfl, (h.cons_ok_iff hy).2 hbefore, hx⟩
      · rintro ⟨before, x, after, mid, hxs, hbefore, hx⟩
        cases before with
        | nil =>
          cases hxs
          obtain ⟨a, ha⟩ := h.nil s
          obtain ⟨a', hbefore⟩ := hbefore
          rw [ha] at hbefore
          cases hbefore
          rw [hy] at hx
          cases hx
        | cons y' before =>
          cases hxs
          exact ⟨before, x, after, mid, rfl, (h.cons_ok_iff hy).1 hbefore, hx⟩

/-- A loop leads where its steps lead. -/
theorem moves {R : S → S → Prop} [Std.Refl R] [IsTrans S R] {xs : List τ}
    (hstep : ∀ x ∈ xs, Moves R (step x)) : Moves R (loop xs) := by
  induction xs with
  | nil =>
    intro s
    obtain ⟨a, ha⟩ := h.nil s
    rw [ha]
    exact refl_of R s
  | cons x xs ih =>
    intro s
    rcases hx : step x s with ⟨r, t⟩
    have ht : R s t := (hstep x List.mem_cons_self).of_eq hx
    cases r with
    | error e =>
      rw [h.failed hx]
      exact ht
    | ok b =>
      obtain ⟨g, hg⟩ := h.passed hx
      rw [hg]
      exact trans_of R ht (ih (fun y hy => hstep y (List.mem_cons_of_mem x hy)) t)

end EndsAtFirst

/-! ## Steps for each item -/

theorem forEach_endsAtFirst (step : τ → Action S β) : EndsAtFirst step (forEach step) where
  nil s := ⟨[], rfl⟩
  failed hx xs := by simp only [forEach, hx]
  passed {x s b s'} hx := by
    refine ⟨List.cons b, fun xs => ?_⟩
    simp only [forEach, hx]
    rcases forEach step xs s' with ⟨r, t⟩
    cases r <;> rfl

theorem Moves.forEach {R : S → S → Prop} [Std.Refl R] [IsTrans S R] {step : τ → Action S β}
    (h : ∀ a, Moves R (step a)) (items : List τ) : Moves R (forEach step items) :=
  (forEach_endsAtFirst step).moves fun a _ => h a

end HistoryMetrics.Action
