import HistoryMetrics.Action
import Mathlib.Data.List.Forall2

/-! # Steps that return

    A step made of others returns just when each of them does, one after the other. So what is known of
    a long operation that returned can be taken apart into what is known of its steps.

    - `bind_ok_iff`, `renamed_ok_iff`, `guarded_ok_iff`, `ofResult_ok_iff`, `mapError_ok_iff`: steps made
      of others
    - `guarded_fst`, `guarded_of_error`, `always_fst`: how steps with some tidying up end
    - `except_bind_ok_iff`, `except_map_ok_iff`: results made of others
    - `forEach_cons_ok_iff`: a step for each item
    - `forEach_ok_forall₂`, `exists_step_of_mem`: what the steps for all items return
    - `forEach_ok_trace`: what they record
-/

namespace HistoryMetrics.Action

variable {S τ α β ε : Type}

theorem bind_ok_iff {step : ExceptT ε (StateM S) α} {next : α → ExceptT ε (StateM S) β} {s s'' : S}
    {b : β} : (step >>= next) s = (.ok b, s'') ↔
      ∃ a s', step s = (.ok a, s') ∧ next a s' = (.ok b, s'') := by
  rw [bind_apply]
  rcases step s with ⟨r, t⟩
  cases r with
  | error f =>
    constructor
    · intro h
      cases h
    · rintro ⟨a, s', hstep, -⟩
      cases hstep
  | ok a =>
    constructor
    · intro h
      exact ⟨a, t, rfl, h⟩
    · rintro ⟨a', s', hstep, h⟩
      cases hstep
      exact h

/-- Saying problems in other words changes nothing about a step that returns. -/
theorem renamed_ok_iff {f : Problem → Problem} {step : Action S α} {s s' : S} {a : α} :
    step.renamed f s = (.ok a, s') ↔ step s = (.ok a, s') := by
  unfold renamed
  rcases step s with ⟨r, t⟩
  cases r with
  | error e =>
    constructor
    · intro h
      cases h
    · intro h
      cases h
  | ok a' => exact Iff.rfl

/-- Tidying up changes nothing about how a step ends, as long as nothing goes wrong with it. -/
theorem guarded_fst {step : Action S α} (tidy : Failure → Tidying S) {s : S}
    (h : ∀ f s', step s = (.error f, s') → (tidy f s').1 = none) :
    (step.guarded tidy s).1 = (step s).1 := by
  unfold guarded
  rcases hstep : step s with ⟨r, t⟩
  cases r with
  | ok a => rfl
  | error f =>
    have hnone := h f t hstep
    cases f with
    | interrupt => rfl
    | problem p => simp only [hnone, afterTidying]
    | fault e => simp only [hnone, afterTidying]

/-- A problem is not the wish to stop. -/
theorem problem_ne_interrupt (p : Problem) : Failure.problem p ≠ .interrupt := Failure.noConfusion

/-- A fault of the system is not the wish to stop. -/
theorem fault_ne_interrupt (f : Fault) : Failure.fault f ≠ .interrupt := Failure.noConfusion

/-- **How a step ends after some tidying up**: with what went wrong with that, if something did. -/
theorem guarded_of_error {step : Action S α} {tidy : Failure → Tidying S} {s s' : S} {f : Failure}
    (hstep : step s = (.error f, s')) (hf : f ≠ .interrupt) :
    step.guarded tidy s = (.error ((tidy f s').1.getD f), (tidy f s').2) := by
  have hafter : afterTidying (.error f : Except Failure α) (tidy f s').1 =
      .error ((tidy f s').1.getD f) := by
    cases (tidy f s').1 <;> rfl
  simp only [guarded, hstep]
  cases f with
  | interrupt => exact absurd rfl hf
  | problem p => rw [hafter]
  | fault e => rw [hafter]

/-- After a step that returns there is nothing to tidy up. -/
theorem guarded_ok_iff {step : Action S α} {tidy : Failure → Tidying S} {s s' : S} {a : α} :
    step.guarded tidy s = (.ok a, s') ↔ step s = (.ok a, s') := by
  constructor
  · intro h
    rcases hstep : step s with ⟨r, t⟩
    cases r with
    | ok a' =>
      simp only [guarded, hstep] at h
      exact h
    | error f =>
      by_cases hf : f = .interrupt
      · subst hf
        simp only [guarded, hstep] at h
        cases h
      · rw [guarded_of_error hstep hf] at h
        cases h
  · intro h
    simp only [guarded, h]

/-- Tidying up in any case changes nothing about how a step ends either, as long as nothing goes wrong
    with it. -/
theorem always_fst {step : Action S α} {tidy : Tidying S} {s : S} (h : (tidy (step s).2).1 = none) :
    (step.always tidy s).1 = (step s).1 := by
  show afterTidying (step s).1 (tidy (step s).2).1 = _
  rw [h]
  rfl

theorem ofResult_ok_iff {r : Except Failure α} {s s' : S} {a : α} :
    ofResult r s = (.ok a, s') ↔ r = .ok a ∧ s' = s := by
  unfold ofResult
  rw [Prod.mk.injEq]
  exact and_congr_right fun _ => eq_comm

/-- Saying an error in other words changes nothing about a result without one. -/
theorem mapError_ok_iff {f : ε → Failure} {r : Except ε α} {a : α} :
    r.mapError f = .ok a ↔ r = .ok a := by
  cases r with
  | error e =>
    constructor
    · intro h
      cases h
    · intro h
      cases h
  | ok a' =>
    constructor
    · intro h
      cases h
      rfl
    · intro h
      cases h
      rfl

/-- Results that depend on others. -/
theorem except_bind_ok_iff {r : Except ε α} {next : α → Except ε β} {b : β} :
    r >>= next = .ok b ↔ ∃ a, r = .ok a ∧ next a = .ok b := by
  cases r with
  | error e =>
    constructor
    · intro h
      cases h
    · intro ⟨a, ha, _⟩
      cases ha
  | ok a' =>
    constructor
    · intro h
      exact ⟨a', rfl, h⟩
    · intro ⟨a, ha, h⟩
      cases ha
      exact h

/-- What is made of a result. -/
theorem except_map_ok_iff {r : Except ε α} {f : α → β} {b : β} :
    r.map f = .ok b ↔ ∃ a, r = .ok a ∧ f a = b := by
  cases r with
  | error e =>
    constructor
    · intro h
      cases h
    · intro ⟨a, ha, _⟩
      cases ha
  | ok a' =>
    constructor
    · intro h
      cases h
      exact ⟨a', rfl, rfl⟩
    · intro ⟨a, ha, h⟩
      cases ha
      rw [← h]
      rfl

theorem forEach_nil_ok_iff {step : τ → Action S β} {s s' : S} {bs : List β} :
    forEach step [] s = (.ok bs, s') ↔ bs = [] ∧ s' = s := by
  constructor
  · intro h
    cases h
    exact ⟨rfl, rfl⟩
  · rintro ⟨rfl, rfl⟩
    rfl

theorem forEach_cons_ok_iff {step : τ → Action S β} {x : τ} {xs : List τ} {s s' : S} {bs : List β} :
    forEach step (x :: xs) s = (.ok bs, s') ↔
      ∃ b t bs', step x s = (.ok b, t) ∧ forEach step xs t = (.ok bs', s') ∧ bs = b :: bs' := by
  constructor
  · intro h
    simp only [forEach] at h
    rcases hx : step x s with ⟨r, t⟩
    rw [hx] at h
    cases r with
    | error f => cases h
    | ok b =>
      rcases hxs : forEach step xs t with ⟨r', t'⟩
      simp only [hxs] at h
      cases r' with
      | error f => cases h
      | ok bs' =>
        cases h
        exact ⟨b, t, bs', rfl, hxs, rfl⟩
  · rintro ⟨b, t, bs', hx, hxs, rfl⟩
    simp only [forEach, hx, hxs]

/-- **What the steps for all items return**, one by one. -/
theorem forEach_ok_forall₂ {step : τ → Action S β} {Q : τ → β → Prop} {xs : List τ}
    (hstep : ∀ x ∈ xs, ∀ s b s', step x s = (.ok b, s') → Q x b) {s s' : S} {bs : List β}
    (h : forEach step xs s = (.ok bs, s')) : List.Forall₂ Q xs bs := by
  induction xs generalizing s bs with
  | nil =>
    obtain ⟨rfl, -⟩ := forEach_nil_ok_iff.1 h
    exact .nil
  | cons x xs ih =>
    obtain ⟨b, t, bs', hx, hxs, rfl⟩ := forEach_cons_ok_iff.1 h
    have hQ := hstep x List.mem_cons_self s b t hx
    exact .cons hQ (ih (fun y hy => hstep y (List.mem_cons_of_mem x hy)) hxs)

/-- What a loop returned, its steps returned. -/
theorem exists_step_of_mem {step : τ → Action S β} {xs : List τ} {s s' : S} {bs : List β}
    (h : forEach step xs s = (.ok bs, s')) {b : β} (hb : b ∈ bs) :
    ∃ x ∈ xs, ∃ t t', step x t = (.ok b, t') := by
  induction xs generalizing s bs with
  | nil =>
    obtain ⟨rfl, -⟩ := forEach_nil_ok_iff.1 h
    exact absurd hb List.not_mem_nil
  | cons x xs ih =>
    obtain ⟨b₀, t, bs', hx, hxs, rfl⟩ := forEach_cons_ok_iff.1 h
    rcases List.mem_cons.1 hb with rfl | hb
    · exact ⟨x, List.mem_cons_self, s, t, hx⟩
    · obtain ⟨y, hy, hstep⟩ := ih hxs hb
      exact ⟨y, List.mem_cons_of_mem x hy, hstep⟩

/-- **What the steps for all items record.** When each step that returns adds its own records at the end,
    a loop that returns adds those of all its items, in their order. -/
theorem forEach_ok_trace {E : Type} (trace : S → List E) {step : τ → Action S β}
    {records : τ → List E} {xs : List τ}
    (hstep : ∀ x ∈ xs, ∀ s b s', step x s = (.ok b, s') → trace s' = trace s ++ records x)
    {s s' : S} {bs : List β} (h : forEach step xs s = (.ok bs, s')) :
    trace s' = trace s ++ xs.flatMap records := by
  induction xs generalizing s bs with
  | nil =>
    obtain ⟨-, rfl⟩ := forEach_nil_ok_iff.1 h
    exact (List.append_nil _).symm
  | cons x xs ih =>
    obtain ⟨b, t, bs', hx, hxs, rfl⟩ := forEach_cons_ok_iff.1 h
    have htrace := hstep x List.mem_cons_self s b t hx
    rw [ih (fun y hy => hstep y (List.mem_cons_of_mem x hy)) hxs, htrace, List.append_assoc]
    rfl

end HistoryMetrics.Action
