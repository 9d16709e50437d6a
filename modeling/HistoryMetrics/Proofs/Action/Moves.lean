import HistoryMetrics.World
import Mathlib.Order.Defs.Unbundled

/-! # Where a step leads

    A step may fail, and what it did before it failed stays done. So what a step leaves alone is said
    of the state after it, however it ends: `Moves R step` says that this state is always in relation
    `R` to the state before.

    - `Moves.bind`: steps one after the other
    - `Moves.guarded`, `Moves.always`: steps with some tidying up
    - `moves_onScene`: steps that see only the scene

    The lemmas follow the ways in which steps are built, so that a fact about a long operation comes
    down to one about the few steps that touch the world.
-/

namespace HistoryMetrics.Action

variable {S α β ε : Type} {R : S → S → Prop}

/-- **Whatever comes of the step, the state after it is in relation `R` to the state before.** What
    the step may fail with does not matter. -/
def Moves (R : S → S → Prop) (step : ExceptT ε (StateM S) α) : Prop := ∀ s, R s (step s).2

theorem Moves.of_eq {step : ExceptT ε (StateM S) α} (h : Moves R step) {s s' : S}
    {r : Except ε α} (hs : step s = (r, s')) : R s s' := by
  have hR := h s
  rwa [hs] at hR

theorem Moves.mono {Q : S → S → Prop} {step : ExceptT ε (StateM S) α} (h : Moves R step)
    (hRQ : ∀ s s', R s s' → Q s s') : Moves Q step :=
  fun s => hRQ s _ (h s)

theorem moves_update {f : S → S} (h : ∀ s, R s (f s)) : Moves R (update f) := h

/-! ## Steps that leave the state as it is -/

section refl

variable [Std.Refl R]

theorem moves_pure (a : α) : Moves R (pure a : ExceptT ε (StateM S) α) := fun s => refl_of R s

theorem moves_fail (f : Failure) : Moves R (fail f : Action S α) := fun s => refl_of R s

theorem moves_ofResult (r : Except Failure α) : Moves R (ofResult r : Action S α) :=
  fun s => refl_of R s

end refl

/-! ## Steps made of others -/

theorem map_apply (f : α → β) (step : Action S α) (s : S) :
    (f <$> step) s = ((step s).1.map f, (step s).2) := by
  show (ExceptT.map f step : Action S β) s = _
  simp only [ExceptT.map, ExceptT.mk, bind, StateT.bind]
  rcases step s with ⟨r, s'⟩
  cases r <;> rfl

theorem Moves.map {step : Action S α} (h : Moves R step) (f : α → β) : Moves R (f <$> step) := by
  intro s
  rw [map_apply]
  exact h s

theorem Moves.renamed {step : Action S α} (h : Moves R step) (f : Problem → Problem) :
    Moves R (step.renamed f) := by
  intro s
  rcases hstep : step s with ⟨r, s'⟩
  have hs : R s s' := h.of_eq hstep
  cases r <;> simpa only [Action.renamed, hstep] using hs

section trans

variable [IsTrans S R]

theorem Moves.bind {step : ExceptT ε (StateM S) α} {next : α → ExceptT ε (StateM S) β}
    (h : Moves R step) (hnext : ∀ a, Moves R (next a)) : Moves R (step >>= next) := by
  intro s
  rcases hstep : step s with ⟨r, s'⟩
  have hs : R s s' := h.of_eq hstep
  rw [bind_apply, hstep]
  cases r with
  | ok a => exact trans_of R hs (hnext a s')
  | error f => exact hs

theorem Moves.guarded {step : Action S α} (h : Moves R step) {tidy : Failure → Tidying S}
    (htidy : ∀ f s, R s (tidy f s).2) : Moves R (step.guarded tidy) := by
  intro s
  rcases hstep : step s with ⟨r, s'⟩
  have hs : R s s' := h.of_eq hstep
  simp only [Action.guarded, hstep]
  -- only a failure that is no wish to stop is tidied up after
  match r with
  | .ok _ => exact hs
  | .error .interrupt => exact hs
  | .error (.problem p) => exact trans_of R hs (htidy (.problem p) s')
  | .error (.fault e) => exact trans_of R hs (htidy (.fault e) s')

theorem Moves.always {step : Action S α} (h : Moves R step) {tidy : Tidying S}
    (htidy : ∀ s, R s (tidy s).2) : Moves R (step.always tidy) :=
  fun s => trans_of R (h s) (htidy _)

end trans

/-! ## Steps on the scene -/

theorem moves_onScene {σ : Type} {R : World σ → World σ → Prop}
    (h : ∀ (w : World σ) (s : Scene σ), R w { w with toScene := s })
    (step : Action (Scene σ) α) : Moves R (World.onScene step) :=
  fun w => h w (step w.toScene).2

theorem moves_log {σ : Type} {R : World σ → World σ → Prop}
    (h : ∀ (w : World σ) (s : Scene σ), R w { w with toScene := s })
    (level : Level) (logger message : String) : Moves R (World.log level logger message) :=
  fun w => h w _

end HistoryMetrics.Action
