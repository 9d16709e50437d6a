import HistoryMetrics.Proofs.Action.Loop
import HistoryMetrics.Proofs.Action.Returns

/-! # The course of one run

    A long operation is a chain of steps, and what one run of it does depends on what its steps have
    returned so far. So these lemmas follow one run from one state: a step of the run may be relied on to
    have returned, and the next one starts in the state that it has left.

    - `bind_fst_of_error`, `bind_fst_of_ok`, `forEach_fst_of_error`: the first failure is that of the run
    - `renamed_fst_of_error`, `renamed_fst_of_problem`: it may be told in other words
    - `bind_fst_error_iff`, `renamed_fst_error_iff`, `forEach_fst_error_iff`: all the failures of a run
    - `course_bind`, `course_forEach`, `course_guarded`: where the run leads, step by step
-/

namespace HistoryMetrics.Action

variable {S τ α β ε : Type}

/-! ## The first failure -/

/-- When a step fails, so does all that begins with it. -/
theorem bind_fst_of_error {step : ExceptT ε (StateM S) α} {next : α → ExceptT ε (StateM S) β} {s : S}
    {f : ε} (h : (step s).1 = .error f) : ((step >>= next) s).1 = .error f := by
  rw [bind_apply]
  rcases hstep : step s with ⟨r, s'⟩
  rw [hstep] at h
  subst h
  rfl

theorem bind_of_error {step : ExceptT ε (StateM S) α} {next : α → ExceptT ε (StateM S) β} {s s' : S}
    {f : ε} (h : step s = (.error f, s')) : (step >>= next) s = (.error f, s') := by
  rw [bind_apply, h]

/-- After a step that returned, the run ends as the next one does. -/
theorem bind_fst_of_ok {step : ExceptT ε (StateM S) α} {next : α → ExceptT ε (StateM S) β} {s s' : S}
    {a : α} (h : step s = (.ok a, s')) : ((step >>= next) s).1 = (next a s').1 := by
  rw [bind_apply, h]

theorem map_fst_of_error {step : Action S α} {g : α → β} {s : S} {f : Failure}
    (h : (step s).1 = .error f) : ((g <$> step) s).1 = .error f := by
  rw [map_apply, h]
  rfl

/-- A failure may be told in other words. -/
theorem renamed_fst_of_error {step : Action S α} {s : S} {e : Failure} (f : Problem → Problem)
    (h : (step s).1 = .error e) : (step.renamed f s).1 = .error (renameFailure f e) := by
  unfold renamed
  rcases hstep : step s with ⟨r, s'⟩
  rw [hstep] at h
  subst h
  rfl

theorem renamed_fst_of_problem {step : Action S α} {s : S} {p : Problem} (f : Problem → Problem)
    (h : (step s).1 = .error (.problem p)) : (step.renamed f s).1 = .error (.problem (f p)) :=
  renamed_fst_of_error f h

/-- **When a step for one of the items fails**, after those for the items before it, so does the loop. -/
theorem forEach_fst_of_error {step : τ → Action S β} {before after : List τ} {x : τ} {s t : S}
    {bs : List β} {f : Failure} (hbefore : forEach step before s = (.ok bs, t))
    (hx : (step x t).1 = .error f) : (forEach step (before ++ x :: after) s).1 = .error f := by
  have hfails : forEach step (before ++ x :: after) s = (.error f, (step x t).2) := by
    have hstep : step x t = (.error f, (step x t).2) := Prod.ext hx rfl
    exact (forEach_endsAtFirst step).error_iff.2 ⟨before, x, after, t, rfl, ⟨bs, hbefore⟩, hstep⟩
  rw [hfails]

/-! ## All failures -/

/-- **Two steps fail** as the first one does, or as the second one does after it. -/
theorem bind_fst_error_iff {step : ExceptT ε (StateM S) α} {next : α → ExceptT ε (StateM S) β} {s : S}
    {f : ε} : ((step >>= next) s).1 = .error f ↔
      (step s).1 = .error f ∨ ∃ a s', step s = (.ok a, s') ∧ (next a s').1 = .error f := by
  rw [bind_apply]
  rcases step s with ⟨r, t⟩
  cases r with
  | error e =>
    constructor
    · intro h
      cases h
      exact .inl rfl
    · rintro (h | ⟨_, _, hok, _⟩)
      · cases h
        rfl
      · cases hok
  | ok a =>
    constructor
    · intro h
      exact .inr ⟨a, t, rfl, h⟩
    · rintro (h | ⟨_, _, hok, h⟩)
      · cases h
      · cases hok
        exact h

theorem renamed_fst_error_iff {step : Action S α} {s : S} {g : Problem → Problem} {f : Failure} :
    (step.renamed g s).1 = .error f ↔ ∃ e, (step s).1 = .error e ∧ renameFailure g e = f := by
  constructor
  · intro h
    cases hstep : (step s).1 with
    | error e =>
      rw [renamed_fst_of_error g hstep] at h
      exact ⟨e, rfl, Except.error.inj h⟩
    | ok a =>
      have hrenamed := renamed_ok_iff (f := g).2 (Prod.ext hstep rfl : step s = (.ok a, (step s).2))
      rw [hrenamed] at h
      cases h
  · rintro ⟨e, hstep, rfl⟩
    exact renamed_fst_of_error g hstep

/-- **A loop fails** at one of its items, after those before it. -/
theorem forEach_fst_error_iff {step : τ → Action S β} {xs : List τ} {s : S} {f : Failure} :
    (forEach step xs s).1 = .error f ↔ ∃ before x after bs mid, xs = before ++ x :: after ∧
      forEach step before s = (.ok bs, mid) ∧ (step x mid).1 = .error f := by
  constructor
  · intro h
    have hloop : forEach step xs s = (.error f, (forEach step xs s).2) := Prod.ext h rfl
    obtain ⟨before, x, after, mid, hxs, ⟨bs, hbefore⟩, hx⟩ :=
      (forEach_endsAtFirst step).error_iff.1 hloop
    exact ⟨before, x, after, bs, mid, hxs, hbefore, congrArg Prod.fst hx⟩
  · rintro ⟨before, x, after, bs, mid, rfl, hbefore, hx⟩
    exact forEach_fst_of_error hbefore hx

/-! ## Where a run leads -/

/-- Problems in other words leave the same state. -/
theorem renamed_snd (f : Problem → Problem) (step : Action S α) (s : S) :
    (step.renamed f s).2 = (step s).2 := by
  unfold renamed
  rcases step s with ⟨r, s'⟩
  cases r <;> rfl

section course

variable {R : S → S → Prop} [IsTrans S R] {s : S}

/-- **One step after the other.** -/
theorem course_bind {step : ExceptT ε (StateM S) α} {next : α → ExceptT ε (StateM S) β}
    (h : R s (step s).2) (hnext : ∀ a s', step s = (.ok a, s') → R s' (next a s').2) :
    R s ((step >>= next) s).2 := by
  rw [bind_apply]
  rcases hstep : step s with ⟨r, s'⟩
  rw [hstep] at h
  cases r with
  | error f => exact h
  | ok a => exact trans_of R h (hnext a s' hstep)

/-- **A step for each item**, the ones before it having returned. -/
theorem course_forEach [Std.Refl R] {step : τ → Action S β} {xs : List τ}
    (h : ∀ before x after bs s', xs = before ++ x :: after → forEach step before s = (.ok bs, s') →
      R s' (step x s').2) : R s (forEach step xs s).2 := by
  induction xs generalizing s with
  | nil => exact refl_of R s
  | cons x xs ih =>
    have hx : R s (step x s).2 := h [] x xs [] s rfl rfl
    rcases hstep : step x s with ⟨r, t⟩
    rw [hstep] at hx
    simp only [forEach, hstep]
    cases r with
    | error f => exact hx
    | ok b =>
      have hrest : R t (forEach step xs t).2 := by
        refine ih fun before y after bs s' hxs hbefore => ?_
        refine h (x :: before) y after (b :: bs) s' (by rw [hxs, List.cons_append]) ?_
        exact forEach_cons_ok_iff.2 ⟨b, t, bs, hstep, hbefore, rfl⟩
      rcases hloop : forEach step xs t with ⟨r', t'⟩
      rw [hloop] at hrest
      simp only [hloop]
      cases r' <;> exact trans_of R hx hrest

/-- A step, and the tidying up after it. -/
theorem course_guarded {step : Action S α} {tidy : Failure → Tidying S} (h : R s (step s).2)
    (htidy : ∀ f s', R s' (tidy f s').2) : R s (step.guarded tidy s).2 := by
  rcases hstep : step s with ⟨r, s'⟩
  rw [hstep] at h
  simp only [guarded, hstep]
  cases r with
  | ok a => exact h
  | error f =>
    -- only the wish to stop is not tidied up after
    cases f with
    | interrupt => exact h
    | problem p => exact trans_of R h (htidy (.problem p) s')
    | fault e => exact trans_of R h (htidy (.fault e) s')

end course

end HistoryMetrics.Action
