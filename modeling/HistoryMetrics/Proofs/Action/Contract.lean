import HistoryMetrics.Proofs.Action.Moves

/-! # Contracts of steps

    What a step does is often right only because of what it has found out before. A contract says so:
    from a state with the invariant the step comes to a state with the invariant, what it did between
    them is in a relation, and the value that it returns, if it does, has a property. The step after it
    may rely on this property.

    - `Keeps`: the step keeps to a contract
    - `Keeps.followed`, `Keeps.bind`: the next step relies on the value of the first
    - `Keeps.renamed`, `Keeps.guarded`, `Keeps.forEach`: the other ways in which steps are built
-/

namespace HistoryMetrics.Action

variable {S α β τ ε : Type}

/-- **A step keeps to a contract**: from states with the invariant `I` it leads along `R` to states with
    the invariant, and returns only values with `Q`. -/
def Keeps (I : S → Prop) (R : S → S → Prop) (Q : α → Prop) (step : ExceptT ε (StateM S) α) : Prop :=
  ∀ s, I s → I (step s).2 ∧ R s (step s).2 ∧ ∀ a, (step s).1 = .ok a → Q a

variable {I : S → Prop} {R R' : S → S → Prop} {Q Q' : α → Prop}

theorem Keeps.of_eq {step : ExceptT ε (StateM S) α} (h : Keeps I R Q step) {s s' : S}
    {r : Except ε α} (hI : I s) (hs : step s = (r, s')) : I s' ∧ R s s' ∧ ∀ a, r = .ok a → Q a := by
  have hstep := h s hI
  rwa [hs] at hstep

theorem Keeps.mono {step : ExceptT ε (StateM S) α} (h : Keeps I R Q step)
    (hR : ∀ s s', R s s' → R' s s') (hQ : ∀ a, Q a → Q' a) : Keeps I R' Q' step := by
  intro s hI
  obtain ⟨hI', hs, hvalue⟩ := h s hI
  exact ⟨hI', hR _ _ hs, fun a ha => hQ a (hvalue a ha)⟩

/-- A step that may do more. -/
theorem Keeps.along {step : ExceptT ε (StateM S) α} (h : Keeps I R Q step)
    (hR : ∀ s s', R s s' → R' s s') : Keeps I R' Q step :=
  h.mono hR fun _ => id

/-! ## Steps that leave the state as it is -/

section refl

variable [Std.Refl R]

theorem keeps_pure {a : α} (h : Q a) : Keeps I R Q (pure a : ExceptT ε (StateM S) α) := by
  refine fun s hI => ⟨hI, refl_of R s, fun a' ha => ?_⟩
  cases ha
  exact h

theorem keeps_fail (f : Failure) : Keeps I R Q (fail f : Action S α) :=
  fun s hI => ⟨hI, refl_of R s, fun _ ha => by cases ha⟩

theorem keeps_ofResult {r : Except Failure α} (h : ∀ a, r = .ok a → Q a) :
    Keeps I R Q (ofResult r : Action S α) :=
  fun s hI => ⟨hI, refl_of R s, h⟩

theorem keeps_read {f : S → α} (h : ∀ s, I s → Q (f s)) : Keeps I R Q (read f) := by
  refine fun s hI => ⟨hI, refl_of R s, fun a ha => ?_⟩
  cases ha
  exact h s hI

end refl

theorem keeps_update {f : S → S} (hI : ∀ s, I s → I (f s)) (hR : ∀ s, R s (f s)) :
    Keeps I R (fun _ => True) (update f) :=
  fun s h => ⟨hI s h, hR s, fun _ _ => trivial⟩

/-! ## Steps made of others -/

theorem Keeps.renamed {step : Action S α} (h : Keeps I R Q step) (f : Problem → Problem) :
    Keeps I R Q (step.renamed f) := by
  intro s hI
  rcases hstep : step s with ⟨r, s'⟩
  obtain ⟨hI', hs, hvalue⟩ := h.of_eq hI hstep
  simp only [Action.renamed, hstep]
  cases r with
  | ok a => exact ⟨hI', hs, hvalue⟩
  | error e => exact ⟨hI', hs, fun a ha => by cases ha⟩

theorem Keeps.map {step : Action S α} (h : Keeps I R Q step) {f : α → β} {Q' : β → Prop}
    (hf : ∀ a, Q a → Q' (f a)) : Keeps I R Q' (f <$> step) := by
  intro s hI
  rcases hstep : step s with ⟨r, s'⟩
  obtain ⟨hI', hs, hvalue⟩ := h.of_eq hI hstep
  rw [map_apply, hstep]
  refine ⟨hI', hs, fun b hb => ?_⟩
  cases r with
  | ok a =>
    cases hb
    exact hf a (hvalue a rfl)
  | error e => cases hb

/-- **The next step relies on what the value of the first one is.** What it does may be of another kind,
    if it takes nothing away from what the first one did. -/
theorem Keeps.followed {step : ExceptT ε (StateM S) α} {next : α → ExceptT ε (StateM S) β}
    {Q' : β → Prop} (hR : ∀ s s' s'', R s s' → R' s' s'' → R s s'') (h : Keeps I R Q step)
    (hnext : ∀ a, Q a → Keeps I R' Q' (next a)) : Keeps I R Q' (step >>= next) := by
  intro s hI
  rcases hstep : step s with ⟨r, s'⟩
  obtain ⟨hI', hs, hvalue⟩ := h.of_eq hI hstep
  rw [bind_apply, hstep]
  cases r with
  | error f => exact ⟨hI', hs, fun _ ha => by cases ha⟩
  | ok a =>
    obtain ⟨hI'', hs', hvalue'⟩ := hnext a (hvalue a rfl) s' hI'
    exact ⟨hI'', hR _ _ _ hs hs', hvalue'⟩

/-- Tidying up takes nothing away either. -/
theorem Keeps.tidied {step : Action S α} (hR : ∀ s s' s'', R s s' → R' s' s'' → R s s'')
    (h : Keeps I R Q step) {tidy : Failure → Tidying S}
    (htidy : ∀ f s, I s → I (tidy f s).2 ∧ R' s (tidy f s).2) :
    Keeps I R Q (step.guarded tidy) := by
  intro s hI
  rcases hstep : step s with ⟨r, s'⟩
  obtain ⟨hI', hs, hvalue⟩ := h.of_eq hI hstep
  have htidied : ∀ f : Failure, I (tidy f s').2 ∧ R s (tidy f s').2 ∧
      ∀ a, afterTidying (.error f) (tidy f s').1 = .ok a → Q a := by
    intro f
    obtain ⟨hI'', hs'⟩ := htidy f s' hI'
    refine ⟨hI'', hR _ _ _ hs hs', fun a ha => ?_⟩
    -- whatever goes wrong while tidying up, no value is returned
    cases hmishap : (tidy f s').1 <;> rw [hmishap] at ha <;> cases ha
  simp only [Action.guarded, hstep]
  cases r with
  | ok a => exact ⟨hI', hs, hvalue⟩
  | error f =>
    cases f with
    | interrupt => exact ⟨hI', hs, fun _ ha => by cases ha⟩
    | problem p => exact htidied _
    | fault e => exact htidied _

section trans

variable [IsTrans S R]

theorem Keeps.bind {step : ExceptT ε (StateM S) α} {next : α → ExceptT ε (StateM S) β}
    {Q' : β → Prop} (h : Keeps I R Q step) (hnext : ∀ a, Q a → Keeps I R Q' (next a)) :
    Keeps I R Q' (step >>= next) := by
  have hR : ∀ s s' s'', R s s' → R s' s'' → R s s'' := fun _ _ _ => trans_of R
  exact h.followed hR hnext

theorem Keeps.guarded {step : Action S α} (h : Keeps I R Q step) {tidy : Failure → Tidying S}
    (htidy : ∀ f s, I s → I (tidy f s).2 ∧ R s (tidy f s).2) : Keeps I R Q (step.guarded tidy) := by
  have hR : ∀ s s' s'', R s s' → R s' s'' → R s s'' := fun _ _ _ => trans_of R
  exact h.tidied hR htidy

/-- **A step for each item of a list**, all of which the step can rely on. -/
theorem Keeps.forEach [Std.Refl R] {step : τ → Action S β} {items : List τ}
    (h : ∀ a ∈ items, Keeps I R (fun _ => True) (step a)) :
    Keeps I R (fun _ => True) (forEach step items) := by
  induction items with
  | nil => exact fun s hI => ⟨hI, refl_of R s, fun _ _ => trivial⟩
  | cons a rest ih =>
    intro s hI
    simp only [Action.forEach]
    rcases hstep : step a s with ⟨r, s'⟩
    obtain ⟨hI', hs, -⟩ := (h a List.mem_cons_self).of_eq hI hstep
    cases r with
    | error f => exact ⟨hI', hs, fun _ _ => trivial⟩
    | ok b =>
      have hrest := ih fun c hc => h c (List.mem_cons_of_mem a hc)
      rcases hloop : Action.forEach step rest s' with ⟨r', s''⟩
      obtain ⟨hI'', hs', -⟩ := hrest.of_eq hI' hloop
      simp only [hloop]
      cases r' <;> exact ⟨hI'', trans_of R hs hs', fun _ _ => trivial⟩

end trans

end HistoryMetrics.Action
