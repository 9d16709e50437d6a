import HistoryMetrics.Action

/-! # Two steps side by side

    Two steps that are run from states in some relation agree when they end in the same way: both
    return, with values in some relation, or both fail with the same failure, and the states after them
    are in the relation again. So what one of them does beyond the other cannot be told from how they
    end.

    - `SameEnd`: two results that are the same but for their values
    - `Agree`: two steps that agree
    - `Agree.bind`: steps one after the other
    - `Agree.returning`: what is known of the value of the first step
    - `Agree.guarded`, `Agree.always`, `Agree.forEach`: the other ways in which steps are built
-/

namespace HistoryMetrics.Action

variable {S α β γ δ ε : Type}

/-! ## Results -/

/-- **Two results are the same but for their values**, which are in relation `Q`. -/
inductive SameEnd (Q : α → β → Prop) : Except ε α → Except ε β → Prop where
  | ok {a : α} {b : β} : Q a b → SameEnd Q (.ok a) (.ok b)
  | error (f : ε) : SameEnd Q (.error f) (.error f)

theorem SameEnd.refl (r : Except ε α) : SameEnd Eq r r := by
  cases r with
  | ok a => exact .ok rfl
  | error f => exact .error f

theorem SameEnd.eq {r r' : Except ε α} (h : SameEnd Eq r r') : r = r' := by
  cases h with
  | ok hab => rw [hab]
  | error f => rfl

/-- The four ways in which two results can be met in a proof come down to two. -/
theorem SameEnd.cases {Q : α → β → Prop} {r : Except ε α} {r' : Except ε β} (h : SameEnd Q r r') :
    (∃ a b, r = .ok a ∧ r' = .ok b ∧ Q a b) ∨ ∃ f, r = .error f ∧ r' = .error f := by
  cases h with
  | ok hab => exact .inl ⟨_, _, rfl, rfl, hab⟩
  | error f => exact .inr ⟨f, rfl, rfl⟩

/-- What is made of the values of two results. -/
theorem SameEnd.map {Q : α → β → Prop} {Q' : γ → δ → Prop} {r : Except ε α} {r' : Except ε β}
    (h : SameEnd Q r r') {f : α → γ} {g : β → δ}
    (hfg : ∀ a b, r = .ok a → r' = .ok b → Q a b → Q' (f a) (g b)) :
    SameEnd Q' (r.map f) (r'.map g) := by
  cases h with
  | ok hab => exact .ok (hfg _ _ rfl rfl hab)
  | error f => exact .error f

/-! ## Steps -/

/-- **Two steps agree**: from states in relation `P` they end in the same way, in states that are in
    relation `P` again. -/
def Agree (P : S → S → Prop) (Q : α → β → Prop) (step : ExceptT ε (StateM S) α)
    (step' : ExceptT ε (StateM S) β) : Prop :=
  ∀ s t, P s t → SameEnd Q (step s).1 (step' t).1 ∧ P (step s).2 (step' t).2

variable {P : S → S → Prop} {Q : α → β → Prop} {Q' : γ → δ → Prop}

/-- Either both steps return, or both fail in the same way. -/
theorem Agree.cases {step : ExceptT ε (StateM S) α} {step' : ExceptT ε (StateM S) β}
    (h : Agree P Q step step') {s t : S} (hst : P s t) :
    (∃ a b s' t', step s = (.ok a, s') ∧ step' t = (.ok b, t') ∧ Q a b ∧ P s' t') ∨
      ∃ f s' t', step s = (.error f, s') ∧ step' t = (.error f, t') ∧ P s' t' := by
  obtain ⟨hend, hP⟩ := h s t hst
  rcases hs : step s with ⟨r, s'⟩
  rcases ht : step' t with ⟨r', t'⟩
  rw [hs, ht] at hend hP
  rcases hend.cases with ⟨a, b, rfl, rfl, hab⟩ | ⟨f, rfl, rfl⟩
  · exact .inl ⟨a, b, s', t', rfl, rfl, hab, hP⟩
  · exact .inr ⟨f, s', t', rfl, rfl, hP⟩

theorem agree_pure {a : α} {b : β} (h : Q a b) :
    Agree P Q (pure a : ExceptT ε (StateM S) α) (pure b) :=
  fun _ _ hst => ⟨.ok h, hst⟩

theorem agree_fail (f : Failure) : Agree P Q (fail f : Action S α) (fail f) :=
  fun _ _ hst => ⟨.error f, hst⟩

theorem agree_ofResult (r : Except Failure α) : Agree P Eq (ofResult r : Action S α) (ofResult r) :=
  fun _ _ hst => ⟨.refl r, hst⟩

theorem agree_update {f g : S → S} (h : ∀ s t, P s t → P (f s) (g t)) :
    Agree P Eq (update f) (update g) :=
  fun s t hst => ⟨.ok rfl, h s t hst⟩

theorem agree_read {f : S → α} {g : S → β} (h : ∀ s t, P s t → Q (f s) (g t)) :
    Agree P Q (read f) (read g) :=
  fun s t hst => ⟨.ok (h s t hst), hst⟩

/-! ## Steps made of others -/

theorem Agree.bind {step : ExceptT ε (StateM S) α} {step' : ExceptT ε (StateM S) β}
    {next : α → ExceptT ε (StateM S) γ} {next' : β → ExceptT ε (StateM S) δ}
    (h : Agree P Q step step') (hnext : ∀ a b, Q a b → Agree P Q' (next a) (next' b)) :
    Agree P Q' (step >>= next) (step' >>= next') := by
  intro s t hst
  rw [bind_apply, bind_apply]
  rcases h.cases hst with ⟨a, b, s', t', hs, ht, hab, hP⟩ | ⟨f, s', t', hs, ht, hP⟩
  · rw [hs, ht]
    exact hnext a b hab s' t' hP
  · rw [hs, ht]
    exact ⟨.error f, hP⟩

/-- The same step twice, and then steps that agree. -/
theorem Agree.bind_eq {step step' : ExceptT ε (StateM S) α} {next : α → ExceptT ε (StateM S) γ}
    {next' : α → ExceptT ε (StateM S) δ} (h : Agree P Eq step step')
    (hnext : ∀ a, Agree P Q' (next a) (next' a)) : Agree P Q' (step >>= next) (step' >>= next') := by
  refine h.bind fun a b hab => ?_
  rw [← hab]
  exact hnext a

/-- What is known of the value that the first step returns is known of both. -/
theorem Agree.returning {step step' : ExceptT ε (StateM S) α} {R : α → Prop} (h : Agree P Eq step step')
    (hreturns : ∀ {s t a s'}, P s t → step s = (.ok a, s') → R a) :
    Agree P (fun a b => b = a ∧ R a) step step' := by
  intro s t hst
  rcases h.cases hst with ⟨a, b, s', t', hs, ht, rfl, hP⟩ | ⟨f, s', t', hs, ht, hP⟩
  · rw [hs, ht]
    exact ⟨.ok ⟨rfl, hreturns hst hs⟩, hP⟩
  · rw [hs, ht]
    exact ⟨.error f, hP⟩

theorem Agree.renamed {step : Action S α} {step' : Action S β} (h : Agree P Q step step')
    (f : Problem → Problem) : Agree P Q (step.renamed f) (step'.renamed f) := by
  intro s t hst
  rcases h.cases hst with ⟨a, b, s', t', hs, ht, hab, hP⟩ | ⟨e, s', t', hs, ht, hP⟩
  · simp only [Action.renamed, hs, ht]
    exact ⟨.ok hab, hP⟩
  · simp only [Action.renamed, hs, ht]
    exact ⟨.error _, hP⟩

/-- **Tidying up agrees**: the same goes wrong with it. -/
def TidiesAlike (P : S → S → Prop) (tidy : Tidying S) : Prop :=
  ∀ s t, P s t → (tidy s).1 = (tidy t).1 ∧ P (tidy s).2 (tidy t).2

theorem SameEnd.afterTidying {r : Except Failure α} {r' : Except Failure β} (h : SameEnd Q r r')
    (mishap : Option Failure) : SameEnd Q (afterTidying r mishap) (afterTidying r' mishap) := by
  cases mishap with
  | none => exact h
  | some f => exact .error f

theorem Agree.guarded {step : Action S α} {step' : Action S β} (h : Agree P Q step step')
    {tidy : Failure → Tidying S} (htidy : ∀ f, TidiesAlike P (tidy f)) :
    Agree P Q (step.guarded tidy) (step'.guarded tidy) := by
  intro s t hst
  rcases h.cases hst with ⟨a, b, s', t', hs, ht, hab, hP⟩ | ⟨f, s', t', hs, ht, hP⟩
  · simp only [Action.guarded, hs, ht]
    exact ⟨.ok hab, hP⟩
  · simp only [Action.guarded, hs, ht]
    have htidied : SameEnd Q (Action.afterTidying (.error f) (tidy f s').1)
        (Action.afterTidying (.error f) (tidy f t').1) ∧ P (tidy f s').2 (tidy f t').2 := by
      obtain ⟨hmishap, hP'⟩ := htidy f s' t' hP
      rw [hmishap]
      exact ⟨SameEnd.afterTidying (.error f) _, hP'⟩
    cases f with
    | interrupt => exact ⟨.error _, hP⟩
    | problem p => exact htidied
    | fault e => exact htidied

theorem Agree.always {step : Action S α} {step' : Action S β} (h : Agree P Q step step')
    {tidy : Tidying S} (htidy : TidiesAlike P tidy) :
    Agree P Q (step.always tidy) (step'.always tidy) := by
  intro s t hst
  obtain ⟨hend, hP⟩ := h s t hst
  obtain ⟨hmishap, hP'⟩ := htidy _ _ hP
  have hresult : SameEnd Q (Action.afterTidying (step s).1 (tidy (step s).2).1)
      (Action.afterTidying (step' t).1 (tidy (step' t).2).1) := by
    rw [hmishap]
    exact hend.afterTidying _
  exact ⟨hresult, hP'⟩

/-- The same step for each item of a list, if it agrees with itself for all of them. -/
theorem Agree.forEach {step : α → Action S β} {items : List α}
    (h : ∀ a ∈ items, Agree P Eq (step a) (step a)) :
    Agree P Eq (forEach step items) (forEach step items) := by
  induction items with
  | nil => exact fun s t hst => ⟨.ok rfl, hst⟩
  | cons a rest ih =>
    obtain ⟨hfirst, hrest⟩ := List.forall_mem_cons.1 h
    intro s t hst
    simp only [Action.forEach]
    rcases hfirst.cases hst with ⟨b, b', s', t', hs, ht, rfl, hP⟩ | ⟨f, s', t', hs, ht, hP⟩
    · rw [hs, ht]
      -- the rest of the list is gone through from states in relation
      rcases (ih hrest).cases hP with
        ⟨bs, bs', s'', t'', hs', ht', rfl, hP'⟩ | ⟨f, s'', t'', hs', ht', hP'⟩
      · simp only [hs', ht']
        exact ⟨.ok rfl, hP'⟩
      · simp only [hs', ht']
        exact ⟨.error f, hP'⟩
    · rw [hs, ht]
      exact ⟨.error f, hP⟩

end HistoryMetrics.Action
