import HistoryMetrics.Failure

/-! # Steps that may fail

    An action changes a state and ends with a value or a failure. What it did before it failed stays
    done: the state is not taken back.

    - `Action.fail`, `Action.ofResult`, `Action.update`: the simplest actions
    - `Action.guarded`: tidies up after failures, but lets the user's wish to stop pass
    - `Action.always`: tidies up in any case
    - `Action.renamed`: says a problem in other words
-/

namespace HistoryMetrics

/-- **A step on a state, which may fail.** -/
abbrev Action (S : Type) : Type → Type := ExceptT Failure (StateM S)

namespace Action

variable {S α : Type}

/-- The step that fails. -/
def fail (f : Failure) : Action S α := fun s => (.error f, s)

/-- The step with a result that is already known. -/
def ofResult (r : Except Failure α) : Action S α := fun s => (r, s)

/-- The step that changes the state and cannot fail. -/
def update (f : S → S) : Action S Unit := fun s => (.ok (), f s)

/-- The step that looks at the state. -/
def read (f : S → α) : Action S α := fun s => (.ok (f s), s)

/-- **Some tidying up**, which tells what went wrong with it. -/
abbrev Tidying (S : Type) : Type := S → Option Failure × S

/-- How a step ends after some tidying up: what went wrong with that takes the place of its result. -/
def afterTidying (r : Except Failure α) : Option Failure → Except Failure α
  | none => r
  | some f => .error f

/-- A step followed by some tidying up if it fails. The wish to stop is no failure of the step:
    nothing is tidied up after it. -/
def guarded (step : Action S α) (tidy : Failure → Tidying S) : Action S α := fun s =>
  match step s with
  | (.ok a, s') => (.ok a, s')
  | (.error .interrupt, s') => (.error .interrupt, s')
  | (.error f, s') => (afterTidying (.error f) (tidy f s').1, (tidy f s').2)

/-- A step followed by some tidying up, however it ends. -/
def always (step : Action S α) (tidy : Tidying S) : Action S α := fun s =>
  let (r, s') := step s
  (afterTidying r (tidy s').1, (tidy s').2)

/-- The failure with its problem said in other words. -/
def renameFailure (f : Problem → Problem) : Failure → Failure
  | .problem p => .problem (f p)
  | other => other

/-- A step whose problems are said in other words. -/
def renamed (f : Problem → Problem) (step : Action S α) : Action S α := fun s =>
  match step s with
  | (.ok a, s') => (.ok a, s')
  | (.error e, s') => (.error (renameFailure f e), s')

/-- One step for each item of a list; the results in their order. -/
def forEach {β : Type} (step : α → Action S β) : List α → Action S (List β)
  | [] => fun s => (.ok [], s)
  | a :: rest => fun s =>
    match step a s with
    | (.error f, s') => (.error f, s')
    | (.ok b, s') =>
      match forEach step rest s' with
      | (.error f, s'') => (.error f, s'')
      | (.ok bs, s'') => (.ok (b :: bs), s'')

/-- A step that passes its state on leaves what a later failure leaves. -/
theorem bind_apply {ε β : Type} (step : ExceptT ε (StateM S) α) (next : α → ExceptT ε (StateM S) β)
    (s : S) :
    (step >>= next) s =
      match step s with
      | (.ok a, s') => next a s'
      | (.error f, s') => (.error f, s') := by
  show ExceptT.bind step next s = _
  simp only [ExceptT.bind, ExceptT.mk, bind, StateT.bind]
  rcases step s with ⟨r, s'⟩
  cases r <;> rfl

/-- The step that only gives a value. -/
theorem pure_apply {ε : Type} (a : α) (s : S) :
    (pure a : ExceptT ε (StateM S) α) s = (.ok a, s) := rfl

end Action

end HistoryMetrics
