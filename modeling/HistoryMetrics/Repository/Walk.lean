import HistoryMetrics.Repository.Session

/-! # Walking through the history

    A walk reads the history once, when its first commit is asked for, and then gives the commits one
    by one. It goes on with the repository as it was then, whatever happens to the session in between.
    A walk that fails closes the session, if one is open, and is over.

    - `Walk.begin`: the first step
    - `Walk.next`: the next commit, and how the walk goes on
-/

namespace HistoryMetrics

/-- **A walk**: not begun, under way with records to come, or over. -/
inductive Walk where
  | fresh
  | underWay (r : Repository) (rest : List (List Char))
  | over

namespace Walk

variable {σ : Type}

/-- The name of the operation. -/
def operation : String := "iterate commits"

/-- Reads the history of the open repository. -/
def begin : Action (World σ) (Repository × List (List Char)) := do
  let h ← Session.handles operation
  let records ← (h.toRepository.records ["--all"]).guarded (Session.failing operation)
  pure (h.toRepository, records)

/-- The commit of a record. -/
def read (r : Repository) (record : List Char) : Action (World σ) Commit :=
  (r.commitOf record).guarded (Session.failing operation)

/-- A step of a walk under way. -/
def advance (r : Repository) :
    List (List Char) → World σ → Except Failure (Option Commit) × Walk × World σ
  | [], w => (.ok none, .over, w)
  | record :: rest, w =>
    match read r record w with
    | (.ok c, w') => (.ok (some c), .underWay r rest, w')
    | (.error f, w') => (.error f, .over, w')

/-- **The next commit**, nothing at the end of the walk. -/
def next : Walk → World σ → Except Failure (Option Commit) × Walk × World σ
  | .over, w => (.ok none, .over, w)
  | .underWay r rest, w => advance r rest w
  | .fresh, w =>
    match begin w with
    | (.error f, w') => (.error f, .over, w')
    | (.ok (r, records), w') => advance r records w'

end Walk

end HistoryMetrics
