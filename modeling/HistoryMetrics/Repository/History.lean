import HistoryMetrics.Repository.Churn
import HistoryMetrics.Time.Reason

/-! # The history of a repository

    Git prints the history as records, each of them nine fields with null characters between them: id,
    parents, and for author and committer the name, the address and the moment, then the message. A
    record ends with a record separator.

    - `History.format`: the format that git is asked for
    - `History.records`: the records of a text
    - `History.ofRecord`: the commit that a record describes, without its changes
    - `Repository.commitOf`: the commit with its changes
-/

namespace HistoryMetrics

namespace History

/-- **The format that git is asked for.** -/
def format : String := "%H%x00%P%x00%an%x00%ae%x00%aI%x00%cn%x00%ce%x00%cI%x00%B%x1e"

/-- Line feeds in front do not belong to a record. -/
def trimmed (record : List Char) : List Char := Text.trimStart (· == '\n') record

/-- **The records of a history.** -/
def records (text : String) : List (List Char) :=
  ((Text.splitOn '\x1e' text.toList).map trimmed).filter fun r => !r.isEmpty

/-- The problem of a record that is no commit. -/
def malformed (record : List Char) : Problem :=
  .historyRead ("malformed log record: " ++ Text.quoted (String.ofList (record.take 60))) none

/-- The problem of a moment that cannot be read. -/
def badDate (id : String) (f : Fault) : Problem :=
  .historyRead ("bad date in " ++ id ++ ": " ++ f.message) none

/-- The person that three fields describe. -/
def person (id : String) (name address moment : List Char) : Except Problem Person :=
  match Moment.read (String.ofList moment) with
  | .ok m => .ok ⟨String.ofList name, String.ofList address, m⟩
  | .error f => .error (badDate id f)

/-- **The commit that a record describes**, without its changes. -/
def ofRecord (record : List Char) : Except Problem Commit :=
  match Text.splitAtMost '\x00' 8 record with
  | [id, parents, name, address, moment, name', address', moment', body] =>
    match person (String.ofList id) name address moment,
        person (String.ofList id) name' address' moment' with
    | .error p, _ => .error p
    | _, .error p => .error p
    | .ok author, .ok committer => .ok {
        id := String.ofList id
        message := String.ofList (Text.trimEnd (· == '\n') body)
        author
        committer
        parents := (Text.words parents).map String.ofList
        changes := [] }
  | _ => .error (malformed record)

/-- The problem of a command as a problem of reading the history. -/
def asHistory (reference : Option String) : Problem → Problem
  | .gitCommand _ reason _ => .historyRead reason reference
  | other => other

end History

namespace Repository

variable {σ : Type}

/-- The records of the commits that some arguments select. -/
def records (r : Repository) (selection : List String) : Action (World σ) (List (List Char)) := do
  let text ← (r.run (["log", "--format=" ++ History.format] ++ selection) none).renamed
    (History.asHistory none)
  pure (History.records text)

/-- **The commit that a record describes**, with its changes. -/
def commitOf (r : Repository) (record : List Char) : Action (World σ) Commit := do
  let c ← .ofResult ((History.ofRecord record).mapError .problem)
  let changes ← r.changesOf c.id c.parents
  pure { c with changes }

/-- The commits that some arguments select. -/
def commits (r : Repository) (selection : List String) : Action (World σ) (List Commit) := do
  let records ← r.records selection
  Action.forEach r.commitOf records

end Repository

end HistoryMetrics
