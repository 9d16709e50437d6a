import HistoryMetrics.Git.Run
import HistoryMetrics.Repository.Patch
import HistoryMetrics.Repository.Status
import HistoryMetrics.Setting.Comparison

/-! # The changes of a commit

    A commit is compared with its first parent, or with the empty tree when it has none. Git lists
    the changed paths and then shows each change as a patch, whose lines are counted. A change that
    git calls binary, and one whose lines hold more bytes than the threshold allows, counts as binary
    and has no lines. A commit with several parents has no changes.

    - `Repository.changesOf`: the changes of a commit
-/

namespace HistoryMetrics.Repository

variable {σ : Type}

/-- The logger of changes. -/
def churnLogger : String := rootLogger ++ ".scm.churn"

/-- The name of the empty tree, asked for once while the repository is open. -/
def emptyTree (r : Repository) : Action (World σ) String := fun w =>
  match w.emptyTrees.lookup r.number with
  | some tree => (.ok tree, w)
  | none =>
    match r.run ["hash-object", "-t", "tree", "--stdin"] (some "") w with
    | (.error f, w') => (.error f, w')
    | (.ok output, w') =>
      let tree := String.ofList (Text.strip output.toList)
      (.ok tree, { w' with emptyTrees := (r.number, tree) :: w'.emptyTrees })

/-- What a commit is compared with. -/
def base (r : Repository) : (parents : List String) → Action (World σ) String
  | [] => r.emptyTree
  | parent :: _ => pure parent

/-- The command that lists the changed paths. -/
def listingArguments (base commit : String) : List String :=
  ["diff-tree", "-r", "-z", "--name-status", "-M", "-C", "--no-commit-id", base, commit]

/-- The options of patches without surrounding lines. -/
def patchOptions : List String := ["--unified=0", "--no-color", "--no-ext-diff"]

/-- The old path of a moved file, unless it is empty. -/
def oldPathOf (c : Change) : String :=
  match c.oldPath with
  | some p => if p.isEmpty then c.path else p
  | none => c.path

/-- **The command that shows one change.** A move is shown by both of its paths. -/
def patchArguments (base commit : String) (c : Change) : List String :=
  ["--literal-pathspecs", "diff"] ++ patchOptions ++
    if c.kind = .move then ["-M", base, commit, "--", oldPathOf c, c.path]
    else ["--no-renames", base, commit, "--", c.path]

/-- The problem of a command as a problem of comparing a commit. -/
def asDiff (commit : String) (path : Option String) : Problem → Problem
  | .gitCommand _ reason _ => .diff commit reason path
  | other => other

/-- Logs the statuses that are not known. -/
def logUnknown (l : StatusList) : Action (World σ) Unit :=
  .update fun w => l.unknowns.foldl
    (fun w u => w.logged (.plain .debug churnLogger
      ("Skipping unknown diff status " ++ Text.quoted u.1 ++ " for " ++ u.2))) w

/-- The changed paths that git lists, without their lines. -/
def listed (text : String) : Action (World σ) (List Change) := do
  let l := StatusList.ofText text
  logUnknown l
  if l.isCutOff then .fail (.fault .outOfRange) else pure l.changes

/-- Do the lines of a patch hold more bytes than allowed? A threshold of zero allows all. -/
def exceeds (threshold : Value) (patch : String) : Except Fault Bool :=
  match threshold.isAbove (.int 0) with
  | .ok true => (Value.int (Patch.contentSize patch)).isAbove threshold
  | other => other

/-- Does a patch count as binary? -/
def countsAsBinary (threshold : Value) (patch : String) : Except Fault Bool :=
  if Patch.isBinary patch then .ok true else exceeds threshold patch

/-- A change with the lines of its patch. -/
def counted (threshold : Value) (c : Change) (patch : String) : Except Fault Change :=
  match countsAsBinary threshold patch with
  | .error e => .error e
  | .ok true => .ok { c with added := 0, removed := 0, isBinary := true }
  | .ok false => .ok { c with added := Patch.added patch, removed := Patch.removed patch }

/-- A change with its lines, which git is asked for. -/
def withLines (r : Repository) (base commit : String) (c : Change) : Action (World σ) Change := do
  let patch ← (r.run (patchArguments base commit c) none).renamed (asDiff commit (some c.path))
  .ofResult ((counted r.threshold c patch).mapError .fault)

/-- What a commit is compared with, and the changed paths as git writes them. -/
def listing (r : Repository) (commit : String) (parents : List String) :
    Action (World σ) (String × String) := do
  let base ← r.base parents
  let text ← r.run (listingArguments base commit) none
  pure (base, text)

/-- **The changes of a commit.** -/
def changesOf (r : Repository) (commit : String) (parents : List String) :
    Action (World σ) (List Change) :=
  if 1 < parents.length then pure []
  else do
    let (base, text) ← (r.listing commit parents).renamed (asDiff commit none)
    let changes ← listed text
    Action.forEach (r.withLines base commit) changes

end HistoryMetrics.Repository
