import HistoryMetrics.Git.Lookup
import HistoryMetrics.Repository.History
import HistoryMetrics.Repository.Reference

/-! # An open repository

    A repository is opened, read and closed again. Each operation needs it to be open; an operation
    that fails closes it before the failure goes on. The wish of the user to stop closes nothing.
    Closing may go wrong itself: then this is what goes on.

    - `Session.open`, `Session.closing`, `Session.close`
    - `Session.references`, `Session.commits`, `Session.commit`, `Session.idsOf`: what is in it
    - `Session.checkout`, `Session.files`: its working tree
-/

namespace HistoryMetrics.Session

variable {σ α : Type}

/-- The logger of sessions. -/
def logger : String := rootLogger ++ ".scm.git_session"

/-! ## Opening and closing -/

/-- Is a repository open? -/
def isOpen (w : World σ) : Bool := w.session.isSome

/-- What is logged when a repository has been closed. -/
def closedRecord (root : Path) : LogRecord :=
  .plain .debug logger ("Closed repository " ++ root.text)

/-- **Closes the repository**, if one is open, and tells what went wrong. -/
def closing : Action.Tidying (World σ) := fun w =>
  match w.session with
  | none => (none, w)
  | some h =>
    match Helper.closing h.helper { w with session := none } with
    | (none, w') => (none, w'.logged (closedRecord h.root))
    | (some f, w') => (some f, w')

/-- The world after the repository has been closed. -/
def close (w : World σ) : World σ := (closing w).2

/-- The problem of an operation in the wrong state. -/
def wrongState (operation state : String) : Failure := .problem (.sessionState operation state)

/-- What is held while the repository is open. -/
def handles (operation : String) : Action (World σ) Handles := fun w =>
  match w.session with
  | some h => (.ok h, w)
  | none => (.error (wrongState operation "closed"), w)

/-- What is done about a failure: it is logged, and the repository is closed. -/
def failing (operation : String) (f : Failure) : Action.Tidying (World σ) := fun w =>
  closing (w.logged ⟨.error, logger, operation ++ " failed: ", some f⟩)

/-- What a failure leaves. -/
def failed (operation : String) (f : Failure) (w : World σ) : World σ := (failing operation f w).2

/-- **An operation on the open repository.** -/
def operation (name : String) (body : Handles → Action (World σ) α) : Action (World σ) α := do
  let h ← handles name
  (body h).guarded (failing name)

/-- The problem of a command as a problem of opening. -/
def asUnreadable (root : Path) : Problem → Problem
  | .gitCommand _ reason _ => .repositoryUnreadable root.text reason
  | other => other

/-- The folder that a path names, from the top. -/
def rootOf (path : Path) : Action (World σ) Path := fun w =>
  if Disk.holdsNull path then (.error (.fault (.wrongValue "embedded null byte")), w)
  else (.ok (.resolved w.here path), w)

/-- Refuses a folder without a repository. -/
def requireRepository (root : Path) : Action (World σ) Unit := fun w =>
  match w.disk.isThere w.here (root.child ".git") with
  | .error e => (.error (.fault (e.toFault (root.child ".git").text)), w)
  | .ok true => (.ok (), w)
  | .ok false => (.error (.problem (.repositoryNotFound root.text)), w)

/-- A repository that is being opened: it takes the number of the helper to be started. -/
def newRepository (root : Path) (timeout threshold : Value) : Action (World σ) Repository :=
  .read fun w => ⟨root, timeout, threshold, w.helpers⟩

/-- Takes hold of a repository. -/
def acquire (r : Repository) : Action (World σ) Handles := do
  let output ← r.run ["rev-parse", "--absolute-git-dir"] none
  let helper ← Helper.start r.root
  pure { r with gitFolder := .ofText (String.ofList (Text.strip output.toList)), helper }

/-- Opens a repository, none being open. -/
def openClosed (path : Path) (timeout threshold : Value) : Action (World σ) Unit := do
  let root ← rootOf path
  requireRepository root
  let r ← newRepository root timeout threshold
  let h ← (acquire r).renamed (asUnreadable root)
  .update fun w => { w with session := some h }.logged
    (.plain .debug logger ("Opened repository " ++ root.text))

/-- **Opens the repository in a folder.** -/
def «open» (path : Path) (timeout threshold : Value) : Action (World σ) Unit := fun w =>
  if isOpen w then (.error (wrongState "open" "already open"), w)
  else openClosed path timeout threshold w

/-- The folder of the open repository. -/
def root : Action (World σ) Path := do
  let h ← handles "read root"
  pure h.root

/-! ## Reading -/

/-- The problem of a command as a problem of listing references. -/
def asReferenceList : Problem → Problem
  | .gitCommand _ reason _ => .referenceList reason
  | other => other

/-- The command that lists references. -/
def referenceArguments : List String :=
  ["for-each-ref", "--format=%(refname)%00%(objectname)%00%(*objectname)", "refs/heads", "refs/tags"]

/-- **All branches and tags.** -/
def references : Action (World σ) (List Reference) :=
  operation "list references" fun h => do
    let text ← (h.toRepository.run referenceArguments none).renamed asReferenceList
    pure (Reference.list text)

/-- **All commits**, the latest first, with their changes. -/
def commits : Action (World σ) (List Commit) :=
  operation "list commits" fun h => h.toRepository.commits ["--all"]

/-- The arguments that select one commit. -/
def commitSelection (id : String) : List String :=
  ["-1", "--no-walk", "--end-of-options", id, "--"]

/-- **One commit** with its changes. -/
def commit (id : String) : Action (World σ) Commit :=
  operation "read commit" fun h => do
    match ← h.toRepository.commits (commitSelection id) with
    | c :: _ => pure c
    | [] => .fail (.problem (.historyRead ("commit not found: " ++ id) none))

/-- The name of the commit that a name leads to. -/
def commitName (name : String) : String := name ++ "^\x7bcommit\x7d"

/-- The commit that the path of a reference leads to. -/
def peel (h : Handles) (name : String) : Action (World σ) (Option String) := do
  let info ← (Helper.info h.helper (commitName name)).renamed (History.asHistory (some name))
  pure (info.map ObjectInfo.id)

/-- Where the walk of a reference starts: at its target, if it has one. -/
def startOf (h : Handles) (r : Reference) : Action (World σ) (Option String) :=
  match r.target with
  | some t => if t.isEmpty then peel h r.path else pure (some t)
  | none => peel h r.path

/-- The lines of a text that are not empty. -/
def filledLines (text : String) : List String :=
  ((Text.lines text.toList).filter fun l => !l.isEmpty).map String.ofList

/-- **The ids of the commits that a reference reaches**, the latest first. -/
def idsOf (r : Reference) : Action (World σ) (List String) :=
  operation "list commit ids" fun h => do
    match ← startOf h r with
    | none => do
      World.log .debug logger ("Reference " ++ r.path ++ " does not resolve to a commit")
      pure []
    | some start => do
      let text ← (h.toRepository.run ["rev-list", start] none).renamed
        (History.asHistory (some r.path))
      pure (filledLines text)

/-! ## The working tree -/

/-- The problem of a command as a problem of checking out. -/
def asCheckout (id : String) : Problem → Problem
  | .gitCommand _ reason _ => .checkout id reason
  | other => other

/-- The lock that an aborted checkout leaves behind. -/
def lockOf (h : Handles) : Path := h.gitFolder.child "index.lock"

/-- Removes the lock file. -/
def removeLock (id : String) (lock : Path) : Action (World σ) Unit := fun w =>
  match w.disk.remove w.here lock with
  | .ok disk => (.ok (), { w with disk })
  | .error e =>
    let reason := "cannot remove " ++ lock.text ++ ": " ++ (e.toFault lock.text).message
    (.error (.problem (.checkout id reason)), w)

/-- Is there a lock? -/
def isLocked (h : Handles) : Action (World σ) Bool := fun w =>
  ((w.disk.isThere w.here (lockOf h)).mapError fun e => .fault (e.toFault (lockOf h).text), w)

/-- Removes a lock that is left over. -/
def clearLock (h : Handles) (id : String) : Action (World σ) Unit := do
  if ← isLocked h then do
    World.log .warning logger ("Removing stale lock file " ++ (lockOf h).text)
    removeLock id (lockOf h)

/-- The id of the commit to check out. -/
def resolveCommit (h : Handles) (id : String) : Action (World σ) String := do
  match ← (Helper.info h.helper (commitName id)).renamed (asCheckout id) with
  | some info => pure info.id
  | none => .fail (.problem (.checkout id "does not resolve to a commit"))

/-- **Puts the files of a commit into the working tree.** -/
def checkout (id : String) : Action (World σ) Unit :=
  operation "checkout" fun h => do
    clearLock h id
    let object ← resolveCommit h id
    let _ ← (h.toRepository.run ["checkout", "--force", "--detach", object] none).renamed
      (asCheckout id)
    World.log .debug logger ("Checked out " ++ object)

/-- The command that lists the files of a commit. -/
def fileArguments (id : String) : List String :=
  ["ls-tree", "-r", "-z", "--name-only", "--full-tree", "--end-of-options", id]

/-- The paths between null characters. -/
def pathsOf (text : String) : List String :=
  ((Text.splitOn '\x00' text.toList).filter fun p => !p.isEmpty).map String.ofList

/-- **The paths of the files of a commit.** -/
def files (id : String) : Action (World σ) (List String) :=
  operation "list files" fun h => do
    let text ← (h.toRepository.run (fileArguments id) none).renamed (History.asHistory none)
    pure (pathsOf text)

end HistoryMetrics.Session
