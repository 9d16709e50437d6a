import HistoryMetrics.Git.Run
import HistoryMetrics.Number.Whole

/-! # Looking up objects

    A helper of git that keeps running answers each name with one line: the object's id, its kind and
    its size, or the name and the word that says why there is no such object.

    - `ObjectInfo.ofLine`: reads an answer
    - `Helper.start`, `Helper.info`
    - `Helper.closing`, `Helper.close`: closing, which may go wrong after a name could not be sent
-/

namespace HistoryMetrics

/-- **What is known of an object.** -/
structure ObjectInfo where
  id : String
  kind : String
  size : Int
deriving Repr, DecidableEq, Inhabited

/-- **Reads the answer to a name.** An answer of other than three words stands for no object, and so
    does one whose second word says that there is none. -/
def ObjectInfo.ofLine (line : String) : Except Fault (Option ObjectInfo) :=
  match (Text.words line.toList).map String.ofList with
  | [id, kind, size] =>
    if kind == "missing" || kind == "ambiguous" then .ok none
    else (Whole.read size).map fun n => some ⟨id, kind, n⟩
  | _ => .ok none

namespace Helper

variable {σ : Type}

/-- A problem of the helper. -/
def problem (reason : String) : Failure :=
  .problem (.gitCommand ["cat-file", "--batch-check"] reason none)

/-- **Starts a helper** and returns its number. -/
def start (root : Path) : Action (World σ) Nat := fun w =>
  let n := w.helpers
  let (mishap, outside) := w.git.startHelper n root w.outside
  let w := { w with outside, helpers := n + 1 }.happened (.helperStarted n root)
  match mishap with
  | some m => (.error (problem m.toFault.message), w)
  | none =>
    (.ok n,
      { w with
        startedHelpers := n :: w.startedHelpers
        liveHelpers := n :: w.liveHelpers
        unsent := w.unsent.filter fun k => k != n })

/-- Does the helper run? -/
def isLive (w : World σ) (helper : Nat) : Bool := w.liveHelpers.contains helper

/-- Does a name go over several lines? The helper could not tell it from several names. -/
def spansLines (name : String) : Bool := name.contains '\n' || name.contains '\r'

/-- Asks the helper for a name. After a mishap the name, or a part of it, may still be unsent. -/
def ask (helper : Nat) (name : String) : Action (World σ) (Option ObjectInfo) := fun w =>
  let (answer, outside) := w.git.ask helper name w.outside
  let w := { w with outside }.happened (.asked helper name)
  match answer with
  | .error m => (.error (problem m.toFault.message), { w with unsent := helper :: w.unsent })
  | .ok line => ((ObjectInfo.ofLine (Git.text line)).mapError .fault, w)

/-- **Looks up an object by a name of any form.** -/
def info (helper : Nat) (name : String) : Action (World σ) (Option ObjectInfo) := fun w =>
  if spansLines name then
    (.error (problem ("object name spans lines: " ++ Text.quoted name)), w)
  else if isLive w helper && w.git.isRunning helper w.outside then ask helper name w
  else (.error (problem "object reader is not running"), w)

/-- Sends what is left of a name that did not reach the helper. -/
def sendRest (helper : Nat) (w : World σ) : Option SystemMishap × World σ :=
  if w.unsent.contains helper then
    let (mishap, outside) := w.git.sendRest helper w.outside
    (mishap, { w with outside })
  else (none, w)

/-- Waits for a helper that is not asked any more; it is killed if it does not end in time. -/
def await (helper : Nat) (w : World σ) : World σ :=
  let (inTime, outside) := w.git.endHelper helper w.outside
  let w := { w with outside }
  if inTime then w else w.happened (.helperKilled helper)

/-- **Closes a helper**, and tells what went wrong. What is left of a name is sent first; if that
    fails, nobody waits for the helper. A helper that is closed already is left alone. -/
def closing (helper : Nat) (w : World σ) : Option Failure × World σ :=
  if isLive w helper then
    let (mishap, w) := sendRest helper w
    let w := { w with liveHelpers := w.liveHelpers.erase helper }.happened (.helperClosed helper)
    match mishap with
    | some m => (some (.fault m.toFault), w)
    | none => (none, await helper w)
  else (none, w)

/-- The world after a helper has been closed. -/
def close (helper : Nat) (w : World σ) : World σ := (closing helper w).2

end Helper

end HistoryMetrics
