import HistoryMetrics.Proofs.Action.Moves
import HistoryMetrics.Repository.Session

/-! # What closing does

    Closing a repository sends what is left of a name that did not reach the helper, gives the helper up
    and waits for it. If the first of these goes wrong, this is told, and nobody waits. So closing goes
    wrong only after a name was not sent.

    - `World.AllSent`: all names have reached the helper of the open repository
    - `AllowsClosing`, `AllowsClosing.close`, `AllowsClosing.keeps_close`: relations that closing stays
      in, and properties that it keeps, by its single steps
    - `Session.closing_fst`: what goes wrong with closing
    - `Session.close_session`, `Session.close_accepted`: what is left in any case
-/

namespace HistoryMetrics

open HistoryMetrics.Action

variable {σ : Type} {w : World σ}

/-- **All names have reached the helper** of the open repository, if one is open and its helper runs. -/
def World.AllSent (w : World σ) : Prop :=
  ∀ h, w.session = some h → h.helper ∈ w.liveHelpers → h.helper ∉ w.unsent

/-! ## Steps of closing -/

/-- **A relation that closing stays in**: it allows for whatever happens to the scene, and for giving up
    the helper and the repository. -/
structure AllowsClosing (R : World σ → World σ → Prop) : Prop where
  scene : ∀ (w : World σ) (s : Scene σ), R w { w with toScene := s }
  session : ∀ w : World σ, R w { w with session := none }
  helperClosed : ∀ (w : World σ) (helper : Nat),
    R w ({ w with liveHelpers := w.liveHelpers.erase helper }.happened (.helperClosed helper))
  helperKilled : ∀ (w : World σ) (helper : Nat), R w (w.happened (.helperKilled helper))

section steps

variable {R : World σ → World σ → Prop}

theorem AllowsClosing.sendRest [Std.Refl R] (h : AllowsClosing R) (helper : Nat) (w : World σ) :
    R w (Helper.sendRest helper w).2 := by
  unfold Helper.sendRest
  split
  · exact h.scene w { w.toScene with outside := (w.git.sendRest helper w.outside).2 }
  · exact refl_of R w

theorem AllowsClosing.await [IsTrans (World σ) R] (h : AllowsClosing R) (helper : Nat) (w : World σ) :
    R w (Helper.await helper w) := by
  have hscene := h.scene w { w.toScene with outside := (w.git.endHelper helper w.outside).2 }
  unfold Helper.await
  dsimp only
  split
  · exact hscene
  · exact trans_of R hscene (h.helperKilled _ helper)

variable [Std.Refl R] [IsTrans (World σ) R]

/-- **Closing a helper** stays in such a relation. -/
theorem AllowsClosing.closeHelper (h : AllowsClosing R) (helper : Nat) (w : World σ) :
    R w (Helper.close helper w) := by
  unfold Helper.close Helper.closing
  split
  · have hsent := h.sendRest helper w
    rcases hrest : Helper.sendRest helper w with ⟨mishap, v⟩
    rw [hrest] at hsent
    have hclosed := trans_of R hsent (h.helperClosed v helper)
    cases mishap with
    | some m => exact hclosed
    | none => exact trans_of R hclosed (h.await helper _)
  · exact refl_of R w

/-- **Closing the repository** stays in such a relation. -/
theorem AllowsClosing.close (h : AllowsClosing R) (w : World σ) : R w (Session.close w) := by
  unfold Session.close Session.closing
  split
  · exact refl_of R w
  · next held _ =>
    have hhelper := trans_of R (h.session w) (h.closeHelper held.helper _)
    unfold Helper.close at hhelper
    rcases hend : Helper.closing held.helper { w with session := none } with ⟨failure, v⟩
    rw [hend] at hhelper
    cases failure with
    | some f => exact hhelper
    | none => exact trans_of R hhelper (h.scene v _)

end steps

section keeps

variable {I : World σ → Prop}

/-- A property that the steps of closing keep is one that closing keeps. -/
theorem AllowsClosing.keeps_closeHelper (h : AllowsClosing fun w w' => I w → I w') (helper : Nat)
    (hw : I w) : I (Helper.close helper w) := by
  have hrefl : Std.Refl fun w w' : World σ => I w → I w' := ⟨fun _ => id⟩
  have htrans : IsTrans (World σ) fun w w' : World σ => I w → I w' := ⟨fun _ _ _ h h' hw => h' (h hw)⟩
  exact h.closeHelper helper w hw

theorem AllowsClosing.keeps_close (h : AllowsClosing fun w w' => I w → I w') (hw : I w) :
    I (Session.close w) := by
  have hrefl : Std.Refl fun w w' : World σ => I w → I w' := ⟨fun _ => id⟩
  have htrans : IsTrans (World σ) fun w w' : World σ => I w → I w' := ⟨fun _ _ _ h h' hw => h' (h hw)⟩
  exact h.close w hw

end keeps

/-! ## What goes wrong -/

theorem Helper.closing_fst (helper : Nat) (w : World σ) :
    (Helper.closing helper w).1 =
      if helper ∈ w.liveHelpers ∧ helper ∈ w.unsent then
        (w.git.sendRest helper w.outside).1.map fun m => .fault m.toFault
      else none := by
  unfold Helper.closing Helper.isLive
  by_cases hlive : helper ∈ w.liveHelpers
  · have hsent : (Helper.sendRest helper w).1 =
        if helper ∈ w.unsent then (w.git.sendRest helper w.outside).1 else none := by
      unfold Helper.sendRest
      simp only [List.contains_iff_mem]
      split <;> rfl
    rw [if_pos (List.contains_iff_mem.2 hlive)]
    rcases hrest : Helper.sendRest helper w with ⟨mishap, v⟩
    rw [hrest] at hsent
    dsimp only at hsent
    by_cases hunsent : helper ∈ w.unsent
    · rw [if_pos hunsent] at hsent
      rw [if_pos ⟨hlive, hunsent⟩, ← hsent]
      cases mishap <;> rfl
    · rw [if_neg hunsent] at hsent
      rw [if_neg fun h => hunsent h.2, hsent]
  · rw [if_neg fun h => hlive (List.contains_iff_mem.1 h), if_neg fun h => hlive h.1]

namespace Session

/-- **What goes wrong with closing** is that what is left of a name cannot be sent. -/
theorem closing_fst (w : World σ) :
    (closing w).1 = w.session.bind fun h =>
      if h.helper ∈ w.liveHelpers ∧ h.helper ∈ w.unsent then
        (w.git.sendRest h.helper w.outside).1.map fun m => .fault m.toFault
      else none := by
  unfold closing
  cases w.session with
  | none => rfl
  | some h =>
    have hhelper := Helper.closing_fst h.helper { w with session := none }
    rw [Option.bind_some]
    dsimp only at hhelper ⊢
    rw [← hhelper]
    rcases Helper.closing h.helper { w with session := none } with ⟨failure, v⟩
    cases failure <;> rfl

/-- **Nothing goes wrong with closing** after all names have been sent. -/
theorem closing_fst_of_allSent (h : w.AllSent) : (closing w).1 = none := by
  rw [closing_fst]
  cases hs : w.session with
  | none => rfl
  | some held =>
    have hsent : ¬(held.helper ∈ w.liveHelpers ∧ held.helper ∈ w.unsent) :=
      fun ⟨hlive, hunsent⟩ => h held hs hlive hunsent
    rw [Option.bind_some, if_neg hsent]

theorem failing_fst_of_allSent (name : String) (f : Failure) (h : w.AllSent) :
    (failing name f w).1 = none :=
  closing_fst_of_allSent (w := w.logged _) h

/-- Whatever goes wrong with closing is a fault of the system. -/
theorem closing_fst_cases (w : World σ) :
    (closing w).1 = none ∨ ∃ m : SystemMishap, (closing w).1 = some (.fault m.toFault) := by
  rw [closing_fst]
  cases w.session with
  | none => exact .inl rfl
  | some h =>
    rw [Option.bind_some]
    split
    · cases (w.git.sendRest h.helper w.outside).1 with
      | none => exact .inl rfl
      | some m => exact .inr ⟨m, rfl⟩
    · exact .inl rfl

/-! ## What is left -/

@[simp] theorem close_session (w : World σ) : (close w).session = none := by
  have hallows : AllowsClosing fun w w' : World σ => w.session = none → w'.session = none :=
    ⟨fun _ _ => id, fun _ _ => rfl, fun _ _ => id, fun _ _ => id⟩
  cases hs : w.session with
  | none => exact hallows.keeps_close hs
  | some h =>
    have hhelper := hallows.keeps_closeHelper (w := { w with session := none }) h.helper rfl
    unfold Helper.close at hhelper
    unfold close closing
    simp only [hs]
    rcases hend : Helper.closing h.helper { w with session := none } with ⟨failure, v⟩
    rw [hend] at hhelper
    cases failure <;> exact hhelper

@[simp] theorem close_accepted (w : World σ) : (close w).accepted = w.accepted := by
  have hallows : AllowsClosing fun v v' : World σ =>
      v.accepted = w.accepted → v'.accepted = w.accepted :=
    ⟨fun _ _ => id, fun _ => id, fun _ _ => id, fun _ _ => id⟩
  exact hallows.keeps_close rfl

@[simp] theorem failed_session (name : String) (f : Failure) (w : World σ) :
    (failed name f w).session = none :=
  close_session _

@[simp] theorem failed_accepted (name : String) (f : Failure) (w : World σ) :
    (failed name f w).accepted = w.accepted :=
  close_accepted _

/-- Nothing is left to be sent to a repository that is not open. -/
theorem allSent_of_closed (hs : w.session = none) : w.AllSent := by
  intro h hopen
  rw [hs] at hopen
  cases hopen

end Session

end HistoryMetrics
