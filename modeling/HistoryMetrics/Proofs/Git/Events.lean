import HistoryMetrics.Proofs.Action.Loop
import HistoryMetrics.Proofs.Session.Closing

/-! # What is done to git

    A world keeps all that was done to git, the latest last, and no step takes anything back. So what
    a step does to git is what it adds: `Adds P w w'` says that the events of the second world are
    those of the first and some more, and that each of these satisfies `P`.

    - `GitEvent.IsClosing`: events that only end a helper
    - `GitEvent.Concerns`, `GitEvent.Allows`: events that are about commands of some kind, and events
      that are about no others
    - `World.Adds`: the relation
    - `World.GivesFirst`: a command comes before all else
    - `Session.adds_close`: closing gives no commands
-/

namespace HistoryMetrics

open HistoryMetrics.Action

variable {σ α : Type}

/-! ## Events -/

namespace GitEvent

/-- **The event ends a helper**, in whatever way. -/
def IsClosing : GitEvent → Prop
  | .helperClosed _ | .helperKilled _ => True
  | _ => False

/-- **The event is about a command with a property**: the command was given, or it was given up. -/
def Concerns (K : GitCommand → Prop) : GitEvent → Prop
  | .ran c _ | .killed c => K c
  | _ => False

/-- **Only commands with a property**; events that are about no command may be any. -/
def Allows (K : GitCommand → Prop) : GitEvent → Prop
  | .ran c _ | .killed c => K c
  | _ => True

theorem Concerns.mono {K K' : GitCommand → Prop} (h : ∀ c, K c → K' c) {e : GitEvent}
    (he : e.Concerns K) : e.Concerns K' := by
  cases e with
  | ran c _ => exact h c he
  | killed c => exact h c he
  | _ => exact he

theorem Allows.mono {K K' : GitCommand → Prop} (h : ∀ c, K c → K' c) {e : GitEvent}
    (he : e.Allows K) : e.Allows K' := by
  cases e with
  | ran c _ => exact h c he
  | killed c => exact h c he
  | _ => exact he

theorem Concerns.allows {K : GitCommand → Prop} {e : GitEvent} (he : e.Concerns K) : e.Allows K := by
  cases e with
  | ran c _ => exact he
  | killed c => exact he
  | _ => exact he.elim

/-- An event that ends a helper is about no command. -/
theorem IsClosing.allows {e : GitEvent} (h : e.IsClosing) (K : GitCommand → Prop) : e.Allows K := by
  cases e with
  | ran c _ => exact h.elim
  | killed c => exact h.elim
  | _ => trivial

end GitEvent

/-! ## The relation -/

namespace World

/-- **All that was done to git between two worlds has a property.** -/
def Adds (P : GitEvent → Prop) (w w' : World σ) : Prop :=
  ∃ es, w'.events = w.events ++ es ∧ ∀ e ∈ es, P e

namespace Adds

variable {P Q : GitEvent → Prop} {w w₁ w₂ w₃ : World σ}

/-- Nothing at all was done. -/
theorem of_events_eq (h : w₂.events = w₁.events) : Adds P w₁ w₂ :=
  ⟨[], by rw [h, List.append_nil], by simp⟩

theorem refl (w : World σ) : Adds P w w := of_events_eq rfl

theorem trans (h : Adds P w₁ w₂) (h' : Adds P w₂ w₃) : Adds P w₁ w₃ := by
  obtain ⟨es, hes, hP⟩ := h
  obtain ⟨es', hes', hP'⟩ := h'
  refine ⟨es ++ es', by rw [hes', hes, List.append_assoc], fun e he => ?_⟩
  rcases List.mem_append.1 he with he | he
  · exact hP e he
  · exact hP' e he

instance : Std.Refl (Adds (σ := σ) P) := ⟨refl⟩

instance : IsTrans (World σ) (Adds P) := ⟨fun _ _ _ => trans⟩

theorem mono (h : Adds P w₁ w₂) (hPQ : ∀ e, P e → Q e) : Adds Q w₁ w₂ := by
  obtain ⟨es, hes, hP⟩ := h
  exact ⟨es, hes, fun e he => hPQ e (hP e he)⟩

theorem happened {e : GitEvent} (h : P e) (w : World σ) : Adds P w (w.happened e) :=
  ⟨[e], rfl, by simpa using h⟩

/-- Whatever happens to the scene. -/
theorem scene (w : World σ) (s : Scene σ) : Adds P w { w with toScene := s } := of_events_eq rfl

end Adds

/-- **The first thing that is done to git between two worlds is to give a command.** -/
def GivesFirst (c : GitCommand) (w w' : World σ) : Prop :=
  ∃ isStarted rest, w'.events = w.events ++ .ran c isStarted :: rest

/-- It stays the first thing, whatever is done after it. -/
theorem GivesFirst.adds {c : GitCommand} {P : GitEvent → Prop} {w w₁ w₂ : World σ}
    (h : GivesFirst c w w₁) (h' : Adds P w₁ w₂) : GivesFirst c w w₂ := by
  obtain ⟨isStarted, rest, hrest⟩ := h
  obtain ⟨es, hes, -⟩ := h'
  exact ⟨isStarted, rest ++ es, by rw [hes, hrest, List.append_assoc, List.cons_append]⟩

end World

open World

/-! ## Closing -/

namespace Session

theorem allowsClosing_adds :
    AllowsClosing (Adds GitEvent.IsClosing : World σ → World σ → Prop) where
  scene := Adds.scene
  session _ := .of_events_eq rfl
  helperClosed w helper :=
    have hforgotten : Adds GitEvent.IsClosing w { w with liveHelpers := w.liveHelpers.erase helper } :=
      .of_events_eq rfl
    hforgotten.trans (.happened (e := .helperClosed helper) trivial _)
  helperKilled w helper := .happened (e := .helperKilled helper) trivial w

/-- **Closing gives no commands**, and asks nothing. -/
theorem adds_close (w : World σ) : Adds GitEvent.IsClosing w (close w) :=
  allowsClosing_adds.close w

theorem adds_failed (name : String) (f : Failure) (w : World σ) :
    Adds GitEvent.IsClosing w (failed name f w) :=
  (Adds.scene w _).trans (adds_close _)

end Session

end HistoryMetrics
