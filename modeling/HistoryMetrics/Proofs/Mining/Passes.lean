import HistoryMetrics.Proofs.Mining.Analysis

/-! # Where passes lead

    A pass over a source file runs plug-ins, or has detectors look at its types, and writes to the
    journal. So it leads where its plug-ins and detectors lead, for any relation between states that
    does not mind the journal.

    - `moves_runAll`, `moves_runDetectors`: the loops
    - `Engine.moves_compute`: a pass of the engine
    - `Detector.moves_detectByRule`: a detector that goes by its rule
    - `moves_detectSmells`: a detection of smells
-/

namespace HistoryMetrics

open HistoryMetrics.Action

variable {R : Analysis → Analysis → Prop}

theorem Engine.moves_runPlugin {p : Plugin} (h : Moves R p.calculate) : Moves R (runPlugin p) := by
  intro a
  rcases hp : p.calculate a with ⟨r, b⟩
  have hb : R a b := h.of_eq hp
  cases r <;> simpa only [runPlugin, hp] using hb

theorem Detection.moves_runDetector {d : Detector} {i : Nat} (h : Moves R (d.detect i)) :
    Moves R (runDetector d i) := by
  intro a
  rcases hd : d.detect i a with ⟨r, b⟩
  have hb : R a b := h.of_eq hd
  cases r <;> simpa only [runDetector, hd] using hb

section Rules

variable [Std.Refl R] {d : Detector}
  (h : ∀ targets, Moves R ((d.engine.getD .standard).compute (some targets)))

include h

theorem Detector.moves_complete (type : TypeOutline) : Moves R (d.complete type) := by
  intro a
  by_cases hmissing : (d.missing type).isEmpty = true
  · simpa only [complete, hmissing, if_true] using refl_of R a
  · rcases hcompute : (d.engine.getD .standard).compute (some (d.missing type)) a with ⟨r, b⟩
    have hb : R a b := (h _).of_eq hcompute
    simp only [complete, hmissing, Bool.false_eq_true, if_false, hcompute]
    cases r <;> exact hb

/-- A detector that goes by its rule only has missing metrics computed. -/
theorem Detector.moves_detectByRule (i : Nat) : Moves R (d.detectByRule i) := by
  intro a
  cases htype : a.outline.types[i]? with
  | none => simpa only [detectByRule, htype] using refl_of R a
  | some type =>
    rcases hcomplete : d.complete type a with ⟨r, b⟩
    have hb : R a b := (moves_complete h type).of_eq hcomplete
    cases r with
    | error f => simpa only [detectByRule, htype, hcomplete] using hb
    | ok u =>
      simp only [detectByRule, htype, hcomplete]
      cases b.outline.types[i]? <;> exact hb

end Rules

variable [Std.Refl R] [IsTrans Analysis R]

theorem Engine.moves_runAll {plan : List Plugin} (h : ∀ p ∈ plan, Moves R p.calculate) :
    Moves R (runAll plan) :=
  runAll_endsAtFirst.moves fun p hp => moves_runPlugin (h p hp)

theorem Detection.moves_runDetectors {ds : List Detector} {i : Nat}
    (h : ∀ d ∈ ds, Moves R (d.detect i)) : Moves R (runDetectors i ds) :=
  (runDetectors_endsAtFirst i).moves fun d hd => moves_runDetector (h d hd)

variable (hlog : ∀ a r, R a (a.logged r))

include hlog

/-- A pass of the engine leaves alone what the plug-ins of its plan leave alone. -/
theorem Engine.moves_compute {e : Engine} {targets : Option (List String)}
    (h : ∀ plan, e.plan targets = .ok plan → ∀ p ∈ plan, Moves R p.calculate) :
    Moves R (e.compute targets) := by
  intro a
  cases hplan : e.plan targets with
  | error p => simpa only [compute, hplan] using refl_of R a
  | ok plan =>
    rcases hrun : runAll plan a with ⟨r, b⟩
    have hb : R a b := (moves_runAll (h plan hplan)).of_eq hrun
    cases r with
    | error f => simpa only [compute, hplan, hrun] using hb
    | ok u => simpa only [compute, hplan, hrun] using trans_of R hb (hlog b _)

theorem Detection.moves_scan {ds : List Detector} (h : ∀ d ∈ ds, ∀ i, Moves R (d.detect i))
    (count index : Nat) : Moves R (scan ds count index) := by
  induction count generalizing index with
  | zero => exact fun a => refl_of R a
  | succ count ih =>
    intro a
    rcases htype : runDetectors index ds a with ⟨r, b⟩
    have hb : R a b := (moves_runDetectors fun d hd => h d hd index).of_eq htype
    cases r with
    | error f => simpa only [scan, htype] using hb
    | ok vs =>
      by_cases hvs : vs.isEmpty = true
      · simpa only [scan, htype, hvs, if_true] using trans_of R hb (ih (index + 1) b)
      · -- verdicts are logged before the next type is looked at
        simp only [scan, htype, hvs, Bool.false_eq_true, if_false]
        generalize hname : (b.outline.types[index]?.map TypeOutline.name).getD "" = name
        rcases hrest : scan ds count (index + 1) (b.logged (record b.outline.path name vs))
          with ⟨r', c⟩
        have hc : R b c := trans_of R (hlog b _) ((ih (index + 1)).of_eq hrest)
        cases r' <;> exact trans_of R hb hc

/-- A detection of smells leaves alone what its plug-ins and its detectors leave alone. -/
theorem moves_detectSmells {ds : List Detector} {e : Engine}
    (hcompute : Moves R (e.compute (some (requiredMetrics ds))))
    (hds : ∀ d ∈ ds, ∀ i, Moves R (d.detect i)) : Moves R (detectSmells ds e) := by
  intro a
  by_cases hempty : ds.isEmpty = true
  · simpa only [detectSmells, hempty, if_true] using refl_of R a
  · rcases hrun : e.compute (some (requiredMetrics ds)) a with ⟨r, b⟩
    have hb : R a b := hcompute.of_eq hrun
    simp only [detectSmells, hempty, Bool.false_eq_true, if_false, hrun]
    cases r with
    | error f => exact hb
    | ok ids => exact trans_of R hb (Detection.moves_scan hlog hds _ 0 b)

end HistoryMetrics
