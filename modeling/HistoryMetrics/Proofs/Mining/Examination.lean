import HistoryMetrics.Proofs.Mining.Call
import HistoryMetrics.Proofs.Session.Operation

/-! # The analysis of source files

    The source files of a commit are examined one after the other: each is measured by the plug-ins
    and judged by the detectors. Either all of them are examined, or a call raises something and the
    examination stops there.

    - `Miner.Examined`: a source file before and after, and its records
    - `Miner.Examines`, `Miner.ExaminesAll`: source files that were measured and judged
    - `Miner.FileStops`: a call of the analysis that raises something
    - `measure_cases`, `smellsOf_cases`: the two passes over a source file
    - `recordsOfOutline_cases`, `recordsOfAll_cases`: there is nothing else
-/

namespace HistoryMetrics

open HistoryMetrics.Action World

variable {σ α : Type}

/-! ## Analyses and the world -/

/-- An analysis of a source file as it begins. -/
def World.analysisOf (w : World σ) (o : SourceOutline) : Analysis := ⟨o, w.notes, []⟩

/-- The world after an analysis. -/
def World.analysed (w : World σ) (a : Analysis) : World σ :=
  { w with toScene := w.toScene.analysed a }

theorem World.Steady.analysed (w : World σ) (a : Analysis) : Steady w (w.analysed a) := scene w _

theorem onScene_calculate_ok {o : SourceOutline} {c : Calculation α} {w : World σ} {v : α}
    {a : Analysis} (h : c (w.analysisOf o) = (.ok v, a)) :
    World.onScene (Scene.calculate o c) w = (.ok (v, a.outline), w.analysed a) := by
  unfold World.analysisOf at h
  simp only [World.onScene, Scene.calculate, h]
  rfl

theorem onScene_calculate_error {o : SourceOutline} {c : Calculation α} {w : World σ} {f : Failure}
    {a : Analysis} (h : c (w.analysisOf o) = (.error f, a)) :
    World.onScene (Scene.calculate o c) w = (.error f, w.analysed a) := by
  unfold World.analysisOf at h
  simp only [World.onScene, Scene.calculate, h]
  rfl

namespace Miner

variable (m : Miner σ)

/-! ## One source file -/

/-- **A source file under analysis**: as it was read, and as it is after the analysis. -/
structure Examined where
  parsed : SourceOutline
  judged : SourceOutline
  findings : List Finding

/-- The records of a source file. -/
def Examined.records (c : Commit) (x : Examined) : List TypeRecord :=
  recordsOf c.id c.committer.moment x.judged x.findings

theorem Examined.length_records (c : Commit) (x : Examined) :
    (x.records c).length = x.judged.types.length := by
  simp [Examined.records, recordsOf]

/-- A source file is measured: the world and the outline after it. -/
def Measures (o : SourceOutline) (w : World σ) (measured : SourceOutline) (w' : World σ) : Prop :=
  ∃ ids a, m.engine.compute none (w.analysisOf o) = (.ok ids, a) ∧ measured = a.outline ∧
    w' = w.analysed a

/-- **A source file is measured and judged.** -/
def Examines (w : World σ) (x : Examined) (w' : World σ) : Prop :=
  ∃ measured w₁ a, Measures m x.parsed w measured w₁ ∧
    detectSmells m.detectors m.engine (w₁.analysisOf measured) = (.ok x.findings, a) ∧
    x.judged = a.outline ∧ w' = w₁.analysed a

/-- Source files are measured and judged, one after the other. -/
inductive ExaminesAll : World σ → List Examined → World σ → Prop where
  | nil (w : World σ) : ExaminesAll w [] w
  | cons {w w₁ w' : World σ} {x : Examined} {xs : List Examined} :
      Examines m w x w₁ → ExaminesAll w₁ xs w' → ExaminesAll w (x :: xs) w'

/-- **A call of the analysis of a source file raises something.**

    - `metric`: a plug-in, when all are run
    - `smellPlan`: the metrics that the detectors need have no order
    - `smellMetric`: a plug-in, when those are run that the detectors need
    - `detector`: a detector that looks at a type
-/
inductive FileStops (o : SourceOutline) (w : World σ) : Call → Failure → World σ → Prop where
  | metric {p : Plugin} {f : Failure} {a : Analysis} :
      Engine.StopsAt m.engine.order (w.analysisOf o) p f a →
      FileStops o w (.metric o.path p.id a.outline.path) f (w.analysed a)
  | smellPlan {measured : SourceOutline} {w₁ : World σ} {p : Problem} :
      Measures m o w measured w₁ → m.detectors.isEmpty = false →
      m.engine.plan (some (requiredMetrics m.detectors)) = .error p →
      FileStops o w (.smellPlan o.path) (.problem p) (w₁.analysed (w₁.analysisOf measured))
  | smellMetric {measured : SourceOutline} {w₁ : World σ} {plan : List Plugin} {p : Plugin}
      {f : Failure} {a : Analysis} :
      Measures m o w measured w₁ → m.detectors.isEmpty = false →
      m.engine.plan (some (requiredMetrics m.detectors)) = .ok plan →
      Engine.StopsAt plan (w₁.analysisOf measured) p f a →
      FileStops o w (.smellMetric o.path p.id a.outline.path) f (w₁.analysed a)
  | detector {measured : SourceOutline} {w₁ : World σ} {ids : List String} {b : Analysis}
      {d : Detector} {i : Nat} {f : Failure} {a : Analysis} :
      Measures m o w measured w₁ → m.detectors.isEmpty = false →
      m.engine.compute (some (requiredMetrics m.detectors)) (w₁.analysisOf measured) = (.ok ids, b) →
      Detection.StopsAt m.detectors b.outline.types.length b d i f a →
      FileStops o w (.detector o.path d.smell.name a.outline.path) f (w₁.analysed a)

theorem attributed_eq_told_metric (file id path : String) (f : Failure) :
    Engine.attributed id path f = (Call.metric file id path).told f := by
  cases f <;> rfl

theorem attributed_eq_told_smellMetric (file id path : String) (f : Failure) :
    Engine.attributed id path f = (Call.smellMetric file id path).told f := by
  cases f <;> rfl

theorem attributed_eq_told_detector (file path : String) (d : Detector) (f : Failure) :
    Detection.attributed d path f = (Call.detector file d.smell.name path).told f := by
  cases f <;> rfl

/-- What the detection of smells raises, and by which call. -/
theorem stops_of_detectSmells_error {o measured : SourceOutline} {w w₁ : World σ} {g : Failure}
    {a : Analysis} (hmeasured : Measures m o w measured w₁) (hds : m.detectors.isEmpty = false)
    (h : detectSmells m.detectors m.engine (w₁.analysisOf measured) = (.error g, a)) :
    ∃ call f, FileStops m o w call f (w₁.analysed a) ∧ g = call.told f ∧
      call.stage = .smells ∧ call.path = some o.path := by
  rcases (detectSmells_error_iff hds).1 h with hcompute | ⟨ids, b, d, i, f, hcompute, hstop, hg⟩
  · rcases Engine.compute_error_iff.1 hcompute with ⟨p, hplan, hg, ha⟩ | ⟨plan, p, f, hplan, hstop, hg⟩
    · rw [ha]
      exact ⟨_, _, .smellPlan hmeasured hds hplan, hg, rfl, rfl⟩
    · rw [attributed_eq_told_smellMetric o.path] at hg
      exact ⟨_, f, .smellMetric hmeasured hds hplan hstop, hg, rfl, rfl⟩
  · rw [attributed_eq_told_detector o.path] at hg
    exact ⟨_, f, .detector hmeasured hds hcompute hstop, hg, rfl, rfl⟩

/-- The pass over all metrics ends, or a plug-in raises something. -/
theorem measure_cases (o : SourceOutline) (w : World σ) :
    (∃ ids measured w', Measures m o w measured w' ∧
        during .metrics (some o.path) (World.onScene (Scene.calculate o (m.engine.compute none))) w =
          (.ok (ids, measured), w')) ∨
      ∃ call f w', FileStops m o w call f w' ∧
        during .metrics (some o.path) (World.onScene (Scene.calculate o (m.engine.compute none))) w =
          (.error (call.setback f), w') := by
  rcases hcompute : m.engine.compute none (w.analysisOf o) with ⟨r, a⟩
  cases r with
  | ok ids =>
    have hmeasured : Measures m o w a.outline (w.analysed a) := ⟨ids, a, hcompute, rfl, rfl⟩
    exact .inl ⟨ids, a.outline, w.analysed a, hmeasured, during_ok (onScene_calculate_ok hcompute)⟩
  | error g =>
    rcases Engine.compute_error_iff.1 hcompute with ⟨p, hplan, -⟩ | ⟨plan, p, f, hplan, hstop, hg⟩
    · -- there is a plan for all metrics: the order of the engine
      cases hplan
    · cases hplan
      rw [attributed_eq_told_metric o.path] at hg
      rw [hg] at hcompute
      have herror := during_error (.metric o.path p.id a.outline.path)
        (onScene_calculate_error hcompute)
      exact .inr ⟨_, f, _, .metric hstop, herror⟩

/-- A source file that was measured is judged, or the detection of smells raises something. -/
theorem smellsOf_cases {o measured : SourceOutline} {w w₁ : World σ}
    (hmeasured : Measures m o w measured w₁) :
    (∃ x w', x.parsed = o ∧ Examines m w x w' ∧
        m.smellsOf o.path measured w₁ = (.ok (x.findings, x.judged), w')) ∨
      ∃ call f w', FileStops m o w call f w' ∧
        m.smellsOf o.path measured w₁ = (.error (call.setback f), w') := by
  by_cases hds : m.detectors.isEmpty = true
  · -- without detectors nothing is judged, and nothing changes
    have hnone : detectSmells m.detectors m.engine (w₁.analysisOf measured) =
        (.ok [], w₁.analysisOf measured) := by
      simp only [detectSmells, hds, if_true]
    have hexamines : Examines m w ⟨o, measured, []⟩ w₁ := ⟨_, _, _, hmeasured, hnone, rfl, rfl⟩
    have hsmells : m.smellsOf o.path measured w₁ = (.ok ([], measured), w₁) := by
      rw [smellsOf, if_pos hds]
      rfl
    exact .inl ⟨⟨o, measured, []⟩, w₁, rfl, hexamines, hsmells⟩
  · have hstage : m.smellsOf o.path measured w₁ = during .smells (some o.path)
        (World.onScene (Scene.calculate measured (detectSmells m.detectors m.engine))) w₁ := by
      rw [smellsOf, if_neg hds]
    rw [hstage]
    rcases hdetect : detectSmells m.detectors m.engine (w₁.analysisOf measured) with ⟨r, b⟩
    cases r with
    | ok findings =>
      have hexamines : Examines m w ⟨o, b.outline, findings⟩ (w₁.analysed b) :=
        ⟨_, _, _, hmeasured, hdetect, rfl, rfl⟩
      exact .inl ⟨_, _, rfl, hexamines, during_ok (onScene_calculate_ok hdetect)⟩
    | error g =>
      obtain ⟨call, f, hstops, hg, hsmells, hpath⟩ :=
        stops_of_detectSmells_error m hmeasured (by simpa using hds) hdetect
      rw [hg] at hdetect
      have herror := during_error call (onScene_calculate_error hdetect)
      rw [hsmells, hpath] at herror
      exact .inr ⟨call, f, _, hstops, herror⟩

/-- **The analysis of a source file** is done, or a call of it raises something. -/
theorem recordsOfOutline_cases (c : Commit) (o : SourceOutline) (w : World σ) :
    (∃ x w', x.parsed = o ∧ Examines m w x w' ∧
        m.recordsOfOutline c o w = (.ok (x.records c), w')) ∨
      ∃ call f w', FileStops m o w call f w' ∧
        m.recordsOfOutline c o w = (.error (call.setback f), w') := by
  unfold recordsOfOutline
  rw [bind_apply]
  rcases measure_cases m o w with ⟨ids, measured, w₁, hmeasured, hrun⟩ | ⟨call, f, w', hstops, hrun⟩
  · rw [hrun]
    simp only [bind_apply]
    rcases smellsOf_cases m hmeasured with ⟨x, w', hx, hexamines, hrun⟩ | ⟨call, f, w', hstops, hrun⟩
    · rw [hrun]
      exact .inl ⟨x, w', hx, hexamines, rfl⟩
    · rw [hrun]
      exact .inr ⟨call, f, w', hstops, rfl⟩
  · rw [hrun]
    exact .inr ⟨call, f, w', hstops, rfl⟩

/-- The analysis of source files, one after the other. -/
theorem recordsOfAll_cases (c : Commit) (os : List SourceOutline) (w : World σ) :
    (∃ xs w', xs.map Examined.parsed = os ∧ ExaminesAll m w xs w' ∧
        m.recordsOfAll c os w = (.ok (xs.flatMap (Examined.records c)), w')) ∨
      ∃ xs o rest w₁ call f w', os = xs.map Examined.parsed ++ o :: rest ∧ ExaminesAll m w xs w₁ ∧
        FileStops m o w₁ call f w' ∧ m.recordsOfAll c os w = (.error (call.setback f), w') := by
  induction os generalizing w with
  | nil => exact .inl ⟨[], w, rfl, .nil w, rfl⟩
  | cons o os ih =>
    unfold recordsOfAll
    rw [bind_apply]
    rcases recordsOfOutline_cases m c o w with ⟨x, w₁, rfl, hx, hrun⟩ | ⟨call, f, w', hstops, hrun⟩
    · rw [hrun]
      simp only [bind_apply]
      rcases ih w₁ with ⟨xs, w', rfl, hxs, hrest⟩ | ⟨xs, o', rest, w₂, call, f, w', rfl, hxs, hstops, hrest⟩
      · rw [hrest]
        exact .inl ⟨x :: xs, w', rfl, .cons hx hxs, rfl⟩
      · rw [hrest]
        exact .inr ⟨x :: xs, o', rest, w₂, call, f, w', rfl, .cons hx hxs, hstops, rfl⟩
    · rw [hrun]
      exact .inr ⟨[], o, os, w, call, f, w', rfl, .nil w, hstops, rfl⟩

/-- An analysis goes on on the scene alone. -/
theorem ExaminesAll.steady {w w' : World σ} {xs : List Examined} (h : ExaminesAll m w xs w') :
    Steady w w' := by
  induction h with
  | nil w => exact .refl w
  | cons hx _ ih =>
    obtain ⟨_, w₁, a, ⟨_, b, _, _, rfl⟩, _, _, rfl⟩ := hx
    exact ((Steady.analysed _ b).trans (Steady.analysed _ a)).trans ih

theorem FileStops.steady {o : SourceOutline} {w w' : World σ} {call : Call} {f : Failure}
    (h : FileStops m o w call f w') : Steady w w' := by
  cases h with
  | metric _ => exact .analysed _ _
  | smellPlan hmeasured _ _ =>
    obtain ⟨_, b, _, _, rfl⟩ := hmeasured
    exact (Steady.analysed _ b).trans (.analysed _ _)
  | smellMetric hmeasured _ _ _ =>
    obtain ⟨_, b, _, _, rfl⟩ := hmeasured
    exact (Steady.analysed _ b).trans (.analysed _ _)
  | detector hmeasured _ _ _ =>
    obtain ⟨_, b, _, _, rfl⟩ := hmeasured
    exact (Steady.analysed _ b).trans (.analysed _ _)

/-- The calls of an analysis are made for the file under analysis, at one of two stages. -/
theorem FileStops.stage_path {o : SourceOutline} {w w' : World σ} {call : Call} {f : Failure}
    (h : FileStops m o w call f w') :
    (call.stage = .metrics ∨ call.stage = .smells) ∧ call.path = some o.path ∧
      call.isOnSession = false ∧ call.handed = [] := by
  cases h <;> simp [Call.stage, Call.path, Call.isOnSession, Call.handed]

end Miner

end HistoryMetrics
