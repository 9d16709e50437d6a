import HistoryMetrics.Proofs.Action.Loop
import HistoryMetrics.Smell.Detection

/-! # Where an analysis stops

    Plug-ins and detectors are run one after the other, and the first of them that raises something
    ends the analysis. The relations here say which one it was and what it raised, and the lemmas say
    what becomes of it: a fault is told as a problem of that plug-in or of that detector.

    - `Engine.StopsAt`, `runAll_error_iff`: a plug-in of a plan
    - `Detection.StopsAt`, `scan_error_iff`: a detector that looks at a type
    - `compute_error_iff`, `detectSmells_error_iff`: the two passes over a source file
-/

namespace HistoryMetrics

open HistoryMetrics.Action

/-! ## Plug-ins -/

namespace Engine

/-- **A run of plug-ins stops at one of them**: those before it have done their work, and it raises
    `f` and leaves the analysis as `a'`. -/
def StopsAt (plan : List Plugin) (a : Analysis) (p : Plugin) (f : Failure) (a' : Analysis) : Prop :=
  ∃ before after mid, plan = before ++ p :: after ∧ runAll before a = (.ok (), mid) ∧
    p.calculate mid = (.error f, a')

theorem runPlugin_error_iff {p : Plugin} {a a' : Analysis} {g : Failure} :
    runPlugin p a = (.error g, a') ↔
      ∃ f, p.calculate a = (.error f, a') ∧ g = attributed p.id a'.outline.path f := by
  unfold runPlugin
  rcases p.calculate a with ⟨r, b⟩
  cases r with
  | ok u => exact ⟨nofun, nofun⟩
  | error f =>
    constructor
    · intro h
      cases h
      exact ⟨f, rfl, rfl⟩
    · rintro ⟨f', hf, rfl⟩
      cases hf
      rfl

theorem runAll_endsAtFirst : EndsAtFirst runPlugin runAll where
  nil a := ⟨(), rfl⟩
  failed hp ps := by simp only [runAll, hp]
  passed {p a u b} hp := by
    refine ⟨id, fun ps => ?_⟩
    simp only [runAll, hp]
    rcases runAll ps b with ⟨r, c⟩
    cases r <;> rfl

/-- What comes out of a run of plug-ins was raised by one of them. -/
theorem runAll_error_iff {plan : List Plugin} {a a' : Analysis} {g : Failure} :
    runAll plan a = (.error g, a') ↔
      ∃ p f, StopsAt plan a p f a' ∧ g = attributed p.id a'.outline.path f := by
  rw [runAll_endsAtFirst.error_iff]
  constructor
  · rintro ⟨before, p, after, mid, hplan, ⟨u, hbefore⟩, herror⟩
    obtain ⟨f, hp, hg⟩ := runPlugin_error_iff.1 herror
    exact ⟨p, f, ⟨before, after, mid, hplan, hbefore, hp⟩, hg⟩
  · rintro ⟨p, f, ⟨before, after, mid, hplan, hbefore, hp⟩, hg⟩
    exact ⟨before, p, after, mid, hplan, ⟨(), hbefore⟩, runPlugin_error_iff.2 ⟨f, hp, hg⟩⟩

/-- **A pass of the engine fails** when there is no plan for the targets or when a plug-in of the plan
    raises something. -/
theorem compute_error_iff {e : Engine} {targets : Option (List String)} {a a' : Analysis}
    {g : Failure} :
    e.compute targets a = (.error g, a') ↔
      (∃ p, e.plan targets = .error p ∧ g = .problem p ∧ a' = a) ∨
      ∃ plan p f, e.plan targets = .ok plan ∧ StopsAt plan a p f a' ∧
        g = attributed p.id a'.outline.path f := by
  cases hplan : e.plan targets with
  | error p =>
    simp only [compute, hplan]
    constructor
    · intro h
      cases h
      exact .inl ⟨p, rfl, rfl, rfl⟩
    · rintro (⟨p', hp, rfl, rfl⟩ | ⟨plan, _, _, hp, -⟩)
      · cases hp
        rfl
      · cases hp
  | ok plan =>
    have hrun : e.compute targets a = (.error g, a') ↔ runAll plan a = (.error g, a') := by
      simp only [compute, hplan]
      rcases runAll plan a with ⟨r, b⟩
      cases r with
      | ok u => exact ⟨fun h => (by cases h), fun h => (by cases h)⟩
      | error f => exact ⟨fun h => by cases h; rfl, fun h => by cases h; rfl⟩
    refine hrun.trans (runAll_error_iff.trans ?_)
    constructor
    · rintro ⟨p, f, hstop, hg⟩
      exact .inr ⟨plan, p, f, rfl, hstop, hg⟩
    · rintro (⟨_, hp, -⟩ | ⟨_, p, f, hp, hstop, hg⟩)
      · cases hp
      · cases hp
        exact ⟨p, f, hstop, hg⟩

end Engine

/-! ## Detectors -/

namespace Detection

/-- Detectors that look at a type stop at one of them. -/
def StopsAtType (ds : List Detector) (i : Nat) (a : Analysis) (d : Detector) (f : Failure)
    (a' : Analysis) : Prop :=
  ∃ before after vs mid, ds = before ++ d :: after ∧ runDetectors i before a = (.ok vs, mid) ∧
    d.detect i mid = (.error f, a')

/-- **A detection stops at a detector**: the types before the `i`-th have been looked at, and so has
    this one by the detectors before it; then it raises `f`. -/
def StopsAt (ds : List Detector) (count : Nat) (a : Analysis) (d : Detector) (i : Nat) (f : Failure)
    (a' : Analysis) : Prop :=
  ∃ found mid, i < count ∧ scan ds i 0 a = (.ok found, mid) ∧ StopsAtType ds i mid d f a'

theorem runDetector_error_iff {d : Detector} {i : Nat} {a a' : Analysis} {g : Failure} :
    runDetector d i a = (.error g, a') ↔
      ∃ f, d.detect i a = (.error f, a') ∧ g = attributed d a'.outline.path f := by
  unfold runDetector
  rcases d.detect i a with ⟨r, b⟩
  cases r with
  | ok v => exact ⟨nofun, nofun⟩
  | error f =>
    constructor
    · intro h
      cases h
      exact ⟨f, rfl, rfl⟩
    · rintro ⟨f', hf, rfl⟩
      cases hf
      rfl

theorem runDetectors_endsAtFirst (i : Nat) :
    EndsAtFirst (fun d => runDetector d i) (runDetectors i) where
  nil a := ⟨[], rfl⟩
  failed hd ds := by simp only [runDetectors, hd]
  passed {d a v b} hd := by
    -- the verdict of the first one is put before those of the others
    refine ⟨fun vs => v.toList ++ vs, fun ds => ?_⟩
    simp only [runDetectors, hd]
    rcases runDetectors i ds b with ⟨r, c⟩
    cases r <;> rfl

theorem runDetectors_error_iff {ds : List Detector} {i : Nat} {a a' : Analysis} {g : Failure} :
    runDetectors i ds a = (.error g, a') ↔
      ∃ d f, StopsAtType ds i a d f a' ∧ g = attributed d a'.outline.path f := by
  rw [(runDetectors_endsAtFirst i).error_iff]
  constructor
  · rintro ⟨before, d, after, mid, hds, ⟨vs, hbefore⟩, herror⟩
    obtain ⟨f, hd, hg⟩ := runDetector_error_iff.1 herror
    exact ⟨d, f, ⟨before, after, vs, mid, hds, hbefore, hd⟩, hg⟩
  · rintro ⟨d, f, ⟨before, after, vs, mid, hds, hbefore, hd⟩, hg⟩
    exact ⟨before, d, after, mid, hds, ⟨vs, hbefore⟩, runDetector_error_iff.2 ⟨f, hd, hg⟩⟩

/-- The finding that verdicts on a type make, if there are any. -/
def findingOf (o : SourceOutline) (i : Nat) (vs : List Verdict) : Option Finding :=
  if vs = [] then none else some ⟨i, (o.types[i]?.map TypeOutline.name).getD "", vs⟩

/-- **One type of a scan.** Its finding comes first, and with a finding there is one more record in the
    journal; the types after it are looked at in the same way, however many they are. -/
theorem scan_succ {ds : List Detector} {i : Nat} {a b : Analysis} {vs : List Verdict}
    (h : runDetectors i ds a = (.ok vs, b)) :
    ∃ b', b'.outline = b.outline ∧ ∀ count, scan ds (count + 1) i a =
      match scan ds count (i + 1) b' with
      | (.ok rest, c) => (.ok ((findingOf b.outline i vs).toList ++ rest), c)
      | (.error f, c) => (.error f, c) := by
  cases vs with
  | nil =>
    refine ⟨b, rfl, fun count => ?_⟩
    simp only [scan, h, List.isEmpty_nil, if_true]
    rcases scan ds count (i + 1) b with ⟨r, c⟩
    cases r <;> rfl
  | cons v vs =>
    refine ⟨b.logged (record b.outline.path
      ((b.outline.types[i]?.map TypeOutline.name).getD "") (v :: vs)), rfl, fun count => ?_⟩
    simp only [scan, h, List.isEmpty_cons, Bool.false_eq_true, if_false]
    rcases scan ds count (i + 1) _ with ⟨r, c⟩
    cases r <;> rfl

theorem scan_error_iff_of_index {ds : List Detector} {count i : Nat} {a a' : Analysis} {g : Failure} :
    scan ds count i a = (.error g, a') ↔
      ∃ k found mid, k < count ∧ scan ds k i a = (.ok found, mid) ∧
        runDetectors (i + k) ds mid = (.error g, a') := by
  induction count generalizing i a with
  | zero =>
    refine ⟨nofun, ?_⟩
    rintro ⟨k, _, _, hk, -⟩
    exact absurd hk (Nat.not_lt_zero k)
  | succ count ih =>
    rcases htype : runDetectors i ds a with ⟨r, b⟩
    cases r with
    | error f =>
      -- the first type stops the scan, whatever comes after it
      have hscan : ∀ count, scan ds (count + 1) i a = (.error f, b) := by
        intro count
        simp only [scan, htype]
      rw [hscan]
      constructor
      · intro h
        cases h
        exact ⟨0, [], a, Nat.succ_pos _, rfl, htype⟩
      · rintro ⟨k, found, mid, -, hk, herror⟩
        cases k with
        | zero =>
          cases hk
          rw [Nat.add_zero, htype] at herror
          cases herror
          rfl
        | succ k =>
          rw [hscan] at hk
          cases hk
    | ok vs =>
      obtain ⟨b', -, hscan⟩ := scan_succ htype
      generalize (findingOf b.outline i vs).toList = found at hscan
      have hrest : scan ds (count + 1) i a = (.error g, a') ↔
          scan ds count (i + 1) b' = (.error g, a') := by
        rw [hscan]
        rcases scan ds count (i + 1) b' with ⟨r', c⟩
        cases r' with
        | ok rest => exact ⟨nofun, nofun⟩
        | error f => exact Iff.rfl
      rw [hrest, ih]
      constructor
      · rintro ⟨k, rest, mid, hk, hok, herror⟩
        refine ⟨k + 1, found ++ rest, mid, Nat.succ_lt_succ hk, ?_, ?_⟩
        · rw [hscan, hok]
        · rwa [Nat.add_right_comm] at herror
      · rintro ⟨k, found', mid, hk, hok, herror⟩
        cases k with
        | zero =>
          cases hok
          rw [Nat.add_zero, htype] at herror
          cases herror
        | succ k =>
          rw [hscan] at hok
          rcases hrun : scan ds k (i + 1) b' with ⟨r', c⟩
          rw [hrun] at hok
          cases r' with
          | error _ => cases hok
          | ok rest =>
            cases hok
            refine ⟨k, rest, mid, Nat.lt_of_succ_lt_succ hk, hrun, ?_⟩
            rwa [Nat.add_right_comm]

/-- What comes out of a scan was raised by a detector. -/
theorem scan_error_iff {ds : List Detector} {count : Nat} {a a' : Analysis} {g : Failure} :
    scan ds count 0 a = (.error g, a') ↔
      ∃ d i f, StopsAt ds count a d i f a' ∧ g = attributed d a'.outline.path f := by
  rw [scan_error_iff_of_index]
  constructor
  · rintro ⟨i, found, mid, hi, hok, herror⟩
    rw [Nat.zero_add, runDetectors_error_iff] at herror
    obtain ⟨d, f, hstop, hg⟩ := herror
    exact ⟨d, i, f, ⟨found, mid, hi, hok, hstop⟩, hg⟩
  · rintro ⟨d, i, f, ⟨found, mid, hi, hok, hstop⟩, hg⟩
    refine ⟨i, found, mid, hi, hok, ?_⟩
    rw [Nat.zero_add]
    exact runDetectors_error_iff.2 ⟨d, f, hstop, hg⟩

end Detection

/-- **A detection of smells fails** when its pass of the engine fails or when a detector raises
    something. -/
theorem detectSmells_error_iff {ds : List Detector} (hds : ds.isEmpty = false) {e : Engine}
    {a a' : Analysis} {g : Failure} :
    detectSmells ds e a = (.error g, a') ↔
      e.compute (some (requiredMetrics ds)) a = (.error g, a') ∨
      ∃ ids b d i f, e.compute (some (requiredMetrics ds)) a = (.ok ids, b) ∧
        Detection.StopsAt ds b.outline.types.length b d i f a' ∧
        g = Detection.attributed d a'.outline.path f := by
  simp only [detectSmells, hds, Bool.false_eq_true, if_false]
  rcases e.compute (some (requiredMetrics ds)) a with ⟨r, b⟩
  cases r with
  | error f =>
    constructor
    · intro h
      cases h
      exact .inl rfl
    · rintro (h | ⟨ids, b, d, i, f, h, -⟩)
      · cases h
        rfl
      · cases h
  | ok ids =>
    refine Detection.scan_error_iff.trans ⟨?_, ?_⟩
    · rintro ⟨d, i, f, hstop, hg⟩
      exact .inr ⟨ids, b, d, i, f, rfl, hstop, hg⟩
    · rintro (h | ⟨ids', b', d, i, f, h, hstop, hg⟩)
      · cases h
      · cases h
        exact ⟨d, i, f, hstop, hg⟩

end HistoryMetrics
