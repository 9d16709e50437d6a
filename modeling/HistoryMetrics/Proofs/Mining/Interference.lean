import HistoryMetrics.Proofs.Mining.Standard
import HistoryMetrics.Proofs.Mining.Twins
import HistoryMetrics.Proofs.Session.Parallel

/-! # Looking for smells does not interfere

    A run that looks for smells and one that does not go through the same worlds, but for the log and
    for the smells in what they hand over. A detection has metrics computed once more, but all of them
    hold by then, so it leaves the source file as it is; and with limits that were accepted it never
    fails. So the two runs end with the same report or the same failure, and hand over the same records
    up to their smells.

    - `Unnoticed`: who works for a miner takes no notice of the log and of smells
    - `unnoticed_journal`: scripts of answers take no notice of the journal
    - `Miner.WithoutDetectors`: two miners, the second of which does not look for smells
    - `agree_recordsOfOutline`, `agree_handOver`, `twins`: the two runs, part by part
    - `mine_overlooks_smells`: the two runs as a whole
-/

namespace HistoryMetrics

open HistoryMetrics.Action World

variable {σ α β : Type}

/-- **Who works for a miner takes no notice of what tells two scenes apart.** The provider reads the
    same source files, and the sink takes a record or refuses it whether or not smells come with it. -/
structure Unnoticed (R : Scene σ → Scene σ → Prop) (git : Git σ) (provider : Provider σ)
    (sink : Sink σ) : Prop extends git.Overlooks R where
  outlines : ∀ root paths, Agree R Eq (provider.outlines root paths) (provider.outlines root paths)
  receive : ∀ e : Emission, Agree R Eq (sink.receive e) (sink.receive e.withoutSmells)

/-- **With any git, any script of source files and a sink that takes everything, the journal goes
    unnoticed.** -/
theorem unnoticed_journal (git : Git σ)
    (script : Path → Option (List String) → σ → Except Failure (List SourceOutline) × σ) :
    Unnoticed SameButJournal git (.scripted script) .memory where
  toOverlooks := git.overlooks_sameButJournal
  outlines root paths := by
    rintro s _ ⟨hfiles, journal, rfl⟩
    exact ⟨.refl _, hfiles, journal, rfl⟩
  receive _ := agree_pure rfl

namespace Miner

/-- **Two miners that are the same, but the second does not look for smells.** The metrics are the
    built-in ones, and so are the detectors of the first, with limits that were accepted. -/
structure WithoutDetectors (m m' : Miner σ) : Prop where
  gitTimeout : m'.config.gitTimeout = m.config.gitTimeout
  binaryThreshold : m'.config.binaryThreshold = m.config.binaryThreshold
  failFast : m'.config.failFast = m.config.failFast
  provider : m'.provider = m.provider
  sink : m'.sink = m.sink
  engine : m'.engine = m.engine
  standard : Engine.make .standard = .ok m.engine
  detectors : ∃ settings : List (Thresholds × Option Engine), m.detectors = detectorsOf settings ∧
    ∀ s ∈ settings, s.1.IsAccepted
  none : m'.detectors = []

/-- Records, and the same records without their smells. -/
def SameButSmells (rs rs' : List TypeRecord) : Prop := rs' = rs.map TypeRecord.withoutSmells

theorem SameButSmells.append {rs rs' ss ss' : List TypeRecord} (h : SameButSmells rs rs')
    (h' : SameButSmells ss ss') : SameButSmells (rs ++ ss) (rs' ++ ss') := by
  rw [SameButSmells, h, h', List.map_append]

/-- Records without findings are records without smells. -/
theorem sameButSmells_recordsOf (commit : String) (moment : Moment) (o : SourceOutline)
    (findings : List Finding) :
    SameButSmells (recordsOf commit moment o findings) (recordsOf commit moment o []) := by
  refine List.ext_getElem (by simp [recordsOf]) fun i _ _ => ?_
  simp [recordsOf, recordOf, verdictsAt, TypeRecord.withoutSmells]

/-! ## Steps -/

/-- A calculation that returns, whatever the notes are, is a step that only logs. -/
theorem calculate_eq {o o' : SourceOutline} {c : Calculation α} {a : α} {written : List LogRecord}
    (h : ∀ notes, c ⟨o, notes, []⟩ = (.ok a, ⟨o', notes, written⟩)) (s : Scene σ) :
    Scene.calculate o c s = (.ok (a, o'), s.loggedAll written) := by
  simp only [Scene.calculate, h]
  rfl

section Runs

variable {R : Scene σ → Scene σ → Prop} {git : Git σ} {m m' : Miner σ} {base : List Emission}
  (hR : Unnoticed R git m.provider m.sink) (hm : WithoutDetectors m m')

/-- The log of the first scene is not noticed. -/
theorem loggedAll_left (hR : git.Overlooks R) {s t : Scene σ} (h : R s t) (rs : List LogRecord) :
    R (s.loggedAll rs) t := by
  induction rs generalizing s with
  | nil => exact h
  | cons r rs ih => exact ih (hR.logged_left h r)

theorem loggedAll_right (hR : git.Overlooks R) {s t : Scene σ} (h : R s t) (rs : List LogRecord) :
    R s (t.loggedAll rs) := by
  induction rs generalizing t with
  | nil => exact h
  | cons r rs ih => exact ih (hR.logged_right h r)

include hR

/-! ## One commit -/

include hm

theorem agree_parse (commit : String) :
    Agree (Parallel R git base) Eq (m.parse commit) (m'.parse commit) := by
  have hP : Session.Blind (fun _ => True) (fun _ => True) (Parallel R git base) :=
    blind_parallel hR.toOverlooks
  refine hP.agree_root.bind ?_
  rintro root _ ⟨rfl, -⟩
  refine (hP.agree_files commit).bind_eq fun paths => ?_
  rw [hm.provider]
  exact (agree_withFaults (hR.outlines _ (some paths)) _).onScene

/-- **Measuring** goes on in the same way in both runs, and then all metrics hold. -/
theorem agree_measure (o : SourceOutline) :
    Agree (Parallel R git base)
      (fun x y => y = x ∧ x.2.Holds Registry.standard.ids)
      (World.onScene (Scene.calculate o (m.engine.compute none)))
      (World.onScene (Scene.calculate o (m'.engine.compute none))) := by
  obtain ⟨ids, measured, written, hholds, hcompute⟩ := Engine.compute_measures hm.standard o
  rw [hm.engine]
  refine Agree.onScene fun s t hst => ?_
  rw [calculate_eq hcompute, calculate_eq hcompute]
  have hlogged := loggedAll_right hR.toOverlooks (loggedAll_left hR.toOverlooks hst written) written
  exact ⟨.ok ⟨rfl, hholds⟩, hlogged⟩

/-- **Looking for smells** in a measured source file is something that only the log tells of. -/
theorem agree_smellsOf (path : String) {o : SourceOutline} (ho : o.Holds Registry.standard.ids) :
    Agree (Parallel R git base) (fun x y => x.2 = o ∧ y = ([], o)) (m.smellsOf path o)
      (m'.smellsOf path o) := by
  have hsecond : m'.smellsOf path o = (pure ([], o) : Staged σ (List Finding × SourceOutline)) := by
    rw [smellsOf, hm.none]
    rfl
  rw [hsecond]
  by_cases hnone : m.detectors.isEmpty = true
  · rw [smellsOf, if_pos hnone]
    exact agree_pure ⟨rfl, rfl⟩
  · rw [smellsOf, if_neg hnone]
    obtain ⟨settings, hsettings, haccepted⟩ := hm.detectors
    rw [hsettings]
    intro w v hwv
    obtain ⟨findings, written, hdetect⟩ := detectSmells_rests hm.standard haccepted ho w.notes
    have hcalculate : Scene.calculate o (detectSmells (detectorsOf settings) m.engine) w.toScene =
        (.ok (findings, o), w.toScene.loggedAll written) := by
      simp only [Scene.calculate, hdetect]
      rfl
    simp only [during, World.onScene, hcalculate]
    exact ⟨.ok ⟨rfl, rfl⟩, hwv.withScene (loggedAll_left hR.toOverlooks hwv.scene written)⟩

theorem agree_recordsOfOutline (c : Commit) (o : SourceOutline) :
    Agree (Parallel R git base) SameButSmells (m.recordsOfOutline c o) (m'.recordsOfOutline c o) := by
  refine (agree_during (agree_measure hR hm o) _ _).bind ?_
  rintro ⟨ids, measured⟩ _ ⟨rfl, hholds⟩
  refine (agree_smellsOf hR hm o.path hholds).bind ?_
  rintro ⟨findings, judged⟩ _ ⟨rfl, rfl⟩
  exact agree_pure (sameButSmells_recordsOf _ _ _ findings)

theorem agree_recordsOfAll (c : Commit) (os : List SourceOutline) :
    Agree (Parallel R git base) SameButSmells (m.recordsOfAll c os) (m'.recordsOfAll c os) := by
  induction os with
  | nil => exact agree_pure rfl
  | cons o os ih =>
    refine (agree_recordsOfOutline hR hm c o).bind fun rs rs' hrs => ?_
    exact ih.bind fun rest rest' hrest => agree_pure (hrs.append hrest)

omit hm in
/-- **A record is taken in both runs**, or refused in both. -/
theorem agree_handOver (e : Emission) :
    Agree (Parallel R git base) Eq (m.sink.handOver e) (m.sink.handOver e.withoutSmells) := by
  refine (hR.receive e).onScene.bind_eq fun _ => agree_update fun w v h => ?_
  obtain ⟨t, new, hgit, hst, hnew, rfl⟩ := h
  refine ⟨t, new ++ [e], hgit, hst, ?_, ?_⟩
  · rw [hnew, List.append_assoc]
  · rw [List.map_append, List.map_singleton, List.append_assoc]

omit hm in
theorem agree_emitAll {rs rs' : List TypeRecord} (h : SameButSmells rs rs') :
    Agree (Parallel R git base) Eq (emitAll m.sink rs) (emitAll m.sink rs') := by
  rw [h]
  clear h
  induction rs with
  | nil => exact agree_pure rfl
  | cons r rs ih => exact (agree_handOver hR (.record r)).bind_eq fun _ => ih

/-! ## Whole runs -/

omit hR in
theorem openAt_eq (path : String) : m'.openAt path = m.openAt path := by
  rw [openAt, openAt, hm.gitTimeout, hm.binaryThreshold]

/-- **The two miners do the same work**, up to the smells of their records. -/
theorem twins (path : String) : Twins (Parallel R git base) SameButSmells m m' path where
  failFast := hm.failFast
  length hrs := by rw [hrs, List.length_map]
  opens := by
    rw [openAt_eq hm]
    exact (blind_parallel hR.toOverlooks).agree_open _ _ fun _ => trivial
  parses := agree_parse hR hm
  measures := agree_recordsOfAll hR hm
  emits id _ _ hrs := by
    rw [emit, emit, hm.sink]
    exact agree_withFaults (agree_emitAll hR hrs) _

theorem agree_mine (path : String) (selection : Selection) (failFast : Option Bool) :
    Agree (Parallel R git base) Eq (m.mine path selection failFast)
      (m'.mine path selection failFast) :=
  (twins hR hm path).agree_mine (blind_parallel hR.toOverlooks) selection failFast

end Runs

/-! ## Two settings -/

/-- Miners whose settings differ in whether to look for smells. -/
theorem withoutDetectors_of_settings {config : Config} (hconfig : config.HasAccepted) (on : Value)
    {off : Value} (hoff : off.isTruthy = false) (provider : Provider σ) (sink : Sink σ) :
    ∃ m m', make { config with includeSmells := on } provider sink .standard none = .ok m ∧
      make { config with includeSmells := off } provider sink .standard none = .ok m' ∧
      WithoutDetectors m m' ∧ m.provider = provider ∧ m.sink = sink := by
  obtain ⟨e, he⟩ := Registry.isBuiltIn_standard.make_ok
  have hnone : detectorsFor { config with includeSmells := off } = [] := by
    unfold detectorsFor
    rw [if_neg (by rw [hoff]; exact Bool.false_ne_true)]
  have haccepted : { config with includeSmells := on }.HasAccepted := hconfig
  refine ⟨_, _, make_standard he _ _ _, make_standard he _ _ _, ?_, rfl, rfl⟩
  exact ⟨rfl, rfl, rfl, rfl, rfl, rfl, he, ⟨_, detectorsFor_eq _, haccepted.detecting⟩, hnone⟩

/-- What was handed over without smells has none. -/
theorem smells_of_mem_withoutSmells {es : List Emission} {r : TypeRecord}
    (h : .record r ∈ es.map Emission.withoutSmells) : r.smells = [] := by
  obtain ⟨e, -, he⟩ := List.mem_map.1 h
  cases e with
  | commit c => cases he
  | record r' =>
    cases he
    rfl

/-- **Looking for smells does not interfere with anything else.** Two miners have the built-in metrics
    and detectors and the same settings, but the second is told to leave smells out. From the same
    world they end in the same way, whatever they are to mine; git is given the same commands; and they
    hand over the same, but for smells, of which the second has none. -/
theorem mine_overlooks_smells {R : Scene σ → Scene σ → Prop} {config : Config} (on : Value)
    {off : Value} {provider : Provider σ} {sink : Sink σ} {w : World σ}
    (hoff : off.isTruthy = false)
    (hconfig : ∀ t ∈ [config.brainMethod, config.complexMethod, config.longMethod], t.IsAccepted)
    (hR : Unnoticed R w.git provider sink) (hw : R w.toScene w.toScene) :
    ∃ m m', make { config with includeSmells := on } provider sink .standard none = .ok m ∧
      make { config with includeSmells := off } provider sink .standard none = .ok m' ∧
      ∀ path selection failFast, ∃ new,
        (m.mine path selection failFast w).1 = (m'.mine path selection failFast w).1 ∧
        (m.mine path selection failFast w).2.events = (m'.mine path selection failFast w).2.events ∧
        (m.mine path selection failFast w).2.accepted = w.accepted ++ new ∧
        (m'.mine path selection failFast w).2.accepted =
          w.accepted ++ new.map Emission.withoutSmells ∧
        ∀ r, .record r ∈ new.map Emission.withoutSmells → r.smells = [] := by
  obtain ⟨m, m', hmake, hmake', hm, rfl, rfl⟩ :=
    withoutDetectors_of_settings hconfig on hoff provider sink
  refine ⟨m, m', hmake, hmake', fun path selection failFast => ?_⟩
  have hstart : Parallel R w.git w.accepted w w :=
    ⟨w.toScene, [], rfl, hw, (List.append_nil _).symm, by rw [List.map_nil, List.append_nil]⟩
  obtain ⟨hend, hafter⟩ := agree_mine hR hm path selection failFast w w hstart
  have hevents := hafter.events_eq
  obtain ⟨t, new, -, -, hnew, hsecond⟩ := hafter
  refine ⟨new, hend.eq, hevents.symm, hnew, ?_, fun r hr => smells_of_mem_withoutSmells hr⟩
  rw [hsecond]

/-- Of three merges git has lost the second. The others give one record each, and the only method of
    the class is too long, whoever looks for it or not. -/
theorem mine_overlooks_smells_threeMerges : ∃ (m m' : Miner Unit) (r r' : TypeRecord),
    make { Config.standard with includeSmells := .bool true } longProvider .memory .standard none =
        .ok m ∧
      make { Config.standard with includeSmells := .bool false } longProvider .memory .standard none =
        .ok m' ∧
      (m.mine "/project" .everything (some false) worldOfMerges).1 =
        (m'.mine "/project" .everything (some false) worldOfMerges).1 ∧
      (m.mine "/project" .everything (some false) worldOfMerges).2.accepted =
        [.record r, .record r'] ∧
      (m'.mine "/project" .everything (some false) worldOfMerges).2.accepted =
        [.record r.withoutSmells, .record r'.withoutSmells] ∧
      r.smells.map (fun v => (v.smell, v.members)) = [(.longMethod, ["run"])] ∧
      r'.smells = r.smells := by
  let config := { Config.standard with includeSmells := .bool true }
  have hon : config.HasAccepted := Config.hasAccepted_standard
  have hscene : SameButJournal worldOfMerges.toScene worldOfMerges.toScene :=
    ⟨fun h hmem => absurd hmem List.not_mem_nil, _, rfl⟩
  have hoff : (Value.bool false).isTruthy = false := rfl
  obtain ⟨m, m', hmake, hmake', hmine⟩ := mine_overlooks_smells (.bool true) hoff
    Config.hasAccepted_standard
    (unnoticed_journal worldOfMerges.git fun _ _ outside => (.ok [longOutline], outside)) hscene
  obtain ⟨record, hm, hsmells⟩ := exists_rereads_long hon hmake
  obtain ⟨w', hrun, haccepted⟩ := mine_threeMerges hm (some false) rfl
  obtain ⟨new, hend, -, hfirst, hsecond, -⟩ := hmine "/project" .everything (some false)
  have hnew : new = _ := hfirst.symm.trans ((congrArg (fun x => x.2.accepted) hrun).trans haccepted)
  have hlong : (verdictsOn config.detecting longOutline.types[0]).map (fun v => (v.smell, v.members)) =
      [(.longMethod, ["run"])] := by
    decide
  refine ⟨m, m', _, _, hmake, hmake', hend, hfirst.trans hnew, ?_, ?_, ?_⟩
  · rw [hsecond, hnew]
    rfl
  · rw [hsmells, hlong]
  · rw [hsmells, hsmells]

end Miner

end HistoryMetrics
