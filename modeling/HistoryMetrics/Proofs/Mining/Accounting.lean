import HistoryMetrics.Proofs.Mining.Standard

/-! # The accounts of a run

    A run that ends with a report has had one turn for each id. So the report leaves no id out and
    counts none twice, and what the receiver has accepted is just what the turns handed over: all
    records of a commit that was analysed, a part of them when a record was refused, and nothing when
    the commit had failed before. Where plug-ins and detectors leave the types in place, there is one
    record for each type that was read.

    - `Turn.IsAccounted`: what the receiver has got of one commit
    - `mine_accounts`: the accounts of the whole run
-/

namespace HistoryMetrics

open HistoryMetrics.Action World

variable {σ : Type}

namespace Miner

/-! ## One turn -/

/-- The number of types in the source files of an analysed commit. -/
def Turn.typeCount (t : Turn) : Nat :=
  match t.outcome with
  | .analysed _ files => (files.map fun x => x.judged.types.length).sum
  | .failed .. => 0

theorem Turn.length_records (t : Turn) : t.records.length = t.typeCount := by
  unfold Turn.records Turn.typeCount
  cases t.outcome with
  | analysed c files =>
    simp only [List.length_flatMap, Examined.length_records]
  | failed call f p => rfl

/-- The types of an analysed commit as they were read. -/
def Turn.typesRead (t : Turn) : List (String × String) :=
  match t.outcome with
  | .analysed _ files => files.flatMap fun x => x.parsed.typeNames
  | .failed .. => []

/-- A record has the path of its file and the name of its type. -/
theorem Examined.map_names_records (c : Commit) (x : Examined) :
    (x.records c).map (fun r => (r.path, r.typeName)) = x.judged.typeNames := by
  refine List.ext_getElem (by simp [Examined.records, recordsOf, SourceOutline.typeNames]) ?_
  intro i _ _
  simp [Examined.records, recordsOf, recordOf, SourceOutline.typeNames]

theorem Examines.typeNames {m : Miner σ} (h : m.KeepsTypes) {w w' : World σ} {x : Examined}
    (hx : Examines m w x w') : x.judged.typeNames = x.parsed.typeNames := by
  obtain ⟨measured, w₁, a, ⟨ids, b, hcompute, rfl, rfl⟩, hsmells, hjudged, rfl⟩ := hx
  have hmeasured : SameTypes (w.analysisOf x.parsed) b := (h.engine.compute none).of_eq hcompute
  have hmoves : Moves SameTypes (detectSmells m.detectors m.engine) :=
    moves_detectSmells sameTypes_logged (h.engine.compute _) h.detectors
  have hsame : SameTypes ((w.analysed b).analysisOf b.outline) a := hmoves.of_eq hsmells
  rw [hjudged]
  exact hsame.trans hmeasured

/-- Analyses that leave the types in place give one record for each type that was read. -/
theorem ExaminesAll.map_names_records {m : Miner σ} (h : m.KeepsTypes) (c : Commit) {w w' : World σ}
    {xs : List Examined} (hxs : ExaminesAll m w xs w') :
    (xs.flatMap (Examined.records c)).map (fun r => (r.path, r.typeName)) =
      xs.flatMap fun x => x.parsed.typeNames := by
  induction hxs with
  | nil w => rfl
  | cons hx _ ih =>
    rw [List.flatMap_cons, List.map_append, ih, Examined.map_names_records, hx.typeNames h]
    rfl

/-- **What the receiver has got of a commit.**

    - `all`: the work on the commit was complete, and all records of its files were accepted
    - `part`: a record was refused, and only those before it were accepted
    - `nothing`: the commit had failed before there was something to hand over
-/
inductive Turn.IsAccounted (m : Miner σ) (known : List Commit) (t : Turn) : Prop where
  | all {c : Commit} {files : List Examined} {w w' : World σ} :
      t.outcome = .analysed c files → Completes m t.id (knownCommit known t.id) w c files w' →
      t.accepted = files.flatMap (Examined.records c) → Turn.IsAccounted m known t
  | part {call : Call} {f : Failure} {p : Problem} {c : Commit} {files : List Examined}
      {w w₁ w₂ : World σ} {before : Nat} :
      t.outcome = .failed call f p → call.stage = .emit →
      Parsed m t.id (knownCommit known t.id) w c (files.map Examined.parsed) w₁ →
      ExaminesAll m w₁ files w₂ → before < (files.flatMap (Examined.records c)).length →
      t.accepted = (files.flatMap (Examined.records c)).take before → Turn.IsAccounted m known t
  | nothing {call : Call} {f : Failure} {p : Problem} :
      t.outcome = .failed call f p → call.stage ≠ .emit → t.accepted = [] →
      Turn.IsAccounted m known t

theorem History.isAccounted_of_mem {m : Miner σ} {path : String} {total index : Nat}
    {known : List Commit} {ids : List String} {w w' : World σ} {turns : List Turn} {e : Ending}
    (h : History m path total known index ids w turns e w') {t : Turn} (ht : t ∈ turns) :
    t.IsAccounted m known := by
  obtain ⟨w₁, w₂, hanalysed, hfailed⟩ := h.outcome_of_mem ht
  have haccepted : t.accepted = match t.outcome with
      | .analysed c files => files.flatMap (Examined.records c)
      | .failed call _ _ => call.handed := by
    unfold Turn.accepted Turn.records
    cases t.outcome <;> rfl
  cases houtcome : t.outcome with
  | analysed c files =>
    rw [houtcome] at haccepted
    exact .all houtcome (hanalysed c files houtcome) haccepted
  | failed call f p =>
    rw [houtcome] at haccepted
    obtain ⟨hstops, _⟩ := hfailed call f p houtcome
    -- only the receiver can stop the work when something was handed over
    by_cases hstage : call.stage = .emit
    · obtain ⟨c, files, v₁, v₂, before, hparsed, hxs, hlt, hhanded⟩ := hstops.handed_of_emit m hstage
      exact .part houtcome hstage hparsed hxs hlt (haccepted.trans hhanded)
    · exact .nothing houtcome hstage (haccepted.trans (Call.handed_of_stage_ne_emit hstage))

/-- The records of a turn are those of the types that were read, in their order. -/
theorem History.map_names_records {m : Miner σ} {path : String} {total index : Nat}
    {known : List Commit} {ids : List String} {w w' : World σ} {turns : List Turn} {e : Ending}
    (h : History m path total known index ids w turns e w') (hm : m.KeepsTypes) {t : Turn}
    (ht : t ∈ turns) : t.records.map (fun r => (r.path, r.typeName)) = t.typesRead := by
  obtain ⟨w₁, w₂, hanalysed, _⟩ := h.outcome_of_mem ht
  unfold Turn.records Turn.typesRead
  cases houtcome : t.outcome with
  | analysed c files =>
    obtain ⟨_, _, _, hexamines, _⟩ := hanalysed c files houtcome
    exact hexamines.map_names_records hm c
  | failed call f p => rfl

/-! ## The report -/

/-- The failures of the report are those of the turns that failed. -/
theorem map_commit_filterMap_failure? (turns : List Turn) :
    (turns.filterMap Turn.failure?).map CommitFailure.commit =
      (turns.filter fun t => !t.isAnalysed).map Turn.id := by
  induction turns with
  | nil => rfl
  | cons t turns ih =>
    obtain ⟨id, reopened, outcome⟩ := t
    cases outcome with
    | analysed c files => simpa [List.filterMap_cons, Turn.failure?, Turn.isAnalysed] using ih
    | failed call f p => simpa [Turn.failure?, Turn.isAnalysed] using ih

theorem sum_typeCount_filter (turns : List Turn) :
    ((turns.filter Turn.isAnalysed).map Turn.typeCount).sum =
      (turns.map fun t => t.records.length).sum := by
  induction turns with
  | nil => rfl
  | cons t turns ih =>
    obtain ⟨id, reopened, outcome⟩ := t
    cases outcome with
    | analysed c files =>
      rw [List.map_cons, List.sum_cons, Turn.length_records, ← ih]
      rfl
    | failed call f p => simpa [Turn.isAnalysed, Turn.records] using ih

/-- **The accounts of a run** that goes on after failures and ends with a report. -/
theorem mine_accounts (m : Miner σ) (path : String) (selection : Selection)
    (failFast : Option Bool) {w w' : World σ} {report : Report}
    (hfast : failFast.getD m.config.failFast.isTruthy = false)
    (hrun : m.mine path selection failFast w = (.ok report, w')) :
    ∃ ids known w₁ turns w₂, Selects m path selection w ids known w₁ ∧
      History m path ids.length known 1 ids w₁ turns .complete w₂ ∧
      -- each id has its turn, and is either among the commits or among the failures
      (turns.map Turn.id = ids ∧
        report.commits = (turns.filter fun t => t.isAnalysed).map Turn.id ∧
        report.failures.map CommitFailure.commit =
          (turns.filter fun t => !t.isAnalysed).map Turn.id) ∧
      -- the number of records is that of the types in the files of the commits
      report.records = ((turns.filter fun t => t.isAnalysed).map Turn.typeCount).sum ∧
      -- the receiver has got what the turns handed over, in their order
      w'.accepted = w.accepted ++ (turns.flatMap Turn.accepted).map .record ∧
      (∀ t ∈ turns, t.IsAccounted m known) ∧
      -- the records are those of the types that were read, if these are left in place
      (m.KeepsTypes →
        report.records = ((turns.filter fun t => t.isAnalysed).map fun t => t.typesRead.length).sum ∧
        ∀ t ∈ turns, t.records.map (fun r => (r.path, r.typeName)) = t.typesRead) := by
  rcases mine_history m path selection failFast w hfast with
    ⟨f, v, _, hmine⟩ | ⟨ids, turns, e, w₂, ⟨known, w₁, hselects, hhistory⟩, hmine⟩
  · rw [hrun] at hmine
    cases hmine
  · rw [hrun] at hmine
    cases e with
    | unopened f => cases hmine
    | escaped id call f => cases hmine
    | complete =>
      cases hmine
      refine ⟨ids, known, w₁, turns, w₂, hselects, hhistory, ⟨hhistory.ids_of_complete, rfl, ?_⟩,
        ?_, ?_, fun t ht => hhistory.isAccounted_of_mem ht,
        fun hm => ⟨?_, fun t ht => hhistory.map_names_records hm ht⟩⟩
      · exact map_commit_filterMap_failure? turns
      · exact (sum_typeCount_filter turns).symm
      · rw [Session.close_accepted, hhistory.accepted, hselects.isOpen_accepted.2]
        simp [Ending.handed]
      · show (turns.map fun t => t.records.length).sum = _
        rw [← sum_typeCount_filter]
        congr 1
        refine List.map_congr_left fun t ht => ?_
        rw [← t.length_records, ← hhistory.map_names_records hm (List.mem_of_mem_filter ht),
          List.length_map]

/-- The types of an analysed commit are those of the source files that the provider reads. -/
theorem Turn.IsAccounted.typesRead {m : Miner Unit} {known : List Commit} {t : Turn}
    {os : List SourceOutline} {records : Commit → List TypeRecord} (h : t.IsAccounted m known)
    (hm : m.Rereads os records) (hanalysed : t.isAnalysed = true) :
    t.typesRead = os.flatMap SourceOutline.typeNames := by
  cases h with
  | all houtcome hcompletes _ =>
    obtain ⟨_, _, ⟨_, _, _, _, _, hread, _⟩, _⟩ := hcompletes
    rw [hm.provider] at hread
    have hparsed : os = _ := Except.ok.inj (congrArg Prod.fst hread)
    rw [Turn.typesRead, houtcome, hparsed, List.flatMap_map]
  | part houtcome => simp [Turn.isAnalysed, houtcome] at hanalysed
  | nothing houtcome => simp [Turn.isAnalysed, houtcome] at hanalysed

/-- Of three merges git has lost the second. The others give one record each, of the only class. -/
theorem mine_accounts_threeMerges : ∃ (m : Miner Unit) (turns : List Turn) (w' : World Unit),
    make .standard longProvider .memory .standard none = .ok m ∧
    m.mine "/project" .everything (some false) worldOfMerges =
      (.ok ⟨["c3", "c7"], 2, [lostFailure "c5"]⟩, w') ∧
    turns.map Turn.id = ["c3", "c5", "c7"] ∧
    (turns.filter Turn.isAnalysed).map Turn.id = ["c3", "c7"] ∧
    (turns.filter fun t => !t.isAnalysed).map Turn.id = ["c5"] ∧
    w'.accepted = (turns.flatMap Turn.accepted).map .record ∧
    ∀ t ∈ turns, t.isAnalysed = true →
      t.records.map (fun r => (r.path, r.typeName)) = [("mod.py", "Long")] := by
  obtain ⟨m, hmake⟩ := exists_make_standard .standard longProvider .memory
  obtain ⟨record, hm, -⟩ := exists_rereads_long Config.hasAccepted_standard hmake
  obtain ⟨w', hrun, -⟩ := mine_threeMerges hm (some false) rfl
  obtain ⟨ids, known, w₁, turns, w₂, hselects, -, ⟨hids, hcommits, hfailures⟩, -, haccepted,
      haccounted, hnames⟩ :=
    mine_accounts m "/project" .everything (some false) rfl hrun
  obtain ⟨_, _, hselected, -⟩ := exists_selects_threeMerges m
  obtain ⟨rfl, -⟩ := hselected.unique hselects
  refine ⟨m, turns, w', hmake, hrun, hids, hcommits.symm, hfailures.symm, haccepted,
    fun t ht hanalysed => ?_⟩
  rw [(hnames (keepsTypes_of_make hmake)).2 t ht, (haccounted t ht).typesRead hm hanalysed]
  rfl

end Miner

end HistoryMetrics
