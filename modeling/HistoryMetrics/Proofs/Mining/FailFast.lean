import HistoryMetrics.Proofs.Mining.Standard

/-! # Stopping at the first failure

    A run that stops at the first failure does what the tolerant run does, until the tolerant run
    puts its first failure into the report. There it ends: it raises the problem that the tolerant run
    reports, and closes the repository. If the tolerant run reports no failure at all, the two runs are
    the same.

    - `Miner.mineAll_append`: a run over some ids, and then over some more
    - `Miner.FirstFailure`: how the tolerant run comes to its first failure, and how it goes on
    - `Miner.mineAll_of_no_failure`, `FirstFailure.failFast`: the two cases for the loop over the ids
    - `mine_failFast`: the two cases for whole runs
-/

namespace HistoryMetrics

open HistoryMetrics.Action World

variable {σ : Type}

namespace Miner

variable {m : Miner σ} {path : String} {total : Nat} {known : List Commit}

/-! ## One commit -/

section commit

variable {index n : Nat} {id : String} {rest : List String} {report : Report} {w w₁ w₂ : World σ}
  {stage : Stage} {file : Option String} {p : Problem}

/-- After the work on a commit is done, the run goes on, whether or not it stops at failures. -/
theorem mineAll_of_analysed (failFast : Bool) (hbegins : Begins m path total index id w w₁)
    (hwork : m.workOn id (knownCommit known id) w₁ = (.ok n, w₂)) :
    m.mineAll path failFast total known index (id :: rest) report w =
      m.mineAll path failFast total known (index + 1) rest (report.analysed id n) w₂ := by
  obtain ⟨w₀, hreopen, rfl⟩ := hbegins
  simp only [mineAll, bind_apply, hreopen, World.log, update, mineCommit, hwork]

/-- A tolerant run reports a problem and goes on. -/
theorem mineAll_of_failed (hbegins : Begins m path total index id w w₁)
    (hwork : m.workOn id (knownCommit known id) w₁ = (.error (.problem stage file p), w₂)) :
    m.mineAll path false total known index (id :: rest) report w =
      m.mineAll path false total known (index + 1) rest (report.failed ⟨id, stage, p.message, file⟩)
        (w₂.logged (skipped id stage p)) := by
  obtain ⟨w₀, hreopen, rfl⟩ := hbegins
  simp only [mineAll, bind_apply, hreopen, World.log, update, mineCommit, hwork, Bool.false_eq_true,
    if_false]

/-- A run that stops at failures raises it. -/
theorem mineAll_failFast_of_failed (hbegins : Begins m path total index id w w₁)
    (hwork : m.workOn id (knownCommit known id) w₁ = (.error (.problem stage file p), w₂)) :
    m.mineAll path true total known index (id :: rest) report w =
      (.error (.problem p), w₂.logged (skipped id stage p)) := by
  obtain ⟨w₀, hreopen, rfl⟩ := hbegins
  simp only [mineAll, bind_apply, hreopen, World.log, update, mineCommit, hwork, if_true]

end commit

/-! ## The ids one after the other -/

/-- A run over some ids and some more is a run over these, and then over those. -/
theorem mineAll_append (failFast : Bool) (ids more : List String) (index : Nat) (report : Report)
    (w : World σ) :
    m.mineAll path failFast total known index (ids ++ more) report w =
      (m.mineAll path failFast total known index ids report >>= fun report =>
        m.mineAll path failFast total known (index + ids.length) more report) w := by
  induction ids generalizing index report w with
  | nil => rfl
  | cons id rest ih =>
    have hindex : index + 1 + rest.length = index + (id :: rest).length := by
      rw [List.length_cons]
      omega
    have hrest : ∀ r v, m.mineAll path failFast total known (index + 1) (rest ++ more) r v =
        (m.mineAll path failFast total known (index + 1) rest r >>= fun r =>
          m.mineAll path failFast total known (index + (id :: rest).length) more r) v := by
      intro r v
      rw [ih, hindex]
    rw [List.cons_append, bind_apply, mineAll, mineAll]
    simp only [bind_apply]
    -- the turn of the first id is the same in both
    rcases m.reopen path w with ⟨r, w₀⟩
    cases r with
    | error f => rfl
    | ok u =>
      simp only [World.log, update]
      rcases m.mineCommit failFast id (knownCommit known id) report _ with ⟨r, w₁⟩
      cases r with
      | error f => rfl
      | ok report' =>
        simp only [hrest, bind_apply]

section tolerant

variable {index : Nat} {ids : List String} {report report' : Report} {w w' : World σ}

/-- A tolerant run only adds to the failures. -/
theorem failures_of_mineAll_ok
    (h : m.mineAll path false total known index ids report w = (.ok report', w')) :
    report.failures <+: report'.failures := by
  obtain ⟨turns, e, v, _, hrun⟩ := mineAll_history m path total known ids index report w
  rw [h] at hrun
  cases e with
  | unopened f => cases hrun
  | escaped id call f => cases hrun
  | complete =>
    cases hrun
    rw [foldl_addTo]
    exact List.prefix_append _ _

/-- **How a tolerant run that ends with a report begins**: with a commit that is analysed, or with one
    that has a problem, which is put into the report. -/
theorem mineAll_cons_ok {id : String} {rest : List String}
    (h : m.mineAll path false total known index (id :: rest) report w = (.ok report', w')) :
    ∃ w₁, Begins m path total index id w w₁ ∧
      ((∃ n w₂, m.workOn id (knownCommit known id) w₁ = (.ok n, w₂) ∧
          m.mineAll path false total known (index + 1) rest (report.analysed id n) w₂ =
            (.ok report', w')) ∨
        ∃ stage file p w₂,
          m.workOn id (knownCommit known id) w₁ = (.error (.problem stage file p), w₂) ∧
          m.mineAll path false total known (index + 1) rest
            (report.failed ⟨id, stage, p.message, file⟩) (w₂.logged (skipped id stage p)) =
              (.ok report', w')) := by
  rcases hreopen : m.reopen path w with ⟨r, w₀⟩
  cases r with
  | error f =>
    rw [mineAll, bind_apply, hreopen] at h
    cases h
  | ok u =>
    have hbegins : Begins m path total index id w
        (w₀.logged (.plain .info logger (progress index total id))) := ⟨w₀, hreopen, rfl⟩
    refine ⟨_, hbegins, ?_⟩
    rcases hwork : m.workOn id (knownCommit known id)
        (w₀.logged (.plain .info logger (progress index total id))) with ⟨r, w₂⟩
    cases r with
    | ok n =>
      rw [mineAll_of_analysed false hbegins hwork] at h
      exact .inl ⟨n, w₂, rfl, h⟩
    | error setback =>
      cases setback with
      | problem stage file p =>
        rw [mineAll_of_failed hbegins hwork] at h
        exact .inr ⟨stage, file, p, w₂, rfl, h⟩
      | fatal f =>
        -- what is not contained ends every run
        simp only [mineAll, bind_apply, hreopen, World.log, update, mineCommit, hwork] at h
        cases h

/-- **Without a failure the two runs are the same.** -/
theorem mineAll_of_no_failure
    (h : m.mineAll path false total known index ids report w = (.ok report', w'))
    (hnone : report'.failures = report.failures) :
    m.mineAll path true total known index ids report w = (.ok report', w') := by
  induction ids generalizing index report w with
  | nil => exact h
  | cons id rest ih =>
    obtain ⟨w₁, hbegins, ⟨n, w₂, hwork, hrest⟩ | ⟨stage, file, p, w₂, _, hrest⟩⟩ :=
      mineAll_cons_ok h
    · rw [mineAll_of_analysed true hbegins hwork]
      exact ih hrest hnone
    · -- a failure that is in the report stays there
      have hlength := (failures_of_mineAll_ok hrest).length_le
      simp [Report.failed, hnone] at hlength

end tolerant

/-! ## The first failure -/

/-- **The first failure of a tolerant run** that ends with a report.

    - `analysed`, `none_before`: the ids before have been gone through, and no failure was reported
    - `begins`, `stops`: the work on the next id stops with a problem
    - `goes_on`: the problem is reported, and the run goes on with the ids after
-/
structure FirstFailure (m : Miner σ) (path : String) (total : Nat) (known : List Commit) (index : Nat)
    (ids : List String) (report : Report) (w : World σ) (report' : Report) (w' : World σ) where
  before : List String
  id : String
  after : List String
  soFar : Report
  stage : Stage
  file : Option String
  problem : Problem
  reached : World σ
  begun : World σ
  stopped : World σ
  ids_eq : ids = before ++ id :: after
  analysed : m.mineAll path false total known index before report w = (.ok soFar, reached)
  none_before : soFar.failures = report.failures
  begins : Begins m path total (index + before.length) id reached begun
  stops : m.workOn id (knownCommit known id) begun = (.error (.problem stage file problem), stopped)
  goes_on : m.mineAll path false total known (index + before.length + 1) after
    (soFar.failed ⟨id, stage, problem.message, file⟩) (stopped.logged (skipped id stage problem)) =
      (.ok report', w')

namespace FirstFailure

variable {index : Nat} {ids : List String} {report report' : Report} {w w' : World σ}

/-- What the report says of it. -/
def failure (first : FirstFailure m path total known index ids report w report' w') : CommitFailure :=
  ⟨first.id, first.stage, first.problem.message, first.file⟩

/-- The world in which it is put into the report. -/
def recorded (first : FirstFailure m path total known index ids report w report' w') : World σ :=
  first.stopped.logged (skipped first.id first.stage first.problem)

variable (first : FirstFailure m path total known index ids report w report' w')

/-- In the report it comes after the failures that were there before the run. -/
theorem failures_eq : ∃ rest, report'.failures = report.failures ++ first.failure :: rest := by
  obtain ⟨rest, hrest⟩ := failures_of_mineAll_ok first.goes_on
  refine ⟨rest, ?_⟩
  rw [← hrest, Report.failed, first.none_before, List.append_assoc]
  rfl

/-- What was handed over until then stays handed over. -/
theorem accepted_prefix : first.recorded.accepted <+: w'.accepted := by
  obtain ⟨turns, e, v, hhistory, hrun⟩ := mineAll_history m path total known first.after
    (index + first.before.length + 1) (first.soFar.failed first.failure) first.recorded
  have hv : v = w' := (Prod.mk.inj (hrun.symm.trans first.goes_on)).2
  have haccepted := hhistory.accepted
  rw [hv] at haccepted
  rw [haccepted]
  exact List.prefix_append _ _

/-- **The run that stops at failures ends just there**, with the problem that was reported. -/
theorem failFast : m.mineAll path true total known index ids report w =
    (.error (.problem first.problem), first.recorded) := by
  have hbefore : m.mineAll path true total known index first.before report w =
      (.ok first.soFar, first.reached) := mineAll_of_no_failure first.analysed first.none_before
  calc m.mineAll path true total known index ids report w
      = m.mineAll path true total known index (first.before ++ first.id :: first.after) report w := by
        rw [← first.ids_eq]
    _ = m.mineAll path true total known (index + first.before.length) (first.id :: first.after)
          first.soFar first.reached := by rw [mineAll_append, bind_apply, hbefore]
    _ = (.error (.problem first.problem), first.recorded) :=
        mineAll_failFast_of_failed first.begins first.stops

/-- The tolerant run over the ids until then ends where it is put into the report. -/
theorem reaches : m.mineAll path false total known index (first.before ++ [first.id]) report w =
    (.ok (first.soFar.failed first.failure), first.recorded) := by
  rw [mineAll_append, bind_apply, first.analysed]
  exact mineAll_of_failed first.begins first.stops

/-- One more commit that is analysed before. -/
def cons {id : String} {n : Nat} {w₁ w₂ : World σ} (hbegins : Begins m path total index id w w₁)
    (hwork : m.workOn id (knownCommit known id) w₁ = (.ok n, w₂))
    (first : FirstFailure m path total known (index + 1) ids (report.analysed id n) w₂ report' w') :
    FirstFailure m path total known index (id :: ids) report w report' w' :=
  have hindex : index + 1 + first.before.length = index + (id :: first.before).length := by
    rw [List.length_cons]
    omega
  { first with
    before := id :: first.before
    ids_eq := congrArg (id :: ·) first.ids_eq
    analysed := (mineAll_of_analysed false hbegins hwork).trans first.analysed
    begins := hindex ▸ first.begins
    goes_on := hindex ▸ first.goes_on }

end FirstFailure

/-- **A tolerant run that has reported failures has a first one.** -/
theorem exists_firstFailure {index : Nat} {ids : List String} {report report' : Report}
    {w w' : World σ} (h : m.mineAll path false total known index ids report w = (.ok report', w'))
    (hsome : report'.failures ≠ report.failures) :
    Nonempty (FirstFailure m path total known index ids report w report' w') := by
  induction ids generalizing index report w with
  | nil =>
    cases h
    exact absurd rfl hsome
  | cons id rest ih =>
    obtain ⟨w₁, hbegins, ⟨n, w₂, hwork, hrest⟩ | ⟨stage, file, p, w₂, hwork, hrest⟩⟩ :=
      mineAll_cons_ok h
    · obtain ⟨first⟩ := ih hrest hsome
      exact ⟨first.cons hbegins hwork⟩
    · exact ⟨⟨[], id, rest, report, stage, file, p, w, w₁, w₂, rfl, rfl, rfl, hbegins, hwork, hrest⟩⟩

/-! ## Whole runs -/

/-- A tolerant run that ends with a report has selected ids and gone over them. -/
theorem mine_ok {m : Miner σ} {selection : Selection} {tolerant : Option Bool} {w w' : World σ}
    {report : Report} (htolerant : tolerant.getD m.config.failFast.isTruthy = false)
    (h : m.mine path selection tolerant w = (.ok report, w')) :
    ∃ ids known w₁ w₂, Selects m path selection w ids known w₁ ∧ w' = Session.close w₂ ∧
      m.mineAll path false ids.length known 1 ids .empty w₁ = (.ok report, w₂) := by
  rcases mine_history m path selection tolerant w htolerant with
    ⟨f, v, _, hmine⟩ | ⟨ids, _, _, _, ⟨known, w₁, hselects, _⟩, _⟩
  · rw [h] at hmine
    cases hmine
  · have hmine := mine_of_selects hselects tolerant
    rw [h, htolerant] at hmine
    rcases hall : m.mineAll path false ids.length known 1 ids .empty w₁ with ⟨r, w₂⟩
    rw [hall] at hmine
    cases hmine
    exact ⟨ids, known, w₁, w₂, hselects, rfl, hall⟩

/-- **Stopping at the first failure is a prefix of the tolerant run**, from the same world.

    If the tolerant run reports no failure, the other one ends with the same report, in the same world.
    If it reports one, the other one raises the problem of the first, and ends in the world in which
    the tolerant run put it into the report, with the repository closed. -/
theorem mine_failFast (m : Miner σ) (path : String) (selection : Selection)
    (tolerant failFast : Option Bool) {w w' : World σ} {report : Report}
    (htolerant : tolerant.getD m.config.failFast.isTruthy = false)
    (hfailFast : failFast.getD m.config.failFast.isTruthy = true)
    (hrun : m.mine path selection tolerant w = (.ok report, w')) :
    (report.failures = [] → m.mine path selection failFast w = (.ok report, w')) ∧
    (report.failures ≠ [] →
      ∃ ids known w₁ w₂, Selects m path selection w ids known w₁ ∧ w' = Session.close w₂ ∧
        ∃ first : FirstFailure m path ids.length known 1 ids .empty w₁ report w₂,
          -- the problem that is raised is the first one that is reported
          report.failures.head? = some first.failure ∧
          (m.mine path selection failFast w).1 = .error (.problem first.problem) ∧
          -- the receiver has what the tolerant run had handed over by then
          (m.mine path selection failFast w).2.accepted = first.recorded.accepted ∧
          first.recorded.accepted <+: w'.accepted ∧
          -- nothing was done to git since then but to end the helper
          Adds GitEvent.IsClosing first.recorded (m.mine path selection failFast w).2 ∧
          (m.mine path selection failFast w).2.session = none) := by
  obtain ⟨ids, known, w₁, w₂, hselects, hw', hall⟩ := mine_ok htolerant hrun
  have hmine := mine_of_selects hselects failFast
  rw [hfailFast] at hmine
  constructor
  · intro hnone
    rw [hmine, mineAll_of_no_failure hall hnone, hw']
  · intro hsome
    obtain ⟨first⟩ := exists_firstFailure hall hsome
    have hfirst : m.mine path selection failFast w =
        (.error (.problem first.problem), Session.close first.recorded) := by
      rw [hmine, first.failFast]
    refine ⟨ids, known, w₁, w₂, hselects, hw', first, ?reported, ?raised, ?accepted, ?before, ?events,
      ?closed⟩
    case reported =>
      obtain ⟨rest, hrest⟩ := first.failures_eq
      rw [hrest]
      rfl
    case raised => rw [hfirst]
    case accepted => rw [hfirst, Session.close_accepted]
    case before =>
      rw [hw', Session.close_accepted]
      exact first.accepted_prefix
    case events =>
      rw [hfirst]
      exact Session.adds_close _
    case closed =>
      rw [hfirst]
      exact Session.close_session _

/-- Of three merges git has lost the second. A run that stops there has handed over the record of the
    first, and leaves the third alone. -/
theorem mine_failFast_threeMerges : ∃ (m : Miner Unit) (r : TypeRecord) (p : Problem)
    (w' : World Unit), make .standard longProvider .memory .standard none = .ok m ∧
      m.mine "/project" .everything (some true) worldOfMerges = (.error (.problem p), w') ∧
      p.message = (lostFailure "c5").error ∧ w'.accepted = [.record r] ∧ w'.session = none := by
  obtain ⟨m, hmake⟩ := exists_make_standard .standard longProvider .memory
  obtain ⟨record, hm, -⟩ := exists_rereads_long Config.hasAccepted_standard hmake
  obtain ⟨w', hrun, -⟩ := mine_threeMerges hm (some false) rfl
  obtain ⟨_, hfailed⟩ := mine_failFast m "/project" .everything (some false) (some true) rfl rfl hrun
  obtain ⟨ids, known, w₁, w₂, hselects, -, first, hreported, hraised, haccepted, -, -, hclosed⟩ :=
    hfailed (List.cons_ne_nil _ _)
  obtain ⟨_, _, hselected, hknown, hw₁, haccepted₁⟩ := exists_selects_threeMerges m
  obtain ⟨rfl, rfl, rfl⟩ := hselected.unique hselects
  have hfailure : first.failure = lostFailure "c5" := (Option.some.inj hreported).symm
  have hid : first.id = "c5" := congrArg CommitFailure.commit hfailure
  have hbefore : first.before = ["c3"] := by
    have hfirst : first.id ∉ ["c3"] := by rw [hid]; decide
    have hlast : first.id ∉ ["c7"] := by rw [hid]; decide
    exact ((List.append_cons_inj_of_notMem hfirst hlast).1 first.ids_eq).1.symm
  -- the tolerant run over the first two commits ends where the failure is put into the report
  have hreaches := first.reaches
  rw [hbefore, hid] at hreaches
  have hknown' : ∀ e ∈ [mergeOf "c3" isHex_c3, mergeOf "c5" isHex_c5],
      knownCommit known e.id = some (e.commit []) := fun e he =>
    hknown e (List.mem_of_mem_take (i := 2) he)
  obtain ⟨v, hall, -, haccepted₂⟩ := mineAll_telling hm hknown' 3 1 .empty hw₁
  obtain rfl : first.recorded = v := congrArg Prod.snd (hreaches.symm.trans hall)
  obtain ⟨hthere, hlost, -⟩ := isLost_threeMerges
  refine ⟨m, record ((mergeOf "c3" isHex_c3).commit []), first.problem, _, hmake,
    Prod.ext hraised rfl, congrArg CommitFailure.error hfailure, ?_, hclosed⟩
  rw [haccepted, haccepted₂, haccepted₁]
  rw [List.flatMap_cons, List.flatMap_cons, List.flatMap_nil, handedBy_of_kept hthere,
    handedBy_of_lost hlost]
  rfl

end Miner

end HistoryMetrics
