import HistoryMetrics.Proofs.Mining.Examination

/-! # The work on a commit

    The work goes from one call to the next. Either all of them return and the work is complete, or
    one of them raises something and the work stops there. The relations of this module tell how far
    the work came, with the worlds in between, and `workOn_cases` shows that there is nothing else.

    - `Miner.Parsed`: the commit is checked out and its source files are read
    - `Miner.Completes`, `Miner.Stops`: the two ways for the work to end
    - `Stops.accepted`, `Stops.isOpen`: what is handed over by then, and whether the repository is
      still open
-/

namespace HistoryMetrics

open HistoryMetrics.Action World

variable {σ α : Type}

namespace Miner

variable (m : Miner σ)

/-! ## Handing over -/

/-- Records that are handed over are accepted one after the other, and nothing else happens to the
    session. -/
theorem emitAll_ok {sink : Sink σ} {rs : List TypeRecord} {w w' : World σ}
    (h : emitAll sink rs w = (.ok (), w')) :
    w'.session = w.session ∧ w'.accepted = w.accepted ++ rs.map .record := by
  induction rs generalizing w with
  | nil =>
    cases h
    simp
  | cons r rs ih =>
    simp only [emitAll, bind_apply, Sink.handOver, World.onScene] at h
    rcases hreceive : sink.receive (.record r) w.toScene with ⟨result, s⟩
    rw [hreceive] at h
    cases result with
    | error f => cases h
    | ok u =>
      obtain ⟨hsession, haccepted⟩ := ih h
      refine ⟨hsession, haccepted.trans ?_⟩
      simp [List.append_assoc]

theorem emitAll_endsAtFirst (sink : Sink σ) :
    EndsAtFirst (fun r => sink.handOver (.record r)) (emitAll sink) where
  nil w := ⟨(), rfl⟩
  failed hr rs := by simp only [emitAll, bind_apply, hr]
  passed {r w u w'} hr := by
    refine ⟨id, fun rs => ?_⟩
    have hrest : emitAll sink (r :: rs) w = emitAll sink rs w' := by
      simp only [emitAll, bind_apply, hr]
    rw [hrest]
    rcases emitAll sink rs w' with ⟨result, w''⟩
    cases result <;> rfl

theorem handOver_error_iff {sink : Sink σ} {e : Emission} {w w' : World σ} {f : Failure} :
    sink.handOver e w = (.error f, w') ↔
      ∃ s, sink.receive e w.toScene = (.error f, s) ∧ w' = { w with toScene := s } := by
  simp only [Sink.handOver, bind_apply, World.onScene]
  rcases sink.receive e w.toScene with ⟨result, s⟩
  cases result with
  | ok u =>
    constructor
    · intro h
      cases h
    · rintro ⟨_, h, _⟩
      cases h
  | error g =>
    constructor
    · intro h
      cases h
      exact ⟨s, rfl, rfl⟩
    · rintro ⟨_, h, rfl⟩
      cases h
      rfl

/-- Records are all handed over, or one of them is refused. -/
theorem emitAll_cases (sink : Sink σ) (rs : List TypeRecord) (w : World σ) :
    (∃ w', emitAll sink rs w = (.ok (), w')) ∨
      ∃ handed r rest w₁ f s, rs = handed ++ r :: rest ∧ emitAll sink handed w = (.ok (), w₁) ∧
        sink.receive (.record r) w₁.toScene = (.error f, s) ∧
        emitAll sink rs w = (.error f, { w₁ with toScene := s }) := by
  rcases hrun : emitAll sink rs w with ⟨result, w'⟩
  cases result with
  | ok u => exact .inl ⟨w', rfl⟩
  | error f =>
    obtain ⟨handed, r, rest, w₁, hsplit, ⟨u, hhanded⟩, herror⟩ :=
      (emitAll_endsAtFirst sink).error_iff.1 hrun
    obtain ⟨s, hrefused, hw'⟩ := handOver_error_iff.1 herror
    rw [hw']
    exact .inr ⟨handed, r, rest, w₁, f, s, hsplit, hhanded, hrefused, rfl⟩

/-! ## One commit -/

/-- The commit is there and checked out. -/
def CheckedOut (id : String) (known : Option Commit) (w : World σ) (c : Commit) (w' : World σ) :
    Prop :=
  ∃ w₁, commitOf id known w = (.ok c, w₁) ∧ Session.checkout c.id w₁ = (.ok (), w')

/-- The files of the commit are known. -/
def Listed (id : String) (known : Option Commit) (w : World σ) (c : Commit) (root : Path)
    (paths : List String) (w' : World σ) : Prop :=
  ∃ w₁, CheckedOut id known w c w₁ ∧ Session.root w₁ = (.ok root, w₁) ∧
    Session.files c.id w₁ = (.ok paths, w')

/-- **The source files of the commit are read**; these are their outlines. -/
def Parsed (id : String) (known : Option Commit) (w : World σ) (c : Commit) (os : List SourceOutline)
    (w' : World σ) : Prop :=
  ∃ root paths w₁ s, Listed id known w c root paths w₁ ∧
    m.provider.outlines root (some paths) w₁.toScene = (.ok os, s) ∧ w' = { w₁ with toScene := s }

/-- **The work on a commit is complete**: its source files have been read and examined, and all
    records have been handed over. -/
def Completes (id : String) (known : Option Commit) (w : World σ) (c : Commit) (xs : List Examined)
    (w' : World σ) : Prop :=
  ∃ w₁ w₂, Parsed m id known w c (xs.map Examined.parsed) w₁ ∧ ExaminesAll m w₁ xs w₂ ∧
    emitAll m.sink (xs.flatMap (Examined.records c)) w₂ = (.ok (), w')

/-- **The work on a commit stops at a call**, which raises something. All calls before it have
    returned. -/
inductive Stops (id : String) (known : Option Commit) (w : World σ) :
    Call → Failure → World σ → Prop where
  | readCommit {f : Failure} {w' : World σ} :
      known = none → Session.commit id w = (.error f, w') → Stops id known w .readCommit f w'
  | checkout {c : Commit} {w₁ : World σ} {f : Failure} {w' : World σ} :
      commitOf id known w = (.ok c, w₁) → Session.checkout c.id w₁ = (.error f, w') →
      Stops id known w .checkout f w'
  | listFiles {c : Commit} {w₁ : World σ} {f : Failure} {w' : World σ} :
      CheckedOut id known w c w₁ → Session.files c.id w₁ = (.error f, w') →
      Stops id known w .listFiles f w'
  | readSources {c : Commit} {root : Path} {paths : List String} {w₁ : World σ} {f : Failure}
      {s : Scene σ} :
      Listed id known w c root paths w₁ →
      m.provider.outlines root (some paths) w₁.toScene = (.error f, s) →
      Stops id known w (.readSources root.text) f { w₁ with toScene := s }
  | file {c : Commit} {xs : List Examined} {o : SourceOutline} {rest : List SourceOutline}
      {w₁ w₂ : World σ} {call : Call} {f : Failure} {w' : World σ} :
      Parsed m id known w c (xs.map Examined.parsed ++ o :: rest) w₁ → ExaminesAll m w₁ xs w₂ →
      FileStops m o w₂ call f w' → Stops id known w call f w'
  | handOver {c : Commit} {xs : List Examined} {records : List TypeRecord} {before : Nat}
      {r : TypeRecord} {w₁ w₂ w₃ : World σ} {f : Failure} {s : Scene σ} :
      Parsed m id known w c (xs.map Examined.parsed) w₁ → ExaminesAll m w₁ xs w₂ →
      records = xs.flatMap (Examined.records c) → records[before]? = some r →
      emitAll m.sink (records.take before) w₂ = (.ok (), w₃) →
      m.sink.receive (.record r) w₃.toScene = (.error f, s) →
      Stops id known w (.handOver id records before) f { w₃ with toScene := s }

/-! ### How far the work came -/

theorem steady_of_commitOf_ok {id : String} {known : Option Commit} {w w' : World σ} {c : Commit}
    (h : commitOf id known w = (.ok c, w')) : Steady w w' := by
  cases known with
  | some c' =>
    cases h
    exact .refl w
  | none =>
    rcases hrun : Session.commit id w with ⟨r, w₁⟩
    have hends := (Session.commit_ends id w).of_eq hrun
    simp only [commitOf, during, hrun] at h
    cases r with
    | ok c' =>
      cases h
      exact hends.steady_of_ok
    | error f => cases f <;> cases h

theorem CheckedOut.steady {id : String} {known : Option Commit} {w w' : World σ} {c : Commit}
    (h : CheckedOut id known w c w') : Steady w w' ∧ w'.session.isSome := by
  obtain ⟨w₁, hcommit, hcheckout⟩ := h
  have hends := (Session.checkout_ends c.id w₁).of_eq hcheckout
  obtain ⟨hopen, hsession⟩ := hends.session_of_ok
  rw [← hsession] at hopen
  exact ⟨(steady_of_commitOf_ok hcommit).trans hends.steady_of_ok, hopen⟩

theorem Listed.steady {id : String} {known : Option Commit} {w w' : World σ} {c : Commit}
    {root : Path} {paths : List String} (h : Listed id known w c root paths w') :
    Steady w w' ∧ w'.session.isSome := by
  obtain ⟨w₁, hout, _, hfiles⟩ := h
  obtain ⟨hsteady, _⟩ := hout.steady
  have hends := (Session.files_ends c.id w₁).of_eq hfiles
  obtain ⟨hopen, hsession⟩ := hends.session_of_ok
  rw [← hsession] at hopen
  exact ⟨hsteady.trans hends.steady_of_ok, hopen⟩

theorem Parsed.steady {id : String} {known : Option Commit} {w w' : World σ} {c : Commit}
    {os : List SourceOutline} (h : Parsed m id known w c os w') :
    Steady w w' ∧ w'.session.isSome := by
  obtain ⟨root, paths, w₁, s, hlisted, _, rfl⟩ := h
  obtain ⟨hsteady, hopen⟩ := hlisted.steady
  exact ⟨hsteady.trans (Steady.scene w₁ s), hopen⟩

theorem Completes.isOpen {id : String} {known : Option Commit} {w w' : World σ} {c : Commit}
    {xs : List Examined} (h : Completes m id known w c xs w') : Session.isOpen w' = true := by
  obtain ⟨w₁, w₂, hparsed, hxs, hemit⟩ := h
  obtain ⟨_, hopen⟩ := hparsed.steady
  show w'.session.isSome = true
  rw [(emitAll_ok hemit).1, hxs.steady.session]
  exact hopen

/-- All records of a commit whose work is complete are accepted. -/
theorem Completes.accepted {id : String} {known : Option Commit} {w w' : World σ} {c : Commit}
    {xs : List Examined} (h : Completes m id known w c xs w') :
    w'.accepted = w.accepted ++ (xs.flatMap (Examined.records c)).map .record := by
  obtain ⟨w₁, w₂, hparsed, hxs, hemit⟩ := h
  rw [(emitAll_ok hemit).2, hxs.steady.accepted, hparsed.steady.1.accepted]

/-- When the work stops, just the records before the one that is refused have been accepted. -/
theorem Stops.accepted {id : String} {known : Option Commit} {w w' : World σ} {call : Call}
    {f : Failure} (h : Stops m id known w call f w') :
    w'.accepted = w.accepted ++ call.handed.map .record := by
  cases h with
  | readCommit _ hrun =>
    have hends := (Session.commit_ends id w).of_eq hrun
    simp [Call.handed, hends.accepted]
  | @checkout c w₁ _ _ hcommit hrun =>
    have hends := (Session.checkout_ends c.id w₁).of_eq hrun
    simp [Call.handed, hends.accepted, (steady_of_commitOf_ok hcommit).accepted]
  | @listFiles c w₁ _ _ hout hrun =>
    have hends := (Session.files_ends c.id w₁).of_eq hrun
    simp [Call.handed, hends.accepted, hout.steady.1.accepted]
  | readSources hlisted _ =>
    simp [Call.handed, hlisted.steady.1.accepted]
  | file hparsed hxs hstops =>
    obtain ⟨_, _, _, hhanded⟩ := hstops.stage_path
    rw [hstops.steady.accepted, hxs.steady.accepted, hparsed.steady.1.accepted, hhanded]
    simp
  | handOver hparsed hxs _ _ hemit _ =>
    have haccepted := (emitAll_ok hemit).2
    rw [hxs.steady.accepted, hparsed.steady.1.accepted] at haccepted
    exact haccepted

/-- **What the receiver has before it refuses a record** is a proper part of the records of the commit,
    from the first one on. -/
theorem Stops.handed_of_emit {id : String} {known : Option Commit} {w w' : World σ} {call : Call}
    {f : Failure} (h : Stops m id known w call f w') (hstage : call.stage = .emit) :
    ∃ c xs w₁ w₂ before, Parsed m id known w c (xs.map Examined.parsed) w₁ ∧
      ExaminesAll m w₁ xs w₂ ∧ before < (xs.flatMap (Examined.records c)).length ∧
      call.handed = (xs.flatMap (Examined.records c)).take before := by
  cases h with
  | readCommit _ _ => cases hstage
  | checkout _ _ => cases hstage
  | listFiles _ _ => cases hstage
  | readSources _ _ => cases hstage
  | file _ _ hstops =>
    obtain ⟨hfile, _⟩ := hstops.stage_path
    rw [hstage] at hfile
    rcases hfile with hfile | hfile <;> cases hfile
  | @handOver c xs records before r w₁ w₂ w₃ f s hparsed hxs hrecords hget _ _ =>
    rw [hrecords] at hget
    obtain ⟨hlt, _⟩ := List.getElem?_eq_some_iff.1 hget
    refine ⟨c, xs, w₁, w₂, before, hparsed, hxs, hlt, ?_⟩
    rw [← hrecords]
    rfl

/-- **The repository is open after a contained failure, unless the session itself has failed.** -/
theorem Stops.isOpen {id : String} {known : Option Commit} {w w' : World σ} {call : Call}
    {f : Failure} {p : Problem} (h : Stops m id known w call f w')
    (hp : call.contains f = some p) : Session.isOpen w' = !call.isOnSession := by
  cases h with
  -- an operation that fails with a problem has closed the repository
  | readCommit _ hrun =>
    rw [Call.eq_problem_of_contains rfl hp] at hrun
    have hends := (Session.commit_ends id w).of_eq hrun
    simp [Session.isOpen, hends.session_of_problem, Call.isOnSession]
  | @checkout c w₁ _ _ _ hrun =>
    rw [Call.eq_problem_of_contains rfl hp] at hrun
    have hends := (Session.checkout_ends c.id w₁).of_eq hrun
    simp [Session.isOpen, hends.session_of_problem, Call.isOnSession]
  | @listFiles c w₁ _ _ _ hrun =>
    rw [Call.eq_problem_of_contains rfl hp] at hrun
    have hends := (Session.files_ends c.id w₁).of_eq hrun
    simp [Session.isOpen, hends.session_of_problem, Call.isOnSession]
  -- the other calls do not touch it
  | readSources hlisted _ =>
    simpa [Session.isOpen, Call.isOnSession] using hlisted.steady.2
  | file hparsed hxs hstops =>
    obtain ⟨_, _, hnot, _⟩ := hstops.stage_path
    show w'.session.isSome = !call.isOnSession
    rw [hstops.steady.session, hxs.steady.session, hparsed.steady.2, hnot]
    rfl
  | @handOver _ _ _ _ _ _ _ w₃ _ s hparsed hxs _ _ hemit _ =>
    show w₃.session.isSome = true
    rw [(emitAll_ok hemit).1, hxs.steady.session]
    exact hparsed.steady.2

/-- **What is not contained** is the wish to stop, or a fault of the session. -/
theorem Stops.interrupt_or_fault {id : String} {known : Option Commit} {w w' : World σ} {call : Call}
    {f : Failure} (h : Stops m id known w call f w') (hnone : call.contains f = none) :
    f = .interrupt ∨ call.isOnSession = true ∧ ∃ e, f = .fault e := by
  refine Call.interrupt_or_fault_of_contains_eq_none (fun file hcall => ?_) hnone
  cases h with
  | readCommit _ _ => cases hcall
  | checkout _ _ => cases hcall
  | listFiles _ _ => cases hcall
  | readSources _ _ => cases hcall
  | handOver _ _ _ _ _ _ => cases hcall
  | file _ _ hstops =>
    cases hstops with
    | metric _ => cases hcall
    | smellPlan _ _ _ => exact ⟨_, rfl⟩
    | smellMetric _ _ _ _ => cases hcall
    | detector _ _ _ _ => cases hcall

/-! ### The two ways to end -/

/-- The commit is there, or it cannot be read. -/
theorem commitOf_cases (id : String) (known : Option Commit) (w : World σ) :
    (∃ c w', commitOf id known w = (.ok c, w')) ∨
      ∃ call f w', Stops m id known w call f w' ∧
        commitOf id known w = (.error (call.setback f), w') := by
  cases known with
  | some c => exact .inl ⟨c, w, rfl⟩
  | none =>
    rcases hread : Session.commit id w with ⟨r, w'⟩
    cases r with
    | ok c => exact .inl ⟨c, w', during_ok hread⟩
    | error f =>
      have herror := during_session_error .readCommit rfl hread
      exact .inr ⟨.readCommit, f, w', .readCommit rfl hread, herror⟩

/-- The work up to the source files: they have been read, or a call before has raised something. -/
theorem parse_cases (c : Commit) {id : String} {known : Option Commit} {w w₁ : World σ}
    (hout : CheckedOut id known w c w₁) :
    (∃ os w', Parsed m id known w c os w' ∧ during .parse none (m.parse c.id) w₁ = (.ok os, w')) ∨
      ∃ call f w', Stops m id known w call f w' ∧
        during .parse none (m.parse c.id) w₁ = (.error (call.setback f), w') := by
  obtain ⟨_, hopen⟩ := hout.steady
  obtain ⟨h, hs⟩ := Option.isSome_iff_exists.1 hopen
  have hroot : Session.root w₁ = (.ok h.root, w₁) := Session.root_of_session hs
  rcases hfiles : Session.files c.id w₁ with ⟨r, w₂⟩
  cases r with
  | error f =>
    have hparse : m.parse c.id w₁ = (.error f, w₂) := by
      simp only [parse, bind_apply, hroot, hfiles]
    have herror := during_session_error .listFiles rfl hparse
    exact .inr ⟨.listFiles, f, w₂, .listFiles hout hfiles, herror⟩
  | ok paths =>
    have hlisted : Listed id known w c h.root paths w₂ := ⟨w₁, hout, hroot, hfiles⟩
    have hparse : m.parse c.id w₁ = World.onScene (withFaults
        (fun e => .provider h.root.text e.shown none) (m.provider.outlines h.root (some paths))) w₂ := by
      simp only [parse, bind_apply, hroot, hfiles]
    rcases hread : m.provider.outlines h.root (some paths) w₂.toScene with ⟨r, s⟩
    cases r with
    | error f =>
      have htold : m.parse c.id w₁ =
          (.error ((Call.readSources h.root.text).told f), { w₂ with toScene := s }) := by
        simp only [hparse, World.onScene,
          withFaults_error hread (.readSources h.root.text) (fun _ => rfl)]
      exact .inr ⟨_, f, _, .readSources hlisted hread, during_error (.readSources h.root.text) htold⟩
    | ok os =>
      have hok : m.parse c.id w₁ = (.ok os, { w₂ with toScene := s }) := by
        simp only [hparse, World.onScene, withFaults_ok hread]
      exact .inl ⟨os, _, ⟨h.root, paths, w₂, s, hlisted, hread, rfl⟩, during_ok hok⟩

/-- The records of a commit are all handed over, or the receiver raises something. -/
theorem emit_cases {id : String} {known : Option Commit} {c : Commit} {xs : List Examined}
    {w w₁ w₂ : World σ} (hparsed : Parsed m id known w c (xs.map Examined.parsed) w₁)
    (hxs : ExaminesAll m w₁ xs w₂) :
    (∃ w', Completes m id known w c xs w' ∧
        during .emit none (m.emit id (xs.flatMap (Examined.records c))) w₂ = (.ok (), w')) ∨
      ∃ call f w', Stops m id known w call f w' ∧
        during .emit none (m.emit id (xs.flatMap (Examined.records c))) w₂ =
          (.error (call.setback f), w') := by
  generalize hrecords : xs.flatMap (Examined.records c) = records
  rcases emitAll_cases m.sink records w₂ with
    ⟨w', hok⟩ | ⟨handed, r, rest, w₃, f, s, hsplit, hhanded, hrefused, herror⟩
  · have hcomplete : Completes m id known w c xs w' := ⟨w₁, w₂, hparsed, hxs, hrecords ▸ hok⟩
    exact .inl ⟨w', hcomplete, during_ok (withFaults_ok hok)⟩
  · have hget : records[handed.length]? = some r := by rw [hsplit]; simp
    have htake : records.take handed.length = handed := by rw [hsplit]; simp
    rw [← htake] at hhanded
    have hstops : Stops m id known w (.handOver id records handed.length) f { w₃ with toScene := s } :=
      .handOver hparsed hxs hrecords.symm hget hhanded hrefused
    refine .inr ⟨_, f, _, hstops, during_error (.handOver id records handed.length) ?_⟩
    exact withFaults_error herror (.handOver id records handed.length) fun _ => rfl

/-- **The work on a commit is complete, or it stops at a call**; the call and what it has raised
    decide what becomes of the commit. -/
theorem workOn_cases (id : String) (known : Option Commit) (w : World σ) :
    (∃ c xs w', Completes m id known w c xs w' ∧
        m.workOn id known w = (.ok (xs.flatMap (Examined.records c)).length, w')) ∨
      ∃ call f w', Stops m id known w call f w' ∧
        m.workOn id known w = (.error (call.setback f), w') := by
  unfold workOn
  rw [bind_apply]
  rcases commitOf_cases m id known w with ⟨c, w₁, hcommit⟩ | ⟨call, f, w', hstops, hrun⟩
  · rw [hcommit]
    simp only [bind_apply]
    rcases hcheckout : Session.checkout c.id w₁ with ⟨r, w₂⟩
    cases r with
    | error f =>
      have herror := during_session_error .checkout rfl hcheckout
      simp only [Call.stage, Call.path] at herror
      rw [herror]
      exact .inr ⟨.checkout, f, w₂, .checkout hcommit hcheckout, rfl⟩
    | ok u =>
      rw [during_ok hcheckout]
      have hout : CheckedOut id known w c w₂ := ⟨w₁, hcommit, hcheckout⟩
      rcases parse_cases m c hout with ⟨os, w₃, hparsed, hrun⟩ | ⟨call, f, w', hstops, hrun⟩
      · simp only [hrun]
        rcases recordsOfAll_cases m c os w₃ with
          ⟨xs, w₄, rfl, hxs, hrun⟩ | ⟨xs, o, rest, w₄, call, f, w', rfl, hxs, hfile, hrun⟩
        · simp only [hrun]
          rcases emit_cases m hparsed hxs with ⟨w', hcomplete, hrun⟩ | ⟨call, f, w', hstops, hrun⟩
          · rw [hrun]
            exact .inl ⟨c, xs, w', hcomplete, rfl⟩
          · rw [hrun]
            exact .inr ⟨call, f, w', hstops, rfl⟩
        · simp only [hrun]
          exact .inr ⟨call, f, w', .file hparsed hxs hfile, rfl⟩
      · simp only [hrun]
        exact .inr ⟨call, f, w', hstops, rfl⟩
  · rw [hrun]
    exact .inr ⟨call, f, w', hstops, rfl⟩

end Miner

end HistoryMetrics
