import HistoryMetrics.Proofs.Mining.Standard

/-! # Failures stay with their commits

    While a run goes on after failures, a call that raises something costs its commit and no other.
    The stage, the path and the message of the failure in the report are those of the call, and the
    run goes on with the next id. Only two things end it early: the wish to stop, and what the session
    raises besides problems.

    - `mine_contains_failures`: what becomes of the failures of a whole run
-/

namespace HistoryMetrics

open HistoryMetrics.Action World

variable {σ : Type}

namespace Miner

/-- A run ends for want of a repository only after a turn that has closed it. -/
theorem History.getLast_of_unopened {m : Miner σ} {path : String} {total index : Nat}
    {known : List Commit} {ids : List String} {w w' : World σ} {turns : List Turn} {f : Failure}
    (h : History m path total known index ids w turns (.unopened f) w')
    (hopen : Session.isOpen w = true) : ∃ t ∈ turns.getLast?, t.isClosing = true := by
  have hlast := h.isClosing_of_unopened
  rw [hopen, Bool.not_true] at hlast
  cases turns with
  | nil => simp at hlast
  | cons t turns =>
    rw [List.map_cons, List.getLast?_cons_cons, ← List.map_cons, List.getLast?_map] at hlast
    obtain ⟨t', ht', hclosing⟩ := Option.map_eq_some_iff.1 hlast
    exact ⟨t', ht', hclosing⟩

/-- **Failures are contained** by every run that goes on after them. Unless there was nothing to begin
    with, the run has turns, one after the other, and its result is their report or the failure that
    has ended them. -/
theorem mine_contains_failures (m : Miner σ) (path : String) (selection : Selection)
    (failFast : Option Bool) (w : World σ)
    (hfast : failFast.getD m.config.failFast.isTruthy = false) :
    (∃ f w', Unselected m path selection w f ∧
        m.mine path selection failFast w = (.error f, w')) ∨
      ∃ ids known w₁ turns e w₂, Selects m path selection w ids known w₁ ∧
        History m path ids.length known 1 ids w₁ turns e w₂ ∧
        m.mine path selection failFast w = (e.result (reportOf turns), Session.close w₂) ∧
        -- each failed turn is one failure of the report, and there are no others
        ((reportOf turns).failures = turns.filterMap Turn.failure? ∧
          ∀ t ∈ turns, ∀ call f p, t.outcome = .failed call f p →
            t.failure? = some ⟨t.id, call.stage, p.message, call.path⟩ ∧
            (call.path.isSome ↔ call.stage = .metrics ∨ call.stage = .smells) ∧
            call.contains f = some p ∧
            ∃ v v', Stops m t.id (knownCommit known t.id) v call f v') ∧
        -- the run goes on with the next id
        (turns.map Turn.id <+: ids ∧ (e = .complete → turns.map Turn.id = ids)) ∧
        -- the repository is opened again after the operations of the session that have failed
        turns.map Turn.reopened = (false :: turns.map Turn.isClosing).take turns.length ∧
        -- the run ends early when this does not succeed, or when something is not contained
        (∀ f, e = .unopened f → ∃ t ∈ turns.getLast?, t.isClosing = true) ∧
        ∀ id call f, e = .escaped id call f →
          turns.map Turn.id ++ [id] <+: ids ∧
          (f = .interrupt ∨ call.isOnSession = true ∧ ∃ x, f = .fault x) := by
  rcases mine_history m path selection failFast w hfast with
    hnothing | ⟨ids, turns, e, w₂, ⟨known, w₁, hselects, hhistory⟩, hmine⟩
  · exact .inl hnothing
  · obtain ⟨hopen, _⟩ := hselects.isOpen_accepted
    refine .inr ⟨ids, known, w₁, turns, e, w₂, hselects, hhistory, hmine, ⟨rfl, ?_⟩,
      ⟨hhistory.ids_prefix, ?_⟩, ?_, ?_, ?_⟩
    · intro t ht call f p houtcome
      obtain ⟨v, v', _, hfailed⟩ := hhistory.outcome_of_mem ht
      obtain ⟨hstops, hcontains⟩ := hfailed call f p houtcome
      refine ⟨?_, call.path_isSome_iff, hcontains, v, v', hstops⟩
      rw [Turn.failure?, houtcome]
    · rintro rfl
      exact hhistory.ids_of_complete
    · rw [hhistory.reopened, hopen]
      rfl
    · rintro f rfl
      exact hhistory.getLast_of_unopened hopen
    · rintro id call f rfl
      obtain ⟨hpre, hnone, v, v', hstops⟩ := hhistory.escaped_prefix
      exact ⟨hpre, hstops.interrupt_or_fault m hnone⟩

/-- The failure of a turn is that of its commit. -/
theorem Turn.commit_of_failure? {t : Turn} {x : CommitFailure} (h : t.failure? = some x) :
    x.commit = t.id := by
  unfold failure? at h
  split at h
  · cases h
  · cases h
    rfl

theorem Turn.isClosing_of_failure?_eq_none {t : Turn} (h : t.failure? = none) :
    t.isClosing = false := by
  unfold failure? at h
  unfold isClosing
  split at h
  · rfl
  · cases h

/-- A commit that cannot be checked out closes the repository. -/
theorem Turn.isClosing_of_stage_checkout {t : Turn} {x : CommitFailure} (h : t.failure? = some x)
    (hstage : x.stage = .checkout) : t.isClosing = true := by
  unfold failure? at h
  unfold isClosing
  split at h
  · cases h
  · next call _ _ _ =>
    cases h
    cases call <;> first | rfl | cases hstage

/-- Of three merges git has lost the second. The repository is opened again for the third. -/
theorem mine_contains_failures_threeMerges : ∃ (m : Miner Unit) (turns : List Turn),
    make .standard longProvider .memory .standard none = .ok m ∧
    (m.mine "/project" .everything (some false) worldOfMerges).1 = .ok (reportOf turns) ∧
    turns.map Turn.id = ["c3", "c5", "c7"] ∧
    turns.map Turn.failure? = [none, some (lostFailure "c5"), none] ∧
    turns.map Turn.reopened = [false, false, true] := by
  obtain ⟨m, hmake⟩ := exists_make_standard .standard longProvider .memory
  obtain ⟨record, hm, -⟩ := exists_rereads_long Config.hasAccepted_standard hmake
  obtain ⟨w', hrun, -⟩ := mine_threeMerges hm (some false) rfl
  obtain ⟨_, _, hselected, -⟩ := exists_selects_threeMerges m
  rcases mine_contains_failures m "/project" .everything (some false) worldOfMerges rfl with
    ⟨f, v, _, hmine⟩ |
      ⟨ids, known, w₁, turns, e, w₂, hselects, _, hmine, ⟨_, _⟩, ⟨_, hids⟩, hreopened, _⟩
  · rw [hrun] at hmine
    cases hmine
  · obtain ⟨rfl, -⟩ := hselected.unique hselects
    rw [hrun] at hmine
    have hcomplete : e = .complete ∧ reportOf turns = ⟨["c3", "c7"], 2, [lostFailure "c5"]⟩ := by
      cases e with
      | unopened f => cases hmine
      | escaped id call f => cases hmine
      | complete => exact ⟨rfl, (Except.ok.inj (congrArg Prod.fst hmine)).symm⟩
    obtain ⟨rfl, hreport⟩ := hcomplete
    have hturns := hids rfl
    obtain ⟨t₃, rest, rfl, h₃, hrest⟩ := List.map_eq_cons_iff.1 hturns
    obtain ⟨t₅, rest, rfl, h₅, hrest⟩ := List.map_eq_cons_iff.1 hrest
    obtain ⟨t₇, rest, rfl, h₇, hrest⟩ := List.map_eq_cons_iff.1 hrest
    obtain rfl := List.map_eq_nil_iff.1 hrest
    have hfailures : [t₃, t₅, t₇].filterMap Turn.failure? = [lostFailure "c5"] :=
      congrArg Report.failures hreport
    have hnone : ∀ t ∈ [t₃, t₅, t₇], t.id ≠ "c5" → t.failure? = none := by
      intro t ht hid
      refine Option.eq_none_iff_forall_ne_some.2 fun x hx => hid ?_
      have hmem : x ∈ [t₃, t₅, t₇].filterMap Turn.failure? := List.mem_filterMap.2 ⟨t, ht, hx⟩
      rw [hfailures, List.mem_singleton] at hmem
      rw [← Turn.commit_of_failure? hx, hmem]
      rfl
    have hfirst : t₃.failure? = none := hnone t₃ (by simp) (by rw [h₃]; decide)
    have hlast : t₇.failure? = none := hnone t₇ (by simp) (by rw [h₇]; decide)
    have hlost : t₅.failure? = some (lostFailure "c5") := by
      cases hfailure : t₅.failure? with
      | none => simp [hfirst, hlast, hfailure] at hfailures
      | some x => simpa [hfirst, hlast, hfailure] using hfailures
    refine ⟨m, _, hmake, by rw [hrun, hreport], hturns, ?_, ?_⟩
    · simp only [List.map_cons, List.map_nil, hfirst, hlost, hlast]
    · rw [hreopened]
      simp only [List.map_cons, List.map_nil, Turn.isClosing_of_failure?_eq_none hfirst,
        Turn.isClosing_of_stage_checkout hlost rfl, Turn.isClosing_of_failure?_eq_none hlast,
        List.length_cons, List.length_nil, List.take_succ_cons, List.take_zero]

end Miner

end HistoryMetrics
