import HistoryMetrics.Proofs.Git.Appeal
import HistoryMetrics.Proofs.Repository.Commands

/-! # When reading a repository fails

    Reading commits asks git for the history and then, commit by commit, for what it is compared with, for
    the changed paths and for the patch of each of them. A command that fails ends the reading. It is told
    as a problem of the history, or as one of the changes of this commit, and for a patch with its path.

    - `Repository.Compares`, `Repository.Describes`, `Repository.Reads`: what is asked, in which words a
      failure is told, and in which world it is asked
    - `changesOf_of_fails`, `commitOf_of_fails`, `commits_of_fails`: a failure is told in these words
    - `covers_changesOf`, `covers_commitOf`, `covers_commits`: nothing else is asked
    - `speaks_commitOf`, `speaks_commits`: and no problem of a command gets through
-/

namespace HistoryMetrics

open HistoryMetrics.Action World

variable {σ α β : Type}

/-- **A table of what may be asked**: appeals, the words in which their failures are told, and the worlds
    in which they are made. -/
abbrev Appeals (σ : Type) : Type := Appeal → (String → Problem) → World σ → Prop

/-- The event belongs to one of the appeals. -/
def Appeals.Leave (A : Appeals σ) (e : GitEvent) : Prop := ∃ a told v, A a told v ∧ a.Leaves e

namespace Repository

/-! ## What is asked -/

/-- **What comparing a commit asks.** -/
inductive Compares (r : Repository) (w : World σ) (commit : String) (parents : List String) :
    Appeals σ where
  | emptyTree (hparents : parents = []) (hunknown : w.emptyTrees.lookup r.number = none) :
      Compares r w commit parents (.command r Git.treeArguments (some ""))
        (fun reason => .diff commit reason none) w
  | listing {base : String} {v : World σ} (hone : parents.length ≤ 1)
      (hbase : r.base parents w = (.ok base, v)) :
      Compares r w commit parents (.command r (listingArguments base commit) none)
        (fun reason => .diff commit reason none) v
  | patch {base text : String} {before after done : List Change} {c : Change} {w₁ w₂ v : World σ}
      (hone : parents.length ≤ 1) (hlisting : r.listing commit parents w = (.ok (base, text), w₁))
      (hlisted : listed text w₁ = (.ok (before ++ c :: after), w₂))
      (hbefore : forEach (r.withLines base commit) before w₂ = (.ok done, v)) :
      Compares r w commit parents (.command r (patchArguments base commit c) none)
        (fun reason => .diff commit reason (some c.path)) v

/-- **What the commit of a record asks**: it is compared. -/
def Describes (r : Repository) (w : World σ) (record : List Char) : Appeals σ :=
  fun a told v => ∃ c, History.ofRecord record = .ok c ∧ r.Compares w c.id c.parents a told v

/-- **What reading commits asks**: the history, and then what the commit of each record asks. -/
inductive Reads (r : Repository) (w : World σ) (selection : List String) : Appeals σ where
  | history : Reads r w selection (.command r (logArguments selection) none)
      (fun reason => .historyRead reason none) w
  | record {before after : List (List Char)} {record : List Char} {done : List Commit} {w₁ w₂ v : World σ}
      {a : Appeal} {told : String → Problem}
      (hrecords : r.records selection w = (.ok (before ++ record :: after), w₁))
      (hbefore : forEach r.commitOf before w₁ = (.ok done, w₂)) (h : r.Describes w₂ record a told v) :
      Reads r w selection a told v

variable {r : Repository} {w v : World σ} {commit : String} {parents selection : List String}
  {record : List Char} {a : Appeal} {told : String → Problem} {reason : String}

/-! ## Failures -/

/-- A commit with one parent or none is compared. -/
theorem changesOf_eq (hone : parents.length ≤ 1) :
    (r.changesOf commit parents : Action (World σ) (List Change)) =
      (r.listing commit parents).renamed (asDiff commit none) >>= fun found =>
        listed found.2 >>= fun changes => forEach (r.withLines found.1 commit) changes := by
  unfold changesOf
  rw [if_neg (Nat.not_lt.2 hone)]

/-- What is compared with cannot be listed. -/
theorem changesOf_of_listing (hone : parents.length ≤ 1)
    (h : FailsFor reason (r.listing commit parents w).1) :
    (r.changesOf commit parents w).1 = .error (.problem (.diff commit reason none)) := by
  rw [changesOf_eq hone]
  exact bind_fst_of_error (h.renamed fun _ _ => rfl)

/-- **Comparing a commit fails** with a problem of its changes. -/
theorem changesOf_of_fails (h : r.Compares w commit parents a told v) (hfails : a.Fails v reason) :
    (r.changesOf commit parents w).1 = .error (.problem (told reason)) := by
  cases h with
  | emptyTree hparents hunknown =>
    subst hparents
    have htree : FailsFor reason (r.emptyTree w).1 := by
      obtain ⟨arguments, code, hrun⟩ := failsFor_run_iff.2 hfails
      refine ⟨arguments, code, ?_⟩
      unfold Git.treeArguments at hrun
      rcases hresult : r.run ["hash-object", "-t", "tree", "--stdin"] (some "") w with ⟨result, w'⟩
      rw [hresult] at hrun
      subst hrun
      simp only [emptyTree, hunknown, hresult]
    exact changesOf_of_listing (Nat.zero_le 1) htree.bind
  | listing hone hbase =>
    refine changesOf_of_listing hone ?_
    obtain ⟨arguments, code, hrun⟩ := failsFor_run_iff.2 hfails
    refine ⟨arguments, code, ?_⟩
    rw [listing, bind_fst_of_ok hbase]
    exact bind_fst_of_error hrun
  | patch hone hlisting hlisted hbefore =>
    rw [changesOf_eq hone, bind_fst_of_ok (renamed_ok_iff.2 hlisting), bind_fst_of_ok hlisted]
    exact forEach_fst_of_error hbefore (bind_run_of_fails hfails fun _ _ => rfl)

/-- **Reading the commit of a record fails** as comparing it does. -/
theorem commitOf_of_fails (h : r.Describes w record a told v) (hfails : a.Fails v reason) :
    (r.commitOf record w).1 = .error (.problem (told reason)) := by
  obtain ⟨c, hc, hcompares⟩ := h
  have hread : Action.ofResult ((History.ofRecord record).mapError .problem) w = (.ok c, w) := by
    rw [hc]
    rfl
  rw [commitOf, bind_fst_of_ok hread]
  exact bind_fst_of_error (changesOf_of_fails hcompares hfails)

/-- The history cannot be read. -/
theorem records_of_fails (hfails : (Appeal.command r (logArguments selection) none).Fails w reason) :
    (r.records selection w).1 = .error (.problem (.historyRead reason none)) :=
  bind_run_of_fails hfails fun _ _ => rfl

/-- **Reading commits fails** with a problem of the history, or as reading one of the commits does. -/
theorem commits_of_fails (h : r.Reads w selection a told v) (hfails : a.Fails v reason) :
    (r.commits selection w).1 = .error (.problem (told reason)) := by
  cases h with
  | history => exact bind_fst_of_error (records_of_fails hfails)
  | record hrecords hbefore hdescribes =>
    rw [commits, bind_fst_of_ok hrecords]
    exact forEach_fst_of_error hbefore (commitOf_of_fails hdescribes hfails)

/-! ## Nothing else is asked -/

variable {P : GitEvent → Prop}

theorem adds_listed (text : String) : Moves (Adds P) (listed text : Action (World σ) (List Change)) := by
  have hlog : Moves (Adds P) (logUnknown (StatusList.ofText text) : Action (World σ) Unit) := by
    intro w
    unfold logUnknown Action.update
    induction (StatusList.ofText text).unknowns generalizing w with
    | nil => exact .refl w
    | cons u us ih => exact (Adds.scene w _).trans (ih _)
  refine hlog.bind fun _ => ?_
  split
  · exact moves_fail _
  · exact moves_pure _

/-- A command that is one of the appeals. -/
theorem covers_run {A : Appeals σ} {arguments : List String} {input : Option String}
    (h : A (.command r arguments input) told w) : Adds A.Leave w (r.run arguments input w).2 :=
  (leaves_run r arguments input w).mono fun _ he => ⟨_, _, _, h, he⟩

theorem covers_base :
    Adds (Appeals.Leave (r.Compares w commit parents)) w (r.base parents w).2 := by
  cases parents with
  | cons parent rest => exact .refl w
  | nil =>
    show Adds _ w (r.emptyTree w).2
    cases hknown : w.emptyTrees.lookup r.number with
    | some tree =>
      simp only [emptyTree, hknown]
      exact .refl w
    | none =>
      have hasked : r.Compares w commit [] (.command r Git.treeArguments (some ""))
          (fun reason => .diff commit reason none) w := .emptyTree rfl hknown
      have hrun := covers_run hasked
      unfold Git.treeArguments at hrun
      rcases hresult : r.run ["hash-object", "-t", "tree", "--stdin"] (some "") w with ⟨result, w'⟩
      rw [hresult] at hrun
      simp only [emptyTree, hknown, hresult]
      cases result with
      | error f => exact hrun
      | ok output => exact hrun.trans (.of_events_eq rfl)

/-- **Comparing a commit** asks what is in the table. -/
theorem covers_changesOf :
    Adds (Appeals.Leave (r.Compares w commit parents)) w (r.changesOf commit parents w).2 := by
  by_cases hone : parents.length ≤ 1
  · rw [changesOf_eq hone]
    refine course_bind ?_ ?_
    · rw [renamed_snd]
      refine course_bind covers_base fun base w₁ hbase => ?_
      exact course_bind (covers_run (.listing hone hbase)) fun _ _ _ => .refl _
    · intro ⟨base, text⟩ w₁ hlisting
      refine course_bind (adds_listed text w₁) fun changes w₂ hlisted => ?_
      refine course_forEach fun before c after done v hchanges hbefore => ?_
      subst hchanges
      refine course_bind ?_ fun _ _ _ => .refl _
      rw [renamed_snd]
      exact covers_run (.patch hone (renamed_ok_iff.1 hlisting) hlisted hbefore)
  · have hmerge : (r.changesOf commit parents w).2 = w := by
      rw [changesOf, if_pos (Nat.lt_of_not_le hone)]
      rfl
    rw [hmerge]
    exact .refl w

theorem covers_commitOf :
    Adds (Appeals.Leave (r.Describes w record)) w (r.commitOf record w).2 := by
  refine course_bind (.refl w) fun c w' hread => ?_
  obtain ⟨hc, rfl⟩ := ofResult_ok_iff.1 hread
  have hc : History.ofRecord record = .ok c := mapError_ok_iff.1 hc
  refine course_bind ?_ fun _ _ _ => .refl _
  exact covers_changesOf.mono fun e ⟨a, told, v, h, he⟩ => ⟨a, told, v, ⟨c, hc, h⟩, he⟩

theorem covers_records :
    Adds (Appeal.command r (logArguments selection) none).Leaves w (r.records selection w).2 := by
  refine course_bind ?_ fun _ _ _ => .refl _
  rw [renamed_snd]
  exact leaves_run r _ none w

/-- **Reading commits** asks what is in the table. -/
theorem covers_commits :
    Adds (Appeals.Leave (r.Reads w selection)) w (r.commits selection w).2 := by
  refine course_bind ?_ fun records w₁ hrecords => ?_
  · exact covers_records.mono fun e he => ⟨_, _, _, .history, he⟩
  · refine course_forEach fun before record after done w₂ hsplit hbefore => ?_
    subst hsplit
    exact covers_commitOf.mono fun e ⟨a, told, v, h, he⟩ => ⟨a, told, v, .record hrecords hbefore h, he⟩

/-! ## Nothing gets through -/

theorem asDiff_ne (commit : String) (path : Option String) (p : Problem) (arguments : List String)
    (reason : String) (code : Option Int) :
    asDiff commit path p ≠ .gitCommand arguments reason code := by
  intro h
  cases p <;> cases h

theorem asHistory_ne (reference : Option String) (p : Problem) (arguments : List String)
    (reason : String) (code : Option Int) :
    History.asHistory reference p ≠ .gitCommand arguments reason code := by
  intro h
  cases p <;> cases h

theorem speaks_listed (text : String) : Speaks (listed text : Action (World σ) (List Change)) := by
  refine (speaks_update _).bind fun _ => ?_
  split
  · exact speaks_fail fun reason => not_failsFor_fault reason (.error .outOfRange)
  · exact speaks_pure _

theorem speaks_withLines (base commit : String) (c : Change) :
    Speaks (r.withLines base commit c : Action (World σ) Change) := by
  refine (speaks_renamed (asDiff_ne commit _) _).bind fun patch => speaks_ofResult fun reason => ?_
  exact not_failsFor_fault reason _

theorem speaks_changesOf (commit : String) (parents : List String) :
    Speaks (r.changesOf commit parents : Action (World σ) (List Change)) := by
  unfold changesOf
  split
  · exact speaks_pure _
  · refine (speaks_renamed (asDiff_ne commit none) _).bind fun found => ?_
    exact (speaks_listed found.2).bind fun changes => .forEach (speaks_withLines found.1 commit) changes

/-- A record that is no commit is a problem of the history. -/
theorem ofRecord_error {p : Problem} (h : History.ofRecord record = .error p) :
    p.kind = .historyRead := by
  have hperson : ∀ {id name address moment p}, History.person id name address moment = .error p →
      p.kind = .historyRead := by
    intro id name address moment p hp
    unfold History.person at hp
    split at hp
    · cases hp
    · cases hp
      rfl
  unfold History.ofRecord at h
  split at h
  · split at h
    · next herror =>
      cases h
      exact hperson herror
    · next herror _ =>
      cases h
      exact hperson herror
    · cases h
  · cases h
    rfl

theorem speaks_commitOf (record : List Char) : Speaks (r.commitOf record : Action (World σ) Commit) := by
  refine (speaks_ofResult ?_).bind fun c => (speaks_changesOf c.id c.parents).bind fun _ => speaks_pure _
  cases hrecord : History.ofRecord record with
  | ok c => exact fun reason => not_failsFor_ok reason c
  | error p =>
    refine not_failsFor_problem ?_
    rw [ofRecord_error hrecord]
    decide

theorem speaks_records (selection : List String) :
    Speaks (r.records selection : Action (World σ) (List (List Char))) :=
  (speaks_renamed (asHistory_ne none) _).bind fun _ => speaks_pure _

theorem speaks_commits (selection : List String) :
    Speaks (r.commits selection : Action (World σ) (List Commit)) :=
  (speaks_records selection).bind fun records => .forEach speaks_commitOf records

end Repository

end HistoryMetrics
