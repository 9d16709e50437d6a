import HistoryMetrics.Git.Run
import HistoryMetrics.Proofs.Action.Returns
import HistoryMetrics.Proofs.Text.Newlines
import HistoryMetrics.Proofs.Text.Utf8

/-! # Commands that return

    A command that returns has been given to git once, whatever git made of it. The other way round, a
    command without a null character is given to git, and a git that finishes all commands makes it
    return what it wrote.

    - `Git.text_encode`: text that git writes in UTF-8
    - `GitCommand.holdsNull_eq_false_iff`: the commands that can be given
    - `Repository.events_run`: a command that returned leaves one event
    - `Git.answering`, `Repository.run_answering`: a git with an answer to each command
-/

namespace HistoryMetrics

variable {σ : Type}

/-- **Text that git writes in UTF-8** is read back, but for its line ends. -/
theorem Git.text_encode (cs : List Char) :
    Git.text (Text.encode cs) = String.ofList (Text.universalNewlines cs) := by
  rw [text, Text.decodeLossy_encode]

theorem Git.text_encode_of_not_mem {cs : List Char} (h : '\r' ∉ cs) :
    Git.text (Text.encode cs) = String.ofList cs := by
  rw [text_encode, Text.universalNewlines_of_not_mem h]

theorem GitCommand.holdsNull_eq_false_iff {c : GitCommand} :
    c.holdsNull = false ↔ ∀ s ∈ c.line, '\x00' ∉ s.toList := by
  simp only [holdsNull, List.any_eq_false, String.contains_char_eq, decide_eq_true_eq]

/-- **A command that returned leaves one event.** -/
theorem Repository.events_run {r : Repository} {arguments : List String} {input : Option String}
    {w w' : World σ} {output : String} (h : r.run arguments input w = (.ok output, w')) :
    w'.events = w.events ++ [.ran (r.command arguments input) true] := by
  obtain ⟨_, w₁, hlog, hrun⟩ := Action.bind_ok_iff.1 h
  have hw₁ : w₁.events = w.events := by
    cases hlog
    rfl
  split at hrun
  · cases hrun
  · rcases hgit : w₁.git.run (r.command arguments input) w₁.outside w₁.disk with ⟨outcome, o, d⟩
    simp only [perform, hgit] at hrun
    cases outcome with
    | finished code out errors =>
      rw [Prod.mk.injEq] at hrun
      rw [← hrun.2, ← hw₁]
      rfl
    | notStarted m => cases hrun
    | timedOut => cases hrun
    | interrupted => cases hrun

/-- A command without a null character is given. -/
theorem Repository.run_eq_perform (r : Repository) {arguments : List String} {input : Option String}
    (hnull : (r.command arguments input).holdsNull = false) (w : World σ) :
    r.run arguments input w = perform (r.command arguments input)
      (w.logged (.plain .debug commandLogger ("git " ++ " ".intercalate arguments))) := by
  rw [run, Action.bind_apply]
  simp only [World.log, Action.update, hnull, Bool.false_eq_true, if_false]

/-- **A command that can be given is given**, whatever comes of it. -/
theorem Repository.run_gives (r : Repository) {arguments : List String} {input : Option String}
    (hnull : (r.command arguments input).holdsNull = false) (w : World σ) :
    ∃ isStarted rest, (r.run arguments input w).2.events =
      w.events ++ .ran (r.command arguments input) isStarted :: rest := by
  rw [r.run_eq_perform hnull]
  simp only [perform]
  split
  · exact ⟨true, [], rfl⟩
  · exact ⟨false, [], rfl⟩
  · exact ⟨true, [.killed (r.command arguments input)], by simp [World.happened, World.logged]⟩
  · exact ⟨true, [.killed (r.command arguments input)], by simp [World.happened, World.logged]⟩

/-- **A git with an answer to each command.** It is asked nothing else. -/
def Git.answering (answer : List String → String) : Git Unit where
  run c outside disk := (.finished 0 (Text.encode (answer c.arguments).toList) [], outside, disk)
  startHelper _ _ outside := (none, outside)
  isRunning _ _ := true
  ask _ _ outside := (.ok [], outside)
  sendRest _ outside := (none, outside)
  endHelper _ outside := (true, outside)

/-- Such a git makes a command return, and stays what it is. -/
theorem Repository.run_answering {answer : List String → String} (r : Repository)
    (arguments : List String) {w : World Unit} (hgit : w.git = Git.answering answer)
    (hnull : ∀ s ∈ (r.command arguments none).line, '\x00' ∉ s.toList) {output : String}
    (houtput : Git.text (Text.encode (answer arguments).toList) = output) :
    ∃ w', r.run arguments none w = (.ok output, w') ∧ w'.git = Git.answering answer := by
  have hgit' : ∀ record, (w.logged record).git = Git.answering answer := fun _ => hgit
  subst houtput
  rw [r.run_eq_perform (GitCommand.holdsNull_eq_false_iff.2 hnull), perform, hgit']
  exact ⟨_, rfl, rfl⟩

end HistoryMetrics
