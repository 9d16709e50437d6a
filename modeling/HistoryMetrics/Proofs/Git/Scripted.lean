import HistoryMetrics.Git.Script
import HistoryMetrics.Proofs.Mining.Writing

/-! # Scripts that do not come by a file

    Git from a script changes the disk as its rules say, and looks at it only to find out which folders
    are missing. So it does not come by a file if no rule writes there or removes what the file stands in,
    and if the rules that answer where the repository and its files are name other places.

    - `Disk.SameBut.changed`: the same is written to two disks
    - `Disk.Offers.changed`: the file stays where it is
    - `Script.Rule.StaysAway`: what the rules must not do
    - `Script.run_cases`: what a command can do
    - `Script.passesBy`: then git does not come by the file
-/

namespace HistoryMetrics

open HistoryMetrics.Script

variable {hidden : List String → Prop} {d d' : Disk} {here output p : Path} {octets : List UInt8}

/-! ## Writing from a script -/

namespace Disk

theorem sameBut_put (d : Disk) (names : List String) (e : Entry) :
    SameBut (· = names) d (d.put names e) :=
  ⟨unreadable_put d names e, fun _ hother => find?_put_of_ne hother e⟩

theorem sameBut_erase (d : Disk) (names : List String) : SameBut (· = names) d (d.erase names) :=
  ⟨rfl, fun _ hother => find?_erase_of_ne hother⟩

/-- The same folders are made on both disks. -/
theorem SameBut.withFolders (h : SameBut hidden d d') {start rest : List String}
    (hway : ∀ names, names <+: start ++ rest → ¬ hidden names) :
    SameBut hidden (d.withFolders start rest) (d'.withFolders start rest) := by
  induction rest generalizing d d' start with
  | nil => exact h
  | cons name rest ih =>
    have happend : start ++ name :: rest = start ++ [name] ++ rest := by simp
    rw [happend] at hway
    have hhere : ¬ hidden (start ++ [name]) := hway _ (List.prefix_append _ _)
    have hfolder : d'.isFolderAt (start ++ [name]) = d.isFolderAt (start ++ [name]) := by
      rw [isFolderAt, isFolderAt, h.find? _ hhere]
    simp only [Disk.withFolders, hfolder]
    split
    · exact ih h hway
    · exact ih (h.put _ _) hway

/-- Making folders does not touch a file, unless it stands in the way. -/
theorem Offers.withFolders (h : d.Offers here p octets) {start rest : List String}
    (hway : ∀ names, names <+: start ++ rest → names ≠ place here p) :
    (d.withFolders start rest).Offers here p octets := by
  induction rest generalizing d start with
  | nil => exact h
  | cons name rest ih =>
    have happend : start ++ name :: rest = start ++ [name] ++ rest := by simp
    rw [happend] at hway
    simp only [Disk.withFolders]
    split
    · exact ih h hway
    · next hmissing =>
      rw [Bool.not_eq_true] at hmissing
      exact ih (h.put (hway _ (List.prefix_append _ _)) hmissing .folder) hway

/-- **The same is written to both disks**, or deleted. -/
theorem SameBut.writeOne (h : SameBut hidden d d') {names : List String} (e : Option Entry)
    (hway : ∀ first, first <+: names → ¬ hidden first) :
    SameBut hidden (Script.writeOne d names e) (Script.writeOne d' names e) := by
  cases e with
  | none => exact h.erase names
  | some e =>
    refine (h.withFolders fun first hfirst => ?_).put names e
    exact hway first (hfirst.trans (List.dropLast_prefix names))

theorem SameBut.changed (h : SameBut hidden d d') {writes : List (List String × Option Entry)}
    (hwrites : ∀ w ∈ writes, ∀ first, first <+: w.1 → ¬ hidden first) :
    SameBut hidden (Script.changed d writes) (Script.changed d' writes) := by
  induction writes generalizing d d' with
  | nil => exact h
  | cons w rest ih =>
    obtain ⟨hfirst, hrest⟩ := List.forall_mem_cons.1 hwrites
    exact ih (h.writeOne w.2 hfirst) hrest

/-- **The file stays where it is** when something is written that does not come by it. -/
theorem Offers.writeOne (h : d.Offers here p octets) {names : List String} (e : Option Entry)
    (hway : ∀ first, first <+: names → first ≠ place here p) (hp : p.Avoids (· = names) here) :
    (Script.writeOne d names e).Offers here p octets := by
  cases e with
  | none => exact h.of_sameBut (sameBut_erase d names) hp
  | some e =>
    have hfolders : (d.withFolders [] names.dropLast).Offers here p octets :=
      h.withFolders fun first hfirst => hway first (hfirst.trans (List.dropLast_prefix names))
    exact hfolders.of_sameBut (sameBut_put _ names e) hp

theorem Offers.changed (h : d.Offers here p octets) {writes : List (List String × Option Entry)}
    (hwrites : ∀ w ∈ writes, (∀ first, first <+: w.1 → first ≠ place here p) ∧
      p.Avoids (· = w.1) here) :
    (Script.changed d writes).Offers here p octets := by
  induction writes generalizing d with
  | nil => exact h
  | cons w rest ih =>
    obtain ⟨⟨hway, hp⟩, hrest⟩ := List.forall_mem_cons.1 hwrites
    exact ih (h.writeOne w.2 hway hp) hrest

end Disk

/-! ## Rules -/

namespace Script

/-- **A rule stays away from a file.**

    - `writes`: it writes nothing at a hidden place or below, and does not change the way to the file
    - `folder`: the repository that it tells of has its lock elsewhere
    - `lists`: the files that it lists are told by their paths in the working tree
-/
structure Rule.StaysAway (rule : Rule) (hidden : List String → Prop) (here output : Path) : Prop where
  writes : ∀ w ∈ rule.writes, (∀ first, first <+: w.1 → ¬ hidden first) ∧ output.Avoids (· = w.1) here
  folder : rule.code = 0 → fits rule.pattern Session.folderArguments = true →
    (Session.lockIn (Git.text rule.output)).Avoids hidden here
  lists : ∀ id, rule.code = 0 → fits rule.pattern (Session.fileArguments id) = true →
    ∀ p ∈ Session.pathsOf (Git.text rule.output), (Path.ofText p).root = ""

/-- The rule that is taken is one of the rules, and so are those that are left. -/
theorem take_eq_some {arguments : List String} {rules rest : List Rule} {rule : Rule}
    (h : take arguments rules = some (rule, rest)) :
    rule ∈ rules ∧ fits rule.pattern arguments = true ∧ ∀ left ∈ rest, left ∈ rules := by
  induction rules generalizing rest with
  | nil => cases h
  | cons first rules ih =>
    rw [take] at h
    split at h
    · next hfits =>
      cases h
      refine ⟨List.mem_cons_self, hfits, fun left hleft => ?_⟩
      split at hleft
      · exact List.mem_cons_of_mem _ hleft
      · exact hleft
    · obtain ⟨⟨found, others⟩, htake, hfound⟩ := Option.map_eq_some_iff.1 h
      cases hfound
      obtain ⟨hmem, hfits, hothers⟩ := ih htake
      refine ⟨List.mem_cons_of_mem _ hmem, hfits, fun left hleft => ?_⟩
      rcases List.mem_cons.1 hleft with rfl | hleft
      · exact List.mem_cons_self
      · exact List.mem_cons_of_mem _ (hothers left hleft)

/-- What a command writes that ends well is what a rule says. -/
theorem run_finished {c : GitCommand} {s : State} {d : Disk} {octets errors : List UInt8}
    (h : (Script.run c s d).1 = .finished 0 octets errors) :
    ∃ rule ∈ s.rules, fits rule.pattern c.arguments = true ∧ rule.code = 0 ∧ rule.output = octets := by
  unfold Script.run at h
  cases htake : take c.arguments s.rules with
  | none =>
    rw [htake] at h
    cases h
  | some found =>
    obtain ⟨rule, rest⟩ := found
    obtain ⟨hmem, hfits, -⟩ := take_eq_some htake
    rw [htake] at h
    dsimp only at h
    split at h
    · cases h
    · cases h
    · cases h
    · obtain ⟨hcode, houtput, -⟩ := GitOutcome.finished.inj h
      exact ⟨rule, hmem, hfits, hcode, houtput⟩

/-- **What a command does**: it ends in the same way on all disks, and leaves them alone or changes them as
    a rule says. -/
theorem run_cases (c : GitCommand) (s : State) :
    ∃ outcome s', (∀ left ∈ s'.rules, left ∈ s.rules) ∧
      ((∀ d, Script.run c s d = (outcome, s', d)) ∨
        ∃ rule ∈ s.rules, ∀ d, Script.run c s d = (outcome, s', changed d rule.writes)) := by
  unfold Script.run
  cases htake : take c.arguments s.rules with
  | none => exact ⟨_, _, fun _ => id, .inl fun _ => rfl⟩
  | some found =>
    obtain ⟨rule, rest⟩ := found
    obtain ⟨hmem, -, hrest⟩ := take_eq_some htake
    dsimp only
    cases rule.ending with
    | finished => exact ⟨_, _, hrest, .inr ⟨rule, hmem, fun _ => rfl⟩⟩
    | notStarted m => exact ⟨_, _, hrest, .inl fun _ => rfl⟩
    | timedOut => exact ⟨_, _, hrest, .inr ⟨rule, hmem, fun _ => rfl⟩⟩
    | interrupted => exact ⟨_, _, hrest, .inr ⟨rule, hmem, fun _ => rfl⟩⟩

/-- **Git from a script does not come by a file** if all of its rules stay away from it. -/
theorem passesBy (houtput : hidden (Disk.place here output)) :
    git.PassesBy (fun s => ∀ rule ∈ s.rules, rule.StaysAway hidden here output) hidden here output where
  run := by
    intro c s d d' hrules hsame
    show (Script.run c s d').1 = (Script.run c s d).1 ∧ (Script.run c s d').2.1 = (Script.run c s d).2.1 ∧
      Disk.SameBut hidden (Script.run c s d).2.2 (Script.run c s d').2.2
    obtain ⟨outcome, s', -, hrun | ⟨rule, hmem, hrun⟩⟩ := run_cases c s
    · rw [hrun, hrun]
      exact ⟨rfl, rfl, hsame⟩
    · rw [hrun, hrun]
      exact ⟨rfl, rfl, hsame.changed fun w hw => ((hrules rule hmem).writes w hw).1⟩
  leaves := by
    intro c s d octets hrules hfile
    show (Script.run c s d).2.2.Offers here output octets
    obtain ⟨outcome, s', -, hrun | ⟨rule, hmem, hrun⟩⟩ := run_cases c s
    · rw [hrun]
      exact hfile
    · rw [hrun]
      refine hfile.changed fun w hw => ?_
      obtain ⟨hway, hfolders⟩ := (hrules rule hmem).writes w hw
      refine ⟨fun first hfirst hsame => ?_, hfolders⟩
      apply hway first hfirst
      rwa [hsame]
  folder := by
    intro c s d octets errors hrules harguments hfinished
    obtain ⟨rule, hmem, hfits, hcode, rfl⟩ := run_finished hfinished
    rw [harguments] at hfits
    exact (hrules rule hmem).folder hcode hfits
  lists := by
    intro c s d id octets errors hrules harguments hfinished
    obtain ⟨rule, hmem, hfits, hcode, rfl⟩ := run_finished hfinished
    rw [harguments] at hfits
    exact (hrules rule hmem).lists id hcode hfits
  fit_run := by
    intro c s d hrules
    show ∀ rule ∈ (Script.run c s d).2.1.rules, rule.StaysAway hidden here output
    intro rule hrule
    obtain ⟨outcome, s', hleft, hrun | ⟨_, _, hrun⟩⟩ := run_cases c s
    · rw [hrun] at hrule
      exact hrules rule (hleft rule hrule)
    · rw [hrun] at hrule
      exact hrules rule (hleft rule hrule)
  fit_start hrules := hrules
  fit_ask := by
    intro n name s hrules
    show ∀ rule ∈ (Script.ask name s).2.rules, rule.StaysAway hidden here output
    unfold Script.ask
    dsimp only
    split
    · exact hrules
    · exact hrules
  fit_send hrules := hrules
  fit_end hrules := hrules

end Script

end HistoryMetrics
