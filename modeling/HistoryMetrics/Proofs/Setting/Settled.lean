import HistoryMetrics.Proofs.Number.Comparison
import HistoryMetrics.Proofs.Setting.Merging

/-! # Settings that are settled

    Settings are settled in three steps: the sections are checked and take the place of what was given
    for them, names that are not known are refused, and two bounds are checked. Each step ends early
    for reasons of its own.

    - `withSections_ok`, `withSections_error`: the first step, one section after the other
    - `refuseUnknown_ok_iff`, `refuseUnknown_error`: the second step
    - `Config.make_ok_iff`, `Config.make_error`: the third step
    - `settled_ok_iff`, `settled_error`: all of them
-/

namespace HistoryMetrics

open HistoryMetrics.Action

namespace Setting

variable {settings out : Settings} {name : String} {v : Value} {e : Failure}

/-! ## Sections -/

/-- What checking makes of what was given for a section. -/
def checkedSection (s : Smell) : Option Value → Except Failure (Option Value)
  | none | some .null => .ok none
  | some v => (sectionOf s v).map some

theorem lookup_filter_ne (settings : Settings) (name other : String) :
    (settings.filter fun e => e.1 != name).lookup other =
      if other = name then none else settings.lookup other := by
  induction settings with
  | nil => simp
  | cons e rest ih =>
    obtain ⟨first, v⟩ := e
    rw [Entries.lookup_cons_eq]
    by_cases hfirst : first = name
    · rw [List.filter_cons_of_neg (by simp [hfirst]), ih, hfirst]
      by_cases hother : other = name
      · rw [if_pos hother, if_pos hother]
      · rw [if_neg hother, if_neg hother, if_neg hother]
    · rw [List.filter_cons_of_pos (by simpa using hfirst), Entries.lookup_cons_eq, ih]
      by_cases hother : other = first
      · have hname : other ≠ name := hother ▸ hfirst
        rw [if_pos hother, if_neg hname, if_pos hother]
      · rw [if_neg hother]
        exact if_congr Iff.rfl rfl (if_neg hother).symm

/-- Settings with a section in place of what was given for it. -/
def replaced (settings : Settings) (s : Smell) (o : Option Value) : Settings :=
  (settings.filter fun e => e.1 != s.sectionName) ++ o.toList.map (Prod.mk s.sectionName)

theorem lookup_replaced (settings : Settings) (s : Smell) (o : Option Value) (name : String) :
    (replaced settings s o).lookup name =
      if name = s.sectionName then o else settings.lookup name := by
  rw [replaced, List.lookup_append, lookup_filter_ne]
  by_cases hname : name = s.sectionName
  · rw [if_pos hname, if_pos hname]
    cases o with
    | none => rfl
    | some v =>
      show List.lookup name [(s.sectionName, v)] = some v
      rw [Entries.lookup_cons_eq, if_pos hname]
  · rw [if_neg hname, if_neg hname]
    cases o with
    | none => exact Option.or_none
    | some v =>
      show (settings.lookup name).or (List.lookup name [(s.sectionName, v)]) = _
      rw [Entries.lookup_cons_eq, if_neg hname]
      exact Option.or_none

/-- **One section after the other.** -/
theorem withSections_cons (settings : Settings) (s : Smell) (rest : List Smell) :
    withSections settings (s :: rest) =
      checkedSection s (settings.lookup s.sectionName) >>= fun o =>
        withSections (replaced settings s o) rest := by
  have hnone : replaced settings s none = settings.filter fun e => e.1 != s.sectionName :=
    List.append_nil _
  cases hlookup : settings.lookup s.sectionName with
  | none =>
    rw [withSections, hlookup, ← hnone]
    rfl
  | some v =>
    cases v with
    | null =>
      rw [withSections, hlookup, ← hnone]
      rfl
    | _ =>
      rw [withSections, hlookup]
      unfold checkedSection
      dsimp only
      cases sectionOf s _ <;> rfl

/-- **Sections that pass.** Each gets what checking made of it, and what is no section stays. -/
theorem withSections_ok {smells : List Smell} (hnames : (smells.map Smell.sectionName).Nodup)
    (h : withSections settings smells = .ok out) :
    (∀ s ∈ smells,
      checkedSection s (settings.lookup s.sectionName) = .ok (out.lookup s.sectionName)) ∧
      ∀ name, name ∉ smells.map Smell.sectionName → out.lookup name = settings.lookup name := by
  induction smells generalizing settings with
  | nil =>
    cases h
    exact ⟨fun s hs => absurd hs List.not_mem_nil, fun name _ => rfl⟩
  | cons s rest ih =>
    rw [List.map_cons, List.nodup_cons] at hnames
    obtain ⟨hs, hrest⟩ := hnames
    rw [withSections_cons, except_bind_ok_iff] at h
    obtain ⟨o, ho, h⟩ := h
    obtain ⟨hsections, hothers⟩ := ih hrest h
    refine ⟨?_, ?_⟩
    · intro s' hs'
      rcases List.mem_cons.1 hs' with rfl | hs'
      · rw [hothers _ hs, lookup_replaced, if_pos rfl]
        exact ho
      · have hne : s'.sectionName ≠ s.sectionName := by
          intro heq
          exact hs (heq ▸ List.mem_map_of_mem hs')
        have hnext := hsections s' hs'
        rwa [lookup_replaced, if_neg hne] at hnext
    · intro name hname
      rw [List.map_cons, List.mem_cons, not_or] at hname
      rw [hothers name hname.2, lookup_replaced, if_neg hname.1]

/-- **A section that does not pass** is refused, and nothing else ends the checks. -/
theorem withSections_error {smells : List Smell} (hnames : (smells.map Smell.sectionName).Nodup)
    (h : withSections settings smells = .error e) :
    ∃ s ∈ smells, checkedSection s (settings.lookup s.sectionName) = .error e := by
  induction smells generalizing settings with
  | nil => cases h
  | cons s rest ih =>
    rw [List.map_cons, List.nodup_cons] at hnames
    obtain ⟨hs, hrest⟩ := hnames
    rw [withSections_cons] at h
    cases hsection : checkedSection s (settings.lookup s.sectionName) with
    | error e' =>
      rw [hsection] at h
      cases h
      exact ⟨s, List.mem_cons_self, hsection⟩
    | ok o =>
      rw [hsection] at h
      obtain ⟨s', hs', herror⟩ := ih hrest h
      have hne : s'.sectionName ≠ s.sectionName := by
        intro heq
        exact hs (heq ▸ List.mem_map_of_mem hs')
      rw [lookup_replaced, if_neg hne] at herror
      exact ⟨s', List.mem_cons_of_mem s hs', herror⟩

/-- What stands in checked settings was there before, or is a section. -/
theorem mem_withSections {smells : List Smell} (h : withSections settings smells = .ok out)
    {entry : String × Value} (hentry : entry ∈ out) :
    entry ∈ settings ∨ entry.1 ∈ smells.map Smell.sectionName := by
  induction smells generalizing settings with
  | nil =>
    cases h
    exact .inl hentry
  | cons s rest ih =>
    rw [withSections_cons, except_bind_ok_iff] at h
    obtain ⟨o, -, h⟩ := h
    rcases ih h with hentry | hentry
    · rw [replaced, List.mem_append] at hentry
      rcases hentry with hentry | hentry
      · exact .inl (List.mem_of_mem_filter hentry)
      · obtain ⟨v, -, rfl⟩ := List.mem_map.1 hentry
        exact .inr List.mem_cons_self
    · exact .inr (List.mem_cons_of_mem _ hentry)

/-! ## Unknown names -/

theorem refuseUnknown_ok_iff :
    refuseUnknown settings = .ok () ↔ ∀ name ∈ settings.map Prod.fst, name ∈ Config.names := by
  unfold refuseUnknown
  cases hfind : settings.find? fun e => !Config.names.contains e.1 with
  | none =>
    have hknown := List.find?_eq_none.1 hfind
    refine iff_of_true rfl fun name hname => ?_
    obtain ⟨entry, hentry, rfl⟩ := List.mem_map.1 hname
    simpa using hknown entry hentry
  | some entry =>
    have hunknown : entry.1 ∉ Config.names := by simpa using List.find?_some hfind
    refine iff_of_false nofun fun hall => hunknown ?_
    exact hall _ (List.mem_map_of_mem (List.mem_of_find?_eq_some hfind))

theorem refuseUnknown_error (h : refuseUnknown settings = .error e) :
    ∃ entry ∈ settings, entry.1 ∉ Config.names ∧
      e = .refusing entry.1 entry.2 "unknown configuration key" := by
  unfold refuseUnknown at h
  cases hfind : settings.find? fun e => !Config.names.contains e.1 with
  | none =>
    rw [hfind] at h
    cases h
  | some entry =>
    rw [hfind] at h
    cases h
    exact ⟨entry, List.mem_of_find?_eq_some hfind, by simpa using List.find?_some hfind, rfl⟩

end Setting

/-! ## Bounds -/

namespace Config

open Setting

variable {c c' : Config} {name reason : String} {v : Value} {bound : Int} {e : Failure}

theorem refuseBelow_ok_iff :
    refuseBelow name v bound reason = .ok () ↔ v.isBelow (.int bound) = .ok false := by
  unfold refuseBelow
  cases hbelow : v.isBelow (.int bound) with
  | error f => exact ⟨nofun, nofun⟩
  | ok below =>
    cases below with
    | true => exact ⟨nofun, nofun⟩
    | false => exact ⟨fun _ => rfl, fun _ => rfl⟩

/-- A value that does not compare is a fault, and one below the bound is refused. -/
theorem refuseBelow_error (h : refuseBelow name v bound reason = .error e) :
    (v.number? = none ∧ e = .fault (incomparable "<" v (.int bound))) ∨
      (v.isBelow (.int bound) = .ok true ∧ e = .refusing name v reason) := by
  unfold refuseBelow at h
  cases hbelow : v.isBelow (.int bound) with
  | error f =>
    rw [hbelow] at h
    cases h
    obtain ⟨hnumber, rfl⟩ := Value.isBelow_int_error_iff.1 hbelow
    exact .inl ⟨hnumber, rfl⟩
  | ok below =>
    rw [hbelow] at h
    cases below with
    | true =>
      cases h
      exact .inr ⟨rfl, rfl⟩
    | false => cases h

/-- **The bounds of settings.** -/
structure IsBounded (c : Config) : Prop where
  binaryThreshold : c.binaryThreshold.isBelow (.int 0) = .ok false
  gitTimeout : c.gitTimeout.isBelow (.int 1) = .ok false

theorem checked_ok_iff : c.checked = .ok c' ↔ c' = c ∧ c.IsBounded := by
  unfold checked
  cases hbinary : refuseBelow "binary_file_threshold" c.binaryThreshold 0 "must be non-negative" with
  | error e =>
    refine iff_of_false nofun ?_
    intro ⟨_, hbounded⟩
    rw [refuseBelow_ok_iff.2 hbounded.binaryThreshold] at hbinary
    cases hbinary
  | ok _ =>
    rw [except_map_ok_iff]
    constructor
    · intro ⟨_, htimeout, heq⟩
      exact ⟨heq.symm, refuseBelow_ok_iff.1 hbinary, refuseBelow_ok_iff.1 htimeout⟩
    · intro ⟨heq, hbounded⟩
      exact ⟨(), refuseBelow_ok_iff.2 hbounded.gitTimeout, heq.symm⟩

/-- Only the two settings that have bounds can be refused. -/
theorem checked_error (h : c.checked = .error e) :
    ∃ name v bound reason, refuseBelow name v bound reason = .error e ∧
      ((v = c.binaryThreshold ∧ bound = 0) ∨ (v = c.gitTimeout ∧ bound = 1)) := by
  unfold checked at h
  cases hbinary : refuseBelow "binary_file_threshold" c.binaryThreshold 0 "must be non-negative" with
  | error e' =>
    rw [hbinary] at h
    cases h
    exact ⟨_, _, _, _, hbinary, .inl ⟨rfl, rfl⟩⟩
  | ok _ =>
    rw [hbinary] at h
    cases htimeout : refuseBelow "git_timeout_seconds" c.gitTimeout 1 "must be at least 1" with
    | error e' =>
      simp only [htimeout] at h
      cases h
      exact ⟨_, _, _, _, htimeout, .inr ⟨rfl, rfl⟩⟩
    | ok _ =>
      simp only [htimeout] at h
      cases h

/-- Settings whose names are known. -/
theorem make_eq {given : Settings} (h : ∀ name ∈ given.map Prod.fst, name ∈ names) :
    make given = (withValues given).checked := by
  have hnone : Thresholds.firstUnknown names given = none := by
    rw [Thresholds.firstUnknown, List.find?_eq_none]
    intro name hname
    simpa using h name hname
  rw [make, hnone]

end Config

/-! ## All checks -/

namespace Setting

variable {settings : Settings} {c : Config} {e : Failure}

/-- **The settings that named values and checked sections make.** -/
def configOf (settings : Settings) (sections : Smell → Option Value) : Config where
  binaryThreshold := (settings.lookup "binary_file_threshold").getD Config.standard.binaryThreshold
  gitTimeout := (settings.lookup "git_timeout_seconds").getD Config.standard.gitTimeout
  failFast := (settings.lookup "fail_fast").getD Config.standard.failFast
  includeSmells := (settings.lookup "include_smells").getD Config.standard.includeSmells
  excludePatterns := (settings.lookup "exclude_patterns").getD Config.standard.excludePatterns
  brainMethod := Config.thresholdsOf .brainMethod ((sections .brainMethod).getD .null)
  complexMethod := Config.thresholdsOf .complexMethod ((sections .complexMethod).getD .null)
  longMethod := Config.thresholdsOf .longMethod ((sections .longMethod).getD .null)

theorem mem_all (s : Smell) : s ∈ Smell.all := by cases s <;> decide

theorem nodup_sectionNames : (Smell.all.map Smell.sectionName).Nodup := by decide

theorem sectionName_mem_names (s : Smell) : s.sectionName ∈ Config.names := by cases s <;> decide

/-- Checked sections have the values of the settings, and sections of their own. -/
theorem withValues_of_withSections {out : Settings}
    (h : withSections settings Smell.all = .ok out) :
    Config.withValues out = configOf settings fun s => out.lookup s.sectionName := by
  obtain ⟨-, hothers⟩ := withSections_ok nodup_sectionNames h
  have hbinary := hothers "binary_file_threshold" (by decide)
  have htimeout := hothers "git_timeout_seconds" (by decide)
  have hfast := hothers "fail_fast" (by decide)
  have hsmells := hothers "include_smells" (by decide)
  have hpatterns := hothers "exclude_patterns" (by decide)
  simp only [Config.withValues, configOf, hbinary, htimeout, hfast, hsmells, hpatterns,
    Smell.sectionName]

/-- Names stay known, and unknown ones stay unknown. -/
theorem known_withSections {out : Settings} (h : withSections settings Smell.all = .ok out) :
    (∀ name ∈ out.map Prod.fst, name ∈ Config.names) ↔
      ∀ name ∈ settings.map Prod.fst, name ∈ Config.names := by
  obtain ⟨-, hothers⟩ := withSections_ok nodup_sectionNames h
  have hmem : ∀ name, name ∉ Smell.all.map Smell.sectionName →
      (name ∈ out.map Prod.fst ↔ name ∈ settings.map Prod.fst) := by
    intro name hname
    rw [← not_iff_not, ← Entries.lookup_eq_none_iff_names, ← Entries.lookup_eq_none_iff_names,
      hothers name hname]
  have hsection : ∀ name, name ∈ Smell.all.map Smell.sectionName → name ∈ Config.names := by
    intro name hname
    obtain ⟨s, -, rfl⟩ := List.mem_map.1 hname
    exact sectionName_mem_names s
  constructor
  · intro hout name hname
    by_cases hsec : name ∈ Smell.all.map Smell.sectionName
    · exact hsection name hsec
    · exact hout name ((hmem name hsec).2 hname)
  · intro hsettings name hname
    by_cases hsec : name ∈ Smell.all.map Smell.sectionName
    · exact hsection name hsec
    · exact hsettings name ((hmem name hsec).1 hname)

/-- **When settings are settled**, and what they are then. -/
theorem settled_ok_iff :
    settled settings = .ok c ↔
      ∃ sections : Smell → Option Value,
        (∀ s, checkedSection s (settings.lookup s.sectionName) = .ok (sections s)) ∧
          (∀ name ∈ settings.map Prod.fst, name ∈ Config.names) ∧
          c = configOf settings sections ∧ c.IsBounded := by
  unfold settled
  constructor
  · intro h
    obtain ⟨out, hout, h⟩ := except_bind_ok_iff.1 h
    obtain ⟨_, hknown, h⟩ := except_bind_ok_iff.1 h
    have hnames := refuseUnknown_ok_iff.1 hknown
    rw [Config.make_eq hnames, withValues_of_withSections hout] at h
    obtain ⟨rfl, hbounded⟩ := Config.checked_ok_iff.1 h
    refine ⟨_, fun s => ?_, (known_withSections hout).1 hnames, rfl, hbounded⟩
    exact (withSections_ok nodup_sectionNames hout).1 s (mem_all s)
  · intro ⟨sections, hsections, hknown, hc, hbounded⟩
    cases hout : withSections settings Smell.all with
    | error e =>
      obtain ⟨s, -, herror⟩ := withSections_error nodup_sectionNames hout
      rw [hsections s] at herror
      cases herror
    | ok out =>
      have hnames := (known_withSections hout).2 hknown
      have hsame : sections = fun s => out.lookup s.sectionName := by
        funext s
        have hchecked := (withSections_ok nodup_sectionNames hout).1 s (mem_all s)
        rw [hsections s] at hchecked
        exact Except.ok.inj hchecked
      show (refuseUnknown out >>= fun _ => Config.make out) = .ok c
      rw [refuseUnknown_ok_iff.2 hnames]
      show Config.make out = .ok c
      rw [Config.make_eq hnames, withValues_of_withSections hout, ← hsame]
      exact Config.checked_ok_iff.2 ⟨hc, hc ▸ hbounded⟩

/-- **Why settings are not settled**: a section does not pass, a name is not known, or a bound does not
    hold. -/
theorem settled_error (h : settled settings = .error e) :
    (∃ s, checkedSection s (settings.lookup s.sectionName) = .error e) ∨
      (∃ entry ∈ settings, entry.1 ∉ Config.names ∧
        e = .refusing entry.1 entry.2 "unknown configuration key") ∨
      ∃ sections, (configOf settings sections).checked = .error e := by
  unfold settled at h
  cases hout : withSections settings Smell.all with
  | error e' =>
    rw [hout] at h
    cases h
    obtain ⟨s, -, hs⟩ := withSections_error nodup_sectionNames hout
    exact .inl ⟨s, hs⟩
  | ok out =>
    rw [hout] at h
    cases hknown : refuseUnknown out with
    | error e' =>
      have herror : Except.error e' = (Except.error e : Except Failure Config) := by
        rw [← h]
        show _ = (refuseUnknown out >>= fun _ => Config.make out)
        rw [hknown]
        rfl
      cases herror
      obtain ⟨entry, hentry, hname, rfl⟩ := refuseUnknown_error hknown
      refine .inr (.inl ⟨entry, ?_, hname, rfl⟩)
      rcases mem_withSections hout hentry with hentry | hentry
      · exact hentry
      · obtain ⟨s, -, hs⟩ := List.mem_map.1 hentry
        exact absurd (hs ▸ sectionName_mem_names s) hname
    | ok _ =>
      have hmake : Config.make out = .error e := by
        rw [← h]
        show _ = (refuseUnknown out >>= fun _ => Config.make out)
        rw [hknown]
        rfl
      rw [Config.make_eq (refuseUnknown_ok_iff.1 hknown), withValues_of_withSections hout] at hmake
      exact .inr (.inr ⟨_, hmake⟩)

end Setting

end HistoryMetrics
