import HistoryMetrics.Proofs.Disk.Placement
import HistoryMetrics.Proofs.Number.Whole
import HistoryMetrics.Proofs.Setting.Settled
import HistoryMetrics.Proofs.Smell.Rules
import HistoryMetrics.Proofs.Toml.OneEntry
import HistoryMetrics.Proofs.Toml.Storable
import Mathlib

/-! # Which source decides

    A setting can be given in four places. What the caller gives comes first, then the environment, then
    the file that the caller names, and last the file of the project; what is given nowhere has its
    default. The limits of a smell are decided one by one, by the places that give its section as a
    table; only thresholds that the caller has made already take the place of a whole section.

    The environment gives four of the settings, each by a variable of its own.

    - `Environment.given?`, `Environment.IsReadable`: what the environment gives
    - `Sources.value`, `Sources.limit`, `Sources.config`: what the places decide
    - `Sources.IsOrderly`: what the places may hold
    - `Sources.HoldsLimits`: a section that is being merged, and its limits
    - `loadConfig_ok_iff`: loading gives what the places decide, just when this is valid
-/

namespace HistoryMetrics

open HistoryMetrics.Action

namespace Environment

variable {vars : Variables}

/-- **The position that a text gives a switch**: one of four words for each, with letters of any case. -/
def position? (text : String) : Option Bool :=
  if text.toLower ∈ ["true", "1", "yes", "on"] then some true
  else if text.toLower ∈ ["false", "0", "no", "off"] then some false
  else none

/-- **What the environment gives for a setting.** Two settings are whole numbers and two are switches;
    there are no variables for the others. -/
def given? (vars : Variables) : String → Option Value
  | "binary_file_threshold" =>
    (vars "REPO_MINER_BINARY_FILE_THRESHOLD").bind fun text => (Whole.read text).toOption.map .int
  | "git_timeout_seconds" =>
    (vars "REPO_MINER_GIT_TIMEOUT_SECONDS").bind fun text => (Whole.read text).toOption.map .int
  | "fail_fast" => (vars "REPO_MINER_FAIL_FAST").bind fun text => (position? text).map .bool
  | "include_smells" => (vars "REPO_MINER_INCLUDE_SMELLS").bind fun text => (position? text).map .bool
  | _ => none

/-- **Variables that can be read**, as far as they are set. -/
structure AreReadable (vars : Variables) : Prop where
  binaryThreshold : ∀ text, vars "REPO_MINER_BINARY_FILE_THRESHOLD" = some text →
    ∃ n, Whole.read text = .ok n
  gitTimeout : ∀ text, vars "REPO_MINER_GIT_TIMEOUT_SECONDS" = some text → ∃ n, Whole.read text = .ok n
  failFast : ∀ text, vars "REPO_MINER_FAIL_FAST" = some text → ∃ b, position? text = some b
  includeSmells : ∀ text, vars "REPO_MINER_INCLUDE_SMELLS" = some text → ∃ b, position? text = some b

theorem toOption_number (text : String) :
    (number text).toOption = (Whole.read text).toOption.map .int := by
  unfold number
  cases Whole.read text <;> rfl

theorem toOption_switch (text : String) : (switch text).toOption = (position? text).map .bool := by
  have hlower : String.ofList (text.toList.map Char.toLower) = text.toLower := by
    rw [String.toLower, ← String.toList_map, String.ofList_toList]
  unfold switch position?
  simp only [hlower, List.contains_iff_mem]
  split
  · rfl
  · split <;> rfl

theorem exists_switch {text : String} (h : ∃ b, position? text = some b) : ∃ v, switch text = .ok v := by
  obtain ⟨b, hb⟩ := h
  have hswitch := toOption_switch text
  rw [hb] at hswitch
  cases hresult : switch text with
  | ok v => exact ⟨v, rfl⟩
  | error e =>
    rw [hresult] at hswitch
    cases hswitch

theorem exists_number {text : String} (h : ∃ n, Whole.read text = .ok n) : ∃ v, number text = .ok v := by
  obtain ⟨n, hn⟩ := h
  exact ⟨.int n, by rw [number, hn]; rfl⟩

/-- The variables of the four settings. -/
theorem variableOf_readers :
    variableOf "binary_file_threshold" = "REPO_MINER_BINARY_FILE_THRESHOLD" ∧
      variableOf "git_timeout_seconds" = "REPO_MINER_GIT_TIMEOUT_SECONDS" ∧
      variableOf "fail_fast" = "REPO_MINER_FAIL_FAST" ∧
      variableOf "include_smells" = "REPO_MINER_INCLUDE_SMELLS" := by
  decide +kernel

/-- **Reading takes the four variables**, each in its way. -/
theorem value?_eq (vars : Variables) (name : String) : value? vars name = given? vars name := by
  obtain ⟨hthreshold, htimeout, hfast, hsmells⟩ := variableOf_readers
  unfold value? given? readers
  split
  · simp only [Entries.lookup_cons_eq, if_true, Option.bind_some, hthreshold, toOption_number]
  · simp [Entries.lookup_cons_eq, htimeout, toOption_number]
  · simp [Entries.lookup_cons_eq, hfast, toOption_switch]
  · simp [Entries.lookup_cons_eq, hsmells, toOption_switch]
  · next hne₁ hne₂ hne₃ hne₄ =>
    simp only [Entries.lookup_cons_eq, if_neg hne₁, if_neg hne₂, if_neg hne₃, if_neg hne₄,
      List.lookup_nil, Option.bind_none]

/-- Variables that can be read give settings. -/
theorem exists_settings (h : AreReadable vars) : ∃ env, settings vars = .ok env := by
  obtain ⟨hthreshold, htimeout, hfast, hsmells⟩ := variableOf_readers
  apply exists_readAll
  intro r hr text htext
  simp only [readers, List.mem_cons, List.not_mem_nil, or_false] at hr
  rcases hr with rfl | rfl | rfl | rfl
  · exact exists_number (h.binaryThreshold text (by rwa [← hthreshold]))
  · exact exists_number (h.gitTimeout text (by rwa [← htimeout]))
  · exact exists_switch (h.failFast text (by rwa [← hfast]))
  · exact exists_switch (h.includeSmells text (by rwa [← hsmells]))

end Environment

namespace Setting

/-- **Where settings come from**: the file of the project, the file that the caller names, the variables
    of the environment, and the caller. -/
structure Sources where
  project : Settings
  named : Settings
  vars : Environment.Variables
  caller : Settings

/-- What a place gives for a limit: nothing, unless it gives the section as a table. -/
def limitIn (s : Smell) (name : String) (settings : Settings) : Option Value :=
  match settings.lookup s.sectionName with
  | some (.table limits) => limits.lookup name
  | _ => none

namespace Sources

/-- **The value of a setting that is no section**: that of the first place that gives it. -/
def value (src : Sources) (name : String) (default : Value) : Value :=
  ((said (src.caller.lookup name)).or <| (Environment.given? src.vars name).or <|
    (src.named.lookup name).or (src.project.lookup name)).getD default

/-- **The value of a limit**: that of the first place whose table for the section gives it. -/
def limit (src : Sources) (s : Smell) (name : String) (default : Value) : Value :=
  ((limitIn s name src.caller).or <|
    (limitIn s name src.named).or (limitIn s name src.project)).getD default

/-- **The thresholds of a smell**: those that the caller has made, or all limits one by one. -/
def thresholds (src : Sources) (s : Smell) : Thresholds :=
  match src.caller.lookup s.sectionName with
  | some (.thresholds _ limits) => ⟨s, limits⟩
  | _ => ⟨s, s.defaults.map fun l => (l.1, src.limit s l.1 l.2)⟩

/-- **What the places decide.** -/
def config (src : Sources) : Config where
  binaryThreshold := src.value "binary_file_threshold" Config.standard.binaryThreshold
  gitTimeout := src.value "git_timeout_seconds" Config.standard.gitTimeout
  failFast := src.value "fail_fast" Config.standard.failFast
  includeSmells := src.value "include_smells" Config.standard.includeSmells
  excludePatterns := src.value "exclude_patterns" Config.standard.excludePatterns
  brainMethod := src.thresholds .brainMethod
  complexMethod := src.thresholds .complexMethod
  longMethod := src.thresholds .longMethod

end Sources

/-- A table that gives limits of a smell, and nothing else. -/
def IsSectionTable (s : Smell) (v : Value) : Prop :=
  ∃ limits, v = .table limits ∧ ∀ name ∈ limits.map Prod.fst, name ∈ s.defaults.map Prod.fst

/-- What the caller may give for a section: nothing, a table in which no name stands twice, or
    thresholds of this smell. -/
inductive IsCallersSection (s : Smell) : Value → Prop where
  | nothing : IsCallersSection s .null
  | table {limits : List (String × Value)} (known : IsSectionTable s (.table limits))
      (names : (limits.map Prod.fst).Nodup) : IsCallersSection s (.table limits)
  | made {limits : List (String × Value)} (h : (Thresholds.mk s limits).IsAccepted) :
      IsCallersSection s (.thresholds s limits)

/-- **Places that hold settings as they should be.**

    - `known`: all names are known
    - `sections`: sections in files are tables with known limits
    - `names`, `callersSections`: the caller gives no name twice, and sections in one of three ways
    - `readable`: the variables of the environment can be read -/
structure Sources.IsOrderly (src : Sources) : Prop where
  known : ∀ settings ∈ [src.project, src.named, src.caller], ∀ name ∈ settings.map Prod.fst,
    name ∈ Config.names
  sections : ∀ settings ∈ [src.project, src.named], ∀ (s : Smell) v,
    settings.lookup s.sectionName = some v → IsSectionTable s v
  names : (src.caller.map Prod.fst).Nodup
  callersSections : ∀ (s : Smell) v, src.caller.lookup s.sectionName = some v → IsCallersSection s v
  readable : Environment.AreReadable src.vars

end Setting

/-- **Valid settings**: the two bounds hold, and no limit is below zero. -/
structure Config.IsValid (c : Config) : Prop extends c.IsBounded where
  limits : ∀ t ∈ [c.brainMethod, c.complexMethod, c.longMethod], ∀ l ∈ t.limits,
    l.2.isBelow (.int 0) = .ok false

namespace Setting

/-! ## Sections -/

section sections

variable {s : Smell} {o old : Option Value} {v : Value} {limits : List (String × Value)}
  {f : String → Option Value} {settings new : Settings}

/-- **A section that is being merged, and its limits.** A section that was not given has none. -/
def HoldsLimits (o : Option Value) (f : String → Option Value) : Prop :=
  (o = none ∧ ∀ name, f name = none) ∨
    ∃ limits, o = some (.table limits) ∧ ∀ name, limits.lookup name = f name

theorem isSection_sectionName (s : Smell) : isSection s.sectionName = true := by cases s <;> decide

/-- A table over a section. -/
theorem HoldsLimits.over (h : HoldsLimits old f) (hnames : (limits.map Prod.fst).Nodup) :
    HoldsLimits (some (combined s.sectionName (.table limits) old))
      fun name => (limits.lookup name).or (f name) := by
  rcases h with ⟨rfl, hnone⟩ | ⟨before, rfl, hbefore⟩
  · refine .inr ⟨limits, congrArg some (combined_none _ _), fun name => ?_⟩
    show limits.lookup name = (limits.lookup name).or (f name)
    rw [hnone name, Option.or_none]
  · refine .inr ⟨mergeLimits before limits, ?_, fun name => ?_⟩
    · unfold combined
      rw [isSection_sectionName]
    · show _ = (limits.lookup name).or (f name)
      rw [lookup_mergeLimits hnames, hbefore name]

/-- **One more place**, which gives the section as a table or says nothing for it. -/
theorem HoldsLimits.merge (h : HoldsLimits (settings.lookup s.sectionName) f)
    (hnames : (new.map Prod.fst).Nodup)
    (hnew : ∀ v, new.lookup s.sectionName = some v →
      ∃ limits, v = .table limits ∧ (limits.map Prod.fst).Nodup) :
    HoldsLimits ((merge settings new).lookup s.sectionName)
      fun name => (limitIn s name new).or (f name) := by
  rw [lookup_merge hnames]
  unfold limitIn
  cases hlookup : new.lookup s.sectionName with
  | none => exact h
  | some v =>
    obtain ⟨limits, rfl, hlimits⟩ := hnew v hlookup
    exact h.over hlimits

/-- The limits of a smell, as far as they are given. -/
def limitsFrom (s : Smell) (f : String → Option Value) : List (String × Value) :=
  s.defaults.map fun l => (l.1, (f l.1).getD l.2)

/-- Limits that compare with zero and are not below it. -/
def AreLimits (limits : List (String × Value)) : Prop :=
  ∀ l ∈ limits, l.2.isBelow (.int 0) = .ok false

theorem checkLimits_ok_iff (owner : String) (limits : List (String × Value)) :
    Thresholds.checkLimits owner limits = .ok () ↔ AreLimits limits := by
  rw [Thresholds.checkLimits_eq_ok_iff]
  exact forall₂_congr fun l _ => Value.isBelow_int_ok_iff.symm

/-- A table with known limits passes just when its limits, and the defaults of the others, do. -/
theorem sectionOf_table_ok_iff
    (hknown : ∀ name ∈ limits.map Prod.fst, name ∈ s.defaults.map Prod.fst) :
    sectionOf s (.table limits) = .ok v ↔
      AreLimits (limitsFrom s fun name => limits.lookup name) ∧
        v = .thresholds s (limitsFrom s fun name => limits.lookup name) := by
  have hnone : Thresholds.firstUnknown (s.defaults.map Prod.fst) limits = none := by
    rw [Thresholds.firstUnknown, List.find?_eq_none]
    intro name hname
    simpa using hknown name hname
  have hmake : Thresholds.make s limits =
      Thresholds.checked ⟨s, limitsFrom s fun name => limits.lookup name⟩ := by
    have hnone' : Thresholds.firstUnknown ((Thresholds.standard s).limits.map Prod.fst) limits = none :=
      hnone
    unfold Thresholds.make Thresholds.tuned
    rw [hnone']
    rfl
  rw [← checkLimits_ok_iff s.thresholdType]
  unfold sectionOf
  dsimp only
  rw [hmake]
  unfold Thresholds.checked
  cases hcheck : Thresholds.checkLimits s.thresholdType (limitsFrom s fun name => limits.lookup name) with
  | ok _ =>
    constructor
    · intro h
      cases h
      exact ⟨rfl, rfl⟩
    · rintro ⟨-, rfl⟩
      rfl
  | error e =>
    refine iff_of_false ?_ ?_
    · intro h
      cases e with
      | fault f => cases f <;> cases h
      | _ => cases h
    · rintro ⟨h, -⟩
      cases h

/-- **A section that holds limits** passes just when these do. -/
theorem HoldsLimits.checkedSection_ok_iff (h : HoldsLimits o f)
    (hknown : ∀ name, f name ≠ none → name ∈ s.defaults.map Prod.fst) {out : Option Value} :
    checkedSection s o = .ok out ↔
      AreLimits (limitsFrom s f) ∧ out = o.map fun _ => .thresholds s (limitsFrom s f) := by
  rcases h with ⟨rfl, hnone⟩ | ⟨limits, rfl, hlimits⟩
  · have hdefaults : limitsFrom s f = s.defaults := by
      unfold limitsFrom
      simp only [hnone, Option.getD_none, Prod.mk.eta, List.map_id']
    have hpassed : AreLimits (limitsFrom s f) := by
      rw [hdefaults, ← checkLimits_ok_iff s.thresholdType]
      exact (Thresholds.isAccepted_standard s).passed
    constructor
    · intro h
      cases h
      exact ⟨hpassed, rfl⟩
    · intro ⟨_, h⟩
      rw [h]
      rfl
  · have hf : f = fun name => limits.lookup name := funext fun name => (hlimits name).symm
    have hnames : ∀ name ∈ limits.map Prod.fst, name ∈ s.defaults.map Prod.fst := by
      intro name hname
      apply hknown name
      rw [hf]
      intro hnone
      exact Entries.lookup_eq_none_iff_names.1 hnone hname
    show (sectionOf s (.table limits)).map some = .ok out ↔ _
    rw [except_map_ok_iff, hf]
    constructor
    · intro ⟨v, hv, hout⟩
      obtain ⟨hpassed, rfl⟩ := (sectionOf_table_ok_iff hnames).1 hv
      exact ⟨hpassed, hout.symm⟩
    · intro ⟨hpassed, hout⟩
      exact ⟨_, (sectionOf_table_ok_iff hnames).2 ⟨hpassed, rfl⟩, hout.symm⟩

/-- What such a section comes to. -/
theorem HoldsLimits.thresholdsOf (h : HoldsLimits o f) :
    Config.thresholdsOf s ((o.map fun _ => Value.thresholds s (limitsFrom s f)).getD .null) =
      ⟨s, limitsFrom s f⟩ := by
  rcases h with ⟨rfl, hnone⟩ | ⟨limits, rfl, -⟩
  · have hdefaults : limitsFrom s f = s.defaults := by
      unfold limitsFrom
      simp only [hnone, Option.getD_none, Prod.mk.eta, List.map_id']
    rw [hdefaults]
    rfl
  · exact if_pos rfl

end sections

/-! ## All places -/

namespace Sources

variable {src : Sources} {env : Settings} {s : Smell} {name : String}

/-- The settings of all places, those that come first over the others. -/
def merged (src : Sources) (env : Settings) : Settings :=
  merge (merge (merge (merge [] src.project) src.named) env) (given src.caller)

/-- **Files in which no name stands twice**, neither among the settings nor in a table. -/
structure FilesStorable (src : Sources) : Prop where
  project : Toml.Table.IsStorable src.project
  named : Toml.Table.IsStorable src.named

theorem nodup_environment (henv : Environment.settings src.vars = .ok env) :
    (env.map Prod.fst).Nodup :=
  (Environment.names_readAll henv).nodup Environment.nodup_readers

/-- The environment gives no sections. -/
theorem environment_section (henv : Environment.settings src.vars = .ok env) (s : Smell) :
    env.lookup s.sectionName = none := by
  rw [Environment.lookup_settings henv, Environment.value?]
  have hnone : Environment.readers.lookup s.sectionName = none := by
    rw [Entries.lookup_eq_none_iff_names]
    cases s <;> decide
  rw [hnone]
  rfl

/-- **A setting that is no section**, over all places. -/
theorem lookup_merged (hcaller : (src.caller.map Prod.fst).Nodup) (hfiles : src.FilesStorable)
    (henv : Environment.settings src.vars = .ok env) (hname : isSection name = false) (default : Value) :
    ((src.merged env).lookup name).getD default = src.value name default := by
  unfold merged
  rw [lookup_merge_of_not_section (nodup_given hcaller) hname,
    lookup_merge_of_not_section (nodup_environment henv) hname,
    lookup_merge_of_not_section hfiles.named.names hname,
    lookup_merge_of_not_section hfiles.project.names hname,
    lookup_given hcaller, Environment.lookup_settings henv, Environment.value?_eq, List.lookup_nil,
    Option.or_none]
  rfl

/-- Sections of files are tables in which no name stands twice. -/
theorem sections_storable {settings : Settings} (hstorable : Toml.Table.IsStorable settings)
    (hsections : ∀ (s : Smell) v, settings.lookup s.sectionName = some v → IsSectionTable s v) (v : Value)
    (hv : settings.lookup s.sectionName = some v) :
    ∃ limits, v = .table limits ∧ (limits.map Prod.fst).Nodup := by
  obtain ⟨limits, rfl, -⟩ := hsections s v hv
  exact ⟨limits, rfl, (Toml.Table.IsStorable.ofValue (hstorable.lookup hv)).names⟩

/-- **A section that the caller has not made**, over all places. -/
theorem merged_holdsLimits (h : src.IsOrderly) (hfiles : src.FilesStorable)
    (henv : Environment.settings src.vars = .ok env)
    (hmade : ∀ limits, src.caller.lookup s.sectionName ≠ some (.thresholds s limits)) :
    HoldsLimits ((src.merged env).lookup s.sectionName) fun name =>
      (limitIn s name src.caller).or <|
        (limitIn s name src.named).or (limitIn s name src.project) := by
  have hnothing : HoldsLimits (List.lookup s.sectionName ([] : Settings)) fun _ => none :=
    .inl ⟨rfl, fun _ => rfl⟩
  have hproject := hnothing.merge hfiles.project.names
    (sections_storable hfiles.project (h.sections _ (by simp)))
  have hnamed := hproject.merge hfiles.named.names
    (sections_storable hfiles.named (h.sections _ (by simp)))
  have hsection := environment_section henv s
  have henvironment := hnamed.merge (nodup_environment henv) fun v hv => by
    rw [hsection] at hv
    cases hv
  have hlookup := lookup_given h.names s.sectionName
  have hcaller := henvironment.merge (nodup_given h.names) fun v hv => by
    rw [hlookup] at hv
    cases hgiven : src.caller.lookup s.sectionName with
    | none =>
      rw [hgiven] at hv
      cases hv
    | some w =>
      rw [hgiven] at hv
      cases h.callersSections s w hgiven with
      | nothing => cases hv
      | table _ hnames =>
        cases hv
        exact ⟨_, rfl, hnames⟩
      | made _ => exact absurd hgiven (hmade _)
  have hlimits : ∀ name, limitIn s name (given src.caller) = limitIn s name src.caller := by
    intro name
    unfold limitIn
    rw [hlookup]
    cases src.caller.lookup s.sectionName with
    | none => rfl
    | some v => cases v <;> rfl
  have henvLimits : ∀ name, limitIn s name env = none := by
    intro name
    rw [limitIn, hsection]
  simp only [hlimits, henvLimits, Option.none_or, Option.or_none] at hcaller
  exact hcaller

/-- A section that the caller has made replaces all others. -/
theorem merged_made (h : src.IsOrderly) {limits : List (String × Value)}
    (hmade : src.caller.lookup s.sectionName = some (.thresholds s limits)) :
    (src.merged env).lookup s.sectionName = some (.thresholds s limits) := by
  unfold merged
  rw [lookup_merge (nodup_given h.names), lookup_given h.names, hmade]
  exact congrArg some (combined_thresholds _ _ _ _)

/-- The value that a section comes to, if anything was given for it. -/
def settledSection (src : Sources) (env : Settings) (s : Smell) : Option Value :=
  ((src.merged env).lookup s.sectionName).map fun _ => (src.thresholds s).toValue

theorem thresholds_of_not_made (h : src.IsOrderly)
    (hmade : ∀ limits, src.caller.lookup s.sectionName ≠ some (.thresholds s limits)) :
    src.thresholds s = ⟨s, limitsFrom s fun name => (limitIn s name src.caller).or <|
      (limitIn s name src.named).or (limitIn s name src.project)⟩ := by
  unfold thresholds
  split
  · next limits hlookup =>
    cases h.callersSections s _ hlookup with
    | made _ => exact absurd hlookup (hmade _)
  · rfl

/-- Limits that are given for a smell are limits of this smell. -/
theorem known_limits (h : src.IsOrderly)
    (hname : (limitIn s name src.caller).or
      ((limitIn s name src.named).or (limitIn s name src.project)) ≠ none) :
    name ∈ s.defaults.map Prod.fst := by
  have hknown : ∀ settings : Settings,
      (∀ v, settings.lookup s.sectionName = some v → v = .null ∨ IsSectionTable s v ∨
        ∃ limits, v = .thresholds s limits) →
      limitIn s name settings ≠ none → name ∈ s.defaults.map Prod.fst := by
    intro settings hsections hlimit
    unfold limitIn at hlimit
    split at hlimit
    · next limits hlookup =>
      rcases hsections _ hlookup with hnull | ⟨limits', heq, hnames⟩ | ⟨limits', hmade⟩
      · cases hnull
      · cases heq
        apply hnames
        by_contra hmem
        exact hlimit (Entries.lookup_eq_none_iff_names.2 hmem)
      · cases hmade
    · exact absurd rfl hlimit
  have hfile : ∀ settings ∈ [src.project, src.named], limitIn s name settings ≠ none →
      name ∈ s.defaults.map Prod.fst := by
    intro settings hsettings
    exact hknown settings fun v hv => .inr (.inl (h.sections settings hsettings s v hv))
  rw [Ne, Option.or_eq_none_iff, Option.or_eq_none_iff, not_and_or, not_and_or] at hname
  rcases hname with hcaller | hnamed | hproject
  · refine hknown src.caller (fun v hv => ?_) hcaller
    cases h.callersSections s v hv with
    | nothing => exact .inl rfl
    | table known _ => exact .inr (.inl known)
    | made _ => exact .inr (.inr ⟨_, rfl⟩)
  · exact hfile src.named (by simp) hnamed
  · exact hfile src.project (by simp) hproject

/-- **When a section passes**, and what it comes to: what the places decide. -/
theorem checkedSection_merged_ok_iff (h : src.IsOrderly) (hfiles : src.FilesStorable)
    (henv : Environment.settings src.vars = .ok env) {out : Option Value} :
    checkedSection s ((src.merged env).lookup s.sectionName) = .ok out ↔
      AreLimits (src.thresholds s).limits ∧ out = src.settledSection env s := by
  unfold settledSection
  by_cases hmade : ∃ limits, src.caller.lookup s.sectionName = some (.thresholds s limits)
  · obtain ⟨limits, hmade⟩ := hmade
    have hthresholds : src.thresholds s = ⟨s, limits⟩ := by
      unfold thresholds
      rw [hmade]
    have haccepted : AreLimits limits := by
      cases h.callersSections s _ hmade with
      | made haccepted => exact (checkLimits_ok_iff s.thresholdType limits).1 haccepted.passed
    have hchecked : checkedSection s (some (.thresholds s limits)) = .ok (some (.thresholds s limits)) := by
      show (sectionOf s (.thresholds s limits)).map some = _
      unfold sectionOf
      dsimp only
      rw [if_pos rfl]
      rfl
    rw [hthresholds, merged_made h hmade, hchecked]
    constructor
    · intro hout
      exact ⟨haccepted, (Except.ok.inj hout).symm⟩
    · intro ⟨_, hout⟩
      rw [hout]
      rfl
  · have hnot := not_exists.1 hmade
    rw [thresholds_of_not_made h hnot]
    exact (merged_holdsLimits h hfiles henv hnot).checkedSection_ok_iff fun name =>
      known_limits h

theorem thresholdsOf_settledSection (h : src.IsOrderly) (hfiles : src.FilesStorable)
    (henv : Environment.settings src.vars = .ok env) (s : Smell) :
    Config.thresholdsOf s ((src.settledSection env s).getD .null) = src.thresholds s := by
  unfold settledSection
  by_cases hmade : ∃ limits, src.caller.lookup s.sectionName = some (.thresholds s limits)
  · obtain ⟨limits, hmade⟩ := hmade
    have hthresholds : src.thresholds s = ⟨s, limits⟩ := by
      unfold thresholds
      rw [hmade]
    rw [hthresholds, merged_made h hmade]
    exact if_pos rfl
  · have hnot := not_exists.1 hmade
    rw [thresholds_of_not_made h hnot]
    exact (merged_holdsLimits h hfiles henv hnot).thresholdsOf

/-- What the settings of all places come to is what the places decide. -/
theorem configOf_merged (h : src.IsOrderly) (hfiles : src.FilesStorable)
    (henv : Environment.settings src.vars = .ok env) :
    configOf (src.merged env) (src.settledSection env) = src.config := by
  have hplain := fun name (hname : isSection name = false) => lookup_merged h.names hfiles henv hname
  unfold configOf config
  rw [hplain "binary_file_threshold" (by decide), hplain "git_timeout_seconds" (by decide),
    hplain "fail_fast" (by decide), hplain "include_smells" (by decide),
    hplain "exclude_patterns" (by decide), thresholdsOf_settledSection h hfiles henv,
    thresholdsOf_settledSection h hfiles henv, thresholdsOf_settledSection h hfiles henv]

theorem known_merged (h : src.IsOrderly) (henv : Environment.settings src.vars = .ok env) :
    ∀ name ∈ (src.merged env).map Prod.fst, name ∈ Config.names := by
  intro name hname
  unfold merged at hname
  rw [names_merge, names_merge, names_merge, names_merge] at hname
  rcases hname with hcaller | henvironment | hnamed | hproject | hnone
  · exact h.known src.caller (by simp) name ((List.filter_sublist.map _).mem hcaller)
  · have hreader := (Environment.names_readAll henv).mem henvironment
    have hreaders : ∀ name ∈ Environment.readers.map Prod.fst, name ∈ Config.names := by decide
    exact hreaders name hreader
  · exact h.known src.named (by simp) name hnamed
  · exact h.known src.project (by simp) name hproject
  · exact absurd hnone List.not_mem_nil

end Sources

/-! ## Loading -/

variable {disk : Disk} {here : Path} {settings : Settings}

theorem storable_ofFile {path : Path} (h : ofFile disk here path = .ok settings) :
    Toml.Table.IsStorable settings := by
  unfold ofFile at h
  split at h
  · cases h
  · split at h
    · cases h
    · exact Toml.Document.storable_ofLines (mapError_ok_iff.1 h)

theorem storable_ofProject (h : ofProject disk here = .ok settings) :
    Toml.Table.IsStorable settings := by
  unfold ofProject at h
  split at h
  · cases h
  · exact storable_ofFile h
  · cases h
    exact Toml.Table.isStorable_nil

theorem storable_ofCaller {file : Option Path} (h : ofCaller disk here file = .ok settings) :
    Toml.Table.IsStorable settings := by
  unfold ofCaller at h
  split at h
  · cases h
    exact Toml.Table.isStorable_nil
  · split at h
    · cases h
    · exact storable_ofFile h
    · cases h

/-- Loading settles the settings of all places. -/
theorem loadConfig_eq {vars : Environment.Variables} {file : Option Path}
    {project named env overrides : Settings} (hproject : ofProject disk here = .ok project)
    (hnamed : ofCaller disk here file = .ok named) (henv : Environment.settings vars = .ok env) :
    loadConfig disk here vars file overrides =
      settled ((Sources.mk project named vars overrides).merged env) := by
  unfold loadConfig
  rw [hproject, hnamed, henv]
  rfl

end Setting

open Setting

/-- **Which source decides.** The files can be read, all places hold settings as they should, and the
    caller may have given anything for the four scalar settings and the patterns. Then loading gives
    what the places decide, setting by setting and limit by limit, just when this is valid. -/
theorem loadConfig_ok_iff {disk : Disk} {here : Path} {vars : Environment.Variables} {file : Option Path}
    {project named overrides : Settings} (hproject : ofProject disk here = .ok project)
    (hnamed : ofCaller disk here file = .ok named)
    (h : (Sources.mk project named vars overrides).IsOrderly) (c : Config) :
    loadConfig disk here vars file overrides = .ok c ↔
      c = (Sources.mk project named vars overrides).config ∧ c.IsValid := by
  let src := Sources.mk project named vars overrides
  have hfiles : src.FilesStorable := ⟨storable_ofProject hproject, storable_ofCaller hnamed⟩
  obtain ⟨env, henv⟩ : ∃ env, Environment.settings vars = .ok env :=
    Environment.exists_settings h.readable
  have hload : loadConfig disk here vars file overrides = settled (src.merged env) :=
    loadConfig_eq hproject hnamed henv
  rw [hload, settled_ok_iff]
  constructor
  · intro ⟨sections, hsections, _, hc, hbounded⟩
    have hchecked := fun s => (Sources.checkedSection_merged_ok_iff h hfiles henv).1 (hsections s)
    have hsame : sections = src.settledSection env := funext fun s => (hchecked s).2
    rw [hsame, Sources.configOf_merged h hfiles henv] at hc
    refine ⟨hc, hbounded, ?_⟩
    intro t ht
    rw [hc] at ht
    simp only [List.mem_cons, List.not_mem_nil, or_false] at ht
    rcases ht with rfl | rfl | rfl
    · exact (hchecked .brainMethod).1
    · exact (hchecked .complexMethod).1
    · exact (hchecked .longMethod).1
  · intro ⟨hc, hvalid⟩
    refine ⟨src.settledSection env, ?_, Sources.known_merged h henv, ?_, hvalid.toIsBounded⟩
    · intro s
      have hlimits := hvalid.limits (src.thresholds s) (by rw [hc]; cases s <;> simp [Sources.config, src])
      exact (Sources.checkedSection_merged_ok_iff h hfiles henv).2 ⟨hlimits, rfl⟩
    · rw [hc, Sources.configOf_merged h hfiles henv]

/-! ## Three places for one section -/

namespace Setting

/-- A folder with a file of the project and another file. -/
def twoFiles (project named : String) : Disk :=
  ⟨[(["repo-miner.toml"], .file (Text.encode project.toList)),
    (["own.toml"], .file (Text.encode named.toList))], []⟩

/-- Files at the top that can be read hold the settings that they are read as. -/
theorem ofFile_ok {disk : Disk} {here : Path} {root name : String} {text : List Char}
    {settings : Settings} (hlocate : disk.locate here ⟨root, [name]⟩ = .ok [name])
    (hentry : disk.find? [name] = some (.file (Text.encode text)))
    (hreadable : disk.unreadable.contains [name] = false)
    (htext : Text.decodeStrict (Text.encode text) = some text)
    (hfeeds : Toml.Document.lineFeeds text = text) (hlines : Toml.Document.ofLines text = .ok settings) :
    disk.isThere here ⟨root, [name]⟩ = .ok true ∧
      ofFile disk here ⟨root, [name]⟩ = .ok settings := by
  constructor
  · rw [Disk.isThere, Disk.lookAt_of_locate hlocate, hentry]
    rfl
  · unfold ofFile Disk.read
    simp only [hlocate, hreadable, Bool.false_eq_true, if_false, hentry, htext, hfeeds, hlines]
    rfl

/-- The file of the project at the top. -/
theorem locate_projectFile (disk : Disk) :
    disk.locate ⟨"/", []⟩ ⟨"/", ["repo-miner.toml"]⟩ = .ok ["repo-miner.toml"] :=
  Disk.locate_topName rfl (by decide) (by decide) (by decide) (by decide)

theorem ofProject_twoFiles :
    ofProject (twoFiles "brain_method=\x7bcc=7\x7d" "brain_method=\x7bnoav=9\x7d") ⟨"/", []⟩ =
      .ok [("brain_method", .table [("cc", .int 7)])] := by
  have hkey : Toml.key "brain_method=\x7bcc=7\x7d".toList =
      .ok (["brain_method"], "=\x7bcc=7\x7d".toList) := by rfl
  have hlimit : Toml.key "cc=7\x7d".toList = .ok (["cc"], "=7\x7d".toList) := by rfl
  have hnumber : Toml.value 12 "7\x7d".toList = .ok (.int 7, ['\x7d']) := by rfl
  have hvalue : Toml.value 14 "\x7bcc=7\x7d".toList = .ok (.table [("cc", .int 7)], []) :=
    Toml.value_oneEntry (by decide) hlimit hnumber
  have hlines := Toml.Document.ofLines_entry rfl (by decide) hkey hvalue
  let disk := twoFiles "brain_method=\x7bcc=7\x7d" "brain_method=\x7bnoav=9\x7d"
  have hentry : disk.find? ["repo-miner.toml"] =
      some (.file (Text.encode "brain_method=\x7bcc=7\x7d".toList)) := by rfl
  have hreadable : disk.unreadable.contains ["repo-miner.toml"] = false := by rfl
  obtain ⟨hthere, hfile⟩ :=
    ofFile_ok (locate_projectFile disk) hentry hreadable (by rfl) (by rfl) hlines
  unfold ofProject
  rw [show projectFile ⟨"/", []⟩ = ⟨"/", ["repo-miner.toml"]⟩ from rfl, hthere]
  exact hfile

theorem ofCaller_twoFiles :
    ofCaller (twoFiles "brain_method=\x7bcc=7\x7d" "brain_method=\x7bnoav=9\x7d") ⟨"/", []⟩
      (some ⟨"", ["own.toml"]⟩) = .ok [("brain_method", .table [("noav", .int 9)])] := by
  have hkey : Toml.key "brain_method=\x7bnoav=9\x7d".toList =
      .ok (["brain_method"], "=\x7bnoav=9\x7d".toList) := by rfl
  have hlimit : Toml.key "noav=9\x7d".toList = .ok (["noav"], "=9\x7d".toList) := by rfl
  have hnumber : Toml.value 16 "9\x7d".toList = .ok (.int 9, ['\x7d']) := by rfl
  have hvalue : Toml.value 18 "\x7bnoav=9\x7d".toList = .ok (.table [("noav", .int 9)], []) :=
    Toml.value_oneEntry (by decide) hlimit hnumber
  have hlines := Toml.Document.ofLines_entry rfl (by decide) hkey hvalue
  let disk := twoFiles "brain_method=\x7bcc=7\x7d" "brain_method=\x7bnoav=9\x7d"
  have hlocate : disk.locate ⟨"/", []⟩ ⟨"", ["own.toml"]⟩ = .ok ["own.toml"] :=
    Disk.locate_topName rfl (by decide) (by decide) (by decide) (by decide)
  have hentry : disk.find? ["own.toml"] =
      some (.file (Text.encode "brain_method=\x7bnoav=9\x7d".toList)) := by rfl
  have hreadable : disk.unreadable.contains ["own.toml"] = false := by rfl
  obtain ⟨hthere, hfile⟩ := ofFile_ok hlocate hentry hreadable (by rfl) (by rfl) hlines
  unfold ofCaller
  dsimp only
  rw [hthere]
  exact hfile

/-- Both files and the caller give limits of brain methods. The environment gives a switch and two
    numbers, one of which the caller gives as well. -/
def threePlaces : Sources where
  project := [("brain_method", .table [("cc", .int 7)])]
  named := [("brain_method", .table [("noav", .int 9)])]
  vars name :=
    if name = "REPO_MINER_FAIL_FAST" then some "Yes"
    else if name = "REPO_MINER_GIT_TIMEOUT_SECONDS" then some "30"
    else if name = "REPO_MINER_BINARY_FILE_THRESHOLD" then some "9" else none
  caller := [("brain_method", .table [("mloc", .int 50)]), ("binary_file_threshold", .int 8)]

theorem position?_yes : Environment.position? "Yes" = some true := by decide +kernel

theorem read_nine : Whole.read "9" = .ok 9 := by
  have h := Whole.read_toString 9
  rwa [if_neg (by decide)] at h

theorem read_thirty : Whole.read "30" = .ok 30 := by
  have h := Whole.read_toString 30
  rwa [if_neg (by decide)] at h

/-- The switch and the numbers are there, and no other switch is. -/
theorem given?_threePlaces :
    Environment.given? threePlaces.vars "fail_fast" = some (.bool true) ∧
      Environment.given? threePlaces.vars "include_smells" = none ∧
      Environment.given? threePlaces.vars "git_timeout_seconds" = some (.int 30) := by
  refine ⟨?_, rfl, ?_⟩
  · show (some "Yes").bind (fun text => (Environment.position? text).map Value.bool) = _
    rw [Option.bind_some, position?_yes]
    rfl
  · show (some "30").bind (fun text => (Whole.read text).toOption.map Value.int) = _
    rw [Option.bind_some, read_thirty]
    rfl

theorem brainMethod_of_lookup {s : Smell} {v w : Value} {rest : Settings}
    (hrest : rest.lookup s.sectionName = none)
    (h : List.lookup s.sectionName (("brain_method", v) :: rest) = some w) :
    s = .brainMethod ∧ w = v := by
  rw [Entries.lookup_cons_eq, hrest] at h
  cases s with
  | brainMethod => exact ⟨rfl, (Option.some.inj h).symm⟩
  | complexMethod => cases h
  | longMethod => cases h

theorem isOrderly_threePlaces : threePlaces.IsOrderly where
  known := by decide
  sections := by
    intro settings hsettings s v hv
    rcases List.mem_pair.1 hsettings with rfl | rfl
    · obtain ⟨rfl, rfl⟩ := brainMethod_of_lookup rfl hv
      exact ⟨_, rfl, by decide⟩
    · obtain ⟨rfl, rfl⟩ := brainMethod_of_lookup rfl hv
      exact ⟨_, rfl, by decide⟩
  names := by decide
  callersSections := by
    intro s v hv
    obtain ⟨rfl, rfl⟩ := brainMethod_of_lookup (by cases s <;> rfl) hv
    exact .table ⟨_, rfl, by decide⟩ (by decide)
  readable :=
    { binaryThreshold := by
        intro text htext
        cases htext
        exact ⟨9, read_nine⟩
      gitTimeout := by
        intro text htext
        cases htext
        exact ⟨30, read_thirty⟩
      failFast := by
        intro text htext
        cases htext
        exact ⟨true, position?_yes⟩
      includeSmells := by
        intro text htext
        cases htext }

end Setting

theorem loadConfig_ok_iff_threePlaces :
    ∃ c, loadConfig (twoFiles "brain_method=\x7bcc=7\x7d" "brain_method=\x7bnoav=9\x7d") ⟨"/", []⟩
        threePlaces.vars (some ⟨"", ["own.toml"]⟩) threePlaces.caller = .ok c ∧
      c.brainMethod.limits =
        [("mloc", .int 50), ("cc", .int 7), ("max_nesting", .int 5), ("noav", .int 9)] ∧
      c.failFast = .bool true ∧ c.includeSmells = .bool true ∧ c.gitTimeout = .int 30 ∧
      c.binaryThreshold = .int 8 := by
  have h := loadConfig_ok_iff ofProject_twoFiles ofCaller_twoFiles isOrderly_threePlaces
    threePlaces.config
  obtain ⟨hfast, hsmells, htimeout⟩ := given?_threePlaces
  have hcaller : ∀ name, name ≠ "binary_file_threshold" → isSection name = false →
      threePlaces.caller.lookup name = none := by
    intro name hname hsection
    have hbrain : name ≠ "brain_method" := by
      rintro rfl
      cases hsection
    simp [threePlaces, Entries.lookup_cons_eq, hname, hbrain]
  have hfailFast : threePlaces.config.failFast = .bool true := by
    show threePlaces.value "fail_fast" _ = _
    rw [Sources.value, hcaller _ (by decide) (by decide), hfast]
    rfl
  have hincludeSmells : threePlaces.config.includeSmells = .bool true := by
    show threePlaces.value "include_smells" _ = _
    rw [Sources.value, hcaller _ (by decide) (by decide), hsmells]
    rfl
  have hgitTimeout : threePlaces.config.gitTimeout = .int 30 := by
    have hsaid : said none = none := rfl
    unfold Sources.config
    dsimp only
    rw [Sources.value, hcaller _ (by decide) (by decide), htimeout, hsaid,
      Option.none_or, Option.some_or, Option.getD_some]
  have hthreshold : threePlaces.config.binaryThreshold = .int 8 := by
    have hgiven : threePlaces.caller.lookup "binary_file_threshold" = some (.int 8) := rfl
    have hsaid : said (some (Value.int 8)) = some (.int 8) := rfl
    unfold Sources.config
    dsimp only
    rw [Sources.value, hgiven, hsaid, Option.some_or, Option.getD_some]
  refine ⟨threePlaces.config, h.2 ⟨rfl, ?_⟩, rfl, hfailFast, hincludeSmells, hgitTimeout, hthreshold⟩
  exact
    { binaryThreshold := by
        rw [hthreshold]
        decide
      gitTimeout := by
        rw [hgitTimeout]
        decide
      limits := by decide }

end HistoryMetrics
