import HistoryMetrics.Proofs.Setting.Precedence
import HistoryMetrics.Proofs.Setting.Refusal

/-! # How loading settings ends

    Loading gives settings within their bounds, or it ends with a problem of the configuration. But not
    everything that can go wrong is made such a problem: some faults get through.

    - `Value.IsAtLeast`: what passes a bound
    - `Setting.Ends`: how loading ends early, with all faults that get through
    - `ends_ofFile`, `ends_environment`, `ends_settled`: the steps that can end it
    - `loadConfig_outcome`: how loading ends
    - `loadConfig_incomparable`: a bound for numbers, and a text in its place
-/

namespace HistoryMetrics

open HistoryMetrics.Action

/-! ## Bounds -/

/-- **What passes a bound**: a value that is at least as great, and the value that is not a number, which
    compares with nothing. -/
def Value.IsAtLeast (v : Value) (bound : Int) : Prop :=
  v.isAtLeast (.int bound) = .ok true ∨ v = .real .nan

theorem Number.ge_of_not_lt {n : Number} {bound : Int} (h : n.lt (.whole bound) = false)
    (hnan : n ≠ .real .nan) : n.ge (.whole bound) = true := by
  have hcompare : ∃ o, n.compare? (.whole bound) = some o := by
    cases n with
    | whole i => exact ⟨_, rfl⟩
    | real x =>
      cases x with
      | nan => exact absurd rfl hnan
      | infinite s => exact ⟨_, rfl⟩
      | finite s m e => exact ⟨_, rfl⟩
  obtain ⟨o, ho⟩ := hcompare
  unfold Number.lt at h
  unfold Number.ge
  rw [ho] at h ⊢
  cases o with
  | lt => cases h
  | eq => rfl
  | gt => rfl

/-- **What is not below a bound passes it.** -/
theorem Value.isAtLeast_of_isBelow {v : Value} {bound : Int} (h : v.isBelow (.int bound) = .ok false) :
    v.IsAtLeast bound := by
  obtain ⟨n, hn, hlt⟩ := Value.isBelow_int_ok_iff.1 h
  by_cases hnan : n = .real .nan
  · right
    subst hnan
    cases v with
    | bool b => cases hn
    | number m =>
      cases hn
      rfl
    | _ => cases hn
  · left
    have hbound : (Value.int bound).number? = some (.whole bound) := rfl
    unfold isAtLeast compareWith
    rw [hn, hbound]
    exact congrArg Except.ok (Number.ge_of_not_lt hlt hnan)

/-- **Settings within their bounds.** -/
structure Config.IsWithinBounds (c : Config) : Prop where
  binaryThreshold : c.binaryThreshold.IsAtLeast 0
  gitTimeout : c.gitTimeout.IsAtLeast 1
  limits : ∀ t ∈ [c.brainMethod, c.complexMethod, c.longMethod], ∀ l ∈ t.limits, l.2.IsAtLeast 0

theorem Config.IsValid.isWithinBounds {c : Config} (h : c.IsValid) : c.IsWithinBounds where
  binaryThreshold := Value.isAtLeast_of_isBelow h.binaryThreshold
  gitTimeout := Value.isAtLeast_of_isBelow h.gitTimeout
  limits t ht l hl := Value.isAtLeast_of_isBelow (h.limits t ht l hl)

namespace Setting

/-! ## How loading ends early -/

/-- The files that are read: that of the project, and the one that the caller names. -/
def IsRead (here : Path) (file : Option Path) (path : Path) : Prop :=
  path = projectFile here ∨ file = some path

variable {disk : Disk} {here : Path} {vars : Environment.Variables} {file : Option Path}
  {overrides : Settings}

/-- **How loading ends early.**

    - `told`: with a problem of the configuration
    - `longPath`: the path of a file is too long for the system
    - `undecodable`: a file is no text
    - `longNumeral`: a file holds a decimal number with too many digits
    - `longNumber`: what is given holds a number with too many digits to be shown
    - `threshold`, `timeout`: one of the settings with bounds is not a number -/
inductive Ends (disk : Disk) (here : Path) (vars : Environment.Variables) (file : Option Path)
    (overrides : Settings) : Failure → Prop where
  | told {p : Problem} (h : ProblemKind.configuration ∈ p.kind :: p.kind.groups) :
      Ends disk here vars file overrides (.problem p)
  | longPath {path : Path} (hpath : IsRead here file path)
      (h : disk.locate here path = .error .tooLong) :
      Ends disk here vars file overrides (.fault (.system 36 "File name too long" (some path.text)))
  | undecodable {path : Path} {octets : List UInt8} (hpath : IsRead here file path)
      (hread : disk.read here path = .ok octets) (h : Text.decodeStrict octets = none) :
      Ends disk here vars file overrides (.fault .notDecodable)
  | longNumeral {path : Path} {octets : List UInt8} {text : List Char} {digits : Nat}
      (hpath : IsRead here file path) (hread : disk.read here path = .ok octets)
      (htext : Text.decodeStrict octets = some text)
      (h : Toml.Document.ofLines (Toml.Document.lineFeeds text) = .error (.tooManyDigits digits)) :
      Ends disk here vars file overrides (.fault (.wrongValue (Whole.tooManyDigits digits)))
  | longNumber {project named settings : Settings} {e : String × Value}
      (hproject : ofProject disk here = .ok project) (hnamed : ofCaller disk here file = .ok named)
      (hsettings : settings ∈ [project, named, overrides]) (he : e ∈ settings)
      (h : e.2.isShowable = false) : Ends disk here vars file overrides (.fault tooLong)
  | threshold {project named : Settings} {v : Value} (hproject : ofProject disk here = .ok project)
      (hnamed : ofCaller disk here file = .ok named)
      (hv : v = (Sources.mk project named vars overrides).config.binaryThreshold)
      (h : v.number? = none) :
      Ends disk here vars file overrides (.fault (incomparable "<" v (.int 0)))
  | timeout {project named : Settings} {v : Value} (hproject : ofProject disk here = .ok project)
      (hnamed : ofCaller disk here file = .ok named)
      (hv : v = (Sources.mk project named vars overrides).config.gitTimeout) (h : v.number? = none) :
      Ends disk here vars file overrides (.fault (incomparable "<" v (.int 1)))

/-! ## Files -/

theorem ends_ofFile {path : Path} {e : Failure} (hpath : IsRead here file path)
    (h : ofFile disk here path = .error e) : Ends disk here vars file overrides e := by
  unfold ofFile at h
  split at h
  · cases h
    exact .told List.mem_cons_self
  · next octets hread =>
    split at h
    · next hnone =>
      cases h
      exact .undecodable hpath hread hnone
    · next text htext =>
      cases hlines : Toml.Document.ofLines (Toml.Document.lineFeeds text) with
      | ok t =>
        simp only [hlines] at h
        cases h
      | error defect =>
        simp only [hlines] at h
        cases defect with
        | malformed d remaining =>
          cases h
          exact .told List.mem_cons_self
        | tooManyDigits digits =>
          cases h
          exact .longNumeral hpath hread htext hlines

/-- A path of which the system does not tell whether anything stands there. -/
theorem ends_isThere {path : Path} {e : PathFault} (hpath : IsRead here file path)
    (h : disk.isThere here path = .error e) :
    Ends disk here vars file overrides (.fault (e.toFault path.text)) := by
  unfold Disk.isThere at h
  cases hlook : disk.lookAt here path with
  | ok entry =>
    rw [hlook] at h
    cases h
  | error e' =>
    rw [hlook] at h
    cases h
    obtain ⟨rfl, hlocate⟩ := Disk.lookAt_error hlook
    exact .longPath hpath hlocate

theorem ends_ofProject {e : Failure} (h : ofProject disk here = .error e) :
    Ends disk here vars file overrides e := by
  unfold ofProject at h
  split at h
  · next hthere =>
    cases h
    exact ends_isThere (.inl rfl) hthere
  · exact ends_ofFile (.inl rfl) h
  · cases h

theorem ends_ofCaller {e : Failure} (h : ofCaller disk here file = .error e) :
    Ends disk here vars file overrides e := by
  unfold ofCaller at h
  split at h
  · cases h
  · next path =>
    split at h
    · next hthere =>
      cases h
      exact ends_isThere (.inr rfl) hthere
    · exact ends_ofFile (.inr rfl) h
    · cases h
      exact .told List.mem_cons_self

/-! ## The environment -/

/-- A variable that cannot be read is a problem of the configuration. -/
theorem ends_environment {p : Problem} (h : Environment.settings vars = .error p) :
    Ends disk here vars file overrides (.problem p) := by
  unfold Environment.settings at h
  generalize Environment.readers = known at h
  induction known with
  | nil => cases h
  | cons r rest ih =>
    obtain ⟨setting, reader⟩ := r
    rw [Environment.readAll] at h
    split at h
    · exact ih h
    · split at h
      · cases h
        exact .told (List.mem_cons_of_mem _ List.mem_cons_self)
      · cases hrest : Environment.readAll vars rest with
        | ok vs =>
          rw [hrest] at h
          cases h
        | error p' =>
          rw [hrest] at h
          cases h
          exact ih hrest

/-! ## Sections -/

theorem checkLimits_error {owner : String} {limits : List (String × Value)} {e : Failure}
    (h : Thresholds.checkLimits owner limits = .error e) :
    ∃ l ∈ limits, e = .fault (incomparable "<" l.2 (.int 0)) ∨
      e = .refusing (owner ++ "." ++ l.1) l.2 "must be non-negative" := by
  induction limits with
  | nil => cases h
  | cons l rest ih =>
    obtain ⟨name, v⟩ := l
    rw [Thresholds.checkLimits] at h
    split at h
    · next f hbelow =>
      cases h
      obtain ⟨-, rfl⟩ := Value.isBelow_int_error_iff.1 hbelow
      exact ⟨_, List.mem_cons_self, .inl rfl⟩
    · cases h
      exact ⟨_, List.mem_cons_self, .inr rfl⟩
    · obtain ⟨l, hl, herror⟩ := ih h
      exact ⟨l, List.mem_cons_of_mem _ hl, herror⟩

/-- Thresholds are not made from names that are not known, which is a fault of its own kind, and not from
    limits that do not pass. -/
theorem make_error {s : Smell} {limits : List (String × Value)} {e : Failure}
    (h : Thresholds.make s limits = .error e) :
    (∃ text, e = .fault (.wrongType text)) ∨
      Thresholds.checkLimits s.thresholdType (Thresholds.override s.defaults limits) = .error e := by
  unfold Thresholds.make Thresholds.tuned at h
  split at h
  · cases h
    exact .inl ⟨_, rfl⟩
  · right
    let t : Thresholds := ⟨s, Thresholds.override s.defaults limits⟩
    have hmap : (Thresholds.checkLimits s.thresholdType t.limits).map (fun _ => t) = .error e := h
    cases hcheck : Thresholds.checkLimits s.thresholdType t.limits with
    | ok _ =>
      rw [hcheck] at hmap
      cases hmap
    | error e' =>
      rw [hcheck] at hmap
      cases hmap
      rfl

/-- Thresholds that are made have the limits that are given, and the defaults of the others. -/
theorem make_ok {s : Smell} {limits : List (String × Value)} {t : Thresholds}
    (h : Thresholds.make s limits = .ok t) : t.smell = s ∧ AreLimits t.limits := by
  have hpassed := (Thresholds.isAccepted_of_make h).passed
  refine ⟨?_, (checkLimits_ok_iff t.smell.thresholdType _).1 hpassed⟩
  unfold Thresholds.make Thresholds.tuned at h
  split at h
  · cases h
  · obtain ⟨_, -, rfl⟩ := except_map_ok_iff.1 h
    rfl

/-- A limit that cannot be shown was given: the defaults can be shown. -/
theorem isShowable_override {s : Smell} {limits : List (String × Value)}
    (h : ∀ l ∈ limits, l.2.isShowable = true) :
    ∀ l ∈ Thresholds.override s.defaults limits, l.2.isShowable = true := by
  have hdefaults : ∀ l ∈ s.defaults, l.2.isShowable = true := by cases s <;> decide
  intro l hl
  obtain ⟨default, hdefault, rfl⟩ := List.mem_map.1 hl
  show ((limits.lookup default.1).getD default.2).isShowable = true
  cases hgiven : limits.lookup default.1 with
  | none => exact hdefaults default hdefault
  | some v => exact h _ (Entries.mem_of_lookup hgiven)

/-- **A section that does not pass** is a problem of the configuration, or it cannot be shown. What does
    not compare with zero is made such a problem here. -/
theorem sectionOf_error {s : Smell} {v : Value} {e : Failure} (h : sectionOf s v = .error e) :
    (∃ p, e = .problem p ∧ p.kind = .invalidSetting) ∨ (v.isShowable = false ∧ e = .fault tooLong) := by
  have hrefused : ∀ reason, Failure.refusing s.sectionName v reason = e →
      (∃ p, e = .problem p ∧ p.kind = .invalidSetting) ∨
        (v.isShowable = false ∧ e = .fault tooLong) := by
    intro reason he
    rcases Failure.refusing_cases s.sectionName v reason with hproblem | ⟨hlong, hfault⟩
    · exact .inl ⟨_, he.symm.trans hproblem, rfl⟩
    · exact .inr ⟨hlong, he.symm.trans hfault⟩
  unfold sectionOf at h
  dsimp only at h
  split at h
  · next limits =>
    split at h
    · cases h
    · cases h
      exact hrefused _ rfl
    · next e' hnotType hmake =>
      cases h
      have hcheck : Thresholds.checkLimits s.thresholdType
          (Thresholds.override s.defaults limits) = .error e := by
        rcases make_error hmake with ⟨text, rfl⟩ | hcheck
        · exact absurd rfl (hnotType text)
        · exact hcheck
      obtain ⟨l, hl, rfl | rfl⟩ := checkLimits_error hcheck
      · exact absurd rfl (hnotType _)
      · rcases Failure.refusing_cases (s.thresholdType ++ "." ++ l.1) l.2 "must be non-negative" with
          hproblem | ⟨hlong, hfault⟩
        · exact .inl ⟨_, hproblem, rfl⟩
        · refine .inr ⟨?_, hfault⟩
          rw [Bool.eq_false_iff]
          intro hshow
          have hall := isShowable_override (s := s) (Value.isShowable_table.1 hshow) l hl
          rw [hlong] at hall
          cases hall
  · split at h
    · cases h
    · cases h
      exact hrefused _ rfl
  · cases h
    exact hrefused _ rfl

/-- **A bound that does not hold**, for a setting that was given or has its default. -/
theorem ends_refuseBelow {name reason : String} {o : Option Value} {default : Value} {bound : Int}
    {e : Failure} (hdefault : default.isShowable = true)
    (hgiven : ∀ v, o = some v → v.isShowable = false →
      Ends disk here vars file overrides (.fault tooLong))
    (h : Config.refuseBelow name (o.getD default) bound reason = .error e) :
    ((o.getD default).number? = none ∧
        e = .fault (incomparable "<" (o.getD default) (.int bound))) ∨
      Ends disk here vars file overrides e := by
  rcases Config.refuseBelow_error h with hincomparable | ⟨-, rfl⟩
  · exact .inl hincomparable
  · right
    rcases Failure.refusing_cases name (o.getD default) reason with hproblem | ⟨hlong, hfault⟩
    · rw [hproblem]
      exact .told (List.mem_cons_of_mem _ List.mem_cons_self)
    · rw [hfault]
      cases o with
      | some v => exact hgiven v rfl hlong
      | none =>
        rw [Option.getD_none, hdefault] at hlong
        cases hlong

/-! ## All places -/

/-- **Thresholds that the caller has made** have passed their check. -/
def IsMade (v : Value) : Prop :=
  ∀ s limits, v = .thresholds s limits → (Thresholds.mk s limits).IsAccepted

/-- What holds of all that is given holds of the settings of all places. -/
theorem merged_forall {P : Value → Prop} {src : Sources} {env : Settings}
    (htables : ∀ old limits, P (.table old) → P (.table limits) → P (.table (mergeLimits old limits)))
    (hgiven : ∀ settings ∈ [src.project, src.named, env, src.caller], ∀ e ∈ settings, P e.2) :
    ∀ e ∈ src.merged env, P e.2 := by
  have hnothing : ∀ e ∈ ([] : Settings), P e.2 := fun e he => absurd he List.not_mem_nil
  have hproject := merge_forall htables hnothing (hgiven src.project (by simp))
  have hnamed := merge_forall htables hproject (hgiven src.named (by simp))
  have henvironment := merge_forall htables hnamed (hgiven env (by simp))
  exact merge_forall htables henvironment fun e he =>
    hgiven src.caller (by simp) e (List.mem_of_mem_filter he)

section places

variable {project named env : Settings} (hproject : ofProject disk here = .ok project)
  (hnamed : ofCaller disk here file = .ok named) (henv : Environment.settings vars = .ok env)

include hproject hnamed henv

/-- **A setting that cannot be shown** was given by a file or by the caller. -/
theorem ends_of_not_showable {e : String × Value}
    (he : e ∈ (Sources.mk project named vars overrides).merged env) (h : e.2.isShowable = false) :
    Ends disk here vars file overrides (.fault tooLong) := by
  by_contra hends
  have hall : ∀ settings ∈ [project, named, overrides], ∀ e ∈ settings, e.2.isShowable = true := by
    intro settings hsettings e he
    by_contra hlong
    exact hends (.longNumber hproject hnamed hsettings he (Bool.eq_false_iff.2 hlong))
  have htables : ∀ old limits : List (String × Value), (Value.table old).isShowable = true →
      (Value.table limits).isShowable = true →
      (Value.table (mergeLimits old limits)).isShowable = true := by
    intro old limits hold hlimits
    rw [Value.isShowable_table] at hold hlimits ⊢
    exact mergeLimits_forall (P := fun v => v.isShowable = true) hold hlimits
  have hshow : e.2.isShowable = true := by
    refine merged_forall (P := fun v => v.isShowable = true) htables ?_ e he
    intro settings hsettings
    by_cases henvironment : settings = env
    · rw [henvironment]
      intro e he
      exact (Environment.isReadable_of_settings henv e he).isShowable
    · exact hall settings (by simpa [henvironment] using hsettings)
  rw [h] at hshow
  cases hshow

/-- What is refused ends loading, with a problem or with what cannot be shown. -/
theorem ends_refusing {name reason : String} {e : String × Value}
    (he : e ∈ (Sources.mk project named vars overrides).merged env) :
    Ends disk here vars file overrides (.refusing name e.2 reason) := by
  rcases Failure.refusing_cases name e.2 reason with hproblem | ⟨hlong, hfault⟩
  · rw [hproblem]
    exact .told (List.mem_cons_of_mem _ List.mem_cons_self)
  · rw [hfault]
    exact ends_of_not_showable hproject hnamed henv he hlong

/-- **A section that does not pass.** -/
theorem ends_section {s : Smell} {e : Failure}
    (h : checkedSection s
      (((Sources.mk project named vars overrides).merged env).lookup s.sectionName) = .error e) :
    Ends disk here vars file overrides e := by
  cases hlookup : ((Sources.mk project named vars overrides).merged env).lookup s.sectionName with
  | none =>
    rw [hlookup] at h
    cases h
  | some v =>
    rw [hlookup] at h
    have hsection : sectionOf s v = .error e := by
      unfold checkedSection at h
      split at h
      · cases h
      · cases h
      · next w _ heq =>
        cases heq
        cases hs : sectionOf s v with
        | ok w =>
          rw [hs] at h
          cases h
        | error e' =>
          rw [hs] at h
          cases h
          rfl
    rcases sectionOf_error hsection with ⟨p, rfl, hkind⟩ | ⟨hlong, rfl⟩
    · refine .told ?_
      rw [hkind]
      decide
    · exact ends_of_not_showable hproject hnamed henv (Entries.mem_of_lookup hlookup) hlong

/-- **Settings that are not settled**: a section, an unknown name, or one of the two bounds. -/
theorem ends_settled (hnames : (overrides.map Prod.fst).Nodup) {e : Failure}
    (h : settled ((Sources.mk project named vars overrides).merged env) = .error e) :
    Ends disk here vars file overrides e := by
  let src := Sources.mk project named vars overrides
  have hfiles : src.FilesStorable := ⟨storable_ofProject hproject, storable_ofCaller hnamed⟩
  have hdecided : ∀ name, isSection name = false → ∀ default,
      ((src.merged env).lookup name).getD default = src.value name default :=
    fun name hname => Sources.lookup_merged hnames hfiles henv hname
  have hlong : ∀ name v, (src.merged env).lookup name = some v → v.isShowable = false →
      Ends disk here vars file overrides (.fault tooLong) := by
    intro name v hv hlong
    exact ends_of_not_showable hproject hnamed henv (Entries.mem_of_lookup hv) hlong
  rcases settled_error h with ⟨s, hs⟩ | ⟨entry, hentry, -, rfl⟩ | ⟨sections, hchecked⟩
  · exact ends_section hproject hnamed henv hs
  · exact ends_refusing hproject hnamed henv hentry
  · obtain ⟨name, v, bound, reason, hbelow, ⟨rfl, rfl⟩ | ⟨rfl, rfl⟩⟩ := Config.checked_error hchecked
    · rcases ends_refuseBelow (by decide) (hlong _) hbelow with ⟨hnumber, rfl⟩ | hends
      · exact .threshold hproject hnamed (hdecided _ (by decide) _) hnumber
      · exact hends
    · rcases ends_refuseBelow (by decide) (hlong _) hbelow with ⟨hnumber, rfl⟩ | hends
      · exact .timeout hproject hnamed (hdecided _ (by decide) _) hnumber
      · exact hends

end places

/-- **Sections that pass are within their bounds**: a table by its checks, and thresholds because the
    caller has made them. -/
theorem areLimits_of_section {s : Smell} {o out : Option Value}
    (hmade : ∀ v, o = some v → IsMade v) (h : checkedSection s o = .ok out) :
    AreLimits (Config.thresholdsOf s (out.getD .null)).limits := by
  have hstandard : AreLimits (Thresholds.standard s).limits :=
    (checkLimits_ok_iff s.thresholdType _).1 (Thresholds.isAccepted_standard s).passed
  unfold checkedSection at h
  split at h
  · cases h
    exact hstandard
  · cases h
    exact hstandard
  · next v _ =>
    obtain ⟨w, hw, rfl⟩ := except_map_ok_iff.1 h
    unfold sectionOf at hw
    dsimp only at hw
    split at hw
    · next limits =>
      split at hw
      · next t ht =>
        cases hw
        obtain ⟨hsmell, hlimits⟩ := make_ok ht
        show AreLimits (if t.smell = s then (⟨t.smell, t.limits⟩ : Thresholds) else _).limits
        rw [if_pos hsmell]
        exact hlimits
      · cases hw
      · cases hw
    · next made limits _ =>
      split at hw
      · next hsmell =>
        cases hw
        subst hsmell
        have haccepted := hmade _ rfl made limits rfl
        show AreLimits (if made = made then (⟨made, limits⟩ : Thresholds) else _).limits
        rw [if_pos rfl]
        exact (checkLimits_ok_iff made.thresholdType _).1 haccepted.passed
      · cases hw
    · cases hw

/-- What stands in a file is never thresholds that were made. -/
theorem isMade_of_storable {v : Value} (h : Toml.Storable v) : IsMade v := by
  intro s limits hv
  subst hv
  cases h

theorem isMade_of_readable {v : Value} (h : Environment.IsReadable v) : IsMade v := by
  intro s limits hv
  rcases h with ⟨b, rfl⟩ | ⟨i, rfl, -⟩
  · cases hv
  · cases hv

/-- **Settled settings are within their bounds.** -/
theorem isValid_of_settled {src : Sources} {env : Settings} {c : Config} (hfiles : src.FilesStorable)
    (henv : Environment.settings src.vars = .ok env) (hmade : ∀ e ∈ src.caller, IsMade e.2)
    (h : settled (src.merged env) = .ok c) : c.IsValid := by
  have hall : ∀ e ∈ src.merged env, IsMade e.2 := by
    refine merged_forall (fun old limits _ _ s limits' hv => by cases hv) ?_
    intro settings hsettings e he
    simp only [List.mem_cons, List.not_mem_nil, or_false] at hsettings
    rcases hsettings with rfl | rfl | rfl | rfl
    · exact isMade_of_storable (hfiles.project.values e he)
    · exact isMade_of_storable (hfiles.named.values e he)
    · exact isMade_of_readable (Environment.isReadable_of_settings henv e he)
    · exact hmade e he
  obtain ⟨sections, hsections, -, rfl, hbounded⟩ := settled_ok_iff.1 h
  have hlimits : ∀ s, AreLimits (Config.thresholdsOf s ((sections s).getD .null)).limits := fun s =>
    areLimits_of_section (fun v hv => hall _ (Entries.mem_of_lookup hv)) (hsections s)
  refine ⟨hbounded, ?_⟩
  intro t ht
  simp only [configOf, List.mem_cons, List.not_mem_nil, or_false] at ht
  rcases ht with rfl | rfl | rfl
  · exact hlimits .brainMethod
  · exact hlimits .complexMethod
  · exact hlimits .longMethod

end Setting

open Setting

/-- **How loading ends.** The caller gives no name twice, and thresholds only that have been made. Then
    loading gives settings within their bounds, or it ends early in one of the ways that are told. -/
theorem loadConfig_outcome {disk : Disk} {here : Path} {vars : Environment.Variables}
    {file : Option Path} {overrides : Settings} (hnames : (overrides.map Prod.fst).Nodup)
    (hmade : ∀ e ∈ overrides, IsMade e.2) :
    (∃ c, loadConfig disk here vars file overrides = .ok c ∧ c.IsWithinBounds) ∨
      ∃ e, loadConfig disk here vars file overrides = .error e ∧
        Ends disk here vars file overrides e := by
  cases hproject : ofProject disk here with
  | error e =>
    refine .inr ⟨e, ?_, ends_ofProject hproject⟩
    unfold loadConfig
    rw [hproject]
    rfl
  | ok project =>
    cases hnamed : ofCaller disk here file with
    | error e =>
      refine .inr ⟨e, ?_, ends_ofCaller hnamed⟩
      unfold loadConfig
      rw [hproject, hnamed]
      rfl
    | ok named =>
      cases henv : Environment.settings vars with
      | error p =>
        refine .inr ⟨.problem p, ?_, ends_environment henv⟩
        unfold loadConfig
        rw [hproject, hnamed, henv]
        rfl
      | ok env =>
        rw [loadConfig_eq hproject hnamed henv]
        cases hsettled : settled ((Sources.mk project named vars overrides).merged env) with
        | error e => exact .inr ⟨e, rfl, ends_settled hproject hnamed henv hnames hsettled⟩
        | ok c =>
          have hvalid : c.IsValid := isValid_of_settled
            ⟨storable_ofProject hproject, storable_ofCaller hnamed⟩ henv hmade hsettled
          exact .inl ⟨c, rfl, hvalid.isWithinBounds⟩

/-- Thresholds that the caller has made stand in the settings, and all bounds hold. -/
theorem loadConfig_outcome_madeThresholds :
    ∃ c, loadConfig ⟨[], []⟩ ⟨"/", []⟩ (fun _ => none) none
        [("long_method", .thresholds .longMethod [("mloc", .int 80)]), ("git_timeout_seconds", .int 5)] =
          .ok c ∧ c.IsWithinBounds := by
  let overrides : Settings :=
    [("long_method", .thresholds .longMethod [("mloc", .int 80)]), ("git_timeout_seconds", .int 5)]
  have hmade : ∀ e ∈ overrides, IsMade e.2 := by
    intro e he s limits hv
    simp only [overrides, List.mem_cons, List.not_mem_nil, or_false] at he
    rcases he with rfl | rfl
    · cases hv
      exact ⟨by decide, by rfl⟩
    · cases hv
  have hloaded : loadConfig ⟨[], []⟩ ⟨"/", []⟩ (fun _ => none) none overrides = .ok
      { Config.standard with gitTimeout := .int 5, longMethod := ⟨.longMethod, [("mloc", .int 80)]⟩ } := by
    have hproject : ofProject ⟨[], []⟩ ⟨"/", []⟩ = .ok [] := by
      unfold ofProject
      rw [show projectFile ⟨"/", []⟩ = ⟨"/", ["repo-miner.toml"]⟩ from rfl, Disk.isThere,
        Disk.lookAt_of_locate (locate_projectFile _)]
      rfl
    unfold loadConfig
    rw [hproject]
    rfl
  have houtcome : (∃ c, loadConfig ⟨[], []⟩ ⟨"/", []⟩ (fun _ => none) none overrides = .ok c ∧
      c.IsWithinBounds) ∨ _ := loadConfig_outcome (by decide) hmade
  rcases houtcome with hwithin | ⟨e, herror, -⟩
  · exact hwithin
  · rw [hloaded] at herror
    cases herror

/-- **A text in the place of a number** of the project's file ends loading with the fault of comparing it,
    and not with a problem of the configuration. -/
theorem loadConfig_incomparable :
    loadConfig ⟨[(["repo-miner.toml"], .file (Text.encode "binary_file_threshold=\"many\"".toList))], []⟩
        ⟨"/", []⟩ (fun _ => none) none [] =
      .error (.fault (.wrongType "'<' not supported between instances of 'str' and 'int'")) := by
  let disk : Disk :=
    ⟨[(["repo-miner.toml"], .file (Text.encode "binary_file_threshold=\"many\"".toList))], []⟩
  have hproject : ofProject disk ⟨"/", []⟩ = .ok [("binary_file_threshold", .text "many")] := by
    have hkey : Toml.key "binary_file_threshold=\"many\"".toList =
        .ok (["binary_file_threshold"], "=\"many\"".toList) := by rfl
    have hvalue : Toml.value 14 "\"many\"".toList = .ok (.text "many", []) := by rfl
    have hlines := Toml.Document.ofLines_entry rfl (by decide) hkey hvalue
    have hentry : disk.find? ["repo-miner.toml"] =
        some (.file (Text.encode "binary_file_threshold=\"many\"".toList)) := by rfl
    have hreadable : disk.unreadable.contains ["repo-miner.toml"] = false := by rfl
    obtain ⟨hthere, hfile⟩ :=
      ofFile_ok (locate_projectFile disk) hentry hreadable (by rfl) (by rfl) hlines
    unfold ofProject
    rw [show projectFile ⟨"/", []⟩ = ⟨"/", ["repo-miner.toml"]⟩ from rfl, hthere]
    exact hfile
  unfold loadConfig
  rw [hproject]
  rfl

end HistoryMetrics
