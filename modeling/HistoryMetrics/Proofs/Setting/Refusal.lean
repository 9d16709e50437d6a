import HistoryMetrics.Proofs.Setting.Merging
import Mathlib.Data.Nat.Digits.Defs

/-! # What is said of refused settings

    A setting is refused with a problem that shows it, unless it holds a whole number with too many digits
    to be shown. The environment gives no such numbers, as it is read with the same limit. What settings
    that are merged hold, they hold from one of the two.

    - `Failure.refusing_cases`: the two ways to refuse a setting
    - `Value.entriesShowable_iff`: tables that can be shown
    - `Environment.isReadable_of_settings`: what the environment gives can be shown
    - `Setting.merge_forall`: what holds of merged settings
-/

namespace HistoryMetrics

-- Powers are those of the core library, whatever other powers are in scope.
attribute [local instance (high)] instPowNat

/-- **A setting is refused with a problem, or cannot be shown.** -/
theorem Failure.refusing_cases (name : String) (v : Value) (reason : String) :
    Failure.refusing name v reason = .problem (.invalidSetting name v reason) ∨
      (v.isShowable = false ∧ Failure.refusing name v reason = .fault tooLong) := by
  unfold Failure.refusing
  by_cases hshow : v.isShowable = true
  · exact .inl (if_pos hshow)
  · exact .inr ⟨Bool.eq_false_iff.2 hshow, if_neg hshow⟩

namespace Value

/-- **A table can be shown when all its values can.** -/
theorem entriesShowable_iff {entries : List (String × Value)} :
    entriesShowable entries = true ↔ ∀ e ∈ entries, e.2.isShowable = true := by
  induction entries with
  | nil => simp [entriesShowable]
  | cons e rest ih =>
    rw [entriesShowable, Bool.and_eq_true, ih, List.forall_mem_cons]

theorem isShowable_table {entries : List (String × Value)} :
    (table entries).isShowable = true ↔ ∀ e ∈ entries, e.2.isShowable = true := by
  rw [isShowable]
  exact entriesShowable_iff

/-- A whole number that is written with few digits can be shown. -/
theorem isShortWhole_of_lt {i : Int} (h : i.natAbs < 10 ^ Whole.maxDigits) :
    isShortWhole i = true :=
  decide_eq_true ((Nat.length_toDigits_le_iff (b := 10) (by decide) (by decide)).2 h)

end Value

/-! ## The environment -/

namespace Whole

theorem digitValue_lt {c : Char} {d : Nat} (h : Unicode.digitValue? c = some d) : d < 10 := by
  obtain ⟨z, hz, rfl⟩ := Option.map_eq_some_iff.1 h
  have hrange := List.find?_some hz
  simp only [Bool.and_eq_true, decide_eq_true_eq] at hrange
  omega

theorem digits_lt {cs : List Char} {ds : List Nat} (h : digits cs = some ds) : ∀ d ∈ ds, d < 10 := by
  have hcons : ∀ {c : Char} {more : Option (List Nat)} {ds : List Nat},
      (∀ ds', more = some ds' → ∀ d ∈ ds', d < 10) →
      ((Unicode.digitValue? c).bind fun d => more.bind fun ds => some (d :: ds)) = some ds →
      ∀ d ∈ ds, d < 10 := by
    intro c more ds hmore h
    obtain ⟨d, hd, h⟩ := Option.bind_eq_some_iff.1 h
    obtain ⟨ds', hds, h⟩ := Option.bind_eq_some_iff.1 h
    cases h
    exact List.forall_mem_cons.2 ⟨digitValue_lt hd, hmore ds' hds⟩
  induction cs using digits.induct generalizing ds with
  | case1 => cases h
  | case2 c =>
    obtain ⟨d, hd, rfl⟩ := Option.map_eq_some_iff.1 h
    exact List.forall_mem_singleton.2 (digitValue_lt hd)
  | case3 c rest ih =>
    rw [digits.eq_def] at h
    exact hcons (fun ds' hds => ih hds) h
  | case4 c rest hend hline ih =>
    rw [digits.eq_def] at h
    split at h
    · cases h
    · next heq => exact absurd (List.cons.inj heq).2 hend
    · next heq => exact absurd (List.cons.inj heq).2 (hline _)
    · next heq =>
      cases heq
      exact hcons (fun ds' hds => ih hds) h

/-- Digits make a number below the power of ten that their count tells. -/
theorem foldl_lt {ds : List Nat} (h : ∀ d ∈ ds, d < 10) {n k : Nat} (hn : n < 10 ^ k) :
    ds.foldl (fun n d => n * 10 + d) n < 10 ^ (k + ds.length) := by
  induction ds generalizing n k with
  | nil => exact hn
  | cons d rest ih =>
    obtain ⟨hd, hrest⟩ := List.forall_mem_cons.1 h
    have hnext : n * 10 + d < 10 ^ (k + 1) := by
      rw [Nat.pow_succ]
      omega
    have hrun := ih hrest hnext
    rw [List.length_cons]
    have hcount : k + 1 + rest.length = k + (rest.length + 1) := by omega
    rwa [hcount] at hrun

/-- **What is read can be shown.** -/
theorem isShortWhole_of_read {text : String} {i : Int} (h : read text = .ok i) :
    Value.isShortWhole i = true := by
  unfold read at h
  split at h
  · cases h
  · next negative ds hparts =>
    split at h
    · cases h
    · next hcount =>
      cases h
      have hdigits : ∀ d ∈ ds, d < 10 := by
        obtain ⟨ds', hds, heq⟩ := Option.map_eq_some_iff.1 hparts
        cases heq
        exact digits_lt hds
      have hlt : (ofParts negative ds).natAbs < 10 ^ (0 + ds.length) := by
        have hfold := foldl_lt hdigits (n := 0) (k := 0) (by decide)
        unfold ofParts
        dsimp only
        split
        · rwa [Int.natAbs_neg, Int.natAbs_natCast]
        · rwa [Int.natAbs_natCast]
      apply Value.isShortWhole_of_lt
      refine lt_of_lt_of_le hlt (Nat.pow_le_pow_right (by decide) ?_)
      omega

end Whole

namespace Environment

variable {vars : Variables} {env : List (String × Value)}

/-- What a reader can make of a text. -/
def IsReadable (v : Value) : Prop := (∃ b, v = .bool b) ∨ ∃ i, v = .int i ∧ Value.isShortWhole i = true

theorem isReadable_of_number {text : String} {v : Value} (h : number text = .ok v) : IsReadable v := by
  obtain ⟨i, hi, rfl⟩ := Action.except_map_ok_iff.1 h
  exact .inr ⟨i, rfl, Whole.isShortWhole_of_read hi⟩

theorem isReadable_of_switch {text : String} {v : Value} (h : switch text = .ok v) : IsReadable v := by
  unfold switch at h
  dsimp only at h
  split at h
  · cases h
    exact .inl ⟨true, rfl⟩
  · split at h
    · cases h
      exact .inl ⟨false, rfl⟩
    · cases h

/-- **What the environment gives.** -/
theorem isReadable_of_settings (h : settings vars = .ok env) : ∀ e ∈ env, IsReadable e.2 := by
  have hreaders : ∀ r ∈ readers, ∀ text v, r.2 text = .ok v → IsReadable v := by
    intro r hr text v hv
    simp only [readers, List.mem_cons, List.not_mem_nil, or_false] at hr
    rcases hr with rfl | rfl | rfl | rfl
    · exact isReadable_of_number hv
    · exact isReadable_of_number hv
    · exact isReadable_of_switch hv
    · exact isReadable_of_switch hv
  have hnames : (env.map Prod.fst).Nodup := (names_readAll h).nodup nodup_readers
  intro e he
  have hgiven : env.lookup e.1 = some e.2 := Entries.lookup_of_mem hnames he
  rw [lookup_settings h, value?] at hgiven
  obtain ⟨reader, hreader, hgiven⟩ := Option.bind_eq_some_iff.1 hgiven
  obtain ⟨text, -, hread⟩ := Option.bind_eq_some_iff.1 hgiven
  have hok : reader text = .ok e.2 := by
    cases hresult : reader text with
    | error f =>
      rw [hresult] at hread
      cases hread
    | ok v =>
      rw [hresult] at hread
      cases hread
      rfl
  exact hreaders (e.1, reader) (Entries.mem_of_lookup hreader) text e.2 hok

theorem IsReadable.isShowable {v : Value} (h : IsReadable v) : v.isShowable = true := by
  rcases h with ⟨b, rfl⟩ | ⟨i, rfl, hi⟩
  · rfl
  · exact hi

end Environment

/-! ## Merging -/

namespace Setting

variable {P : Value → Prop} {settings new : Settings} {name : String} {v : Value}

theorem put_forall (hsettings : ∀ e ∈ settings, P e.2) (hv : P v) :
    ∀ e ∈ put name v settings, P e.2 := by
  induction settings with
  | nil => exact List.forall_mem_singleton.2 hv
  | cons e rest ih =>
    obtain ⟨he, hrest⟩ := List.forall_mem_cons.1 hsettings
    rw [put]
    split
    · exact List.forall_mem_cons.2 ⟨hv, hrest⟩
    · exact List.forall_mem_cons.2 ⟨he, ih hrest⟩

theorem mergeLimits_forall {old limits : List (String × Value)} (hold : ∀ l ∈ old, P l.2)
    (hlimits : ∀ l ∈ limits, P l.2) : ∀ l ∈ mergeLimits old limits, P l.2 := by
  unfold mergeLimits
  induction limits generalizing old with
  | nil => exact hold
  | cons l rest ih =>
    obtain ⟨hl, hrest⟩ := List.forall_mem_cons.1 hlimits
    exact ih (put_forall hold hl) hrest

/-- **What holds of merged settings**: what holds of both, as long as it holds of tables that are made
    of two. -/
theorem merge_forall
    (htables : ∀ old limits, P (.table old) → P (.table limits) → P (.table (mergeLimits old limits)))
    (hsettings : ∀ e ∈ settings, P e.2) (hnew : ∀ e ∈ new, P e.2) :
    ∀ e ∈ merge settings new, P e.2 := by
  unfold merge
  induction new generalizing settings with
  | nil => exact hsettings
  | cons e rest ih =>
    obtain ⟨he, hrest⟩ := List.forall_mem_cons.1 hnew
    refine ih ?_ hrest
    show ∀ e' ∈ override settings e.1 e.2, P e'.2
    rw [override_eq]
    refine put_forall hsettings ?_
    unfold combined
    split
    · next limits old _ hvalue hlookup =>
      rw [hvalue] at he
      exact htables old limits (hsettings _ (Entries.mem_of_lookup hlookup)) he
    · exact he

end Setting

end HistoryMetrics
