import HistoryMetrics.Time.Reason
import Mathlib.Data.List.Basic

/-! # Moments, printed and read back

    In the strict interchange format a moment is printed with a hyphen or a colon between its numbers,
    to the second, and with an offset of whole minutes, or with a `Z` for universal time. The reader
    knows many more formats; here it is shown to take the strict one for what it is.

    - `Iso.digits_padded`, `Spells`: numbers of a fixed width
    - `Iso.date_text`, `Iso.clock_text`: a date and a time of day
    - `Iso.time_zulu`, `Iso.time_offset`: a time of day with an offset
    - `Moment.IsStrict`, `Moment.strictTexts`: the strict format
    - `Moment.read_strict`: reading it back
-/

namespace HistoryMetrics

-- Powers are those of the core library, whatever other powers are in scope.
attribute [local instance (high)] instPowNat

/-! ## Numbers of a fixed width -/

theorem toList_padded (width n : Nat) : (padded width n).toList =
    List.replicate (width - (Nat.toDigits 10 n).length) '0' ++ Nat.toDigits 10 n := by
  have hdigits : (toString n).toList = Nat.toDigits 10 n := Nat.toList_repr
  rw [padded, String.toList_append, String.toList_ofList, hdigits, ← String.length_toList, hdigits]

theorem length_padded {width n : Nat} (hwidth : 0 < width) (h : n < 10 ^ width) :
    (padded width n).toList.length = width := by
  have hle := (Nat.length_toDigits_le_iff (b := 10) (by decide) hwidth).2 h
  rw [toList_padded, List.length_append, List.length_replicate]
  omega

theorem isDigit_of_mem_padded {width n : Nat} {c : Char} (h : c ∈ (padded width n).toList) :
    c.isDigit = true := by
  rw [toList_padded] at h
  rcases List.mem_append.1 h with h | h
  · rw [(List.mem_replicate.1 h).2]
    decide
  · exact Nat.isDigit_of_mem_toDigits (by decide) (by decide) h

/-- The digits spell the number. -/
theorem ofDigitChars_padded (width n : Nat) :
    Nat.ofDigitChars 10 (padded width n).toList 0 = n := by
  rw [toList_padded, Nat.ofDigitChars_append, Nat.ofDigitChars_replicate_zero, Nat.mul_zero,
    Nat.ofDigitChars_toDigits (by decide) (by decide)]

namespace Iso

/-- As many digits as are asked for are taken from the text. -/
theorem digits_append {ds : List Char} (h : ∀ c ∈ ds, c.isDigit = true) (rest : List Char)
    (value : Nat) :
    digits ds.length (ds ++ rest) value = some (Nat.ofDigitChars 10 ds value, rest) := by
  induction ds generalizing value with
  | nil => rfl
  | cons c ds ih =>
    obtain ⟨hc, hds⟩ := List.forall_mem_cons.1 h
    rw [List.cons_append, List.length_cons, digits, if_pos hc, ih hds, Nat.ofDigitChars_cons,
      Nat.mul_comm]
    rfl

theorem digits_padded (width : Nat) {n : Nat} (hwidth : 0 < width) (h : n < 10 ^ width)
    (rest : List Char) : digits width ((padded width n).toList ++ rest) 0 = some (n, rest) := by
  have hdigits : ∀ c ∈ (padded width n).toList, c.isDigit = true := fun _ => isDigit_of_mem_padded
  have hread := digits_append hdigits rest 0
  rwa [length_padded hwidth h, ofDigitChars_padded] at hread

end Iso

/-- **Two characters that spell a number.** -/
structure Spells (n : Nat) (a b : Char) : Prop where
  first : a.isDigit = true
  second : b.isDigit = true
  value : (a.toNat - 48) * 10 + (b.toNat - 48) = n

theorem exists_spells {n : Nat} (h : n < 100) :
    ∃ a b, (padded 2 n).toList = [a, b] ∧ Spells n a b := by
  obtain ⟨a, b, hab⟩ := List.length_eq_two.1 (length_padded (by decide) h)
  have hdigit : ∀ c ∈ [a, b], c.isDigit = true := by
    rw [← hab]
    exact fun _ => isDigit_of_mem_padded
  have hvalue := ofDigitChars_padded 2 n
  rw [hab, Nat.ofDigitChars_cons, Nat.ofDigitChars_cons, Nat.ofDigitChars_nil] at hvalue
  have hzero : ('0' : Char).toNat = 48 := rfl
  rw [hzero] at hvalue
  exact ⟨a, b, hab, hdigit a (by simp), hdigit b (by simp), by omega⟩

/-- No number begins with the mark of a week. -/
theorem Spells.ne_weekMark {n : Nat} {a b : Char} (h : Spells n a b) : (some a == some 'W') = false := by
  rw [beq_eq_false_iff_ne]
  rintro ⟨⟩
  exact absurd h.first (by decide)

/-! ## Dates -/

theorem Date.toList_text (d : Date) : d.text.toList = (padded 4 d.year).toList ++
    '-' :: ((padded 2 d.month).toList ++ '-' :: (padded 2 d.day).toList) := by
  simp [Date.text]

/-- **A day of the calendar.** -/
structure Date.IsValid (d : Date) : Prop where
  year_pos : 0 < d.year
  year_le : d.year ≤ 9999
  month_pos : 0 < d.month
  month_le : d.month ≤ 12
  day_pos : 0 < d.day
  day_le : d.day ≤ Date.daysInMonth d.year d.month

theorem Date.daysInMonth_le (year month : Nat) : Date.daysInMonth year month ≤ 31 := by
  have hall : ∀ n ∈ Date.monthLengths year, n ≤ 31 := by
    unfold Date.monthLengths
    cases Date.isLeap year <;> decide
  rw [Date.daysInMonth, List.getD_eq_getElem?_getD]
  cases hn : (Date.monthLengths year)[month - 1]? with
  | none => exact Nat.zero_le 31
  | some n => exact hall n (List.mem_of_getElem? hn)

theorem Date.IsValid.month_lt {d : Date} (h : d.IsValid) : d.month < 100 :=
  Nat.lt_of_le_of_lt h.month_le (by decide)

theorem Date.IsValid.day_lt {d : Date} (h : d.IsValid) : d.day < 100 :=
  Nat.lt_of_le_of_lt (Nat.le_trans h.day_le (Date.daysInMonth_le _ _)) (by decide)

namespace Iso

variable {d : Date}

theorem length_text (h : d.IsValid) : d.text.toList.length = 10 := by
  rw [Date.toList_text, List.length_append, List.length_cons, List.length_append, List.length_cons,
    length_padded (by decide) (Nat.lt_succ_of_le h.year_le), length_padded (by decide) h.month_lt,
    length_padded (by decide) h.day_lt]

theorem dateLength_text (h : d.IsValid) (rest : List Char) :
    dateLength (d.text.toList ++ rest) = some 10 := by
  have hyear : (padded 4 d.year).toList.length = 4 :=
    length_padded (by decide) (Nat.lt_succ_of_le h.year_le)
  obtain ⟨a, b, hmonth, hab⟩ := exists_spells h.month_lt
  have hlength : ((d.text.toList ++ rest).length == 7) = false := by
    rw [List.length_append, length_text h, beq_eq_false_iff_ne]
    omega
  have hfifth : (d.text.toList ++ rest)[4]? = some '-' := by
    rw [Date.toList_text, List.append_assoc, List.getElem?_append_right (by omega), hyear]
    rfl
  have hsixth : (d.text.toList ++ rest)[5]? = some a := by
    rw [Date.toList_text, List.append_assoc, List.getElem?_append_right (by omega), hyear, hmonth]
    rfl
  simp only [dateLength, hlength, hfifth, hsixth, hab.ne_weekMark]
  rfl

theorem date_text (h : d.IsValid) : date 10 d.text.toList = .ok d := by
  obtain ⟨a, b, hmonth, hab⟩ := exists_spells h.month_lt
  have hreadYear := digits_padded 4 (by decide) (Nat.lt_succ_of_le h.year_le)
    ('-' :: ((padded 2 d.month).toList ++ '-' :: (padded 2 d.day).toList))
  have hreadMonth := digits_padded 2 (by decide) h.month_lt
    ('-' :: (padded 2 d.day).toList)
  have hreadDay := digits_padded 2 (by decide) h.day_lt []
  rw [List.append_nil] at hreadDay
  rw [hmonth] at hreadMonth hreadYear
  rw [List.cons_append, List.cons_append, List.nil_append] at hreadMonth
  simp only [date, Date.toList_text, hmonth, hreadYear]
  simp [bind, Except.bind, hab.ne_weekMark, hreadMonth, hreadDay]

/-! ## Times -/

/-- A number before a colon is read, and the clock goes on. -/
theorem clock_colon {a b c : Char} {n : Nat} (h : Spells n a b) {read : List Nat}
    (hread : read.length < 2) {hasColons : Bool} (hcolons : read = [] ∨ hasColons = true)
    (atEnd : Bool) (rest : List Char) :
    clock atEnd hasColons read (a :: b :: ':' :: c :: rest) =
      clock atEnd true (read ++ [n]) (c :: rest) := by
  have hlast : ((read ++ [n]).length == 3) = false := by
    rw [List.length_append, List.length_singleton, beq_eq_false_iff_ne]
    omega
  have hnext : (if read.isEmpty then (':' == ':') else hasColons) = true := by
    rcases hcolons with rfl | rfl
    · rfl
    · cases read.isEmpty <;> rfl
  rw [clock]
  · simp only [h.first, h.second, h.value, Bool.and_self, if_true, hnext, hlast]
    rfl
  · exact fun _ hnil => List.cons_ne_nil _ _ hnil

/-- The last number ends the time; what was not read is zero. -/
theorem clock_last {a b : Char} {n : Nat} (h : Spells n a b) (atEnd hasColons : Bool)
    (read : List Nat) :
    clock atEnd hasColons read [a, b] =
      some (⟨(read ++ [n]).getD 0 0, (read ++ [n]).getD 1 0, (read ++ [n]).getD 2 0, 0⟩, !atEnd) := by
  rw [clock]
  · simp only [h.first, h.second, h.value, Bool.and_self, if_true]
  · exact fun _ hnil => List.cons_ne_nil _ _ hnil

end Iso

/-- **A time of day to the second.** -/
structure TimeOfDay.IsValid (t : TimeOfDay) : Prop where
  hour_le : t.hour ≤ 23
  minute_le : t.minute ≤ 59
  second_le : t.second ≤ 59
  microsecond_eq : t.microsecond = 0

theorem TimeOfDay.toList_text {t : TimeOfDay} (h : t.IsValid) : t.text.toList =
    (padded 2 t.hour).toList ++ ':' :: ((padded 2 t.minute).toList ++
      ':' :: (padded 2 t.second).toList) := by
  simp [TimeOfDay.text, h.microsecond_eq]

namespace Iso

theorem clock_text {t : TimeOfDay} (h : t.IsValid) (atEnd hasColons : Bool) :
    clock atEnd hasColons [] t.text.toList = some (t, !atEnd) := by
  obtain ⟨a, b, hhour, hab⟩ := exists_spells (Nat.lt_of_le_of_lt h.hour_le (by decide))
  obtain ⟨c, d, hminute, hcd⟩ := exists_spells (Nat.lt_of_le_of_lt h.minute_le (by decide))
  obtain ⟨e, f, hsecond, hef⟩ := exists_spells (Nat.lt_of_le_of_lt h.second_le (by decide))
  have htext : t.text.toList = [a, b, ':', c, d, ':', e, f] := by
    rw [TimeOfDay.toList_text h, hhour, hminute, hsecond]
    rfl
  have ht : (⟨t.hour, t.minute, t.second, 0⟩ : TimeOfDay) = t := by rw [← h.microsecond_eq]
  rw [htext, clock_colon hab (by decide) (.inl rfl), clock_colon hcd (by simp) (.inr rfl),
    clock_last hef]
  exact congrArg some (Prod.ext ht rfl)

/-- Hours and minutes of an offset. -/
theorem clock_hoursMinutes {hour minute : Nat} (hhour : hour < 100) (hminute : minute < 100)
    (atEnd hasColons : Bool) :
    clock atEnd hasColons [] ((padded 2 hour).toList ++ ':' :: (padded 2 minute).toList) =
      some (⟨hour, minute, 0, 0⟩, !atEnd) := by
  obtain ⟨a, b, hab, hspells⟩ := exists_spells hhour
  obtain ⟨c, d, hcd, hspells'⟩ := exists_spells hminute
  rw [hab, hcd]
  show clock atEnd hasColons [] [a, b, ':', c, d] = _
  rw [clock_colon hspells (by decide) (.inl rfl), clock_last hspells']
  rfl

theorem startsOffset_of_isDigit {c : Char} (h : c.isDigit = true) : startsOffset c = false := by
  have hne : ∀ d : Char, d.isDigit = false → (c == d) = false := by
    intro d hd
    rw [beq_eq_false_iff_ne]
    rintro rfl
    rw [h] at hd
    cases hd
  unfold startsOffset
  rw [hne '+' (by decide), hne '-' (by decide), hne 'Z' (by decide)]
  rfl

theorem startsOffset_of_mem_text {t : TimeOfDay} (h : t.IsValid) :
    ∀ c ∈ t.text.toList, startsOffset c = false := by
  rw [TimeOfDay.toList_text h]
  intro c hc
  have hcases : c ∈ (padded 2 t.hour).toList ∨ c ∈ (padded 2 t.minute).toList ∨
      c ∈ (padded 2 t.second).toList ∨ c = ':' := by
    simp only [List.mem_append, List.mem_cons] at hc
    rcases hc with hc | hc | hc | hc | hc
    · exact .inl hc
    · exact .inr (.inr (.inr hc))
    · exact .inr (.inl hc)
    · exact .inr (.inr (.inr hc))
    · exact .inr (.inr (.inl hc))
  rcases hcases with hc | hc | hc | rfl
  · exact startsOffset_of_isDigit (isDigit_of_mem_padded hc)
  · exact startsOffset_of_isDigit (isDigit_of_mem_padded hc)
  · exact startsOffset_of_isDigit (isDigit_of_mem_padded hc)
  · rfl

/-- The time of day ends where the offset begins. -/
theorem takeWhile_text {t : TimeOfDay} (h : t.IsValid) {sign : Char} (hsign : startsOffset sign = true)
    (rest : List Char) :
    (t.text.toList ++ sign :: rest).takeWhile (fun c => !startsOffset c) = t.text.toList := by
  rw [List.takeWhile_append_of_pos, List.takeWhile_cons_of_neg (by simp [hsign]), List.append_nil]
  intro c hc
  rw [startsOffset_of_mem_text h c hc]
  rfl

theorem time_zulu {t : TimeOfDay} (h : t.IsValid) :
    time (t.text.toList ++ ['Z']) = some (t, some 0) := by
  have hstarts : startsOffset 'Z' = true := rfl
  have hbody := takeWhile_text h hstarts []
  simp only [time, hbody, List.drop_left, clock_text h]
  rfl

theorem time_offset {t : TimeOfDay} (h : t.IsValid) {sign : Char} (hsign : sign = '+' ∨ sign = '-')
    {hour minute : Nat} (hhour : hour < 100) (hminute : minute < 100) :
    time (t.text.toList ++ sign :: ((padded 2 hour).toList ++ ':' :: (padded 2 minute).toList)) =
      some (t, some (signedOffset (sign == '-') ⟨hour, minute, 0, 0⟩)) := by
  have hstarts : startsOffset sign = true := by rcases hsign with rfl | rfl <;> rfl
  have hzulu : (sign == 'Z') = false := by rcases hsign with rfl | rfl <;> rfl
  have hbody := takeWhile_text h hstarts
    ((padded 2 hour).toList ++ ':' :: (padded 2 minute).toList)
  simp only [time, hbody, List.drop_left, clock_text h, hzulu,
    clock_hoursMinutes hhour hminute]
  rfl

end Iso

/-! ## Moments -/

namespace Moment

/-- Microseconds of a minute. -/
def minuteLength : Nat := 60 * secondLength

/-- **A moment in the strict format**: a day of the calendar, a time to the second, and an offset of whole
    minutes below a day. -/
structure IsStrict (m : Moment) : Prop where
  date : m.date.IsValid
  time : m.time.IsValid
  offset : ∃ minutes : Int, minutes.natAbs < 1440 ∧ m.offset = some (minuteLength * minutes)

/-- **The texts of a moment in the strict format.** Universal time has two of them. -/
def strictTexts (m : Moment) : List String :=
  m.isoText :: if m.offset = some 0 then [m.date.text ++ "T" ++ m.time.text ++ "Z"] else []

theorem IsStrict.check_eq {m : Moment} (h : m.IsStrict) : m.check = .ok m := by
  obtain ⟨minutes, hminutes, hoffset⟩ := h.offset
  have hbound : ¬dayLength ≤ ((minuteLength : Int) * minutes).natAbs := by
    have hunits : dayLength = minuteLength * 1440 := rfl
    have hlength : 0 < minuteLength := by decide
    rw [Int.natAbs_mul, Int.natAbs_natCast, hunits, Nat.mul_le_mul_left_iff hlength]
    omega
  obtain ⟨hyear, -, hmonth, hmonth', hday, hday'⟩ := h.date
  obtain ⟨hhour, hminute, hsecond, -⟩ := h.time
  simp only [check, hoffset, hbound, beq_iff_eq, Bool.or_eq_true, decide_eq_true_eq]
  rw [if_neg (by simp), if_neg (by omega), if_neg (by omega), if_neg (by omega), if_neg (by omega),
    if_neg (by omega), if_neg (by omega)]

/-- The reader finds the day, the time and the offset where they stand. -/
theorem ofText_of_parts {s : String} {d : Date} (hd : d.IsValid) {separator : Char}
    {rest : List Char} (hs : s.toList = d.text.toList ++ separator :: rest) {t : TimeOfDay}
    {offset : Option Int} (hrest : Iso.time rest = some (t, offset)) :
    ofText s = check ⟨d, t, offset⟩ := by
  have hlength := Iso.length_text hd
  have hlong : ¬s.toList.length < 7 := by
    rw [hs, List.length_append, hlength]
    omega
  have htake : s.toList.take 10 = d.text.toList := by rw [hs, ← hlength, List.take_left]
  have hdrop : s.toList.drop 11 = rest := by
    rw [hs, List.drop_append, hlength, List.drop_of_length_le (by omega)]
    rfl
  -- the first ten characters are the day, and one more is passed over
  have hdate : Iso.dateLength s.toList = some 10 := by rw [hs, Iso.dateLength_text hd]
  simp only [ofText, hlong, if_false, hdate, htake, hdrop, Iso.date_text hd]
  cases rest with
  | nil =>
    have hnone : Iso.time [] = none := by simp [Iso.time, Iso.clock]
    rw [hnone] at hrest
    cases hrest
  | cons c rest => simp only [bind, Except.bind, hrest]

/-- An offset of whole minutes is its sign, hours and minutes. -/
theorem toList_offsetText (minutes : Int) : (offsetText (minuteLength * minutes)).toList =
    (if minutes < 0 then '-' else '+') :: ((padded 2 (minutes.natAbs / 60)).toList ++
      ':' :: (padded 2 (minutes.natAbs % 60)).toList) := by
  have hlength : 0 < secondLength := by decide
  have habs : ((minuteLength : Int) * minutes).natAbs = secondLength * (60 * minutes.natAbs) := by
    rw [Int.natAbs_mul, Int.natAbs_natCast, minuteLength, Nat.mul_comm 60, Nat.mul_assoc]
  have hnegative : (minuteLength : Int) * minutes < 0 ↔ minutes < 0 := by
    have hpositive : 0 < (minuteLength : Int) := by decide
    constructor
    · intro h
      by_contra hle
      exact absurd (Int.mul_nonneg (Int.le_of_lt hpositive) (Int.not_lt.1 hle)) (Int.not_le.2 h)
    · exact fun h => Int.mul_neg_of_pos_of_neg hpositive h
  have hhours : 60 * minutes.natAbs / 3600 = minutes.natAbs / 60 := by omega
  have hminutes : 60 * minutes.natAbs / 60 % 60 = minutes.natAbs % 60 := by omega
  simp only [offsetText, habs, Nat.mul_div_cancel_left _ hlength, Nat.mul_mod_right, hhours, hminutes,
    hnegative, beq_self_eq_true, Bool.and_self, if_true]
  by_cases h : minutes < 0
  · simp [h]
  · simp [h]

theorem signedOffset_eq (minutes : Int) :
    Iso.signedOffset ((if minutes < 0 then '-' else '+') == '-')
      ⟨minutes.natAbs / 60, minutes.natAbs % 60, 0, 0⟩ = minuteLength * minutes := by
  have hseconds : minutes.natAbs / 60 * 3600 + minutes.natAbs % 60 * 60 + 0 =
      60 * minutes.natAbs := by omega
  have hunits : minuteLength = 60 * 1000000 := rfl
  simp only [Iso.signedOffset, hseconds, hunits, secondLength]
  by_cases hzero : minutes = 0
  · subst hzero
    rfl
  · rw [if_neg (by rw [beq_iff_eq]; omega)]
    by_cases h : minutes < 0
    · simp only [h, if_true, beq_self_eq_true]
      omega
    · have hplus : ('+' == '-') = false := rfl
      simp only [h, if_false, hplus, Bool.false_eq_true]
      omega

theorem toList_isoText {m : Moment} {minutes : Int}
    (hoffset : m.offset = some (minuteLength * minutes)) :
    m.isoText.toList = m.date.text.toList ++ 'T' :: (m.time.text.toList ++
      (if minutes < 0 then '-' else '+') :: ((padded 2 (minutes.natAbs / 60)).toList ++
        ':' :: (padded 2 (minutes.natAbs % 60)).toList)) := by
  rw [← toList_offsetText]
  simp [isoText, textWith, hoffset]

theorem toList_zulu (m : Moment) : (m.date.text ++ "T" ++ m.time.text ++ "Z").toList =
    m.date.text.toList ++ 'T' :: (m.time.text.toList ++ ['Z']) := by
  simp

/-- A text in the strict format has an offset or a `Z`. -/
theorem mem_strictTexts {m : Moment} {s : String} : s ∈ m.strictTexts ↔
    s = m.isoText ∨ m.offset = some 0 ∧ s = m.date.text ++ "T" ++ m.time.text ++ "Z" := by
  unfold strictTexts
  by_cases hzero : m.offset = some 0
  · rw [if_pos hzero, List.mem_cons, List.mem_singleton, and_iff_right hzero]
  · rw [if_neg hzero, List.mem_singleton]
    exact (or_iff_left fun h => hzero h.1).symm

/-- **The strict format is read back**: each text of a moment names this moment. -/
theorem read_strict {m : Moment} (h : m.IsStrict) {s : String} (hs : s ∈ m.strictTexts) :
    read s = .ok m := by
  obtain ⟨minutes, hminutes, hoffset⟩ := h.offset
  have hm : ∀ o, m.offset = o → check ⟨m.date, m.time, o⟩ = .ok m := by
    rintro o rfl
    exact h.check_eq
  unfold read
  rcases mem_strictTexts.1 hs with rfl | ⟨hzero, rfl⟩
  · -- the sign, the hours and the minutes are put together to the offset again
    have hsign : (if minutes < 0 then '-' else '+') = '+' ∨
        (if minutes < 0 then '-' else '+') = '-' := by split <;> simp
    have hhour : minutes.natAbs / 60 < 100 := by omega
    have hminute : minutes.natAbs % 60 < 100 := by omega
    have htime := Iso.time_offset h.time hsign hhour hminute
    rw [signedOffset_eq] at htime
    rw [ofText_of_parts h.date (toList_isoText hoffset) htime, hm _ hoffset]
    rfl
  · rw [ofText_of_parts h.date m.toList_zulu (Iso.time_zulu h.time), hm _ hzero]
    rfl

/-- The strict format knows digits and five other characters. -/
theorem mem_strict {m : Moment} (h : m.IsStrict) {s : String} (hs : s ∈ m.strictTexts) :
    ∀ c ∈ s.toList, c.isDigit = true ∨ c ∈ ['-', ':', 'T', '+', 'Z'] := by
  obtain ⟨minutes, -, hoffset⟩ := h.offset
  have hpadded : ∀ {width n : Nat}, ∀ c ∈ (padded width n).toList, c.isDigit = true ∨
      c ∈ ['-', ':', 'T', '+', 'Z'] := fun c hc => .inl (isDigit_of_mem_padded hc)
  have hdate : ∀ c ∈ m.date.text.toList, c.isDigit = true ∨ c ∈ ['-', ':', 'T', '+', 'Z'] := by
    rw [Date.toList_text]
    simp only [List.forall_mem_append, List.forall_mem_cons]
    exact ⟨hpadded, .inr (by decide), hpadded, .inr (by decide), hpadded⟩
  have htime : ∀ c ∈ m.time.text.toList, c.isDigit = true ∨ c ∈ ['-', ':', 'T', '+', 'Z'] := by
    rw [TimeOfDay.toList_text h.time]
    simp only [List.forall_mem_append, List.forall_mem_cons]
    exact ⟨hpadded, .inr (by decide), hpadded, .inr (by decide), hpadded⟩
  rcases mem_strictTexts.1 hs with rfl | ⟨-, rfl⟩
  · rw [toList_isoText hoffset]
    simp only [List.forall_mem_append, List.forall_mem_cons]
    refine ⟨hdate, .inr (by decide), htime, ?_, hpadded, .inr (by decide), hpadded⟩
    split <;> exact .inr (by decide)
  · rw [toList_zulu]
    simp only [List.forall_mem_append, List.forall_mem_cons]
    exact ⟨hdate, .inr (by decide), htime, .inr (by decide), fun c hc => absurd hc List.not_mem_nil⟩

end Moment

end HistoryMetrics
