import HistoryMetrics.Text.Utf8
import Mathlib.Data.List.Basic

/-! # Text that is written as bytes and read back

    The first byte of a character of several bytes promises how many bytes follow, and the range of the
    first of them. The bytes that are written for a character keep this promise, so reading them gives the
    character back, whatever bytes come after it.

    - `lead?_two`, `lead?_three`, `lead?_four`: what first bytes promise
    - `decodeFrom_last`, `decodeFrom_more`: how a promise is kept
    - `decodeFrom_encodeChar`: one character
    - `decodeLossy_encode`: a whole text
-/

namespace HistoryMetrics.Text

/-! ## Promises -/

/-- The first byte of two. -/
theorem lead?_two {v : Nat} (hlow : 2 ≤ v) (hhigh : v < 32) :
    lead? (0xC0 + v) = some ⟨1, 0x80, 0xBF, v⟩ := by
  have hall : ∀ v < 32, 2 ≤ v → lead? (0xC0 + v) = some ⟨1, 0x80, 0xBF, v⟩ := by decide
  exact hall v hhigh hlow

/-- The first byte of three: overlong forms and surrogates are excluded by the byte after it. -/
theorem lead?_three {v : Nat} (hv : v < 16) :
    lead? (0xE0 + v) =
      some ⟨2, if v = 0 then 0xA0 else 0x80, if v = 13 then 0x9F else 0xBF, v⟩ := by
  have hall : ∀ v < 16, lead? (0xE0 + v) =
      some ⟨2, if v = 0 then 0xA0 else 0x80, if v = 13 then 0x9F else 0xBF, v⟩ := by decide
  exact hall v hv

/-- The first byte of four: overlong forms and numbers that are too great are excluded in this way, too. -/
theorem lead?_four {v : Nat} (hv : v < 5) :
    lead? (0xF0 + v) =
      some ⟨3, if v = 0 then 0x90 else 0x80, if v = 4 then 0x8F else 0xBF, v⟩ := by
  have hall : ∀ v < 5, lead? (0xF0 + v) =
      some ⟨3, if v = 0 then 0x90 else 0x80, if v = 4 then 0x8F else 0xBF, v⟩ := by decide
  exact hall v hv

theorem toNat_trailingByte (n : Nat) : (trailingByte n).toNat = 0x80 + n % 64 := by
  rw [trailingByte, UInt8.toNat_ofNat']
  omega

section promises

variable {low high bits n : Nat}

/-- The last byte of a character. -/
theorem decodeFrom_last (hlow : low ≤ 0x80 + n % 64) (hhigh : 0x80 + n % 64 ≤ high)
    (rest : List UInt8) :
    decodeFrom (.some ⟨1, low, high, bits⟩) (trailingByte n :: rest) =
      some (Char.ofNat (bits * 64 + n % 64)) :: decodeFrom .none rest := by
  have hrange : (decide (low ≤ 0x80 + n % 64) && decide (0x80 + n % 64 ≤ high)) = true := by
    simp [hlow, hhigh]
  simp only [decodeFrom, toNat_trailingByte, hrange, Nat.add_sub_cancel_left]
  rfl

/-- A byte after which more are to come. -/
theorem decodeFrom_more {k : Nat} (hlow : low ≤ 0x80 + n % 64) (hhigh : 0x80 + n % 64 ≤ high)
    (rest : List UInt8) :
    decodeFrom (.some ⟨k + 2, low, high, bits⟩) (trailingByte n :: rest) =
      decodeFrom (.some ⟨k + 1, 0x80, 0xBF, bits * 64 + n % 64⟩) rest := by
  have hrange : (decide (low ≤ 0x80 + n % 64) && decide (0x80 + n % 64 ≤ high)) = true := by
    simp [hlow, hhigh]
  have hmore : ¬ k + 2 ≤ 1 := by omega
  simp only [decodeFrom, toNat_trailingByte, hrange, Nat.add_sub_cancel_left, if_neg hmore]
  rfl

/-- A first byte of several. -/
theorem decodeFrom_lead {v : Nat} {promise : Lead} (hlow : 0x80 ≤ v) (hhigh : v < 256)
    (h : lead? v = some promise) (rest : List UInt8) :
    decodeFrom .none (UInt8.ofNat v :: rest) = decodeFrom (.some promise) rest := by
  have hv : (UInt8.ofNat v).toNat = v := by
    rw [UInt8.toNat_ofNat']
    omega
  have hmany : ¬ v < 0x80 := by omega
  rw [decodeFrom, hv, decodeFirst, if_neg hmany, h]

end promises

/-! ## Characters -/

/-- The number of a character is no half of a surrogate pair. -/
theorem toNat_valid (c : Char) : c.toNat < 0xD800 ∨ 0xDFFF < c.toNat ∧ c.toNat < 0x110000 :=
  c.valid

/-- **The bytes of a character are read as this character**, whatever comes after them. -/
theorem decodeFrom_encodeChar (c : Char) (rest : List UInt8) :
    decodeFrom .none (encodeChar c ++ rest) = some c :: decodeFrom .none rest := by
  have hvalid := toNat_valid c
  have hchar : ∀ bits, bits = c.toNat → some (Char.ofNat bits) = some c := by
    intro bits hbits
    rw [hbits, Char.ofNat_toNat]
  generalize hn : c.toNat = n at hvalid hchar
  unfold encodeChar
  rw [hn]
  -- the number of bytes, and with it the promise of the first one, depends on the number
  by_cases hone : n < 0x80
  · simp only [if_pos hone, List.cons_append, List.nil_append]
    have hbyte : (UInt8.ofNat n).toNat = n := by
      rw [UInt8.toNat_ofNat']
      omega
    rw [decodeFrom, hbyte, decodeFirst, if_pos hone, hchar n rfl]
  by_cases htwo : n < 0x800
  · simp only [if_neg hone, if_pos htwo, List.cons_append, List.nil_append]
    rw [decodeFrom_lead (by omega) (by omega) (lead?_two (by omega) (by omega)),
      decodeFrom_last (by omega) (by omega), hchar _ (by omega)]
  by_cases hthree : n < 0x10000
  · simp only [if_neg hone, if_neg htwo, if_pos hthree, List.cons_append, List.nil_append]
    rw [decodeFrom_lead (by omega) (by omega) (lead?_three (by omega)),
      decodeFrom_more (k := 0) (by split <;> omega) (by split <;> omega),
      decodeFrom_last (by omega) (by omega), hchar _ (by omega)]
  · simp only [if_neg hone, if_neg htwo, if_neg hthree, List.cons_append, List.nil_append]
    rw [decodeFrom_lead (by omega) (by omega) (lead?_four (by omega)),
      decodeFrom_more (k := 1) (by split <;> omega) (by split <;> omega),
      decodeFrom_more (k := 0) (by omega) (by omega),
      decodeFrom_last (by omega) (by omega), hchar _ (by omega)]

/-! ## Texts -/

/-- **A text that is written as bytes is read back**, character for character. -/
theorem decodeLossy_encode (cs : List Char) : decodeLossy (encode cs) = cs := by
  have hread : decodeFrom .none (encode cs) = cs.map some := by
    induction cs with
    | nil => rfl
    | cons c cs ih => rw [encode, List.flatMap_cons, decodeFrom_encodeChar, ← encode, ih, List.map_cons]
  rw [decodeLossy, hread, List.map_map]
  exact List.map_id cs

end HistoryMetrics.Text
