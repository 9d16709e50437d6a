/-! # Bytes and characters

    Text enters and leaves the program as UTF-8.

    - `decodeLossy`: bytes that are not UTF-8 become U+FFFD, one for each maximal part that a
      longer well-formed character could have started with
    - `decodeStrict`: the same reading, refused when anything had to be replaced
    - `byteLength`: the length of a text in bytes
-/

namespace HistoryMetrics.Text

-- Sums start at the zero of the core library, whatever other zeros are in scope.
attribute [local instance (high)] Zero.ofOfNat0

/-- The number of bytes of a character. -/
def charBytes (c : Char) : Nat :=
  if c.toNat < 0x80 then 1 else if c.toNat < 0x800 then 2 else if c.toNat < 0x10000 then 3 else 4

/-- The length of a text in bytes. -/
def byteLength (cs : List Char) : Nat :=
  (cs.map charBytes).sum

/-- What a first byte promises: the number of bytes that follow, the range of the first of them
    (which excludes overlong forms, surrogates and values above U+10FFFF) and the bits it gives. -/
structure Lead where
  trailing : Nat
  low : Nat
  high : Nat
  bits : Nat
deriving Repr, DecidableEq

/-- The promise of a first byte of several, if it can start a character at all. -/
def lead? (b : Nat) : Option Lead :=
  if 0xC2 ≤ b && b ≤ 0xDF then some ⟨1, 0x80, 0xBF, b - 0xC0⟩
  else if b == 0xE0 then some ⟨2, 0xA0, 0xBF, 0⟩
  else if b == 0xED then some ⟨2, 0x80, 0x9F, 0xD⟩
  else if 0xE1 ≤ b && b ≤ 0xEF then some ⟨2, 0x80, 0xBF, b - 0xE0⟩
  else if b == 0xF0 then some ⟨3, 0x90, 0xBF, 0⟩
  else if 0xF1 ≤ b && b ≤ 0xF3 then some ⟨3, 0x80, 0xBF, b - 0xF0⟩
  else if b == 0xF4 then some ⟨3, 0x80, 0x8F, 4⟩
  else none

/-- What is known of the character being read: nothing, or the promise still to be kept. -/
inductive Pending where
  | none
  | some (promise : Lead)
deriving Repr, DecidableEq

/-- A byte that starts a character, or stands for nothing. `none` in the answer is a replaced
    part. -/
def decodeFirst (b : Nat) (after : Pending → List (Option Char)) : List (Option Char) :=
  if b < 0x80 then some (Char.ofNat b) :: after .none
  else match lead? b with
    | some l => after (.some l)
    | none => none :: after .none

/-- Reads bytes one by one; an ill-formed part is given up at the first byte that cannot belong to
    it, and that byte is then read as a first byte. -/
def decodeFrom : Pending → List UInt8 → List (Option Char)
  | .none, [] => []
  | .some _, [] => [none]
  | .none, b :: rest => decodeFirst b.toNat fun p => decodeFrom p rest
  | .some l, b :: rest =>
    let n := b.toNat
    if l.low ≤ n && n ≤ l.high then
      let bits := l.bits * 64 + (n - 0x80)
      if l.trailing ≤ 1 then some (Char.ofNat bits) :: decodeFrom .none rest
      else decodeFrom (.some ⟨l.trailing - 1, 0x80, 0xBF, bits⟩) rest
    else none :: decodeFirst n fun p => decodeFrom p rest

/-- The characters of the bytes, U+FFFD in place of each ill-formed part. -/
def decodeLossy (bytes : List UInt8) : List Char :=
  (decodeFrom .none bytes).map fun c => c.getD '\uFFFD'

/-- The characters of the bytes, if they are UTF-8 throughout. -/
def decodeStrict (bytes : List UInt8) : Option (List Char) :=
  (decodeFrom .none bytes).mapM id

/-- A trailing byte of a character: six bits of its number. -/
def trailingByte (n : Nat) : UInt8 :=
  UInt8.ofNat (0x80 + n % 64)

/-- The bytes of a character. -/
def encodeChar (c : Char) : List UInt8 :=
  let n := c.toNat
  if n < 0x80 then [UInt8.ofNat n]
  else if n < 0x800 then [UInt8.ofNat (0xC0 + n / 64), trailingByte n]
  else if n < 0x10000 then
    [UInt8.ofNat (0xE0 + n / 4096), trailingByte (n / 64), trailingByte n]
  else
    [UInt8.ofNat (0xF0 + n / 262144), trailingByte (n / 4096), trailingByte (n / 64),
      trailingByte n]

/-- The bytes of a text. -/
def encode (cs : List Char) : List UInt8 :=
  cs.flatMap encodeChar

end HistoryMetrics.Text
