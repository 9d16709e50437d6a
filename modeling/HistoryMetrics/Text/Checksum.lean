import HistoryMetrics.Text.Utf8

/-! # A stable number for a path

    The cyclic redundancy check CRC-32 (reflected polynomial `0xEDB88320`, all ones before and
    after) of the UTF-8 bytes of a text. -/

namespace HistoryMetrics.Text

/-- One bit of the division. -/
def crcBit (r : UInt32) : UInt32 :=
  if r &&& 1 == 1 then (r >>> 1) ^^^ 0xEDB88320 else r >>> 1

/-- One byte of the division: eight bits. -/
def crcByte (r : UInt32) (b : UInt8) : UInt32 :=
  Nat.repeat crcBit 8 (r ^^^ b.toUInt32)

/-- CRC-32 of a sequence of bytes. -/
def crc32 (bytes : List UInt8) : UInt32 :=
  bytes.foldl crcByte 0xFFFFFFFF ^^^ 0xFFFFFFFF

/-- The checksum of a text, a number below 2 ^ 32. -/
def checksum (s : String) : Nat :=
  (crc32 (encode s.toList)).toNat

end HistoryMetrics.Text
