import ClassMetrics.Prelude

/-!
The CRC-32 checksum of archives (reflected polynomial `0xEDB88320`, start and final value all
ones), a byte at a time from a table of 256 words. The word for a byte is eight single-bit
steps of the remainder.
-/

namespace ClassMetrics.Crc32

/-- One bit step of the remainder: shift down, and fold in the polynomial when a one falls out. -/
def step (c : UInt32) : UInt32 := if c &&& 1 != 0 then (0xEDB88320 : UInt32) ^^^ (c >>> 1) else c >>> 1

/-- The remainder of a byte: eight bit steps. -/
def byteWord (n : Nat) : UInt32 := (List.range 8).foldl (fun c _ => step c) n.toUInt32

/-- The 256 byte words. -/
def table : Array UInt32 := (Array.range 256).map byteWord

/-- Feeds one byte to the remainder. -/
def update (c : UInt32) (b : UInt8) : UInt32 :=
  table.getD ((c ^^^ b.toUInt32) &&& 0xFF).toNat 0 ^^^ (c >>> 8)

/-- The checksum of some bytes. -/
def checksum (bytes : List UInt8) : UInt32 := bytes.foldl update 0xFFFFFFFF ^^^ 0xFFFFFFFF

end ClassMetrics.Crc32
