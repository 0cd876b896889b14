import ClassMetrics.Prelude

/-!
Reading UTF-8 text, replacing what is not UTF-8: each longest start of a well-formed sequence
that breaks off, and each byte that starts none, becomes one replacement character.
-/

namespace ClassMetrics.Utf8

/-- The replacement character. -/
def replacement : Char := '�'

/-- The bounds of the second byte of a sequence led by a byte, and how many continuation bytes
follow the lead; `none` for a byte that leads no sequence. -/
def leadShape (b : Nat) : Option (Nat × Nat × Nat) :=
  if b < 0xC2 then none
  else if b < 0xE0 then some (0x80, 0xBF, 1)
  else if b == 0xE0 then some (0xA0, 0xBF, 2)
  else if b == 0xED then some (0x80, 0x9F, 2)
  else if b < 0xF0 then some (0x80, 0xBF, 2)
  else if b == 0xF0 then some (0x90, 0xBF, 3)
  else if b < 0xF4 then some (0x80, 0xBF, 3)
  else if b == 0xF4 then some (0x80, 0x8F, 3)
  else none

/-- The value bits of a lead byte that opens a sequence of `more` continuation bytes. -/
def leadBits (b more : Nat) : Nat :=
  match more with
  | 1 => b % 0x20
  | 2 => b % 0x10
  | _ => b % 0x08

/-- Takes `n` continuation bytes, the first within `lo`..`hi`, the others within
`0x80`..`0xBF`, adding their bits to `acc`. On a break, returns how many it took. -/
def continuation : Nat → Nat → Nat → Nat → List UInt8 → Sum Nat (Nat × List UInt8)
  | 0, _, _, acc, rest => .inr (acc, rest)
  | n + 1, lo, hi, acc, b :: rest =>
    if lo ≤ b.toNat ∧ b.toNat ≤ hi then
      match continuation n 0x80 0xBF (acc * 64 + b.toNat % 64) rest with
      | .inl k => .inl (k + 1)
      | r => r
    else .inl 0
  | _ + 1, _, _, _, [] => .inl 0

/-- Decodes bytes, a replacement character for each ill-formed part. -/
def decodeLossy (bytes : List UInt8) : String :=
  String.ofList (go bytes.length bytes)
where
  go : Nat → List UInt8 → List Char
  | 0, _ => []
  | _, [] => []
  | fuel + 1, b :: rest =>
    if b < 0x80 then Char.ofNat b.toNat :: go fuel rest
    else match leadShape b.toNat with
      | none => replacement :: go fuel rest
      | some (lo, hi, more) =>
        match continuation more lo hi (leadBits b.toNat more) rest with
        | .inr (code, rest) => Char.ofNat code :: go fuel rest
        | .inl k => replacement :: go fuel (rest.drop k)

end ClassMetrics.Utf8
