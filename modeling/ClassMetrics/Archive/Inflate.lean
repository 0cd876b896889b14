import ClassMetrics.Prelude

/-!
Inflating a DEFLATE stream: blocks stored as they are, or coded with the fixed or a transmitted
set of Huffman codes, until the block marked last. Codes are canonical and read a bit at a time.
A set of code lengths may not ask for more codes than there are, and must fill the code space
exactly unless it has no codes at all, or is a literal or distance code of a single one-bit code.
A transmitted literal code must have the end symbol. The window of earlier output starts out as zeros, so a
distance reaching before the first byte copies zeros. A stream that ends before its last block,
an empty one included, is refused. Every loop reads at least one bit a round, so
the bits left bound it.
-/

namespace ClassMetrics.Inflate

/-- A stream of bits read from the lowest bit of each byte up. -/
structure Bits where
  data : Array UInt8
  pos : Nat := 0

namespace Bits

/-- How many bits are left. -/
def left (s : Bits) : Nat := s.data.size * 8 - s.pos

/-- The next bit. -/
def bit (s : Bits) : Option (Nat × Bits) :=
  match s.data[s.pos / 8]? with
  | some b => some ((b.toNat >>> (s.pos % 8)) % 2, { s with pos := s.pos + 1 })
  | none => none

/-- The next `n` bits as a number, the first bit lowest. -/
def take (s : Bits) : Nat → Option (Nat × Bits)
  | 0 => some (0, s)
  | n + 1 => do
    let (b, s) ← s.bit
    let (r, s) ← s.take n
    pure (b + 2 * r, s)

/-- Skips to the start of the next byte. -/
def align (s : Bits) : Bits := { s with pos := (s.pos + 7) / 8 * 8 }

end Bits

/-- A canonical Huffman code: how many codes each length has, and the symbols in code order. -/
structure Code where
  counts : Array Nat
  symbols : Array Nat

/-- The code of some code lengths, one per symbol, zero for an unused symbol. Refused when the
lengths ask for more codes than there are; a code with no symbols at all is kept, and decodes
nothing. Lengths that leave the code space partly empty are refused too, unless `lone` allows
the one such code that can be read, a single symbol of one bit. -/
def Code.ofLengths (lengths : List Nat) (lone : Bool) : Option Code :=
  let counts := (List.range 16).map fun l => lengths.count l
  let used := lengths.length - lengths.count 0
  let filled := ((List.range 15).map fun i => counts.getD (i + 1) 0 * 2 ^ (15 - i)).sum
  if filled > 2 ^ 16 then none
  else if filled < 2 ^ 16 && used > 0 && !(lone && used == 1 && counts.getD 1 0 == 1) then none
  else
    let symbols := (List.range 15).flatMap fun i =>
      (lengths.zipIdx.filter (·.1 == i + 1)).map (·.2)
    some ⟨counts.toArray, symbols.toArray⟩

/-- Reads one symbol, a bit at a time: after each bit, the codes of that length are those
from `first` on. -/
def Code.decodeFrom (c : Code) : Nat → Nat → Nat → Nat → Nat → Bits → Option (Nat × Bits)
  | 0, _, _, _, _, _ => none
  | fuel + 1, len, code, first, index, s => do
    let (b, s) ← s.bit
    let code := code + b
    let count := c.counts.getD len 0
    if code < first + count then
      (c.symbols[index + (code - first)]?).map (·, s)
    else
      c.decodeFrom fuel (len + 1) (2 * code) (2 * (first + count)) (index + count) s

/-- Reads one symbol of a code; no code is longer than 15 bits. -/
def Code.decode (c : Code) (s : Bits) : Option (Nat × Bits) := c.decodeFrom 15 1 0 0 0 s

/-- The least length of each length symbol. -/
def lengthBase : Array Nat :=
  #[3, 4, 5, 6, 7, 8, 9, 10, 11, 13, 15, 17, 19, 23, 27, 31, 35, 43, 51, 59, 67, 83, 99, 115,
    131, 163, 195, 227, 258]

/-- The extra bits of each length symbol. -/
def lengthExtra : Array Nat :=
  #[0, 0, 0, 0, 0, 0, 0, 0, 1, 1, 1, 1, 2, 2, 2, 2, 3, 3, 3, 3, 4, 4, 4, 4, 5, 5, 5, 5, 0]

/-- The least distance of each distance symbol. -/
def distanceBase : Array Nat :=
  #[1, 2, 3, 4, 5, 7, 9, 13, 17, 25, 33, 49, 65, 97, 129, 193, 257, 385, 513, 769, 1025, 1537,
    2049, 3073, 4097, 6145, 8193, 12289, 16385, 24577]

/-- The extra bits of each distance symbol. -/
def distanceExtra : Array Nat :=
  #[0, 0, 0, 0, 1, 1, 2, 2, 3, 3, 4, 4, 5, 5, 6, 6, 7, 7, 8, 8, 9, 9, 10, 10, 11, 11, 12, 12, 13,
    13]

/-- Appends `len` bytes copied from `dist` bytes back, the copy overlapping what it writes; a
byte from before the first one is a zero. -/
def copyBack (out : Array UInt8) (dist : Nat) : Nat → Array UInt8
  | 0 => out
  | n + 1 =>
    let b := if dist ≤ out.size then out.getD (out.size - dist) 0 else 0
    copyBack (out.push b) dist n

/-- Decodes the symbols of one coded block up to its end symbol. -/
def codedBlock (lit dist : Code) : Nat → Bits → Array UInt8 → Option (Bits × Array UInt8)
  | 0, _, _ => none
  | fuel + 1, s, out => do
    let (sym, s) ← lit.decode s
    if sym < 256 then codedBlock lit dist fuel s (out.push sym.toUInt8)
    else if sym == 256 then some (s, out)
    else
      let i := sym - 257
      let base ← lengthBase[i]?
      let (extra, s) ← s.take (lengthExtra.getD i 0)
      let (d, s) ← dist.decode s
      let dbase ← distanceBase[d]?
      let (dextra, s) ← s.take (distanceExtra.getD d 0)
      codedBlock lit dist fuel s (copyBack out (dbase + dextra) (base + extra))

/-- The fixed codes: literal and length symbols of 8, 9, 7 and 8 bits, and 32 distance symbols of 5 bits of
which the last two are unused. -/
def fixedCodes : Option (Code × Code) := do
  let lit ← Code.ofLengths (List.replicate 144 8 ++ List.replicate 112 9 ++ List.replicate 24 7 ++
    List.replicate 8 8) false
  let dist ← Code.ofLengths (List.replicate 32 5) true
  pure (lit, dist)

/-- The order in which code length code lengths are sent. -/
def lengthOrder : List Nat := [16, 17, 18, 0, 8, 7, 9, 6, 10, 5, 11, 4, 12, 3, 13, 2, 14, 1, 15]

/-- Reads `total` code lengths with the code length code: lengths, repeats of the last length,
and runs of zeros. -/
def readLengths (c : Code) (total : Nat) : Nat → Bits → Array Nat → Option (Bits × Array Nat)
  | 0, _, _ => none
  | fuel + 1, s, acc =>
    if acc.size ≥ total then some (s, acc)
    else do
      let (sym, s) ← c.decode s
      let (len, s, count) ← match sym with
        | 16 => do
          let last ← acc.back?
          let (r, s) ← s.take 2
          pure (last, s, 3 + r)
        | 17 => do
          let (r, s) ← s.take 3
          pure (0, s, 3 + r)
        | 18 => do
          let (r, s) ← s.take 7
          pure (0, s, 11 + r)
        | n => pure (n, s, 1)
      if acc.size + count > total then none
      else readLengths c total fuel s (acc ++ Array.replicate count len)

/-- Reads the codes that a dynamic block sends. -/
def dynamicCodes (s : Bits) : Option (Bits × Code × Code) := do
  let (nlen, s) ← s.take 5
  let (ndist, s) ← s.take 5
  let (ncode, s) ← s.take 4
  let nlen := nlen + 257
  let ndist := ndist + 1
  if nlen > 286 || ndist > 30 then none
  let (raw, s) ← (List.range (ncode + 4)).foldlM (fun (acc, s) _ => do
    let (v, s) ← s.take 3
    pure (acc ++ [v], s)) (([] : List Nat), s)
  let codeLengths := (List.range 19).map fun sym =>
    match (lengthOrder.zip raw).find? (·.1 == sym) with
    | some (_, v) => v
    | none => 0
  let lenCode ← Code.ofLengths codeLengths false
  let (s, lengths) ← readLengths lenCode (nlen + ndist) (s.left + 1) s #[]
  if lengths.getD 256 0 == 0 then none
  let lit ← Code.ofLengths (lengths.toList.take nlen) true
  let dist ← Code.ofLengths (lengths.toList.drop nlen) true
  pure (s, lit, dist)

/-- Copies a stored block: a length, its complement, and that many bytes from the next byte on. -/
def storedBlock (s : Bits) (out : Array UInt8) : Option (Bits × Array UInt8) := do
  let s := s.align
  let (len, s) ← s.take 16
  let (nlen, s) ← s.take 16
  if len + nlen != 0xFFFF then none
  let start := s.pos / 8
  if start + len > s.data.size then none
  pure ({ s with pos := s.pos + 8 * len }, out ++ s.data.extract start (start + len))

/-- Inflates blocks until the last one. -/
def blocks : Nat → Bits → Array UInt8 → Option (Array UInt8)
  | 0, _, _ => none
  | fuel + 1, s, out => do
    let (last, s) ← s.take 1
    let (kind, s) ← s.take 2
    let (s, out) ← match kind with
      | 0 => storedBlock s out
      | 1 => do
        let (lit, dist) ← fixedCodes
        codedBlock lit dist (s.left + 1) s out
      | 2 => do
        let (s, lit, dist) ← dynamicCodes s
        codedBlock lit dist (s.left + 1) s out
      | _ => none
    if last == 1 then some out else blocks fuel s out

/-- The bytes a DEFLATE stream holds; bytes after its last block are not read. -/
def inflate (data : List UInt8) : Option (List UInt8) :=
  let s : Bits := { data := data.toArray }
  (blocks (s.left + 1) s #[]).map Array.toList

end ClassMetrics.Inflate
