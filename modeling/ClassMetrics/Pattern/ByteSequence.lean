import ClassMetrics.Prelude

/-!
The UTF-8 encodings of a range of scalar values, as sequences of byte ranges. A range is cut
where the encoding length changes, at the surrogates, and where the leading bytes of its ends
differ in a way no single sequence of byte ranges can follow; each piece then matches exactly
the byte strings whose bytes lie, position by position, between the encodings of its two ends.
The pieces come out in increasing order of their code points.
-/

namespace ClassMetrics.Pattern

/-- The UTF-8 encoding of a code point. -/
def utf8Encode (n : Nat) : List Nat :=
  if n < 0x80 then [n]
  else if n < 0x800 then [0xC0 + n / 0x40, 0x80 + n % 0x40]
  else if n < 0x10000 then [0xE0 + n / 0x1000, 0x80 + n / 0x40 % 0x40, 0x80 + n % 0x40]
  else [0xF0 + n / 0x40000, 0x80 + n / 0x1000 % 0x40, 0x80 + n / 0x40 % 0x40, 0x80 + n % 0x40]

/-- The UTF-8 encoding of some characters. -/
def utf8EncodeAll (cs : List Char) : List Nat := cs.flatMap fun c => utf8Encode c.toNat

/-- The largest code point of each UTF-8 length below four bytes. -/
def lengthLimits : List Nat := [0x7F, 0x7FF, 0xFFFF]

/-- Cuts a range where the encoding length changes inside it. -/
def cutAtLength (s e : Nat) : Option ((Nat × Nat) × (Nat × Nat)) :=
  match lengthLimits.find? fun m => s ≤ m ∧ m < e with
  | some m => some ((s, m), (m + 1, e))
  | none => none

/-- Cuts a range whose ends differ above the low `6 * i` bits, so that the low bits of the first
piece start at zero or those of the last piece end at all ones. -/
def cutAtAlignment (s e : Nat) : Option ((Nat × Nat) × (Nat × Nat)) :=
  go [1, 2, 3]
where
  go : List Nat → Option ((Nat × Nat) × (Nat × Nat))
    | [] => none
    | i :: rest =>
      let block := 2 ^ (6 * i)
      if s / block ≠ e / block then
        if s % block ≠ 0 then
          let top := s - s % block + (block - 1)
          some ((s, top), (top + 1, e))
        else if e % block ≠ block - 1 then
          let bottom := e - e % block
          some ((s, bottom - 1), (bottom, e))
        else go rest
      else go rest

/-- The byte ranges of the encodings of the pieces on a stack, top first; every round cuts a
piece in two or puts one out. -/
def sequencesOf : Nat → List (Nat × Nat) → List (List (Nat × Nat)) → List (List (Nat × Nat))
  | 0, _, out => out
  | _, [], out => out
  | fuel + 1, (s, e) :: stack, out =>
    if s < 0xE000 ∧ e > 0xD7FF then sequencesOf fuel ((s, 0xD7FF) :: (0xE000, e) :: stack) out
    else if s > e then sequencesOf fuel stack out
    else
      match cutAtLength s e with
      | some (a, b) => sequencesOf fuel (a :: b :: stack) out
      | none =>
        if e ≤ 0x7F then sequencesOf fuel stack (out ++ [[(s, e)]])
        else
          match cutAtAlignment s e with
          | some (a, b) => sequencesOf fuel (a :: b :: stack) out
          | none => sequencesOf fuel stack (out ++ [(utf8Encode s).zip (utf8Encode e)])

/-- The sequences of byte ranges whose byte strings are the UTF-8 encodings of the scalar values
from `lo` to `hi`. -/
def byteSequences (lo hi : Nat) : List (List (Nat × Nat)) := sequencesOf 256 [(lo, hi)] []

end ClassMetrics.Pattern
