import ClassMetrics.Prelude

/-!
Modified UTF-8, the string encoding of class files. Text is first split into UTF-16 units;
each unit is written in one, two or three bytes, with the unit zero taking two bytes so that no
encoded string holds a zero byte, and a character outside the basic plane becomes its two
surrogate units, each written on its own. Decoding reads the units back and pairs the
surrogates; an unpaired surrogate is refused.
-/

namespace ClassMetrics.ModifiedUtf8

/-- Reads UTF-16 units from bytes. The lead byte gives the length; continuation bytes
contribute their low six bits unchecked, and overlong forms are read like any other. -/
def units : List UInt8 → Option (List Nat)
  | [] => some []
  | a :: rest =>
    if a.toNat &&& 0x80 = 0 then (units rest).map (a.toNat :: ·)
    else if a.toNat &&& 0xE0 = 0xC0 then
      match rest with
      | b :: rest' => (units rest').map
          ((((a.toNat &&& 0x1F) <<< 6) ||| (b.toNat &&& 0x3F)) :: ·)
      | [] => none
    else if a.toNat &&& 0xF0 = 0xE0 then
      match rest with
      | b :: c :: rest' => (units rest').map
          ((((a.toNat &&& 0x0F) <<< 12) ||| ((b.toNat &&& 0x3F) <<< 6) ||| (c.toNat &&& 0x3F)) :: ·)
      | _ => none
    else none

/-- Whether a unit is the first half of a surrogate pair. -/
def isHighSurrogate (u : Nat) : Bool := 0xD800 ≤ u && u ≤ 0xDBFF

/-- Whether a unit is the second half of a surrogate pair. -/
def isLowSurrogate (u : Nat) : Bool := 0xDC00 ≤ u && u ≤ 0xDFFF

/-- Joins UTF-16 units into characters; a surrogate that is not part of a pair is refused. -/
def joinUnits : List Nat → Option (List Char)
  | [] => some []
  | u :: rest =>
    if isHighSurrogate u then
      match rest with
      | v :: rest' =>
        if isLowSurrogate v then
          (joinUnits rest').map (Char.ofNat (0x10000 + (u - 0xD800) * 0x400 + (v - 0xDC00)) :: ·)
        else none
      | [] => none
    else if isLowSurrogate u then none
    else (joinUnits rest).map (Char.ofNat u :: ·)

/-- The text that modified UTF-8 bytes encode, if they encode one. -/
def decode (bytes : List UInt8) : Option String :=
  (units bytes).bind joinUnits |>.map String.ofList

/-- The UTF-16 units of a character: itself below the supplementary planes, else a pair. -/
def charUnits (c : Char) : List Nat :=
  if c.toNat < 0x10000 then [c.toNat]
  else [0xD800 + (c.toNat - 0x10000) / 0x400, 0xDC00 + (c.toNat - 0x10000) % 0x400]

/-- The bytes of one UTF-16 unit: one byte for 1 to 0x7F, two up to 0x7FF and for zero,
three above. -/
def encodeUnit (u : Nat) : List UInt8 :=
  if 1 ≤ u ∧ u ≤ 0x7F then [u.toUInt8]
  else if u ≤ 0x7FF then [(0xC0 ||| (u >>> 6)).toUInt8, (0x80 ||| (u &&& 0x3F)).toUInt8]
  else [(0xE0 ||| (u >>> 12)).toUInt8, (0x80 ||| ((u >>> 6) &&& 0x3F)).toUInt8,
    (0x80 ||| (u &&& 0x3F)).toUInt8]

/-- The modified UTF-8 bytes of a text. -/
def encode (s : String) : List UInt8 :=
  (s.toList.flatMap charUnits).flatMap encodeUnit

end ClassMetrics.ModifiedUtf8
