import ClassMetrics.Decimal.Shortest

/-!
Decimals with a fixed number of places, rounded from the exact binary value of a double to
the nearest, a tie going to the even last digit. The sign of a negative value is kept even
when the rounded digits are all zero.
-/

namespace ClassMetrics.Decimal

/-- `num / den` rounded to the nearest natural number, a tie going to the even one. -/
def roundDiv (num den : Nat) : Nat :=
  let q := num / den
  let r := num % den
  if 2 * r > den then q + 1
  else if 2 * r < den then q
  else if q % 2 = 0 then q
  else q + 1

/-- `x * 10 ^ places` rounded to the nearest natural number, ties to even. -/
def Binary.scaledRound (x : Binary) (places : Nat) : Nat :=
  roundDiv (x.m * 2 ^ x.q.toNat * 10 ^ places) (2 ^ (-x.q).toNat)

/-- Left-pads a digit string with zeros to `width` characters. -/
def padZeros (width : Nat) (s : List Char) : List Char :=
  List.replicate (width - s.length) '0' ++ s

/-- The positional text of a non-negative value with `places` digits after the point. -/
def Binary.fixedText (x : Binary) (places : Nat) : String :=
  let n := x.scaledRound places
  let whole := Nat.toDigits 10 (n / 10 ^ places)
  if places = 0 then String.ofList whole
  else String.ofList (whole ++ '.' :: padZeros places (Nat.toDigits 10 (n % 10 ^ places)))

/-- Whether a double is NaN, read off its bits. -/
def isNaNBits (b : UInt64) : Bool :=
  (b >>> 52) &&& 0x7FF = 0x7FF && b &&& 0xFFFFFFFFFFFFF ≠ 0

/-- Whether a double is infinite, read off its bits. -/
def isInfBits (b : UInt64) : Bool :=
  (b >>> 52) &&& 0x7FF = 0x7FF && b &&& 0xFFFFFFFFFFFFF = 0

/-- Whether the sign bit of a double is set. -/
def isNegBits (b : UInt64) : Bool := b >>> 63 = 1

/-- A double with `places` digits after the point; NaN and the infinities are named. -/
def fixed (places : Nat) (x : Float) : String :=
  let b := x.toBits
  let sign := if isNegBits b then "-" else ""
  if isNaNBits b then "NaN"
  else if isInfBits b then sign ++ "inf"
  else sign ++ (Binary.ofBits b).fixedText places

end ClassMetrics.Decimal
