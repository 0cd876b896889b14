import ClassMetrics.Prelude

/-!
Hexadecimal text of numbers and byte strings, in lower-case digits.
-/

namespace ClassMetrics.Hex

/-- The lower-case hexadecimal digit of a value below sixteen. -/
def digit (n : Nat) : Char :=
  if n < 10 then Char.ofNat (48 + n) else Char.ofNat (87 + n)

/-- The hexadecimal digits of `n`, most significant first, at least `width` of them. -/
def digits (width n : Nat) : List Char :=
  go width n []
where
  /-- Emits the low digit of `n` in front of `acc` until `n` and the width are used up. -/
  go : Nat → Nat → List Char → List Char
    | 0, 0, acc => acc
    | 0, n + 1, acc => go 0 ((n + 1) / 16) (digit ((n + 1) % 16) :: acc)
    | w + 1, n, acc => go w (n / 16) (digit (n % 16) :: acc)
  termination_by w n => (w, n)
  decreasing_by
    all_goals simp_wf
    · right
      omega
    · left
      omega

/-- `n` as `0x` followed by at least `width` lower-case hexadecimal digits. -/
def prefixed (width n : Nat) : String :=
  "0x" ++ String.ofList (digits width n)

/-- A byte string as two lower-case hexadecimal digits a byte. -/
def ofBytes (bytes : List UInt8) : String :=
  String.ofList (bytes.flatMap fun b => [digit (b.toNat / 16), digit (b.toNat % 16)])

/-- The value of one hexadecimal digit of either case. -/
def digitValue? (c : Char) : Option Nat :=
  if '0' ≤ c ∧ c ≤ '9' then some (c.toNat - 48)
  else if 'a' ≤ c ∧ c ≤ 'f' then some (c.toNat - 87)
  else if 'A' ≤ c ∧ c ≤ 'F' then some (c.toNat - 55)
  else none

/-- Reads pairs of hexadecimal digits as bytes; an odd count or a stray character is refused. -/
def toBytes? : List Char → Option (List UInt8)
  | [] => some []
  | [_] => none
  | a :: b :: rest => do
    let hi ← digitValue? a
    let lo ← digitValue? b
    let tail ← toBytes? rest
    pure ((hi * 16 + lo).toUInt8 :: tail)

end ClassMetrics.Hex
