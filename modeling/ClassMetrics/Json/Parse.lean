import ClassMetrics.Json.Basic

/-!
Reading JSON text. The grammar is the standard one: no trailing commas, no comments, control
characters only escaped, and a `\u` escape of a surrogate must pair with the next one. An
integer literal too large for 64 bits, and `-0`, are read as doubles; a number too large for a
double is refused, and one too small becomes zero.
-/

namespace ClassMetrics.Json

/-- The characters JSON treats as blank between tokens. -/
def isBlank (c : Char) : Bool := c = ' ' || c = '\t' || c = '\n' || c = '\r'

/-- Drops blanks from the front. -/
def skipBlank (cs : List Char) : List Char := cs.dropWhile isBlank

/-- The value of a hexadecimal digit of either case. -/
def hexDigit? (c : Char) : Option Nat :=
  if '0' ≤ c ∧ c ≤ '9' then some (c.toNat - 48)
  else if 'a' ≤ c ∧ c ≤ 'f' then some (c.toNat - 87)
  else if 'A' ≤ c ∧ c ≤ 'F' then some (c.toNat - 55)
  else none

/-- The number four hexadecimal digits write. -/
def hex4? (a b c d : Char) : Option Nat := do
  pure ((((← hexDigit? a) * 16 + (← hexDigit? b)) * 16 + (← hexDigit? c)) * 16 + (← hexDigit? d))

/-- The character of a simple escape. -/
def simpleEscape? : Char → Option Char
  | '"' => some '"'
  | '\\' => some '\\'
  | '/' => some '/'
  | 'b' => some '\x08'
  | 'f' => some '\x0c'
  | 'n' => some '\n'
  | 'r' => some '\r'
  | 't' => some '\t'
  | _ => none

/-- Reads the rest of a string after its opening quote; `acc` holds the characters read so
far, last first. -/
def readString (acc : List Char) : List Char → Option (String × List Char)
  | [] => none
  | '"' :: rest => some (String.ofList acc.reverse, rest)
  | '\\' :: 'u' :: a :: b :: c :: d :: rest =>
    match hex4? a b c d with
    | none => none
    | some u =>
      if 0xD800 ≤ u ∧ u ≤ 0xDBFF then
        match rest with
        | '\\' :: 'u' :: e :: f :: g :: h :: rest' =>
          match hex4? e f g h with
          | some v =>
            if 0xDC00 ≤ v ∧ v ≤ 0xDFFF then
              readString (Char.ofNat (0x10000 + (u - 0xD800) * 0x400 + (v - 0xDC00)) :: acc) rest'
            else none
          | none => none
        | _ => none
      else if 0xDC00 ≤ u ∧ u ≤ 0xDFFF then none
      else readString (Char.ofNat u :: acc) rest
  | '\\' :: e :: rest =>
    match simpleEscape? e with
    | some c => readString (c :: acc) rest
    | none => none
  | c :: rest => if c.toNat < 0x20 then none else readString (c :: acc) rest

/-- The largest 64-bit unsigned number: significands grow no further. -/
def u64Max : Nat := 2 ^ 64 - 1

/-- The largest 32-bit signed number: exponents grow no further. -/
def i32Max : Nat := 2 ^ 31 - 1

/-- A power of ten as a double, correctly rounded. -/
def powerOfTen (k : Nat) : Float := Float.ofScientific 1 false k

/-- Clamps an exponent to the 32-bit signed range. -/
def clampExponent (e : Int) : Int := max (-(i32Max : Int) - 1) (min e i32Max)

/-- Scales a double by a power of ten: multiplied by or divided by the power as a double, in
one rounded step; a power below 10^-308 divides by 10^308 first until it is in range or the
value is zero. A positive power beyond 10^308, or a product that overflows, is refused. -/
def scale (f : Float) (exp : Int) : Nat → Option Float
  | 0 => some f
  | fuel + 1 =>
    if exp.natAbs ≤ 308 then
      if exp ≥ 0 then
        let g := f * powerOfTen exp.toNat
        if g.isInf then none else some g
      else some (f / powerOfTen exp.natAbs)
    else if f == 0.0 then some f
    else if exp ≥ 0 then none
    else scale (f / powerOfTen 308) (exp + 308) fuel

/-- A number from its significand and decimal exponent: the significand is converted to a
double, then scaled. Two roundings, so the last bit may differ from the nearest double. -/
def fromParts (neg : Bool) (sig : Nat) (exp : Int) : Option Value :=
  (scale (Float.ofNat sig) exp 4).map fun f => .float (if neg then -f else f)

/-- The number of digits at the front, and the rest. -/
def countDigits : List Char → Nat × List Char
  | c :: r => if c.isDigit then let (n, r') := countDigits r; (n + 1, r') else (0, c :: r)
  | [] => (0, [])

/-- Reads exponent digits onto `acc`; `none` when the exponent passes the 32-bit range. -/
def exponentDigits (acc : Nat) : List Char → Option Nat × List Char
  | c :: r =>
    if c.isDigit then
      let d := c.toNat - 48
      if acc * 10 + d > i32Max then (none, (countDigits r).2)
      else exponentDigits (acc * 10 + d) r
    else (some acc, c :: r)
  | [] => (some acc, [])

/-- Reads an exponent after its `e` and finishes the number. An exponent beyond the 32-bit
range gives zero when it is negative or the significand is zero, and is refused otherwise. -/
def readExponentPart (neg : Bool) (sig : Nat) (start : Int) (cs : List Char) :
    Option (Value × List Char) :=
  let (expNeg, cs) : Bool × List Char := match cs with
    | '+' :: r => (false, r)
    | '-' :: r => (true, r)
    | _ => (false, cs)
  match cs with
  | c :: r =>
    if !c.isDigit then none
    else
      match exponentDigits (c.toNat - 48) r with
      | (some e, rest) =>
        let e := clampExponent (if expNeg then start - e else start + e)
        (fromParts neg sig e).map (·, rest)
      | (none, rest) =>
        if sig ≠ 0 && !expNeg then none else some (.float (if neg then -0.0 else 0.0), rest)
  | [] => none

/-- Reads fraction digits onto the significand; past 64 bits the remaining digits are
skipped. Returns the significand, how many digits it took, and whether it stopped early. -/
def fractionDigits (sig taken : Nat) : List Char → Nat × Nat × Bool × List Char
  | c :: r =>
    if c.isDigit then
      let d := c.toNat - 48
      if sig * 10 + d > u64Max then (sig, taken, true, (countDigits r).2)
      else fractionDigits (sig * 10 + d) (taken + 1) r
    else (sig, taken, false, c :: r)
  | [] => (sig, taken, false, [])

/-- Finishes a number after its significand: an exponent part, or nothing more. -/
def finish (neg : Bool) (sig : Nat) (exp : Int) (cs : List Char) : Option (Value × List Char) :=
  match cs with
  | c :: r => if c = 'e' ∨ c = 'E' then readExponentPart neg sig exp r
      else (fromParts neg sig exp).map (·, cs)
  | [] => (fromParts neg sig exp).map (·, [])

/-- Reads a fraction after its point and finishes the number; a point needs a digit. -/
def readFractionPart (neg : Bool) (sig : Nat) (before : Int) (cs : List Char) :
    Option (Value × List Char) :=
  let (sig', taken, stopped, rest) := fractionDigits sig 0 cs
  if !stopped && taken = 0 then none
  else finish neg sig' (before - taken) rest

/-- An integer literal as a value: an integer when it fits in 64 bits, else a double; `-0`
is the double negative zero. -/
def integerValue (neg : Bool) (n : Nat) : Value :=
  if neg then
    if n = 0 then .float (-0.0)
    else if n ≤ 2 ^ 63 then .int (-(n : Int))
    else .float (-(Float.ofNat n))
  else .int n

/-- Reads integer digits onto the significand; when it would pass 64 bits, the remaining
digits raise the exponent instead and the number becomes a double. -/
def integerDigits (neg : Bool) (sig : Nat) : List Char → Option (Value × List Char)
  | c :: r =>
    if c.isDigit then
      let d := c.toNat - 48
      if sig * 10 + d > u64Max then
        let (dropped, rest) := countDigits (c :: r)
        match rest with
        | '.' :: r' => readFractionPart neg sig dropped r'
        | _ => finish neg sig dropped rest
      else integerDigits neg (sig * 10 + d) r
    else
      match c with
      | '.' => readFractionPart neg sig 0 r
      | 'e' | 'E' => readExponentPart neg sig 0 r
      | _ => some (integerValue neg sig, c :: r)
  | [] => some (integerValue neg sig, [])

/-- Reads a number: an optional minus, an integer part without leading zeros, then an
optional fraction and exponent. An integer literal that fits in 64 bits stays an integer. -/
def readNumber (cs : List Char) : Option (Value × List Char) :=
  let neg := cs.head? = some '-'
  let cs := if neg then cs.drop 1 else cs
  match cs with
  | '0' :: r =>
    match r with
    | c :: _ => if c.isDigit then none else integerDigits neg 0 r
    | [] => some (integerValue neg 0, [])
  | c :: r => if c.isDigit then integerDigits neg (c.toNat - 48) r else none
  | [] => none

mutual

/-- Reads one value after optional blanks; `fuel` bounds the nesting and the number of items,
and twice the length of the text is enough. -/
def readValue : Nat → List Char → Option (Value × List Char)
  | 0, _ => none
  | fuel + 1, cs =>
    match skipBlank cs with
    | 'n' :: 'u' :: 'l' :: 'l' :: r => some (.null, r)
    | 't' :: 'r' :: 'u' :: 'e' :: r => some (.bool true, r)
    | 'f' :: 'a' :: 'l' :: 's' :: 'e' :: r => some (.bool false, r)
    | '"' :: r => (readString [] r).map fun (s, r') => (.str s, r')
    | '[' :: r =>
      match skipBlank r with
      | ']' :: r' => some (.arr [], r')
      | _ => (readItems fuel [] r).map fun (xs, r') => (.arr xs, r')
    | '{' :: r =>
      match skipBlank r with
      | '}' :: r' => some (.obj [], r')
      | _ => (readMembers fuel [] r).map fun (fs, r') => (.obj fs, r')
    | c :: r => if c = '-' ∨ c.isDigit then readNumber (c :: r) else none
    | [] => none

/-- Reads array items up to the closing bracket; `acc` holds the items so far, last first. -/
def readItems : Nat → List Value → List Char → Option (List Value × List Char)
  | 0, _, _ => none
  | fuel + 1, acc, cs =>
    match readValue fuel cs with
    | some (v, r) =>
      match skipBlank r with
      | ',' :: r' => readItems fuel (v :: acc) r'
      | ']' :: r' => some ((v :: acc).reverse, r')
      | _ => none
    | none => none

/-- Reads object members up to the closing brace; `acc` holds the members so far, last
first. -/
def readMembers : Nat → List (String × Value) → List Char →
    Option (List (String × Value) × List Char)
  | 0, _, _ => none
  | fuel + 1, acc, cs =>
    match skipBlank cs with
    | '"' :: r =>
      match readString [] r with
      | some (k, r1) =>
        match skipBlank r1 with
        | ':' :: r2 =>
          match readValue fuel r2 with
          | some (v, r3) =>
            match skipBlank r3 with
            | ',' :: r4 => readMembers fuel ((k, v) :: acc) r4
            | '}' :: r4 => some (((k, v) :: acc).reverse, r4)
            | _ => none
          | none => none
        | _ => none
      | none => none
    | _ => none

end

/-- Reads a whole text as one JSON value; only blanks may surround it. -/
def parse (text : String) : Option Value :=
  let cs := text.toList
  match readValue (2 * cs.length + 2) cs with
  | some (v, rest) => if (skipBlank rest).isEmpty then some v else none
  | none => none

end ClassMetrics.Json
