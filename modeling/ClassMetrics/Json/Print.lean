import ClassMetrics.Json.Basic
import ClassMetrics.Decimal.Shortest
import ClassMetrics.Decimal.Fixed
import ClassMetrics.Text.Hex

/-!
Writing JSON text, compact or indented by two spaces a level. A double is written with its
shortest digits; strings escape the quote, the backslash and control characters only.
-/

namespace ClassMetrics.Json

open ClassMetrics.Decimal

/-- `n` zeros. -/
def zeros (n : Nat) : List Char := List.replicate n '0'

/-- The layout of a non-zero double's shortest digits `ds * 10 ^ k`. The leading digit's
exponent is `ds.length + k - 1`: from -5 to 15 the number is written positionally, with `.0`
after a whole number; otherwise in scientific form, `e` and the exponent with its sign. -/
def layout (ds : List Char) (k : Int) : String :=
  let n : Int := ds.length
  let kk := n + k
  if 0 ≤ k ∧ kk ≤ 16 then String.ofList (ds ++ zeros k.toNat ++ ['.', '0'])
  else if 0 < kk ∧ kk ≤ 16 then String.ofList (ds.take kk.toNat ++ '.' :: ds.drop kk.toNat)
  else if -5 < kk ∧ kk ≤ 0 then String.ofList (['0', '.'] ++ zeros (-kk).toNat ++ ds)
  else
    let mantissa := match ds with
      | [d] => [d]
      | d :: rest => d :: '.' :: rest
      | [] => []
    String.ofList mantissa ++ "e" ++ (if kk - 1 < 0 then "-" else "+") ++ toString (kk - 1).natAbs

/-- The JSON text of a double; NaN and the infinities have none and are written `null`. -/
def floatText (x : Float) : String :=
  let b := x.toBits
  if isNaNBits b || isInfBits b then "null"
  else
    let sign := if isNegBits b then "-" else ""
    let v := Binary.ofBits b
    if v.m = 0 then sign ++ "0.0"
    else
      let d := v.shortest
      sign ++ layout (Nat.toDigits 10 d.digits) d.exp

/-- Escapes one character of a string. -/
def escapeChar (c : Char) : List Char :=
  if c = '"' then ['\\', '"']
  else if c = '\\' then ['\\', '\\']
  else if c = '\n' then ['\\', 'n']
  else if c = '\r' then ['\\', 'r']
  else if c = '\t' then ['\\', 't']
  else if c = '\x08' then ['\\', 'b']
  else if c = '\x0c' then ['\\', 'f']
  else if c.toNat < 0x20 then
    ['\\', 'u', '0', '0', Hex.digit (c.toNat / 16), Hex.digit (c.toNat % 16)]
  else [c]

/-- A string as a JSON string literal. -/
def quote (s : String) : String :=
  String.ofList ('"' :: s.toList.flatMap escapeChar ++ ['"'])

namespace Value

/-- Compact text: no blanks at all. -/
def render : Value → String
  | .null => "null"
  | .bool b => if b then "true" else "false"
  | .int n => toString n
  | .float x => floatText x
  | .str s => quote s
  | .arr xs => "[" ++ ",".intercalate (xs.map render) ++ "]"
  | .obj fs =>
    "\x7b" ++ ",".intercalate (fs.attach.map fun ⟨kv, h⟩ =>
      have := sizeOf_snd_lt_of_mem h
      quote kv.1 ++ ":" ++ render kv.2) ++ "\x7d"

/-- Indented text: each item and member on its own line, two spaces a level, a blank after
each colon, and empty arrays and objects written `[]` and `{}`. -/
def pretty (depth : Nat) : Value → String
  | .arr [] => "[]"
  | .obj [] => "\x7b\x7d"
  | .arr xs =>
    let pad := String.ofList (List.replicate (2 * (depth + 1)) ' ')
    "[\n" ++ ",\n".intercalate (xs.map fun x => pad ++ pretty (depth + 1) x) ++ "\n" ++
      String.ofList (List.replicate (2 * depth) ' ') ++ "]"
  | .obj fs =>
    let pad := String.ofList (List.replicate (2 * (depth + 1)) ' ')
    "\x7b\n" ++ ",\n".intercalate (fs.attach.map fun ⟨kv, h⟩ =>
      have := sizeOf_snd_lt_of_mem h
      pad ++ quote kv.1 ++ ": " ++ pretty (depth + 1) kv.2) ++
      "\n" ++ String.ofList (List.replicate (2 * depth) ' ') ++ "\x7d"
  | v => render v
termination_by v => v

end Value

end ClassMetrics.Json
