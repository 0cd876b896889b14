import ClassMetrics.Prelude

/-!
Shortest decimal digits of a binary64 value. The reals that round to a finite value form an
interval around it, ends included when its significand is even; the digits chosen are those
of a decimal in that interval with as few significant digits as possible, and of two such
decimals the nearer one, a tie going to the even digit string. All of it is exact arithmetic
on naturals.
-/

namespace ClassMetrics.Decimal

/-- A finite non-negative binary64 value, `m * 2 ^ q`. -/
structure Binary where
  m : Nat
  q : Int
  /-- The gap to the value below is half the gap to the value above. -/
  narrowBelow : Bool
  deriving Repr, DecidableEq

/-- The magnitude of a finite value from its bits; the sign bit is ignored. -/
def Binary.ofBits (b : UInt64) : Binary :=
  let e := ((b >>> 52) &&& 0x7FF).toNat
  let f := (b &&& 0xFFFFFFFFFFFFF).toNat
  if e = 0 then ⟨f, -1074, false⟩ else ⟨2 ^ 52 + f, (e : Int) - 1075, f = 0 && e > 1⟩

/-- A decimal `digits * 10 ^ exp`. -/
structure Dec where
  digits : Nat
  exp : Int
  deriving Repr, DecidableEq

/-- Compares `a * 10 ^ i` with `n * 2 ^ j` exactly. -/
def cmpScaled (a : Nat) (i : Int) (n : Nat) (j : Int) : Ordering :=
  compare (a * 10 ^ i.toNat * 2 ^ (-j).toNat) (n * 2 ^ j.toNat * 10 ^ (-i).toNat)

/-- Whether a decimal lies among the reals that round to `x`, to nearest with ties to even. -/
def Binary.readsBack (x : Binary) (d : Dec) : Bool :=
  let lo := if x.narrowBelow then 4 * x.m - 1 else 4 * x.m - 2
  let hi := 4 * x.m + 2
  let incl := x.m % 2 = 0
  let cl := cmpScaled d.digits d.exp lo (x.q - 2)
  let ch := cmpScaled d.digits d.exp hi (x.q - 2)
  (cl = .gt || (incl && cl = .eq)) && (ch = .lt || (incl && ch = .eq))

/-- The greatest multiple of `10 ^ g` not above `x`, counted in units of `10 ^ g`. -/
def Binary.floorAt (x : Binary) (g : Int) : Nat :=
  (x.m * 2 ^ x.q.toNat * 10 ^ (-g).toNat) / (2 ^ (-x.q).toNat * 10 ^ g.toNat)

/-- An estimate of the decimal scale of `x` from its binary logarithm, off by at most one. -/
def Binary.scaleEstimate (x : Binary) : Int :=
  ((Nat.log2 x.m : Int) + x.q) * 78913 / 262144 + 1

/-- The least `k` with `x < 10 ^ k`, for a non-zero `x`: the number of digits before the
point when `k` is positive. -/
def Binary.scale (x : Binary) : Int :=
  let est := x.scaleEstimate
  let candidates := (List.range 6).map fun (i : Nat) => est - 2 + (i : Int)
  (candidates.find? fun k => cmpScaled 1 k x.m x.q = .gt).getD (est + 4)

/-- Of the two neighbours of `x` on the grid `10 ^ g`, the one that reads back, the nearer
if both do, and the even one on an exact tie. -/
def Binary.pickAt (x : Binary) (g : Int) : Option Dec :=
  let lo := x.floorAt g
  let hi := lo + 1
  let loOk := x.readsBack ⟨lo, g⟩
  let hiOk := x.readsBack ⟨hi, g⟩
  if loOk && hiOk then
    match cmpScaled (2 * lo + 1) g (2 * x.m) x.q with
    | .gt => some ⟨lo, g⟩
    | .lt => some ⟨hi, g⟩
    | .eq => if lo % 2 = 0 then some ⟨lo, g⟩ else some ⟨hi, g⟩
  else if loOk then some ⟨lo, g⟩
  else if hiOk then some ⟨hi, g⟩
  else none

/-- Moves trailing zeros of the digits into the exponent. -/
def Dec.strip (d : Dec) : Dec :=
  go 20 d
where
  /-- Strips at most `fuel` zeros. -/
  go : Nat → Dec → Dec
    | 0, d => d
    | fuel + 1, d =>
      if d.digits ≠ 0 ∧ d.digits % 10 = 0 then go fuel ⟨d.digits / 10, d.exp + 1⟩ else d

/-- The exact decimal value of `x`, which always reads back. -/
def Binary.exact (x : Binary) : Dec :=
  if x.q ≥ 0 then ⟨x.m * 2 ^ x.q.toNat, 0⟩
  else ⟨x.m * 5 ^ (-x.q).toNat, x.q⟩

/-- The shortest decimal that reads back as `x`: grids of one to seventeen significant digits
are tried in turn, and the first with a hit wins. -/
def Binary.shortest (x : Binary) : Dec :=
  if x.m = 0 then ⟨0, 0⟩
  else
    let k := x.scale
    let grids := (List.range 17).map fun (n : Nat) => k - 1 - (n : Int)
    match grids.findSome? x.pickAt with
    | some d => d.strip
    | none => x.exact.strip

/-- The decimal digits of a natural number, most significant first. -/
def digitsOf (n : Nat) : List Char :=
  Nat.toDigits 10 n

end ClassMetrics.Decimal
