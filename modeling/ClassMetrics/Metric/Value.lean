import ClassMetrics.Metric.Basic
import ClassMetrics.Decimal.Fixed
import ClassMetrics.Json.Basic

/-!
Measure values: integers (64-bit, adding with wrap-around), doubles, partitions of members
into blocks, and distributions. A distribution counts values in buckets that start at
ascending limits; a value goes to the last bucket whose limit it reaches and is dropped below
the first.
-/

namespace ClassMetrics

/-- Counts of values per bucket; bucket `i` starts at `limits[i]`. -/
structure Distribution where
  limits : List Nat
  counts : List Nat
  deriving DecidableEq, Repr

namespace Distribution

/-- No values yet. -/
def empty (limits : List Nat) : Distribution := ⟨limits, limits.map fun _ => 0⟩

/-- The last bucket whose limit the value reaches. -/
def bucket? (limits : List Nat) (v : Int) : Option Nat :=
  let hits := (List.range limits.length).filter fun i => (limits.getD i 0 : Int) ≤ v
  hits.getLast?

/-- Counts one more value in its bucket, if it has one. -/
def add (d : Distribution) (v : Int) : Distribution :=
  match bucket? d.limits v with
  | some i => { d with counts := d.counts.modify i (· + 1) }
  | none => d

/-- Adds the counts of a distribution over the same limits; other limits change nothing. -/
def merge (d e : Distribution) : Distribution :=
  if d.limits = e.limits then { d with counts := List.zipWith (· + ·) d.counts e.counts } else d

/-- The number of values counted. -/
def total (d : Distribution) : Nat := d.counts.sum

/-- The text `limit=count` for each bucket, joined by `;`. -/
def display (d : Distribution) : String :=
  ";".intercalate (List.zipWith (fun l c => toString l ++ "=" ++ toString c) d.limits d.counts)

/-- The distribution as JSON. -/
def toJson (d : Distribution) : Json.Value :=
  .obj [("limits", .arr (d.limits.map fun (l : Nat) => .int l)),
    ("counts", .arr (d.counts.map fun (c : Nat) => .int c))]

end Distribution

/-- A 64-bit two's-complement integer from an unbounded one, by wrap-around. -/
def wrap64 (v : Int) : Int := Int.bmod v (2 ^ 64)

/-- The value of a metric at a node. -/
inductive MeasureValue
  | int (v : Int)
  | double (x : Float)
  | blocks (bs : List (List String))
  | distribution (d : Distribution)
  deriving Repr, Inhabited

namespace MeasureValue

/-- A double from a 64-bit integer, rounded to nearest. -/
def intToFloat (v : Int) : Float :=
  if v ≥ 0 then Float.ofNat v.toNat else -Float.ofNat v.natAbs

/-- The value as a double, for numbers. -/
def asFloat? : MeasureValue → Option Float
  | .int v => some (intToFloat v)
  | .double x => some x
  | _ => none

/-- The value as an integer, for integers only. -/
def asInt? : MeasureValue → Option Int
  | .int v => some v
  | _ => none

/-- The sum of two numbers: an integer when both are, else a double; nothing for other
values. -/
def add (a b : MeasureValue) : Option MeasureValue :=
  match a, b with
  | .int x, .int y => some (.int (wrap64 (x + y)))
  | _, _ => do
    let x ← a.asFloat?
    let y ← b.asFloat?
    pure (.double (x + y))

/-- The text of a value in reports: doubles with one decimal place. -/
def display : MeasureValue → String
  | .int v => toString v
  | .double x => Decimal.fixed 1 x
  | .blocks bs => toString bs.length ++ " blocks"
  | .distribution d => d.display

/-- The value as JSON, without a tag. -/
def toJson : MeasureValue → Json.Value
  | .int v => .int v
  | .double x => .float x
  | .blocks bs => .arr (bs.map Json.Value.ofStrings)
  | .distribution d => d.toJson

end MeasureValue

end ClassMetrics
