import ClassMetrics.Prelude

/-!
Packed tables of code points. A packed table writes numbers one after the other, each in
lowercase hexadecimal with its last digit written `g` to `v` in place of `0` to `f`, so that no
blank is needed between them. A table of a set lists run lengths, alternately outside and inside
the set, from code point 0 on. A table of a property that gives every code point one value names
its values once and lists runs, each as a length and the place of its value among the names.
Both read into ranges of code points, each range given by its first and its last code point.
-/

namespace ClassMetrics.Unicode

/-- The value of a lowercase hexadecimal digit. -/
def hexDigit? (c : Char) : Option Nat :=
  if '0' ≤ c ∧ c ≤ '9' then some (c.toNat - '0'.toNat)
  else if 'a' ≤ c ∧ c ≤ 'f' then some (c.toNat - 'a'.toNat + 10)
  else none

/-- The number that lowercase hexadecimal digits write; no digit at all writes zero. -/
def hexValue (ds : List Char) : Nat :=
  ds.foldl (fun n d => 16 * n + (hexDigit? d).getD 0) 0

/-- The value of a digit that ends a number of a packed table: `g` to `v` for 0 to 15. -/
def lastDigit? (c : Char) : Option Nat :=
  if 'g' ≤ c ∧ c ≤ 'v' then some (c.toNat - 'g'.toNat) else none

/-- The numbers of a packed table, the digits read so far of the first one making `n`. -/
def numbersFrom : Nat → List Char → List Nat
  | _, [] => []
  | n, c :: cs =>
    match lastDigit? c with
    | some d => (16 * n + d) :: numbersFrom 0 cs
    | none => numbersFrom (16 * n + (hexDigit? c).getD 0) cs

/-- The numbers of a packed table. -/
def numbers (text : String) : List Nat := numbersFrom 0 text.toList

/-- The ranges inside a set, from its run lengths; the first run starts at `start`, inside the
set when `inside` holds. -/
def insideRuns : Nat → Bool → List Nat → List (Nat × Nat)
  | _, _, [] => []
  | start, inside, n :: rest =>
    let later := insideRuns (start + n) (!inside) rest
    if inside ∧ n > 0 then (start, start + n - 1) :: later else later

/-- The ranges of a set table. -/
def setRanges (text : String) : List (Nat × Nat) :=
  insideRuns 0 false (numbers text)

/-- A run of code points that share the value of a property. -/
structure Run where
  first : Nat
  last : Nat
  value : String
  deriving Repr

/-- A table of a property that gives every code point one value: the names of the values,
separated by blanks, and the runs. -/
structure RunTable where
  names : String
  runs : String

/-- The runs of a value table from code point `start` on, from the lengths and places of its
runs. -/
def valueRunsFrom (names : List String) : Nat → List Nat → List Run
  | start, n :: v :: rest =>
    ⟨start, start + n - 1, names.getD v ""⟩ :: valueRunsFrom names (start + n) rest
  | _, _ => []

/-- The runs of a value table. -/
def valueRuns (table : RunTable) : List Run :=
  valueRunsFrom ((table.names.splitOn " ").filter fun w => !w.isEmpty) 0 (numbers table.runs)

/-- The ranges where a property has one of some values. -/
def rangesWhere (runs : List Run) (values : List String) : List (Nat × Nat) :=
  (runs.filter fun r => values.contains r.value).map fun r => (r.first, r.last)

/-- Code points written in hexadecimal and joined by dots, one group per word. -/
def groups (text : String) : List (List Nat) :=
  ((text.splitOn " ").filter fun w => !w.isEmpty).map fun w => (w.splitOn ".").map (hexValue ·.toList)

/-- Whether a code point lies in one of some sorted, disjoint ranges, by halving the part of the
array where it may lie, from index `lo` to before index `hi`. -/
def containsBetween (rs : Array (Nat × Nat)) (n : Nat) (lo hi : Nat) : Bool :=
  if _h : lo < hi then
    let mid := (lo + hi) / 2
    match rs[mid]? with
    | some (a, b) =>
      if n < a then containsBetween rs n lo mid
      else if b < n then containsBetween rs n (mid + 1) hi
      else true
    | none => false
  else false
termination_by hi - lo

/-- Whether a code point lies in one of some sorted, disjoint ranges. -/
def containsSorted (rs : Array (Nat × Nat)) (n : Nat) : Bool := containsBetween rs n 0 rs.size

end ClassMetrics.Unicode
