import ClassMetrics.Unicode.Property

/-!
Sets of characters for patterns, as sorted ranges of code points that neither overlap nor touch.
Characters are Unicode scalar values, but ranges touch only when their code points do: U+D7FF and
U+E000 stay two ranges, though no character lies between them. The complement steps over the
surrogates from range to range, so where one range ends at U+D7FF and the next starts at U+E000
the gap between them comes out reversed, and is taken as the range from U+D7FF to U+E000: the
complement then holds both ends. Such a complement is left as it comes out; any later union
joins its ranges again. Beside union, complement, intersection and differences, a set can be
closed under simple case folding,
and the named classes come in two kinds: the Unicode ones (word characters, decimal digits, white
space) and the ASCII ones that the bracket names `[:alpha:]` and the like stand for.
-/

namespace ClassMetrics.Pattern

open ClassMetrics.Unicode

/-- The largest code point. -/
def maxCode : Nat := 0x10FFFF

/-- The next scalar value after a code point, stepping over the surrogates. -/
def nextScalar (n : Nat) : Nat := if n = 0xD7FF then 0xE000 else n + 1

/-- The scalar value before a code point, stepping over the surrogates. -/
def prevScalar (n : Nat) : Nat := if n = 0xE000 then 0xD7FF else n - 1

/-- A set of characters as ranges of code points, both ends included. -/
structure CharClass where
  ranges : List (Nat × Nat)
  deriving DecidableEq, Repr, Inhabited, Hashable

/-- Joins sorted ranges that overlap or whose code points touch. -/
def mergeSorted : List (Nat × Nat) → List (Nat × Nat)
  | [] => []
  | [r] => [r]
  | (a, b) :: (c, d) :: rest =>
    if c ≤ b + 1 then mergeSorted ((a, max b d) :: rest)
    else (a, b) :: mergeSorted ((c, d) :: rest)
termination_by rs => rs.length

/-- The ranges sorted by their start and joined where they meet. -/
def normalize (rs : List (Nat × Nat)) : List (Nat × Nat) :=
  mergeSorted ((rs.filter fun r => r.1 ≤ r.2).mergeSort fun x y => x.1 ≤ y.1)

namespace CharClass

/-- The empty set. -/
def none : CharClass := ⟨[]⟩

/-- Every character. -/
def all : CharClass := ⟨[(0, maxCode)]⟩

/-- The set of some ranges of code points, in any order. -/
def ofRanges (rs : List (Nat × Nat)) : CharClass := ⟨normalize rs⟩

/-- The characters from `lo` to `hi`. -/
def range (lo hi : Nat) : CharClass := ofRanges [(lo, hi)]

/-- One character. -/
def single (c : Char) : CharClass := ⟨[(c.toNat, c.toNat)]⟩

/-- Whether a code point is in the set. -/
def containsCode (s : CharClass) (n : Nat) : Bool := s.ranges.any fun r => r.1 ≤ n && n ≤ r.2

/-- Whether a character is in the set. -/
def contains (s : CharClass) (c : Char) : Bool := s.containsCode c.toNat

/-- Characters in either set. -/
def union (s t : CharClass) : CharClass := ofRanges (s.ranges ++ t.ranges)

/-- A range from two ends in either order. -/
def spanning (a b : Nat) : Nat × Nat := (min a b, max a b)

/-- The gaps between consecutive ranges and after the last, each from the scalar value after a
range to the one before the next. -/
def gapsAfter : List (Nat × Nat) → List (Nat × Nat)
  | [] => []
  | [(_, b)] => if b < maxCode then [(nextScalar b, maxCode)] else []
  | (_, b) :: (c, d) :: rest => spanning (nextScalar b) (prevScalar c) :: gapsAfter ((c, d) :: rest)

/-- Characters not in the set: the scalar values before its first range, then the gaps after
each range. -/
def complement (s : CharClass) : CharClass :=
  match s.ranges with
  | [] => all
  | (a, b) :: rest =>
    ⟨(if 0 < a then [(0, prevScalar a)] else []) ++ gapsAfter ((a, b) :: rest)⟩

/-- The parts of a range outside some sorted ranges, stepping over the surrogates at each cut. -/
def cut (lo hi : Nat) : List (Nat × Nat) → List (Nat × Nat)
  | [] => [(lo, hi)]
  | (a, b) :: rest =>
    if b < lo then cut lo hi rest
    else if hi < a then [(lo, hi)]
    else
      (if lo < a then [(lo, prevScalar a)] else []) ++
        (if b < hi then cut (nextScalar b) hi rest else [])

/-- Characters in both sets. -/
def inter (s t : CharClass) : CharClass :=
  let s := ofRanges s.ranges
  let t := ofRanges t.ranges
  ofRanges (s.ranges.flatMap fun (a, b) => t.ranges.filterMap fun (c, d) =>
    if max a c ≤ min b d then some (max a c, min b d) else Option.none)

/-- Characters in the first set and not the second. -/
def diff (s t : CharClass) : CharClass :=
  let t := ofRanges t.ranges
  ofRanges ((ofRanges s.ranges).ranges.flatMap fun (a, b) => cut a b t.ranges)

/-- Characters in exactly one of the sets: those in either that are not in both. -/
def symmDiff (s t : CharClass) : CharClass := (s.union t).diff (s.inter t)

/-- Whether every character of the set is ASCII. -/
def isAscii (s : CharClass) : Bool := s.ranges.all fun r => r.2 ≤ 0x7F

/-- The one character of a set of one character. -/
def single? (s : CharClass) : Option Char :=
  match s.ranges with
  | [(a, b)] => if a = b then some (Char.ofNat a) else Option.none
  | _ => Option.none

/-- The set with every character equal to one of its members under simple case folding. -/
def foldCase (s : CharClass) : CharClass :=
  let mates := foldClasses.filter fun g => g.any s.containsCode
  ofRanges (s.ranges ++ mates.flatMap fun g => g.map fun n => (n, n))

/-- Whether some member of the set has another case. -/
def hasFolding (s : CharClass) : Bool := foldClasses.any fun g => g.any s.containsCode

/-- The set with the other case of each ASCII letter added. -/
def foldAscii (s : CharClass) : CharClass :=
  let shifted := s.ranges.flatMap fun (lo, hi) =>
    let lower := (max lo 0x61, min hi 0x7A)
    let upper := (max lo 0x41, min hi 0x5A)
    (if lower.1 ≤ lower.2 then [(lower.1 - 32, lower.2 - 32)] else []) ++
      (if upper.1 ≤ upper.2 then [(upper.1 + 32, upper.2 + 32)] else [])
  ofRanges (s.ranges ++ shifted)

/-- The bytes not in a set of bytes: its complement within 0 to 0xFF. -/
def complementByte (s : CharClass) : CharClass := (range 0 0xFF).diff s

/-- Decimal digits: the category `Nd`. -/
def digit : CharClass := ofRanges (categoryRanges ["Nd"])

/-- White space, as Unicode defines it. -/
def space : CharClass := ofRanges ((propertyRanges? "White_Space").getD [])

/-- Word characters: alphabetic characters, marks, decimal digits, connector punctuation and
the joining controls. -/
def word : CharClass :=
  ofRanges ((propertyRanges? "Alphabetic").getD [] ++ categoryRanges ["M", "Nd", "Pc"] ++
    (propertyRanges? "Join_Control").getD [])

/-- The ASCII class of a name, as written between `[:` and `:]`. -/
def ascii? : String → Option CharClass
  | "alnum" => some (ofRanges [(0x30, 0x39), (0x41, 0x5A), (0x61, 0x7A)])
  | "alpha" => some (ofRanges [(0x41, 0x5A), (0x61, 0x7A)])
  | "ascii" => some (range 0 0x7F)
  | "blank" => some (ofRanges [(0x09, 0x09), (0x20, 0x20)])
  | "cntrl" => some (ofRanges [(0, 0x1F), (0x7F, 0x7F)])
  | "digit" => some (range 0x30 0x39)
  | "graph" => some (range 0x21 0x7E)
  | "lower" => some (range 0x61 0x7A)
  | "print" => some (range 0x20 0x7E)
  | "punct" => some (ofRanges [(0x21, 0x2F), (0x3A, 0x40), (0x5B, 0x60), (0x7B, 0x7E)])
  | "space" => some (ofRanges [(0x09, 0x0D), (0x20, 0x20)])
  | "upper" => some (range 0x41 0x5A)
  | "word" => some (ofRanges [(0x30, 0x39), (0x41, 0x5A), (0x5F, 0x5F), (0x61, 0x7A)])
  | "xdigit" => some (ofRanges [(0x30, 0x39), (0x41, 0x46), (0x61, 0x66)])
  | _ => Option.none

end CharClass

/-- The word characters as a sorted array, for quick membership. -/
def wordRanges : Array (Nat × Nat) := CharClass.word.ranges.toArray

/-- Whether a character is a word character in the Unicode sense. -/
def isWordChar (c : Char) : Bool := containsSorted wordRanges c.toNat

/-- Whether a character is an ASCII word character: a letter, a digit or an underscore. -/
def isAsciiWordChar (c : Char) : Bool := c.isAlphanum || c == '_'

end ClassMetrics.Pattern
