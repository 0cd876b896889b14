import ClassMetrics.Pattern.CharClass

/-!
A pattern after its flags have been applied: literals, classes of characters, conditions on
positions, repetitions with their bounds, capturing groups, concatenations and alternations.
The constructors here keep expressions in a normal form: a class of one character is a literal,
an empty class never matches, adjacent literals of a concatenation are joined, nested
concatenations and alternations are flattened, an alternation of classes or single characters
is one class (of characters, though some were read as bytes), and the branches of an
alternation that all begin alike have that beginning factored out. Lengths are counted in UTF-8 bytes.
-/

namespace ClassMetrics.Pattern

/-- The kinds of word boundary. -/
inductive WordLook
  | boundary
  | notBoundary
  | start
  | finish
  | startHalf
  | finishHalf
  deriving DecidableEq, Repr

/-- A condition on a position: the start or end of the text, the start or end of a line (with
`\r\n` counted as one line end where `crlf` holds), or a word boundary, with word characters in
the Unicode sense or the ASCII one. -/
inductive Look
  | textStart
  | textEnd
  | lineStart (crlf : Bool)
  | lineEnd (crlf : Bool)
  | word (kind : WordLook) (unicode : Bool)
  deriving DecidableEq, Repr

/-- A pattern with its flags applied. -/
inductive Expr
  | empty
  | literal (cs : List Char)
  /-- A class of characters; `bytes` marks one read where Unicode is off, which is another
  expression than the same class read where it is on. -/
  | chars (c : CharClass) (bytes : Bool)
  | look (l : Look)
  | repetition (min : Nat) (max : Option Nat) (greedy : Bool) (sub : Expr)
  | capture (index : Nat) (sub : Expr)
  | concat (items : List Expr)
  | alternation (branches : List Expr)
  deriving Repr, Inhabited

/-- The number of bytes of a character in UTF-8. -/
def utf8Width (n : Nat) : Nat :=
  if n < 0x80 then 1 else if n < 0x800 then 2 else if n < 0x10000 then 3 else 4

/-- The number of bytes of some characters in UTF-8. -/
def utf8Length (cs : List Char) : Nat := (cs.map fun c => utf8Width c.toNat).sum

/-- The expression that never matches: the empty class. -/
def Expr.fail : Expr := .chars CharClass.none false

mutual

/-- The fewest bytes a match can have; none when the expression never matches. -/
def Expr.minLen : Expr → Option Nat
  | .empty => some 0
  | .literal cs => some (utf8Length cs)
  | .chars c _ => c.ranges.head?.map fun r => utf8Width r.1
  | .look _ => some 0
  | .repetition min _ _ sub => sub.minLen.map (· * min)
  | .capture _ sub => sub.minLen
  | .concat items => Expr.minLenSum items
  | .alternation branches => Expr.minLenLeast branches none

/-- The fewest bytes of a concatenation. -/
def Expr.minLenSum : List Expr → Option Nat
  | [] => some 0
  | e :: rest => do
    let a ← e.minLen
    let b ← Expr.minLenSum rest
    pure (a + b)

/-- The fewest bytes of an alternation; a branch that never matches makes it unknown. -/
def Expr.minLenLeast : List Expr → Option Nat → Option Nat
  | [], acc => acc
  | e :: rest, acc =>
    match e.minLen with
    | none => none
    | some n => Expr.minLenLeast rest (some (match acc with | some m => min m n | none => n))

end

mutual

/-- The most bytes a match can have; none when unbounded or when it never matches. -/
def Expr.maxLen : Expr → Option Nat
  | .empty => some 0
  | .literal cs => some (utf8Length cs)
  | .chars c _ => c.ranges.getLast?.map fun r => utf8Width r.2
  | .look _ => some 0
  | .repetition _ max _ sub => do
    let m ← max
    let n ← sub.maxLen
    pure (n * m)
  | .capture _ sub => sub.maxLen
  | .concat items => Expr.maxLenSum items
  | .alternation branches => Expr.maxLenMost branches none

/-- The most bytes of a concatenation. -/
def Expr.maxLenSum : List Expr → Option Nat
  | [] => some 0
  | e :: rest => do
    let a ← e.maxLen
    let b ← Expr.maxLenSum rest
    pure (a + b)

/-- The most bytes of an alternation; a branch that is unbounded makes it unbounded. -/
def Expr.maxLenMost : List Expr → Option Nat → Option Nat
  | [], acc => acc
  | e :: rest, acc =>
    match e.maxLen with
    | none => none
    | some n => Expr.maxLenMost rest (some (match acc with | some m => max m n | none => n))

end

/-- Whether the expression can only match the empty string. -/
def Expr.onlyEmpty (e : Expr) : Bool := e.maxLen == some 0

mutual

/-- Whether every match must start at the start of the text. -/
def Expr.anchoredStart : Expr → Bool
  | .look l => l == .textStart
  | .repetition min _ _ sub => min > 0 && sub.anchoredStart
  | .capture _ sub => sub.anchoredStart
  | .concat items => Expr.anchoredStartSeq items
  | .alternation branches => Expr.anchoredStartAll branches
  | _ => false

/-- Whether a concatenation must start at the start of the text: one of its items up to the
first that can match more than the empty string must. -/
def Expr.anchoredStartSeq : List Expr → Bool
  | [] => false
  | e :: rest => e.anchoredStart || (e.onlyEmpty && Expr.anchoredStartSeq rest)

/-- Whether every branch must start at the start of the text. -/
def Expr.anchoredStartAll : List Expr → Bool
  | [] => true
  | e :: rest => e.anchoredStart && Expr.anchoredStartAll rest

end

mutual

/-- Whether every match must end at the end of the text. -/
def Expr.anchoredEnd : Expr → Bool
  | .look l => l == .textEnd
  | .repetition min _ _ sub => min > 0 && sub.anchoredEnd
  | .capture _ sub => sub.anchoredEnd
  | .concat items => (Expr.anchoredEndSeq items).1
  | .alternation branches => Expr.anchoredEndAll branches
  | _ => false

/-- Whether a concatenation must end at the end of the text, read from its last item back to
the first that can match more than the empty string; and whether all its items can only match
the empty string. -/
def Expr.anchoredEndSeq : List Expr → Bool × Bool
  | [] => (false, true)
  | e :: rest =>
    let (anchored, allEmpty) := Expr.anchoredEndSeq rest
    if allEmpty then (anchored || e.anchoredEnd, e.onlyEmpty) else (anchored, false)

/-- Whether every branch must end at the end of the text. -/
def Expr.anchoredEndAll : List Expr → Bool
  | [] => true
  | e :: rest => e.anchoredEnd && Expr.anchoredEndAll rest

end

mutual

/-- Whether two expressions are the same. -/
def Expr.same : Expr → Expr → Bool
  | .empty, .empty => true
  | .literal a, .literal b => a == b
  | .chars a x, .chars b y => a == b && x == y
  | .look a, .look b => a == b
  | .repetition m n g a, .repetition m' n' g' b => m == m' && n == n' && g == g' && Expr.same a b
  | .capture i a, .capture j b => i == j && Expr.same a b
  | .concat xs, .concat ys => Expr.sameAll xs ys
  | .alternation xs, .alternation ys => Expr.sameAll xs ys
  | _, _ => false

/-- Whether two lists of expressions are the same, item by item. -/
def Expr.sameAll : List Expr → List Expr → Bool
  | [], [] => true
  | x :: xs, y :: ys => Expr.same x y && Expr.sameAll xs ys
  | _, _ => false

end

/-- A class as an expression, read as bytes or not: the empty class never matches, and a class
of one character is that character. -/
def Expr.ofClass (c : CharClass) (bytes : Bool) : Expr :=
  match c.single? with
  | some ch => .literal [ch]
  | none => .chars c bytes

/-- Some characters as an expression; none at all is the empty expression. -/
def Expr.ofLiteral (cs : List Char) : Expr := if cs.isEmpty then .empty else .literal cs

/-- A repetition: one that can only match the empty string repeats at most once, none at all is
the empty expression, and exactly once is the expression itself. -/
def Expr.rep (min : Nat) (max : Option Nat) (greedy : Bool) (sub : Expr) : Expr :=
  let (min, max) := if sub.onlyEmpty then (Nat.min min 1, some ((max.map (Nat.min · 1)).getD 1))
    else (min, max)
  if min == 0 && max == some 0 then .empty
  else if min == 1 && max == some 1 then sub
  else .repetition min max greedy sub

/-- Adds an item to a concatenation being built, joining literals. -/
def pushItem (acc : Array Expr) (pending : Array Char) (e : Expr) : Array Expr × Array Char :=
  match e with
  | .literal cs => (acc, pending ++ cs.toArray)
  | .empty => (acc, pending)
  | e => ((if pending.isEmpty then acc else acc.push (.literal pending.toList)).push e, #[])

/-- A concatenation: nested concatenations are flattened, empty items dropped and adjacent
literals joined; no item is the empty expression and one item is that item. -/
def Expr.cat (items : List Expr) : Expr :=
  let (acc, pending) := items.foldl (fun (acc, pending) e =>
    match e with
    | .concat inner => inner.foldl (fun (acc, pending) x => pushItem acc pending x) (acc, pending)
    | e => pushItem acc pending e) (#[], #[])
  let all := if pending.isEmpty then acc else acc.push (.literal pending.toList)
  match all.toList with
  | [] => .empty
  | [e] => e
  | es => .concat es

/-- The characters of branches that are all single characters. -/
def singleChars : List Expr → Option (List Char)
  | [] => some []
  | .literal [c] :: rest => (singleChars rest).map (c :: ·)
  | _ => none

/-- The union of branches that are all classes, read as bytes or not. -/
def classUnion : List Expr → Option CharClass
  | [] => some CharClass.none
  | .chars c _ :: rest => (classUnion rest).map c.union
  | _ => none

/-- The items of concatenations, or none when some expression is no concatenation. -/
def concatItems : List Expr → Option (List (List Expr))
  | [] => some []
  | .concat xs :: rest => (concatItems rest).map (xs :: ·)
  | _ => none

/-- The number of leading items two lists share. -/
def commonPrefixLength : List Expr → List Expr → Nat
  | x :: xs, y :: ys => if x.same y then commonPrefixLength xs ys + 1 else 0
  | _, _ => 0

/-- An alternation: nested alternations are flattened; no branch never matches and one branch is
that branch; branches that are all single characters, or all classes, are one class; and when
every branch is a concatenation and all begin with the same items, those items are factored out
in front of the alternation of the rest. The fuel bounds the factoring, which shortens every
branch. -/
def Expr.altWith : Nat → List Expr → Expr
  | fuel, branches =>
    let flat := branches.flatMap fun
      | .alternation bs => bs
      | e => [e]
    match flat with
    | [] => Expr.fail
    | [e] => e
    | _ =>
      match singleChars flat with
      | some cs => Expr.ofClass (CharClass.ofRanges (cs.map fun c => (c.toNat, c.toNat))) false
      | none =>
        match classUnion flat with
        | some c => Expr.ofClass c false
        | none =>
          match fuel, concatItems flat with
          | fuel + 1, some (first :: rest) =>
            let common := rest.foldl (fun n xs => Nat.min n (commonPrefixLength first xs)) first.length
            if common == 0 then .alternation flat
            else
              let suffixes := (first :: rest).map fun xs => Expr.cat (xs.drop common)
              Expr.cat (first.take common ++ [Expr.altWith fuel suffixes])
          | _, _ => .alternation flat

/-- The size of an expression, a bound for factoring its alternations. -/
def Expr.size : Expr → Nat
  | .repetition _ _ _ sub => sub.size + 1
  | .capture _ sub => sub.size + 1
  | .concat items => (items.attach.map fun ⟨e, _⟩ => e.size).sum + 1
  | .alternation bs => (bs.attach.map fun ⟨e, _⟩ => e.size).sum + 1
  | _ => 1

/-- An alternation of branches, in normal form. -/
def Expr.alt (branches : List Expr) : Expr :=
  Expr.altWith ((branches.map Expr.size).sum + 1) branches

end ClassMetrics.Pattern
