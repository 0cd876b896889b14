import ClassMetrics.Pattern.Parse
import ClassMetrics.Pattern.Lower
import ClassMetrics.Pattern.Footprint

/-!
Matching a pattern somewhere in a text. A pattern is parsed and its flags applied; it is refused
when it does not parse, when its flags do not apply, or when either automaton it compiles to
passes the size limit. It is then compiled to a program of instructions that read a character,
fork, test a position, or accept. The text is read once while every live thread of the program
moves along it together, a fresh thread starting at each position; a thread that meets an
instruction another thread already reached at the same position is dropped, so each position
costs at most one visit of every instruction.
-/

namespace ClassMetrics.Pattern

/-- An instruction of a compiled pattern; `next` is the instruction that follows. A class is
kept as its sorted ranges, searched by halving. -/
inductive Inst
  | char (c : Char) (next : Nat)
  | consume (ranges : Array (Nat × Nat)) (next : Nat)
  | split (a b : Nat)
  | look (l : Look) (next : Nat)
  | accept
  deriving Inhabited

/-- Appends instructions reading some characters, the last first, that continue at `next`, and
gives the entry. -/
def compileChars : List Char → Nat → Array Inst → Array Inst × Nat
  | [], next, prog => (prog, next)
  | c :: rest, next, prog => compileChars rest prog.size (prog.push (.char c next))

mutual

/-- Appends the instructions of an expression that continue at `next`, and gives its entry. -/
def Expr.compile (e : Expr) (next : Nat) (prog : Array Inst) : Array Inst × Nat :=
  match e with
  | .empty => (prog, next)
  | .literal cs => compileChars cs.reverse next prog
  | .chars c _ => let entry := prog.size; (prog.push (.consume c.ranges.toArray next), entry)
  | .look l => let entry := prog.size; (prog.push (.look l next), entry)
  | .capture _ sub => sub.compile next prog
  | .concat items => compileSeq items next prog
  | .alternation branches => compileAlts branches next prog
  | .repetition min max _ sub =>
    let (prog, tail) := match max with
      | none => compileStar sub next prog
      | some h => compileOptionals sub (h - min) next next prog
    compileCopies sub min tail prog
termination_by (sizeOf e, 0)

/-- The items of a concatenation, one after the other. -/
def compileSeq (items : List Expr) (next : Nat) (prog : Array Inst) : Array Inst × Nat :=
  match items with
  | [] => (prog, next)
  | e :: rest =>
    let (prog, entry) := compileSeq rest next prog
    e.compile entry prog
termination_by (sizeOf items, 0)

/-- The branches of an alternation, forking to each in order. -/
def compileAlts (branches : List Expr) (next : Nat) (prog : Array Inst) : Array Inst × Nat :=
  match branches with
  | [] => let entry := prog.size; (prog.push (.consume #[] next), entry)
  | [b] => b.compile next prog
  | b :: rest =>
    let (prog, first) := b.compile next prog
    let (prog, others) := compileAlts rest next prog
    let entry := prog.size
    (prog.push (.split first others), entry)
termination_by (sizeOf branches, 0)

/-- Any number of matches: a fork into the body, which returns to the fork, or on. -/
def compileStar (body : Expr) (next : Nat) (prog : Array Inst) : Array Inst × Nat :=
  let fork := prog.size
  let (prog, entry) := body.compile fork (prog.push (.split fork next))
  (prog.set! fork (.split entry next), fork)
termination_by (sizeOf body, 1)

/-- Up to `k` more matches, each optional: every one may skip to `finish`. -/
def compileOptionals (body : Expr) (k finish next : Nat) (prog : Array Inst) :
    Array Inst × Nat :=
  match k with
  | 0 => (prog, next)
  | k + 1 =>
    let (prog, entry) := body.compile next prog
    compileOptionals body k finish prog.size (prog.push (.split entry finish))
termination_by (sizeOf body, k + 1)

/-- Exactly `k` matches in a row. -/
def compileCopies (body : Expr) (k next : Nat) (prog : Array Inst) : Array Inst × Nat :=
  match k with
  | 0 => (prog, next)
  | k + 1 =>
    let (prog, entry) := body.compile next prog
    compileCopies body k entry prog
termination_by (sizeOf body, k + 1)

end

/-- A compiled pattern: its instructions and where it starts; instruction 0 accepts. -/
structure Program where
  insts : Array Inst
  start : Nat

/-- Compiles an expression, ending in the accepting instruction. -/
def Program.ofExpr (e : Expr) : Program :=
  let (insts, start) := e.compile 0 #[.accept]
  ⟨insts, start⟩

/-- The characters on both sides of a position. -/
structure Position where
  before : Option Char
  after : Option Char

/-- Whether a word boundary of some kind lies between a character that is or is not a word
character and one after it that is or is not. -/
def WordLook.holds : WordLook → Bool → Bool → Bool
  | .boundary, b, a => b != a
  | .notBoundary, b, a => b == a
  | .start, b, a => !b && a
  | .finish, b, a => b && !a
  | .startHalf, b, _ => !b
  | .finishHalf, _, a => !a

/-- Whether a condition holds at a position. A line starts after `\n`, and with `crlf` also
after a `\r` that no `\n` follows; a line ends before `\n`, and with `crlf` also before `\r`,
but not between a `\r` and a `\n`. -/
def Look.holds (l : Look) (p : Position) : Bool :=
  match l with
  | .textStart => p.before.isNone
  | .textEnd => p.after.isNone
  | .lineStart crlf =>
    match p.before with
    | none => true
    | some '\n' => true
    | some '\r' => crlf && p.after != some '\n'
    | _ => false
  | .lineEnd crlf =>
    match p.after with
    | none => true
    | some '\r' => crlf
    | some '\n' => !crlf || p.before != some '\r'
    | _ => false
  | .word kind unicode =>
    let isWord := fun (c : Option Char) => c.any (if unicode then isWordChar else isAsciiWordChar)
    kind.holds (isWord p.before) (isWord p.after)

namespace Program

/-- Every instruction reachable from the pending ones without reading a character, each marked
with the stamp of the position as it is first reached; the instructions that read a character
are gathered. -/
def closure (prog : Program) (p : Position) (stamp : Nat) :
    Nat → List Nat → Array Nat → Array Nat → Array Nat × Array Nat
  | 0, _, marks, readers => (marks, readers)
  | _, [], marks, readers => (marks, readers)
  | fuel + 1, pc :: work, marks, readers =>
    if marks.getD pc stamp == stamp then prog.closure p stamp fuel work marks readers
    else
      let marks := marks.set! pc stamp
      match prog.insts[pc]? with
      | some (.split a b) => prog.closure p stamp fuel (a :: b :: work) marks readers
      | some (.look l n) =>
        prog.closure p stamp fuel (if l.holds p then n :: work else work) marks readers
      | some (.char _ _) | some (.consume _ _) =>
        prog.closure p stamp fuel work marks (readers.push pc)
      | _ => prog.closure p stamp fuel work marks readers

/-- The threads that read a character, at the instruction after it. -/
def advance (prog : Program) (readers : Array Nat) (c : Char) : Array Nat :=
  readers.filterMap fun pc => match (prog.insts[pc]? : Option Inst) with
    | some (.char d n) => if c == d then some n else none
    | some (.consume rs n) => if Unicode.containsSorted rs c.toNat then some n else none
    | _ => none

/-- Whether a match ends at or after this position, given the threads that reached it; the
stamps of the positions count up from `stamp`. -/
def search (prog : Program) (stamp : Nat) (before : Option Char) (rest : List Char)
    (pending : Array Nat) (marks : Array Nat) : Bool :=
  let (marks, readers) := prog.closure ⟨before, rest.head?⟩ stamp
    (3 * prog.insts.size + pending.size + 2) (prog.start :: pending.toList) marks #[]
  if marks.getD 0 0 == stamp then true
  else match rest with
    | [] => false
    | c :: rest => prog.search (stamp + 1) (some c) rest (prog.advance readers c) marks

end Program

/-- A pattern ready to match: refused when it does not parse, when its flags do not apply, or
when it is too large. -/
def compilePattern (pattern : String) : Option Program :=
  match Ast.parse pattern with
  | .error _ => none
  | .ok ast =>
    match ast.toExpr with
    | .error _ => none
    | .ok e => if e.fitsLimit then some (Program.ofExpr e) else none

/-- Whether the pattern matches somewhere in a text. -/
def Program.isMatch (prog : Program) (text : String) : Bool :=
  prog.search 1 none text.toList #[] (Array.replicate prog.insts.size 0)

end ClassMetrics.Pattern
