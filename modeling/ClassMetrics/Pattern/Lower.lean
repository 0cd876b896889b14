import ClassMetrics.Pattern.Ast
import ClassMetrics.Pattern.Expr
import ClassMetrics.Pattern.PropertyClass

/-!
From the syntax tree to an expression, applying the flags. A flag group sets its flags for the
rest of the group it stands in, alternatives after it included; a group with flags sets them for
its contents only. With case ignored, a literal becomes the class of the characters equal to it
under simple case folding, and a bracket class, a Unicode class or an ASCII class is closed under
case folding before it is negated. With Unicode off, classes and case folding are those of ASCII,
and anything that could match a byte that is not UTF-8 is refused: the dot, a negated class, a
byte above 0x7F, and `\B`; Unicode classes are refused there too.
-/

namespace ClassMetrics.Pattern

/-- The flags in force. -/
structure Flags where
  caseInsensitive : Bool := false
  multiLine : Bool := false
  dotMatchesNewLine : Bool := false
  swapGreed : Bool := false
  unicode : Bool := true
  crlf : Bool := false
  deriving Repr

/-- The flags after a list of flag items: the flags before a dash are set, those after it
cleared. -/
def Flags.apply (f : Flags) (items : List FlagItem) : Flags :=
  (items.foldl (fun (f, on) item =>
    match item with
    | .negation => (f, false)
    | .flag .caseInsensitive => ({ f with caseInsensitive := on }, on)
    | .flag .multiLine => ({ f with multiLine := on }, on)
    | .flag .dotMatchesNewLine => ({ f with dotMatchesNewLine := on }, on)
    | .flag .swapGreed => ({ f with swapGreed := on }, on)
    | .flag .unicode => ({ f with unicode := on }, on)
    | .flag .crlf => ({ f with crlf := on }, on)
    | .flag .ignoreWhitespace => (f, on)) (f, true)).1

/-- The character a literal stands for; a byte above 0x7F written with `\x` where Unicode is off
is refused, while a larger value written so is a character. -/
def literalChar (f : Flags) (l : Literal) : Except PatternError Char :=
  if !f.unicode && l.byte && 0x7F < l.c.toNat && l.c.toNat ≤ 0xFF then .error .notUtf8 else .ok l.c

/-- Closes a class under case folding where case is ignored, then negates it; where Unicode is
off, both stay within bytes and the result must be ASCII. -/
def foldAndNegate (f : Flags) (negated : Bool) (c : CharClass) : Except PatternError CharClass :=
  if f.unicode then
    let c := if f.caseInsensitive then c.foldCase else c
    .ok (if negated then c.complement else c)
  else
    let c := if f.caseInsensitive then c.foldAscii else c
    let c := if negated then c.complementByte else c
    if c.isAscii then .ok c else .error .notUtf8

/-- The class of a Perl escape; where Unicode is off it is ASCII, and negating it is refused. -/
def perlClass (f : Flags) (k : PerlClass) (negated : Bool) : Except PatternError CharClass :=
  if f.unicode then
    let c := match k with
      | .digit => CharClass.digit
      | .space => CharClass.space
      | .word => CharClass.word
    .ok (if negated then c.complement else c)
  else
    let name := match k with
      | .digit => "digit"
      | .space => "space"
      | .word => "word"
    if negated then .error .notUtf8 else .ok ((CharClass.ascii? name).getD CharClass.none)

/-- The class of a Unicode escape, closed under case folding where case is ignored and then
negated; refused where Unicode is off. -/
def unicodeClass (f : Flags) (q : UnicodeQuery) (negated : Bool) : Except PatternError CharClass :=
  if !f.unicode then .error .unicodeOff
  else do
    let c ← q.toClass
    foldAndNegate f (negated != q.negates) c

/-- The class of an ASCII class name, closed under case folding and negated as the flags say. -/
def asciiClass (f : Flags) (name : String) (negated : Bool) : Except PatternError CharClass :=
  foldAndNegate f negated ((CharClass.ascii? name).getD CharClass.none)

/-- A character of a class where Unicode is off: it must be ASCII. -/
def classChar (f : Flags) (l : Literal) : Except PatternError Nat := do
  let c ← literalChar f l
  if !f.unicode && c.toNat > 0x7F then throw .unicodeOff
  pure c.toNat

mutual

/-- The characters of a class item. -/
def ClassItem.lower (f : Flags) : ClassItem → Except PatternError CharClass
  | .empty => .ok CharClass.none
  | .literal l => do
    let n ← classChar f l
    pure (CharClass.range n n)
  | .range lo hi => do
    let a ← classChar f lo
    let b ← classChar f hi
    pure (CharClass.range a b)
  | .ascii name negated => asciiClass f name negated
  | .unicode q negated => unicodeClass f q negated
  | .perl k negated => perlClass f k negated
  | .bracketed negated set => do
    let c ← set.lower f
    foldAndNegate f negated c
  | .union items => ClassItem.lowerAll f items

/-- The union of the characters of some class items. -/
def ClassItem.lowerAll (f : Flags) : List ClassItem → Except PatternError CharClass
  | [] => .ok CharClass.none
  | i :: rest => do
    let a ← i.lower f
    let b ← ClassItem.lowerAll f rest
    pure (a.union b)

/-- The characters of the contents of a bracket class; where case is ignored, both sides of a
set operation are closed under case folding first. Every item joins the set with its ranges
merged, a complement among them too. -/
def ClassSet.lower (f : Flags) : ClassSet → Except PatternError CharClass
  | .item i => do
    let c ← i.lower f
    pure (CharClass.ofRanges c.ranges)
  | .op kind lhs rhs => do
    let l ← lhs.lower f
    let r ← rhs.lower f
    let fold := fun (c : CharClass) =>
      if !f.caseInsensitive then c else if f.unicode then c.foldCase else c.foldAscii
    let (l, r) := (fold l, fold r)
    pure (match kind with
      | .intersection => l.inter r
      | .difference => l.diff r
      | .symmetricDifference => l.symmDiff r)

end

/-- A literal as an expression: where case is ignored, the class of the characters equal to it
under case folding, when there is another. -/
def literalExpr (f : Flags) (l : Literal) : Except PatternError Expr := do
  let c ← literalChar f l
  if !f.caseInsensitive then return .literal [c]
  let single := CharClass.single c
  if f.unicode then
    pure (if single.hasFolding then Expr.ofClass single.foldCase false else .literal [c])
  else
    pure (if c.isAlpha then Expr.ofClass single.foldAscii true else .literal [c])

/-- The dot: any character but the line end, or any at all with the flag `s`; refused where
Unicode is off. -/
def dotExpr (f : Flags) : Except PatternError Expr :=
  if !f.unicode then .error .notUtf8
  else if f.dotMatchesNewLine then .ok (Expr.ofClass CharClass.all false)
  else if f.crlf then
    .ok (Expr.ofClass (CharClass.ofRanges [(0x0A, 0x0A), (0x0D, 0x0D)]).complement false)
  else .ok (Expr.ofClass (CharClass.single '\n').complement false)

/-- An assertion as a condition on positions, as the flags shape it; `\B` is refused where
Unicode is off. -/
def assertionLook (f : Flags) : Assertion → Except PatternError Look
  | .startLine => .ok (if f.multiLine then .lineStart f.crlf else .textStart)
  | .endLine => .ok (if f.multiLine then .lineEnd f.crlf else .textEnd)
  | .startText => .ok .textStart
  | .endText => .ok .textEnd
  | .wordBoundary => .ok (.word .boundary f.unicode)
  | .notWordBoundary => if f.unicode then .ok (.word .notBoundary true) else .error .notUtf8
  | .wordStart => .ok (.word .start f.unicode)
  | .wordEnd => .ok (.word .finish f.unicode)
  | .wordStartHalf => .ok (.word .startHalf f.unicode)
  | .wordEndHalf => .ok (.word .finishHalf f.unicode)

/-- The bounds of a repetition. -/
def Repeat.bounds : Repeat → Nat × Option Nat
  | .zeroOrOne => (0, some 1)
  | .zeroOrMore => (0, none)
  | .oneOrMore => (1, none)
  | .exactly n => (n, some n)
  | .atLeast n => (n, none)
  | .between m n => (m, some n)

mutual

/-- A syntax tree as an expression, with the flags in force after it. -/
def Ast.lower (f : Flags) : Ast → Except PatternError (Expr × Flags)
  | .empty => .ok (.empty, f)
  | .flags items => .ok (.empty, f.apply items)
  | .literal l => do pure (← literalExpr f l, f)
  | .dot => do pure (← dotExpr f, f)
  | .assertion a => do pure (.look (← assertionLook f a), f)
  | .perl k negated => do pure (Expr.ofClass (← perlClass f k negated) !f.unicode, f)
  | .unicode q negated => do pure (Expr.ofClass (← unicodeClass f q negated) false, f)
  | .bracketed negated set => do
    let c ← set.lower f
    pure (Expr.ofClass (← foldAndNegate f negated c) !f.unicode, f)
  | .repetition r greedy sub => do
    let (e, f) ← sub.lower f
    let (min, max) := r.bounds
    pure (Expr.rep min max (greedy != f.swapGreed) e, f)
  | .group (.capture index _) sub => do
    let (e, _) ← sub.lower f
    pure (.capture index e, f)
  | .group (.nonCapturing items) sub => do
    let (e, _) ← sub.lower (f.apply items)
    pure (e, f)
  | .alternation branches => do
    let (es, f) ← Ast.lowerAll f branches
    pure (Expr.alt es, f)
  | .concat items => do
    let (es, f) ← Ast.lowerAll f items
    pure (Expr.cat es, f)

/-- Some syntax trees as expressions, each with the flags the ones before it leave. -/
def Ast.lowerAll (f : Flags) : List Ast → Except PatternError (List Expr × Flags)
  | [] => .ok ([], f)
  | a :: rest => do
    let (e, f) ← a.lower f
    let (es, f) ← Ast.lowerAll f rest
    pure (e :: es, f)

end

/-- A whole pattern as an expression, from the default flags. -/
def Ast.toExpr (a : Ast) : Except PatternError Expr := do
  let (e, _) ← a.lower {}
  pure e

end ClassMetrics.Pattern
