import ClassMetrics.Prelude

/-!
The syntax tree of a filter pattern, as written: literals, the dot, assertions, the Perl classes
`\d`, `\s` and `\w`, Unicode classes `\p{...}`, bracket classes with their items and set
operations, repetitions, groups with their flags, alternations and concatenations. Flag groups
such as `(?i)` stand in the tree where they were written. The nesting depth of a tree counts the
repetitions, groups, alternations, concatenations, bracket classes, unions of class items and
set operations on the way down to its deepest part.
-/

namespace ClassMetrics.Pattern

/-- Why a pattern is refused. -/
inductive PatternError
  /-- The pattern breaks the grammar. -/
  | malformed
  /-- The pattern nests deeper than the limit. -/
  | tooDeep
  /-- A Unicode class names no property or value that is known. -/
  | unknownProperty
  /-- Unicode classes or characters are used where Unicode is off. -/
  | unicodeOff
  /-- A part of the pattern could match bytes that are not UTF-8. -/
  | notUtf8
  /-- The compiled pattern would be too large. -/
  | tooLarge
  deriving DecidableEq, Repr

/-- A flag that a group can set or clear. -/
inductive Flag
  | caseInsensitive
  | multiLine
  | dotMatchesNewLine
  | swapGreed
  | unicode
  | crlf
  | ignoreWhitespace
  deriving DecidableEq, Repr

/-- An item of a flag list: a flag, or the dash after which flags are cleared. -/
inductive FlagItem
  | flag (f : Flag)
  | negation
  deriving DecidableEq, Repr

/-- What a list of flag items makes of one flag: set, cleared, or left as it was. -/
def flagState (items : List FlagItem) (f : Flag) : Option Bool :=
  go items false
where
  go : List FlagItem → Bool → Option Bool
    | [], _ => none
    | .negation :: rest, _ => go rest true
    | .flag g :: rest, negated => if g = f then some !negated else go rest negated

/-- A condition on the position between two characters. -/
inductive Assertion
  | startLine
  | endLine
  | startText
  | endText
  | wordBoundary
  | notWordBoundary
  | wordStart
  | wordEnd
  | wordStartHalf
  | wordEndHalf
  deriving DecidableEq, Repr

/-- A class of the Perl escapes. -/
inductive PerlClass
  | digit
  | space
  | word
  deriving DecidableEq, Repr

/-- How a Unicode class names its characters: one letter, a name, or a property and a value
(with `!=` negating the class). -/
inductive UnicodeQuery
  | oneLetter (c : Char)
  | named (name : String)
  | byValue (property value : String) (notEqual : Bool)
  deriving DecidableEq, Repr

/-- A set operation between the parts of a bracket class. -/
inductive SetOp
  | intersection
  | difference
  | symmetricDifference
  deriving DecidableEq, Repr

/-- A literal character; `byte` marks one written with two hexadecimal digits after `\x`, which
stands for a byte where Unicode is off. -/
structure Literal where
  c : Char
  byte : Bool
  deriving DecidableEq, Repr

mutual

/-- An item of a bracket class. -/
inductive ClassItem
  | empty
  | literal (l : Literal)
  | range (lo hi : Literal)
  | ascii (name : String) (negated : Bool)
  | unicode (q : UnicodeQuery) (negated : Bool)
  | perl (k : PerlClass) (negated : Bool)
  | bracketed (negated : Bool) (set : ClassSet)
  | union (items : List ClassItem)
  deriving Repr

/-- The contents of a bracket class: an item, or a set operation between two contents. -/
inductive ClassSet
  | item (i : ClassItem)
  | op (kind : SetOp) (lhs rhs : ClassSet)
  deriving Repr

end

/-- How many times a repetition matches its pattern. -/
inductive Repeat
  | zeroOrOne
  | zeroOrMore
  | oneOrMore
  | exactly (n : Nat)
  | atLeast (n : Nat)
  | between (m n : Nat)
  deriving DecidableEq, Repr

/-- The kind of a group: capturing, with its index and perhaps a name, or not capturing, with the
flags it sets for its contents. -/
inductive GroupKind
  | capture (index : Nat) (name : Option String)
  | nonCapturing (flags : List FlagItem)
  deriving DecidableEq, Repr

/-- The syntax tree of a pattern. -/
inductive Ast
  | empty
  | flags (items : List FlagItem)
  | literal (l : Literal)
  | dot
  | assertion (a : Assertion)
  | perl (k : PerlClass) (negated : Bool)
  | unicode (q : UnicodeQuery) (negated : Bool)
  | bracketed (negated : Bool) (set : ClassSet)
  | repetition (r : Repeat) (greedy : Bool) (sub : Ast)
  | group (kind : GroupKind) (sub : Ast)
  | alternation (branches : List Ast)
  | concat (items : List Ast)
  deriving Repr, Inhabited

/-- The largest of some numbers, zero for none. -/
def maxOf (ns : List Nat) : Nat := ns.foldl max 0

mutual

/-- The nesting depth of a class item. -/
def ClassItem.depth : ClassItem → Nat
  | .bracketed _ set => set.depth + 1
  | .union items => maxOf (ClassItem.depthAll items) + 1
  | _ => 0

/-- The nesting depths of some class items. -/
def ClassItem.depthAll : List ClassItem → List Nat
  | [] => []
  | i :: rest => i.depth :: ClassItem.depthAll rest

/-- The nesting depth of the contents of a bracket class. -/
def ClassSet.depth : ClassSet → Nat
  | .item i => i.depth
  | .op _ lhs rhs => max lhs.depth rhs.depth + 1

end

mutual

/-- The nesting depth of a syntax tree. -/
def Ast.depth : Ast → Nat
  | .bracketed _ set => set.depth + 1
  | .repetition _ _ sub => sub.depth + 1
  | .group _ sub => sub.depth + 1
  | .alternation branches => maxOf (Ast.depthAll branches) + 1
  | .concat items => maxOf (Ast.depthAll items) + 1
  | _ => 0

/-- The nesting depths of some syntax trees. -/
def Ast.depthAll : List Ast → List Nat
  | [] => []
  | a :: rest => a.depth :: Ast.depthAll rest

end

/-- The deepest nesting a pattern may have. -/
def nestLimit : Nat := 250

/-- The tree of a concatenation of items: nothing, the one item, or their concatenation. -/
def Ast.ofItems : List Ast → Ast
  | [] => .empty
  | [a] => a
  | items => .concat items

/-- The tree of an alternation of branches: the one branch, or their alternation. -/
def Ast.ofBranches : List Ast → Ast
  | [] => .empty
  | [a] => a
  | branches => .alternation branches

/-- The class item of the items of a union: nothing, the one item, or their union. -/
def ClassItem.ofItems : List ClassItem → ClassItem
  | [] => .empty
  | [i] => i
  | items => .union items

end ClassMetrics.Pattern
