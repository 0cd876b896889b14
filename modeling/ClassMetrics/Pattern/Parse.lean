import ClassMetrics.Pattern.Ast
import ClassMetrics.Pattern.CharClass

/-!
Reading a filter pattern into its syntax tree. The reader walks the characters once, left to
right; groups and bracket classes are read by nested calls, and every step consumes at least one
character, so a fuel of one more than the pattern's length is enough for any nesting.

The grammar: alternatives split by `|`; groups `(...)`, `(?:...)`, `(?P<name>...)`,
`(?<name>...)` and flag groups `(?flags)` or `(?flags:...)` with the flags `i m s U u R x`;
repetitions `?`, `*`, `+` and `{n}`, `{n,}`, `{n,m}`, each optionally followed by `?`; bracket
classes with ranges, nested classes, ASCII classes `[:name:]`, and the set operations `&&`, `--`
and `~~`; escapes for the punctuation, `\a \f \t \n \r \v`, hexadecimal characters, the Perl
classes, Unicode classes `\pL` and `\p{...}`, and the assertions `\A \z \b \B \< \>` and
`\b{start}`, `\b{end}`, `\b{start-half}`, `\b{end-half}`. With the flag `x`, white space and
comments from `#` to the end of the line are skipped between the parts of the pattern.
Look-around, backreferences and octal escapes are refused, and so is a tree nested deeper than
`nestLimit`.
-/

namespace ClassMetrics.Pattern

open ClassMetrics.Unicode

/-- The state of reading a pattern: its characters, the position reached, whether blanks and
comments are skipped there, and the groups captured so far with their names. -/
structure Reader where
  chars : Array Char
  pos : Nat := 0
  verbose : Bool := false
  captures : Nat := 0
  names : List String := []

/-- A step of reading a pattern. -/
abbrev ReadM := StateT Reader (Except PatternError)

/-- Whether a character is white space, as Unicode defines it. -/
def isBlank (c : Char) : Bool := CharClass.space.contains c

/-- Whether a character is an ASCII hexadecimal digit. -/
def isHexDigit (c : Char) : Bool :=
  ('0' ≤ c ∧ c ≤ '9') || ('a' ≤ c ∧ c ≤ 'f') || ('A' ≤ c ∧ c ≤ 'F')

/-- The value of a hexadecimal digit. -/
def hexDigitValue (c : Char) : Nat :=
  if '0' ≤ c ∧ c ≤ '9' then c.toNat - '0'.toNat
  else if 'a' ≤ c ∧ c ≤ 'f' then c.toNat - 'a'.toNat + 10
  else c.toNat - 'A'.toNat + 10

/-- The character with a code point, if it is a Unicode scalar value. -/
def scalar? (n : Nat) : Option Char :=
  if n ≤ maxCode ∧ (n < 0xD800 ∨ 0xDFFF < n) then some (Char.ofNat n) else none

/-- The characters with a meaning of their own in a pattern; escaped, they stand for
themselves. -/
def isMeta (c : Char) : Bool := "\\.+*?()|[]{}^$#&-~".contains c

/-- Whether an escaped character stands for itself: punctuation and the other ASCII characters
that are neither letters nor digits, except `<` and `>`. -/
def isEscapable (c : Char) : Bool :=
  isMeta c || (c.toNat < 0x80 && !c.isAlphanum && c != '<' && c != '>')

/-- Whether a character may stand in a group name, at its start or later. -/
def isNameChar (c : Char) (first : Bool) : Bool :=
  if first then c == '_' || isAlphabetic c
  else c == '_' || c == '.' || c == '[' || c == ']' || isAlphabetic c || isNumeric c

/-- The position after blanks and comments from a position on. -/
def skipBlanks (chars : Array Char) : Nat → Nat → Nat
  | 0, pos => pos
  | fuel + 1, pos =>
    match chars[pos]? with
    | some c =>
      if isBlank c then skipBlanks chars fuel (pos + 1)
      else if c == '#' then
        let newline := ((chars.extract (pos + 1) chars.size).findIdx? (· == '\n'))
        match newline with
        | some i => skipBlanks chars fuel (pos + i + 2)
        | none => chars.size
      else pos
    | none => pos

/-- The first character after the current one that is not blank, the first `#` after it
skipped as well; or, when there is none, the character right after the current one. -/
def peekBlank (chars : Array Char) (pos : Nat) : Option Char :=
  go (pos + 1) false (chars.size - pos)
where
  go (i : Nat) (inComment : Bool) : Nat → Option Char
    | 0 => chars[pos + 1]?
    | fuel + 1 =>
      match chars[i]? with
      | none => chars[pos + 1]?
      | some c =>
        if isBlank c then go (i + 1) inComment fuel
        else if !inComment && c == '#' then go (i + 1) true fuel
        else some c

namespace Reader

/-- The current character. -/
def current? : ReadM (Option Char) := do
  let r ← get
  pure r.chars[r.pos]?

/-- Whether the whole pattern has been read. -/
def atEnd : ReadM Bool := do
  let r ← get
  pure (r.pos ≥ r.chars.size)

/-- The current character, which must be there. -/
def current : ReadM Char := do
  match ← current? with
  | some c => pure c
  | none => throw .malformed

/-- The character after the current one. -/
def peek? : ReadM (Option Char) := do
  let r ← get
  pure r.chars[r.pos + 1]?

/-- The next character that is not blank, where blanks are skipped. -/
def peekSpace? : ReadM (Option Char) := do
  let r ← get
  if !r.verbose then pure r.chars[r.pos + 1]?
  else if r.pos ≥ r.chars.size then pure none
  else pure (peekBlank r.chars r.pos)

/-- Moves past the current character, and tells whether a character follows. -/
def bump : ReadM Bool := do
  let r ← get
  if r.pos < r.chars.size then
    set { r with pos := r.pos + 1 }
    pure (r.pos + 1 < r.chars.size)
  else pure false

/-- Moves to a position. -/
def moveTo (pos : Nat) : ReadM Unit := modify fun r => { r with pos := pos }

/-- The position reached. -/
def position : ReadM Nat := do pure (← get).pos

/-- Skips blanks and comments, where the flag `x` is on. -/
def skipSpace : ReadM Unit :=
  modify fun r => if r.verbose then { r with pos := skipBlanks r.chars r.chars.size r.pos } else r

/-- Moves past the current character and the blanks after it, and tells whether a character
follows. -/
def bumpAndSkip : ReadM Bool := do
  if !(← bump) then return false
  skipSpace
  return !(← atEnd)

/-- Whether some characters come next. -/
def isPrefix (s : String) : ReadM Bool := do
  let r ← get
  let cs := s.toList
  pure ((r.chars.extract r.pos (r.pos + cs.length)).toList == cs)

/-- Moves past some characters if they come next, and tells whether they did. -/
def bumpIf (s : String) : ReadM Bool := do
  if ← isPrefix s then
    modify fun r => { r with pos := r.pos + s.length }
    pure true
  else pure false

/-- Skips the characters that satisfy a test, one at a time, moving past the blanks after each. -/
def skipWhile (p : Char → Bool) (andBlanks : Bool) : Nat → ReadM Unit
  | 0 => pure ()
  | fuel + 1 => do
    match ← current? with
    | some c =>
      if p c then
        if andBlanks then discard bumpAndSkip else discard bump
        skipWhile p andBlanks fuel
      else pure ()
    | none => pure ()

/-- Collects the characters that satisfy a test, moving past the blanks after each. -/
def collectWhile (p : Char → Bool) : Nat → List Char → ReadM (List Char)
  | 0, acc => pure acc
  | fuel + 1, acc => do
    match ← current? with
    | some c =>
      if p c then
        discard bumpAndSkip
        collectWhile p fuel (acc ++ [c])
      else pure acc
    | none => pure acc

/-- The number of characters left, a bound for every loop. -/
def left : ReadM Nat := do
  let r ← get
  pure (r.chars.size - r.pos + 1)

/-- Reads a decimal count: blanks, digits, blanks. Refused when there is no digit or the number
needs more than 32 bits. -/
def decimal : ReadM Nat := do
  skipWhile isBlank false (← left)
  let digits ← collectWhile Char.isDigit (← left) []
  skipWhile isBlank true (← left)
  if digits.isEmpty then throw .malformed
  let n := digits.foldl (fun n d => 10 * n + (d.toNat - '0'.toNat)) 0
  if n ≥ 2 ^ 32 then throw .malformed
  pure n

/-- Reads a hexadecimal character after `\x`, `\u` or `\U`: `width` digits, or any number of
digits between braces. Only the fixed form may stand for a byte; between braces the digits
always name a character. -/
def hexLiteral (width : Nat) (byte : Bool) : ReadM Literal := do
  if !(← bumpAndSkip) then throw .malformed
  if (← current) == '{' then
    let digits ← braced (← left) []
    if ← atEnd then throw .malformed
    discard bumpAndSkip
    if digits.isEmpty then throw .malformed
    match scalar? (digits.foldl (fun n d => 16 * n + hexDigitValue d) 0) with
    | some c => pure ⟨c, false⟩
    | none => throw .malformed
  else
    let digits ← fixed width true []
    discard bumpAndSkip
    match scalar? (digits.foldl (fun n d => 16 * n + hexDigitValue d) 0) with
    | some c => pure ⟨c, byte⟩
    | none => throw .malformed
where
  braced : Nat → List Char → ReadM (List Char)
    | 0, acc => pure acc
    | fuel + 1, acc => do
      if !(← bumpAndSkip) then return acc
      let c ← current
      if c == '}' then return acc
      if !isHexDigit c then throw .malformed
      braced fuel (acc ++ [c])
  fixed : Nat → Bool → List Char → ReadM (List Char)
    | 0, _, acc => pure acc
    | n + 1, first, acc => do
      if !first then
        if !(← bumpAndSkip) then throw .malformed
      let c ← current
      if !isHexDigit c then throw .malformed
      fixed n false (acc ++ [c])

/-- The query of a Unicode class from the text between its braces. -/
def unicodeQuery (name : String) : UnicodeQuery :=
  match name.splitOn "!=" with
  | first :: rest@(_ :: _) => .byValue first ("!=".intercalate rest) true
  | _ =>
    match name.splitOn ":" with
    | first :: rest@(_ :: _) => .byValue first (":".intercalate rest) false
    | _ =>
      match name.splitOn "=" with
      | first :: rest@(_ :: _) => .byValue first ("=".intercalate rest) false
      | _ => .named name

/-- Reads a Unicode class after `\p` or `\P`. -/
def unicodeClass : ReadM Ast := do
  let negated := (← current) == 'P'
  if !(← bumpAndSkip) then throw .malformed
  if (← current) == '{' then
    let name ← collect (← left) []
    if ← atEnd then throw .malformed
    discard bump
    pure (.unicode (unicodeQuery (String.ofList name)) negated)
  else
    let c ← current
    if c == '\\' then throw .malformed
    discard bumpAndSkip
    pure (.unicode (.oneLetter c) negated)
where
  collect : Nat → List Char → ReadM (List Char)
    | 0, acc => pure acc
    | fuel + 1, acc => do
      if !(← bumpAndSkip) then return acc
      let c ← current
      if c == '}' then return acc
      collect fuel (acc ++ [c])

/-- After `\b`, reads a special word boundary between braces, or leaves the braces to be read
as a repetition when no letter opens them. -/
def specialBoundary? : ReadM (Option Assertion) := do
  let start ← position
  if !(← bumpAndSkip) then throw .malformed
  let isNameChar := fun c => ('a' ≤ c ∧ c ≤ 'z') || ('A' ≤ c ∧ c ≤ 'Z') || c == '-'
  if !isNameChar (← current) then
    moveTo start
    return none
  let name ← collectWhile isNameChar (← left) []
  if (← current?) != some '}' then throw .malformed
  discard bump
  match String.ofList name with
  | "start" => pure (some .wordStart)
  | "end" => pure (some .wordEnd)
  | "start-half" => pure (some .wordStartHalf)
  | "end-half" => pure (some .wordEndHalf)
  | _ => throw .malformed

/-- Reads an escape, from its backslash: a literal, an assertion or a class. -/
def escape : ReadM Ast := do
  if !(← bump) then throw .malformed
  let c ← current
  if c.isDigit then throw .malformed
  if c == 'x' then return .literal (← hexLiteral 2 true)
  if c == 'u' then return .literal (← hexLiteral 4 false)
  if c == 'U' then return .literal (← hexLiteral 8 false)
  if c == 'p' || c == 'P' then return ← unicodeClass
  discard bump
  match c with
  | 'd' => pure (.perl .digit false)
  | 'D' => pure (.perl .digit true)
  | 's' => pure (.perl .space false)
  | 'S' => pure (.perl .space true)
  | 'w' => pure (.perl .word false)
  | 'W' => pure (.perl .word true)
  | _ =>
    if isEscapable c then pure (.literal ⟨c, false⟩)
    else match c with
      | 'a' => pure (.literal ⟨Char.ofNat 7, false⟩)
      | 'f' => pure (.literal ⟨Char.ofNat 12, false⟩)
      | 't' => pure (.literal ⟨'\t', false⟩)
      | 'n' => pure (.literal ⟨'\n', false⟩)
      | 'r' => pure (.literal ⟨'\r', false⟩)
      | 'v' => pure (.literal ⟨Char.ofNat 11, false⟩)
      | 'A' => pure (.assertion .startText)
      | 'z' => pure (.assertion .endText)
      | 'b' =>
        if (← current?) == some '{' then
          match ← specialBoundary? with
          | some a => pure (.assertion a)
          | none => pure (.assertion .wordBoundary)
        else pure (.assertion .wordBoundary)
      | 'B' => pure (.assertion .notWordBoundary)
      | '<' => pure (.assertion .wordStart)
      | '>' => pure (.assertion .wordEnd)
      | _ => throw .malformed

/-- Reads one item outside classes: an escape, the dot, an anchor or a literal. -/
def primitive : ReadM Ast := do
  let c ← current
  if c == '\\' then return ← escape
  discard bump
  match c with
  | '.' => pure .dot
  | '^' => pure (.assertion .startLine)
  | '$' => pure (.assertion .endLine)
  | _ => pure (.literal ⟨c, false⟩)

/-- Reads one item inside a class: an escape, or a character that stands for itself. -/
def classPrimitive : ReadM Ast := do
  let c ← current
  if c == '\\' then return ← escape
  discard bump
  pure (.literal ⟨c, false⟩)

/-- A primitive as a class item; an assertion is no class item. -/
def toClassItem : Ast → ReadM ClassItem
  | .literal l => pure (.literal l)
  | .perl k n => pure (.perl k n)
  | .unicode q n => pure (.unicode q n)
  | _ => throw .malformed

/-- A primitive as the end of a class range, which must be a literal. -/
def toRangeEnd : Ast → ReadM Literal
  | .literal l => pure l
  | _ => throw .malformed

/-- Reads a class item, or a range when a dash and another item follow. -/
def classRange : ReadM ClassItem := do
  let first ← classPrimitive
  skipSpace
  if ← atEnd then throw .malformed
  let next ← peekSpace?
  if (← current) != '-' || next == some ']' || next == some '-' then
    return ← toClassItem first
  if !(← bumpAndSkip) then throw .malformed
  let second ← classPrimitive
  let lo ← toRangeEnd first
  let hi ← toRangeEnd second
  if hi.c < lo.c then throw .malformed
  pure (.range lo hi)

/-- Reads an ASCII class `[:name:]` or `[:^name:]` from its first bracket, or goes back to that
bracket when there is none. -/
def asciiClass? : ReadM (Option ClassItem) := do
  let start ← position
  let fail : ReadM (Option ClassItem) := do moveTo start; pure none
  if !(← bump) || (← current?) != some ':' then return ← fail
  if !(← bump) then return ← fail
  let negated ← if (← current?) == some '^' then
      if !(← bump) then return ← fail
      pure true
    else pure false
  let nameStart ← position
  skipWhile (· != ':') false (← left)
  if ← atEnd then return ← fail
  let r ← get
  let name := String.ofList (r.chars.extract nameStart r.pos).toList
  if !(← bumpIf ":]") then return ← fail
  match CharClass.ascii? name with
  | some _ => pure (some (.ascii name negated))
  | none => fail

/-- Reads the opening of a bracket class: the bracket, a caret for negation, and the dashes and
a first closing bracket that stand for themselves there. -/
def classOpen : ReadM (Bool × List ClassItem) := do
  if !(← bumpAndSkip) then throw .malformed
  let negated ← if (← current) == '^' then
      if !(← bumpAndSkip) then throw .malformed
      pure true
    else pure false
  let dashes ← leadingDashes (← left) []
  if dashes.isEmpty && (← current) == ']' then
    if !(← bumpAndSkip) then throw .malformed
    return (negated, [.literal ⟨']', false⟩])
  pure (negated, dashes)
where
  leadingDashes : Nat → List ClassItem → ReadM (List ClassItem)
    | 0, acc => pure acc
    | fuel + 1, acc => do
      if (← current) != '-' then return acc
      if !(← bumpAndSkip) then throw .malformed
      leadingDashes fuel (acc ++ [.literal ⟨'-', false⟩])

/-- The contents read so far with a union of items after them. -/
def combine (lhs : Option (SetOp × ClassSet)) (union : List ClassItem) : ClassSet :=
  match lhs with
  | none => .item (ClassItem.ofItems union)
  | some (op, l) => .op op l (.item (ClassItem.ofItems union))

/-- Reads the contents of a bracket class after its opening, up to and past its closing
bracket: items and nested classes, joined by set operations from left to right. -/
def classBody : Nat → Array ClassItem → Option (SetOp × ClassSet) → ReadM ClassSet
  | 0, _, _ => throw .malformed
  | fuel + 1, union, lhs => do
    skipSpace
    let c ← current
    let next ← peek?
    if c == '[' then
      match ← asciiClass? with
      | some item => classBody fuel (union.push item) lhs
      | none =>
        let (negated, items) ← classOpen
        let set ← classBody fuel items.toArray none
        classBody fuel (union.push (.bracketed negated set)) lhs
    else if c == ']' then
      discard bump
      pure (combine lhs union.toList)
    else if c == '&' && next == some '&' then
      moveTo ((← position) + 2)
      classBody fuel #[] (some (.intersection, combine lhs union.toList))
    else if c == '-' && next == some '-' then
      moveTo ((← position) + 2)
      classBody fuel #[] (some (.difference, combine lhs union.toList))
    else if c == '~' && next == some '~' then
      moveTo ((← position) + 2)
      classBody fuel #[] (some (.symmetricDifference, combine lhs union.toList))
    else
      let item ← classRange
      classBody fuel (union.push item) lhs

/-- Reads a whole bracket class from its opening bracket. -/
def bracketClass : ReadM Ast := do
  let (negated, items) ← classOpen
  let set ← classBody (← left) items.toArray none
  pure (.bracketed negated set)

/-- Reads the flags of a group up to `:` or `)`: each flag at most once, at most one dash, and
no dash last. -/
def flagItems : Nat → List FlagItem → ReadM (List FlagItem)
  | 0, _ => throw .malformed
  | fuel + 1, items => do
    let c ← current
    if c == ':' || c == ')' then
      if items.getLast? == some .negation then throw .malformed
      return items
    let item ← match c with
      | '-' => pure FlagItem.negation
      | 'i' => pure (.flag .caseInsensitive)
      | 'm' => pure (.flag .multiLine)
      | 's' => pure (.flag .dotMatchesNewLine)
      | 'U' => pure (.flag .swapGreed)
      | 'u' => pure (.flag .unicode)
      | 'R' => pure (.flag .crlf)
      | 'x' => pure (.flag .ignoreWhitespace)
      | _ => throw .malformed
    if items.contains item then throw .malformed
    if !(← bump) then throw .malformed
    flagItems fuel (items ++ [item])

/-- Reads a group name up to and past its closing `>`, and records it; a name used before is
refused. -/
def groupName : ReadM String := do
  if ← atEnd then throw .malformed
  let start ← position
  nameChars start (← left)
  if ← atEnd then throw .malformed
  let r ← get
  let name := String.ofList (r.chars.extract start r.pos).toList
  discard bump
  if name.isEmpty || r.names.contains name then throw .malformed
  modify fun r => { r with names := r.names ++ [name] }
  pure name
where
  nameChars (start : Nat) : Nat → ReadM Unit
    | 0 => pure ()
    | fuel + 1 => do
      let c ← current
      if c == '>' then return
      if !isNameChar c ((← position) == start) then throw .malformed
      if !(← bump) then return
      nameChars start fuel

/-- The index of the next capturing group. -/
def nextCapture : ReadM Nat := do
  modify fun r => { r with captures := r.captures + 1 }
  pure (← get).captures

/-- What an opening parenthesis starts: flags for the rest of the group it stands in, or a
group whose contents follow. -/
inductive Opening
  | setFlags (items : List FlagItem)
  | group (kind : GroupKind)

/-- Reads the opening of a group from its parenthesis. -/
def opening : ReadM Opening := do
  discard bump
  skipSpace
  if (← isPrefix "?=") || (← isPrefix "?!") || (← isPrefix "?<=") || (← isPrefix "?<!") then
    throw .malformed
  if ← (do if ← bumpIf "?P<" then pure true else bumpIf "?<") then
    let index ← nextCapture
    let name ← groupName
    return .group (.capture index (some name))
  if ← bumpIf "?" then
    if ← atEnd then throw .malformed
    let items ← flagItems (← left) []
    let close ← current
    discard bump
    if close == ')' then
      if items.isEmpty then throw .malformed
      return .setFlags items
    return .group (.nonCapturing items)
  let index ← nextCapture
  pure (.group (.capture index none))

/-- Repeats the last item read; nothing before, or only flags, is refused. -/
def repeatLast (items : Array Ast) (r : Repeat) (greedy : Bool) : ReadM (Array Ast) :=
  match items.back? with
  | none | some .empty | some (.flags _) => throw .malformed
  | some a => pure (items.pop.push (.repetition r greedy a))

/-- Reads the bounds of a counted repetition from its opening brace. -/
def counted : ReadM (Repeat × Bool) := do
  if !(← bumpAndSkip) then throw .malformed
  let lo ← decimal
  if ← atEnd then throw .malformed
  let r ← if (← current) == ',' then
      if !(← bumpAndSkip) then throw .malformed
      if (← current) != '}' then
        let hi ← decimal
        pure (Repeat.between lo hi)
      else pure (Repeat.atLeast lo)
    else pure (Repeat.exactly lo)
  if (← current?) != some '}' then throw .malformed
  let greedy ← if (← bumpAndSkip) && (← current?) == some '?' then
      discard bump
      pure false
    else pure true
  match r with
  | .between m n => if n < m then throw .malformed
  | _ => pure ()
  pure (r, greedy)

/-- The tree of a group's branches once its end is reached. -/
def finish (branches items : Array Ast) : Ast :=
  if branches.isEmpty then Ast.ofItems items.toList
  else Ast.ofBranches (branches.push (Ast.ofItems items.toList)).toList

/-- Reads alternatives up to the closing parenthesis of a group, which it consumes, or up to
the end of the pattern at the top; `items` are those of the branch being read. -/
def branches : Nat → Bool → Array Ast → Array Ast → ReadM Ast
  | 0, _, _, _ => throw .malformed
  | fuel + 1, inGroup, done, items => do
    skipSpace
    match ← current? with
    | none => if inGroup then throw .malformed else pure (finish done items)
    | some '(' =>
      match ← opening with
      | .setFlags flags =>
        match flagState flags .ignoreWhitespace with
        | some v => modify fun r => { r with verbose := v }
        | none => pure ()
        branches fuel inGroup done (items.push (.flags flags))
      | .group kind =>
        let saved := (← get).verbose
        match kind with
        | .nonCapturing flags =>
          match flagState flags .ignoreWhitespace with
          | some v => modify fun r => { r with verbose := v }
          | none => pure ()
        | .capture _ _ => pure ()
        let inner ← branches fuel true #[] #[]
        modify fun r => { r with verbose := saved }
        branches fuel inGroup done (items.push (.group kind inner))
    | some ')' =>
      if !inGroup then throw .malformed
      discard bump
      pure (finish done items)
    | some '|' =>
      discard bump
      branches fuel inGroup (done.push (Ast.ofItems items.toList)) #[]
    | some '[' => branches fuel inGroup done (items.push (← bracketClass))
    | some '?' => repeated fuel inGroup done items .zeroOrOne
    | some '*' => repeated fuel inGroup done items .zeroOrMore
    | some '+' => repeated fuel inGroup done items .oneOrMore
    | some '{' =>
      let items ← match items.back? with
        | none | some .empty | some (.flags _) => throw .malformed
        | some _ => pure items
      let (r, greedy) ← counted
      branches fuel inGroup done (← repeatLast items r greedy)
    | some _ => branches fuel inGroup done (items.push (← primitive))
where
  repeated (fuel : Nat) (inGroup : Bool) (done items : Array Ast) (r : Repeat) : ReadM Ast := do
    let items ← match items.back? with
      | none | some .empty | some (.flags _) => throw .malformed
      | some _ => pure items
    let greedy ← if (← bump) && (← current?) == some '?' then
        discard bump
        pure false
      else pure true
    branches fuel inGroup done (← repeatLast items r greedy)

end Reader

/-- Reads a pattern into its syntax tree, refusing one nested too deep. -/
def Ast.parse (pattern : String) : Except PatternError Ast := do
  let chars := pattern.toList.toArray
  let (ast, _) ← (Reader.branches (chars.size + 2) false #[] #[]).run { chars }
  if ast.depth > nestLimit then throw .tooDeep
  pure ast

end ClassMetrics.Pattern
