import ClassMetrics.Prelude

/-!
A reader for flat TOML documents: top-level `key = value` lines with comments and blank
lines, where a value is a boolean, an integer, a string (basic, literal, or either kind over
several lines) or an array of such values. Keys are bare or quoted. Anything else a TOML
document may hold (tables, dotted keys, floats, dates, inline tables) is refused, and so is a
key given twice.
-/

namespace ClassMetrics.Toml

/-- A value of a flat document. -/
inductive Value
  | bool (b : Bool)
  | int (n : Int)
  | str (s : String)
  | arr (items : List Value)
  deriving Repr, Inhabited

/-- Blanks within a line. -/
def isBlank (c : Char) : Bool := c = ' ' || c = '\t'

/-- Characters of a bare key. -/
def isBareKeyChar (c : Char) : Bool := c.isAlphanum || c = '_' || c = '-'

/-- Control characters, which may stand in no string or comment; a tab may. -/
def isControl (c : Char) : Bool := (c.toNat < 0x20 && c ≠ '\t') || c.toNat = 0x7F

/-- Drops blanks. -/
def skipBlank (cs : List Char) : List Char := cs.dropWhile isBlank

/-- Drops blanks and line ends, `\n` or `\r\n`; a carriage return that no line feed follows
stays, to be refused. -/
def skipBlankLines : List Char → List Char
  | '\r' :: '\n' :: r => skipBlankLines r
  | c :: r => if isBlank c || c = '\n' then skipBlankLines r else c :: r
  | [] => []

/-- A line end, `\n` or `\r\n`, and what follows it. -/
def lineEnd? : List Char → Option (List Char)
  | '\n' :: r => some r
  | '\r' :: '\n' :: r => some r
  | _ => none

/-- Drops a comment up to its line end; a control character in it is refused. -/
def skipComment (cs : List Char) : Option (List Char) :=
  match cs with
  | '#' :: r =>
    let body := r.takeWhile fun c => c ≠ '\n' && c ≠ '\r'
    if body.any isControl then none else some (r.dropWhile fun c => c ≠ '\n' && c ≠ '\r')
  | _ => some cs

/-- Drops blanks, comments and line ends, as allowed between the items of an array. -/
def skipSpace : Nat → List Char → Option (List Char)
  | 0, _ => none
  | fuel + 1, cs =>
    let cs := skipBlank cs
    match cs with
    | '#' :: _ => do skipSpace fuel (← skipComment cs)
    | _ =>
      match lineEnd? cs with
      | some r => skipSpace fuel r
      | none => some cs

/-- The value of a hexadecimal digit. -/
def hexValue? (c : Char) : Option Nat :=
  if '0' ≤ c ∧ c ≤ '9' then some (c.toNat - 48)
  else if 'a' ≤ c ∧ c ≤ 'f' then some (c.toNat - 87)
  else if 'A' ≤ c ∧ c ≤ 'F' then some (c.toNat - 55)
  else none

/-- The value of exactly `n` hexadecimal digits at the front, and the rest. -/
def hexDigits? (n : Nat) (cs : List Char) : Option (Nat × List Char) := do
  let ds := cs.take n
  if ds.length ≠ n then none
  let vs ← ds.mapM hexValue?
  pure (vs.foldl (fun a d => a * 16 + d) 0, cs.drop n)

/-- A character from a code point, which must be a Unicode scalar value. -/
def scalar? (u : Nat) : Option Char :=
  if u ≤ 0x10FFFF ∧ ¬(0xD800 ≤ u ∧ u ≤ 0xDFFF) then some (Char.ofNat u) else none

/-- Reads an escape after its backslash: the letters of control characters, a quote, a
backslash, `\e` for escape, and a code point in two, four or eight hexadecimal digits. -/
def escape? : List Char → Option (Char × List Char)
  | 'b' :: r => some ('\x08', r)
  | 't' :: r => some ('\t', r)
  | 'n' :: r => some ('\n', r)
  | 'f' :: r => some ('\x0c', r)
  | 'r' :: r => some ('\r', r)
  | '"' :: r => some ('"', r)
  | '\\' :: r => some ('\\', r)
  | 'e' :: r => some ('\x1b', r)
  | 'x' :: r => do let (u, r) ← hexDigits? 2 r; pure (Char.ofNat u, r)
  | 'u' :: r => do let (u, r) ← hexDigits? 4 r; pure (← scalar? u, r)
  | 'U' :: r => do let (u, r) ← hexDigits? 8 r; pure (← scalar? u, r)
  | _ => none

/-- Reads a basic string after its opening quote; `acc` holds what was read, last first.
Each step reads at least one character, so `fuel` of the text's length is enough. -/
def basicString : Nat → List Char → List Char → Option (String × List Char)
  | 0, _, _ => none
  | _, _, [] => none
  | _, acc, '"' :: r => some (String.ofList acc.reverse, r)
  | fuel + 1, acc, '\\' :: r => do
    let (c, r) ← escape? r
    basicString fuel (c :: acc) r
  | fuel + 1, acc, c :: r => if isControl c then none else basicString fuel (c :: acc) r

/-- Reads a literal string after its opening quote: no escapes, no line end. -/
def literalString (cs : List Char) : Option (String × List Char) :=
  let body := cs.takeWhile (· ≠ '\'')
  match cs.dropWhile (· ≠ '\'') with
  | '\'' :: r => if body.any isControl then none else some (String.ofList body, r)
  | _ => none

/-- Drops a line end right after the opening delimiter of a string over several lines. -/
def trimFirstLineEnd (cs : List Char) : List Char := (lineEnd? cs).getD cs

/-- Ends a string over several lines at a run of `n` quote characters `q`: three close it and
up to two more belong to the string. -/
def closing? (q : Char) (n : Nat) (acc : List Char) (r : List Char) : Option (String × List Char) :=
  if n ≤ 5 then some (String.ofList (acc.reverse ++ List.replicate (n - 3) q), r) else none

/-- Reads a basic string over several lines after its opening quotes. Line ends are kept as
written; a backslash at a line's end drops the line end and the blanks that follow. -/
def multiBasic : Nat → List Char → List Char → Option (String × List Char)
  | 0, _, _ => none
  | _, _, [] => none
  | fuel + 1, acc, '"' :: r =>
    let n := 1 + (r.takeWhile (· = '"')).length
    if n ≥ 3 then closing? '"' n acc (r.dropWhile (· = '"'))
    else multiBasic fuel (List.replicate n '"' ++ acc) (r.drop (n - 1))
  | fuel + 1, acc, '\\' :: r =>
    let afterBlank := skipBlank r
    match lineEnd? afterBlank with
    | some _ =>
      multiBasic fuel acc (skipBlankLines afterBlank)
    | none => do
      let (c, r) ← escape? r
      multiBasic fuel (c :: acc) r
  | fuel + 1, acc, c :: r =>
    match lineEnd? (c :: r) with
    | some r' => multiBasic fuel ((if c = '\r' then ['\n', '\r'] else ['\n']) ++ acc) r'
    | none => if isControl c then none else multiBasic fuel (c :: acc) r

/-- Reads a literal string over several lines after its opening quotes; line ends are kept as
written. -/
def multiLiteral : Nat → List Char → List Char → Option (String × List Char)
  | 0, _, _ => none
  | _, _, [] => none
  | fuel + 1, acc, '\'' :: r =>
    let n := 1 + (r.takeWhile (· = '\'')).length
    if n ≥ 3 then closing? '\'' n acc (r.dropWhile (· = '\''))
    else multiLiteral fuel (List.replicate n '\'' ++ acc) (r.drop (n - 1))
  | fuel + 1, acc, c :: r =>
    match lineEnd? (c :: r) with
    | some r' => multiLiteral fuel ((if c = '\r' then ['\n', '\r'] else ['\n']) ++ acc) r'
    | none => if isControl c then none else multiLiteral fuel (c :: acc) r

/-- Whether a character ends a bare value such as a number or a boolean. -/
def endsToken (c : Char) : Bool :=
  isBlank c || c = ',' || c = ']' || c = '#' || c = '\n' || c = '\r'

/-- Digits in a base, with single underscores only between digits. -/
def digitsIn (base : Nat) (ds : List Char) : Option Nat :=
  let parts := (String.ofList ds).splitOn "_"
  if ds.isEmpty || parts.any (·.isEmpty) then none
  else
    (ds.filter (· ≠ '_')).foldlM (fun acc c => do
      let d ← hexValue? c
      if d < base then some (acc * base + d) else none) 0

/-- An integer literal: decimal with an optional sign and no leading zero, or hexadecimal,
octal or binary after `0x`, `0o`, `0b`. It must fit in 64 bits. -/
def integer? (token : List Char) : Option Int := do
  let v : Int ← match token with
    | '0' :: 'x' :: ds => (digitsIn 16 ds).map Int.ofNat
    | '0' :: 'o' :: ds => (digitsIn 8 ds).map Int.ofNat
    | '0' :: 'b' :: ds => (digitsIn 2 ds).map Int.ofNat
    | _ =>
      let (neg, ds) := match token with
        | '+' :: ds => (false, ds)
        | '-' :: ds => (true, ds)
        | ds => (false, ds)
      if ds.length > 1 && ds.head? = some '0' then none
      else (digitsIn 10 ds).map fun n => if neg then -(n : Int) else n
  if -(2 ^ 63) ≤ v ∧ v < 2 ^ 63 then some v else none

mutual

/-- Reads one value. -/
def value : Nat → List Char → Option (Value × List Char)
  | 0, _ => none
  | fuel + 1, cs =>
    match cs with
    | '"' :: '"' :: '"' :: r =>
      (multiBasic (r.length + 1) [] (trimFirstLineEnd r)).map fun (s, r) => (.str s, r)
    | '"' :: r => (basicString (r.length + 1) [] r).map fun (s, r) => (.str s, r)
    | '\'' :: '\'' :: '\'' :: r =>
      (multiLiteral (r.length + 1) [] (trimFirstLineEnd r)).map fun (s, r) => (.str s, r)
    | '\'' :: r => (literalString r).map fun (s, r) => (.str s, r)
    | '[' :: r => (items fuel [] r).map fun (xs, r) => (.arr xs, r)
    | _ =>
      let token := cs.takeWhile (!endsToken ·)
      let rest := cs.dropWhile (!endsToken ·)
      if token = "true".toList then some (.bool true, rest)
      else if token = "false".toList then some (.bool false, rest)
      else (integer? token).map fun n => (.int n, rest)

/-- Reads array items up to the closing bracket; a comma may follow the last one. -/
def items : Nat → List Value → List Char → Option (List Value × List Char)
  | 0, _, _ => none
  | fuel + 1, acc, cs => do
    let cs ← skipSpace (cs.length + 1) cs
    match cs with
    | ']' :: r => some (acc.reverse, r)
    | _ =>
      let (v, r) ← value fuel cs
      let r ← skipSpace (r.length + 1) r
      match r with
      | ',' :: r' => items fuel (v :: acc) r'
      | ']' :: r' => some ((v :: acc).reverse, r')
      | _ => none

end

/-- Reads a key: bare, or a basic or literal string. A dotted key is refused. -/
def key? (cs : List Char) : Option (String × List Char) := do
  let (k, r) ← match cs with
    | '"' :: r => basicString (r.length + 1) [] r
    | '\'' :: r => literalString r
    | _ =>
      let k := cs.takeWhile isBareKeyChar
      if k.isEmpty then none else some (String.ofList k, cs.dropWhile isBareKeyChar)
  match skipBlank r with
  | '=' :: r' => some (k, skipBlank r')
  | _ => none

/-- The end of a line after a value: blanks, an optional comment, and a line end or the end
of the text. -/
def endOfLine? (cs : List Char) : Option (List Char) := do
  let cs ← skipComment (skipBlank cs)
  match cs with
  | [] => some []
  | _ => lineEnd? cs

/-- Reads the lines of a document; `acc` holds the pairs read, last first. -/
def lines : Nat → List (String × Value) → List Char → Option (List (String × Value))
  | 0, _, _ => none
  | fuel + 1, acc, cs =>
    let cs := skipBlank cs
    match cs with
    | [] => some acc.reverse
    | '#' :: _ => do lines fuel acc (← endOfLine? cs)
    | '[' :: _ => none
    | _ =>
      match lineEnd? cs with
      | some r => lines fuel acc r
      | none => do
        let (k, r) ← key? cs
        if acc.any (·.1 = k) then none
        let (v, r) ← value (r.length + 1) r
        let r ← endOfLine? r
        lines fuel ((k, v) :: acc) r

/-- The key-value pairs of a flat document, in order. A byte order mark at the start is
passed over. -/
def parse (text : String) : Option (List (String × Value)) :=
  let cs := match text.toList with
    | '\uFEFF' :: cs => cs
    | cs => cs
  lines (cs.length + 1) [] cs

end ClassMetrics.Toml
