import ClassMetrics.Unicode.Runs
import ClassMetrics.Unicode.AliasTable
import ClassMetrics.Unicode.CategoryTable
import ClassMetrics.Unicode.ScriptTable
import ClassMetrics.Unicode.PropertyTable
import ClassMetrics.Unicode.CaseFoldTable
import ClassMetrics.Unicode.ValueTable
import ClassMetrics.Unicode.NameTable

/-!
Looking up the character database. A property or value is found by any of its aliases under
loose matching, which ignores case, blanks, underscores, hyphens and a leading "is". The code
points of a general category, a script, the script extensions of a script or a binary property
come out as ranges; surrogates belong to none of them. So do the code points of an age, which
takes in those of every earlier age, and of a value of a segmentation property. The letters and
numbers that may name a group follow Unicode 17.0, the classes Unicode 16.0.
-/

namespace ClassMetrics.Unicode

/-- A name reduced for loose matching: blanks, underscores, hyphens and characters beyond ASCII
dropped, capitals made small, and a leading "is" dropped, except that "isc" stays whole. -/
def looseName (s : String) : String :=
  let cs := s.toList
  let prefixed := match cs with
    | a :: b :: _ => (a == 'i' || a == 'I') && (b == 's' || b == 'S')
    | _ => false
  let kept := (if prefixed then cs.drop 2 else cs).filterMap fun c =>
    if c == ' ' || c == '_' || c == '-' then none
    else if 'A' ≤ c ∧ c ≤ 'Z' then some (Char.ofNat (c.toNat + 32))
    else if c.toNat ≤ 0x7F then some c
    else none
  if prefixed && kept == ['c'] then "isc" else String.ofList kept

/-- The alias groups of a table, each with the name used here first. -/
def aliasGroups (text : String) : List (List String) :=
  ((text.splitOn " ").filter fun w => !w.isEmpty).map (·.splitOn ";")

/-- The name used here of the entry of an alias table that a loose name matches. -/
def canonicalName? (text : String) (loose : String) : Option String :=
  ((aliasGroups text).find? fun g => g.any fun a => looseName a == loose).bind List.head?

/-- The general category of every code point, run by run. -/
def categoryRuns : List Run := valueRuns categoryTable

/-- The categories a category code covers: a group covers its members, any other only itself. -/
def categoryMembers : String → List String
  | "L" => ["Lu", "Ll", "Lt", "Lm", "Lo"]
  | "LC" => ["Lu", "Ll", "Lt"]
  | "M" => ["Mn", "Mc", "Me"]
  | "N" => ["Nd", "Nl", "No"]
  | "P" => ["Pc", "Pd", "Ps", "Pe", "Pi", "Pf", "Po"]
  | "S" => ["Sm", "Sc", "Sk", "So"]
  | "Z" => ["Zs", "Zl", "Zp"]
  | "C" => ["Cc", "Cf", "Cs", "Co", "Cn"]
  | c => [c]

/-- The code points of some categories; the surrogates of `Cs` are left out. -/
def categoryRanges (codes : List String) : List (Nat × Nat) :=
  rangesWhere categoryRuns ((codes.flatMap categoryMembers).filter (· != "Cs"))

/-- The script of every code point, run by run. -/
def scriptRuns : List Run := valueRuns scriptTable

/-- The scripts that some code point has. -/
def knownScripts : List String :=
  (scriptRuns.map (·.value)).foldl (fun acc v => if v == "Zzzz" || acc.contains v then acc else acc ++ [v]) []

/-- The code points of a script. -/
def scriptRanges (code : String) : List (Nat × Nat) := rangesWhere scriptRuns [code]

/-- Code points whose script extensions are listed: the first and last, and the scripts. -/
structure Extension where
  first : Nat
  last : Nat
  scripts : List String

/-- Four-letter codes written one after the other. -/
def codesOf : List Char → List String
  | a :: b :: c :: d :: rest => String.ofList [a, b, c, d] :: codesOf rest
  | _ => []

/-- The code points whose script extensions are not just their script. -/
def extensions : List Extension :=
  ((extensionTable.splitOn " ").filter fun w => !w.isEmpty).filterMap fun w =>
    match w.splitOn ":" with
    | [span, codes] =>
      let bounds := (span.splitOn "-").map (hexValue ·.toList)
      let first := bounds.headD 0
      some ⟨first, bounds.getLastD first, codesOf codes.toList⟩
    | _ => none

/-- The set table of a binary property, by its full name. -/
def propertyRanges? (name : String) : Option (List (Nat × Nat)) :=
  (propertyTables.lookup name).map setRanges

/-- The letters that may name a group, sorted: the Alphabetic property of Unicode 17.0. -/
def alphabeticRanges : Array (Nat × Nat) := (setRanges letterTable).toArray

/-- The numbers that may name a group, sorted: the Number categories of Unicode 17.0. -/
def numericRanges : Array (Nat × Nat) := (setRanges numberTable).toArray

/-- Whether a character is alphabetic, by Unicode 17.0. -/
def isAlphabetic (c : Char) : Bool := containsSorted alphabeticRanges c.toNat

/-- Whether a character is a number by Unicode 17.0: a decimal digit, a letter number or another
number. -/
def isNumeric (c : Char) : Bool := containsSorted numericRanges c.toNat

/-- The age of every code point, run by run. -/
def ageRuns : List Run := valueRuns ageTable

/-- The ages, oldest first. -/
def ageNames : List String := (aliasGroups ageAliases).filterMap List.head?

/-- The code points assigned by a version of the database or by an earlier one. -/
def agedRanges (age : String) : List (Nat × Nat) :=
  rangesWhere ageRuns (ageNames.takeWhile (· != age) ++ [age])

/-- The code points that have one value in a value table. -/
def valueRanges (table : RunTable) (value : String) : List (Nat × Nat) :=
  rangesWhere (valueRuns table) [value]

/-- The classes of code points equal under simple case folding. -/
def foldClasses : List (List Nat) := groups foldTable

end ClassMetrics.Unicode
