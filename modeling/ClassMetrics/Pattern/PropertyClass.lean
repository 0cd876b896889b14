import ClassMetrics.Pattern.Ast
import ClassMetrics.Pattern.CharClass

/-!
The characters a Unicode class names. A bare name, or one letter, is looked up first among the
binary properties, then among the general categories, then among the scripts; the names `cf`,
`sc` and `lc` are categories there, not the properties they abbreviate. A property and a value
name a general category, a script, the script extensions of a script, an age, or a value of the
grapheme cluster, sentence or word break property; an age takes in every earlier one. The general
categories also know `Any`, `ASCII` and `Assigned`. A name that none of these knows is refused,
as is the value Other of a break property and the age of code points not yet assigned.
-/

namespace ClassMetrics.Pattern

open ClassMetrics.Unicode

/-- The code points of a general category by its loose name, with the special names `any`,
`assigned` and `ascii`. The surrogate category is not known: no character is a surrogate. -/
def categoryClass? (loose : String) : Option CharClass :=
  match loose with
  | "any" => some CharClass.all
  | "ascii" => some (CharClass.range 0 0x7F)
  | "assigned" => some (CharClass.ofRanges (categoryRanges ["Cn"])).complement
  | _ => (canonicalName? categoryAliases loose).bind fun code =>
    if code == "Cs" then none else some (CharClass.ofRanges (categoryRanges [code]))

/-- The code of a script that some code point has, by its loose name. -/
def scriptCode? (loose : String) : Option String :=
  (canonicalName? scriptAliases loose).bind fun code =>
    if knownScripts.contains code then some code else none

/-- The code points of a script. -/
def scriptClass (code : String) : CharClass := CharClass.ofRanges (scriptRanges code)

/-- The code points used with a script: those of the script whose script extensions are not
listed, and those whose listed script extensions include it. -/
def extensionClass (code : String) : CharClass :=
  let listed := CharClass.ofRanges (extensions.map fun e => (e.first, e.last))
  let included := CharClass.ofRanges ((extensions.filter fun e => e.scripts.contains code).map
    fun e => (e.first, e.last))
  ((scriptClass code).diff listed).union included

/-- The code points of a binary property by its full name. -/
def booleanClass? (name : String) : Option CharClass :=
  (propertyRanges? name).map CharClass.ofRanges

/-- The class a bare name or a single letter names. -/
def namedClass (name : String) : Except PatternError CharClass :=
  let loose := looseName name
  let property := if loose == "cf" || loose == "sc" || loose == "lc" then none
    else canonicalName? propertyAliases loose
  match property with
  | some full =>
    match booleanClass? full with
    | some c => .ok c
    | none => .error .unknownProperty
  | none =>
    match categoryClass? loose with
    | some c => .ok c
    | none =>
      match scriptCode? loose with
      | some code => .ok (scriptClass code)
      | none => .error .unknownProperty

/-- The class of the value of a property listed in an alias table, with the code points of
each value. -/
def tableClass (aliases : String) (ranges : String → List (Nat × Nat)) (loose : String) :
    Except PatternError CharClass :=
  match canonicalName? aliases loose with
  | some value => .ok (CharClass.ofRanges (ranges value))
  | none => .error .unknownProperty

/-- The class a property and a value name. -/
def valueClass (property value : String) : Except PatternError CharClass :=
  let loose := looseName value
  match canonicalName? propertyAliases (looseName property) with
  | some "General_Category" =>
    match categoryClass? loose with
    | some c => .ok c
    | none => .error .unknownProperty
  | some "Script" =>
    match scriptCode? loose with
    | some code => .ok (scriptClass code)
    | none => .error .unknownProperty
  | some "Script_Extensions" =>
    match scriptCode? loose with
    | some code => .ok (extensionClass code)
    | none => .error .unknownProperty
  | some "Age" => tableClass ageAliases agedRanges loose
  | some "Grapheme_Cluster_Break" =>
    tableClass graphemeBreakAliases (valueRanges graphemeBreakTable) loose
  | some "Sentence_Break" => tableClass sentenceBreakAliases (valueRanges sentenceBreakTable) loose
  | some "Word_Break" => tableClass wordBreakAliases (valueRanges wordBreakTable) loose
  | _ => .error .unknownProperty

/-- The class a Unicode class query names, before any negation. -/
def UnicodeQuery.toClass : UnicodeQuery → Except PatternError CharClass
  | .oneLetter c => namedClass (String.singleton c)
  | .named name => namedClass name
  | .byValue property value _ => valueClass property value

/-- Whether a query negates its class with `!=`. -/
def UnicodeQuery.negates : UnicodeQuery → Bool
  | .byValue _ _ notEqual => notEqual
  | _ => false

end ClassMetrics.Pattern
