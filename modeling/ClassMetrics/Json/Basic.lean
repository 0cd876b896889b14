import ClassMetrics.Prelude

/-!
JSON values. A number keeps whether it was written as an integer: an integer literal that fits
in 64 bits (unsigned, or signed when negative) is an `int`, every other number a `float`.
Object members keep their order and their repeats; a look-up finds the last member of a name.
-/

namespace ClassMetrics.Json

/-- A JSON value. -/
inductive Value
  | null
  | bool (b : Bool)
  | int (n : Int)
  | float (x : Float)
  | str (s : String)
  | arr (items : List Value)
  | obj (fields : List (String × Value))
  deriving Inhabited, Repr

namespace Value

/-- A member's value is smaller than the object's member list. -/
theorem sizeOf_snd_lt_of_mem {fs : List (String × Value)} {kv : String × Value} (h : kv ∈ fs) :
    sizeOf kv.2 < 1 + sizeOf fs := by
  have := List.sizeOf_lt_of_mem h
  cases kv
  simp at this ⊢
  omega

/-- The last member of an object with this name. -/
def field? (v : Value) (name : String) : Option Value :=
  match v with
  | .obj fields => (fields.reverse.find? (·.1 == name)).map (·.2)
  | _ => none

/-- Whether an object has a member of this name. -/
def has (v : Value) (name : String) : Bool := (v.field? name).isSome

/-- The text of a string value. -/
def str? : Value → Option String
  | .str s => some s
  | _ => none

/-- The truth value of a boolean. -/
def bool? : Value → Option Bool
  | .bool b => some b
  | _ => none

/-- The value of an integer literal. -/
def int? : Value → Option Int
  | .int n => some n
  | _ => none

/-- The value of an integer literal that is not negative. -/
def nat? : Value → Option Nat
  | .int n => if n ≥ 0 then some n.toNat else none
  | _ => none

/-- The items of an array. -/
def arr? : Value → Option (List Value)
  | .arr xs => some xs
  | _ => none

/-- The members of an object. -/
def obj? : Value → Option (List (String × Value))
  | .obj fs => some fs
  | _ => none

/-- Whether the value is `null`. -/
def isNull : Value → Bool
  | .null => true
  | _ => false

/-- A number as a double: integers convert with rounding to nearest. -/
def num? : Value → Option Float
  | .int n => some (if n ≥ 0 then Float.ofNat n.toNat else -Float.ofNat n.natAbs)
  | .float x => some x
  | _ => none

/-- An array of strings. -/
def ofStrings (xs : List String) : Value := .arr (xs.map .str)

/-- A string, or `null`. -/
def ofOption (x : Option String) : Value := (x.map .str).getD .null

end Value

end ClassMetrics.Json
