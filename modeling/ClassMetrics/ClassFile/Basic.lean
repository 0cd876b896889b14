import ClassMetrics.ClassFile.Instruction

/-!
What a decoded class file holds: the class's name, flags and supertypes, its fields and
methods with their descriptors and signatures, and, when the code was read, the references
each method body makes and the shape of short bodies.
-/

namespace ClassMetrics.ClassFile

/-- How much of a class file is read: the structure only, or the method bodies too. -/
inductive DetailLevel
  | structureOnly
  | structureAndCalls
  deriving DecidableEq, Repr

namespace DetailLevel

/-- The rank of a level; more detail ranks higher. -/
def rank : DetailLevel → Nat
  | .structureOnly => 0
  | .structureAndCalls => 1

instance : LE DetailLevel := ⟨fun a b => a.rank ≤ b.rank⟩
instance : LT DetailLevel := ⟨fun a b => a.rank < b.rank⟩
instance (a b : DetailLevel) : Decidable (a ≤ b) := inferInstanceAs (Decidable (a.rank ≤ b.rank))
instance (a b : DetailLevel) : Decidable (a < b) := inferInstanceAs (Decidable (a.rank < b.rank))

/-- The level's name in reports. -/
def name : DetailLevel → String
  | .structureOnly => "STRUCTURE_ONLY"
  | .structureAndCalls => "STRUCTURE_AND_CALLS"

/-- The level a name stands for. -/
def ofName? : String → Option DetailLevel
  | "STRUCTURE_ONLY" => some .structureOnly
  | "STRUCTURE_AND_CALLS" => some .structureAndCalls
  | _ => none

end DetailLevel

/-! Access flags: the bits that this library reads. -/
namespace Access

/-- The `private` bit. -/
def private_ : Nat := 0x0002
/-- The `static` bit. -/
def static : Nat := 0x0008
/-- The `interface` bit. -/
def interface : Nat := 0x0200
/-- The `abstract` bit. -/
def abstract : Nat := 0x0400
/-- The `synthetic` bit. -/
def synthetic : Nat := 0x1000

/-- Whether the flags have a bit set. -/
def has (flags bit : Nat) : Bool := flags &&& bit != 0

end Access

/-- The shape of a method body, for bodies short enough to be recognised. -/
inductive BodyShape
  /-- Only `return`. -/
  | empty
  /-- Loads the receiver, reads one of its fields, returns the value. -/
  | getter (field : MemberRef)
  /-- Loads the receiver and the first argument, writes one of its fields, returns. -/
  | setter (field : MemberRef)
  /-- Any other body. -/
  | other
  deriving DecidableEq, Repr

/-- What a method body refers to, and its shape. -/
structure CodeInfo where
  references : List CodeRef
  catchTypes : List String
  localVariableTypes : List String
  shape : BodyShape
  deriving DecidableEq, Repr

/-- A field as declared. -/
structure FieldInfo where
  access : Nat
  name : String
  descriptor : String
  signature : Option String
  deriving DecidableEq, Repr

/-- A method as declared; `code` is there only when bodies were read. -/
structure MethodInfo where
  access : Nat
  name : String
  descriptor : String
  signature : Option String
  exceptions : List String
  hasCode : Bool
  code : Option CodeInfo
  deriving DecidableEq, Repr

/-- A decoded class file. -/
structure ClassInfo where
  name : String
  access : Nat
  superClass : Option String
  interfaces : List String
  signature : Option String
  fields : List FieldInfo
  methods : List MethodInfo
  level : DetailLevel
  deriving DecidableEq, Repr

end ClassMetrics.ClassFile
