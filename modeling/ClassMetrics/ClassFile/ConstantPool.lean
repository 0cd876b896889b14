import ClassMetrics.ClassFile.Cursor
import ClassMetrics.Text.ModifiedUtf8

/-!
The constant pool of a class file: a table of constants that the rest of the file refers to
by index. Slot zero is never used, and a long or double constant takes two slots, the second
of which is unusable too. Look-ups report a bad index and a constant of the wrong kind as two
different causes.
-/

namespace ClassMetrics.ClassFile

/-- A constant-pool entry. Numeric constants keep only their kind, so that indices stay
aligned; the others keep the indices or text they hold. -/
inductive Constant
  | utf8 (value : String)
  | integer
  | float
  | long
  | double
  | classRef (nameIndex : Nat)
  | string (stringIndex : Nat)
  | fieldRef (classIndex natIndex : Nat)
  | methodRef (classIndex natIndex : Nat)
  | interfaceMethodRef (classIndex natIndex : Nat)
  | nameAndType (nameIndex descriptorIndex : Nat)
  | methodHandle (referenceKind referenceIndex : Nat)
  | methodType (descriptorIndex : Nat)
  | dynamic (bootstrapIndex natIndex : Nat)
  | invokeDynamic (bootstrapIndex natIndex : Nat)
  | module (nameIndex : Nat)
  | package (nameIndex : Nat)
  deriving DecidableEq, Repr

/-- A field or method named through the pool: its class, its name and its descriptor. -/
structure MemberRef where
  owner : String
  name : String
  descriptor : String
  deriving DecidableEq, Repr

/-- The slots of a pool in index order; `none` marks an unusable slot. -/
structure ConstantPool where
  slots : Array (Option Constant)
  deriving Repr

/-- The text that modified UTF-8 bytes encode, or the cause for refusing them. -/
def decodeText (bytes : List UInt8) : Except FormatError String :=
  match ModifiedUtf8.decode bytes with
  | some s => .ok s
  | none => .error .badUtf8

namespace ConstantPool

open Decoder

/-- Reads the slots of one constant after its tag: one slot, or two for a long or double. -/
def readConstant (offset tag : Nat) : Decoder (List (Option Constant)) :=
  let one (c : Constant) : Decoder (List (Option Constant)) := pure [some c]
  match tag with
  | 1 => do
    let len ← u2
    let bytes ← take len
    one (.utf8 (← lift (decodeText bytes)))
  | 3 => do skip 4; one .integer
  | 4 => do skip 4; one .float
  | 5 => do skip 8; pure [some .long, none]
  | 6 => do skip 8; pure [some .double, none]
  | 7 => do one (.classRef (← u2))
  | 8 => do one (.string (← u2))
  | 9 => do let a ← u2; let b ← u2; one (.fieldRef a b)
  | 10 => do let a ← u2; let b ← u2; one (.methodRef a b)
  | 11 => do let a ← u2; let b ← u2; one (.interfaceMethodRef a b)
  | 12 => do let a ← u2; let b ← u2; one (.nameAndType a b)
  | 15 => do let a ← u1; let b ← u2; one (.methodHandle a b)
  | 16 => do one (.methodType (← u2))
  | 17 => do let a ← u2; let b ← u2; one (.dynamic a b)
  | 18 => do let a ← u2; let b ← u2; one (.invokeDynamic a b)
  | 19 => do one (.module (← u2))
  | 20 => do one (.package (← u2))
  | t => lift (.error (.badConstantTag t offset))

/-- Reads constants while fewer than `count` slots are filled. Every constant fills at least
one slot, so `fuel` of `count` steps is enough. -/
def readSlots (count : Nat) : Nat → Array (Option Constant) → Decoder (Array (Option Constant))
  | 0, acc => pure acc
  | fuel + 1, acc =>
    if acc.size < count then do
      let offset ← position
      let tag ← u1
      let slots ← readConstant offset tag
      readSlots count fuel (acc ++ slots.toArray)
    else pure acc

/-- Reads a pool: its two-byte count, then the constants. A wide constant at the end may
overrun the count by its unusable slot, which is dropped again. -/
def read : Decoder ConstantPool := do
  let count ← u2
  let slots ← readSlots count count #[none]
  pure ⟨slots.extract 0 (max count 1)⟩

/-- The number of slots, slot zero included. -/
def size (p : ConstantPool) : Nat := p.slots.size

/-- Whether the pool has no constant at all. -/
def isEmpty (p : ConstantPool) : Bool := p.size ≤ 1

/-- The constant at an index, which must be a usable slot. -/
def get (p : ConstantPool) (i : Nat) : Except FormatError Constant :=
  match p.slots[i]? with
  | some (some c) => .ok c
  | _ => .error (.badConstantIndex i)

/-- The text of a string constant. -/
def utf8 (p : ConstantPool) (i : Nat) : Except FormatError String := do
  match ← p.get i with
  | .utf8 s => pure s
  | _ => throw (.unexpectedConstant i .utf8)

/-- The name that a class constant refers to. -/
def className (p : ConstantPool) (i : Nat) : Except FormatError String := do
  match ← p.get i with
  | .classRef n => p.utf8 n
  | _ => throw (.unexpectedConstant i .classRef)

/-- The name and descriptor that a name-and-type constant refers to. -/
def nameAndType (p : ConstantPool) (i : Nat) : Except FormatError (String × String) := do
  match ← p.get i with
  | .nameAndType n d => pure (← p.utf8 n, ← p.utf8 d)
  | _ => throw (.unexpectedConstant i .nameAndType)

/-- The member that a field, method or interface-method constant refers to. Its name and
type are resolved before its class. -/
def memberRef (p : ConstantPool) (i : Nat) : Except FormatError MemberRef := do
  let (c, nt) ← match ← p.get i with
    | .fieldRef c nt => pure (c, nt)
    | .methodRef c nt => pure (c, nt)
    | .interfaceMethodRef c nt => pure (c, nt)
    | _ => throw (.unexpectedConstant i .memberRef)
  let (name, descriptor) ← p.nameAndType nt
  let owner ← p.className c
  pure ⟨owner, name, descriptor⟩

/-- The class that a loadable constant names, if it is a class constant; any other usable
constant names none. -/
def loadableClass (p : ConstantPool) (i : Nat) : Except FormatError (Option String) := do
  match ← p.get i with
  | .classRef n => some <$> p.utf8 n
  | _ => pure none

end ConstantPool

end ClassMetrics.ClassFile
