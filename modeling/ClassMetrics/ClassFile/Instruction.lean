import ClassMetrics.ClassFile.ConstantPool
import ClassMetrics.ClassFile.Descriptor

/-!
The instruction walker: it reads a code array one instruction at a time, knowing the operand
length of every opcode, and reports the operands that name a field, a method or a class
through the constant pool. Switch instructions pad their operands to a multiple of four bytes
counted from the start of the code array.
-/

namespace ClassMetrics.ClassFile

/-- A symbolic reference made by one instruction. -/
inductive CodeRef
  /-- A field read or written, of an instance or of the class. -/
  | field (member : MemberRef) (write isStatic : Bool)
  /-- A method invoked, on an instance or on the class. -/
  | method (member : MemberRef) (isStatic : Bool)
  /-- A class created, cast to, tested against or loaded as a constant. -/
  | type (name : String)
  deriving DecidableEq, Repr

/-- One decoded instruction: its opcode and the reference it makes, if any. -/
structure Instruction where
  opcode : Nat
  ref : Option CodeRef
  deriving DecidableEq, Repr

namespace Opcode

/-- `aload_0`, which loads the receiver. -/
def aload0 : Nat := 0x2a
/-- `return` from a `void` method. -/
def return_ : Nat := 0xb1

/-- Loads of local variable one, of any type. -/
def isLoad1 (op : Nat) : Bool := op = 0x1b || op = 0x1f || op = 0x23 || op = 0x27 || op = 0x2b

/-- Returns of a value, of any type. -/
def isValueReturn (op : Nat) : Bool := 0xac ≤ op && op ≤ 0xb0

/-- The operand length of an opcode whose operands have a fixed length and name nothing. -/
def operandLength? (op : Nat) : Option Nat :=
  if op ≤ 0x0f then some 0
  else if op = 0x10 then some 1
  else if op = 0x11 then some 2
  else if op = 0x14 then some 2
  else if 0x15 ≤ op ∧ op ≤ 0x19 then some 1
  else if 0x1a ≤ op ∧ op ≤ 0x35 then some 0
  else if 0x36 ≤ op ∧ op ≤ 0x3a then some 1
  else if 0x3b ≤ op ∧ op ≤ 0x83 then some 0
  else if op = 0x84 then some 2
  else if 0x85 ≤ op ∧ op ≤ 0x98 then some 0
  else if 0x99 ≤ op ∧ op ≤ 0xa8 then some 2
  else if op = 0xa9 then some 1
  else if 0xac ≤ op ∧ op ≤ 0xb1 then some 0
  else if op = 0xbc then some 1
  else if op = 0xbe ∨ op = 0xbf ∨ op = 0xc2 ∨ op = 0xc3 then some 0
  else if op = 0xc6 ∨ op = 0xc7 then some 2
  else if op = 0xc8 ∨ op = 0xc9 then some 4
  else if op = 0xca ∨ op = 0xfe ∨ op = 0xff then some 0
  else none

end Opcode

namespace Instruction

open Decoder

/-- The class named by a class constant, as an element class; a primitive array names none. -/
def classOperand (pool : ConstantPool) (index : Nat) : Except FormatError (Option CodeRef) :=
  (pool.className index).map fun n => (Descriptor.elementClass n).map .type

/-- The class literal that a loadable constant names, if it is a class constant. -/
def classLiteral (pool : ConstantPool) (index : Nat) : Except FormatError (Option CodeRef) :=
  (pool.loadableClass index).map fun n => (n.bind Descriptor.elementClass).map .type

/-- The padding after a switch opcode at `pc` that aligns its operands to four bytes. -/
def padding (pc : Nat) : Nat := (4 - (pc + 1) % 4) % 4

/-- Reads the operands of the opcode at `pc` and the reference they make. -/
def operands (pool : ConstantPool) (pc op : Nat) : Decoder (Option CodeRef) :=
  if op = 0xb2 ∨ op = 0xb3 ∨ op = 0xb4 ∨ op = 0xb5 then do
    let m ← lift (pool.memberRef (← u2))
    pure (some (.field m (op = 0xb3 ∨ op = 0xb5) (op = 0xb2 ∨ op = 0xb3)))
  else if op = 0xb6 ∨ op = 0xb7 ∨ op = 0xb8 then do
    let m ← lift (pool.memberRef (← u2))
    pure (some (.method m (op = 0xb8)))
  else if op = 0xb9 then do
    let m ← lift (pool.memberRef (← u2))
    skip 2
    pure (some (.method m false))
  else if op = 0xba then do
    skip 4
    pure none
  else if op = 0xbb ∨ op = 0xbd ∨ op = 0xc0 ∨ op = 0xc1 then do
    lift (classOperand pool (← u2))
  else if op = 0xc5 then do
    let index ← u2
    skip 1
    lift (classOperand pool index)
  else if op = 0x12 then do
    lift (classLiteral pool (← u1))
  else if op = 0x13 then do
    lift (classLiteral pool (← u2))
  else if op = 0xaa then do
    skip (padding pc)
    skip 4
    let low ← i4
    let high ← i4
    skip ((high - low + 1).toNat * 4)
    pure none
  else if op = 0xab then do
    skip (padding pc)
    skip 4
    let pairs ← i4
    skip (pairs.toNat * 8)
    pure none
  else if op = 0xc4 then do
    let modified ← u1
    skip (if modified = 0x84 then 4 else 2)
    pure none
  else
    match Opcode.operandLength? op with
    | some n => do skip n; pure none
    | none => lift (.error (.badOpcode op pc))

/-- Reads one instruction. -/
def read (pool : ConstantPool) : Decoder Instruction := do
  let pc ← position
  let op ← u1
  let ref ← operands pool pc op
  pure ⟨op, ref⟩

/-- Reads instructions until the code array ends; every instruction takes at least one
byte, so `fuel` of the array's length is enough. -/
def readAll (pool : ConstantPool) : Nat → Decoder (List Instruction)
  | 0 => pure []
  | fuel + 1 => do
    if ← atEnd then pure []
    else
      let i ← read pool
      let rest ← readAll pool fuel
      pure (i :: rest)

/-- Decodes a whole code array against a constant pool. -/
def decodeAll (pool : ConstantPool) (code : List UInt8) : Except FormatError (List Instruction) :=
  (readAll pool code.length).runValue code

end Instruction

end ClassMetrics.ClassFile
