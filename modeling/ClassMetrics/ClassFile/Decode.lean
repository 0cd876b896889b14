import ClassMetrics.ClassFile.Basic
import ClassMetrics.ClassFile.Signature

/-!
Decoding a class file: the magic number, the version, the constant pool, the class header,
the fields, the methods and the class attributes, in that order. Descriptors of fields and
methods are checked as they are read. Only the attributes that name other types are looked
into (`Signature`, `Exceptions`, `Code` and the local variable tables); the others are passed
over by their length, and bytes after the class attributes are never read. A method body is
decoded only at the higher detail level.
-/

namespace ClassMetrics.ClassFile

open Decoder

variable {σ : Type}

/-- Reads an attribute table, folding `step` over each attribute's name and body in order.
The name is resolved before the length is read. -/
def attributes (pool : ConstantPool) (step : σ → String → List UInt8 → Except FormatError σ)
    (init : σ) : Decoder σ := do
  let count ← u2
  go count init
where
  /-- Reads the remaining `n` attributes. -/
  go : Nat → σ → Decoder σ
    | 0, s => pure s
    | n + 1, s => do
      let name ← lift (pool.utf8 (← u2))
      let len ← u4
      let body ← take len
      let s' ← lift (step s name body)
      go n s'

/-- The text a `Signature` attribute points to. -/
def signatureOf (pool : ConstantPool) (body : List UInt8) : Except FormatError String :=
  (do lift (pool.utf8 (← u2)) : Decoder String).runValue body

/-- Keeps the last `Signature` attribute of a table. -/
def lastSignature (pool : ConstantPool) (sig : Option String) (name : String)
    (body : List UInt8) : Except FormatError (Option String) :=
  if name = "Signature" then some <$> signatureOf pool body else pure sig

/-- The classes an `Exceptions` attribute lists, as they are written. -/
def exceptionsOf (pool : ConstantPool) (body : List UInt8) : Except FormatError (List String) :=
  (do times (← u2) (do lift (pool.className (← u2))) : Decoder (List String)).runValue body

/-- The classes named by the entries of a local variable table: by descriptor rules for a
`LocalVariableTable`, by signature rules for a `LocalVariableTypeTable`. -/
def localVariableClasses (pool : ConstantPool) (typeTable : Bool) (body : List UInt8) :
    Except FormatError (List String) :=
  let entry : Decoder (List String) := do
    skip 6
    let text ← lift (pool.utf8 (← u2))
    skip 2
    lift (if typeTable then Signature.referencedClasses text else Descriptor.referencedClasses text)
  (do let lists ← times (← u2) entry; pure lists.flatten : Decoder (List String)).runValue body

/-- The shape of a body, read off its instructions. -/
def BodyShape.ofInstructions : List Instruction → BodyShape
  | [i] => if i.opcode = Opcode.return_ then .empty else .other
  | [load, get, ret] =>
    if load.opcode = Opcode.aload0 ∧ Opcode.isValueReturn ret.opcode then
      match get.ref with
      | some (.field m false false) => .getter m
      | _ => .other
    else .other
  | [load, value, put, ret] =>
    if load.opcode = Opcode.aload0 ∧ Opcode.isLoad1 value.opcode ∧ ret.opcode = Opcode.return_ then
      match put.ref with
      | some (.field m true false) => .setter m
      | _ => .other
    else .other
  | _ => .other

/-- The catch type of one exception-table entry, as an element class; zero catches all. -/
def catchType (pool : ConstantPool) : Decoder (Option String) := do
  skip 6
  let index ← u2
  if index = 0 then pure none
  else pure (Descriptor.elementClass (← lift (pool.className index)))

/-- Decodes the body of a `Code` attribute. -/
def readCode (pool : ConstantPool) : Decoder CodeInfo := do
  let _maxStack ← u2
  let _maxLocals ← u2
  let length ← u4
  let code ← take length
  let instructions ← lift (Instruction.decodeAll pool code)
  let catchTypes ← times (← u2) (catchType pool)
  let locals ← attributes pool (fun acc name body =>
    if name = "LocalVariableTable" then (acc ++ ·) <$> localVariableClasses pool false body
    else if name = "LocalVariableTypeTable" then (acc ++ ·) <$> localVariableClasses pool true body
    else pure acc) []
  pure {
    references := instructions.filterMap (·.ref)
    catchTypes := catchTypes.filterMap id
    localVariableTypes := locals
    shape := BodyShape.ofInstructions instructions }

/-- Reads a field: flags, name, descriptor (which must be a field type) and attributes. -/
def readFieldInfo (pool : ConstantPool) : Decoder FieldInfo := do
  let access ← u2
  let name ← lift (pool.utf8 (← u2))
  let descriptor ← lift (pool.utf8 (← u2))
  let _ ← lift (Descriptor.parseField descriptor)
  let signature ← attributes pool (lastSignature pool) none
  pure ⟨access, name, descriptor, signature⟩

/-- The attributes of a method that this library keeps. Exceptions of several `Exceptions`
attributes add up; of several signatures or bodies the last one counts. -/
structure MethodAttributes where
  signature : Option String := none
  exceptions : List String := []
  hasCode : Bool := false
  code : Option CodeInfo := none

/-- Takes one attribute of a method into account. -/
def MethodAttributes.add (pool : ConstantPool) (level : DetailLevel) (a : MethodAttributes)
    (name : String) (body : List UInt8) : Except FormatError MethodAttributes :=
  if name = "Signature" then (fun s => { a with signature := some s }) <$> signatureOf pool body
  else if name = "Exceptions" then
    (fun es => { a with exceptions := a.exceptions ++ es }) <$> exceptionsOf pool body
  else if name = "Code" then
    if level = .structureAndCalls then
      (fun c => { a with hasCode := true, code := some c }) <$> (readCode pool).runValue body
    else pure { a with hasCode := true }
  else pure a

/-- Reads a method: flags, name, descriptor (which must be a method descriptor) and
attributes. -/
def readMethodInfo (pool : ConstantPool) (level : DetailLevel) : Decoder MethodInfo := do
  let access ← u2
  let name ← lift (pool.utf8 (← u2))
  let descriptor ← lift (pool.utf8 (← u2))
  let _ ← lift (Descriptor.parseMethod descriptor)
  let a ← attributes pool (MethodAttributes.add pool level) {}
  pure ⟨access, name, descriptor, a.signature, a.exceptions, a.hasCode, a.code⟩

/-- The magic number that opens every class file. -/
def magic : Nat := 0xCAFEBABE

/-- Reads a whole class file at a detail level. -/
def readClass (level : DetailLevel) : Decoder ClassInfo := do
  let m ← u4
  if m ≠ magic then throw (FormatError.badMagic m)
  let _minor ← u2
  let _major ← u2
  let pool ← ConstantPool.read
  let access ← u2
  let name ← lift (pool.className (← u2))
  let superIndex ← u2
  let superClass ← if superIndex = 0 then pure none else some <$> lift (pool.className superIndex)
  let interfaces ← times (← u2) (do lift (pool.className (← u2)))
  let fields ← times (← u2) (readFieldInfo pool)
  let methods ← times (← u2) (readMethodInfo pool level)
  let signature ← attributes pool (lastSignature pool) none
  pure ⟨name, access, superClass, interfaces, signature, fields, methods, level⟩

/-- Decodes a class file at a detail level. -/
def ClassInfo.decode (bytes : List UInt8) (level : DetailLevel) : Except FormatError ClassInfo :=
  (readClass level).runValue bytes

end ClassMetrics.ClassFile
