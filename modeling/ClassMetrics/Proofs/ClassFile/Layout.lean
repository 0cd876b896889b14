import ClassMetrics.ClassFile.Decode
import ClassMetrics.Proofs.ClassFile.Descriptors
import Mathlib.Data.List.Forall2

/-!
Class files laid out as the class-file format writes them. A layout fixes every choice a writer
makes: the version, the constants of the pool in their order (a long or a double taking two
slots), the pool indices that the class and its members refer to, and each attribute table,
where attributes the reader passes over may stand anywhere among the ones it reads. `bytes`
writes a layout out; `Serializes` says when a layout writes a given class, with each text
written once into the pool as its modified UTF-8 bytes.
-/

namespace ClassMetrics.ClassFile

/-- The two bytes of a number below 2^16, high byte first. -/
def u2Bytes (n : Nat) : List UInt8 := [(n / 0x100).toUInt8, (n % 0x100).toUInt8]

/-- The four bytes of a number below 2^32, high byte first. -/
def u4Bytes (n : Nat) : List UInt8 :=
  [(n / 0x1000000).toUInt8, (n / 0x10000 % 0x100).toUInt8, (n / 0x100 % 0x100).toUInt8,
    (n % 0x100).toUInt8]

/-- A constant as written into a pool: what it means, and for a number its raw bytes. -/
structure PoolEntry where
  constant : Constant
  payload : List UInt8 := []

namespace PoolEntry

/-- The tag byte of an entry. -/
def tag (e : PoolEntry) : UInt8 :=
  match e.constant with
  | .utf8 _ => 1
  | .integer => 3
  | .float => 4
  | .long => 5
  | .double => 6
  | .classRef _ => 7
  | .string _ => 8
  | .fieldRef _ _ => 9
  | .methodRef _ _ => 10
  | .interfaceMethodRef _ _ => 11
  | .nameAndType _ _ => 12
  | .methodHandle _ _ => 15
  | .methodType _ => 16
  | .dynamic _ _ => 17
  | .invokeDynamic _ _ => 18
  | .module _ => 19
  | .package _ => 20

/-- What an entry holds after its tag: a text's length and modified UTF-8 bytes, a number's raw
bytes, or the indices it refers to. -/
def body (e : PoolEntry) : List UInt8 :=
  match e.constant with
  | .utf8 s => u2Bytes (ModifiedUtf8.encode s).length ++ ModifiedUtf8.encode s
  | .integer | .float | .long | .double => e.payload
  | .classRef n | .string n | .methodType n | .module n | .package n => u2Bytes n
  | .fieldRef a b | .methodRef a b | .interfaceMethodRef a b | .nameAndType a b | .dynamic a b
  | .invokeDynamic a b => u2Bytes a ++ u2Bytes b
  | .methodHandle k r => k.toUInt8 :: u2Bytes r

/-- The bytes of an entry: its tag, then what it holds. -/
def bytes (e : PoolEntry) : List UInt8 := e.tag :: e.body

/-- The pool slots an entry fills: two for a long or a double, the second one unusable. -/
def slots (e : PoolEntry) : List (Option Constant) :=
  match e.constant with
  | .long => [some .long, none]
  | .double => [some .double, none]
  | c => [some c]

/-- An entry that the format can hold: a text of at most 2^16 - 1 bytes, a number of its width,
indices of two bytes and a reference kind of one. -/
def Writable (e : PoolEntry) : Prop :=
  match e.constant with
  | .utf8 s => (ModifiedUtf8.encode s).length < 0x10000
  | .integer | .float => e.payload.length = 4
  | .long | .double => e.payload.length = 8
  | .classRef n | .string n | .methodType n | .module n | .package n => n < 0x10000
  | .fieldRef a b | .methodRef a b | .interfaceMethodRef a b | .nameAndType a b | .dynamic a b
  | .invokeDynamic a b => a < 0x10000 ∧ b < 0x10000
  | .methodHandle k r => k < 0x100 ∧ r < 0x10000

end PoolEntry

/-- An attribute as written: one of the three the reader looks into, or another one, which it
passes over by its length. -/
inductive AttributeLayout
  | signature (nameIndex textIndex : Nat)
  | exceptions (nameIndex : Nat) (classIndices : List Nat)
  | code (nameIndex : Nat) (body : List UInt8)
  | other (nameIndex : Nat) (body : List UInt8)

namespace AttributeLayout

def nameIndex : AttributeLayout → Nat
  | .signature n _ | .exceptions n _ | .code n _ | .other n _ => n

/-- The body of an attribute: the index of a signature, the count and indices of the classes
a method throws, or bytes as they are. -/
def body : AttributeLayout → List UInt8
  | .signature _ i => u2Bytes i
  | .exceptions _ is => u2Bytes is.length ++ is.flatMap u2Bytes
  | .code _ b | .other _ b => b

def bytes (a : AttributeLayout) : List UInt8 :=
  u2Bytes a.nameIndex ++ u4Bytes a.body.length ++ a.body

def isCode : AttributeLayout → Bool
  | .code _ _ => true
  | _ => false

end AttributeLayout

/-- The bytes of an attribute table: its count, then the attributes. -/
def attributeTableBytes (as : List AttributeLayout) : List UInt8 :=
  u2Bytes as.length ++ as.flatMap AttributeLayout.bytes

/-- A field as written: its flags, the pool indices of its name and descriptor, and its
attributes. -/
structure FieldLayout where
  access : Nat
  nameIndex : Nat
  descriptorIndex : Nat
  attributes : List AttributeLayout

def FieldLayout.bytes (f : FieldLayout) : List UInt8 :=
  u2Bytes f.access ++ u2Bytes f.nameIndex ++ u2Bytes f.descriptorIndex ++
    attributeTableBytes f.attributes

/-- A method as written, laid out as a field is. -/
structure MethodLayout where
  access : Nat
  nameIndex : Nat
  descriptorIndex : Nat
  attributes : List AttributeLayout

def MethodLayout.bytes (m : MethodLayout) : List UInt8 :=
  u2Bytes m.access ++ u2Bytes m.nameIndex ++ u2Bytes m.descriptorIndex ++
    attributeTableBytes m.attributes

/-- A whole class file as written, with the bytes that follow it. -/
structure ClassLayout where
  minor : Nat
  major : Nat
  pool : List PoolEntry
  access : Nat
  thisIndex : Nat
  superIndex : Nat
  interfaceIndices : List Nat
  fields : List FieldLayout
  methods : List MethodLayout
  attributes : List AttributeLayout
  trailing : List UInt8

namespace ClassLayout

variable (L : ClassLayout)

/-- The slots of the pool, slot zero first. -/
def slots : List (Option Constant) := none :: L.pool.flatMap PoolEntry.slots

/-- The bytes of the class file, then the bytes after it. -/
def bytes : List UInt8 :=
  u4Bytes magic ++ u2Bytes L.minor ++ u2Bytes L.major ++ u2Bytes L.slots.length ++
    L.pool.flatMap PoolEntry.bytes ++ u2Bytes L.access ++ u2Bytes L.thisIndex ++
    u2Bytes L.superIndex ++ u2Bytes L.interfaceIndices.length ++
    L.interfaceIndices.flatMap u2Bytes ++ u2Bytes L.fields.length ++
    L.fields.flatMap FieldLayout.bytes ++ u2Bytes L.methods.length ++
    L.methods.flatMap MethodLayout.bytes ++ attributeTableBytes L.attributes ++ L.trailing

/-- The text at a pool index. -/
def text? (i : Nat) : Option String :=
  match L.slots[i]? with
  | some (some (.utf8 s)) => some s
  | _ => none

/-- The class name that the class constant at a pool index points to. -/
def className? (i : Nat) : Option String :=
  match L.slots[i]? with
  | some (some (.classRef n)) => L.text? n
  | _ => none

/-- An attribute that the reader can read: its name is a text of the pool, its body fits a
four-byte length, a signature points to a text and the classes a method throws to class
constants; an attribute of another name is none of the three. -/
def AttributeReadable (a : AttributeLayout) : Prop :=
  a.body.length < 0x100000000 ∧
  match a with
  | .signature n i => L.text? n = some "Signature" ∧ (L.text? i).isSome
  | .exceptions n is => L.text? n = some "Exceptions" ∧ is.length < 0x10000 ∧
      ∀ i ∈ is, (L.className? i).isSome
  | .code n _ => L.text? n = some "Code"
  | .other n _ => ∃ s, L.text? n = some s ∧ s ≠ "Signature" ∧ s ≠ "Exceptions" ∧ s ≠ "Code"

/-- The signature an attribute table gives: that of its last `Signature` attribute. -/
def signatureOf (as : List AttributeLayout) : Option String :=
  (as.filterMap fun
    | .signature _ i => L.text? i
    | _ => none).getLast?

/-- The classes an attribute table says a method throws, over all its `Exceptions`
attributes. -/
def exceptionsOf (as : List AttributeLayout) : List String :=
  as.flatMap fun
    | .exceptions _ is => is.filterMap L.className?
    | _ => []

/-- A field layout that writes a field: its name and descriptor are texts of the pool, the
descriptor spells a field type, and its attributes give its signature. -/
structure FieldSerializes (fl : FieldLayout) (f : FieldInfo) : Prop where
  access : fl.access = f.access
  access_lt : f.access < 0x10000
  name : L.text? fl.nameIndex = some f.name
  descriptor : L.text? fl.descriptorIndex = some f.descriptor
  spells : ∃ t : Descriptor.FieldType, t.Spellable ∧ f.descriptor = String.ofList t.render
  readable : ∀ a ∈ fl.attributes, L.AttributeReadable a
  count : fl.attributes.length < 0x10000
  signature : f.signature = L.signatureOf fl.attributes

/-- A method layout that writes a method read without its body: as for a field, with a method
descriptor, the classes its attributes say it throws, and a body exactly when it has a `Code`
attribute. -/
structure MethodSerializes (ml : MethodLayout) (m : MethodInfo) : Prop where
  access : ml.access = m.access
  access_lt : m.access < 0x10000
  name : L.text? ml.nameIndex = some m.name
  descriptor : L.text? ml.descriptorIndex = some m.descriptor
  spells : ∃ t : Descriptor.MethodType, t.Spellable ∧ m.descriptor = String.ofList t.render
  readable : ∀ a ∈ ml.attributes, L.AttributeReadable a
  count : ml.attributes.length < 0x10000
  signature : m.signature = L.signatureOf ml.attributes
  exceptions : m.exceptions = L.exceptionsOf ml.attributes
  hasCode : m.hasCode = ml.attributes.any AttributeLayout.isCode
  code : m.code = none

/-- A layout that writes a class, read without method bodies: every pool entry can be written,
the class, its superclass (none for index zero) and its interfaces are class constants of the
pool, every member is written by its layout in order, the class attributes give its signature,
and every count fits two bytes. -/
structure Serializes (c : ClassInfo) : Prop where
  writable : ∀ e ∈ L.pool, e.Writable
  slots_lt : L.slots.length < 0x10000
  version_lt : L.minor < 0x10000 ∧ L.major < 0x10000
  access : L.access = c.access
  access_lt : c.access < 0x10000
  name : L.className? L.thisIndex = some c.name
  superClass : if L.superIndex = 0 then c.superClass = none
    else L.className? L.superIndex = c.superClass ∧ c.superClass.isSome
  interfaces : L.interfaceIndices.map L.className? = c.interfaces.map some
  fields : List.Forall₂ L.FieldSerializes L.fields c.fields
  methods : List.Forall₂ L.MethodSerializes L.methods c.methods
  readable : ∀ a ∈ L.attributes, L.AttributeReadable a
  signature : c.signature = L.signatureOf L.attributes
  counts : L.interfaceIndices.length < 0x10000 ∧ L.fields.length < 0x10000 ∧
    L.methods.length < 0x10000 ∧ L.attributes.length < 0x10000
  level : c.level = .structureOnly

end ClassLayout

end ClassMetrics.ClassFile
