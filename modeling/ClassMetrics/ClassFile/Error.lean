import ClassMetrics.Text.Hex

/-!
Why a byte string is not a well-formed class file: one constructor a cause, and the one
sentence that reports each.
-/

namespace ClassMetrics.ClassFile

/-- The kind of constant that a look-up in the constant pool expected at an index. -/
inductive ConstantKind
  | utf8
  | classRef
  | nameAndType
  | memberRef
  deriving DecidableEq, Repr

/-- How the kind is named in a report. -/
def ConstantKind.title : ConstantKind → String
  | .utf8 => "Utf8"
  | .classRef => "Class"
  | .nameAndType => "NameAndType"
  | .memberRef => "member reference"

/-- A reason for refusing a class file; offsets count bytes from the start of the buffer read. -/
inductive FormatError
  /-- The first four bytes are not the class-file magic number. -/
  | badMagic (magic : Nat)
  /-- A read starting at `offset` needed more bytes than the buffer holds. -/
  | truncated (offset : Nat)
  /-- The constant at `offset` has a tag byte that names no kind of constant. -/
  | badConstantTag (tag offset : Nat)
  /-- The index is zero, past the pool, or the unusable second slot of a wide constant. -/
  | badConstantIndex (index : Nat)
  /-- The constant at `index` exists but is of another kind than `expected`. -/
  | unexpectedConstant (index : Nat) (expected : ConstantKind)
  /-- A string constant is not modified UTF-8 or holds an unpaired surrogate. -/
  | badUtf8
  /-- The whole text is not a field or method descriptor. -/
  | badDescriptor (text : String)
  /-- The whole text is not a generic signature. -/
  | badSignature (text : String)
  /-- The instruction at `offset` of a code array has an opcode that does not exist. -/
  | badOpcode (opcode offset : Nat)
  deriving DecidableEq, Repr

namespace FormatError

/-- The name of the cause, as reports label it. -/
def kind : FormatError → String
  | .badMagic _ => "BadMagic"
  | .truncated _ => "Truncated"
  | .badConstantTag .. => "BadConstantTag"
  | .badConstantIndex _ => "BadConstantIndex"
  | .unexpectedConstant .. => "UnexpectedConstant"
  | .badUtf8 => "BadUtf8"
  | .badDescriptor _ => "BadDescriptor"
  | .badSignature _ => "BadSignature"
  | .badOpcode .. => "BadOpcode"

/-- The sentence that reports the cause. -/
def message : FormatError → String
  | .badMagic m => "not a class file (magic " ++ Hex.prefixed 8 m ++ ")"
  | .truncated o => "unexpected end of class file at offset " ++ toString o
  | .badConstantTag t o => "invalid constant pool tag " ++ toString t ++ " at offset " ++ toString o
  | .badConstantIndex i => "invalid constant pool index " ++ toString i
  | .unexpectedConstant i k => "constant pool entry " ++ toString i ++ " is not a " ++ k.title
  | .badUtf8 => "invalid modified UTF-8 string"
  | .badDescriptor d => "malformed descriptor `" ++ d ++ "`"
  | .badSignature s => "malformed generic signature `" ++ s ++ "`"
  | .badOpcode op o => "unknown opcode " ++ Hex.prefixed 2 op ++ " at offset " ++ toString o

end FormatError

end ClassMetrics.ClassFile
