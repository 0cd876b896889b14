import ClassMetrics.ClassFile.Decode
import ClassMetrics.Json.Basic

/-!
Decoded class files as JSON values: constants by their tag and fields, references by their
kind, descriptors as type trees.
-/

namespace ClassMetrics.ClassFile

open ClassMetrics.Json

/-- A member reference as `owner`, `name` and `descriptor`. -/
def MemberRef.toJson (m : MemberRef) : Value :=
  .obj [("owner", .str m.owner), ("name", .str m.name), ("descriptor", .str m.descriptor)]

/-- A constant as its tag and the indices or text it holds. -/
def Constant.toJson : Constant → Value
  | .utf8 s => .obj [("tag", .str "Utf8"), ("value", .str s)]
  | .integer => .obj [("tag", .str "Integer")]
  | .float => .obj [("tag", .str "Float")]
  | .long => .obj [("tag", .str "Long")]
  | .double => .obj [("tag", .str "Double")]
  | .classRef n => .obj [("tag", .str "Class"), ("name_index", .int n)]
  | .string n => .obj [("tag", .str "String"), ("string_index", .int n)]
  | .fieldRef c nt => .obj [("tag", .str "FieldRef"), ("class_index", .int c),
      ("name_and_type_index", .int nt)]
  | .methodRef c nt => .obj [("tag", .str "MethodRef"), ("class_index", .int c),
      ("name_and_type_index", .int nt)]
  | .interfaceMethodRef c nt => .obj [("tag", .str "InterfaceMethodRef"), ("class_index", .int c),
      ("name_and_type_index", .int nt)]
  | .nameAndType n d => .obj [("tag", .str "NameAndType"), ("name_index", .int n),
      ("descriptor_index", .int d)]
  | .methodHandle k i => .obj [("tag", .str "MethodHandle"), ("reference_kind", .int k),
      ("reference_index", .int i)]
  | .methodType d => .obj [("tag", .str "MethodType"), ("descriptor_index", .int d)]
  | .dynamic b nt => .obj [("tag", .str "Dynamic"), ("bootstrap_index", .int b),
      ("name_and_type_index", .int nt)]
  | .invokeDynamic b nt => .obj [("tag", .str "InvokeDynamic"), ("bootstrap_index", .int b),
      ("name_and_type_index", .int nt)]
  | .module n => .obj [("tag", .str "Module"), ("name_index", .int n)]
  | .package n => .obj [("tag", .str "Package"), ("name_index", .int n)]

/-- A reference made by an instruction, by its kind. -/
def CodeRef.toJson : CodeRef → Value
  | .field m w s => .obj [("kind", .str "field"), ("owner", .str m.owner), ("name", .str m.name),
      ("descriptor", .str m.descriptor), ("write", .bool w), ("static", .bool s)]
  | .method m s => .obj [("kind", .str "method"), ("owner", .str m.owner), ("name", .str m.name),
      ("descriptor", .str m.descriptor), ("static", .bool s)]
  | .type n => .obj [("kind", .str "type"), ("name", .str n)]

/-- A body shape by its kind, with the field a getter or setter touches. -/
def BodyShape.toJson : BodyShape → Value
  | .empty => .obj [("kind", .str "empty")]
  | .other => .obj [("kind", .str "other")]
  | .getter m => .obj [("kind", .str "getter"), ("owner", .str m.owner), ("name", .str m.name),
      ("descriptor", .str m.descriptor)]
  | .setter m => .obj [("kind", .str "setter"), ("owner", .str m.owner), ("name", .str m.name),
      ("descriptor", .str m.descriptor)]

/-- An instruction as its opcode and reference. -/
def Instruction.toJson (i : Instruction) : Value :=
  .obj [("opcode", .int i.opcode), ("reference", (i.ref.map CodeRef.toJson).getD .null)]

/-- What a method body refers to. -/
def CodeInfo.toJson (c : CodeInfo) : Value :=
  .obj [("references", .arr (c.references.map CodeRef.toJson)),
    ("catch_types", Value.ofStrings c.catchTypes),
    ("local_variable_types", Value.ofStrings c.localVariableTypes),
    ("shape", c.shape.toJson)]

/-- A field as declared. -/
def FieldInfo.toJson (f : FieldInfo) : Value :=
  .obj [("access", .int f.access), ("name", .str f.name), ("descriptor", .str f.descriptor),
    ("signature", Value.ofOption f.signature)]

/-- A method as declared. -/
def MethodInfo.toJson (m : MethodInfo) : Value :=
  .obj [("access", .int m.access), ("name", .str m.name), ("descriptor", .str m.descriptor),
    ("signature", Value.ofOption m.signature), ("exceptions", Value.ofStrings m.exceptions),
    ("has_code", .bool m.hasCode), ("code", (m.code.map CodeInfo.toJson).getD .null)]

/-- A decoded class file. -/
def ClassInfo.toJson (c : ClassInfo) : Value :=
  .obj [("name", .str c.name), ("access", .int c.access),
    ("super_class", Value.ofOption c.superClass), ("interfaces", Value.ofStrings c.interfaces),
    ("signature", Value.ofOption c.signature), ("level", .str c.level.name),
    ("fields", .arr (c.fields.map FieldInfo.toJson)),
    ("methods", .arr (c.methods.map MethodInfo.toJson))]

end ClassMetrics.ClassFile

namespace ClassMetrics.Descriptor

open ClassMetrics.Json

/-- A field type as a tree of `primitive`, `object` and `array`. -/
def FieldType.toJson : FieldType → Value
  | .base t => .obj [("primitive", .str (String.singleton t.letter))]
  | .object n => .obj [("object", .str n)]
  | .array t => .obj [("array", t.toJson)]

/-- A method type as its parameters and its result, `null` for `void`. -/
def MethodType.toJson (m : MethodType) : Value :=
  .obj [("parameters", .arr (m.params.map FieldType.toJson)),
    ("return_type", (m.result.map FieldType.toJson).getD .null)]

end ClassMetrics.Descriptor
