import ClassMetrics.ClassFile.Error

/-!
Field and method descriptors: the type text that class files attach to fields and methods
(`I`, `Ljava/lang/String;`, `(I[J)V`). A descriptor is read by a step that takes one field
type from the front of the text; `render` writes a type back. The main use is to list the
classes that a descriptor names, in order, looking through arrays.
-/

namespace ClassMetrics.Descriptor

open ClassMetrics.ClassFile

/-- The eight primitive types, each written as one letter. -/
inductive BaseType
  | byte
  | char
  | double
  | float
  | int
  | long
  | short
  | boolean
  deriving DecidableEq, Repr

/-- The letter that stands for a primitive type. -/
def BaseType.letter : BaseType → Char
  | .byte => 'B'
  | .char => 'C'
  | .double => 'D'
  | .float => 'F'
  | .int => 'I'
  | .long => 'J'
  | .short => 'S'
  | .boolean => 'Z'

/-- The primitive type a letter stands for. -/
def BaseType.ofLetter? : Char → Option BaseType
  | 'B' => some .byte
  | 'C' => some .char
  | 'D' => some .double
  | 'F' => some .float
  | 'I' => some .int
  | 'J' => some .long
  | 'S' => some .short
  | 'Z' => some .boolean
  | _ => none

/-- The type of a field, a parameter or a result. -/
inductive FieldType
  | base (t : BaseType)
  | object (name : String)
  | array (elem : FieldType)
  deriving DecidableEq, Repr

/-- A method's parameter types and its result type, `none` for `void`. -/
structure MethodType where
  params : List FieldType
  result : Option FieldType
  deriving DecidableEq, Repr

namespace FieldType

/-- The class a type names, looking through arrays. -/
def className? : FieldType → Option String
  | .base _ => none
  | .object n => some n
  | .array t => t.className?

/-- The descriptor text of a type, as characters. -/
def render : FieldType → List Char
  | .base t => [t.letter]
  | .object n => 'L' :: n.toList ++ [';']
  | .array t => '[' :: t.render

end FieldType

/-- The descriptor text of a method type, as characters. -/
def MethodType.render (m : MethodType) : List Char :=
  '(' :: (m.params.flatMap FieldType.render ++ ')' :: (m.result.map FieldType.render).getD ['V'])

/-- Reads one field type from the front of the text and returns the rest. An object type runs
to the first `;` and names a non-empty class. -/
def readField : List Char → Option (FieldType × List Char)
  | [] => none
  | c :: rest =>
    match BaseType.ofLetter? c with
    | some t => some (.base t, rest)
    | none =>
      if c = 'L' then
        match rest.dropWhile (· ≠ ';') with
        | _ :: after =>
          let name := rest.takeWhile (· ≠ ';')
          if name.isEmpty then none else some (.object (String.ofList name), after)
        | [] => none
      else if c = '[' then
        (readField rest).map fun (t, after) => (.array t, after)
      else none

theorem length_dropWhile_le {p : Char → Bool} (l : List Char) :
    (l.dropWhile p).length ≤ l.length := by
  induction l with
  | nil => simp
  | cons a l ih =>
    simp only [List.dropWhile_cons]
    split <;> simp
    omega

/-- A type read from the text leaves a strictly shorter rest. -/
theorem readField_length {cs rest : List Char} {t : FieldType}
    (h : readField cs = some (t, rest)) : rest.length < cs.length := by
  induction cs generalizing t rest with
  | nil => simp [readField] at h
  | cons c cs ih =>
    simp only [readField] at h
    split at h
    · simp at h
      obtain ⟨-, rfl⟩ := h
      simp
    · split at h
      · split at h
        · next after hd =>
          split at h
          · simp at h
          · simp at h
            obtain ⟨-, rfl⟩ := h
            have := length_dropWhile_le (p := fun x => decide (x ≠ ';')) cs
            rw [hd] at this
            simp at this ⊢
            omega
        · simp at h
      · split at h
        · simp only [Option.map_eq_some_iff] at h
          obtain ⟨⟨t', after⟩, h1, h2⟩ := h
          simp at h2
          obtain ⟨-, rfl⟩ := h2
          have := ih h1
          simp
          omega
        · simp at h

/-- Reads parameter types up to and including the closing parenthesis. -/
def readParams (cs : List Char) : Option (List FieldType × List Char) :=
  if cs.head? = some ')' then some ([], cs.drop 1)
  else
    match h : readField cs with
    | some (t, rest) =>
      have : rest.length < cs.length := readField_length h
      (readParams rest).map fun (ts, after) => (t :: ts, after)
    | none => none
termination_by cs.length

/-- Reads a method descriptor: parameters in parentheses, then `V` or one field type. -/
def readMethod : List Char → Option MethodType
  | '(' :: rest =>
    match readParams rest with
    | some (params, ['V']) => some ⟨params, none⟩
    | some (params, after) =>
      match readField after with
      | some (t, []) => some ⟨params, some t⟩
      | _ => none
    | none => none
  | _ => none

/-- Parses a whole text as a field type; anything left over is refused. -/
def parseField (text : String) : Except FormatError FieldType :=
  match readField text.toList with
  | some (t, []) => .ok t
  | _ => .error (.badDescriptor text)

/-- Parses a whole text as a method descriptor. -/
def parseMethod (text : String) : Except FormatError MethodType :=
  match readMethod text.toList with
  | some m => .ok m
  | none => .error (.badDescriptor text)

/-- The classes a descriptor names, in order and with repeats, looking through arrays. A text
that opens with a parenthesis is read as a method descriptor, any other as a field type. -/
def referencedClasses (text : String) : Except FormatError (List String) :=
  if text.toList.head? = some '(' then
    (parseMethod text).map fun m => (m.params ++ m.result.toList).filterMap FieldType.className?
  else
    (parseField text).map fun t => [t].filterMap FieldType.className?

/-- The class that a class constant's name stands for: an array name maps to its element
class, a primitive array or an unreadable array name to nothing, and any other name to itself. -/
def elementClass (name : String) : Option String :=
  if name.toList.head? = some '[' then
    match parseField name with
    | .ok t => t.className?
    | .error _ => none
  else some name

end ClassMetrics.Descriptor
