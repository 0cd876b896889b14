import ClassMetrics.ClassFile.Error

/-!
Generic signatures: the type text of the `Signature` attribute, which adds type parameters,
type arguments, type variables and thrown types to what a descriptor says. Only the classes a
signature names matter here, so it is scanned without building a type tree. A nested class
`Lpkg/Outer<TT;>.Inner;` is reported by its binary name `pkg/Outer$Inner`, and names are listed
in the order in which their closing `;` is reached.

Each step of the scan takes a non-empty piece from the front of the input and returns the
rest together with the proof that it is shorter, which is what makes the scan terminate.
-/

namespace ClassMetrics.Signature

open ClassMetrics.ClassFile

/-- A rest of the input strictly shorter than `cs`. -/
abbrev Tail (cs : List Char) := { r : List Char // r.length < cs.length }

/-- A rest of the input no longer than `cs`. -/
abbrev Rest (cs : List Char) := { r : List Char // r.length ≤ cs.length }

/-- The result of a step: the class names found, then what is left to read. -/
abbrev Scan (cs : List Char) := Option (List String × Tail cs)

/-- The result of a step that may read nothing. -/
abbrev Scan? (cs : List Char) := Option (List String × Rest cs)

/-- Whether a character is the letter of a primitive type. -/
def isBaseLetter (c : Char) : Bool :=
  c = 'B' || c = 'C' || c = 'D' || c = 'F' || c = 'I' || c = 'J' || c = 'S' || c = 'Z'

theorem length_dropWhile_lt {p : Char → Bool} {l : List Char}
    (h : l.takeWhile p ≠ []) : (l.dropWhile p).length < l.length := by
  have e := congrArg List.length (List.takeWhile_append_dropWhile (p := p) (l := l))
  rw [List.length_append] at e
  have : 0 < (l.takeWhile p).length := List.length_pos_iff.mpr h
  omega

/-! What is left after a step is shorter than, or as long as, what the step was given. -/

theorem length_lt_cons (c : Char) (r : List Char) : r.length < (c :: r).length :=
  Nat.lt_succ_self _

theorem lt_cons_of_lt {t r : List Char} (c : Char) (h : t.length < r.length) :
    t.length < (c :: r).length :=
  Nat.lt_succ_of_lt h

theorem le_cons_of_le {t r : List Char} (c : Char) (h : t.length ≤ r.length) :
    t.length ≤ (c :: r).length :=
  Nat.le_succ_of_le h

theorem lt_of_cons_lt {t r : List Char} {c : Char} (h : (c :: t).length < r.length) :
    t.length < r.length :=
  Nat.lt_of_succ_lt h

theorem lt_of_cons_le {t r : List Char} {c : Char} (h : (c :: t).length ≤ r.length) :
    t.length < r.length :=
  h

/-- Dropping the first character of a text that has one leaves a shorter text. -/
theorem drop_one_lt_of_head? {l : List Char} {c : Char} (h : l.head? = some c) :
    (l.drop 1).length < l.length := by
  cases l with
  | nil => cases h
  | cons d r =>
    rw [List.drop_succ_cons, List.drop_zero, List.length_cons]
    omega

/-- An identifier: the characters before the first stop character. It must be non-empty and
the input must go on after it. -/
def identifier (stops : List Char) (cs : List Char) : Option (String × Tail cs) :=
  let keep := fun c => !stops.contains c
  if h : cs.takeWhile keep ≠ [] ∧ cs.dropWhile keep ≠ [] then
    some (String.ofList (cs.takeWhile keep), ⟨cs.dropWhile keep, length_dropWhile_lt h.1⟩)
  else none

/-- The characters that end a segment of a class type. -/
def segmentStops : List Char := ['<', '.', ';']

mutual

/-- A reference type: a class type after `L`, a type variable after `T`, or an array after `[`. -/
def referenceType : (cs : List Char) → Scan cs
  | 'L' :: r =>
    match classType r with
    | some (found, ⟨t, h⟩) => some (found, ⟨t, lt_cons_of_lt 'L' h⟩)
    | none => none
  | 'T' :: r =>
    match identifier [';'] r with
    | some (_, ⟨c :: t, h⟩) =>
      if c = ';' then some ([], ⟨t, lt_cons_of_lt 'T' (lt_of_cons_lt h)⟩) else none
    | _ => none
  | '[' :: r =>
    match javaType r with
    | some (found, ⟨t, h⟩) => some (found, ⟨t, lt_cons_of_lt '[' h⟩)
    | none => none
  | _ => none
termination_by cs => (cs.length, 0)

/-- A primitive letter or a reference type. -/
def javaType : (cs : List Char) → Scan cs
  | c :: r =>
    if isBaseLetter c then some ([], ⟨r, length_lt_cons c r⟩) else referenceType (c :: r)
  | [] => none
termination_by cs => (cs.length, 1)

/-- A class type after its `L`: the first segment's name, then the rest of the type. -/
def classType (cs : List Char) : Scan cs :=
  match identifier segmentStops cs with
  | some (name, ⟨r, h⟩) =>
    match classTail name r with
    | some (found, ⟨t, h'⟩) => some (found, ⟨t, Nat.lt_trans h' h⟩)
    | none => none
  | none => none
termination_by (cs.length, 0)

/-- What follows a segment of a class type: optional type arguments, then `;` to end the
type or `.` and the name of an inner class. -/
def classTail (name : String) (cs : List Char) : Scan cs :=
  let args : Scan? cs :=
    if cs.head? = some '<' then
      match typeArguments cs with
      | some (found, ⟨r, h⟩) => some (found, ⟨r, Nat.le_of_lt h⟩)
      | none => none
    else some ([], ⟨cs, Nat.le_refl _⟩)
  match args with
  | some (found, ⟨c :: t, h⟩) =>
    if c = ';' then some (found ++ [name], ⟨t, lt_of_cons_le h⟩)
    else if c = '.' then
      match identifier segmentStops t with
      | some (inner, ⟨u, hu⟩) =>
        have : u.length < cs.length := Nat.lt_trans hu (lt_of_cons_le h)
        match classTail (name ++ "$" ++ inner) u with
        | some (more, ⟨v, hv⟩) => some (found ++ more, ⟨v, Nat.lt_trans hv this⟩)
        | none => none
      | none => none
    else none
  | _ => none
termination_by (cs.length, 1)

/-- Type arguments in angle brackets. -/
def typeArguments : (cs : List Char) → Scan cs
  | '<' :: r =>
    match argumentList r with
    | some (found, ⟨t, h⟩) => some (found, ⟨t, lt_cons_of_lt '<' h⟩)
    | none => none
  | _ => none
termination_by cs => (cs.length, 0)

/-- Type arguments up to and including the closing `>`: each is `*`, a bounded wildcard
`+T` or `-T`, or a reference type. -/
def argumentList : (cs : List Char) → Scan cs
  | '>' :: r => some ([], ⟨r, length_lt_cons '>' r⟩)
  | '*' :: r =>
    match argumentList r with
    | some (found, ⟨t, h⟩) => some (found, ⟨t, lt_cons_of_lt '*' h⟩)
    | none => none
  | c :: r =>
    let arg : Scan (c :: r) :=
      if c = '+' ∨ c = '-' then
        match referenceType r with
        | some (found, ⟨t, h⟩) => some (found, ⟨t, lt_cons_of_lt c h⟩)
        | none => none
      else referenceType (c :: r)
    match arg with
    | some (found, ⟨t, h⟩) =>
      match argumentList t with
      | some (more, ⟨u, hu⟩) => some (found ++ more, ⟨u, Nat.lt_trans hu h⟩)
      | none => none
    | none => none
  | [] => none
termination_by cs => (cs.length, 1)

end

/-- Interface bounds: any number of `:` followed by a reference type. -/
def interfaceBounds : (cs : List Char) → Scan? cs
  | ':' :: r =>
    match referenceType r with
    | some (found, ⟨t, h⟩) =>
      match interfaceBounds t with
      | some (more, ⟨u, hu⟩) =>
        some (found ++ more, ⟨u, le_cons_of_le ':' (Nat.le_of_lt (Nat.lt_of_le_of_lt hu h))⟩)
      | none => none
    | none => none
  | cs => some ([], ⟨cs, Nat.le_refl _⟩)
termination_by cs => cs.length

/-- A class bound, which may be empty: nothing when `:` or `>` comes next. -/
def classBound (cs : List Char) : Scan? cs :=
  match cs.head? with
  | some ':' => some ([], ⟨cs, Nat.le_refl _⟩)
  | some '>' => some ([], ⟨cs, Nat.le_refl _⟩)
  | _ =>
    match referenceType cs with
    | some (found, ⟨t, h⟩) => some (found, ⟨t, Nat.le_of_lt h⟩)
    | none => none

/-- Type parameters after the `<`, up to and including the `>`: each is a name, `:`, an
optional class bound and interface bounds. -/
def typeParameters (cs : List Char) : Scan cs :=
  if hc : cs.head? = some '>' then some ([], ⟨cs.drop 1, drop_one_lt_of_head? hc⟩)
  else
    match identifier [':'] cs with
    | some (_, ⟨c :: r, h⟩) =>
      if c = ':' then
        match classBound r with
        | some (f1, ⟨r1, h1⟩) =>
          match interfaceBounds r1 with
          | some (f2, ⟨r2, h2⟩) =>
            have : r2.length < cs.length :=
              Nat.lt_of_le_of_lt (Nat.le_trans h2 h1) (lt_of_cons_lt h)
            match typeParameters r2 with
            | some (f3, ⟨r3, h3⟩) => some (f1 ++ f2 ++ f3, ⟨r3, Nat.lt_trans h3 this⟩)
            | none => none
          | none => none
        | none => none
      else none
    | _ => none
termination_by cs.length

/-- Parameter types of a method signature, up to and including the `)`. -/
def parameterTypes (cs : List Char) : Scan cs :=
  if hc : cs.head? = some ')' then some ([], ⟨cs.drop 1, drop_one_lt_of_head? hc⟩)
  else
    match javaType cs with
    | some (found, ⟨r, h⟩) =>
      match parameterTypes r with
      | some (more, ⟨t, ht⟩) => some (found ++ more, ⟨t, Nat.lt_trans ht h⟩)
      | none => none
    | none => none
termination_by cs.length

/-- Thrown types: any number of `^` followed by a reference type. -/
def thrownTypes : (cs : List Char) → Scan? cs
  | '^' :: r =>
    match referenceType r with
    | some (found, ⟨t, h⟩) =>
      match thrownTypes t with
      | some (more, ⟨u, hu⟩) =>
        some (found ++ more, ⟨u, le_cons_of_le '^' (Nat.le_of_lt (Nat.lt_of_le_of_lt hu h))⟩)
      | none => none
    | none => none
  | cs => some ([], ⟨cs, Nat.le_refl _⟩)
termination_by cs => cs.length

/-- Reference types until the input ends. -/
def referenceTypes (cs : List Char) : Option (List String) :=
  if cs.isEmpty then some []
  else
    match referenceType cs with
    | some (found, ⟨r, _h⟩) => (referenceTypes r).map (found ++ ·)
    | none => none
termination_by cs.length

/-- The classes named by a whole signature: optional type parameters, then either a method
part (parameters, a result or `V`, thrown types) or a sequence of reference types, as in a
class or field signature. Nothing may follow. -/
def scan (cs : List Char) : Option (List String) := do
  let (params, afterParams) ←
    match cs with
    | '<' :: r => (typeParameters r).map fun (f, t) => (f, t.val)
    | _ => some ([], cs)
  match afterParams with
  | '(' :: r =>
    let (args, ⟨r1, _⟩) ← parameterTypes r
    let (result, r2) ←
      match r1 with
      | 'V' :: t => some ([], t)
      | _ => (javaType r1).map fun (f, t) => (f, t.val)
    let (thrown, ⟨r3, _⟩) ← thrownTypes r2
    if r3.isEmpty then some (params ++ args ++ result ++ thrown) else none
  | rest => (referenceTypes rest).map (params ++ ·)

/-- The classes that a generic signature names; a text outside the grammar is refused. -/
def referencedClasses (text : String) : Except FormatError (List String) :=
  match scan text.toList with
  | some names => .ok names
  | none => .error (.badSignature text)

end ClassMetrics.Signature
