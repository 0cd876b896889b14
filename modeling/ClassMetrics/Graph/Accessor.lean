import ClassMetrics.Graph.Basic
import ClassMetrics.ClassFile.Descriptor

/-!
Accessors: a getter named `get…` or `is…` with no parameters whose body reads one field of
the receiver, or a setter named `set…` with one parameter and no result whose body writes one.
The field must be a declared instance field of the method's own class.
-/

namespace ClassMetrics.StructuralGraph

open ClassFile

/-- The field read or written by the body shape, when the name and descriptor fit an
accessor. -/
def accessorTarget (m : MethodNode) (t : Descriptor.MethodType) : Option MemberRef :=
  match m.shape with
  | some (.getter f) =>
    if (m.name.startsWith "get" || m.name.startsWith "is") && t.params.isEmpty then some f
    else none
  | some (.setter f) =>
    if m.name.startsWith "set" && t.params.length == 1 && t.result.isNone then some f else none
  | _ => none

/-- The field node that an accessor method gets or sets. -/
def accessedField (g : StructuralGraph) (i : Nat) : Option Nat := do
  let m ← g.methodNode? i
  if m.isStatic || m.isConstructor || m.isStaticInitializer then none
  let t ← (Descriptor.parseMethod m.descriptor).toOption
  let target ← accessorTarget m t
  let owner ← g.classNode? m.owner
  if target.owner != owner.key then none
  owner.fields.find? fun f =>
    (g.fieldNode? f).any fun x => x.declared && !x.isStatic && x.name == target.name

/-- Whether a method is an accessor. -/
def isAccessor (g : StructuralGraph) (i : Nat) : Bool := (g.accessedField i).isSome

end ClassMetrics.StructuralGraph
