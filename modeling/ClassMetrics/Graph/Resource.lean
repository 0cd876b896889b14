import ClassMetrics.ClassFile.Basic

/-!
The resources of the structural graph: classes, methods and fields, each known by its key.
A class node is resolved from a class file at some detail level, or is an unresolved
placeholder for a name that no class file backs. Members point to their owner by node number.
-/

namespace ClassMetrics

open ClassFile

/-- A class of the graph, with its supertypes and members as node numbers. -/
structure ClassNode where
  key : String
  access : Nat
  /-- The detail level it was read at; `none` for an unresolved placeholder. -/
  level : Option DetailLevel
  superClass : Option Nat := none
  interfaces : List Nat := []
  methods : List Nat := []
  fields : List Nat := []
  deriving DecidableEq, Repr

namespace ClassNode

/-- The placeholder for a class that no class file backs. -/
def unresolved (key : String) : ClassNode := ⟨key, 0, none, none, [], [], []⟩

/-- Whether the class was read from a class file. -/
def isResolved (c : ClassNode) : Bool := c.level.isSome

/-- Whether the class is an interface. -/
def isInterface (c : ClassNode) : Bool := Access.has c.access Access.interface

/-- Whether the class is abstract. -/
def isAbstract (c : ClassNode) : Bool := Access.has c.access Access.abstract

end ClassNode

/-- A method of the graph; `declared` is false for a method known only from a call. -/
structure MethodNode where
  key : String
  owner : Nat
  name : String
  descriptor : String
  access : Nat
  declared : Bool
  hasBody : Bool
  shape : Option BodyShape
  /-- The declared methods of subclasses that override this one, in the order found. -/
  implementations : List Nat := []
  deriving DecidableEq, Repr

namespace MethodNode

/-- Whether the method is an instance initialiser. -/
def isConstructor (m : MethodNode) : Bool := m.name == "<init>"

/-- Whether the method is the class initialiser. -/
def isStaticInitializer (m : MethodNode) : Bool := m.name == "<clinit>"

/-- Whether the method is static. -/
def isStatic (m : MethodNode) : Bool := Access.has m.access Access.static

/-- Whether the method is abstract. -/
def isAbstract (m : MethodNode) : Bool := Access.has m.access Access.abstract

/-- Whether the body is known to do nothing but return. -/
def isEmpty (m : MethodNode) : Bool := m.shape == some .empty

/-- Whether calls to the method dispatch on the receiver: not static, not private, and
neither initialiser. -/
def isVirtual (m : MethodNode) : Bool :=
  !m.isStatic && !Access.has m.access Access.private_ && !m.isConstructor &&
    !m.isStaticInitializer

end MethodNode

/-- A field of the graph; `declared` is false for a field known only from an access. -/
structure FieldNode where
  key : String
  owner : Nat
  name : String
  descriptor : String
  access : Nat
  declared : Bool
  deriving DecidableEq, Repr

/-- Whether the field is static. -/
def FieldNode.isStatic (f : FieldNode) : Bool := Access.has f.access Access.static

/-- A node of the structural graph. -/
inductive Resource
  | cls (c : ClassNode)
  | method (m : MethodNode)
  | field (f : FieldNode)
  deriving DecidableEq, Repr

instance : Inhabited Resource := ⟨.cls (ClassNode.unresolved "")⟩

namespace Resource

/-- The resource's key. -/
def key : Resource → String
  | .cls c => c.key
  | .method m => m.key
  | .field f => f.key

/-- The class that owns the resource at node `self`; a class owns itself. -/
def owner (self : Nat) : Resource → Nat
  | .cls _ => self
  | .method m => m.owner
  | .field f => f.owner

/-- Whether the resource is a static member; a class is none. -/
def isStaticMember : Resource → Bool
  | .cls _ => false
  | .method m => m.isStatic
  | .field f => f.isStatic

end Resource

end ClassMetrics
