import ClassMetrics.Graph.Resource
import ClassMetrics.Usage

/-!
The structural graph: resources numbered in the order they were added, each key on one node,
and weighted edges between them. An edge counts the references from its source to its
target, and its usage is the strongest of them. A member never depends on itself or on the
class that owns it.
-/

namespace ClassMetrics

/-- A weighted edge between two nodes. -/
structure Link where
  source : Nat
  target : Nat
  usage : Usage
  weight : Nat
  deriving DecidableEq, Repr

/-- Resources, edges in creation order, and the last computed hierarchy index. -/
structure StructuralGraph where
  nodes : Array Resource := #[]
  links : Array Link := #[]
  /-- The direct subclasses of each node, as last indexed. -/
  subclassIndex : Array (List Nat) := #[]
  deriving Inhabited

namespace StructuralGraph

/-- The number of nodes. -/
def size (g : StructuralGraph) : Nat := g.nodes.size

/-- The node with a key. -/
def get? (g : StructuralGraph) (key : String) : Option Nat :=
  g.nodes.findIdx? (·.key == key)

/-- The resource at a node. -/
def resource? (g : StructuralGraph) (i : Nat) : Option Resource := g.nodes[i]?

/-- The key of a node; empty for a number that names no node. -/
def key (g : StructuralGraph) (i : Nat) : String := ((g.resource? i).map Resource.key).getD ""

/-- The class at a node, if the node is a class. -/
def classNode? (g : StructuralGraph) (i : Nat) : Option ClassNode :=
  match g.resource? i with
  | some (.cls c) => some c
  | _ => none

/-- The method at a node, if the node is a method. -/
def methodNode? (g : StructuralGraph) (i : Nat) : Option MethodNode :=
  match g.resource? i with
  | some (.method m) => some m
  | _ => none

/-- The field at a node, if the node is a field. -/
def fieldNode? (g : StructuralGraph) (i : Nat) : Option FieldNode :=
  match g.resource? i with
  | some (.field f) => some f
  | _ => none

/-- The class that owns a node; a class owns itself. -/
def ownerClass (g : StructuralGraph) (i : Nat) : Nat :=
  ((g.resource? i).map (Resource.owner i)).getD i

/-- The class nodes, in node order. -/
def classIds (g : StructuralGraph) : List Nat :=
  (List.range g.size).filter fun i => (g.classNode? i).isSome

/-- Changes the class at a node; other nodes are left alone. -/
def modifyClass (g : StructuralGraph) (i : Nat) (f : ClassNode → ClassNode) : StructuralGraph :=
  { g with nodes := g.nodes.modify i fun
      | .cls c => .cls (f c)
      | r => r }

/-- Changes the method at a node; other nodes are left alone. -/
def modifyMethod (g : StructuralGraph) (i : Nat) (f : MethodNode → MethodNode) :
    StructuralGraph :=
  { g with nodes := g.nodes.modify i fun
      | .method m => .method (f m)
      | r => r }

/-- Changes the field at a node; other nodes are left alone. -/
def modifyField (g : StructuralGraph) (i : Nat) (f : FieldNode → FieldNode) :
    StructuralGraph :=
  { g with nodes := g.nodes.modify i fun
      | .field x => .field (f x)
      | r => r }

/-- Adds a resource and returns its node. A key already present keeps its node and nothing
changes. A new member joins its owner's member list when the owner is a class. -/
def addResource (g : StructuralGraph) (r : Resource) : StructuralGraph × Nat :=
  match g.get? r.key with
  | some i => (g, i)
  | none =>
    let i := g.size
    let g := { g with nodes := g.nodes.push r }
    match r with
    | .cls _ => (g, i)
    | .method m => (g.modifyClass m.owner fun c => { c with methods := c.methods ++ [i] }, i)
    | .field f => (g.modifyClass f.owner fun c => { c with fields := c.fields ++ [i] }, i)

/-- The edge between two nodes. -/
def edge? (g : StructuralGraph) (source target : Nat) : Option Link :=
  g.links.find? fun l => l.source == source && l.target == target

/-- Records one more reference from `source` to `target`, in a 32-bit weight that wraps around.
Refused, with `false`, when the two are one node or the target owns the source. -/
def addEdge (g : StructuralGraph) (source target : Nat) (usage : Usage) :
    StructuralGraph × Bool :=
  if source = target ∨ g.ownerClass source = target then (g, false)
  else
    match g.links.findIdx? fun l => l.source == source && l.target == target with
    | some j =>
      ({ g with links := g.links.modify j fun l =>
          { l with usage := l.usage.strongest usage, weight := (l.weight + 1) % 2 ^ 32 } }, true)
    | none => ({ g with links := g.links.push ⟨source, target, usage, 1⟩ }, true)

/-- The edges leaving a node, in creation order. -/
def edgesFrom (g : StructuralGraph) (i : Nat) : List Link :=
  g.links.toList.filter (·.source == i)

/-- Every resource key, sorted. -/
def keys (g : StructuralGraph) : List String :=
  (g.nodes.toList.map Resource.key).mergeSort fun a b => decide (a ≤ b)

end StructuralGraph

end ClassMetrics
