import ClassMetrics.Graph.Basic

/-!
The type hierarchy of the structural graph: the index from a type to its direct subtypes,
the subtypes reached through it, member lookup along the supertypes, and the depth of a
class in its chain of resolved superclasses. Every walk keeps the nodes it has seen, so
cyclic supertype links end it; the fuel each walk takes is more than it can use.
-/

namespace ClassMetrics.StructuralGraph

/-- Whether `parent` is the superclass or one of the interfaces of the class at `child`. -/
def isDirectSupertype (g : StructuralGraph) (parent child : Nat) : Bool :=
  match g.classNode? child with
  | some c => c.superClass == some parent || c.interfaces.contains parent
  | none => false

/-- The classes whose superclass or interface is `parent`, in node order. -/
def directSubclasses (g : StructuralGraph) (parent : Nat) : List Nat :=
  g.classIds.filter (g.isDirectSupertype parent)

/-- The nodes that a node names as its superclass and interfaces; none unless it is a class. -/
def supertypesOf (g : StructuralGraph) (i : Nat) : List Nat :=
  ((g.classNode? i).map fun c => c.superClass.toList ++ c.interfaces).getD []

/-- One past every node that a class names as a supertype, and at least the number of nodes, so
that the index has a place for every parent. -/
def parentBound (g : StructuralGraph) : Nat :=
  (g.classIds.flatMap g.supertypesOf).foldl (fun b p => max b (p + 1)) g.size

/-- Adds a class to the children of each type it names as a supertype, after the children
already there, unless it is one of them already. -/
def indexClass (g : StructuralGraph) (index : Array (List Nat)) (cls : Nat) : Array (List Nat) :=
  (g.supertypesOf cls).foldl (fun index parent => index.modify parent fun children =>
    if children.contains cls then children else children ++ [cls]) index

/-- Recomputes the subclass index in one pass over the classes, in node order. -/
def indexHierarchy (g : StructuralGraph) : StructuralGraph :=
  { g with subclassIndex := g.classIds.foldl g.indexClass (Array.replicate g.parentBound []) }

/-- The direct subclasses of a node, as last indexed. -/
def subclasses (g : StructuralGraph) (parent : Nat) : List Nat :=
  (g.subclassIndex[parent]?).getD []

/-- Adds the children not seen yet to `seen` and to the fresh list, in order. -/
def freshChildren (children seen : List Nat) : List Nat × List Nat :=
  children.foldl (fun (seen, fresh) c => if seen.contains c then (seen, fresh)
    else (c :: seen, fresh ++ [c])) (seen, [])

/-- Breadth-first walk down the subclass index; `out` lists the nodes reached so far. -/
def walkDown (g : StructuralGraph) : Nat → List Nat → List Nat → List Nat → List Nat
  | 0, _, _, out => out
  | _, [], _, out => out
  | fuel + 1, c :: queue, seen, out =>
    let (seen, fresh) := freshChildren (g.subclasses c) seen
    walkDown g fuel (queue ++ fresh) seen (out ++ fresh)

/-- Every class below a node in the subclass index, breadth first, each once and the node
itself never. -/
def transitiveSubclasses (g : StructuralGraph) (c : Nat) : List Nat :=
  g.walkDown (g.size + 1) [c] [c] []

/-- The interfaces named by a node; none unless it is a class. -/
def interfacesOf (g : StructuralGraph) (i : Nat) : List Nat :=
  ((g.classNode? i).map (·.interfaces)).getD []

/-- The number of interface links in the graph: a bound on the interface walk. -/
def interfaceCount (g : StructuralGraph) : Nat :=
  (g.nodes.toList.map fun
    | .cls c => c.interfaces.length
    | _ => 0).sum

/-- The interface part of a lookup: breadth first through the queue, skipping what was seen
and passing over nodes that are not classes. -/
def searchInterfaces (g : StructuralGraph) (find : Nat → Option Nat) :
    Nat → List Nat → List Nat → Option Nat
  | 0, _, _ => none
  | _, [], _ => none
  | fuel + 1, c :: queue, seen =>
    if seen.contains c then g.searchInterfaces find fuel queue seen
    else match find c with
      | some found => some found
      | none => g.searchInterfaces find fuel (queue ++ g.interfacesOf c) (c :: seen)

/-- The superclass part of a lookup: up the chain until it repeats or ends, collecting each
class's interfaces; a node on the chain that is not a class ends the lookup with nothing. -/
def searchChain (g : StructuralGraph) (find : Nat → Option Nat) :
    Nat → Option Nat → List Nat → List Nat → Option Nat
  | fuel + 1, some c, queue, seen =>
    if seen.contains c then g.searchInterfaces find (queue.length + g.interfaceCount + 1) queue seen
    else match find c with
      | some found => some found
      | none => match g.classNode? c with
        | some node => g.searchChain find fuel node.superClass (queue ++ node.interfaces) (c :: seen)
        | none => none
  | _, _, queue, seen =>
    g.searchInterfaces find (queue.length + g.interfaceCount + 1) queue seen

/-- The first answer of `find` on a class, then its superclass chain, then the interfaces
met on the way, breadth first. -/
def lookupHierarchy (g : StructuralGraph) (c : Nat) (find : Nat → Option Nat) : Option Nat :=
  g.searchChain find (g.size + 1) (some c) [] []

/-- The method that a class itself declares with a name and descriptor. -/
def declaredMethod (g : StructuralGraph) (c : Nat) (name descriptor : String) : Option Nat :=
  (g.classNode? c).bind fun node => node.methods.find? fun m =>
    (g.methodNode? m).any fun x => x.declared && x.name == name && x.descriptor == descriptor

/-- The field that a class itself declares with a name. -/
def declaredField (g : StructuralGraph) (c : Nat) (name : String) : Option Nat :=
  (g.classNode? c).bind fun node => node.fields.find? fun f =>
    (g.fieldNode? f).any fun x => x.declared && x.name == name

/-- The declared method with a name and descriptor that a class has, itself or through its
supertypes. -/
def findMethod (g : StructuralGraph) (c : Nat) (name descriptor : String) : Option Nat :=
  g.lookupHierarchy c fun k => g.declaredMethod k name descriptor

/-- The declared field with a name that a class has, itself or through its supertypes. -/
def findField (g : StructuralGraph) (c : Nat) (name : String) : Option Nat :=
  g.lookupHierarchy c fun k => g.declaredField k name

/-- The resolved superclass of a resolved class. -/
def resolvedParent? (g : StructuralGraph) (c : Nat) : Option Nat := do
  let node ← g.classNode? c
  if !node.isResolved then none
  let p ← node.superClass
  let parent ← g.classNode? p
  if parent.isResolved then some p else none

/-- Climbs resolved superclasses until one repeats, counting the steps. -/
def climb (g : StructuralGraph) : Nat → Nat → List Nat → Nat → Nat
  | 0, _, _, depth => depth
  | fuel + 1, c, seen, depth =>
    match g.resolvedParent? c with
    | some p => if seen.contains p then depth else g.climb fuel p (p :: seen) (depth + 1)
    | none => depth

/-- The depth of inheritance of a class: how many resolved superclasses it has before the
chain ends or repeats. -/
def depth (g : StructuralGraph) (c : Nat) : Nat := g.climb g.size c [c] 0

end ClassMetrics.StructuralGraph
