import ClassMetrics.Graph.Accessor
import ClassMetrics.Config.Basic

/-!
Cohesion of a class (LCOM4): its methods with a real body, linked to the members of the class
that they use, fall apart into connected blocks. The number of blocks is the measure; one block
means every such method works on shared state. A class with no such method has one block of its
instance members.
-/

namespace ClassMetrics

/-- Whether a resource is a declared member; a class is none. -/
def Resource.isDeclared : Resource → Bool
  | .cls _ => false
  | .method m => m.declared
  | .field f => f.declared

/-- Whether one list of keys comes before another, comparing key by key, a prefix first. -/
def keysLe : List String → List String → Bool
  | [], _ => true
  | _ :: _, [] => false
  | a :: as, b :: bs => a < b || (a == b && keysLe as bs)

/-- Joins the blocks that hold either end of a link into one. -/
def joinBlocks (blocks : List (List Nat)) (link : Nat × Nat) : List (List Nat) :=
  let (joined, rest) := blocks.partition fun b => b.contains link.1 || b.contains link.2
  joined.flatten :: rest

/-- The connected components of some members under some links, each link joining its ends. -/
def components (members : List Nat) (links : List (Nat × Nat)) : List (List Nat) :=
  links.foldl joinBlocks (members.map fun m => [m])

namespace StructuralGraph

/-- Whether a declared method counts for cohesion: an instance method with a body that does
more than return, neither initialiser nor abstract, and not an accessor when accessors are left
out. -/
def isCohesive (g : StructuralGraph) (c : EngineConfig) (i : Nat) : Bool :=
  match g.methodNode? i with
  | some m => !m.isStatic && !m.isAbstract && !m.isConstructor && !m.isStaticInitializer &&
      m.hasBody && !m.isEmpty && !(c.lcom4ExcludeAccessors && g.isAccessor i)
  | none => false

/-- The member that an edge from a cohesive method of a class links it to: an instance member
of the same class, seen through an accessor to its field when accessors are left out. Fields
that the settings exclude link nothing. -/
def cohesionLink (g : StructuralGraph) (c : EngineConfig) (cls : Nat) (e : Link) :
    Option (Nat × Nat) :=
  let own := match g.resource? e.target with
    | some (.method m) => m.owner == cls
    | some (.field f) => f.owner == cls && !c.isExcluded f.name
    | _ => false
  if !own || (g.resource? e.target).any Resource.isStaticMember then none
  else
    let member := if c.lcom4ExcludeAccessors then (g.accessedField e.target).getD e.target
      else e.target
    if (g.fieldNode? member).any fun f => c.isExcluded f.name then none
    else some (e.source, member)

/-- The one cohesion block of a class with no measured method: its declared instance members,
their keys sorted. -/
def instanceBlock (g : StructuralGraph) (node : ClassNode) : List String :=
  (((node.methods ++ node.fields).filter fun i =>
    (g.resource? i).any fun r => !r.isStaticMember && r.isDeclared).map g.key).mergeSort
      fun a b => decide (a ≤ b)

/-- The blocks that measured methods and the links from them make, `find` splitting the members
into the blocks that the links join, as a union-find over them does. The members are the
methods, then the ends of the links, each once; each block is its member keys sorted, and the
blocks are sorted. -/
def linkedBlocksBy (g : StructuralGraph) (find : List Nat → List (Nat × Nat) → List (List Nat))
    (methods : List Nat) (links : List (Nat × Nat)) : List (List String) :=
  let members := (methods ++ links.flatMap fun l => [l.1, l.2]).foldl
    (fun acc m => if acc.contains m then acc else acc ++ [m]) []
  ((find members links).map fun b =>
    (b.map g.key).mergeSort fun a b => decide (a ≤ b)).mergeSort keysLe

def linkedBlocks (g : StructuralGraph) : List Nat → List (Nat × Nat) → List (List String) :=
  g.linkedBlocksBy components

/-- The cohesion blocks of a class: each block its member keys sorted, the blocks sorted. -/
def cohesionBlocks (g : StructuralGraph) (c : EngineConfig) (cls : Nat) (node : ClassNode) :
    List (List String) :=
  let methods := node.methods.filter fun m =>
    (g.methodNode? m).any (·.declared) && g.isCohesive c m
  if methods.isEmpty then [g.instanceBlock node]
  else
    g.linkedBlocks methods
      (methods.flatMap fun m => (g.edgesFrom m).filterMap (g.cohesionLink c cls))

end StructuralGraph

end ClassMetrics
