import ClassMetrics.Graph.Cohesion
import ClassMetrics.Graph.Hierarchy
import ClassMetrics.Tree.Basic
import ClassMetrics.Dependency

/-!
What the graph says about each class: its accessors, depth of inheritance, response set,
children, cohesion blocks, and the dependencies of its declared members and of itself on other
classes of the source tree, at class, file and package level. Each class is measured from its
own node, members and edges alone.
-/

namespace ClassMetrics

namespace StructuralGraph

/-- The declared methods of a class, in member order. -/
def declaredMethods (g : StructuralGraph) (node : ClassNode) : List Nat :=
  node.methods.filter fun m => (g.methodNode? m).any (·.declared)

/-- The declared fields of a class, in member order. -/
def declaredFields (g : StructuralGraph) (node : ClassNode) : List Nat :=
  node.fields.filter fun f => (g.fieldNode? f).any (·.declared)

/-- The response set of a class: its declared methods and every method called by those of them
that the class owns, each once. -/
def responseSet (g : StructuralGraph) (cls : Nat) (node : ClassNode) : List Nat :=
  let own := g.declaredMethods node
  let called := (own.filter fun m => (g.methodNode? m).any (·.owner == cls)).flatMap fun m =>
    ((g.edgesFrom m).filter fun e => (g.methodNode? e.target).isSome).map (·.target)
  (own ++ called).foldl (fun acc m => if acc.contains m then acc else acc ++ [m]) []

/-- The size of the response set, leaving out the class's own accessors when the settings say
so. -/
def response (g : StructuralGraph) (c : EngineConfig) (cls : Nat) (node : ClassNode) : Nat :=
  ((g.responseSet cls node).filter fun m =>
    !(c.rfcExcludeAccessors && g.isAccessor m && (g.methodNode? m).any (·.owner == cls))).length

/-- The measures of one class. -/
def classMeasures (g : StructuralGraph) (c : EngineConfig) (cls : Nat) (node : ClassNode) :
    List (Metric × MeasureValue) :=
  let blocks := g.cohesionBlocks c cls node
  [(.dit, .int (g.depth cls)),
   (.noc, .int (g.subclasses cls).length),
   (.accessors, .int ((g.declaredMethods node).filter g.isAccessor).length),
   (.rfc, .int (g.response c cls node)),
   (.lcom4, .int blocks.length),
   (.lcom4Blocks, .blocks blocks)]

/-- The edges that speak for a class: from its declared methods, its declared fields, and
itself. -/
def classEdges (g : StructuralGraph) (cls : Nat) (node : ClassNode) : List Link :=
  (g.declaredMethods node ++ g.declaredFields node ++ [cls]).flatMap g.edgesFrom

end StructuralGraph

/-- A class of the source tree with the keys of its file and package. -/
structure Containers where
  cls : String
  file : Option String
  package : Option String

/-- The class node of the tree with a key, with its containers. -/
def SourceTree.containers? (t : SourceTree) (key : String) : Option Containers :=
  (t.find? .cls key).map fun id =>
    let keyAt := fun s => (t.ancestor? id s).map fun a => (t.node a).key
    ⟨(t.node id).key, keyAt .file, keyAt .package⟩

/-- Adds the dependencies that one edge makes between two classes of the tree: at class level
with the edge's usage, at file and package level as a use, each with the edge's weight. -/
def DependencyGraph.addEdge (d : DependencyGraph) (source target : Containers) (l : Link) :
    DependencyGraph :=
  let d := d.add .cls source.cls target.cls l.usage l.weight
  let d := match source.file, target.file with
    | some a, some b => d.add .file a b .uses l.weight
    | _, _ => d
  match source.package, target.package with
  | some a, some b => d.add .package a b .uses l.weight
  | _, _ => d

/-- Measures one class of the graph and records its dependencies. A class that the tree does
not hold gets no measures and no dependencies; edges to classes outside the tree or to the
class itself are passed over. -/
def measureClass (g : StructuralGraph) (c : EngineConfig) (acc : SourceTree × DependencyGraph)
    (cls : Nat) : SourceTree × DependencyGraph :=
  let (t, d) := acc
  match g.classNode? cls with
  | none => acc
  | some node =>
    match t.find? .cls (g.key cls), t.containers? (g.key cls) with
    | some id, some source =>
      let t := (g.classMeasures c cls node).foldl (fun t (m, v) => t.setMeasure id m v) t
      let d := (g.classEdges cls node).foldl (fun d l =>
        let target := g.ownerClass l.target
        if target == cls then d
        else match t.containers? (g.key target) with
          | some tc => d.addEdge source tc l
          | none => d) d
      (t, d)
    | _, _ => acc

end ClassMetrics
