import ClassMetrics.Analysis.Visitor
import ClassMetrics.Loader.Build
import ClassMetrics.Graph.Link
import ClassMetrics.Aggregate

/-!
A whole analysis: the classes to analyse are the class nodes of the given source tree, or else
every class the analysed source offers. Their structural graph is built over the analysed
classes first and the libraries after, virtual methods are linked to their overrides, each
class is measured into the tree, and the tree is rolled up to files, packages and the project.
-/

namespace ClassMetrics

open ClassFile

/-- Adds each declared method of a class of the tree, synthetic ones apart, as a method node
under the class. -/
def SourceTree.attachMethods (t : SourceTree) (g : StructuralGraph) : SourceTree :=
  (t.ids .cls).foldl (fun t cid =>
    match (g.get? (t.node cid).key).bind g.classNode? with
    | some node => node.methods.foldl (fun t m =>
        match g.methodNode? m with
        | some x =>
          if x.declared && !Access.has x.access Access.synthetic then (t.addChild cid .method x.key).1
          else t
        | none => t) t
    | none => t) t

/-- What an analysis finds: the graph, the measured tree and the dependencies. -/
structure Analysis where
  graph : StructuralGraph
  tree : SourceTree
  dependencies : DependencyGraph

/-- Analyses the classes of a source, with libraries to look up what they use. -/
def analyze (c : EngineConfig) (project : String) (classes libraries : ClassSource)
    (tree : Option SourceTree) : Except AnalysisError Analysis := do
  let names := match tree with
    | some t => (t.ids .cls).map fun id => (t.node id).key
    | none => classes.classNames
  let graph := (← buildGraph (classes ++ libraries) names).link.1
  let tree := (tree.getD (SourceTree.ofClassNames project names)).attachMethods graph
  let visited := (sortedDistinct names).filterMap graph.get?
  let cx := (dispatch ⟨graph, c, tree, {}⟩ visited MetricVisitor.standard).2
  pure ⟨graph, cx.tree.aggregate cx.dependencies c, cx.dependencies⟩

namespace Analysis

/-- The measure of a metric at the tree node of a scope and key. -/
def measure? (a : Analysis) (scope : Scope) (key : String) (m : Metric) : Option MeasureValue :=
  (a.tree.find? scope key).bind fun id => a.tree.measure? id m

/-- The cohesion blocks of a class of the tree. -/
def blocks? (a : Analysis) (cls : String) : Option (List (List String)) :=
  match a.measure? .cls cls .lcom4Blocks with
  | some (.blocks bs) => some bs
  | _ => none

/-- Every linked method with its implementations, both by key and sorted. -/
def overrides (a : Analysis) : List (String × List String) :=
  let g := a.graph
  let sortKeys := fun (ks : List String) => ks.mergeSort fun x y => decide (x ≤ y)
  let linked := (List.range g.size).filterMap fun m =>
    match g.overrides m with
    | [] => none
    | impls => some (g.key m, sortKeys (impls.map g.key))
  linked.mergeSort fun x y => decide (x.1 ≤ y.1)

/-- Every dependency, class level first, then file, then package, each sorted. -/
def dependencyList (a : Analysis) : List Dependency :=
  [Scope.cls, .file, .package].flatMap a.dependencies.edgesAt

end Analysis

end ClassMetrics
