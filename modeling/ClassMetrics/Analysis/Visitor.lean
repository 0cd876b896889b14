import ClassMetrics.Analysis.Measures

/-!
Measuring by visitors. The classes are walked one by one: each class is announced to every
visitor, then each declared method with the edges from it, the edges from each declared field,
the edges from the class itself, and last the class is left. Six visitors listen, each with
its own state: one counts accessors, one writes the depth of inheritance, one collects the
response set, one writes the number of children, one collects cohesion links, and one records
dependencies. They read the graph and the settings and write the tree and the dependencies.
-/

namespace ClassMetrics

/-- What the visitors see and write: the graph and the settings, read only, and the tree and
the dependencies that they fill in. -/
structure VisitContext where
  graph : StructuralGraph
  config : EngineConfig
  tree : SourceTree
  dependencies : DependencyGraph

namespace VisitContext

/-- Sets a measure at the tree node of a class, if the tree holds the class. -/
def setClassMeasure (cx : VisitContext) (cls : Nat) (m : Metric) (v : MeasureValue) :
    VisitContext :=
  match cx.tree.find? .cls (cx.graph.key cls) with
  | some id => { cx with tree := cx.tree.setMeasure id m v }
  | none => cx

/-- Records the dependencies that an edge from a class makes on the class owning its target,
unless that is the class itself or a class outside the tree. -/
def addDependency (cx : VisitContext) (cls : Nat) (source : Containers) (e : Link) :
    VisitContext :=
  let target := cx.graph.ownerClass e.target
  if target == cls then cx
  else match cx.tree.containers? (cx.graph.key target) with
    | some tc => { cx with dependencies := cx.dependencies.addEdge source tc e }
    | none => cx

end VisitContext

/-- A visitor with its state. The class it works on is kept where its callbacks need it. -/
inductive MetricVisitor where
  /-- Counts the accessors among the declared methods. -/
  | accessor (count : Nat)
  | dit
  /-- The declared methods, and the methods called from those the class owns. -/
  | rfc (current : Option Nat) (own called : List Nat)
  | noc
  /-- The measured methods, in order and as a set, and the cohesion links from them. -/
  | lcom4 (current : Option Nat) (methods eligible : List Nat) (links : List (Nat × Nat))
  /-- The class with the containers it has in the tree. -/
  | dependencies (current : Option (Nat × Containers))

namespace MetricVisitor

/-- The visitors of a measuring run, each in its first state. -/
def standard : List MetricVisitor :=
  [.accessor 0, .dit, .rfc none [] [], .noc, .lcom4 none [] [] [], .dependencies none]

/-- The first state of a visitor of the same kind. -/
def reset : MetricVisitor → MetricVisitor
  | .accessor _ => .accessor 0
  | .dit => .dit
  | .rfc .. => .rfc none [] []
  | .noc => .noc
  | .lcom4 .. => .lcom4 none [] [] []
  | .dependencies _ => .dependencies none

/-- A class begins: the stateful visitors start afresh, and the depth of inheritance and the
number of children are written at once. -/
def visitClass (cx : VisitContext) (cls : Nat) : MetricVisitor → MetricVisitor × VisitContext
  | .accessor _ => (.accessor 0, cx)
  | .dit => (.dit, cx.setClassMeasure cls .dit (.int (cx.graph.depth cls)))
  | .rfc .. => (.rfc (some cls) [] [], cx)
  | .noc => (.noc, cx.setClassMeasure cls .noc (.int (cx.graph.subclasses cls).length))
  | .lcom4 .. => (.lcom4 (some cls) [] [] [], cx)
  | .dependencies _ =>
    (.dependencies ((cx.tree.containers? (cx.graph.key cls)).map (cls, ·)), cx)

/-- A declared method of the class. -/
def visitMethod (cx : VisitContext) (m : Nat) : MetricVisitor → MetricVisitor
  | .accessor n => .accessor (if cx.graph.isAccessor m then n + 1 else n)
  | .rfc cur own called => .rfc cur (own.insert m) called
  | .lcom4 cur ms el ls =>
    if cx.graph.isCohesive cx.config m then .lcom4 cur (ms ++ [m]) (el.insert m) ls
    else .lcom4 cur ms el ls
  | v => v

/-- An edge from the class, from one of its declared members, or from the class itself. -/
def visitEdge (cx : VisitContext) (e : Link) : MetricVisitor → MetricVisitor × VisitContext
  | .rfc cur own called =>
    let fromOwn := (cx.graph.methodNode? e.source).any fun m => some m.owner == cur
    (.rfc cur own (if fromOwn && (cx.graph.methodNode? e.target).isSome
      then called.insert e.target else called), cx)
  | .lcom4 cur ms el ls =>
    let link := if el.contains e.source then cur.bind (cx.graph.cohesionLink cx.config · e)
      else none
    (.lcom4 cur ms el (ls ++ link.toList), cx)
  | .dependencies (some (cls, source)) =>
    (.dependencies (some (cls, source)), cx.addDependency cls source e)
  | v => (v, cx)

/-- The class ends: the counted and collected measures are written. With no measured method,
the cohesion block is the class's instance members. -/
def leaveClass (cx : VisitContext) (cls : Nat) : MetricVisitor → MetricVisitor × VisitContext
  | .accessor n => (.accessor n, cx.setClassMeasure cls .accessors (.int n))
  | .rfc cur own called =>
    let g := cx.graph
    let response := ((own ++ called.filter (!own.contains ·)).filter fun m =>
      !(cx.config.rfcExcludeAccessors && g.isAccessor m && (g.methodNode? m).any (·.owner == cls))).length
    (.rfc cur own called, cx.setClassMeasure cls .rfc (.int response))
  | .lcom4 cur ms el ls =>
    let blocks := if ms.isEmpty
      then [((cx.graph.classNode? cls).map cx.graph.instanceBlock).getD []]
      else cx.graph.linkedBlocks ms ls
    (.lcom4 cur ms el ls, (cx.setClassMeasure cls .lcom4 (.int blocks.length)).setClassMeasure cls
      .lcom4Blocks (.blocks blocks))
  | .dependencies _ => (.dependencies none, cx)
  | v => (v, cx)

/-- Gives one event to every visitor in turn, the context passing from each to the next. -/
def each (f : VisitContext → MetricVisitor → MetricVisitor × VisitContext) :
    List MetricVisitor → VisitContext → List MetricVisitor × VisitContext
  | [], cx => ([], cx)
  | v :: vs, cx =>
    let r := f cx v
    let rs := each f vs r.2
    (r.1 :: rs.1, rs.2)

end MetricVisitor

open MetricVisitor

/-- Gives the edges from one node to the visitors, edge by edge. -/
def visitEdges (g : StructuralGraph) (source : Nat) (s : List MetricVisitor × VisitContext) :
    List MetricVisitor × VisitContext :=
  (g.edgesFrom source).foldl (fun s e => each (visitEdge · e) s.1 s.2) s

/-- Walks the visitors through one class. A node that is not a class is passed over. No visitor
reacts to a field itself, only to the edges from it. -/
def dispatchClass (g : StructuralGraph) (s : List MetricVisitor × VisitContext) (cls : Nat) :
    List MetricVisitor × VisitContext :=
  match g.classNode? cls with
  | none => s
  | some node =>
    let s := each (visitClass · cls) s.1 s.2
    let s := node.methods.foldl (fun s m =>
      if (g.methodNode? m).any (·.declared) then visitEdges g m (s.1.map (visitMethod s.2 m), s.2)
      else s) s
    let s := node.fields.foldl (fun s f =>
      if (g.fieldNode? f).any (·.declared) then visitEdges g f s else s) s
    let s := visitEdges g cls s
    each (leaveClass · cls) s.1 s.2

/-- Walks the visitors through the classes in turn. -/
def dispatch (cx : VisitContext) (classes : List Nat) (vs : List MetricVisitor) :
    List MetricVisitor × VisitContext :=
  classes.foldl (dispatchClass cx.graph) (vs, cx)

end ClassMetrics
