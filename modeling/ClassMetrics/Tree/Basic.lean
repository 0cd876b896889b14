import ClassMetrics.Tree.Scope
import ClassMetrics.Metric.Value
import ClassMetrics.Resource.Key

/-!
Source trees: the project at the root, then packages, files, classes and methods, each node
carrying the measures of its metrics. Nodes are numbered in the order they were added, and a
node is identified by its level and key: adding one that exists returns it unchanged.
-/

namespace ClassMetrics

/-- The measures of a node, kept in metric order with each metric once. -/
structure Measures where
  entries : List (Metric × MeasureValue) := []
  deriving Repr, Inhabited

namespace Measures

/-- The value of a metric. -/
def get? (ms : Measures) (m : Metric) : Option MeasureValue :=
  (ms.entries.find? (·.1 = m)).map (·.2)

/-- Inserts a pair at its place in metric order, replacing an earlier value of the metric. -/
def insertSorted (m : Metric) (v : MeasureValue) :
    List (Metric × MeasureValue) → List (Metric × MeasureValue)
  | [] => [(m, v)]
  | (m', v') :: rest =>
    if m' = m then (m, v) :: rest
    else if m.index < m'.index then (m, v) :: (m', v') :: rest
    else (m', v') :: insertSorted m v rest

/-- Sets the value of a metric. -/
def set (ms : Measures) (m : Metric) (v : MeasureValue) : Measures :=
  ⟨insertSorted m v ms.entries⟩

/-- Removes the value of a metric. -/
def erase (ms : Measures) (m : Metric) : Measures :=
  ⟨ms.entries.filter (·.1 ≠ m)⟩

/-- The measures as a JSON object keyed by metric key, in metric order. -/
def toJson (ms : Measures) : Json.Value :=
  .obj (ms.entries.map fun (m, v) => (m.key, v.toJson))

end Measures

/-- A node of a source tree. -/
structure TreeNode where
  key : String
  scope : Scope
  parent : Option Nat
  children : Array Nat := #[]
  measures : Measures := {}
  deriving Repr, Inhabited

/-- A source tree; node zero is the project. -/
structure SourceTree where
  nodes : Array TreeNode
  deriving Repr, Inhabited

namespace SourceTree

/-- A tree of only the project. -/
def new (project : String) : SourceTree := ⟨#[{ key := project, scope := .project, parent := none }]⟩

/-- The number of nodes. -/
def size (t : SourceTree) : Nat := t.nodes.size

/-- The node with a number; past the end, a default node. -/
def node (t : SourceTree) (id : Nat) : TreeNode := t.nodes[id]?.getD default

/-- The node of a level and key. -/
def find? (t : SourceTree) (scope : Scope) (key : String) : Option Nat :=
  t.nodes.findIdx? fun n => n.scope = scope && n.key = key

/-- Adds a node below `parent`, unless a node of that level and key exists; returns the
node's number. -/
def addChild (t : SourceTree) (parent : Nat) (scope : Scope) (key : String) : SourceTree × Nat :=
  match t.find? scope key with
  | some id => (t, id)
  | none =>
    let id := t.size
    let nodes := t.nodes.push { key, scope, parent := some parent }
    (⟨nodes.modify parent fun p => { p with children := p.children.push id }⟩, id)

/-- The package, file and class nodes of class names, in order. -/
def ofClassNames (project : String) (names : List String) : SourceTree :=
  names.foldl (fun t name =>
    let (t, p) := t.addChild 0 .package (Key.packageOf name)
    let (t, f) := t.addChild p .file (Key.fileOf name)
    (t.addChild f .cls name).1) (new project)

/-- The numbers of the nodes of a level, in order. -/
def ids (t : SourceTree) (scope : Scope) : List Nat :=
  (List.range t.size).filter fun i => (t.node i).scope = scope

/-- The value of a metric at a node. -/
def measure? (t : SourceTree) (id : Nat) (m : Metric) : Option MeasureValue :=
  (t.node id).measures.get? m

/-- Sets the value of a metric at a node. -/
def setMeasure (t : SourceTree) (id : Nat) (m : Metric) (v : MeasureValue) : SourceTree :=
  ⟨t.nodes.modify id fun n => { n with measures := n.measures.set m v }⟩

/-- Removes the value of a metric at a node. -/
def removeMeasure (t : SourceTree) (id : Nat) (m : Metric) : SourceTree :=
  ⟨t.nodes.modify id fun n => { n with measures := n.measures.erase m }⟩

/-- The node itself if it has the level, else its nearest ancestor that has it. -/
def ancestor? (t : SourceTree) (id : Nat) (scope : Scope) : Option Nat :=
  go t.size id
where
  /-- Climbs at most `fuel` parents. -/
  go : Nat → Nat → Option Nat
    | 0, _ => none
    | fuel + 1, i =>
      if (t.node i).scope = scope then some i
      else match (t.node i).parent with
        | some p => go fuel p
        | none => none

/-- The nodes below and including `id`, each after all of its descendants, children in order. -/
def postOrderFrom (t : SourceTree) : Nat → Nat → List Nat
  | 0, _ => []
  | fuel + 1, id => ((t.node id).children.toList.flatMap (postOrderFrom t fuel)) ++ [id]

/-- All nodes, each after its descendants, the root last. -/
def postOrder (t : SourceTree) : List Nat := t.postOrderFrom t.size 0

/-- Whether every node's parent is at the level just above it, and only the root has none. -/
def isWellFormed (t : SourceTree) : Bool :=
  t.nodes.all fun n =>
    match n.parent with
    | none => n.scope = .project
    | some p => (t.node p).scope.child? = some n.scope

end SourceTree

end ClassMetrics
