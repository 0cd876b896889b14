import ClassMetrics.Graph.Hierarchy

/-!
Virtual dispatch links: each declared virtual method of a resolved class is linked to the
methods of the same name and descriptor that its subclasses, direct or not, declare. Links are
kept once each, in the order they are found.
-/

namespace ClassMetrics.StructuralGraph

/-- The implementations found in subclasses for the methods of one class, as pairs of the
method and its implementation. -/
def classOverrides (g : StructuralGraph) (c : Nat) : List (Nat × Nat) :=
  match g.classNode? c with
  | some node =>
    if !node.isResolved then []
    else
      let subs := g.transitiveSubclasses c
      node.methods.flatMap fun m =>
        match g.methodNode? m with
        | some x =>
          if x.declared && x.isVirtual then
            subs.filterMap fun s => (g.declaredMethod s x.name x.descriptor).map (m, ·)
          else []
        | none => []
  | none => []

/-- Every method and implementation pair of the graph, class by class in node order. -/
def overrideLinks (g : StructuralGraph) : List (Nat × Nat) :=
  g.classIds.flatMap g.classOverrides

/-- Links a method to an implementation, unless it is linked already. -/
def addOverride (g : StructuralGraph) (method impl : Nat) : StructuralGraph :=
  g.modifyMethod method fun m =>
    if m.implementations.contains impl then m
    else { m with implementations := m.implementations ++ [impl] }

/-- Links every virtual method to its implementations, and counts the pairs found, also those
linked by an earlier run. -/
def link (g : StructuralGraph) : StructuralGraph × Nat :=
  let pairs := g.overrideLinks
  (pairs.foldl (fun g p => g.addOverride p.1 p.2) g, pairs.length)

/-- The implementations linked to a method. -/
def overrides (g : StructuralGraph) (m : Nat) : List Nat :=
  ((g.methodNode? m).map (·.implementations)).getD []

end ClassMetrics.StructuralGraph
