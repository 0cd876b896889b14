import ClassMetrics.Analysis.Basic
import ClassMetrics.Graph.Json

/-!
The report of an analysis as JSON: the project's key, how many resources and edges the graph
has, every tree node with its measures in tree order, and the dependencies. Fields keep this
order, which the pretty-printed report shows.
-/

namespace ClassMetrics

open ClassMetrics.Json

/-- A dependency as `scope`, `from`, `to`, `usage` and `weight`. -/
def Dependency.toJson (d : Dependency) : Value :=
  .obj [("scope", .str d.scope.name), ("from", .str d.source), ("to", .str d.target),
    ("usage", .str d.usage.name), ("weight", .int d.weight)]

namespace Analysis

/-- The report: project key, resource and edge counts, nodes and dependencies. -/
def reportJson (a : Analysis) : Value :=
  .obj [("project", .str (a.tree.node 0).key), ("resource_count", .int a.graph.size),
    ("edge_count", .int a.graph.links.size),
    ("nodes", .arr ((List.range a.tree.size).map fun id =>
      let n := a.tree.node id
      .obj [("key", .str n.key), ("scope", .str n.scope.name), ("measures", n.measures.toJson)])),
    ("dependencies", .arr (a.dependencyList.map Dependency.toJson))]

/-- The virtual dispatch links as `method` and sorted `implementations`. -/
def overridesJson (a : Analysis) : Value :=
  .arr (a.overrides.map fun (m, impls) =>
    .obj [("method", .str m), ("implementations", Value.ofStrings impls)])

end Analysis

end ClassMetrics
