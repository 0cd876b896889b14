import ClassMetrics.Graph.Accessor
import ClassMetrics.Graph.Hierarchy
import ClassMetrics.ClassFile.ToJson

/-!
The structural graph as a JSON document: its resources sorted by key, each with the keys of
the nodes it points to, and its edges sorted by the keys of their ends.
-/

namespace ClassMetrics.StructuralGraph

open ClassMetrics.Json ClassFile

/-- Sorts keys. -/
def sortKeys (keys : List String) : List String := keys.mergeSort fun a b => decide (a ≤ b)

/-- The keys of some nodes, in the order given. -/
def keysOf (g : StructuralGraph) (ids : List Nat) : Value := .arr (ids.map fun i => .str (g.key i))

/-- The resource at a node, with the keys of the nodes it names. -/
def resourceJson (g : StructuralGraph) (i : Nat) : Resource → Value
  | .cls c => .obj [("kind", .str "class"), ("key", .str c.key), ("access", .int c.access),
      ("level", Value.ofOption (c.level.map DetailLevel.name)),
      ("super_class", Value.ofOption (c.superClass.map g.key)),
      ("interfaces", g.keysOf c.interfaces),
      ("subclasses", Value.ofStrings (sortKeys ((g.subclasses i).map g.key)))]
  | .method m => .obj [("kind", .str "method"), ("key", .str m.key), ("owner", .str (g.key m.owner)),
      ("name", .str m.name), ("descriptor", .str m.descriptor), ("access", .int m.access),
      ("declared", .bool m.declared), ("has_body", .bool m.hasBody),
      ("shape", (m.shape.map BodyShape.toJson).getD .null),
      ("accessor_of", Value.ofOption ((g.accessedField i).map g.key))]
  | .field f => .obj [("kind", .str "field"), ("key", .str f.key), ("owner", .str (g.key f.owner)),
      ("name", .str f.name), ("descriptor", .str f.descriptor), ("access", .int f.access),
      ("declared", .bool f.declared)]

/-- Whether an edge comes before another: by the key of its source, then of its target. -/
def linkBefore (g : StructuralGraph) (a b : Link) : Bool :=
  let ka := g.key a.source
  let kb := g.key b.source
  ka < kb || (ka == kb && g.key a.target ≤ g.key b.target)

/-- The graph as `resources` sorted by key and `edges` sorted by their ends' keys. -/
def toJson (g : StructuralGraph) : Value :=
  let ids := (List.range g.size).mergeSort fun a b => decide (g.key a ≤ g.key b)
  .obj [("resources", .arr (ids.filterMap fun i => (g.resource? i).map (g.resourceJson i))),
    ("edges", .arr ((g.links.toList.mergeSort g.linkBefore).map fun l =>
      .obj [("from", .str (g.key l.source)), ("to", .str (g.key l.target)),
        ("usage", .str l.usage.name), ("weight", .int l.weight)]))]

end ClassMetrics.StructuralGraph
