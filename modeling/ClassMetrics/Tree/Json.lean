import ClassMetrics.Tree.Basic
import ClassMetrics.Json.Parse

/-!
Source trees written as JSON: the project with its packages, each with its files, each with
its classes, each with its methods. Every level has a `key` and may have `measures`, an
object from metric key to number, and a list of the next level. No other member is allowed,
and no member twice. A level may also be written as the array of its members in that order,
the later ones left out when they are empty. Only summed metrics may be given; a whole number below 2^63 in magnitude
is taken as an integer, any other number as a double.
-/

namespace ClassMetrics

/-- Why a tree document was refused. -/
inductive TreeError
  /-- The text is not JSON, or not of the shape of a tree. -/
  | unreadable
  /-- A node gives a value for a metric that the engine computes. -/
  | computedMetric (metric : Metric) (key : String)
  deriving DecidableEq, Repr

/-- The sentence that reports a refused tree. -/
def TreeError.message : TreeError → String
  | .unreadable => "Invalid source tree JSON"
  | .computedMetric m k => "`" ++ m.key ++ "` on `" ++ k ++ "` is computed by the engine"

/-- A node as the document writes it. -/
structure NodeSpec where
  key : String
  measures : List (Metric × Float)
  children : List NodeSpec
  deriving Inhabited

namespace NodeSpec

open Json

/-- The member that holds the children, level by level below the project. -/
def childMembers : List String := ["packages", "files", "classes", "methods"]

/-- The scopes of the levels below the project. -/
def childScopes : List Scope := [.package, .file, .cls, .method]

/-- Reads a `measures` object: metric keys to numbers, a repeated key counting with its last
value, in metric order. -/
def readMeasures (v : Value) : Option (List (Metric × Float)) := do
  let fields ← v.obj?
  let pairs ← fields.mapM fun (k, x) => do
    let m ← Metric.ofKey? k
    let n ← x.num?
    pure (m, n)
  pure (Metric.all.filterMap fun m => ((pairs.reverse.find? (·.1 = m)).map fun p => (m, p.2)))

/-- Reads a node whose children are named by the first of `levels`. A node is an object of
its members, or an array of them in order (key, measures, children) that may leave out those
after the key but add none. -/
def read : List String → Value → Option NodeSpec
  | levels, .obj fields => do
    let allowed := ["key", "measures"] ++ levels.take 1
    let names := fields.map (·.1)
    if !(names.all allowed.contains) || names.eraseDups.length ≠ names.length then none
    let key ← (← (Value.obj fields).field? "key").str?
    let measures ← match (Value.obj fields).field? "measures" with
      | some m => readMeasures m
      | none => some []
    let children ← match levels with
      | [] => some []
      | member :: rest =>
        match (Value.obj fields).field? member with
        | some (.arr xs) => xs.mapM (read rest)
        | some _ => none
        | none => some []
    pure ⟨key, measures, children⟩
  | levels, .arr items => do
    if items.isEmpty || items.length > 2 + (levels.take 1).length then none
    let key ← (← items.head?).str?
    let measures ← match (items[1]? : Option Value) with
      | some m => readMeasures m
      | none => some []
    let children ← match levels, (items[2]? : Option Value) with
      | _ :: rest, some (.arr xs) => xs.mapM (read rest)
      | _, some _ => none
      | _, none => some []
    pure ⟨key, measures, children⟩
  | _, _ => none

end NodeSpec

namespace SourceTree

/-- A supplied number as a measure value: whole numbers of magnitude below 2^63 are integers. -/
def suppliedValue (x : Float) : MeasureValue :=
  let b := Decimal.Binary.ofBits x.toBits
  let neg := Decimal.isNegBits x.toBits
  let whole := b.q ≥ 0 || b.m % 2 ^ (-b.q).toNat = 0
  let magnitude := if b.q ≥ 0 then b.m * 2 ^ b.q.toNat else b.m / 2 ^ (-b.q).toNat
  if whole && magnitude < 2 ^ 63 then .int (if neg then -(magnitude : Int) else magnitude)
  else .double x

/-- Supplies measures to a node; a metric that is not summed is refused. -/
def supply (t : SourceTree) (id : Nat) (ms : List (Metric × Float)) :
    Except TreeError SourceTree :=
  ms.foldlM (fun t (m, x) =>
    if m.kind = .sum then pure (t.setMeasure id m (suppliedValue x))
    else throw (.computedMetric m (t.node id).key)) t

/-- Adds the nodes a document gives below `parent`, level by level, supplying measures as
each node is reached. -/
def plant : List Scope → SourceTree → Nat → List NodeSpec → Except TreeError SourceTree
  | [], t, _, _ => pure t
  | s :: rest, t, parent, specs =>
    specs.foldlM (fun t spec => do
      let (t, id) := t.addChild parent s spec.key
      let t ← t.supply id spec.measures
      plant rest t id spec.children) t

/-- The tree a document describes. -/
def ofSpec (spec : NodeSpec) : Except TreeError SourceTree := do
  let t ← (new spec.key).supply 0 spec.measures
  plant NodeSpec.childScopes t 0 spec.children

/-- The tree a JSON value describes. -/
def ofJsonValue (v : Json.Value) : Except TreeError SourceTree :=
  match NodeSpec.read NodeSpec.childMembers v with
  | some spec => ofSpec spec
  | none => .error .unreadable

/-- The tree a JSON text describes. -/
def ofJsonText (text : String) : Except TreeError SourceTree :=
  match Json.parse text with
  | some v => ofJsonValue v
  | none => .error .unreadable

/-- A node with its number, level, parent, children and measures. -/
def nodeJson (t : SourceTree) (id : Nat) : Json.Value :=
  let n := t.node id
  .obj [("id", .int id), ("key", .str n.key), ("scope", .str n.scope.name),
    ("parent", (n.parent.map fun (p : Nat) => Json.Value.int p).getD .null),
    ("children", .arr (n.children.toList.map fun (c : Nat) => .int c)),
    ("measures", n.measures.toJson)]

end SourceTree

end ClassMetrics
