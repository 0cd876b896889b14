import ClassMetrics.Tree.Scope
import ClassMetrics.Usage

/-!
Dependencies between keys at one level of the source tree: classes on classes, files on
files, packages on packages. Adding a dependency that exists adds its weight (32-bit, with
wrap-around) and keeps the stronger usage; a key never depends on itself. Besides look-ups,
the graph answers how many keys depend on a key and on how many it depends, the weight inside
a set of keys, and how many cycles (strongly connected sets of two or more keys) lie inside it.
-/

namespace ClassMetrics

/-- A dependency of one key on another at one level. -/
structure Dependency where
  scope : Scope
  source : String
  target : String
  usage : Usage
  weight : Nat
  deriving DecidableEq, Repr

/-- The dependencies recorded so far, in the order they first appeared. -/
structure DependencyGraph where
  edges : Array Dependency := #[]
  deriving Repr, Inhabited

namespace DependencyGraph

/-- Records a dependency; nothing happens when the two keys are equal. -/
def add (g : DependencyGraph) (scope : Scope) (source target : String) (usage : Usage)
    (weight : Nat) : DependencyGraph :=
  if source = target then g
  else
    match g.edges.findIdx? fun e => e.scope = scope && e.source = source && e.target = target with
    | some i => ⟨g.edges.modify i fun e =>
        { e with usage := e.usage.strongest usage, weight := (e.weight + weight) % 2 ^ 32 }⟩
    | none => ⟨g.edges.push ⟨scope, source, target, usage, weight % 2 ^ 32⟩⟩

/-- The dependency of one key on another. -/
def edge? (g : DependencyGraph) (scope : Scope) (source target : String) : Option Dependency :=
  g.edges.find? fun e => e.scope = scope && e.source = source && e.target = target

/-- Whether one dependency sorts before another: by source key, then target key. -/
def before (a b : Dependency) : Bool :=
  a.source < b.source || (a.source = b.source && a.target ≤ b.target)

/-- The dependencies of a level, sorted by source key and then target key. -/
def edgesAt (g : DependencyGraph) (scope : Scope) : List Dependency :=
  (g.edges.toList.filter (·.scope = scope)).mergeSort before

/-- How many keys depend on a key. -/
def afferent (g : DependencyGraph) (scope : Scope) (key : String) : Nat :=
  (g.edges.toList.filter fun e => e.scope = scope && e.target = key).length

/-- On how many keys a key depends. -/
def efferent (g : DependencyGraph) (scope : Scope) (key : String) : Nat :=
  (g.edges.toList.filter fun e => e.scope = scope && e.source = key).length

/-- The total weight of the dependencies of a level between keys that satisfy `within`. -/
def internalWeight (g : DependencyGraph) (scope : Scope) (within : String → Bool) : Nat :=
  ((g.edges.toList.filter fun e => e.scope = scope && within e.source && within e.target).map
    (·.weight)).sum

/-- The keys reachable from `frontier` along `edges`, added to `seen`; `fuel` bounds the
number of rounds and the number of keys is enough. -/
def reach (edges : List (String × String)) : Nat → List String → List String → List String
  | 0, _, seen => seen
  | fuel + 1, frontier, seen =>
    let next := (edges.filter fun (s, t) => frontier.contains s && !seen.contains t).map (·.2)
    let next := next.eraseDups
    if next.isEmpty then seen else reach edges fuel next (seen ++ next)

/-- The number of strongly connected sets of two or more keys among the keys of a level that
satisfy `within`, following only dependencies between such keys. -/
def cycles (g : DependencyGraph) (scope : Scope) (within : String → Bool) : Nat :=
  let inner := g.edges.toList.filter fun e => e.scope = scope && within e.source && within e.target
  let pairs := inner.map fun e => (e.source, e.target)
  let keys := (inner.flatMap fun e => [e.source, e.target]).eraseDups
  let table := keys.map fun k => (k, reach pairs keys.length [k] [])
  let reachable := fun k => ((table.find? (·.1 = k)).map (·.2)).getD []
  -- a key lies on a cycle exactly when it reaches itself; its strongly connected set is then
  -- what it reaches and what reaches it, and the first key of each such set is counted
  let cyclic := keys.filter fun k => (reachable k).contains k
  let first := fun k => cyclic.find? fun j => (reachable k).contains j && (reachable j).contains k
  (cyclic.filter fun k => first k = some k).length

end DependencyGraph

end ClassMetrics
