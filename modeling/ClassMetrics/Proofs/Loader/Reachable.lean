import ClassMetrics.Proofs.Loader.Classes

/-! The loaders that a class provider reaches from an empty graph, by decoding ahead, loading
classes, resolving member references, taking kept files and recording edges between nodes,
each operation going on from the loader the last one left, failed or not. Every one of them is
valid, so its graph has the shape `WellFormed` describes: keys identify nodes, members are
keyed by their owners and listed by them once, supertypes are other nodes, and edges join
distinct nodes outside their owners, once per pair.

A class name may itself hold a `#`, the separator of member keys; then a class name can be
the key of a member, a load of that name returns the member, and a method resolved on it is
owned by a node that is no class. So owners and supertypes are classes only where their keys
hold no `#`. -/

namespace ClassMetrics

open ClassFile StructuralGraph Load

variable {p : Loader}

theorem Loader.Valid.prefetch (hp : p.Valid) (names : List String) (level : DetailLevel) :
    p.Later (p.prefetch names level) := by
  unfold Loader.prefetch
  refine List.foldlRecOn (motive := fun q => p.Later q) names _ (Loader.Later.refl hp) ?_
  intro q hq n _
  split
  · rename_i bytes hb
    refine ⟨hq.source_eq, hq.analyzable_eq, hq.graph, hq.valid.graph, ?_⟩
    intro e he
    rcases List.mem_cons.mp he with rfl | he
    · exact ⟨bytes, hb, rfl⟩
    · exact hq.valid.prefetched e (List.mem_filter.mp he).1
  · exact hq

theorem Loader.Valid.takeFile (hp : p.Valid) (i : Nat) : p.Later (p.takeFile i).2 :=
  ⟨rfl, rfl, Extends.refl _, hp.graph, hp.prefetched⟩

/-- One operation of a class provider that records no reference: decoding ahead, loading a
class, resolving a method or a field reference, or taking a kept file. A load that fails still
leaves its loader. -/
inductive LoadStep : Loader → Loader → Prop
  | prefetch {p : Loader} (names : List String) (level : DetailLevel) :
      LoadStep p (p.prefetch names level)
  | getClass {p : Loader} (name : String) (level : DetailLevel) :
      LoadStep p ((loadClass name level).exec p).2
  | resolveMethod {p : Loader} (m : MemberRef) (isStatic : Bool) :
      LoadStep p ((resolveMethod p.fuel m isStatic).exec p).2
  | resolveField {p : Loader} (m : MemberRef) (isStatic : Bool) :
      LoadStep p ((resolveField p.fuel m isStatic).exec p).2
  | takeFile {p : Loader} (i : Nat) : LoadStep p (p.takeFile i).2

/-- One operation of a class provider: one that records no reference, or recording an edge
between two nodes of the graph. -/
inductive ProviderStep : Loader → Loader → Prop
  | load {p p' : Loader} : LoadStep p p' → ProviderStep p p'
  | addEdge {p : Loader} (s t : Nat) (u : Usage) : s < p.graph.size → t < p.graph.size →
      ProviderStep p { p with graph := (p.graph.addEdge s t u).1 }

theorem LoadStep.later {p' : Loader} (hp : p.Valid) : LoadStep p p' → p.Later p'
  | .prefetch names level => hp.prefetch names level
  | .getClass name level => (run_loadClass hp name level).1
  | .resolveMethod m isStatic => (run_resolveMethod hp _ m isStatic).1
  | .resolveField m isStatic => (run_resolveField hp _ m isStatic).1
  | .takeFile i => hp.takeFile i

/-- Every operation from a valid loader leaves a later valid one. -/
theorem ProviderStep.later {p' : Loader} (hp : p.Valid) : ProviderStep p p' → p.Later p'
  | .load hstep => hstep.later hp
  | .addEdge s t u hs ht =>
    Loader.later_withGraph hp (hp.graph.addEdge hs ht u) (extends_addEdge s t u)

/-- The loaders a class provider over `source`, with the classes to analyse `analyzable`,
reaches from an empty graph. -/
inductive Reachable (source : ClassSource) (analyzable : List String) : Loader → Prop
  | start : Reachable source analyzable { source, analyzable }
  | step {p p' : Loader} : Reachable source analyzable p → ProviderStep p p' →
      Reachable source analyzable p'

theorem Reachable.valid {source : ClassSource} {analyzable : List String}
    (h : Reachable source analyzable p) : p.Valid := by
  induction h with
  | start => exact ⟨wellFormed_empty, fun e he => by cases he⟩
  | step _ hstep ih => exact (hstep.later ih).valid

/-- What holds of the structural graph of every loader a class provider reaches: keys identify
nodes, a repeated resource changes nothing and a load returns the node of its name; a member is
keyed by its owner's key, an owning class lists it exactly once, and a class lists only what it
owns; a node whose key has no `#` is a class; supertypes are other nodes, with no interface
twice; and an edge joins two distinct nodes, never a member and its class, once per ordered
pair, with a 32-bit weight. -/
structure Loader.GraphInvariant (p : Loader) : Prop where
  get?_iff : ∀ k i, p.graph.get? k = some i ↔ i < p.graph.size ∧ p.graph.key i = k
  key_inj : ∀ i j, i < p.graph.size → j < p.graph.size → p.graph.key i = p.graph.key j → i = j
  addResource_existing : ∀ r i, p.graph.get? r.key = some i → p.graph.addResource r = (p.graph, i)
  loadClass_key : ∀ name level i, ((loadClass name level).exec p).1 = .ok i →
    ((loadClass name level).exec p).2.graph.key i = name
  method_owner : ∀ j m, p.graph.methodNode? j = some m →
    m.owner < p.graph.size ∧ m.key = Key.method (p.graph.key m.owner) m.name m.descriptor ∧
    ∀ c, p.graph.classNode? m.owner = some c → c.methods.count j = 1
  field_owner : ∀ j f, p.graph.fieldNode? j = some f →
    f.owner < p.graph.size ∧ f.key = Key.field (p.graph.key f.owner) f.name ∧
    ∀ c, p.graph.classNode? f.owner = some c → c.fields.count j = 1
  members_owned : ∀ i c, p.graph.classNode? i = some c →
    (∀ j ∈ c.methods, ∃ m, p.graph.methodNode? j = some m ∧ m.owner = i) ∧
    (∀ j ∈ c.fields, ∃ f, p.graph.fieldNode? j = some f ∧ f.owner = i)
  class_of_key : ∀ j, j < p.graph.size → '#' ∉ (p.graph.key j).toList →
    ∃ c, p.graph.classNode? j = some c
  supertypes : ∀ i c, p.graph.classNode? i = some c →
    (∀ s, c.superClass = some s → s < p.graph.size ∧ s ≠ i) ∧
    (∀ s ∈ c.interfaces, s < p.graph.size ∧ s ≠ i) ∧ c.interfaces.Nodup
  edges : ∀ l ∈ p.graph.links.toList,
    l.source ≠ l.target ∧ p.graph.ownerClass l.source ≠ l.target ∧ l.weight < 2 ^ 32
  edges_nodup : (p.graph.links.toList.map fun l => (l.source, l.target)).Nodup

/-- Every loader a class provider reaches, also one a failed load left behind, has the graph
`Loader.GraphInvariant` describes. -/
theorem reachable_graphInvariant {source : ClassSource} {analyzable : List String}
    (h : Reachable source analyzable p) : p.GraphInvariant := by
  have hp := h.valid
  have hg := hp.graph
  refine ⟨fun k i => hg.get?_eq_some_iff, hg.key_inj, fun r i hr => addResource_of_get?_eq_some hr,
    ?_, ?_, ?_, ?_, fun j hj hk => hg.classNode_of_key hj hk, ?_, ?_, hg.links_nodup⟩
  · intro name level i hi
    exact ((run_loadClass hp name level).2 i hi).1.2
  · intro j m hm
    obtain ⟨ho, hk⟩ := hg.method_key j m hm
    exact ⟨ho, hk, fun c hc => hg.count_methods hm hc⟩
  · intro j f hf
    obtain ⟨ho, hk⟩ := hg.field_key j f hf
    exact ⟨ho, hk, fun c hc => hg.count_fields hf hc⟩
  · intro i c hc
    exact ⟨fun j hj => hg.mem_methods hc hj, fun j hj => hg.mem_fields hc hj⟩
  · intro i c hc
    have hs := hg.classShape i c hc
    exact ⟨hs.superClass_lt, hs.interfaces_lt, hs.interfaces_nodup⟩
  · intro l hl
    obtain ⟨-, -, hne, howner, hw⟩ := hg.link_valid l hl
    exact ⟨hne, howner, hw⟩

end ClassMetrics
