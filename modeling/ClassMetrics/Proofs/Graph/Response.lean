import ClassMetrics.Proofs.Graph.SubclassIndex
import ClassMetrics.Proofs.Graph.Cohesion

/-!
The response for a class counts its response set exactly: the methods the class declares,
together with the method nodes that the edges of those of them the class owns lead to, each
counted once however often it is reached, and no target of an edge to a field or a class. When
the settings leave out accessors, the accessors the class owns are taken out of that set before
it is counted; without that setting the response is never below the number of declared methods.
-/

namespace ClassMetrics

namespace StructuralGraph

variable {g : StructuralGraph}

/-- The methods a class declares: the nodes it lists that are declared methods. -/
def declaredMethodSet (g : StructuralGraph) (node : ClassNode) : Set Nat :=
  {m | m ∈ node.methods ∧ ∃ x, g.methodNode? m = some x ∧ x.declared = true}

/-- The methods called from a class: the method nodes that edges lead to from declared methods
of the class that it owns. -/
def calledMethodSet (g : StructuralGraph) (cls : Nat) (node : ClassNode) : Set Nat :=
  {m | (∃ x, g.methodNode? m = some x) ∧ ∃ l ∈ g.links.toList, l.target = m ∧
    l.source ∈ g.declaredMethodSet node ∧ ∃ x, g.methodNode? l.source = some x ∧ x.owner = cls}

/-- The accessors that a class owns. -/
def ownAccessorSet (g : StructuralGraph) (cls : Nat) : Set Nat :=
  {m | g.isAccessor m = true ∧ ∃ x, g.methodNode? m = some x ∧ x.owner = cls}

theorem mem_declaredMethods {node : ClassNode} {m : Nat} :
    m ∈ g.declaredMethods node ↔ m ∈ g.declaredMethodSet node := by
  unfold declaredMethods declaredMethodSet
  rw [List.mem_filter, Option.any_eq_true]
  rfl

theorem mem_calls {m t : Nat} :
    t ∈ ((g.edgesFrom m).filter fun e => (g.methodNode? e.target).isSome).map (·.target) ↔
      (∃ x, g.methodNode? t = some x) ∧ ∃ l ∈ g.links.toList, l.target = t ∧ l.source = m := by
  unfold edgesFrom
  simp only [List.mem_map, List.mem_filter, beq_iff_eq, Option.isSome_iff_exists]
  constructor
  · rintro ⟨l, ⟨⟨hl, rfl⟩, hx⟩, rfl⟩
    exact ⟨hx, l, hl, rfl, rfl⟩
  · rintro ⟨hx, l, hl, rfl, rfl⟩
    exact ⟨l, ⟨⟨hl, rfl⟩, hx⟩, rfl⟩

theorem mem_responseSet {cls : Nat} {node : ClassNode} {m : Nat} :
    m ∈ g.responseSet cls node ↔ m ∈ g.declaredMethodSet node ∪ g.calledMethodSet cls node := by
  have hkeep := ((foldl_keepFirst (g.declaredMethods node ++
    ((g.declaredMethods node).filter fun m => (g.methodNode? m).any (·.owner == cls)).flatMap
      fun m => ((g.edgesFrom m).filter fun e => (g.methodNode? e.target).isSome).map (·.target))
    []).1 m)
  unfold responseSet
  rw [hkeep, Set.mem_union, calledMethodSet, Set.mem_ofPred_eq, ← mem_declaredMethods]
  simp only [List.not_mem_nil, false_or, List.mem_append, List.mem_flatMap, List.mem_filter,
    mem_calls, Option.any_eq_true, beq_iff_eq, mem_declaredMethods]
  constructor
  · rintro (hd | ⟨k, ⟨hk, x, hx, ho⟩, hm, l, hl, ht, rfl⟩)
    · exact Or.inl hd
    · exact Or.inr ⟨hm, l, hl, ht, hk, x, hx, ho⟩
  · rintro (hd | ⟨hm, l, hl, ht, hk, x, hx, ho⟩)
    · exact Or.inl hd
    · exact Or.inr ⟨l.source, ⟨hk, x, hx, ho⟩, hm, l, hl, ht, rfl⟩

theorem nodup_responseSet (cls : Nat) (node : ClassNode) : (g.responseSet cls node).Nodup :=
  (foldl_keepFirst _ []).2 List.nodup_nil

theorem mem_ownAccessorSet {cls m : Nat} :
    m ∈ g.ownAccessorSet cls ↔ (g.isAccessor m && (g.methodNode? m).any (·.owner == cls)) = true := by
  rw [Bool.and_eq_true, Option.any_eq_true]
  simp [ownAccessorSet]

theorem response_eq_ncard (c : EngineConfig) (cls : Nat) (node : ClassNode) :
    g.response c cls node = (if c.rfcExcludeAccessors
      then (g.declaredMethodSet node ∪ g.calledMethodSet cls node) \ g.ownAccessorSet cls
      else g.declaredMethodSet node ∪ g.calledMethodSet cls node).ncard := by
  unfold response
  have hnodup := (nodup_responseSet (g := g) cls node).filter
    fun m => !(c.rfcExcludeAccessors && g.isAccessor m && (g.methodNode? m).any (·.owner == cls))
  by_cases hx : c.rfcExcludeAccessors = true
  · rw [if_pos hx]
    refine (ncard_eq_length hnodup fun m => ?_).symm
    rw [List.mem_filter, mem_responseSet, hx, Set.mem_sdiff, mem_ownAccessorSet, Bool.true_and,
      Bool.not_eq_true', Bool.eq_false_iff]
  · rw [if_neg hx]
    refine (ncard_eq_length hnodup fun m => ?_).symm
    rw [List.mem_filter, mem_responseSet, Bool.eq_false_iff.mpr hx]
    simp

end StructuralGraph

open StructuralGraph

/-- Measuring a class of the tree sets its response for class to the number of methods in its
response set: the methods it declares and the method nodes that the edges of its own declared
methods lead to, each once, less the accessors it owns when the settings leave them out. Without
that setting, the response is at least the number of methods the class declares. -/
theorem measureClass_rfc_countsResponse {g : StructuralGraph} {c : EngineConfig} {t : SourceTree}
    {d : DependencyGraph} {cls id : Nat} {node : ClassNode} (hn : g.classNode? cls = some node)
    (hf : t.find? .cls (g.key cls) = some id) :
    (measureClass g c (t, d) cls).1.measure? id .rfc = some (.int (if c.rfcExcludeAccessors
      then (g.declaredMethodSet node ∪ g.calledMethodSet cls node) \ g.ownAccessorSet cls
      else g.declaredMethodSet node ∪ g.calledMethodSet cls node).ncard) ∧
    (c.rfcExcludeAccessors = false →
      (g.declaredMethodSet node).ncard ≤
        (g.declaredMethodSet node ∪ g.calledMethodSet cls node).ncard) := by
  refine ⟨?_, fun _ => ?_⟩
  · rw [measure?_measureClass hn hf, ← response_eq_ncard]
    simp [classMeasures]
  · -- the union is finite, being what the response set lists
    have hfin : (g.declaredMethodSet node ∪ g.calledMethodSet cls node).Finite :=
      (g.responseSet cls node).finite_toSet.subset fun _ hm => mem_responseSet.mpr hm
    exact Set.ncard_le_ncard Set.subset_union_left hfin

/-- When the visitors walk through a class of the tree, whatever states they were in, the
response visitor writes the number of methods in the response set of the class: the methods it
declares, which the visitor gathers as they are announced, and the method nodes that the edges
of those of them the class owns lead to, which it gathers from the edges of the class, leaving
out edges from fields, from the class itself and from methods of other classes. Each counts
once, and the accessors the class owns are left out when the settings say so. Without that
setting, the response is at least the number of methods the class declares. -/
theorem dispatchClass_rfc_countsResponse {g : StructuralGraph} {c : EngineConfig}
    {t : SourceTree} {d : DependencyGraph} {vs : List MetricVisitor}
    (hvs : vs.map MetricVisitor.reset = MetricVisitor.standard) {cls id : Nat} {node : ClassNode}
    (hn : g.classNode? cls = some node) (hf : t.find? .cls (g.key cls) = some id) :
    (dispatchClass g (vs, ⟨g, c, t, d⟩) cls).2.tree.measure? id .rfc = some (.int
      (if c.rfcExcludeAccessors
        then (g.declaredMethodSet node ∪ g.calledMethodSet cls node) \ g.ownAccessorSet cls
        else g.declaredMethodSet node ∪ g.calledMethodSet cls node).ncard) ∧
    (c.rfcExcludeAccessors = false →
      (g.declaredMethodSet node).ncard ≤
        (g.declaredMethodSet node ∪ g.calledMethodSet cls node).ncard) := by
  obtain ⟨s, rfl⟩ := MetricVisitor.Standard.exists_toList hvs
  obtain ⟨s', hs'⟩ := MetricVisitor.Standard.dispatchClass_standard (c := c) s t d cls
  rw [hs']
  exact measureClass_rfc_countsResponse hn hf

/-- A class whose first method calls its second, a method of another class, and reads its own
field, walked through by fresh visitors with the default settings. -/
theorem dispatchClass_rfc_countsResponse_caller :
    let node : ClassNode := ⟨"A", 0x21, some .structureAndCalls, none, [], [1, 2], [3]⟩
    let g : StructuralGraph := {
      nodes := #[.cls node,
        .method ⟨"A#run()V", 0, "run", "()V", 1, true, true, none, []⟩,
        .method ⟨"A#stop()V", 0, "stop", "()V", 1, true, true, none, []⟩,
        .field ⟨"A#f", 0, "f", "I", 2, true⟩,
        .cls ⟨"B", 0x21, some .structureAndCalls, none, [], [5], []⟩,
        .method ⟨"B#go()V", 4, "go", "()V", 1, true, true, none, []⟩]
      links := #[⟨1, 2, .uses, 1⟩, ⟨1, 5, .uses, 1⟩, ⟨1, 3, .uses, 1⟩, ⟨0, 4, .uses, 1⟩] }
    let t : SourceTree := ⟨#[{ key := "p", scope := .project, parent := none },
      { key := "A", scope := .cls, parent := some 0 }]⟩
    MetricVisitor.standard.map MetricVisitor.reset = MetricVisitor.standard ∧
      g.classNode? 0 = some node ∧ t.find? .cls (g.key 0) = some 1 ∧
      (dispatchClass g (MetricVisitor.standard, ⟨g, {}, t, {}⟩) 0).2.tree.measure? 1 .rfc =
        some (.int (g.declaredMethodSet node ∪ g.calledMethodSet 0 node).ncard) ∧
      (g.declaredMethodSet node).ncard ≤ (g.declaredMethodSet node ∪ g.calledMethodSet 0 node).ncard :=
  (dispatchClass_rfc_countsResponse rfl rfl (by decide +kernel)).elim fun hrfc hle =>
    ⟨rfl, rfl, by decide +kernel, hrfc, hle rfl⟩

end ClassMetrics
