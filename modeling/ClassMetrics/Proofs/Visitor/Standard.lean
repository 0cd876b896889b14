import ClassMetrics.Analysis.Visitor
import ClassMetrics.Proofs.Tree.Aggregate
import ClassMetrics.Proofs.Graph.Nodes
import Mathlib.Data.List.Nodup

/-!
The standard visitors measure each class as `measureClass` says. Their six states are read as
one record, `MetricVisitor.Standard`; each callback is one update of that record and of the
context, and each loop of the walk over a class one fold of them. Announcing a class starts
every state afresh, so what the visitors leave for a class depends on nothing they saw
before: the accessors counted, the response set gathered from the declared methods and the
edges of the class's own methods, the cohesion links of the measured methods, and the
dependencies of each edge are those `measureClass` computes. Main statements:
`dispatchClass_standard` for one class and `dispatch_standard` for a run.
-/

namespace ClassMetrics

/-- Keeping the first of each element, in order, on top of `acc`: the result holds what `acc`
and the list hold, each once when `acc` held each once. -/
theorem foldl_keepFirst (l : List Nat) : ∀ acc : List Nat,
    (∀ x, x ∈ l.foldl (fun acc m => if acc.contains m then acc else acc ++ [m]) acc ↔
      x ∈ acc ∨ x ∈ l) ∧
    (acc.Nodup →
      (l.foldl (fun acc m => if acc.contains m then acc else acc ++ [m]) acc).Nodup) := by
  induction l with
  | nil => intro acc; simp
  | cons m l ih =>
    intro acc
    rw [List.foldl_cons]
    by_cases hm : m ∈ acc
    · rw [if_pos (List.contains_iff_mem.mpr hm)]
      obtain ⟨h₁, h₂⟩ := ih acc
      refine ⟨fun x => ?_, h₂⟩
      rw [h₁ x, List.mem_cons]
      grind
    · rw [if_neg (fun h => hm (List.contains_iff_mem.mp h))]
      obtain ⟨h₁, h₂⟩ := ih (acc ++ [m])
      refine ⟨fun x => ?_, fun hnd => h₂ (List.nodup_append.mpr ⟨hnd, by simp, ?_⟩)⟩
      · rw [h₁ x, List.mem_append, List.mem_singleton, List.mem_cons]
        grind
      · intro a ha b hb hab
        rw [List.mem_singleton] at hb
        subst hab hb
        exact hm ha

/-- Inserting the elements of a list one by one, as into a set. -/
theorem foldl_insert (l : List Nat) : ∀ acc : List Nat,
    (∀ x, x ∈ l.foldl (fun s m => s.insert m) acc ↔ x ∈ acc ∨ x ∈ l) ∧
    (acc.Nodup → (l.foldl (fun s m => s.insert m) acc).Nodup) := by
  induction l with
  | nil => intro acc; simp
  | cons m l ih =>
    intro acc
    obtain ⟨h₁, h₂⟩ := ih (acc.insert m)
    refine ⟨fun x => ?_, fun hnd => h₂ (List.Nodup.insert hnd)⟩
    rw [List.foldl_cons, h₁ x, List.mem_insert_iff, List.mem_cons]
    grind

namespace StructuralGraph

theorem methodNode?_of_mem_declaredFields {g : StructuralGraph} {node : ClassNode} {f : Nat}
    (hf : f ∈ g.declaredFields node) : g.methodNode? f = none := by
  obtain ⟨x, hx⟩ : ∃ x, g.fieldNode? f = some x := by
    have hd := (List.mem_filter.mp hf).2
    cases h : g.fieldNode? f <;> simp_all
  exact g.methodNode?_of_fieldNode? hx

end StructuralGraph

namespace SourceTree

@[simp] theorem find?_setMeasure (t : SourceTree) (id : Nat) (m : Metric) (v : MeasureValue)
    (s : Scope) (k : String) : (t.setMeasure id m v).find? s k = t.find? s k :=
  (setMeasure_sameShape t id m v).find?_eq s k

@[simp] theorem containers?_setMeasure (t : SourceTree) (id : Nat) (m : Metric)
    (v : MeasureValue) (k : String) : (t.setMeasure id m v).containers? k = t.containers? k :=
  (setMeasure_sameShape t id m v).containers?_eq k

end SourceTree

namespace VisitContext

variable {cls : Nat} {m : Metric} {v : MeasureValue}

theorem setClassMeasure_mk_of_find?_eq_none {g : StructuralGraph} {c : EngineConfig}
    {t : SourceTree} {d : DependencyGraph} (h : t.find? .cls (g.key cls) = none) :
    (⟨g, c, t, d⟩ : VisitContext).setClassMeasure cls m v = ⟨g, c, t, d⟩ := by
  simp only [setClassMeasure, h]

/-- Recording a dependency changes the dependencies alone. -/
theorem addDependency_mk (g : StructuralGraph) (c : EngineConfig) (t : SourceTree)
    (d : DependencyGraph) (cls : Nat) (source : Containers) (e : Link) :
    addDependency ⟨g, c, t, d⟩ cls source e =
      ⟨g, c, t, (addDependency ⟨g, c, t, d⟩ cls source e).dependencies⟩ := by
  simp only [addDependency]
  split
  · rfl
  · split <;> rfl

end VisitContext

namespace MetricVisitor

/-- The states of the standard visitors, in their order: the accessor count, the class, own
methods and called methods of the response set, the class, measured methods, their set and
the links of cohesion, and the class with its containers for dependencies. -/
structure Standard where
  count : Nat
  rfcClass : Option Nat
  own : List Nat
  called : List Nat
  lcom4Class : Option Nat
  methods : List Nat
  eligible : List Nat
  links : List (Nat × Nat)
  current : Option (Nat × Containers)

namespace Standard

/-- The standard visitors in these states. -/
def toList (s : Standard) : List MetricVisitor :=
  [.accessor s.count, .dit, .rfc s.rfcClass s.own s.called, .noc,
    .lcom4 s.lcom4Class s.methods s.eligible s.links, .dependencies s.current]

/-- Visitors of the standard kinds, in the standard order, are standard visitors in some
states. -/
theorem exists_toList {vs : List MetricVisitor} (h : vs.map reset = standard) :
    ∃ s : Standard, s.toList = vs := by
  simp only [standard, List.map_eq_cons_iff, List.map_eq_nil_iff] at h
  obtain ⟨a₁, _, rfl, h₁, a₂, _, rfl, h₂, a₃, _, rfl, h₃, a₄, _, rfl, h₄, a₅, _, rfl, h₅,
    a₆, _, rfl, h₆, rfl⟩ := h
  cases a₁ <;> cases h₁
  cases a₂ <;> cases h₂
  cases a₃ <;> cases h₃
  cases a₄ <;> cases h₄
  cases a₅ <;> cases h₅
  cases a₆ <;> cases h₆
  exact ⟨⟨_, _, _, _, _, _, _, _, _⟩, rfl⟩

theorem map_reset_toList (s : Standard) : s.toList.map reset = standard := rfl

variable {g : StructuralGraph} {c : EngineConfig} {cls : Nat}

/-- The states when a class begins. -/
def start (cls : Nat) (current : Option (Nat × Containers)) : Standard :=
  ⟨0, some cls, [], [], some cls, [], [], [], current⟩

/-- The states after a declared method: counted if an accessor, an own method of the response
set, and a measured method if it counts for cohesion. -/
def method (g : StructuralGraph) (c : EngineConfig) (s : Standard) (m : Nat) : Standard :=
  { s with
    count := if g.isAccessor m then s.count + 1 else s.count
    own := s.own.insert m
    methods := if g.isCohesive c m then s.methods ++ [m] else s.methods
    eligible := if g.isCohesive c m then s.eligible.insert m else s.eligible }

/-- The called methods after an edge: its target joins them when it is a method and the edge
leads from a method of the class. -/
def calls (g : StructuralGraph) (cur : Option Nat) (called : List Nat) (e : Link) : List Nat :=
  if ((g.methodNode? e.source).any fun m => some m.owner == cur) &&
      (g.methodNode? e.target).isSome then called.insert e.target
  else called

/-- The states after an edge: the response set and the cohesion links take what it adds. -/
def edge (g : StructuralGraph) (c : EngineConfig) (s : Standard) (e : Link) : Standard :=
  { s with
    called := calls g s.rfcClass s.called e
    links := s.links ++ (if s.eligible.contains e.source then
      s.lcom4Class.bind (g.cohesionLink c · e) else none).toList }

/-- The dependencies after an edge, as the dependency visitor records them. -/
def depend (g : StructuralGraph) (c : EngineConfig) (t : SourceTree)
    (current : Option (Nat × Containers)) (d : DependencyGraph) (e : Link) : DependencyGraph :=
  current.elim d fun p => (VisitContext.addDependency ⟨g, c, t, d⟩ p.1 p.2 e).dependencies

/-! ### One callback -/

theorem each_visitClass_of_find? (s : Standard) {t : SourceTree} {d : DependencyGraph} {id : Nat}
    {source : Containers} (hf : t.find? .cls (g.key cls) = some id)
    (hc : t.containers? (g.key cls) = some source) :
    each (visitClass · cls) s.toList ⟨g, c, t, d⟩ = ((start cls (some (cls, source))).toList,
      ⟨g, c, (t.setMeasure id .dit (.int (g.depth cls))).setMeasure id .noc
        (.int (g.subclasses cls).length), d⟩) := by
  simp [each, visitClass, toList, start, VisitContext.setClassMeasure, hf, hc]

theorem each_visitClass_of_find?_eq_none (s : Standard) {t : SourceTree} {d : DependencyGraph}
    (hf : t.find? .cls (g.key cls) = none) :
    each (visitClass · cls) s.toList ⟨g, c, t, d⟩ = ((start cls none).toList, ⟨g, c, t, d⟩) := by
  simp [each, visitClass, toList, start, VisitContext.setClassMeasure_mk_of_find?_eq_none hf,
    SourceTree.containers?, hf]

theorem map_visitMethod (s : Standard) (cx : VisitContext) (m : Nat) :
    s.toList.map (visitMethod cx m) = (s.method cx.graph cx.config m).toList := by
  by_cases h : cx.graph.isCohesive cx.config m <;> simp [toList, method, visitMethod, h]

theorem each_visitEdge (s : Standard) (cx : VisitContext) (e : Link) :
    each (visitEdge · e) s.toList cx =
      ((s.edge cx.graph cx.config e).toList,
        s.current.elim cx fun p => cx.addDependency p.1 p.2 e) := by
  obtain ⟨_, _, _, _, _, _, _, _, _ | ⟨_, _⟩⟩ := s <;> rfl

/-- The response the visitor counts when the class is left. -/
def response (g : StructuralGraph) (c : EngineConfig) (cls : Nat) (s : Standard) : Nat :=
  ((s.own ++ s.called.filter (!s.own.contains ·)).filter fun m => !(c.rfcExcludeAccessors &&
    g.isAccessor m && (g.methodNode? m).any (·.owner == cls))).length

/-- The cohesion blocks the visitor writes when the class is left. -/
def blocks (g : StructuralGraph) (cls : Nat) (s : Standard) : List (List String) :=
  if s.methods.isEmpty then [((g.classNode? cls).map g.instanceBlock).getD []]
  else g.linkedBlocks s.methods s.links

theorem each_leaveClass_of_find? (s : Standard) {t : SourceTree} {d : DependencyGraph} {id : Nat}
    (hf : t.find? .cls (g.key cls) = some id) :
    each (leaveClass · cls) s.toList ⟨g, c, t, d⟩ = ({ s with current := none }.toList,
      ⟨g, c, (((t.setMeasure id .accessors (.int s.count)).setMeasure id .rfc
        (.int (s.response g c cls))).setMeasure id .lcom4 (.int (s.blocks g cls).length)).setMeasure
          id .lcom4Blocks (.blocks (s.blocks g cls)), d⟩) := by
  simp only [each, leaveClass, toList, VisitContext.setClassMeasure, SourceTree.find?_setMeasure, hf]
  rfl

theorem each_leaveClass_of_find?_eq_none (s : Standard) {t : SourceTree} {d : DependencyGraph}
    (hf : t.find? .cls (g.key cls) = none) :
    each (leaveClass · cls) s.toList ⟨g, c, t, d⟩ = ({ s with current := none }.toList,
      ⟨g, c, t, d⟩) := by
  simp [each, leaveClass, toList, VisitContext.setClassMeasure_mk_of_find?_eq_none hf]

/-! ### The loops over a class -/

theorem visitEdges_eq (s : Standard) (x : Nat) (t : SourceTree) (d : DependencyGraph) :
    visitEdges g x (s.toList, ⟨g, c, t, d⟩) =
      (((g.edgesFrom x).foldl (edge g c) s).toList,
        ⟨g, c, t, (g.edgesFrom x).foldl (depend g c t s.current) d⟩) := by
  unfold visitEdges
  induction g.edgesFrom x generalizing s d with
  | nil => rfl
  | cons e es ih =>
    have hcx : (s.current.elim (⟨g, c, t, d⟩ : VisitContext) fun p =>
        VisitContext.addDependency ⟨g, c, t, d⟩ p.1 p.2 e) = ⟨g, c, t, depend g c t s.current d e⟩ := by
      cases s.current with
      | none => rfl
      | some p => exact VisitContext.addDependency_mk g c t d p.1 p.2 e
    rw [List.foldl_cons, each_visitEdge, hcx]
    exact ih (s.edge g c e) _

/-- The edges of a walk: the called methods take their targets, and the links come from
those that leave a measured method. -/
theorem foldl_edge (s : Standard) (es : List Link) :
    es.foldl (edge g c) s = { s with
      called := es.foldl (calls g s.rfcClass) s.called
      links := s.links ++ es.filterMap fun e =>
        if s.eligible.contains e.source then s.lcom4Class.bind (g.cohesionLink c · e) else none } := by
  induction es generalizing s with
  | nil => simp
  | cons e es ih =>
    rw [List.foldl_cons, ih]
    simp only [edge, List.filterMap_cons]
    split
    · cases s.lcom4Class.bind (g.cohesionLink c · e) <;> simp
    · simp

@[simp] theorem current_foldl_edge (s : Standard) (es : List Link) :
    (es.foldl (edge g c) s).current = s.current := by
  induction es generalizing s with
  | nil => rfl
  | cons e es ih => exact ih (s.edge g c e)

/-- A declared method of the class, then the edges from it. -/
def methodStep (g : StructuralGraph) (c : EngineConfig) (s : Standard) (m : Nat) : Standard :=
  (g.edgesFrom m).foldl (edge g c) (s.method g c m)

theorem foldl_methods (ms : List Nat) (s : Standard) (t : SourceTree) (d : DependencyGraph) :
    ms.foldl (fun s m => if (g.methodNode? m).any (·.declared) then
        visitEdges g m (s.1.map (visitMethod s.2 m), s.2) else s) (s.toList, ⟨g, c, t, d⟩) =
      (((ms.filter fun m => (g.methodNode? m).any (·.declared)).foldl (methodStep g c) s).toList,
        ⟨g, c, t, ((ms.filter fun m => (g.methodNode? m).any (·.declared)).flatMap
          g.edgesFrom).foldl (depend g c t s.current) d⟩) := by
  induction ms generalizing s d with
  | nil => rfl
  | cons m ms ih =>
    by_cases hm : (g.methodNode? m).any (·.declared)
    · rw [List.foldl_cons, if_pos hm, map_visitMethod, visitEdges_eq, ih]
      simp only [List.filter_cons, hm, if_true, List.foldl_cons, List.flatMap_cons,
        List.foldl_append, current_foldl_edge]
      rfl
    · rw [List.foldl_cons, if_neg hm, ih]
      simp only [List.filter_cons, hm, Bool.false_eq_true, if_false]

theorem foldl_fields (fs : List Nat) (s : Standard) (t : SourceTree) (d : DependencyGraph) :
    fs.foldl (fun s f => if (g.fieldNode? f).any (·.declared) then visitEdges g f s else s)
        (s.toList, ⟨g, c, t, d⟩) =
      ((((fs.filter fun f => (g.fieldNode? f).any (·.declared)).flatMap g.edgesFrom).foldl
          (edge g c) s).toList,
        ⟨g, c, t, ((fs.filter fun f => (g.fieldNode? f).any (·.declared)).flatMap
          g.edgesFrom).foldl (depend g c t s.current) d⟩) := by
  induction fs generalizing s d with
  | nil => rfl
  | cons f fs ih =>
    by_cases hf : (g.fieldNode? f).any (·.declared)
    · rw [List.foldl_cons, if_pos hf, visitEdges_eq, ih]
      simp only [List.filter_cons, hf, if_true, List.flatMap_cons, List.foldl_append,
        current_foldl_edge]
    · rw [List.foldl_cons, if_neg hf, ih]
      simp only [List.filter_cons, hf, Bool.false_eq_true, if_false]

/-- A declared method, when the measured methods so far all count for cohesion: the edges
from it give links exactly when it counts itself. -/
theorem methodStep_eq (s : Standard) (hl : s.lcom4Class = some cls)
    (he : ∀ x ∈ s.eligible, g.isCohesive c x = true) (m : Nat) :
    methodStep g c s m = { s.method g c m with
      called := (g.edgesFrom m).foldl (calls g s.rfcClass) s.called
      links := s.links ++ if g.isCohesive c m
        then (g.edgesFrom m).filterMap (g.cohesionLink c cls) else [] } := by
  rw [methodStep, foldl_edge]
  have hsrc : ∀ e ∈ g.edgesFrom m, e.source = m := fun e he => g.source_of_mem_edgesFrom he
  by_cases hc : g.isCohesive c m
  · have hlink : ∀ e ∈ g.edgesFrom m, (if (s.method g c m).eligible.contains e.source
        then (s.method g c m).lcom4Class.bind (g.cohesionLink c · e) else none) =
          g.cohesionLink c cls e := fun e he => by simp [method, hc, hsrc e he, hl]
    simp only [List.filterMap_congr hlink, hc, if_true]
    rfl
  · have hm : m ∉ s.eligible := fun h => hc (he m h)
    have hlink : ∀ e ∈ g.edgesFrom m, (if (s.method g c m).eligible.contains e.source
        then (s.method g c m).lcom4Class.bind (g.cohesionLink c · e) else none) = none :=
      fun e he => by simp [method, hc, hsrc e he, hm]
    simp only [List.filterMap_congr hlink, List.filterMap_none, hc]
    rfl

/-- The walk over the declared methods of a class. The measured methods stay cohesive all
along, which is what keeps an edge from a method that does not count from giving a link. -/
theorem foldl_methodStep (D : List Nat) (s : Standard) (hl : s.lcom4Class = some cls)
    (he : ∀ x ∈ s.eligible, g.isCohesive c x = true) :
    D.foldl (methodStep g c) s = { s with
      count := s.count + (D.filter g.isAccessor).length
      own := D.foldl (fun o m => o.insert m) s.own
      called := (D.flatMap g.edgesFrom).foldl (calls g s.rfcClass) s.called
      methods := s.methods ++ D.filter (g.isCohesive c)
      eligible := (D.filter (g.isCohesive c)).foldl (fun o m => o.insert m) s.eligible
      links := s.links ++ (D.filter (g.isCohesive c)).flatMap fun m =>
        (g.edgesFrom m).filterMap (g.cohesionLink c cls) } := by
  induction D generalizing s with
  | nil => simp
  | cons m D ih =>
    have he' : ∀ x ∈ (s.method g c m).eligible, g.isCohesive c x = true := by
      intro x hx
      by_cases hc : g.isCohesive c m
      · simp only [method, hc, if_true, List.mem_insert_iff] at hx
        exact hx.elim (· ▸ hc) (he x)
      · simp only [method, hc, Bool.false_eq_true, if_false] at hx
        exact he x hx
    rw [List.foldl_cons, methodStep_eq s hl he, ih]
    rotate_left
    · exact hl
    · exact he'
    by_cases ha : g.isAccessor m <;> by_cases hc : g.isCohesive c m <;>
      simp [method, ha, hc, List.foldl_append] <;> omega

/-- Edges from nodes that are not measured methods give no link. -/
theorem foldl_edge_of_not_eligible (s : Standard) (es : List Link)
    (hes : ∀ e ∈ es, e.source ∉ s.eligible) :
    es.foldl (edge g c) s = { s with called := es.foldl (calls g s.rfcClass) s.called } := by
  have hnil : (es.filterMap fun e => if s.eligible.contains e.source then
      s.lcom4Class.bind (g.cohesionLink c · e) else none) = [] :=
    List.filterMap_eq_nil_iff.mpr fun e he => by simp [hes e he]
  rw [foldl_edge, hnil, List.append_nil]

theorem foldl_depend_none (t : SourceTree) (es : List Link) (d : DependencyGraph) :
    es.foldl (depend g c t none) d = d := by
  induction es generalizing d with
  | nil => rfl
  | cons e es ih => exact ih d

/-- The states the standard visitors reach at the end of a class, before they leave it: the
accessors among its declared methods counted, those methods as its own, the methods its edges
call, and the measured methods with their cohesion links. -/
def atEnd (g : StructuralGraph) (c : EngineConfig) (cls : Nat) (node : ClassNode)
    (cur : Option (Nat × Containers)) : Standard :=
  { start cls cur with
    count := ((g.declaredMethods node).filter g.isAccessor).length
    own := (g.declaredMethods node).foldl (fun o m => o.insert m) []
    called := (g.classEdges cls node).foldl (calls g (some cls)) []
    methods := (g.declaredMethods node).filter (g.isCohesive c)
    eligible := ((g.declaredMethods node).filter (g.isCohesive c)).foldl (fun o m => o.insert m) []
    links := ((g.declaredMethods node).filter (g.isCohesive c)).flatMap fun m =>
      (g.edgesFrom m).filterMap (g.cohesionLink c cls) }

/-- The walk over a class from a fresh start: its declared methods with their edges, the
edges of its declared fields, and its own edges. -/
theorem foldl_class {node : ClassNode} (hn : g.classNode? cls = some node)
    (cur : Option (Nat × Containers)) :
    (g.edgesFrom cls).foldl (edge g c) (((g.declaredFields node).flatMap g.edgesFrom).foldl
        (edge g c) ((g.declaredMethods node).foldl (methodStep g c) (start cls cur))) =
      atEnd g c cls node cur := by
  rw [← List.foldl_append, foldl_methodStep _ _ rfl (by simp [start]),
    foldl_edge_of_not_eligible]
  · simp [atEnd, start, StructuralGraph.classEdges, List.flatMap_append, List.foldl_append]
  -- a measured method counts for cohesion, which a field or the class itself never does
  intro e he hmem
  have hcoh : g.isCohesive c e.source = true := by
    have := ((foldl_insert _ []).1 e.source).mp hmem
    simp only [List.not_mem_nil, false_or, List.mem_filter] at this
    exact this.2
  have hnone : g.methodNode? e.source = none := by
    rcases List.mem_append.mp he with he | he
    · obtain ⟨f, hf, he⟩ := List.mem_flatMap.mp he
      rw [g.source_of_mem_edgesFrom he]
      exact g.methodNode?_of_mem_declaredFields hf
    · rw [g.source_of_mem_edgesFrom he]
      exact g.methodNode?_of_classNode? hn
  simp [StructuralGraph.isCohesive, hnone] at hcoh

theorem foldl_calls (es : List Link) (cur : Option Nat) (acc : List Nat) :
    es.foldl (calls g cur) acc = ((es.filter fun e =>
      ((g.methodNode? e.source).any fun m => some m.owner == cur) &&
        (g.methodNode? e.target).isSome).map (·.target)).foldl (fun o m => o.insert m) acc := by
  induction es generalizing acc with
  | nil => rfl
  | cons e es ih =>
    rw [List.foldl_cons, ih, calls]
    split <;> simp [*]

/-- The methods called from a class, as its edges give them to the response visitor: the
targets of the edges from its declared methods that it owns. An edge from a field or from the
class itself never leaves a method. -/
theorem mem_called {node : ClassNode} (hn : g.classNode? cls = some node) {x : Nat} :
    x ∈ (g.classEdges cls node).foldl (calls g (some cls)) [] ↔
      x ∈ ((g.declaredMethods node).filter fun m => (g.methodNode? m).any (·.owner == cls)).flatMap
        fun m => ((g.edgesFrom m).filter fun e => (g.methodNode? e.target).isSome).map (·.target) := by
  rw [foldl_calls, (foldl_insert _ []).1]
  simp only [List.not_mem_nil, false_or, List.mem_map, List.mem_filter, List.mem_flatMap,
    StructuralGraph.classEdges, List.mem_append, List.mem_singleton, Bool.and_eq_true]
  constructor
  · rintro ⟨e, ⟨⟨k, hk, he⟩, hsrc, htgt⟩, rfl⟩
    rw [g.source_of_mem_edgesFrom he] at hsrc
    obtain ⟨mn, hmn⟩ : ∃ mn, g.methodNode? k = some mn := by
      cases h : g.methodNode? k <;> simp_all
    -- the edge leaves a method, so neither a field nor the class itself
    have hkD : k ∈ g.declaredMethods node := by
      rcases hk with (hk | hk) | rfl
      · exact hk
      · rw [g.methodNode?_of_mem_declaredFields hk] at hmn
        cases hmn
      · rw [g.methodNode?_of_classNode? hn] at hmn
        cases hmn
    refine ⟨k, ⟨hkD, ?_⟩, e, ⟨he, htgt⟩, rfl⟩
    rw [hmn] at hsrc ⊢
    simpa using hsrc
  · rintro ⟨k, ⟨hkD, hko⟩, e, ⟨he, htgt⟩, rfl⟩
    refine ⟨e, ⟨⟨k, .inl (.inl hkD), he⟩, ?_, htgt⟩, rfl⟩
    rw [g.source_of_mem_edgesFrom he]
    cases h : g.methodNode? k <;> simp_all

/-- The count of the response visitor is the response of the class: its own methods, then the
called ones not among them, are the response set in another order. -/
theorem length_response {node : ClassNode} (hn : g.classNode? cls = some node)
    (p : Nat → Bool) :
    (((g.declaredMethods node).foldl (fun o m => o.insert m) [] ++
      ((g.classEdges cls node).foldl (calls g (some cls)) []).filter
        (!((g.declaredMethods node).foldl (fun o m => o.insert m) []).contains ·)).filter p).length =
      ((g.responseSet cls node).filter p).length := by
  have hown := foldl_insert (g.declaredMethods node) []
  have hcalled : ((g.classEdges cls node).foldl (calls g (some cls)) []).Nodup := by
    rw [foldl_calls]
    exact (foldl_insert _ []).2 List.nodup_nil
  refine (((List.perm_ext_iff_of_nodup ?_ ?_).mpr fun x => ?_).filter p).length_eq
  · refine List.nodup_append.mpr ⟨hown.2 List.nodup_nil, hcalled.filter _, ?_⟩
    intro a ha b hb hab
    subst hab
    simp [ha] at hb
  · exact (foldl_keepFirst _ []).2 List.nodup_nil
  · unfold StructuralGraph.responseSet
    rw [(foldl_keepFirst _ []).1 x, List.mem_append, List.mem_filter, hown.1 x, mem_called hn]
    simp only [List.not_mem_nil, false_or, List.mem_append]
    -- a called method that is also an own method is counted once, as an own method
    by_cases hx : x ∈ g.declaredMethods node
    · simp [hx]
    · have hx' : x ∉ (g.declaredMethods node).foldl (fun o m => o.insert m) [] := by
        rw [hown.1 x]
        simp [hx]
      simp [hx, hx']

@[simp] theorem current_foldl_methodStep (s : Standard) (ms : List Nat) :
    (ms.foldl (methodStep g c) s).current = s.current := by
  induction ms generalizing s with
  | nil => rfl
  | cons m ms ih => rw [List.foldl_cons, ih, methodStep, current_foldl_edge]; rfl

theorem response_atEnd {node : ClassNode} (hn : g.classNode? cls = some node)
    (cur : Option (Nat × Containers)) :
    (atEnd g c cls node cur).response g c cls = g.response c cls node :=
  length_response hn _

theorem blocks_atEnd {node : ClassNode} (hn : g.classNode? cls = some node)
    (cur : Option (Nat × Containers)) :
    (atEnd g c cls node cur).blocks g cls = g.cohesionBlocks c cls node := by
  have hmeasured : (g.declaredMethods node).filter (g.isCohesive c) =
      node.methods.filter fun m => (g.methodNode? m).any (·.declared) && g.isCohesive c m := by
    rw [StructuralGraph.declaredMethods, List.filter_filter]
    exact List.filter_congr fun _ _ => Bool.and_comm _ _
  simp only [blocks, atEnd, StructuralGraph.cohesionBlocks, hmeasured, hn, Option.map_some,
    Option.getD_some]

@[simp] theorem depend_setMeasure (t : SourceTree) (id : Nat) (m : Metric) (v : MeasureValue)
    (cur : Option (Nat × Containers)) :
    depend g c (t.setMeasure id m v) cur = depend g c t cur := by
  funext d e
  cases cur with
  | none => rfl
  | some p =>
    simp only [depend, Option.elim, VisitContext.addDependency, SourceTree.containers?_setMeasure]
    split
    · rfl
    · cases t.containers? (g.key (g.ownerClass e.target)) <;> rfl

/-- Measuring a class of the tree sets its six measures in turn at its node. -/
theorem tree_measureClass {node : ClassNode} {t : SourceTree} {d : DependencyGraph} {id : Nat}
    (hn : g.classNode? cls = some node) (hf : t.find? .cls (g.key cls) = some id) :
    (measureClass g c (t, d) cls).1 =
      (((((t.setMeasure id .dit (.int (g.depth cls))).setMeasure id .noc
        (.int (g.subclasses cls).length)).setMeasure id .accessors
          (.int ((g.declaredMethods node).filter g.isAccessor).length)).setMeasure id .rfc
            (.int (g.response c cls node))).setMeasure id .lcom4
              (.int (g.cohesionBlocks c cls node).length)).setMeasure id .lcom4Blocks
                (.blocks (g.cohesionBlocks c cls node)) := by
  obtain ⟨source, hc⟩ : ∃ source, t.containers? (g.key cls) = some source := by
    simp [SourceTree.containers?, hf]
  simp only [measureClass, hn, hf, hc, StructuralGraph.classMeasures, List.foldl_cons,
    List.foldl_nil]

/-- Measuring a class of the tree records the dependencies of its edges, each as the
dependency visitor records it. -/
theorem dependencies_measureClass {node : ClassNode} {t : SourceTree} {d : DependencyGraph}
    {id : Nat} {source : Containers} (hn : g.classNode? cls = some node)
    (hf : t.find? .cls (g.key cls) = some id) (hc : t.containers? (g.key cls) = some source) :
    (measureClass g c (t, d) cls).2 =
      (g.classEdges cls node).foldl (depend g c t (some (cls, source))) d := by
  simp only [measureClass, hn, hf, hc]
  refine List.foldl_ext _ _ _ fun d' l _ => ?_
  simp only [StructuralGraph.classMeasures, List.foldl_cons, List.foldl_nil,
    SourceTree.containers?_setMeasure, depend, Option.elim, VisitContext.addDependency]
  by_cases htc : g.ownerClass l.target = cls
  · simp [htc]
  · simp only [beq_iff_eq, htc, if_false]
    cases t.containers? (g.key (g.ownerClass l.target)) <;> rfl

/-- The standard visitors walked through one class, whatever states they were in, leave the
tree and the dependencies as measuring the class does. -/
theorem dispatchClass_standard (s : Standard) (t : SourceTree) (d : DependencyGraph) (cls : Nat) :
    ∃ s' : Standard, dispatchClass g (s.toList, ⟨g, c, t, d⟩) cls =
      (s'.toList, ⟨g, c, (measureClass g c (t, d) cls).1, (measureClass g c (t, d) cls).2⟩) := by
  unfold dispatchClass
  cases hn : g.classNode? cls with
  | none => exact ⟨s, by simp [measureClass, hn]⟩
  | some node =>
    dsimp only
    cases hf : t.find? .cls (g.key cls) with
    | none =>
      rw [each_visitClass_of_find?_eq_none s hf, foldl_methods, foldl_fields, visitEdges_eq]
      simp only [current_foldl_methodStep, current_foldl_edge, start, foldl_depend_none]
      rw [each_leaveClass_of_find?_eq_none _ hf]
      refine ⟨_, Prod.ext rfl ?_⟩
      simp [measureClass, hn, hf]
    | some id =>
      obtain ⟨source, hc⟩ : ∃ source, t.containers? (g.key cls) = some source := by
        simp [SourceTree.containers?, hf]
      rw [each_visitClass_of_find? s hf hc, foldl_methods, foldl_fields, visitEdges_eq,
        ← StructuralGraph.declaredMethods, ← StructuralGraph.declaredFields, foldl_class hn]
      simp only [current_foldl_methodStep, current_foldl_edge, start]
      have hf₁ : ∀ m v m' v', ((t.setMeasure id m v).setMeasure id m' v').find? .cls
          (g.key cls) = some id := fun _ _ _ _ => by simp [hf]
      rw [each_leaveClass_of_find? _ (hf₁ _ _ _ _)]
      refine ⟨{ atEnd g c cls node (some (cls, source)) with current := none }, ?_⟩
      rw [tree_measureClass hn hf, dependencies_measureClass hn hf hc, response_atEnd hn,
        blocks_atEnd hn]
      simp only [depend_setMeasure, StructuralGraph.classEdges, List.flatMap_append,
        List.flatMap_cons, List.flatMap_nil, List.append_nil, List.foldl_append]
      rfl

end Standard

end MetricVisitor

open MetricVisitor

/-- The standard visitors walked through classes in turn, whatever states they start in, stay
standard visitors and leave the tree and the dependencies as measuring the classes in turn
does. -/
theorem dispatch_standard {vs : List MetricVisitor} (hvs : vs.map reset = standard)
    (g : StructuralGraph) (c : EngineConfig) (t : SourceTree) (d : DependencyGraph)
    (l : List Nat) :
    (dispatch ⟨g, c, t, d⟩ l vs).1.map reset = standard ∧
      (dispatch ⟨g, c, t, d⟩ l vs).2 =
        ⟨g, c, (l.foldl (measureClass g c) (t, d)).1, (l.foldl (measureClass g c) (t, d)).2⟩ := by
  obtain ⟨s, rfl⟩ := Standard.exists_toList hvs
  clear hvs
  unfold dispatch
  dsimp only
  -- by induction on the classes, from any states of the visitors
  induction l generalizing s t d with
  | nil => exact ⟨s.map_reset_toList, rfl⟩
  | cons cls l ih =>
    obtain ⟨s', hs'⟩ := Standard.dispatchClass_standard (c := c) s t d cls
    rw [List.foldl_cons, List.foldl_cons, hs', ← Prod.eta (measureClass g c (t, d) cls)]
    exact ih (measureClass g c (t, d) cls).1 (measureClass g c (t, d) cls).2 s'

end ClassMetrics
