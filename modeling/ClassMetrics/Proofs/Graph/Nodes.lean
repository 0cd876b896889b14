import ClassMetrics.Loader.Basic

/-! What the updates of the structural graph do to its nodes: pushing a resource adds one node
at the end, and changing a class, method or field leaves every other node, and every node of
another kind, as it was. -/

namespace ClassMetrics.StructuralGraph

variable {g : StructuralGraph} {i j : Nat}

theorem classNode?_eq_some {c : ClassNode} : g.classNode? j = some c ↔ g.resource? j = some (.cls c) := by
  unfold classNode?
  split <;> simp_all

theorem methodNode?_eq_some {m : MethodNode} :
    g.methodNode? j = some m ↔ g.resource? j = some (.method m) := by
  unfold methodNode?
  split <;> simp_all

theorem fieldNode?_eq_some {f : FieldNode} :
    g.fieldNode? j = some f ↔ g.resource? j = some (.field f) := by
  unfold fieldNode?
  split <;> simp_all

theorem methodNode?_of_classNode? {c : ClassNode} (hc : g.classNode? i = some c) :
    g.methodNode? i = none := by
  simp [methodNode?, classNode?_eq_some.mp hc]

theorem fieldNode?_of_methodNode? {m : MethodNode} (hm : g.methodNode? j = some m) :
    g.fieldNode? j = none := by
  simp [fieldNode?, methodNode?_eq_some.mp hm]

theorem methodNode?_of_fieldNode? {f : FieldNode} (hf : g.fieldNode? j = some f) :
    g.methodNode? j = none := by
  simp [methodNode?, fieldNode?_eq_some.mp hf]

theorem source_of_mem_edgesFrom {e : Link} (he : e ∈ g.edgesFrom i) : e.source = i := by
  unfold edgesFrom at he
  simpa using (List.mem_filter.mp he).2

theorem lt_size_of_resource? {r : Resource} (h : g.resource? j = some r) : j < g.size := by
  unfold resource? at h
  exact (Array.getElem?_eq_some_iff.mp h).1

theorem key_of_resource? {r : Resource} (h : g.resource? j = some r) : g.key j = r.key := by
  simp [key, h]

theorem ownerClass_of_resource? {r : Resource} (h : g.resource? j = some r) :
    g.ownerClass j = r.owner j := by
  simp [ownerClass, h]

theorem resource?_isSome_iff : (g.resource? j).isSome ↔ j < g.size := by
  simp [resource?, size]

theorem key_eq_getElem (h : j < g.size) : g.key j = g.nodes[j].key := by
  simp [key, resource?, Array.getElem?_eq_getElem h]

theorem get?_eq_some_iff {k : String} :
    g.get? k = some i ↔ i < g.size ∧ g.key i = k ∧ ∀ j, j < i → g.key j ≠ k := by
  unfold get?
  rw [Array.findIdx?_eq_some_iff_getElem]
  constructor
  · rintro ⟨hi, hk, hlt⟩
    refine ⟨hi, by simpa [key_eq_getElem hi] using hk, fun j hj heq => hlt j hj ?_⟩
    rw [key_eq_getElem (Nat.lt_trans hj hi)] at heq
    rw [beq_iff_eq]
    exact heq
  · rintro ⟨hi, hk, hlt⟩
    refine ⟨hi, by simpa [key_eq_getElem hi] using hk, fun j hj heq => hlt j hj ?_⟩
    rw [key_eq_getElem (Nat.lt_trans hj hi)]
    exact beq_iff_eq.mp heq

theorem get?_eq_none_iff {k : String} : g.get? k = none ↔ ∀ j, j < g.size → g.key j ≠ k := by
  unfold get?
  rw [Array.findIdx?_eq_none_iff]
  constructor
  · intro h j hj hk
    have := h g.nodes[j] (Array.getElem_mem hj)
    rw [key_eq_getElem hj] at hk
    simp [hk] at this
  · intro h x hx
    obtain ⟨j, hj, rfl⟩ := Array.getElem_of_mem hx
    have := h j hj
    rw [key_eq_getElem hj] at this
    simpa using this

theorem get?_eq_findIdx? (k : String) : g.get? k = g.nodes.toList.findIdx? (·.key == k) := by
  unfold get?
  rw [← List.findIdx?_toArray, Array.toArray_toList]

theorem key_of_get? {k : String} (h : g.get? k = some i) : i < g.size ∧ g.key i = k :=
  ⟨(get?_eq_some_iff.mp h).1, (get?_eq_some_iff.mp h).2.1⟩

/-! ### Pushing a node -/

theorem resource?_push (r : Resource) :
    ({ g with nodes := g.nodes.push r } : StructuralGraph).resource? j =
      if j = g.size then some r else g.resource? j := by
  unfold resource? size
  rw [Array.getElem?_push]

@[simp] theorem size_push (r : Resource) :
    ({ g with nodes := g.nodes.push r } : StructuralGraph).size = g.size + 1 := by
  simp [size]

theorem key_push (r : Resource) :
    ({ g with nodes := g.nodes.push r } : StructuralGraph).key j =
      if j = g.size then r.key else g.key j := by
  unfold key
  rw [resource?_push]
  split <;> rfl

theorem ownerClass_push (r : Resource) :
    ({ g with nodes := g.nodes.push r } : StructuralGraph).ownerClass j =
      if j = g.size then r.owner j else g.ownerClass j := by
  unfold ownerClass
  rw [resource?_push]
  split <;> rfl

theorem classNode?_push (r : Resource) :
    ({ g with nodes := g.nodes.push r } : StructuralGraph).classNode? j =
      if j = g.size then (match r with | .cls c => some c | _ => none) else g.classNode? j := by
  unfold classNode?
  rw [resource?_push]
  by_cases h : j = g.size
  · rw [if_pos h, if_pos h]
    cases r <;> rfl
  · rw [if_neg h, if_neg h]

theorem methodNode?_push (r : Resource) :
    ({ g with nodes := g.nodes.push r } : StructuralGraph).methodNode? j =
      if j = g.size then (match r with | .method m => some m | _ => none) else g.methodNode? j := by
  unfold methodNode?
  rw [resource?_push]
  by_cases h : j = g.size
  · rw [if_pos h, if_pos h]
    cases r <;> rfl
  · rw [if_neg h, if_neg h]

theorem fieldNode?_push (r : Resource) :
    ({ g with nodes := g.nodes.push r } : StructuralGraph).fieldNode? j =
      if j = g.size then (match r with | .field f => some f | _ => none) else g.fieldNode? j := by
  unfold fieldNode?
  rw [resource?_push]
  by_cases h : j = g.size
  · rw [if_pos h, if_pos h]
    cases r <;> rfl
  · rw [if_neg h, if_neg h]

/-! ### Changing one class, method or field -/

section Modify

variable {f : ClassNode → ClassNode} {u : MethodNode → MethodNode} {v : FieldNode → FieldNode}

@[simp] theorem size_modifyClass : (g.modifyClass i f).size = g.size := by
  simp [modifyClass, size]

@[simp] theorem links_modifyClass : (g.modifyClass i f).links = g.links := rfl

theorem classNode?_modifyClass :
    (g.modifyClass i f).classNode? j = if i = j then (g.classNode? j).map f else g.classNode? j := by
  unfold classNode? resource? modifyClass
  rw [Array.getElem?_modify]
  by_cases h : i = j
  · rw [if_pos h, if_pos h]
    cases g.nodes[j]? with
    | none => rfl
    | some r => cases r <;> rfl
  · rw [if_neg h, if_neg h]

@[simp] theorem methodNode?_modifyClass : (g.modifyClass i f).methodNode? j = g.methodNode? j := by
  unfold methodNode? resource? modifyClass
  rw [Array.getElem?_modify]
  by_cases h : i = j
  · rw [if_pos h]
    cases g.nodes[j]? with
    | none => rfl
    | some r => cases r <;> rfl
  · rw [if_neg h]

@[simp] theorem fieldNode?_modifyClass : (g.modifyClass i f).fieldNode? j = g.fieldNode? j := by
  unfold fieldNode? resource? modifyClass
  rw [Array.getElem?_modify]
  by_cases h : i = j
  · rw [if_pos h]
    cases g.nodes[j]? with
    | none => rfl
    | some r => cases r <;> rfl
  · rw [if_neg h]

theorem key_modifyClass (hf : ∀ c, (f c).key = c.key) : (g.modifyClass i f).key j = g.key j := by
  unfold key resource? modifyClass
  rw [Array.getElem?_modify]
  by_cases h : i = j
  · rw [if_pos h]
    cases g.nodes[j]? with
    | none => rfl
    | some r => cases r <;> simp [Resource.key, hf]
  · rw [if_neg h]

@[simp] theorem ownerClass_modifyClass : (g.modifyClass i f).ownerClass j = g.ownerClass j := by
  unfold ownerClass resource? modifyClass
  rw [Array.getElem?_modify]
  by_cases h : i = j
  · rw [if_pos h]
    cases g.nodes[j]? with
    | none => rfl
    | some r => cases r <;> rfl
  · rw [if_neg h]

@[simp] theorem size_modifyMethod : (g.modifyMethod i u).size = g.size := by
  simp [modifyMethod, size]

@[simp] theorem links_modifyMethod : (g.modifyMethod i u).links = g.links := rfl

@[simp] theorem classNode?_modifyMethod : (g.modifyMethod i u).classNode? j = g.classNode? j := by
  unfold classNode? resource? modifyMethod
  rw [Array.getElem?_modify]
  by_cases h : i = j
  · rw [if_pos h]
    cases g.nodes[j]? with
    | none => rfl
    | some r => cases r <;> rfl
  · rw [if_neg h]

theorem methodNode?_modifyMethod :
    (g.modifyMethod i u).methodNode? j = if i = j then (g.methodNode? j).map u else g.methodNode? j := by
  unfold methodNode? resource? modifyMethod
  rw [Array.getElem?_modify]
  by_cases h : i = j
  · rw [if_pos h, if_pos h]
    cases g.nodes[j]? with
    | none => rfl
    | some r => cases r <;> rfl
  · rw [if_neg h, if_neg h]

@[simp] theorem fieldNode?_modifyMethod : (g.modifyMethod i u).fieldNode? j = g.fieldNode? j := by
  unfold fieldNode? resource? modifyMethod
  rw [Array.getElem?_modify]
  by_cases h : i = j
  · rw [if_pos h]
    cases g.nodes[j]? with
    | none => rfl
    | some r => cases r <;> rfl
  · rw [if_neg h]

theorem key_modifyMethod (hu : ∀ m, (u m).key = m.key) : (g.modifyMethod i u).key j = g.key j := by
  unfold key resource? modifyMethod
  rw [Array.getElem?_modify]
  by_cases h : i = j
  · rw [if_pos h]
    cases g.nodes[j]? with
    | none => rfl
    | some r => cases r <;> simp [Resource.key, hu]
  · rw [if_neg h]

theorem ownerClass_modifyMethod (hu : ∀ m, (u m).owner = m.owner) :
    (g.modifyMethod i u).ownerClass j = g.ownerClass j := by
  unfold ownerClass resource? modifyMethod
  rw [Array.getElem?_modify]
  by_cases h : i = j
  · rw [if_pos h]
    cases g.nodes[j]? with
    | none => rfl
    | some r => cases r <;> simp [Resource.owner, hu]
  · rw [if_neg h]

@[simp] theorem size_modifyField : (g.modifyField i v).size = g.size := by
  simp [modifyField, size]

@[simp] theorem links_modifyField : (g.modifyField i v).links = g.links := rfl

@[simp] theorem classNode?_modifyField : (g.modifyField i v).classNode? j = g.classNode? j := by
  unfold classNode? resource? modifyField
  rw [Array.getElem?_modify]
  by_cases h : i = j
  · rw [if_pos h]
    cases g.nodes[j]? with
    | none => rfl
    | some r => cases r <;> rfl
  · rw [if_neg h]

@[simp] theorem methodNode?_modifyField : (g.modifyField i v).methodNode? j = g.methodNode? j := by
  unfold methodNode? resource? modifyField
  rw [Array.getElem?_modify]
  by_cases h : i = j
  · rw [if_pos h]
    cases g.nodes[j]? with
    | none => rfl
    | some r => cases r <;> rfl
  · rw [if_neg h]

theorem fieldNode?_modifyField :
    (g.modifyField i v).fieldNode? j = if i = j then (g.fieldNode? j).map v else g.fieldNode? j := by
  unfold fieldNode? resource? modifyField
  rw [Array.getElem?_modify]
  by_cases h : i = j
  · rw [if_pos h, if_pos h]
    cases g.nodes[j]? with
    | none => rfl
    | some r => cases r <;> rfl
  · rw [if_neg h, if_neg h]

theorem key_modifyField (hv : ∀ f, (v f).key = f.key) : (g.modifyField i v).key j = g.key j := by
  unfold key resource? modifyField
  rw [Array.getElem?_modify]
  by_cases h : i = j
  · rw [if_pos h]
    cases g.nodes[j]? with
    | none => rfl
    | some r => cases r <;> simp [Resource.key, hv]
  · rw [if_neg h]

theorem ownerClass_modifyField (hv : ∀ f, (v f).owner = f.owner) :
    (g.modifyField i v).ownerClass j = g.ownerClass j := by
  unfold ownerClass resource? modifyField
  rw [Array.getElem?_modify]
  by_cases h : i = j
  · rw [if_pos h]
    cases g.nodes[j]? with
    | none => rfl
    | some r => cases r <;> simp [Resource.owner, hv]
  · rw [if_neg h]

end Modify

/-! ### Adding a resource -/

section Add

variable {c : ClassNode} {m : MethodNode} {f : FieldNode}

theorem addResource_of_get?_eq_some {r : Resource} (h : g.get? r.key = some i) :
    g.addResource r = (g, i) := by
  simp [addResource, h]

theorem addResource_cls (h : g.get? c.key = none) :
    g.addResource (.cls c) = ({ g with nodes := g.nodes.push (.cls c) }, g.size) := by
  simp [addResource, Resource.key, h]

theorem addResource_method (h : g.get? m.key = none) :
    g.addResource (.method m) =
      (({ g with nodes := g.nodes.push (.method m) } : StructuralGraph).modifyClass m.owner
        fun c => { c with methods := c.methods ++ [g.size] }, g.size) := by
  simp [addResource, Resource.key, h]

theorem addResource_field (h : g.get? f.key = none) :
    g.addResource (.field f) =
      (({ g with nodes := g.nodes.push (.field f) } : StructuralGraph).modifyClass f.owner
        fun c => { c with fields := c.fields ++ [g.size] }, g.size) := by
  simp [addResource, Resource.key, h]

theorem classNode?_addResource_cls (h : g.get? c.key = none) :
    (g.addResource (.cls c)).1.classNode? (g.addResource (.cls c)).2 = some c := by
  rw [addResource_cls h, classNode?_push, if_pos rfl]

/-- The node `addResource` returns is in the graph it leaves and has the resource's key. -/
theorem addResource_key (r : Resource) :
    (g.addResource r).2 < (g.addResource r).1.size ∧
      (g.addResource r).1.key (g.addResource r).2 = r.key := by
  cases hk : g.get? r.key with
  | some i =>
    rw [addResource_of_get?_eq_some hk]
    exact key_of_get? hk
  | none =>
    have hnew : ({ g with nodes := g.nodes.push r } : StructuralGraph).key g.size = r.key := by
      rw [key_push, if_pos rfl]
    cases r with
    | cls c => rw [addResource_cls hk]; exact ⟨by simp, hnew⟩
    | method m =>
      rw [addResource_method hk]
      dsimp only
      rw [key_modifyClass (by intro c; rfl)]
      exact ⟨by simp, hnew⟩
    | field f =>
      rw [addResource_field hk]
      dsimp only
      rw [key_modifyClass (by intro c; rfl)]
      exact ⟨by simp, hnew⟩

end Add

@[simp] theorem nodes_addEdge (s t : Nat) (u : Usage) : (g.addEdge s t u).1.nodes = g.nodes := by
  unfold addEdge
  split
  · rfl
  · split <;> rfl

end ClassMetrics.StructuralGraph
