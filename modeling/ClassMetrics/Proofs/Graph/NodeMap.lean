import ClassMetrics.Proofs.Graph.WellFormed

/-! Changing every node of the graph at once. A `NodeMap` may change a class's level and a
member's content, but never a node's key, kind or owner. Such a change commutes with adding a
resource and with the updates of a class's lists; and a change that leaves the nodes of some
keys alone commutes with declaring members under those keys. -/

namespace ClassMetrics

open ClassFile

/-- A change to every node of a graph that keeps each node's key, kind and owner: a class takes
a level given by its key and old level, and a member may change in anything else. -/
structure NodeMap where
  level : String → Option DetailLevel → Option DetailLevel
  method : MethodNode → MethodNode
  field : FieldNode → FieldNode
  method_key : ∀ m, (method m).key = m.key
  method_owner : ∀ m, (method m).owner = m.owner
  field_key : ∀ f, (field f).key = f.key
  field_owner : ∀ f, (field f).owner = f.owner

namespace NodeMap

/-- What a node map makes of one resource. -/
def apply (τ : NodeMap) : Resource → Resource
  | .cls c => .cls { c with level := τ.level c.key c.level }
  | .method m => .method (τ.method m)
  | .field f => .field (τ.field f)

@[simp] theorem key_apply (τ : NodeMap) (r : Resource) : (τ.apply r).key = r.key := by
  cases r <;> simp [apply, Resource.key, τ.method_key, τ.field_key]

/-- The node map that makes the change `σ` and then the change `τ`. -/
def comp (τ σ : NodeMap) : NodeMap where
  level k l := τ.level k (σ.level k l)
  method m := τ.method (σ.method m)
  field f := τ.field (σ.field f)
  method_key m := (τ.method_key _).trans (σ.method_key m)
  method_owner m := (τ.method_owner _).trans (σ.method_owner m)
  field_key f := (τ.field_key _).trans (σ.field_key f)
  field_owner f := (τ.field_owner _).trans (σ.field_owner f)

theorem apply_comp (τ σ : NodeMap) (r : Resource) : (τ.comp σ).apply r = τ.apply (σ.apply r) := by
  cases r <;> rfl

/-- `τ` leaves every resource keyed `k` as it is. -/
def Fixes (τ : NodeMap) (k : String) : Prop := ∀ r : Resource, r.key = k → τ.apply r = r

/-- Raises the class keyed `cls` to a level; every other node stays. -/
def raise (cls : String) (level : DetailLevel) : NodeMap where
  level k l := if k = cls then some level else l
  method := id
  field := id
  method_key _ := rfl
  method_owner _ := rfl
  field_key _ := rfl
  field_owner _ := rfl

theorem raise_fixes {cls k : String} {level : DetailLevel} (h : k ≠ cls) :
    (raise cls level).Fixes k := by
  intro r hr
  cases r with
  | cls c =>
    have hr' : c.key = k := hr
    have hk : c.key ≠ cls := fun e => h (hr' ▸ e)
    simp [apply, raise, hk]
  | method m => rfl
  | field f => rfl

end NodeMap

namespace StructuralGraph

/-- The graph with every node changed by `τ`. -/
def mapNodes (g : StructuralGraph) (τ : NodeMap) : StructuralGraph :=
  { g with nodes := g.nodes.map τ.apply }

variable {g : StructuralGraph} {τ σ ρ : NodeMap} {i j : Nat}

@[simp] theorem size_mapNodes : (g.mapNodes τ).size = g.size := by
  simp [mapNodes, size]

@[simp] theorem resource?_mapNodes (j : Nat) :
    (g.mapNodes τ).resource? j = (g.resource? j).map τ.apply := by
  simp [mapNodes, resource?]

@[simp] theorem key_mapNodes (j : Nat) : (g.mapNodes τ).key j = g.key j := by
  cases h : g.resource? j <;> simp [key, h]

@[simp] theorem get?_mapNodes (k : String) : (g.mapNodes τ).get? k = g.get? k := by
  rw [get?_eq_findIdx?, get?_eq_findIdx?]
  simp [mapNodes, List.findIdx?_map, Function.comp_def]

theorem classNode?_mapNodes (j : Nat) :
    (g.mapNodes τ).classNode? j =
      (g.classNode? j).map fun c => { c with level := τ.level c.key c.level } := by
  unfold classNode?
  rw [resource?_mapNodes]
  cases g.resource? j with
  | none => rfl
  | some r => cases r <;> rfl

theorem mapNodes_mapNodes (h : ∀ r, τ.apply (σ.apply r) = ρ.apply r) :
    (g.mapNodes σ).mapNodes τ = g.mapNodes ρ := by
  have hcomp : τ.apply ∘ σ.apply = ρ.apply := funext h
  simp only [mapNodes, Array.map_map, hcomp]

theorem mapNodes_eq_self (h : ∀ j r, g.resource? j = some r → τ.apply r = r) :
    g.mapNodes τ = g := by
  have hnodes : g.nodes.map τ.apply = g.nodes := by
    apply Array.ext_getElem?
    intro j
    rw [Array.getElem?_map]
    cases hj : g.nodes[j]? with
    | none => rfl
    | some r => simp [h j r hj]
  simp only [mapNodes, hnodes]

theorem mapNodes_push (r : Resource) :
    ({ g with nodes := g.nodes.push r } : StructuralGraph).mapNodes τ =
      { g.mapNodes τ with nodes := (g.mapNodes τ).nodes.push (τ.apply r) } := by
  simp [mapNodes, Array.map_push]

theorem mapNodes_modify {F : Resource → Resource}
    (h : ∀ r, g.resource? i = some r → τ.apply (F r) = F (τ.apply r)) :
    ({ g with nodes := g.nodes.modify i F } : StructuralGraph).mapNodes τ =
      { g.mapNodes τ with nodes := (g.mapNodes τ).nodes.modify i F } := by
  have hnodes : (g.nodes.modify i F).map τ.apply = (g.nodes.map τ.apply).modify i F := by
    apply Array.ext_getElem?
    intro j
    simp only [Array.getElem?_map, Array.getElem?_modify]
    split
    · rename_i hij
      subst hij
      cases hr : g.nodes[i]? with
      | none => rfl
      | some r => simp [h r hr]
    · rfl
  simp only [mapNodes, hnodes]

theorem mapNodes_modifyClass {f : ClassNode → ClassNode} (hkey : ∀ c, (f c).key = c.key)
    (hlevel : ∀ c l, f { c with level := l } = { f c with level := l }) :
    (g.modifyClass i f).mapNodes τ = (g.mapNodes τ).modifyClass i f := by
  have hkeep : ∀ c, (f c).level = c.level := fun c => by
    have h := congrArg ClassNode.level (hlevel c c.level)
    exact h
  unfold modifyClass
  rw [mapNodes_modify]
  intro r _
  cases r with
  | cls c =>
    show Resource.cls { f c with level := τ.level (f c).key (f c).level } =
      Resource.cls (f { c with level := τ.level c.key c.level })
    rw [hlevel c (τ.level c.key c.level), hkey, hkeep]
  | method m => rfl
  | field x => rfl

/-- Adding a resource and then changing every node is changing every node and then adding the
changed resource: its key is found or not alike, and a member joins the same owner. -/
theorem mapNodes_addResource (r : Resource) :
    (g.addResource r).1.mapNodes τ = ((g.mapNodes τ).addResource (τ.apply r)).1 ∧
      (g.addResource r).2 = ((g.mapNodes τ).addResource (τ.apply r)).2 := by
  cases hk : g.get? r.key with
  | some j =>
    have hk' : (g.mapNodes τ).get? (τ.apply r).key = some j := by simpa using hk
    rw [addResource_of_get?_eq_some hk, addResource_of_get?_eq_some hk']
    exact ⟨rfl, rfl⟩
  | none =>
    have hk' : (g.mapNodes τ).get? (τ.apply r).key = none := by simpa using hk
    cases r with
    | cls c =>
      rw [addResource_cls hk, show τ.apply (.cls c) = .cls { c with level := τ.level c.key c.level }
        from rfl, addResource_cls hk']
      exact ⟨mapNodes_push _, by simp⟩
    | method m =>
      rw [addResource_method hk, show τ.apply (.method m) = .method (τ.method m) from rfl,
        addResource_method hk']
      refine ⟨?_, by simp⟩
      rw [mapNodes_modifyClass (f := fun c => { c with methods := c.methods ++ [g.size] })
        (fun _ => rfl) (fun _ _ => rfl), mapNodes_push, τ.method_owner]
      simp only [size_mapNodes]
      rfl
    | field x =>
      rw [addResource_field hk, show τ.apply (.field x) = .field (τ.field x) from rfl,
        addResource_field hk']
      refine ⟨?_, by simp⟩
      rw [mapNodes_modifyClass (f := fun c => { c with fields := c.fields ++ [g.size] })
        (fun _ => rfl) (fun _ _ => rfl), mapNodes_push, τ.field_owner]
      simp only [size_mapNodes]
      rfl

/-! ### Declaring members under keys a node map leaves alone -/

theorem mapNodes_declareField {owner : Nat} {cls : String} {fi : FieldInfo}
    (h : τ.Fixes (Key.field cls fi.name)) :
    (g.declareField owner cls fi).mapNodes τ = (g.mapNodes τ).declareField owner cls fi := by
  unfold declareField
  dsimp only
  rw [get?_mapNodes]
  cases hk : g.get? (Key.field cls fi.name) with
  | some j =>
    dsimp only
    unfold modifyField
    rw [mapNodes_modify]
    intro r hr
    have hkr : r.key = Key.field cls fi.name := (key_of_resource? hr).symm.trans (key_of_get? hk).2
    rw [h r hkr]
    exact h _ (by cases r <;> exact hkr)
  | none =>
    dsimp only
    rw [(mapNodes_addResource _).1, h _ rfl]

theorem mapNodes_declareMethod {owner : Nat} {cls : String} {mi : MethodInfo}
    (h : τ.Fixes (Key.method cls mi.name mi.descriptor)) :
    (g.declareMethod owner cls mi).mapNodes τ = (g.mapNodes τ).declareMethod owner cls mi := by
  unfold declareMethod
  dsimp only
  rw [get?_mapNodes]
  cases hk : g.get? (Key.method cls mi.name mi.descriptor) with
  | some j =>
    dsimp only
    unfold modifyMethod
    rw [mapNodes_modify]
    intro r hr
    have hkr : r.key = Key.method cls mi.name mi.descriptor :=
      (key_of_resource? hr).symm.trans (key_of_get? hk).2
    rw [h r hkr]
    exact h _ (by cases r <;> exact hkr)
  | none =>
    dsimp only
    rw [(mapNodes_addResource _).1, h _ rfl]

theorem foldl_mapNodes {α : Type} (step : StructuralGraph → α → StructuralGraph) (as : List α)
    (h : ∀ a ∈ as, ∀ g : StructuralGraph, (step g a).mapNodes τ = step (g.mapNodes τ) a) :
    ∀ g : StructuralGraph, (as.foldl step g).mapNodes τ = as.foldl step (g.mapNodes τ) := by
  induction as with
  | nil => intro g; rfl
  | cons a as ih =>
    intro g
    rw [List.foldl_cons, List.foldl_cons, ih (fun b hb => h b (List.mem_cons_of_mem _ hb)),
      h a (List.mem_cons_self ..)]

theorem mapNodes_declareMembers {owner : Nat} {cls : String} {file : ClassInfo}
    (hf : ∀ fi ∈ file.fields, τ.Fixes (Key.field cls fi.name))
    (hm : ∀ mi ∈ file.methods, τ.Fixes (Key.method cls mi.name mi.descriptor)) :
    (g.declareMembers owner cls file).mapNodes τ = (g.mapNodes τ).declareMembers owner cls file := by
  unfold declareMembers
  dsimp only
  rw [foldl_mapNodes _ _ (fun mi hmi _ => mapNodes_declareMethod (hm mi hmi)),
    foldl_mapNodes _ _ (fun fi hfi _ => mapNodes_declareField (hf fi hfi))]

end StructuralGraph

end ClassMetrics
