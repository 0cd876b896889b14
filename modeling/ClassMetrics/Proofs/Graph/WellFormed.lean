import ClassMetrics.Proofs.Graph.Extends

/-! The structural graph's invariant. Keys identify nodes; a member is keyed by its owner's key
and its own name; a class lists exactly the members it owns, in the order they were added; a
class's supertypes are other nodes and its interfaces are listed once; and an edge joins two
nodes that are neither one node nor a member and its owner, once per ordered pair. -/

namespace ClassMetrics.StructuralGraph

open ClassFile

/-- The method nodes that a node owns, in node order. -/
def ownedMethods (g : StructuralGraph) (i : Nat) : List Nat :=
  (List.range g.size).filter fun j => (g.methodNode? j).any (·.owner == i)

/-- The field nodes that a node owns, in node order. -/
def ownedFields (g : StructuralGraph) (i : Nat) : List Nat :=
  (List.range g.size).filter fun j => (g.fieldNode? j).any (·.owner == i)

/-- What the invariant asks of a class node: it lists exactly the members it owns, its
supertypes are other nodes of the graph, and no interface is listed twice. -/
structure ClassShape (g : StructuralGraph) (i : Nat) (c : ClassNode) : Prop where
  methods_eq : c.methods = g.ownedMethods i
  fields_eq : c.fields = g.ownedFields i
  superClass_lt : ∀ s, c.superClass = some s → s < g.size ∧ s ≠ i
  interfaces_lt : ∀ s ∈ c.interfaces, s < g.size ∧ s ≠ i
  interfaces_nodup : c.interfaces.Nodup

/-- The invariant of every graph the loader builds. -/
structure WellFormed (g : StructuralGraph) : Prop where
  key_inj : ∀ i j, i < g.size → j < g.size → g.key i = g.key j → i = j
  method_key : ∀ j m, g.methodNode? j = some m →
    m.owner < g.size ∧ m.key = Key.method (g.key m.owner) m.name m.descriptor
  field_key : ∀ j f, g.fieldNode? j = some f →
    f.owner < g.size ∧ f.key = Key.field (g.key f.owner) f.name
  classShape : ∀ i c, g.classNode? i = some c → g.ClassShape i c
  link_valid : ∀ l ∈ g.links.toList, l.source < g.size ∧ l.target < g.size ∧
    l.source ≠ l.target ∧ g.ownerClass l.source ≠ l.target ∧ l.weight < 2 ^ 32
  links_nodup : (g.links.toList.map fun l => (l.source, l.target)).Nodup

theorem wellFormed_empty : ({} : StructuralGraph).WellFormed where
  key_inj i _ hi := absurd hi (by simp [size])
  method_key j m h := absurd (lt_size_of_resource? (methodNode?_eq_some.mp h)) (by simp [size])
  field_key j f h := absurd (lt_size_of_resource? (fieldNode?_eq_some.mp h)) (by simp [size])
  classShape i c h := absurd (lt_size_of_resource? (classNode?_eq_some.mp h)) (by simp [size])
  link_valid l h := absurd h (by simp)
  links_nodup := by simp

/-! ### Owned members under updates -/

section Owned

variable {g : StructuralGraph}

theorem ownedMethods_push (r : Resource) (o : Nat) :
    ({ g with nodes := g.nodes.push r } : StructuralGraph).ownedMethods o =
      g.ownedMethods o ++ (match r with
        | .method m => if m.owner = o then [g.size] else []
        | _ => []) := by
  unfold ownedMethods
  rw [size_push, List.range_succ, List.filter_append]
  have hold : (List.range g.size).filter (fun j =>
      (({ g with nodes := g.nodes.push r } : StructuralGraph).methodNode? j).any (·.owner == o)) =
      (List.range g.size).filter fun j => (g.methodNode? j).any (·.owner == o) := by
    apply List.filter_congr
    intro j hj
    rw [methodNode?_push, if_neg (Nat.ne_of_lt (List.mem_range.mp hj))]
  rw [hold]
  congr 1
  cases r with
  | method m => by_cases h : m.owner = o <;> simp [methodNode?_push, h]
  | cls c => simp [methodNode?_push]
  | field f => simp [methodNode?_push]

theorem ownedFields_push (r : Resource) (o : Nat) :
    ({ g with nodes := g.nodes.push r } : StructuralGraph).ownedFields o =
      g.ownedFields o ++ (match r with
        | .field f => if f.owner = o then [g.size] else []
        | _ => []) := by
  unfold ownedFields
  rw [size_push, List.range_succ, List.filter_append]
  have hold : (List.range g.size).filter (fun j =>
      (({ g with nodes := g.nodes.push r } : StructuralGraph).fieldNode? j).any (·.owner == o)) =
      (List.range g.size).filter fun j => (g.fieldNode? j).any (·.owner == o) := by
    apply List.filter_congr
    intro j hj
    rw [fieldNode?_push, if_neg (Nat.ne_of_lt (List.mem_range.mp hj))]
  rw [hold]
  congr 1
  cases r with
  | field f => by_cases h : f.owner = o <;> simp [fieldNode?_push, h]
  | cls c => simp [fieldNode?_push]
  | method m => simp [fieldNode?_push]

@[simp] theorem ownedMethods_modifyClass {i : Nat} {f : ClassNode → ClassNode} (o : Nat) :
    (g.modifyClass i f).ownedMethods o = g.ownedMethods o := by
  simp [ownedMethods]

@[simp] theorem ownedFields_modifyClass {i : Nat} {f : ClassNode → ClassNode} (o : Nat) :
    (g.modifyClass i f).ownedFields o = g.ownedFields o := by
  simp [ownedFields]

theorem ownedMethods_modifyMethod {i : Nat} {u : MethodNode → MethodNode}
    (hu : ∀ m, (u m).owner = m.owner) (o : Nat) :
    (g.modifyMethod i u).ownedMethods o = g.ownedMethods o := by
  unfold ownedMethods
  rw [size_modifyMethod]
  apply List.filter_congr
  intro j _
  rw [methodNode?_modifyMethod]
  split
  · cases g.methodNode? j <;> simp [hu]
  · rfl

@[simp] theorem ownedFields_modifyMethod {i : Nat} {u : MethodNode → MethodNode} (o : Nat) :
    (g.modifyMethod i u).ownedFields o = g.ownedFields o := by
  simp [ownedFields]

@[simp] theorem ownedMethods_modifyField {i : Nat} {v : FieldNode → FieldNode} (o : Nat) :
    (g.modifyField i v).ownedMethods o = g.ownedMethods o := by
  simp [ownedMethods]

theorem ownedFields_modifyField {i : Nat} {v : FieldNode → FieldNode}
    (hv : ∀ f, (v f).owner = f.owner) (o : Nat) :
    (g.modifyField i v).ownedFields o = g.ownedFields o := by
  unfold ownedFields
  rw [size_modifyField]
  apply List.filter_congr
  intro j _
  rw [fieldNode?_modifyField]
  split
  · cases g.fieldNode? j <;> simp [hv]
  · rfl

theorem nodup_ownedMethods (g : StructuralGraph) (i : Nat) : (g.ownedMethods i).Nodup :=
  List.Nodup.sublist List.filter_sublist List.nodup_range

theorem nodup_ownedFields (g : StructuralGraph) (i : Nat) : (g.ownedFields i).Nodup :=
  List.Nodup.sublist List.filter_sublist List.nodup_range

theorem mem_ownedMethods {i j : Nat} :
    j ∈ g.ownedMethods i ↔ ∃ m, g.methodNode? j = some m ∧ m.owner = i := by
  unfold ownedMethods
  rw [List.mem_filter, List.mem_range, Option.any_eq_true]
  constructor
  · rintro ⟨-, m, hm, ho⟩
    exact ⟨m, hm, by simpa using ho⟩
  · rintro ⟨m, hm, ho⟩
    exact ⟨lt_size_of_resource? (methodNode?_eq_some.mp hm), m, hm, by simpa using ho⟩

theorem mem_ownedFields {i j : Nat} :
    j ∈ g.ownedFields i ↔ ∃ f, g.fieldNode? j = some f ∧ f.owner = i := by
  unfold ownedFields
  rw [List.mem_filter, List.mem_range, Option.any_eq_true]
  constructor
  · rintro ⟨-, f, hf, ho⟩
    exact ⟨f, hf, by simpa using ho⟩
  · rintro ⟨f, hf, ho⟩
    exact ⟨lt_size_of_resource? (fieldNode?_eq_some.mp hf), f, hf, by simpa using ho⟩

end Owned

theorem ClassShape.extend {g g' : StructuralGraph} {i : Nat} {c : ClassNode} (hs : g.ClassShape i c)
    (hsize : g.size ≤ g'.size) (ms fs : List Nat) (hm : g'.ownedMethods i = g.ownedMethods i ++ ms)
    (hf : g'.ownedFields i = g.ownedFields i ++ fs) :
    g'.ClassShape i { c with methods := c.methods ++ ms, fields := c.fields ++ fs } where
  methods_eq := by rw [hm, hs.methods_eq]
  fields_eq := by rw [hf, hs.fields_eq]
  superClass_lt s h := by
    obtain ⟨hlt, hne⟩ := hs.superClass_lt s h
    exact ⟨by omega, hne⟩
  interfaces_lt s h := by
    obtain ⟨hlt, hne⟩ := hs.interfaces_lt s h
    exact ⟨by omega, hne⟩
  interfaces_nodup := hs.interfaces_nodup

theorem ClassShape.mono {g g' : StructuralGraph} {i : Nat} {c : ClassNode} (hs : g.ClassShape i c)
    (hsize : g.size ≤ g'.size) (hm : g'.ownedMethods i = g.ownedMethods i)
    (hf : g'.ownedFields i = g.ownedFields i) : g'.ClassShape i c := by
  simpa using hs.extend hsize [] [] (by simpa using hm) (by simpa using hf)

theorem ClassShape.congr {g : StructuralGraph} {i : Nat} {c c' : ClassNode} (hs : g.ClassShape i c)
    (hm : c'.methods = c.methods) (hf : c'.fields = c.fields) (hsup : c'.superClass = c.superClass)
    (hifs : c'.interfaces = c.interfaces) : g.ClassShape i c' where
  methods_eq := hm.trans hs.methods_eq
  fields_eq := hf.trans hs.fields_eq
  superClass_lt s h := hs.superClass_lt s (hsup ▸ h)
  interfaces_lt s h := hs.interfaces_lt s (hifs ▸ h)
  interfaces_nodup := hifs ▸ hs.interfaces_nodup

theorem ClassShape.withSupertypes {g : StructuralGraph} {i : Nat} {c : ClassNode}
    (hs : g.ClassShape i c) {sup : Option Nat} {ifaces : List Nat}
    (hsup : ∀ s, sup = some s → s < g.size ∧ s ≠ i) (hifs : ∀ s ∈ ifaces, s < g.size ∧ s ≠ i)
    (hnd : ifaces.Nodup) : g.ClassShape i { c with superClass := sup, interfaces := ifaces } where
  methods_eq := hs.methods_eq
  fields_eq := hs.fields_eq
  superClass_lt := hsup
  interfaces_lt := hifs
  interfaces_nodup := hnd

/-- What a resource must satisfy to be added to a well-formed graph: a class comes bare, and a
member is keyed by its owner's key and its own name. -/
def Admissible (g : StructuralGraph) : Resource → Prop
  | .cls c => c.superClass = none ∧ c.interfaces = [] ∧ c.methods = [] ∧ c.fields = []
  | .method m => m.owner < g.size ∧ m.key = Key.method (g.key m.owner) m.name m.descriptor
  | .field f => f.owner < g.size ∧ f.key = Key.field (g.key f.owner) f.name

/-! ### The invariant under updates -/

namespace WellFormed

variable {g : StructuralGraph}

theorem ownedMethods_eq_nil (hg : g.WellFormed) {o : Nat} (ho : g.size ≤ o) : g.ownedMethods o = [] := by
  unfold ownedMethods
  rw [List.filter_eq_nil_iff]
  intro j _ hj
  cases hm : g.methodNode? j with
  | none => simp [hm] at hj
  | some m =>
    have howner : m.owner = o := by simpa [hm] using hj
    have := (hg.method_key j m hm).1
    omega

theorem ownedFields_eq_nil (hg : g.WellFormed) {o : Nat} (ho : g.size ≤ o) : g.ownedFields o = [] := by
  unfold ownedFields
  rw [List.filter_eq_nil_iff]
  intro j _ hj
  cases hf : g.fieldNode? j with
  | none => simp [hf] at hj
  | some f =>
    have howner : f.owner = o := by simpa [hf] using hj
    have := (hg.field_key j f hf).1
    omega

section Push

variable {r : Resource}

theorem key_inj_push (hg : g.WellFormed) (hk : g.get? r.key = none) :
    ∀ i j, i < g.size + 1 → j < g.size + 1 →
      ({ g with nodes := g.nodes.push r } : StructuralGraph).key i =
        ({ g with nodes := g.nodes.push r } : StructuralGraph).key j → i = j := by
  have hfresh := get?_eq_none_iff.mp hk
  intro i j hi hj hij
  rw [key_push, key_push] at hij
  by_cases hi' : i = g.size <;> by_cases hj' : j = g.size
  · omega
  · rw [if_pos hi', if_neg hj'] at hij
    exact absurd hij.symm (hfresh j (by omega))
  · rw [if_neg hi', if_pos hj'] at hij
    exact absurd hij (hfresh i (by omega))
  · rw [if_neg hi', if_neg hj'] at hij
    exact hg.key_inj i j (by omega) (by omega) hij

theorem method_key_push (hg : g.WellFormed)
    (hr : ∀ m, r = .method m → m.owner < g.size ∧ m.key = Key.method (g.key m.owner) m.name m.descriptor) :
    ∀ j m, ({ g with nodes := g.nodes.push r } : StructuralGraph).methodNode? j = some m →
      m.owner < g.size ∧ m.key = Key.method
        (({ g with nodes := g.nodes.push r } : StructuralGraph).key m.owner) m.name m.descriptor := by
  intro j m h
  have hold : m.owner < g.size ∧ m.key = Key.method (g.key m.owner) m.name m.descriptor := by
    rw [methodNode?_push] at h
    split at h
    · cases r with
      | method m' => cases h; exact hr m rfl
      | cls _ => cases h
      | field _ => cases h
    · exact hg.method_key j m h
  rw [key_push, if_neg (Nat.ne_of_lt hold.1)]
  exact hold

theorem field_key_push (hg : g.WellFormed)
    (hr : ∀ f, r = .field f → f.owner < g.size ∧ f.key = Key.field (g.key f.owner) f.name) :
    ∀ j f, ({ g with nodes := g.nodes.push r } : StructuralGraph).fieldNode? j = some f →
      f.owner < g.size ∧
        f.key = Key.field (({ g with nodes := g.nodes.push r } : StructuralGraph).key f.owner) f.name := by
  intro j f h
  have hold : f.owner < g.size ∧ f.key = Key.field (g.key f.owner) f.name := by
    rw [fieldNode?_push] at h
    split at h
    · cases r with
      | field f' => cases h; exact hr f rfl
      | cls _ => cases h
      | method _ => cases h
    · exact hg.field_key j f h
  rw [key_push, if_neg (Nat.ne_of_lt hold.1)]
  exact hold

theorem link_valid_push (hg : g.WellFormed) (r : Resource) :
    ∀ l ∈ g.links.toList, l.source < g.size + 1 ∧ l.target < g.size + 1 ∧ l.source ≠ l.target ∧
      ({ g with nodes := g.nodes.push r } : StructuralGraph).ownerClass l.source ≠ l.target ∧
      l.weight < 2 ^ 32 := by
  intro l hl
  obtain ⟨hs, ht, hne, howner, hw⟩ := hg.link_valid l hl
  refine ⟨by omega, by omega, hne, ?_, hw⟩
  rwa [ownerClass_push, if_neg (Nat.ne_of_lt hs)]

/-- A fresh class with no supertypes and no members keeps the graph well formed. -/
theorem push_cls (hg : g.WellFormed) {c : ClassNode} (hk : g.get? c.key = none)
    (hsup : c.superClass = none) (hifs : c.interfaces = []) (hms : c.methods = [])
    (hfs : c.fields = []) : ({ g with nodes := g.nodes.push (.cls c) } : StructuralGraph).WellFormed where
  key_inj := by simpa using hg.key_inj_push (r := .cls c) hk
  method_key j m h := by
    have := hg.method_key_push (r := .cls c) (fun _ h => by cases h) j m h
    exact ⟨by simp; omega, this.2⟩
  field_key j f h := by
    have := hg.field_key_push (r := .cls c) (fun _ h => by cases h) j f h
    exact ⟨by simp; omega, this.2⟩
  classShape i c' h := by
    rw [classNode?_push] at h
    split at h
    · -- the new class owns nothing yet
      rename_i hi
      cases h
      subst hi
      refine ⟨?_, ?_, ?_, ?_, ?_⟩
      · rw [hms, ownedMethods_push, hg.ownedMethods_eq_nil (Nat.le_refl _)]; rfl
      · rw [hfs, ownedFields_push, hg.ownedFields_eq_nil (Nat.le_refl _)]; rfl
      · intro s hs; rw [hsup] at hs; cases hs
      · intro s hs; rw [hifs] at hs; cases hs
      · rw [hifs]; exact List.nodup_nil
    · exact (hg.classShape i c' h).mono (by simp) (by rw [ownedMethods_push]; simp)
        (by rw [ownedFields_push]; simp)
  link_valid := by simpa using hg.link_valid_push (.cls c)
  links_nodup := hg.links_nodup

/-- A fresh method, keyed by its owner's key, its name and its descriptor, joins its owner's
list. -/
theorem push_method (hg : g.WellFormed) {m : MethodNode} (hk : g.get? m.key = none)
    (ho : m.owner < g.size) (hkey : m.key = Key.method (g.key m.owner) m.name m.descriptor) :
    (({ g with nodes := g.nodes.push (.method m) } : StructuralGraph).modifyClass m.owner
      fun c => { c with methods := c.methods ++ [g.size] }).WellFormed := by
  have hkeys : ∀ j, ((({ g with nodes := g.nodes.push (.method m) } : StructuralGraph)).modifyClass
      m.owner fun c => { c with methods := c.methods ++ [g.size] }).key j =
      ({ g with nodes := g.nodes.push (.method m) } : StructuralGraph).key j :=
    fun j => key_modifyClass fun _ => rfl
  have hms : ∀ o, ({ g with nodes := g.nodes.push (.method m) } : StructuralGraph).ownedMethods o =
      g.ownedMethods o ++ (if m.owner = o then [g.size] else []) :=
    fun o => ownedMethods_push (.method m) o
  have hfs : ∀ o, ({ g with nodes := g.nodes.push (.method m) } : StructuralGraph).ownedFields o =
      g.ownedFields o := fun o => by
    rw [ownedFields_push]; simp
  refine ⟨?_, ?_, ?_, ?_, ?_, hg.links_nodup⟩
  · simpa [hkeys] using hg.key_inj_push (r := .method m) hk
  · intro j m' h
    have := hg.method_key_push (r := .method m) (fun _ h => by cases h; exact ⟨ho, hkey⟩) j m'
      (by simpa using h)
    rw [hkeys]
    exact ⟨by simp; omega, this.2⟩
  · intro j f h
    have := hg.field_key_push (r := .method m) (fun _ h => by cases h) j f (by simpa using h)
    rw [hkeys]
    exact ⟨by simp; omega, this.2⟩
  · intro i c' h
    rw [classNode?_modifyClass, classNode?_push] at h
    by_cases hi : m.owner = i
    · -- the owner lists the new method after the ones it had
      subst hi
      rw [if_pos rfl, if_neg (Nat.ne_of_lt ho)] at h
      obtain ⟨c, hc, rfl⟩ := Option.map_eq_some_iff.mp h
      simpa using (hg.classShape _ c hc).extend (by simp) [g.size] []
        (by rw [ownedMethods_modifyClass, hms, if_pos rfl]) (by simp [hfs])
    · rw [if_neg hi] at h
      split at h
      · cases h
      · exact (hg.classShape i c' h).mono (by simp)
          (by rw [ownedMethods_modifyClass, hms, if_neg hi, List.append_nil]) (by simp [hfs])
  · simpa using hg.link_valid_push (.method m)

/-- A fresh field, keyed by its owner's key and its name, joins its owner's list. -/
theorem push_field (hg : g.WellFormed) {f : FieldNode} (hk : g.get? f.key = none)
    (ho : f.owner < g.size) (hkey : f.key = Key.field (g.key f.owner) f.name) :
    (({ g with nodes := g.nodes.push (.field f) } : StructuralGraph).modifyClass f.owner
      fun c => { c with fields := c.fields ++ [g.size] }).WellFormed := by
  have hkeys : ∀ j, ((({ g with nodes := g.nodes.push (.field f) } : StructuralGraph)).modifyClass
      f.owner fun c => { c with fields := c.fields ++ [g.size] }).key j =
      ({ g with nodes := g.nodes.push (.field f) } : StructuralGraph).key j :=
    fun j => key_modifyClass fun _ => rfl
  have hms : ∀ o, ({ g with nodes := g.nodes.push (.field f) } : StructuralGraph).ownedMethods o =
      g.ownedMethods o := fun o => by
    rw [ownedMethods_push]; simp
  have hfs : ∀ o, ({ g with nodes := g.nodes.push (.field f) } : StructuralGraph).ownedFields o =
      g.ownedFields o ++ (if f.owner = o then [g.size] else []) :=
    fun o => ownedFields_push (.field f) o
  refine ⟨?_, ?_, ?_, ?_, ?_, hg.links_nodup⟩
  · simpa [hkeys] using hg.key_inj_push (r := .field f) hk
  · intro j m h
    have := hg.method_key_push (r := .field f) (fun _ h => by cases h) j m (by simpa using h)
    rw [hkeys]
    exact ⟨by simp; omega, this.2⟩
  · intro j f' h
    have := hg.field_key_push (r := .field f) (fun _ h => by cases h; exact ⟨ho, hkey⟩) j f'
      (by simpa using h)
    rw [hkeys]
    exact ⟨by simp; omega, this.2⟩
  · intro i c' h
    rw [classNode?_modifyClass, classNode?_push] at h
    by_cases hi : f.owner = i
    · -- the owner lists the new field after the ones it had
      subst hi
      rw [if_pos rfl, if_neg (Nat.ne_of_lt ho)] at h
      obtain ⟨c, hc, rfl⟩ := Option.map_eq_some_iff.mp h
      simpa using (hg.classShape _ c hc).extend (by simp) [] [g.size] (by simp [hms])
        (by rw [ownedFields_modifyClass, hfs, if_pos rfl])
    · rw [if_neg hi] at h
      split at h
      · cases h
      · exact (hg.classShape i c' h).mono (by simp) (by simp [hms])
          (by rw [ownedFields_modifyClass, hfs, if_neg hi, List.append_nil])
  · simpa using hg.link_valid_push (.field f)

end Push

theorem modifyClass (hg : g.WellFormed) {i : Nat} {f : ClassNode → ClassNode}
    (hkey : ∀ c, (f c).key = c.key) (hshape : ∀ c, g.classNode? i = some c → g.ClassShape i (f c)) :
    (g.modifyClass i f).WellFormed where
  key_inj := by simpa [key_modifyClass hkey] using hg.key_inj
  method_key j m h := by simpa [key_modifyClass hkey] using hg.method_key j m (by simpa using h)
  field_key j x h := by simpa [key_modifyClass hkey] using hg.field_key j x (by simpa using h)
  classShape j c' h := by
    rw [classNode?_modifyClass] at h
    split at h
    · rename_i hij
      subst hij
      obtain ⟨c, hc, rfl⟩ := Option.map_eq_some_iff.mp h
      exact (hshape c hc).mono (by simp) (by simp) (by simp)
    · exact (hg.classShape j c' h).mono (by simp) (by simp) (by simp)
  link_valid := by simpa using hg.link_valid
  links_nodup := hg.links_nodup

/-- A method update that keeps what keys the method keeps the graph well formed. -/
theorem modifyMethod (hg : g.WellFormed) {i : Nat} {u : MethodNode → MethodNode}
    (hu : ∀ m, (u m).key = m.key ∧ (u m).owner = m.owner ∧ (u m).name = m.name ∧
      (u m).descriptor = m.descriptor) :
    (g.modifyMethod i u).WellFormed where
  key_inj := by simpa [key_modifyMethod fun m => (hu m).1] using hg.key_inj
  method_key j m' h := by
    rw [methodNode?_modifyMethod] at h
    simp only [size_modifyMethod, key_modifyMethod fun m => (hu m).1]
    split at h
    · obtain ⟨m, hm, rfl⟩ := Option.map_eq_some_iff.mp h
      obtain ⟨hk, ho, hn, hd⟩ := hu m
      rw [hk, ho, hn, hd]
      exact hg.method_key j m hm
    · exact hg.method_key j m' h
  field_key j x h := by
    simpa [key_modifyMethod fun m => (hu m).1] using hg.field_key j x (by simpa using h)
  classShape j c h := (hg.classShape j c (by simpa using h)).mono (by simp)
    (ownedMethods_modifyMethod (fun m => (hu m).2.1) j) (by simp)
  link_valid := by simpa [ownerClass_modifyMethod fun m => (hu m).2.1] using hg.link_valid
  links_nodup := hg.links_nodup

/-- A field update that keeps what keys the field keeps the graph well formed. -/
theorem modifyField (hg : g.WellFormed) {i : Nat} {v : FieldNode → FieldNode}
    (hv : ∀ f, (v f).key = f.key ∧ (v f).owner = f.owner ∧ (v f).name = f.name) :
    (g.modifyField i v).WellFormed where
  key_inj := by simpa [key_modifyField fun f => (hv f).1] using hg.key_inj
  method_key j m h := by
    simpa [key_modifyField fun f => (hv f).1] using hg.method_key j m (by simpa using h)
  field_key j f' h := by
    rw [fieldNode?_modifyField] at h
    simp only [size_modifyField, key_modifyField fun f => (hv f).1]
    split at h
    · obtain ⟨f, hf, rfl⟩ := Option.map_eq_some_iff.mp h
      obtain ⟨hk, ho, hn⟩ := hv f
      rw [hk, ho, hn]
      exact hg.field_key j f hf
    · exact hg.field_key j f' h
  classShape j c h := (hg.classShape j c (by simpa using h)).mono (by simp) (by simp)
    (ownedFields_modifyField (fun f => (hv f).2.1) j)
  link_valid := by simpa [ownerClass_modifyField fun f => (hv f).2.1] using hg.link_valid
  links_nodup := hg.links_nodup

theorem addResource (hg : g.WellFormed) {r : Resource} (hr : g.Admissible r) :
    (g.addResource r).1.WellFormed := by
  cases hk : g.get? r.key with
  | some i => rw [addResource_of_get?_eq_some hk]; exact hg
  | none =>
    cases r with
    | cls c => rw [addResource_cls hk]; exact hg.push_cls hk hr.1 hr.2.1 hr.2.2.1 hr.2.2.2
    | method m => rw [addResource_method hk]; exact hg.push_method hk hr.1 hr.2
    | field f => rw [addResource_field hk]; exact hg.push_field hk hr.1 hr.2

section Declare

variable {owner : Nat} {cls : String}

theorem declareField (hg : g.WellFormed) (ho : owner < g.size) (hk : g.key owner = cls)
    (f : FieldInfo) : (g.declareField owner cls f).WellFormed := by
  unfold StructuralGraph.declareField
  dsimp only
  split
  · exact hg.modifyField fun _ => ⟨rfl, rfl, rfl⟩
  · exact hg.addResource ⟨ho, by rw [hk]⟩

theorem declareMethod (hg : g.WellFormed) (ho : owner < g.size) (hk : g.key owner = cls)
    (m : MethodInfo) : (g.declareMethod owner cls m).WellFormed := by
  unfold StructuralGraph.declareMethod
  dsimp only
  split
  · exact hg.modifyMethod fun _ => ⟨rfl, rfl, rfl, rfl⟩
  · exact hg.addResource ⟨ho, by rw [hk]⟩

theorem declareMembers (hg : g.WellFormed) (ho : owner < g.size) (hk : g.key owner = cls)
    (file : ClassInfo) : (g.declareMembers owner cls file).WellFormed := by
  -- every declaration extends the graph, so the owner keeps its place and its key
  have hkeep : ∀ {g' g'' : StructuralGraph}, g'.Extends g'' → owner < g'.size → g'.key owner = cls →
      owner < g''.size ∧ g''.key owner = cls := fun h ho hk =>
    ⟨Nat.lt_of_lt_of_le ho h.size_le, by rw [h.key_eq ho, hk]⟩
  unfold StructuralGraph.declareMembers
  have hfields := List.foldlRecOn
    (motive := fun g : StructuralGraph => g.WellFormed ∧ owner < g.size ∧ g.key owner = cls)
    file.fields (fun g f => g.declareField owner cls f) ⟨hg, ho, hk⟩
    fun g' ⟨hg', ho', hk'⟩ f _ => ⟨hg'.declareField ho' hk' f,
      hkeep (extends_declareField owner cls f) ho' hk'⟩
  have hmethods := List.foldlRecOn
    (motive := fun g : StructuralGraph => g.WellFormed ∧ owner < g.size ∧ g.key owner = cls)
    file.methods (fun g m => g.declareMethod owner cls m) hfields
    fun g' ⟨hg', ho', hk'⟩ m _ => ⟨hg'.declareMethod ho' hk' m,
      hkeep (extends_declareMethod owner cls m) ho' hk'⟩
  exact hmethods.1

end Declare

theorem withLinks (hg : g.WellFormed) {L : Array Link}
    (hv : ∀ l ∈ L.toList, l.source < g.size ∧ l.target < g.size ∧ l.source ≠ l.target ∧
      g.ownerClass l.source ≠ l.target ∧ l.weight < 2 ^ 32)
    (hnd : (L.toList.map fun l => (l.source, l.target)).Nodup) :
    ({ g with links := L } : StructuralGraph).WellFormed where
  key_inj := hg.key_inj
  method_key := hg.method_key
  field_key := hg.field_key
  classShape i c h := (hg.classShape i c h).mono (Nat.le_refl _) rfl rfl
  link_valid := hv
  links_nodup := hnd

/-- Recording an edge between two nodes of a well-formed graph keeps it well formed: a refused
edge changes nothing, a known one keeps its ends, and a new one joins a pair with no edge yet. -/
theorem addEdge (hg : g.WellFormed) {s t : Nat} (hs : s < g.size) (ht : t < g.size) (u : Usage) :
    (g.addEdge s t u).1.WellFormed := by
  unfold StructuralGraph.addEdge
  split
  · exact hg
  rename_i hrefused
  have hne : s ≠ t := fun h => hrefused (.inl h)
  have howner : g.ownerClass s ≠ t := fun h => hrefused (.inr h)
  split
  · -- the edge is there: it gains a use, and its ends stay
    rename_i j hj
    have hlt : j < g.links.toList.length := by
      have := (Array.findIdx?_eq_some_iff_getElem.mp hj).1
      simpa using this
    obtain ⟨l₁, a, l₂, hsplit, -, hmod⟩ := List.exists_of_modify
      (fun l => { l with usage := l.usage.strongest u, weight := (l.weight + 1) % 2 ^ 32 }) hlt
    have hv := hg.link_valid
    have hnd := hg.links_nodup
    rw [hsplit] at hv hnd
    refine hg.withLinks ?_ ?_
    · rw [Array.toList_modify, hmod]
      intro l hl
      simp only [List.mem_append, List.mem_cons] at hl
      rcases hl with hl | rfl | hl
      · exact hv l (by simp [hl])
      · obtain ⟨h1, h2, h3, h4, -⟩ := hv a (by simp)
        exact ⟨h1, h2, h3, h4, Nat.mod_lt _ (Nat.two_pow_pos 32)⟩
      · exact hv l (by simp [hl])
    · rw [Array.toList_modify, hmod]
      simpa using hnd
  · -- no edge yet between the two: the new one is the only one for the pair
    rename_i hnone
    have hfresh := Array.findIdx?_eq_none_iff.mp hnone
    refine hg.withLinks ?_ ?_
    · intro l hl
      rw [Array.toList_push, List.mem_append, List.mem_singleton] at hl
      rcases hl with hl | rfl
      · exact hg.link_valid l hl
      · exact ⟨hs, ht, hne, howner, Nat.one_lt_two_pow (by decide)⟩
    · rw [Array.toList_push, List.map_append, List.nodup_append]
      refine ⟨hg.links_nodup, by simp, ?_⟩
      intro p hp q hq hpq
      obtain ⟨l, hl, rfl⟩ := List.mem_map.mp hp
      simp only [List.map_cons, List.map_nil, List.mem_singleton] at hq
      subst hq
      have := hfresh l (Array.mem_toList_iff.mp hl)
      simp_all

/-! ### What the invariant gives -/

theorem get?_eq_some_iff (hg : g.WellFormed) {k : String} {i : Nat} :
    g.get? k = some i ↔ i < g.size ∧ g.key i = k := by
  constructor
  · exact key_of_get?
  · rintro ⟨hi, hk⟩
    refine StructuralGraph.get?_eq_some_iff.mpr ⟨hi, hk, fun j hj hkj => ?_⟩
    have hji := hg.key_inj j i (by omega) hi (hkj.trans hk.symm)
    omega

theorem count_methods (hg : g.WellFormed) {j : Nat} {m : MethodNode} {c : ClassNode}
    (hm : g.methodNode? j = some m) (hc : g.classNode? m.owner = some c) : c.methods.count j = 1 := by
  rw [(hg.classShape _ c hc).methods_eq, List.Nodup.count (nodup_ownedMethods g _),
    if_pos (mem_ownedMethods.mpr ⟨m, hm, rfl⟩)]

theorem count_fields (hg : g.WellFormed) {j : Nat} {f : FieldNode} {c : ClassNode}
    (hf : g.fieldNode? j = some f) (hc : g.classNode? f.owner = some c) : c.fields.count j = 1 := by
  rw [(hg.classShape _ c hc).fields_eq, List.Nodup.count (nodup_ownedFields g _),
    if_pos (mem_ownedFields.mpr ⟨f, hf, rfl⟩)]

theorem mem_methods (hg : g.WellFormed) {i j : Nat} {c : ClassNode} (hc : g.classNode? i = some c)
    (hj : j ∈ c.methods) : ∃ m, g.methodNode? j = some m ∧ m.owner = i :=
  mem_ownedMethods.mp ((hg.classShape i c hc).methods_eq ▸ hj)

theorem mem_fields (hg : g.WellFormed) {i j : Nat} {c : ClassNode} (hc : g.classNode? i = some c)
    (hj : j ∈ c.fields) : ∃ f, g.fieldNode? j = some f ∧ f.owner = i :=
  mem_ownedFields.mp ((hg.classShape i c hc).fields_eq ▸ hj)

theorem classNode_of_key (hg : g.WellFormed) {j : Nat} (hj : j < g.size)
    (hk : '#' ∉ (g.key j).toList) : ∃ c, g.classNode? j = some c := by
  obtain ⟨r, hr⟩ := Option.isSome_iff_exists.mp (resource?_isSome_iff.mpr hj)
  rw [key_of_resource? hr] at hk
  cases r with
  | cls c => exact ⟨c, classNode?_eq_some.mpr hr⟩
  | method m =>
    have hkey := (hg.method_key j m (methodNode?_eq_some.mpr hr)).2
    exact absurd (by rw [show (Resource.method m).key = m.key from rfl, hkey]; simp [Key.method]) hk
  | field f =>
    have hkey := (hg.field_key j f (fieldNode?_eq_some.mpr hr)).2
    exact absurd (by rw [show (Resource.field f).key = f.key from rfl, hkey]; simp [Key.field]) hk

end WellFormed

end ClassMetrics.StructuralGraph
