import ClassMetrics.Proofs.Order.Renumber
import ClassMetrics.Proofs.Graph.Resolution

/-!
Graphs that agree key by key. Read with node numbers turned into keys, a resource of one graph
and one of another are alike when they are classes of the same key, access and level naming the
same supertypes, or members alike but for their owners, which have the same key. When every
node of each of two well-formed graphs has a node alike under its key in the other, sending each
node to the node of its key renumbers the one graph as the other: their edges apart, which the
renumbering must carry separately.
-/

namespace ClassMetrics

namespace StructuralGraph

/-- A resource of `g` and one of `g'` alike when node numbers are read as keys: classes of the
same key, access and level, naming the same supertypes; or members alike but for their owners,
which have the same key. -/
def AlikeIn (g g' : StructuralGraph) : Resource → Resource → Prop
  | .cls c, .cls c' => c'.key = c.key ∧ c'.access = c.access ∧ c'.level = c.level ∧
      c'.superClass.map g'.key = c.superClass.map g.key ∧
      c'.interfaces.map g'.key = c.interfaces.map g.key
  | .method m, .method m' => m'.unowned = m.unowned ∧ g'.key m'.owner = g.key m.owner
  | .field f, .field f' => f'.unowned = f.unowned ∧ g'.key f'.owner = g.key f.owner
  | _, _ => False

theorem AlikeIn.key_eq {g g' : StructuralGraph} {r r' : Resource} (h : g.AlikeIn g' r r') :
    r'.key = r.key := by
  cases r <;> cases r' <;> simp only [AlikeIn] at h
  · exact h.1
  · have hk := congrArg MethodNode.key h.1
    exact hk
  · have hk := congrArg FieldNode.key h.1
    exact hk

theorem AlikeIn.isDeclared_eq {g g' : StructuralGraph} {r r' : Resource} (h : g.AlikeIn g' r r') :
    r'.isDeclared = r.isDeclared := by
  cases r <;> cases r' <;> simp only [AlikeIn] at h
  · rfl
  · have hd := congrArg MethodNode.declared h.1
    exact hd
  · have hd := congrArg FieldNode.declared h.1
    exact hd

/-- Every node of `g` has a node alike under its key in `g'`. -/
def KeyedIn (g g' : StructuralGraph) : Prop :=
  ∀ i r, g.resource? i = some r →
    ∃ i' r', g'.get? r.key = some i' ∧ g'.resource? i' = some r' ∧ g.AlikeIn g' r r'

/-- Every class of `g` has a class alike under its key in `g'`. -/
def ClassesKeyedIn (g g' : StructuralGraph) : Prop :=
  ∀ i c, g.classNode? i = some c →
    ∃ i' c', g'.get? c.key = some i' ∧ g'.classNode? i' = some c' ∧ g.AlikeIn g' (.cls c) (.cls c')

theorem KeyedIn.classes {g g' : StructuralGraph} (h : g.KeyedIn g') : g.ClassesKeyedIn g' := by
  intro i c hc
  obtain ⟨i', r', hi', hr', halike⟩ := h i _ (classNode?_eq_some.mp hc)
  cases r' with
  | cls c' => exact ⟨i', c', hi', classNode?_eq_some.mpr hr', halike⟩
  | method _ => exact absurd halike id
  | field _ => exact absurd halike id

/-- Each node of `g` sent to the node of its key in `g'`. -/
def byKey (g g' : StructuralGraph) (i : Nat) : Nat := (g'.get? (g.key i)).getD g'.size

section ByKey

variable {g g' : StructuralGraph}

theorem byKey_eq {i i' : Nat} (h : g'.get? (g.key i) = some i') : g.byKey g' i = i' := by
  unfold byKey
  rw [h]
  rfl

theorem byKey_spec (hg' : g'.WellFormed) {i i' : Nat} (hi' : i' < g'.size)
    (hk : g'.key i' = g.key i) : g.byKey g' i = i' :=
  byKey_eq (hg'.get?_eq_some_iff.mpr ⟨hi', hk⟩)

theorem map_byKey_of_keys (hg' : g'.WellFormed) {l : List Nat} {l' : List Nat} (hl' : ∀ x ∈ l', x < g'.size)
    (hk : l'.map g'.key = l.map g.key) : l' = l.map (g.byKey g') := by
  induction l generalizing l' with
  | nil => simpa using hk
  | cons x l ih =>
    cases l' with
    | nil => simp at hk
    | cons x' l' =>
      simp only [List.map_cons, List.cons.injEq] at hk ⊢
      exact ⟨(byKey_spec hg' (hl' x' List.mem_cons_self) hk.1).symm,
        ih (fun y hy => hl' y (List.mem_cons_of_mem x' hy)) hk.2⟩

/-! ### Classes and their hierarchies -/

section Classes

variable (hg' : g'.WellFormed) (h : g.ClassesKeyedIn g')
include hg' h

/-- A class goes to a class of its key, access and level, naming its supertypes sent by keys. -/
theorem classNode?_byKey {i : Nat} {c : ClassNode} (hc : g.classNode? i = some c) :
    ∃ c', g'.classNode? (g.byKey g' i) = some c' ∧ c'.key = c.key ∧ c'.access = c.access ∧
      c'.level = c.level ∧ c'.superClass = c.superClass.map (g.byKey g') ∧
      c'.interfaces = c.interfaces.map (g.byKey g') := by
  obtain ⟨i', c', hi', hc', hkey, hacc, hlev, hsup, hifs⟩ := h i c hc
  have hshape' := hg'.classShape i' c' hc'
  have hk : g.key i = c.key := key_of_resource? (classNode?_eq_some.mp hc)
  rw [← hk] at hi'
  rw [byKey_eq hi']
  refine ⟨c', hc', hkey, hacc, hlev, ?_,
    map_byKey_of_keys hg' (fun x hx => (hshape'.interfaces_lt x hx).1) hifs⟩
  cases hs : c.superClass with
  | none =>
    rw [hs] at hsup
    exact Option.map_eq_none_iff.mp hsup
  | some s =>
    rw [hs] at hsup
    obtain ⟨s', hs', hks'⟩ := Option.map_eq_some_iff.mp hsup
    rw [hs', Option.map_some, byKey_spec hg' (hshape'.superClass_lt s' hs').1 hks']

theorem superOf?_byKey {k p : Nat} (hp : g.superOf? k = some p) :
    g'.superOf? (g.byKey g' k) = some (g.byKey g' p) := by
  obtain ⟨c, hc, hs⟩ := Option.bind_eq_some_iff.mp hp
  obtain ⟨c', hc', -, -, -, hsup, -⟩ := classNode?_byKey hg' h hc
  rw [superOf?, hc', Option.bind_some, hsup, hs, Option.map_some]

theorem superAt_byKey {c k n : Nat} (hk : g.superAt c n = some k) :
    g'.superAt (g.byKey g' c) n = some (g.byKey g' k) := by
  induction n generalizing k with
  | zero =>
    rw [superAt_zero] at hk
    cases hk
    rfl
  | succ n ih =>
    obtain ⟨j, hj, hjk⟩ := Option.bind_eq_some_iff.mp hk
    rw [superAt_succ, ih hj, Option.bind_some]
    exact superOf?_byKey hg' h hjk

theorem mem_interfacesOf_byKey {k p : Nat} (hp : p ∈ g.interfacesOf k) :
    g.byKey g' p ∈ g'.interfacesOf (g.byKey g' k) := by
  cases hc : g.classNode? k with
  | none => simp [interfacesOf, hc] at hp
  | some c =>
    obtain ⟨c', hc', -, -, -, -, hifs⟩ := classNode?_byKey hg' h hc
    rw [interfacesOf_of_classNode? hc] at hp
    rw [interfacesOf_of_classNode? hc', hifs]
    exact List.mem_map_of_mem hp

theorem inHierarchy_byKey {c k : Nat} (hk : g.InHierarchy c k) :
    g'.InHierarchy (g.byKey g' c) (g.byKey g' k) := by
  induction hk with
  | chain hk => exact .chain (superAt_byKey hg' h hk)
  | iface _ hp ih => exact .iface ih (mem_interfacesOf_byKey hg' h hp)

end Classes

/-! ### All nodes -/

variable (hg : g.WellFormed) (hg' : g'.WellFormed) (h : g.KeyedIn g')
include h

theorem resource?_byKey {i : Nat} {r : Resource} (hr : g.resource? i = some r) :
    ∃ r', g'.resource? (g.byKey g' i) = some r' ∧ g.AlikeIn g' r r' := by
  obtain ⟨i', r', hi', hr', halike⟩ := h i r hr
  rw [← key_of_resource? hr] at hi'
  rw [byKey_eq hi']
  exact ⟨r', hr', halike⟩

theorem byKey_lt {i : Nat} (hi : i < g.size) :
    g.byKey g' i < g'.size ∧ g'.key (g.byKey g' i) = g.key i := by
  obtain ⟨r, hr⟩ := Option.isSome_iff_exists.mp (resource?_isSome_iff.mpr hi)
  obtain ⟨i', -, hi', -, -⟩ := h i r hr
  rw [← key_of_resource? hr] at hi'
  rw [byKey_eq hi']
  exact key_of_get? hi'

include hg

theorem byKey_byKey {i : Nat} (hi : i < g.size) : g'.byKey g (g.byKey g' i) = i :=
  byKey_spec hg hi (byKey_lt h hi).2.symm

theorem byKey_injective {i j : Nat} (hi : i < g.size) (hj : j < g.size)
    (hij : g.byKey g' i = g.byKey g' j) : i = j := by
  rw [← byKey_byKey hg h hi, ← byKey_byKey hg h hj, hij]

theorem size_le : g.size ≤ g'.size := by
  have hnodup : ((List.range g.size).map (g.byKey g')).Nodup :=
    (List.nodup_range).map_on fun i hi j hj hij =>
      byKey_injective hg h (List.mem_range.mp hi) (List.mem_range.mp hj) hij
  have hsub : (List.range g.size).map (g.byKey g') ⊆ List.range g'.size := fun x hx => by
    obtain ⟨i, hi, rfl⟩ := List.mem_map.mp hx
    exact List.mem_range.mpr (byKey_lt h (List.mem_range.mp hi)).1
  simpa using hnodup.length_le_of_subset hsub

include hg'

omit hg in
theorem methodNode?_byKey {j : Nat} {m : MethodNode} (hm : g.methodNode? j = some m) :
    ∃ m', g'.methodNode? (g.byKey g' j) = some m' ∧ m'.unowned = m.unowned ∧
      m'.owner = g.byKey g' m.owner := by
  obtain ⟨r', hr', halike⟩ := resource?_byKey h (methodNode?_eq_some.mp hm)
  cases r' with
  | method m' =>
    obtain ⟨hu, hk⟩ := halike
    have hm' := methodNode?_eq_some.mpr hr'
    exact ⟨m', hm', hu, (byKey_spec hg' (hg'.method_key _ m' hm').1 hk).symm⟩
  | cls _ => exact absurd halike id
  | field _ => exact absurd halike id

omit hg in
theorem fieldNode?_byKey {j : Nat} {f : FieldNode} (hf : g.fieldNode? j = some f) :
    ∃ f', g'.fieldNode? (g.byKey g' j) = some f' ∧ f'.unowned = f.unowned ∧
      f'.owner = g.byKey g' f.owner := by
  obtain ⟨r', hr', halike⟩ := resource?_byKey h (fieldNode?_eq_some.mp hf)
  cases r' with
  | field f' =>
    obtain ⟨hu, hk⟩ := halike
    have hf' := fieldNode?_eq_some.mpr hr'
    exact ⟨f', hf', hu, (byKey_spec hg' (hg'.field_key _ f' hf').1 hk).symm⟩
  | cls _ => exact absurd halike id
  | method _ => exact absurd halike id

end ByKey

/-! ### Two graphs keyed in each other -/

section Both

variable {g g' : StructuralGraph} (hg : g.WellFormed) (hg' : g'.WellFormed) (h : g.KeyedIn g')
  (h' : g'.KeyedIn g)
include hg hg' h h'

theorem perm_map_byKey {l l' : List Nat} (hl : l.Nodup) (hl' : l'.Nodup) (hlt : ∀ x ∈ l, x < g.size)
    (hto : ∀ x ∈ l, g.byKey g' x ∈ l') (hfrom : ∀ x' ∈ l', g'.byKey g x' ∈ l)
    (hlt' : ∀ x' ∈ l', x' < g'.size) : l'.Perm (l.map (g.byKey g')) := by
  refine (List.perm_ext_iff_of_nodup hl' (hl.map_on fun x hx y hy hxy =>
    byKey_injective hg h (hlt x hx) (hlt y hy) hxy)).mpr fun x' => ?_
  rw [List.mem_map]
  constructor
  · intro hx'
    exact ⟨g'.byKey g x', hfrom x' hx', byKey_byKey hg' h' (hlt' x' hx')⟩
  · rintro ⟨x, hx, rfl⟩
    exact hto x hx

theorem ownedMethods_perm {i : Nat} (hi : i < g.size) :
    (g'.ownedMethods (g.byKey g' i)).Perm ((g.ownedMethods i).map (g.byKey g')) := by
  refine perm_map_byKey hg hg' h h' (nodup_ownedMethods g i) (nodup_ownedMethods g' _)
    (fun x hx => ?_) (fun x hx => ?_) (fun x' hx' => ?_) fun x' hx' => ?_
  · obtain ⟨m, hm, -⟩ := mem_ownedMethods.mp hx
    exact lt_size_of_resource? (methodNode?_eq_some.mp hm)
  · obtain ⟨m, hm, rfl⟩ := mem_ownedMethods.mp hx
    obtain ⟨m', hm', -, ho⟩ := methodNode?_byKey hg' h hm
    exact mem_ownedMethods.mpr ⟨m', hm', ho⟩
  · obtain ⟨m', hm', ho'⟩ := mem_ownedMethods.mp hx'
    obtain ⟨m, hm, -, ho⟩ := methodNode?_byKey hg h' hm'
    exact mem_ownedMethods.mpr ⟨m, hm, by rw [ho, ho', byKey_byKey hg h hi]⟩
  · obtain ⟨m', hm', -⟩ := mem_ownedMethods.mp hx'
    exact lt_size_of_resource? (methodNode?_eq_some.mp hm')

theorem ownedFields_perm {i : Nat} (hi : i < g.size) :
    (g'.ownedFields (g.byKey g' i)).Perm ((g.ownedFields i).map (g.byKey g')) := by
  refine perm_map_byKey hg hg' h h' (nodup_ownedFields g i) (nodup_ownedFields g' _)
    (fun x hx => ?_) (fun x hx => ?_) (fun x' hx' => ?_) fun x' hx' => ?_
  · obtain ⟨f, hf, -⟩ := mem_ownedFields.mp hx
    exact lt_size_of_resource? (fieldNode?_eq_some.mp hf)
  · obtain ⟨f, hf, rfl⟩ := mem_ownedFields.mp hx
    obtain ⟨f', hf', -, ho⟩ := fieldNode?_byKey hg' h hf
    exact mem_ownedFields.mpr ⟨f', hf', ho⟩
  · obtain ⟨f', hf', ho'⟩ := mem_ownedFields.mp hx'
    obtain ⟨f, hf, -, ho⟩ := fieldNode?_byKey hg h' hf'
    exact mem_ownedFields.mpr ⟨f, hf, by rw [ho, ho', byKey_byKey hg h hi]⟩
  · obtain ⟨f', hf', -⟩ := mem_ownedFields.mp hx'
    exact lt_size_of_resource? (fieldNode?_eq_some.mp hf')

theorem renumbered_byKey {i : Nat} {r : Resource} (hr : g.resource? i = some r) :
    ∃ r', g'.resource? (g.byKey g' i) = some r' ∧ r.Renumbered (g.byKey g') r' := by
  have hi := lt_size_of_resource? hr
  cases r with
  | cls c =>
    have hc := classNode?_eq_some.mpr hr
    obtain ⟨c', hc', hkey, hacc, hlev, hsup, hifs⟩ := classNode?_byKey hg' h.classes hc
    refine ⟨.cls c', classNode?_eq_some.mp hc', hkey, hacc, hlev, hsup, hifs, ?_, ?_⟩
    · rw [(hg.classShape i c hc).methods_eq, (hg'.classShape _ c' hc').methods_eq]
      exact ownedMethods_perm hg hg' h h' hi
    · rw [(hg.classShape i c hc).fields_eq, (hg'.classShape _ c' hc').fields_eq]
      exact ownedFields_perm hg hg' h h' hi
  | method m =>
    obtain ⟨m', hm', hu, ho⟩ := methodNode?_byKey hg' h (methodNode?_eq_some.mpr hr)
    exact ⟨.method m', methodNode?_eq_some.mp hm', hu, ho⟩
  | field f =>
    obtain ⟨f', hf', hu, ho⟩ := fieldNode?_byKey hg' h (fieldNode?_eq_some.mpr hr)
    exact ⟨.field f', fieldNode?_eq_some.mp hf', hu, ho⟩

theorem renumbering_byKey
    (hweight : ∀ a < g.size, ∀ t < g.size, g'.weight (g.byKey g' a) (g.byKey g' t) = g.weight a t)
    (husage : ∀ a < g.size, ∀ t < g.size, g'.usage? (g.byKey g' a) (g.byKey g' t) = g.usage? a t) :
    g.Renumbering (g.byKey g') g' := by
  have hsize : g'.size = g.size := le_antisymm (size_le hg' h') (size_le hg h)
  exact ⟨hsize, fun i hi => hsize ▸ (byKey_lt h hi).1,
    fun i hi j hj => byKey_injective hg h hi hj,
    fun i r hr => renumbered_byKey hg hg' h h' hr, hweight, husage⟩

end Both

/-! ### The nodes alone -/

/-- The nodes of a graph without its edges. -/
def nodesOnly (g : StructuralGraph) : StructuralGraph := { g with links := #[] }

theorem WellFormed.nodesOnly {g : StructuralGraph} (hg : g.WellFormed) : g.nodesOnly.WellFormed where
  key_inj := hg.key_inj
  method_key := hg.method_key
  field_key := hg.field_key
  classShape i c hc :=
    let hs := hg.classShape i c hc
    ⟨hs.methods_eq, hs.fields_eq, hs.superClass_lt, hs.interfaces_lt, hs.interfaces_nodup⟩
  link_valid l hl := absurd hl (by simp [StructuralGraph.nodesOnly])
  links_nodup := by simp [StructuralGraph.nodesOnly]

theorem renumbering_nodesOnly {g g' : StructuralGraph} (hg : g.WellFormed) (hg' : g'.WellFormed)
    (h : g.KeyedIn g') (h' : g'.KeyedIn g) : g.nodesOnly.Renumbering (g.byKey g') g'.nodesOnly :=
  renumbering_byKey hg.nodesOnly hg'.nodesOnly h h' (fun _ _ _ _ => by simp [weight, edge?, nodesOnly])
    fun _ _ _ _ => by simp [usage?, edge?, nodesOnly]

end StructuralGraph

end ClassMetrics
