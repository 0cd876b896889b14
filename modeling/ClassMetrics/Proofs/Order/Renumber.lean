import ClassMetrics.Proofs.Graph.Overrides
import ClassMetrics.Proofs.Graph.Weights
import ClassMetrics.Graph.Cohesion
import Mathlib.Data.Fintype.Card
import Mathlib.Data.Fintype.Fin

/-!
Graphs alike up to the numbering of their nodes. Loading the members of a class in another order
numbers the nodes otherwise, and lists the members of each class and the edges of the graph in
another order, but leaves the rest as it was. A renumbering `σ` of one graph as another maps its
nodes one to one onto the other's, each to a node with the renumbered resource, and each edge to
an edge of the same usage and weight. What the measures read of a graph is carried along it:
lookups by key, the kind, owner, members and supertypes of a node, and the edges that leave it,
in some order. Linking and indexing the hierarchy keep a renumbering.
-/

namespace ClassMetrics

/-- A method without its owner and the implementations linked to it. -/
def MethodNode.unowned (m : MethodNode) : MethodNode := { m with owner := 0, implementations := [] }

/-- A field without its owner and its descriptor, which no measure reads. -/
def FieldNode.unowned (f : FieldNode) : FieldNode := { f with owner := 0, descriptor := "" }

/-- A class read in a graph whose nodes are renumbered by `σ`: the same key, access and level,
its supertypes renumbered, and its members renumbered in some order. -/
structure ClassNode.Renumbered (σ : Nat → Nat) (c c' : ClassNode) : Prop where
  key : c'.key = c.key
  access : c'.access = c.access
  level : c'.level = c.level
  superClass : c'.superClass = c.superClass.map σ
  interfaces : c'.interfaces = c.interfaces.map σ
  methods : c'.methods.Perm (c.methods.map σ)
  fields : c'.fields.Perm (c.fields.map σ)

/-- A resource read in a graph whose nodes are renumbered by `σ`: of the same kind, a class
renumbered, and a member alike but for its renumbered owner. -/
def Resource.Renumbered (σ : Nat → Nat) : Resource → Resource → Prop
  | .cls c, .cls c' => c.Renumbered σ c'
  | .method m, .method m' => m'.unowned = m.unowned ∧ m'.owner = σ m.owner
  | .field f, .field f' => f'.unowned = f.unowned ∧ f'.owner = σ f.owner
  | _, _ => False

/-- An edge between the renumbered nodes. -/
def Link.renumber (σ : Nat → Nat) (l : Link) : Link :=
  { l with source := σ l.source, target := σ l.target }

namespace Resource

variable {σ : Nat → Nat} {r r' : Resource}

theorem Renumbered.key_eq (h : r.Renumbered σ r') : r'.key = r.key := by
  cases r <;> cases r' <;> simp only [Renumbered] at h
  · exact h.key
  · have hk := congrArg MethodNode.key h.1
    exact hk
  · have hk := congrArg FieldNode.key h.1
    exact hk

theorem Renumbered.owner_eq (h : r.Renumbered σ r') (i : Nat) : r'.owner (σ i) = σ (r.owner i) := by
  cases r <;> cases r' <;> simp only [Renumbered] at h <;> simp [Resource.owner, h.2]

theorem Renumbered.isStaticMember_eq (h : r.Renumbered σ r') : r'.isStaticMember = r.isStaticMember := by
  cases r <;> cases r' <;> simp only [Renumbered] at h <;> simp only [isStaticMember]
  · have hs := congrArg MethodNode.isStatic h.1
    exact hs
  · have hs := congrArg FieldNode.isStatic h.1
    exact hs

theorem Renumbered.isDeclared_eq (h : r.Renumbered σ r') : r'.isDeclared = r.isDeclared := by
  cases r <;> cases r' <;> simp only [Renumbered] at h <;> simp only [isDeclared]
  · have hd := congrArg MethodNode.declared h.1
    exact hd
  · have hd := congrArg FieldNode.declared h.1
    exact hd

end Resource

namespace StructuralGraph

/-- `σ` renumbers the nodes of `g` as those of `g'`: one to one onto them, each node to a node
with the renumbered resource, and each edge to an edge of the same usage and weight. -/
structure Renumbering (σ : Nat → Nat) (g g' : StructuralGraph) : Prop where
  size_eq : g'.size = g.size
  lt_size : ∀ i < g.size, σ i < g.size
  injective : ∀ i < g.size, ∀ j < g.size, σ i = σ j → i = j
  resource : ∀ i r, g.resource? i = some r →
    ∃ r', g'.resource? (σ i) = some r' ∧ r.Renumbered σ r'
  weight : ∀ a < g.size, ∀ t < g.size, g'.weight (σ a) (σ t) = g.weight a t
  usage : ∀ a < g.size, ∀ t < g.size, g'.usage? (σ a) (σ t) = g.usage? a t

/-- `σ` carries the indexed subclasses of `g` to those of `g'`, in some order. -/
def SubclassesRenumbered (σ : Nat → Nat) (g g' : StructuralGraph) : Prop :=
  ∀ c < g.size, (g'.subclasses (σ c)).Perm ((g.subclasses c).map σ)

namespace Renumbering

variable {σ : Nat → Nat} {g g' : StructuralGraph}

theorem surjective (h : g.Renumbering σ g') : ∀ j < g.size, ∃ i < g.size, σ i = j := by
  let f : Fin g.size → Fin g.size := fun i => ⟨σ i, h.lt_size i i.2⟩
  have hf : Function.Injective f := fun i j hij =>
    Fin.ext (h.injective i i.2 j j.2 (congrArg Fin.val hij))
  intro j hj
  obtain ⟨i, hi⟩ := (Finite.injective_iff_surjective.mp hf) ⟨j, hj⟩
  exact ⟨i, i.2, congrArg Fin.val hi⟩

theorem key_eq (h : g.Renumbering σ g') {i : Nat} (hi : i < g.size) : g'.key (σ i) = g.key i := by
  obtain ⟨r, hr⟩ := Option.isSome_iff_exists.mp (resource?_isSome_iff.mpr hi)
  obtain ⟨r', hr', hrr⟩ := h.resource i r hr
  rw [key_of_resource? hr, key_of_resource? hr', hrr.key_eq]

theorem contains_map (h : g.Renumbering σ g') {l : List Nat} (hl : ∀ x ∈ l, x < g.size)
    {x : Nat} (hx : x < g.size) : (l.map σ).contains (σ x) = l.contains x := by
  rw [Bool.eq_iff_iff, List.contains_iff_mem, List.contains_iff_mem, List.mem_map]
  constructor
  · rintro ⟨y, hy, hyx⟩
    rwa [h.injective y (hl y hy) x hx hyx] at hy
  · exact fun hmem => ⟨x, hmem, rfl⟩

theorem get?_eq (h : g.Renumbering σ g') (hg' : g'.WellFormed) (k : String) :
    g'.get? k = (g.get? k).map σ := by
  cases hk : g.get? k with
  | some i =>
    obtain ⟨hi, hki⟩ := key_of_get? hk
    exact (hg'.get?_eq_some_iff).mpr ⟨h.size_eq ▸ h.lt_size i hi, (h.key_eq hi).trans hki⟩
  | none =>
    refine get?_eq_none_iff.mpr fun j hj hkj => ?_
    obtain ⟨i, hi, rfl⟩ := h.surjective j (h.size_eq ▸ hj)
    exact get?_eq_none_iff.mp hk i hi ((h.key_eq hi).symm.trans hkj)

theorem classNode? (h : g.Renumbering σ g') {i : Nat} {c : ClassNode} (hc : g.classNode? i = some c) :
    ∃ c', g'.classNode? (σ i) = some c' ∧ c.Renumbered σ c' := by
  obtain ⟨r', hr', hrr⟩ := h.resource i _ (classNode?_eq_some.mp hc)
  cases r' with
  | cls c' => exact ⟨c', classNode?_eq_some.mpr hr', hrr⟩
  | method _ => exact absurd hrr id
  | field _ => exact absurd hrr id

theorem methodNode? (h : g.Renumbering σ g') {i : Nat} {m : MethodNode} (hm : g.methodNode? i = some m) :
    ∃ m', g'.methodNode? (σ i) = some m' ∧ m'.unowned = m.unowned ∧ m'.owner = σ m.owner := by
  obtain ⟨r', hr', hrr⟩ := h.resource i _ (methodNode?_eq_some.mp hm)
  cases r' with
  | cls _ => exact absurd hrr id
  | method m' => exact ⟨m', methodNode?_eq_some.mpr hr', hrr⟩
  | field _ => exact absurd hrr id

theorem fieldNode? (h : g.Renumbering σ g') {i : Nat} {f : FieldNode} (hf : g.fieldNode? i = some f) :
    ∃ f', g'.fieldNode? (σ i) = some f' ∧ f'.unowned = f.unowned ∧ f'.owner = σ f.owner := by
  obtain ⟨r', hr', hrr⟩ := h.resource i _ (fieldNode?_eq_some.mp hf)
  cases r' with
  | cls _ => exact absurd hrr id
  | method _ => exact absurd hrr id
  | field f' => exact ⟨f', fieldNode?_eq_some.mpr hr', hrr⟩

theorem classNode?_eq_none (h : g.Renumbering σ g') {i : Nat} (hi : i < g.size)
    (hc : g.classNode? i = none) : g'.classNode? (σ i) = none := by
  obtain ⟨r, hr⟩ := Option.isSome_iff_exists.mp (resource?_isSome_iff.mpr hi)
  obtain ⟨r', hr', hrr⟩ := h.resource i r hr
  unfold StructuralGraph.classNode? at hc ⊢
  rw [hr] at hc
  rw [hr']
  cases r <;> cases r' <;> simp_all [Resource.Renumbered]

theorem methodNode?_eq_none (h : g.Renumbering σ g') {i : Nat} (hi : i < g.size)
    (hm : g.methodNode? i = none) : g'.methodNode? (σ i) = none := by
  obtain ⟨r, hr⟩ := Option.isSome_iff_exists.mp (resource?_isSome_iff.mpr hi)
  obtain ⟨r', hr', hrr⟩ := h.resource i r hr
  unfold StructuralGraph.methodNode? at hm ⊢
  rw [hr] at hm
  rw [hr']
  cases r <;> cases r' <;> simp_all [Resource.Renumbered]

theorem fieldNode?_eq_none (h : g.Renumbering σ g') {i : Nat} (hi : i < g.size)
    (hf : g.fieldNode? i = none) : g'.fieldNode? (σ i) = none := by
  obtain ⟨r, hr⟩ := Option.isSome_iff_exists.mp (resource?_isSome_iff.mpr hi)
  obtain ⟨r', hr', hrr⟩ := h.resource i r hr
  unfold StructuralGraph.fieldNode? at hf ⊢
  rw [hr] at hf
  rw [hr']
  cases r <;> cases r' <;> simp_all [Resource.Renumbered]

theorem methodNode?_any (h : g.Renumbering σ g') {i : Nat} (hi : i < g.size) {p : MethodNode → Bool}
    (hp : ∀ m, p m = p m.unowned) : (g'.methodNode? (σ i)).any p = (g.methodNode? i).any p := by
  cases hm : g.methodNode? i with
  | none => rw [h.methodNode?_eq_none hi hm]
  | some m =>
    obtain ⟨m', hm', hu, -⟩ := h.methodNode? hm
    rw [hm', Option.any_some, Option.any_some, hp m', hp m, hu]

theorem fieldNode?_any (h : g.Renumbering σ g') {i : Nat} (hi : i < g.size) {p : FieldNode → Bool}
    (hp : ∀ f, p f = p f.unowned) : (g'.fieldNode? (σ i)).any p = (g.fieldNode? i).any p := by
  cases hf : g.fieldNode? i with
  | none => rw [h.fieldNode?_eq_none hi hf]
  | some f =>
    obtain ⟨f', hf', hu, -⟩ := h.fieldNode? hf
    rw [hf', Option.any_some, Option.any_some, hp f', hp f, hu]

theorem resource?_any (h : g.Renumbering σ g') {i : Nat} (hi : i < g.size) {p : Resource → Bool}
    (hp : ∀ r r', r.Renumbered σ r' → p r' = p r) :
    (g'.resource? (σ i)).any p = (g.resource? i).any p := by
  obtain ⟨r, hr⟩ := Option.isSome_iff_exists.mp (resource?_isSome_iff.mpr hi)
  obtain ⟨r', hr', hrr⟩ := h.resource i r hr
  rw [hr, hr', Option.any_some, Option.any_some, hp r r' hrr]

theorem methodNode?_inv (h : g.Renumbering σ g') {i : Nat} (hi : i < g.size) {m' : MethodNode}
    (hm' : g'.methodNode? (σ i) = some m') :
    ∃ m, g.methodNode? i = some m ∧ m'.unowned = m.unowned ∧ m'.owner = σ m.owner := by
  cases hm : g.methodNode? i with
  | none => rw [h.methodNode?_eq_none hi hm] at hm'; cases hm'
  | some m =>
    obtain ⟨m'', hm'', hu, ho⟩ := h.methodNode? hm
    rw [hm''] at hm'
    cases hm'
    exact ⟨m, rfl, hu, ho⟩

theorem fieldNode?_inv (h : g.Renumbering σ g') {i : Nat} (hi : i < g.size) {f' : FieldNode}
    (hf' : g'.fieldNode? (σ i) = some f') :
    ∃ f, g.fieldNode? i = some f ∧ f'.unowned = f.unowned ∧ f'.owner = σ f.owner := by
  cases hf : g.fieldNode? i with
  | none => rw [h.fieldNode?_eq_none hi hf] at hf'; cases hf'
  | some f =>
    obtain ⟨f'', hf'', hu, ho⟩ := h.fieldNode? hf
    rw [hf''] at hf'
    cases hf'
    exact ⟨f, rfl, hu, ho⟩

theorem isSome_methodNode? (h : g.Renumbering σ g') {i : Nat} (hi : i < g.size) :
    (g'.methodNode? (σ i)).isSome = (g.methodNode? i).isSome := by
  simpa [Option.any_true] using h.methodNode?_any hi (p := fun _ => true) fun _ => rfl

theorem ownerClass_eq (h : g.Renumbering σ g') {i : Nat} (hi : i < g.size) :
    g'.ownerClass (σ i) = σ (g.ownerClass i) := by
  obtain ⟨r, hr⟩ := Option.isSome_iff_exists.mp (resource?_isSome_iff.mpr hi)
  obtain ⟨r', hr', hrr⟩ := h.resource i r hr
  rw [ownerClass_of_resource? hr, ownerClass_of_resource? hr', hrr.owner_eq]

/-! ### Edges -/

/-- A renumbered edge joins the renumbered ends, with the usage and weight it had. -/
theorem edge?_eq (h : g.Renumbering σ g') {a t : Nat} (ha : a < g.size) (ht : t < g.size) :
    g'.edge? (σ a) (σ t) = (g.edge? a t).map (Link.renumber σ) := by
  have hw := h.weight a ha t ht
  have hu := h.usage a ha t ht
  unfold StructuralGraph.weight at hw
  unfold StructuralGraph.usage? at hu
  -- the usages agree, so either both edges are there or neither is
  cases he : g.edge? a t with
  | none =>
    rw [he] at hu
    cases he' : g'.edge? (σ a) (σ t) with
    | none => rfl
    | some l' => rw [he'] at hu; cases hu
  | some l =>
    rw [he] at hw hu
    cases he' : g'.edge? (σ a) (σ t) with
    | none => rw [he'] at hu; cases hu
    | some l' =>
      rw [he'] at hw hu
      obtain ⟨-, hs', ht'⟩ := mem_of_edge?_eq_some he'
      obtain ⟨-, hs, ht⟩ := mem_of_edge?_eq_some he
      simp only [Option.map_some, Option.getD_some, Option.some.injEq] at hw hu
      simp only [Option.map_some, Option.some.injEq, Link.renumber]
      cases l; cases l'
      simp_all

/-- The edges leaving a node, with their ends renumbered, are those leaving the renumbered node. -/
theorem edgesFrom_perm (h : g.Renumbering σ g') (hg : g.WellFormed) (hg' : g'.WellFormed) {a : Nat}
    (ha : a < g.size) : (g'.edgesFrom (σ a)).Perm ((g.edgesFrom a).map (Link.renumber σ)) := by
  have hnodup : ∀ {g : StructuralGraph}, g.WellFormed → ∀ s, (g.edgesFrom s).Nodup :=
    fun hg s => (hg.links_nodup.of_map _).filter _
  have hmem : ∀ {g : StructuralGraph} {s : Nat} {l : Link}, g.WellFormed →
      (l ∈ g.edgesFrom s ↔ l.source = s ∧ g.edge? s l.target = some l) := by
    intro g s l hg
    unfold edgesFrom
    rw [List.mem_filter, beq_iff_eq]
    constructor
    · rintro ⟨hl, rfl⟩
      exact ⟨rfl, hg.edge?_of_mem hl⟩
    · rintro ⟨rfl, he⟩
      exact ⟨(mem_of_edge?_eq_some he).1, rfl⟩
  refine (List.perm_ext_iff_of_nodup (hnodup hg' _) ((hnodup hg a).map_on ?_)).mpr ?_
  · -- two edges from `a` renumbered alike have the same target
    intro l hl l' hl' heq
    have ht := (hg.link_valid l (List.mem_filter.mp hl).1).2.1
    have ht' := (hg.link_valid l' (List.mem_filter.mp hl').1).2.1
    have hs := ((hmem hg).mp hl).1
    have hs' := ((hmem hg).mp hl').1
    simp only [Link.renumber, Link.mk.injEq] at heq
    have htt := h.injective _ ht _ ht' heq.2.1
    cases l; cases l'
    simp_all
  · intro l'
    rw [List.mem_map]
    constructor
    · intro hl'
      obtain ⟨hs', he'⟩ := (hmem hg').mp hl'
      have ht' : l'.target < g.size :=
        h.size_eq ▸ (hg'.link_valid l' (mem_of_edge?_eq_some he').1).2.1
      obtain ⟨t, ht, hσt⟩ := h.surjective _ ht'
      rw [← hσt, h.edge?_eq ha ht] at he'
      obtain ⟨l, hl, rfl⟩ := Option.map_eq_some_iff.mp he'
      obtain ⟨-, -, hlt⟩ := mem_of_edge?_eq_some hl
      exact ⟨l, (hmem hg).mpr ⟨(mem_of_edge?_eq_some hl).2.1, hlt ▸ hl⟩, rfl⟩
    · rintro ⟨l, hl, rfl⟩
      obtain ⟨hs, he⟩ := (hmem hg).mp hl
      have ht := (hg.link_valid l (mem_of_edge?_eq_some he).1).2.1
      refine (hmem hg').mpr ⟨by rw [Link.renumber, hs], ?_⟩
      rw [show (Link.renumber σ l).target = σ l.target from rfl, ← hs,
        h.edge?_eq (hs ▸ ha) ht, hs, he]
      rfl

/-! ### Indexing and linking -/

theorem indexHierarchy (h : g.Renumbering σ g') : g.indexHierarchy.Renumbering σ g'.indexHierarchy :=
  ⟨h.size_eq, h.lt_size, h.injective, h.resource, h.weight, h.usage⟩

/-- The direct subtypes of a renumbered node are the renumbered direct subtypes. -/
theorem directSubtype_iff (h : g.Renumbering σ g') (hg : g.WellFormed) {p s : Nat} (hp : p < g.size)
    (hs : s < g.size) : g'.DirectSubtype (σ p) (σ s) ↔ g.DirectSubtype p s := by
  unfold DirectSubtype isDirectSupertype
  cases hc : g.classNode? s with
  | none => rw [h.classNode?_eq_none hs hc]
  | some c =>
    obtain ⟨c', hc', hr⟩ := h.classNode? hc
    have hshape := hg.classShape s c hc
    rw [hc']
    dsimp only
    rw [hr.superClass, hr.interfaces, h.contains_map (fun x hx => (hshape.interfaces_lt x hx).1) hp]
    -- the superclass is a node, so it is the parent exactly when its renumbering is
    have hsup : (c.superClass.map σ == some (σ p)) = (c.superClass == some p) := by
      cases hsc : c.superClass with
      | none => rfl
      | some q =>
        have hq := (hshape.superClass_lt q hsc).1
        by_cases hqp : q = p
        · subst hqp
          simp
        · have hσ : σ q ≠ σ p := fun he => hqp (h.injective q hq p hp he)
          simp [hqp, hσ]
    rw [hsup]

/-- Indexing carries the subclasses of each class along a renumbering. -/
theorem subclassesRenumbered (h : g.Renumbering σ g') (hg : g.WellFormed) :
    SubclassesRenumbered σ g.indexHierarchy g'.indexHierarchy := by
  intro c hc
  have hc : c < g.size := hc
  rw [subclasses_indexHierarchy, subclasses_indexHierarchy]
  have hnodup : ∀ (g : StructuralGraph) p, (g.directSubclasses p).Nodup := fun g p =>
    (List.nodup_range.filter _).filter _
  refine (List.perm_ext_iff_of_nodup (hnodup g' _) ((hnodup g c).map_on ?_)).mpr ?_
  · exact fun x hx y hy => h.injective x (mem_directSubclasses.mp hx).lt_size y
      (mem_directSubclasses.mp hy).lt_size
  · intro s'
    rw [mem_directSubclasses, List.mem_map]
    constructor
    · intro hs'
      obtain ⟨s, hs, rfl⟩ := h.surjective s' (h.size_eq ▸ hs'.lt_size)
      exact ⟨s, mem_directSubclasses.mpr ((h.directSubtype_iff hg hc hs).mp hs'), rfl⟩
    · rintro ⟨s, hs, rfl⟩
      have hsd := mem_directSubclasses.mp hs
      exact (h.directSubtype_iff hg hc hsd.lt_size).mpr hsd

end Renumbering

theorem links_link (g : StructuralGraph) : g.link.1.links = g.links := by
  unfold link
  dsimp only
  generalize g.overrideLinks = ps
  induction ps generalizing g with
  | nil => rfl
  | cons p ps ih => exact (ih _).trans (links_modifyMethod)

theorem fieldNode?_link (g : StructuralGraph) (i : Nat) : g.link.1.fieldNode? i = g.fieldNode? i := by
  unfold link
  dsimp only
  generalize g.overrideLinks = ps
  induction ps generalizing g with
  | nil => rfl
  | cons p ps ih => exact (ih _).trans fieldNode?_modifyMethod

/-- Linking changes a node only in the implementations of a method. -/
theorem resource?_link (g : StructuralGraph) (i : Nat) :
    (g.link.1.resource? i = none ∧ g.resource? i = none) ∨
      (∃ c, g.link.1.resource? i = some (.cls c) ∧ g.resource? i = some (.cls c)) ∨
      (∃ m m', g.link.1.resource? i = some (.method m') ∧ g.resource? i = some (.method m) ∧
        unlinked m' = unlinked m) ∨
      (∃ f, g.link.1.resource? i = some (.field f) ∧ g.resource? i = some (.field f)) := by
  have hs := sameLinking_link g
  cases hr : g.resource? i with
  | none =>
    have hi : ¬ i < g.size := fun hi => by
      have := resource?_isSome_iff.mpr hi
      rw [hr] at this
      cases this
    have hi' : ¬ i < g.link.1.size := by rw [hs.size_eq]; exact hi
    refine Or.inl ⟨?_, rfl⟩
    cases hr' : g.link.1.resource? i with
    | none => rfl
    | some _ => exact absurd (lt_size_of_resource? hr') hi'
  | some r =>
    cases r with
    | cls c =>
      have := hs.classNode_eq i
      rw [classNode?_eq_some.mpr hr, classNode?_eq_some] at this
      exact Or.inr (Or.inl ⟨c, this, rfl⟩)
    | method m =>
      have := hs.methodNode_eq i
      rw [methodNode?_eq_some.mpr hr] at this
      obtain ⟨m', hm', hu⟩ := Option.map_eq_some_iff.mp this
      exact Or.inr (Or.inr (Or.inl ⟨m, m', methodNode?_eq_some.mp hm', rfl, hu⟩))
    | field f =>
      have := fieldNode?_link g i
      rw [fieldNode?_eq_some.mpr hr, fieldNode?_eq_some] at this
      exact Or.inr (Or.inr (Or.inr ⟨f, this, rfl⟩))

namespace Renumbering

variable {σ : Nat → Nat} {g g' : StructuralGraph}

/-- Linking both graphs keeps a renumbering: a renumbering reads no implementations. -/
theorem link (h : g.Renumbering σ g') : g.link.1.Renumbering σ g'.link.1 := by
  have hs := sameLinking_link g
  have hs' := sameLinking_link g'
  have hunowned : ∀ m : MethodNode, (unlinked m).unowned = m.unowned := fun _ => rfl
  refine ⟨by rw [hs.size_eq, hs'.size_eq, h.size_eq], hs.size_eq ▸ h.lt_size,
    hs.size_eq ▸ h.injective, fun i r hr => ?_, ?_, ?_⟩
  · rcases resource?_link g i with ⟨hr₁, -⟩ | ⟨c, hr₁, hr₀⟩ | ⟨m, m₁, hr₁, hr₀, hu⟩ | ⟨f, hr₁, hr₀⟩
    · rw [hr₁] at hr; cases hr
    all_goals rw [hr₁] at hr; cases hr
    · obtain ⟨r', hr', hrr⟩ := h.resource i _ hr₀
      cases r' with
      | cls c' =>
        have := hs'.classNode_eq (σ i)
        rw [classNode?_eq_some.mpr hr', classNode?_eq_some] at this
        exact ⟨_, this, hrr⟩
      | method _ => exact absurd hrr id
      | field _ => exact absurd hrr id
    · obtain ⟨r', hr', hrr⟩ := h.resource i _ hr₀
      cases r' with
      | cls _ => exact absurd hrr id
      | method m' =>
        have := hs'.methodNode_eq (σ i)
        rw [methodNode?_eq_some.mpr hr'] at this
        obtain ⟨m'', hm'', hu'⟩ := Option.map_eq_some_iff.mp this
        refine ⟨_, methodNode?_eq_some.mp hm'', ?_, ?_⟩
        · rw [← hunowned m'', hu', hunowned, hrr.1, ← hunowned m, ← hunowned m₁, hu]
        · have ho := congrArg MethodNode.owner hu'
          have ho₁ := congrArg MethodNode.owner hu
          simp only [unlinked] at ho ho₁
          rw [ho, hrr.2, ho₁]
      | field _ => exact absurd hrr id
    · obtain ⟨r', hr', hrr⟩ := h.resource i _ hr₀
      cases r' with
      | cls _ => exact absurd hrr id
      | method _ => exact absurd hrr id
      | field f' =>
        have := fieldNode?_link g' (σ i)
        rw [fieldNode?_eq_some.mpr hr', fieldNode?_eq_some] at this
        exact ⟨_, this, hrr⟩
  · intro a ha t ht
    simp only [StructuralGraph.weight, edge?, links_link]
    exact h.weight a (hs.size_eq ▸ ha) t (hs.size_eq ▸ ht)
  · intro a ha t ht
    simp only [StructuralGraph.usage?, edge?, links_link]
    exact h.usage a (hs.size_eq ▸ ha) t (hs.size_eq ▸ ht)

end Renumbering

theorem SubclassesRenumbered.link {σ : Nat → Nat} {g g' : StructuralGraph}
    (h : SubclassesRenumbered σ g g') : SubclassesRenumbered σ g.link.1 g'.link.1 := by
  intro c hc
  have hsub : ∀ g : StructuralGraph, g.link.1.subclasses = g.subclasses := fun g => by
    funext p
    unfold subclasses
    rw [(sameLinking_link g).index_eq]
  rw [hsub, hsub]
  exact h c ((sameLinking_link g).size_eq ▸ hc)

end StructuralGraph

end ClassMetrics
