import ClassMetrics.Proofs.Order.Renumber
import ClassMetrics.Proofs.Graph.Cohesion

/-!
The measures of a class read alike in a renumbered graph. A measure reads the node of the class,
its members, the edges that leave them and the nodes these lead to, but never a node's number.
The declared members and the response set are renumbered in some order and counted; the depth
climbs the renumbered superclasses; an accessor is found among the renumbered fields of its
class, of which at most one has a given name; and the cohesion blocks are the sorted keys of the
components of the renumbered cohesion graph, which render in one way only.
-/

namespace ClassMetrics

/-! ### Lists renumbered in some order -/

section Lists

variable {σ : Nat → Nat} {l l' : List Nat}

theorem filter_perm_map (h : l'.Perm (l.map σ)) {p p' : Nat → Bool}
    (hp : ∀ x ∈ l, p' (σ x) = p x) : (l'.filter p').Perm ((l.filter p).map σ) := by
  refine (h.filter p').trans ?_
  rw [List.filter_map]
  exact List.Perm.of_eq (congrArg (List.map σ) (List.filter_congr fun x hx => hp x hx))

theorem find?_perm_map (h : l'.Perm (l.map σ)) {p p' : Nat → Bool} (hp : ∀ x ∈ l, p' (σ x) = p x)
    (huniq : ∀ x ∈ l, ∀ y ∈ l, p x = true → p y = true → x = y) :
    l'.find? p' = (l.find? p).map σ := by
  cases hf : l.find? p with
  | none =>
    refine List.find?_eq_none.mpr fun y hy hpy => ?_
    obtain ⟨x, hx, rfl⟩ := List.mem_map.mp (h.mem_iff.mp hy)
    exact List.find?_eq_none.mp hf x hx (hp x hx ▸ hpy)
  | some x =>
    have hx := List.mem_of_find?_eq_some hf
    have hpx := List.find?_some hf
    obtain ⟨y, hy⟩ := Option.isSome_iff_exists.mp (List.find?_isSome.mpr
      ⟨σ x, h.mem_iff.mpr (List.mem_map_of_mem hx), (hp x hx).trans hpx⟩)
    rw [hy]
    obtain ⟨z, hz, rfl⟩ := List.mem_map.mp (h.mem_iff.mp (List.mem_of_find?_eq_some hy))
    rw [huniq z hz x hx ((hp z hz).symm.trans (List.find?_some hy)) hpx]
    rfl

theorem keepFirst_perm_map (h : l'.Perm (l.map σ)) (hσ : ∀ x ∈ l, ∀ y ∈ l, σ x = σ y → x = y) :
    (l'.foldl (fun acc m => if acc.contains m then acc else acc ++ [m]) []).Perm
      ((l.foldl (fun acc m => if acc.contains m then acc else acc ++ [m]) []).map σ) := by
  have hmem : ∀ k : List Nat, ∀ x,
      x ∈ k.foldl (fun acc m => if acc.contains m then acc else acc ++ [m]) [] ↔ x ∈ k :=
    fun k x => by simpa using (foldl_keepFirst k []).1 x
  refine (List.perm_ext_iff_of_nodup ((foldl_keepFirst l' []).2 List.nodup_nil)
    (((foldl_keepFirst l []).2 List.nodup_nil).map_on fun x hx y hy =>
      hσ x ((hmem l x).mp hx) y ((hmem l y).mp hy))).mpr fun x => ?_
  rw [hmem, h.mem_iff, List.mem_map, List.mem_map]
  exact exists_congr fun y => and_congr_left fun _ => (hmem l y).symm

end Lists

namespace StructuralGraph

theorem WellFormed.target_lt_of_mem_edgesFrom {g : StructuralGraph} (hg : g.WellFormed) {a : Nat}
    {e : Link} (he : e ∈ g.edgesFrom a) : e.target < g.size :=
  (hg.link_valid e (List.mem_filter.mp he).1).2.1

theorem WellFormed.filter_owned_declaredMethods {g : StructuralGraph} (hg : g.WellFormed) {i : Nat}
    {c : ClassNode} (hc : g.classNode? i = some c) :
    (g.declaredMethods c).filter (fun m => (g.methodNode? m).any (·.owner == i)) = g.declaredMethods c :=
  List.filter_eq_self.mpr fun m hm => by
    obtain ⟨x, hx, ho⟩ := hg.mem_methods hc (List.mem_filter.mp hm).1
    simp [hx, ho]

theorem isSome_fieldNode?_of_accessedField {g : StructuralGraph} {i f : Nat}
    (h : g.accessedField i = some f) : (g.fieldNode? f).isSome := by
  unfold accessedField at h
  simp only [Option.bind_eq_bind, Option.bind_eq_some_iff] at h
  obtain ⟨m, -, h⟩ := h
  split at h
  · simp at h
  obtain ⟨t, -, h⟩ := Option.bind_eq_some_iff.mp h
  obtain ⟨target, -, h⟩ := Option.bind_eq_some_iff.mp h
  obtain ⟨owner, -, h⟩ := Option.bind_eq_some_iff.mp h
  split at h
  · simp at h
  -- the field found passes a test of its node
  have hf := List.find?_some h
  cases hfn : g.fieldNode? f with
  | none => rw [hfn] at hf; cases hf
  | some _ => rfl

theorem accessedField_getD_lt {g : StructuralGraph} {t : Nat} (ht : t < g.size) :
    (g.accessedField t).getD t < g.size := by
  cases hf : g.accessedField t with
  | none => exact ht
  | some f =>
    obtain ⟨x, hx⟩ := Option.isSome_iff_exists.mp (isSome_fieldNode?_of_accessedField hf)
    exact lt_size_of_resource? (fieldNode?_eq_some.mp hx)

theorem lt_size_of_linkTarget {g : StructuralGraph} {c : EngineConfig} {cls t u : Nat}
    (ht : t < g.size) (hl : g.LinkTarget c cls t u) : u < g.size := by
  rw [hl.2.1]
  split
  · exact accessedField_getD_lt ht
  · exact ht

theorem WellFormed.lt_size_of_cohesionNode {g : StructuralGraph} (hg : g.WellFormed)
    {c : EngineConfig} {cls x : Nat} {node : ClassNode} (hc : g.classNode? cls = some node)
    (hx : g.CohesionNode c cls node x) : x < g.size := by
  rcases hx with ⟨hx, -⟩ | ⟨m, -, -, e, he, hl⟩
  · obtain ⟨mn, hmn, -⟩ := hg.mem_methods hc hx
    exact lt_size_of_resource? (methodNode?_eq_some.mp hmn)
  · exact lt_size_of_linkTarget (hg.target_lt_of_mem_edgesFrom he) hl

namespace Renumbering

variable {σ : Nat → Nat} {g g' : StructuralGraph}

/-! ### Declared members -/

theorem methods_lt (hg : g.WellFormed) {i : Nat} {c : ClassNode} (hc : g.classNode? i = some c) :
    ∀ m ∈ c.methods, m < g.size := fun _ hm => by
  obtain ⟨x, hx, -⟩ := hg.mem_methods hc hm
  exact lt_size_of_resource? (methodNode?_eq_some.mp hx)

theorem fields_lt (hg : g.WellFormed) {i : Nat} {c : ClassNode} (hc : g.classNode? i = some c) :
    ∀ f ∈ c.fields, f < g.size := fun _ hf => by
  obtain ⟨x, hx, -⟩ := hg.mem_fields hc hf
  exact lt_size_of_resource? (fieldNode?_eq_some.mp hx)

theorem declaredMethods_perm (h : g.Renumbering σ g') (hg : g.WellFormed) {i : Nat}
    {c c' : ClassNode} (hc : g.classNode? i = some c) (hr : c.Renumbered σ c') :
    (g'.declaredMethods c').Perm ((g.declaredMethods c).map σ) :=
  filter_perm_map hr.methods fun m hm =>
    h.methodNode?_any (methods_lt hg hc m hm) fun _ => rfl

theorem declaredFields_perm (h : g.Renumbering σ g') (hg : g.WellFormed) {i : Nat}
    {c c' : ClassNode} (hc : g.classNode? i = some c) (hr : c.Renumbered σ c') :
    (g'.declaredFields c').Perm ((g.declaredFields c).map σ) :=
  filter_perm_map hr.fields fun f hf =>
    h.fieldNode?_any (fields_lt hg hc f hf) fun _ => rfl

/-! ### Accessors -/

theorem unique_declaredField (hg : g.WellFormed) {i : Nat} {c : ClassNode}
    (hc : g.classNode? i = some c) (name : String) :
    ∀ x ∈ c.fields, ∀ y ∈ c.fields,
      (g.fieldNode? x).any (fun f => f.declared && !f.isStatic && f.name == name) = true →
      (g.fieldNode? y).any (fun f => f.declared && !f.isStatic && f.name == name) = true → x = y := by
  intro x hx y hy hpx hpy
  obtain ⟨fx, hfx, hox⟩ := hg.mem_fields hc hx
  obtain ⟨fy, hfy, hoy⟩ := hg.mem_fields hc hy
  rw [hfx] at hpx
  rw [hfy] at hpy
  simp only [Option.any_some, Bool.and_eq_true, beq_iff_eq] at hpx hpy
  have hkx := (hg.field_key x fx hfx).2
  have hky := (hg.field_key y fy hfy).2
  refine hg.key_inj x y (lt_size_of_resource? (fieldNode?_eq_some.mp hfx))
    (lt_size_of_resource? (fieldNode?_eq_some.mp hfy)) ?_
  rw [key_of_resource? (fieldNode?_eq_some.mp hfx), key_of_resource? (fieldNode?_eq_some.mp hfy)]
  change fx.key = fy.key
  rw [hkx, hky, hox, hoy, hpx.2, hpy.2]

theorem accessorTarget_congr {m m' : MethodNode} (hu : m'.unowned = m.unowned)
    (t : Descriptor.MethodType) : accessorTarget m' t = accessorTarget m t := by
  have hs := congrArg MethodNode.shape hu
  have hn := congrArg MethodNode.name hu
  unfold accessorTarget
  simp only [MethodNode.unowned] at hs hn
  rw [hs, hn]

/-- The field an accessor reaches is renumbered with it. -/
theorem accessedField_eq (h : g.Renumbering σ g') (hg : g.WellFormed) {i : Nat} (hi : i < g.size) :
    g'.accessedField (σ i) = (g.accessedField i).map σ := by
  unfold accessedField
  cases hm : g.methodNode? i with
  | none => rw [h.methodNode?_eq_none hi hm]; rfl
  | some m =>
    obtain ⟨m', hm', hu, ho⟩ := h.methodNode? hm
    have hn := congrArg MethodNode.name hu
    have hd := congrArg MethodNode.descriptor hu
    simp only [MethodNode.unowned] at hn hd
    have hstat : m'.isStatic = m.isStatic := by
      unfold MethodNode.isStatic
      have ha := congrArg MethodNode.access hu
      simp only [MethodNode.unowned] at ha
      rw [ha]
    simp only [hm', Option.bind_eq_bind, Option.bind_some, MethodNode.isConstructor,
      MethodNode.isStaticInitializer, hstat, hn, hd, accessorTarget_congr hu, ho]
    by_cases hcond : (m.isStatic || m.name == "<init>" || m.name == "<clinit>") = true
    · simp [hcond]
    · simp only [hcond, Bool.false_eq_true, if_false]
      cases (Descriptor.parseMethod m.descriptor).toOption with
      | none => rfl
      | some t =>
        simp only [Option.bind_some]
        cases accessorTarget m t with
        | none => rfl
        | some target =>
          simp only [Option.bind_some]
          have hown := (hg.method_key i m hm).1
          cases hc : g.classNode? m.owner with
          | none => rw [h.classNode?_eq_none hown hc]; rfl
          | some c =>
            obtain ⟨c', hc', hr⟩ := h.classNode? hc
            simp only [hc', Option.bind_some, hr.key]
            by_cases hkey : (target.owner != c.key) = true
            · simp [hkey]
            · simp only [hkey, Bool.false_eq_true, if_false]
              exact find?_perm_map hr.fields
                (fun f hf => h.fieldNode?_any (fields_lt hg hc f hf) fun _ => rfl)
                (unique_declaredField hg hc target.name)

theorem isAccessor_eq (h : g.Renumbering σ g') (hg : g.WellFormed) {i : Nat} (hi : i < g.size) :
    g'.isAccessor (σ i) = g.isAccessor i := by
  unfold isAccessor
  rw [h.accessedField_eq hg hi, Option.isSome_map]

/-! ### Depth of inheritance -/

theorem resolvedParent?_eq (h : g.Renumbering σ g') (hg : g.WellFormed) {c : Nat} (hc : c < g.size) :
    g'.resolvedParent? (σ c) = (g.resolvedParent? c).map σ := by
  unfold resolvedParent?
  cases hn : g.classNode? c with
  | none => rw [h.classNode?_eq_none hc hn]; rfl
  | some node =>
    obtain ⟨node', hn', hr⟩ := h.classNode? hn
    simp only [hn', Option.bind_eq_bind, Option.bind_some, ClassNode.isResolved, hr.level,
      hr.superClass]
    by_cases hl : node.level.isSome = true
    · simp only [hl, Bool.not_true, Bool.false_eq_true, if_false]
      cases hs : node.superClass with
      | none => rfl
      | some p =>
        have hp := ((hg.classShape c node hn).superClass_lt p hs).1
        simp only [Option.map_some, Option.bind_some]
        cases hpn : g.classNode? p with
        | none => rw [h.classNode?_eq_none hp hpn]; rfl
        | some parent =>
          obtain ⟨parent', hpn', hpr⟩ := h.classNode? hpn
          simp only [hpn', Option.bind_some, hpr.level]
          by_cases hpl : parent.level.isSome = true <;> simp [hpl]
    · simp [hl]

theorem resolvedParent?_lt {c p : Nat} (h : g.resolvedParent? c = some p) :
    p < g.size := by
  unfold resolvedParent? at h
  simp only [Option.bind_eq_bind, Option.bind_eq_some_iff] at h
  obtain ⟨node, hn, hrest⟩ := h
  split at hrest
  · cases hrest
  · obtain ⟨q, hq, hrest⟩ := Option.bind_eq_some_iff.mp hrest
    obtain ⟨parent, hpar, hrest⟩ := Option.bind_eq_some_iff.mp hrest
    split at hrest
    · cases hrest
      exact lt_size_of_resource? (classNode?_eq_some.mp hpar)
    · cases hrest

/-- The climb up the superclasses takes the renumbered steps; the induction is on its fuel. -/
theorem climb_eq (h : g.Renumbering σ g') (hg : g.WellFormed) :
    ∀ fuel c seen depth, c < g.size → (∀ x ∈ seen, x < g.size) →
      g'.climb fuel (σ c) (seen.map σ) depth = g.climb fuel c seen depth := by
  intro fuel
  induction fuel with
  | zero => intro _ _ _ _ _; rfl
  | succ fuel ih =>
    intro c seen depth hc hseen
    simp only [climb, h.resolvedParent?_eq hg hc]
    cases hp : g.resolvedParent? c with
    | none => rfl
    | some p =>
      have hplt := resolvedParent?_lt hp
      simp only [Option.map_some, h.contains_map hseen hplt]
      split
      · rfl
      · rw [← List.map_cons]
        exact ih p (p :: seen) (depth + 1) hplt fun x hx => by
          rcases List.mem_cons.mp hx with rfl | hx
          · exact hplt
          · exact hseen x hx

theorem depth_eq (h : g.Renumbering σ g') (hg : g.WellFormed) {c : Nat} (hc : c < g.size) :
    g'.depth (σ c) = g.depth c := by
  unfold depth
  rw [h.size_eq, ← List.map_singleton]
  exact h.climb_eq hg _ c [c] 0 hc fun x hx => List.mem_singleton.mp hx ▸ hc

/-! ### Response set -/

theorem responseSet_perm (h : g.Renumbering σ g') (hg : g.WellFormed) (hg' : g'.WellFormed) {i : Nat}
    {c c' : ClassNode} (hc : g.classNode? i = some c) (hr : c.Renumbered σ c') :
    (g'.responseSet (σ i) c').Perm ((g.responseSet i c).map σ) := by
  have hown := h.declaredMethods_perm hg hc hr
  -- the renumbered class owns the renumbered methods, so both owner tests pass everything
  have hown' : (g'.declaredMethods c').filter (fun m => (g'.methodNode? m).any (·.owner == σ i)) =
      g'.declaredMethods c' := List.filter_eq_self.mpr fun m' hm' => by
    obtain ⟨m, hm, rfl⟩ := List.mem_map.mp (hown.mem_iff.mp hm')
    obtain ⟨x, hx, ho⟩ := hg.mem_methods hc (List.mem_filter.mp hm).1
    obtain ⟨x', hx', -, ho'⟩ := h.methodNode? hx
    simp [hx', ho', ho]
  have hownlt : ∀ m ∈ g.declaredMethods c, m < g.size := fun m hm =>
    methods_lt hg hc m (List.mem_filter.mp hm).1
  -- the methods each declared method calls, renumbered
  have hcalls : ∀ m ∈ g.declaredMethods c,
      (((g'.edgesFrom (σ m)).filter fun e => (g'.methodNode? e.target).isSome).map (·.target)).Perm
        ((((g.edgesFrom m).filter fun e => (g.methodNode? e.target).isSome).map (·.target)).map σ) := by
    intro m hm
    have hedges := h.edgesFrom_perm hg hg' (hownlt m hm)
    have hf := hedges.filter (fun e => (g'.methodNode? e.target).isSome)
    have hfilt : (g.edgesFrom m).filter ((fun e => (g'.methodNode? e.target).isSome) ∘ Link.renumber σ)
        = (g.edgesFrom m).filter fun e => (g.methodNode? e.target).isSome :=
      List.filter_congr fun e he => h.isSome_methodNode? (hg.target_lt_of_mem_edgesFrom he)
    rw [List.filter_map, hfilt] at hf
    refine (hf.map (·.target)).trans (List.Perm.of_eq ?_)
    rw [List.map_map, List.map_map]
    rfl
  unfold responseSet
  dsimp only
  rw [hg.filter_owned_declaredMethods hc, hown']
  refine keepFirst_perm_map ?_ ?_
  · rw [List.map_append]
    refine hown.append ?_
    refine (hown.flatMap_right _).trans ?_
    rw [List.flatMap_map, List.map_flatMap]
    exact List.Perm.flatMap_left _ hcalls
  · intro x hx y hy hxy
    have hlt : ∀ z ∈ g.declaredMethods c ++ (g.declaredMethods c).flatMap (fun m =>
        ((g.edgesFrom m).filter fun e => (g.methodNode? e.target).isSome).map (·.target)),
        z < g.size := by
      intro z hz
      rcases List.mem_append.mp hz with hz | hz
      · exact hownlt z hz
      · obtain ⟨m, -, hz⟩ := List.mem_flatMap.mp hz
        obtain ⟨e, he, rfl⟩ := List.mem_map.mp hz
        exact hg.target_lt_of_mem_edgesFrom (List.mem_filter.mp he).1
    exact h.injective x (hlt x hx) y (hlt y hy) hxy

theorem response_eq (h : g.Renumbering σ g') (hg : g.WellFormed) (hg' : g'.WellFormed)
    (cfg : EngineConfig) {i : Nat} {c c' : ClassNode} (hc : g.classNode? i = some c)
    (hr : c.Renumbered σ c') : g'.response cfg (σ i) c' = g.response cfg i c := by
  have hi := lt_size_of_resource? (classNode?_eq_some.mp hc)
  have hlt : ∀ m ∈ g.responseSet i c, m < g.size := by
    intro m hm
    have hm' := ((foldl_keepFirst _ []).1 m).mp hm
    simp only [List.not_mem_nil, false_or, List.mem_append, List.mem_flatMap, List.mem_map] at hm'
    rcases hm' with hm' | ⟨k, -, e, he, rfl⟩
    · exact methods_lt hg hc m (List.mem_filter.mp hm').1
    · exact hg.target_lt_of_mem_edgesFrom (List.mem_filter.mp he).1
  unfold response
  rw [(filter_perm_map (h.responseSet_perm hg hg' hc hr) fun m hm => ?_).length_eq, List.length_map]
  have hm := hlt m hm
  rw [h.isAccessor_eq hg hm]
  congr 2
  cases hx : g.methodNode? m with
  | none => rw [h.methodNode?_eq_none hm hx]; rfl
  | some x =>
    obtain ⟨x', hx', -, ho⟩ := h.methodNode? hx
    have hxo := (hg.method_key m x hx).1
    rw [hx', Option.any_some, Option.any_some, ho, Bool.eq_iff_iff, beq_iff_eq, beq_iff_eq]
    exact ⟨h.injective _ hxo _ hi, fun he => he ▸ rfl⟩

/-! ### Cohesion -/

variable (c : EngineConfig)

theorem isCohesive_eq (h : g.Renumbering σ g') (hg : g.WellFormed) {i : Nat} (hi : i < g.size) :
    g'.isCohesive c (σ i) = g.isCohesive c i := by
  unfold isCohesive
  rw [h.isAccessor_eq hg hi]
  cases hm : g.methodNode? i with
  | none => rw [h.methodNode?_eq_none hi hm]
  | some m =>
    obtain ⟨m', hm', hu, -⟩ := h.methodNode? hm
    rw [hm']
    -- the test reads nothing that the owner or the implementations hold
    have hE := congrArg (fun x : MethodNode => !x.isStatic && !x.isAbstract && !x.isConstructor &&
      !x.isStaticInitializer && x.hasBody && !x.isEmpty &&
      !(c.lcom4ExcludeAccessors && g.isAccessor i)) hu
    exact hE

theorem measured_iff (h : g.Renumbering σ g') (hg : g.WellFormed) {i : Nat} (hi : i < g.size) :
    g'.Measured c (σ i) ↔ g.Measured c i := by
  rw [← StructuralGraph.measured_iff, ← StructuralGraph.measured_iff, h.isCohesive_eq c hg hi,
    h.methodNode?_any hi fun _ => rfl]

theorem instanceMethod_iff (h : g.Renumbering σ g') (hg : g.WellFormed) {cls t : Nat}
    (hcls : cls < g.size) (ht : t < g.size) :
    (∃ mn, g'.methodNode? (σ t) = some mn ∧ mn.owner = σ cls ∧ mn.isStatic = false) ↔
      ∃ mn, g.methodNode? t = some mn ∧ mn.owner = cls ∧ mn.isStatic = false := by
  constructor
  · rintro ⟨mn', hmn', ho', hs'⟩
    obtain ⟨mn, hmn, hu, ho⟩ := h.methodNode?_inv ht hmn'
    have hs := congrArg MethodNode.isStatic hu
    refine ⟨mn, hmn, h.injective _ (hg.method_key t mn hmn).1 _ hcls (ho.symm.trans ho'), ?_⟩
    exact hs.symm.trans hs'
  · rintro ⟨mn, hmn, rfl, hs⟩
    obtain ⟨mn', hmn', hu, ho⟩ := h.methodNode? hmn
    have hs' := congrArg MethodNode.isStatic hu
    exact ⟨mn', hmn', ho, hs'.trans hs⟩

/-- An instance field of the renumbered class that the settings keep is a renumbered one. -/
theorem instanceField_iff (h : g.Renumbering σ g') (hg : g.WellFormed) {cls t : Nat}
    (hcls : cls < g.size) (ht : t < g.size) :
    (∃ fn, g'.fieldNode? (σ t) = some fn ∧ fn.owner = σ cls ∧ fn.isStatic = false ∧
        c.isExcluded fn.name = false) ↔
      ∃ fn, g.fieldNode? t = some fn ∧ fn.owner = cls ∧ fn.isStatic = false ∧
        c.isExcluded fn.name = false := by
  constructor
  · rintro ⟨fn', hfn', ho', hs', hx'⟩
    obtain ⟨fn, hfn, hu, ho⟩ := h.fieldNode?_inv ht hfn'
    have hs := congrArg FieldNode.isStatic hu
    have hn := congrArg FieldNode.name hu
    refine ⟨fn, hfn, h.injective _ (hg.field_key t fn hfn).1 _ hcls (ho.symm.trans ho'), ?_, ?_⟩
    · exact hs.symm.trans hs'
    · exact hn ▸ hx'
  · rintro ⟨fn, hfn, rfl, hs, hx⟩
    obtain ⟨fn', hfn', hu, ho⟩ := h.fieldNode? hfn
    have hs' := congrArg FieldNode.isStatic hu
    have hn := congrArg FieldNode.name hu
    exact ⟨fn', hfn', ho, hs'.trans hs, hn ▸ hx⟩

theorem linkTarget_iff (h : g.Renumbering σ g') (hg : g.WellFormed) {cls t u' : Nat}
    (hcls : cls < g.size) (ht : t < g.size) :
    g'.LinkTarget c (σ cls) (σ t) u' ↔ ∃ u, g.LinkTarget c cls t u ∧ σ u = u' := by
  -- the member linked to is renumbered with the edge's target
  have hu : (if c.lcom4ExcludeAccessors then (g'.accessedField (σ t)).getD (σ t) else σ t) =
      σ (if c.lcom4ExcludeAccessors then (g.accessedField t).getD t else t) := by
    rw [h.accessedField_eq hg ht]
    split
    · exact Option.getD_map σ t _
    · rfl
  have hlt : (if c.lcom4ExcludeAccessors then (g.accessedField t).getD t else t) < g.size := by
    split
    · exact accessedField_getD_lt ht
    · exact ht
  have hx : ∀ u < g.size, (∀ fn, g'.fieldNode? (σ u) = some fn → c.isExcluded fn.name = false) ↔
      ∀ fn, g.fieldNode? u = some fn → c.isExcluded fn.name = false := by
    intro u hu
    constructor
    · intro hx' fn hfn
      obtain ⟨fn', hfn', hu', -⟩ := h.fieldNode? hfn
      have hn := congrArg FieldNode.name hu'
      exact hn ▸ hx' fn' hfn'
    · intro hx fn' hfn'
      obtain ⟨fn, hfn, hu', -⟩ := h.fieldNode?_inv hu hfn'
      have hn := congrArg FieldNode.name hu'
      exact hn ▸ hx fn hfn
  unfold LinkTarget
  rw [h.instanceMethod_iff hg hcls ht, h.instanceField_iff c hg hcls ht, hu]
  constructor
  · rintro ⟨hown, rfl, hex⟩
    exact ⟨_, ⟨hown, rfl, (hx _ hlt).mp hex⟩, rfl⟩
  · rintro ⟨u, ⟨hown, rfl, hex⟩, rfl⟩
    exact ⟨hown, rfl, (hx _ hlt).mpr hex⟩

section Class

variable {cls : Nat} {node node' : ClassNode}

theorem usesMember_iff (h : g.Renumbering σ g') (hg : g.WellFormed) (hg' : g'.WellFormed)
    (hc : g.classNode? cls = some node) (hr : node.Renumbered σ node') {m' u' : Nat} :
    g'.UsesMember c (σ cls) node' m' u' ↔
      ∃ m u, g.UsesMember c cls node m u ∧ σ m = m' ∧ σ u = u' := by
  have hcls := lt_size_of_resource? (classNode?_eq_some.mp hc)
  constructor
  · rintro ⟨hm', hmeas', e', he', hl'⟩
    obtain ⟨m, hm, rfl⟩ := List.mem_map.mp (hr.methods.mem_iff.mp hm')
    have hmlt := methods_lt hg hc m hm
    obtain ⟨e, he, rfl⟩ := List.mem_map.mp ((h.edgesFrom_perm hg hg' hmlt).mem_iff.mp he')
    obtain ⟨u, hl, rfl⟩ :=
      (h.linkTarget_iff c hg hcls (hg.target_lt_of_mem_edgesFrom he)).mp hl'
    exact ⟨m, u, ⟨hm, (h.measured_iff c hg hmlt).mp hmeas', e, he, hl⟩, rfl, rfl⟩
  · rintro ⟨m, u, ⟨hm, hmeas, e, he, hl⟩, rfl, rfl⟩
    have hmlt := methods_lt hg hc m hm
    exact ⟨hr.methods.mem_iff.mpr (List.mem_map_of_mem hm), (h.measured_iff c hg hmlt).mpr hmeas,
      e.renumber σ, (h.edgesFrom_perm hg hg' hmlt).mem_iff.mpr (List.mem_map_of_mem he),
      (h.linkTarget_iff c hg hcls (hg.target_lt_of_mem_edgesFrom he)).mpr ⟨u, hl, rfl⟩⟩

theorem cohesionNode_iff (h : g.Renumbering σ g') (hg : g.WellFormed) (hg' : g'.WellFormed)
    (hc : g.classNode? cls = some node) (hr : node.Renumbered σ node') {y : Nat} :
    g'.CohesionNode c (σ cls) node' y ↔ ∃ x, g.CohesionNode c cls node x ∧ σ x = y := by
  constructor
  · rintro (⟨hy, hmeas⟩ | ⟨m', hu'⟩)
    · obtain ⟨x, hx, rfl⟩ := List.mem_map.mp (hr.methods.mem_iff.mp hy)
      exact ⟨x, .inl ⟨hx, (h.measured_iff c hg (methods_lt hg hc x hx)).mp hmeas⟩, rfl⟩
    · obtain ⟨m, u, hu, -, rfl⟩ := (h.usesMember_iff c hg hg' hc hr).mp hu'
      exact ⟨u, .inr ⟨m, hu⟩, rfl⟩
  · rintro ⟨x, ⟨hx, hmeas⟩ | ⟨m, hu⟩, rfl⟩
    · exact .inl ⟨hr.methods.mem_iff.mpr (List.mem_map_of_mem hx),
        (h.measured_iff c hg (methods_lt hg hc x hx)).mpr hmeas⟩
    · exact .inr ⟨σ m, (h.usesMember_iff c hg hg' hc hr).mpr ⟨m, x, hu, rfl, rfl⟩⟩

omit c in
theorem declaredInstanceMembers_perm (h : g.Renumbering σ g') (hg : g.WellFormed)
    (hc : g.classNode? cls = some node) (hr : node.Renumbered σ node') :
    (g'.declaredInstanceMembers node').Perm ((g.declaredInstanceMembers node).map σ) := by
  refine filter_perm_map (by rw [List.map_append]; exact hr.methods.append hr.fields) fun x hx => ?_
  have hx : x < g.size := by
    rcases List.mem_append.mp hx with hx | hx
    · exact methods_lt hg hc x hx
    · exact fields_lt hg hc x hx
  exact h.resource?_any hx fun _ _ hrr => by rw [hrr.isStaticMember_eq, hrr.isDeclared_eq]

omit c in
theorem map_key_map (h : g.Renumbering σ g') {l : List Nat} (hl : ∀ x ∈ l, x < g.size) :
    (l.map σ).map g'.key = l.map g.key := by
  rw [List.map_map]
  exact List.map_congr_left fun x hx => h.key_eq (hl x hx)

/-- The cohesion blocks of a class are cohesion blocks of the renumbered class: its cohesion
graph is the renumbered one, whose blocks render with the same keys. -/
theorem isCohesionBlocks (h : g.Renumbering σ g') (hg : g.WellFormed) (hg' : g'.WellFormed)
    (hc : g.classNode? cls = some node) (hr : node.Renumbered σ node') {B : List (List String)}
    (hB : g.IsCohesionBlocks c cls node B) : g'.IsCohesionBlocks c (σ cls) node' B where
  sorted := hB.sorted
  components := by
    rintro ⟨m', hm', hmeas'⟩
    obtain ⟨m, hm, rfl⟩ := List.mem_map.mp (hr.methods.mem_iff.mp hm')
    obtain ⟨P, hP, hPB⟩ :=
      hB.components ⟨m, hm, (h.measured_iff c hg (methods_lt hg hc m hm)).mp hmeas'⟩
    have hlt : ∀ x, g.CohesionNode c cls node x → x < g.size := fun _ hx =>
      hg.lt_size_of_cohesionNode hc hx
    refine ⟨P.map (List.map σ), hP.map (fun x hx y hy => h.injective x (hlt x hx) y (hlt y hy))
      (fun x y hl => ⟨.inl ⟨hl.1, hl.2.1⟩, .inr ⟨x, hl⟩⟩) (fun _ => h.cohesionNode_iff c hg hg' hc hr)
      (fun _ _ => h.usesMember_iff c hg hg' hc hr), ?_⟩
    -- each block renders with the keys it had
    have hblocks : ∀ b ∈ P, ∀ x ∈ b, x < g.size := fun b hb x hx =>
      hlt x ((hP.mem_iff x).mp (List.mem_flatten.mpr ⟨b, hb, hx⟩))
    refine List.forall₂_map_left_iff.mpr (((List.forall₂_and_left P B).mpr ⟨hblocks, hPB⟩).imp ?_)
    rintro b ks ⟨hb, hks⟩
    exact ⟨(h.map_key_map hb).symm ▸ hks.1, hks.2⟩
  single := by
    intro hnone'
    obtain ⟨ks, hks, hrend⟩ := hB.single fun m hm hmeas =>
      hnone' (σ m) (hr.methods.mem_iff.mpr (List.mem_map_of_mem hm))
        ((h.measured_iff c hg (methods_lt hg hc m hm)).mpr hmeas)
    have hlt : ∀ x ∈ g.declaredInstanceMembers node, x < g.size := fun x hx => by
      rcases List.mem_append.mp (List.mem_filter.mp hx).1 with hx | hx
      · exact methods_lt hg hc x hx
      · exact fields_lt hg hc x hx
    refine ⟨ks, hks, hrend.1.trans ?_, hrend.2⟩
    rw [← h.map_key_map hlt]
    exact ((h.declaredInstanceMembers_perm hg hc hr).map g'.key).symm

theorem cohesionBlocks_eq (h : g.Renumbering σ g') (hg : g.WellFormed) (hg' : g'.WellFormed)
    (hc : g.classNode? cls = some node) (hr : node.Renumbered σ node') :
    g'.cohesionBlocks c (σ cls) node' = g.cohesionBlocks c cls node :=
  (isCohesionBlocks_iff.mp
    (h.isCohesionBlocks c hg hg' hc hr (isCohesionBlocks_cohesionBlocks cls node))).symm

theorem classMeasures_eq (h : g.Renumbering σ g') (hg : g.WellFormed) (hg' : g'.WellFormed)
    (hs : SubclassesRenumbered σ g g') (hc : g.classNode? cls = some node)
    (hr : node.Renumbered σ node') :
    g'.classMeasures c (σ cls) node' = g.classMeasures c cls node := by
  have hcls := lt_size_of_resource? (classNode?_eq_some.mp hc)
  have hacc : ((g'.declaredMethods node').filter g'.isAccessor).length =
      ((g.declaredMethods node).filter g.isAccessor).length := by
    rw [(filter_perm_map (h.declaredMethods_perm hg hc hr) fun m hm =>
      h.isAccessor_eq hg (methods_lt hg hc m (List.mem_filter.mp hm).1)).length_eq, List.length_map]
  unfold classMeasures
  rw [h.cohesionBlocks_eq c hg hg' hc hr, h.depth_eq hg hcls, h.response_eq hg hg' c hc hr,
    (hs cls hcls).length_eq, List.length_map, hacc]

omit c in
/-- The edges that speak for a renumbered class are the renumbered ones, in some order. -/
theorem classEdges_perm (h : g.Renumbering σ g') (hg : g.WellFormed) (hg' : g'.WellFormed)
    (hc : g.classNode? cls = some node) (hr : node.Renumbered σ node') :
    (g'.classEdges (σ cls) node').Perm ((g.classEdges cls node).map (Link.renumber σ)) := by
  have hcls := lt_size_of_resource? (classNode?_eq_some.mp hc)
  have hsrc : (g'.declaredMethods node' ++ g'.declaredFields node' ++ [σ cls]).Perm
      ((g.declaredMethods node ++ g.declaredFields node ++ [cls]).map σ) := by
    rw [List.map_append, List.map_append, List.map_singleton]
    exact ((h.declaredMethods_perm hg hc hr).append (h.declaredFields_perm hg hc hr)).append
      (List.Perm.refl _)
  have hlt : ∀ x ∈ g.declaredMethods node ++ g.declaredFields node ++ [cls], x < g.size := by
    intro x hx
    simp only [List.mem_append, List.mem_singleton] at hx
    rcases hx with (hx | hx) | rfl
    · exact methods_lt hg hc x (List.mem_filter.mp hx).1
    · exact fields_lt hg hc x (List.mem_filter.mp hx).1
    · exact hcls
  unfold classEdges
  refine (hsrc.flatMap_right _).trans ?_
  rw [List.flatMap_map, List.map_flatMap]
  exact List.Perm.flatMap_left _ fun x hx => h.edgesFrom_perm hg hg' (hlt x hx)

end Class

end Renumbering

end StructuralGraph

end ClassMetrics
