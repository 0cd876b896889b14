import ClassMetrics.Proofs.Order.Measures
import ClassMetrics.Proofs.Order.Keyed
import ClassMetrics.Proofs.Build.Built

/-!
Lookups under a renumbering. The hierarchy walk from a renumbered class asks the renumbered
classes in the same order and passes over the same ones, so a lookup whose answers follow the
renumbering answers the renumbered node. A class lists at most one member of a name (and
descriptor): the order of its members does not change which one it declares. So member lookup,
the node each place of a class file leads to, and the references the wiring of a class records
all follow the renumbering.
-/

namespace ClassMetrics

open ClassFile

namespace StructuralGraph

theorem WellFormed.eq_of_mem_methods {g : StructuralGraph} (hg : g.WellFormed) {i : Nat}
    {c : ClassNode} (hc : g.classNode? i = some c) {x y : Nat} (hx : x ∈ c.methods)
    (hy : y ∈ c.methods) {mx my : MethodNode} (hmx : g.methodNode? x = some mx)
    (hmy : g.methodNode? y = some my) (hname : mx.name = my.name)
    (hdesc : mx.descriptor = my.descriptor) : x = y := by
  obtain ⟨mx', hmx', hox⟩ := hg.mem_methods hc hx
  obtain ⟨my', hmy', hoy⟩ := hg.mem_methods hc hy
  rw [hmx] at hmx'
  rw [hmy] at hmy'
  cases hmx'
  cases hmy'
  refine hg.key_inj x y (lt_size_of_resource? (methodNode?_eq_some.mp hmx))
    (lt_size_of_resource? (methodNode?_eq_some.mp hmy)) ?_
  rw [key_of_resource? (methodNode?_eq_some.mp hmx), key_of_resource? (methodNode?_eq_some.mp hmy)]
  change mx.key = my.key
  rw [(hg.method_key x mx hmx).2, (hg.method_key y my hmy).2, hox, hoy, hname, hdesc]

theorem WellFormed.eq_of_mem_fields {g : StructuralGraph} (hg : g.WellFormed) {i : Nat}
    {c : ClassNode} (hc : g.classNode? i = some c) {x y : Nat} (hx : x ∈ c.fields)
    (hy : y ∈ c.fields) {fx fy : FieldNode} (hfx : g.fieldNode? x = some fx)
    (hfy : g.fieldNode? y = some fy) (hname : fx.name = fy.name) : x = y := by
  obtain ⟨fx', hfx', hox⟩ := hg.mem_fields hc hx
  obtain ⟨fy', hfy', hoy⟩ := hg.mem_fields hc hy
  rw [hfx] at hfx'
  rw [hfy] at hfy'
  cases hfx'
  cases hfy'
  refine hg.key_inj x y (lt_size_of_resource? (fieldNode?_eq_some.mp hfx))
    (lt_size_of_resource? (fieldNode?_eq_some.mp hfy)) ?_
  rw [key_of_resource? (fieldNode?_eq_some.mp hfx), key_of_resource? (fieldNode?_eq_some.mp hfy)]
  change fx.key = fy.key
  rw [(hg.field_key x fx hfx).2, (hg.field_key y fy hfy).2, hox, hoy, hname]

theorem WellFormed.lt_of_mem_interfacesOf {g : StructuralGraph} (hg : g.WellFormed) {k p : Nat}
    (hp : p ∈ g.interfacesOf k) : p < g.size := by
  cases hc : g.classNode? k with
  | none => simp [interfacesOf, hc] at hp
  | some c =>
    rw [interfacesOf_of_classNode? hc] at hp
    exact ((hg.classShape k c hc).interfaces_lt p hp).1

/-! ### References lead to nodes -/

/-- A place of a well-formed graph leads to a node of it. -/
theorem Site.target_lt {g : StructuralGraph} (hg : g.WellFormed) {s : Site} {t : Nat}
    (h : Site.target g s = some t) : t < g.size := by
  cases s with
  | type n => exact (key_of_get? h).1
  | method r _ =>
    obtain ⟨o, -, ht⟩ := Option.bind_eq_some_iff.mp h
    cases hf : g.findMethod o r.name r.descriptor with
    | none =>
      rw [hf, Option.none_or] at ht
      exact (key_of_get? ht).1
    | some x =>
      rw [hf, Option.some_or] at ht
      cases ht
      exact hg.findMethod_lt hf
  | field r _ =>
    obtain ⟨o, -, ht⟩ := Option.bind_eq_some_iff.mp h
    cases hf : g.findField o r.name with
    | none =>
      rw [hf, Option.none_or] at ht
      exact (key_of_get? ht).1
    | some x =>
      rw [hf, Option.some_or] at ht
      cases ht
      exact hg.findField_lt hf

theorem WellFormed.snd_lt_of_mem_memberEdges {g : StructuralGraph} (hg : g.WellFormed)
    {src : Option Nat} {sites : Except FormatError (List Site)} {e : Nat × Nat}
    (he : e ∈ memberEdges g src sites) : e.2 < g.size := by
  unfold memberEdges at he
  split at he
  · obtain ⟨t, ht, rfl⟩ := List.mem_map.mp he
    obtain ⟨s, -, hs⟩ := List.mem_filterMap.mp ht
    exact Site.target_lt hg hs
  · exact absurd he List.not_mem_nil

/-- The references the wiring of a class records join nodes of the graph. -/
theorem WellFormed.ends_lt_of_mem_wiredRefs {g : StructuralGraph} (hg : g.WellFormed) {cls : String}
    {i : Nat} {file : ClassInfo} (hi : i < g.size) {e : Nat × Nat}
    (he : e ∈ wiredRefs g cls i file) : e.1 < g.size ∧ e.2 < g.size := by
  refine ⟨ClassMetrics.lt_of_mem_wiredRefs hi he, ?_⟩
  simp only [wiredRefs, List.mem_append] at he
  rcases he with ((he | he) | he) | he
  · obtain ⟨_, -, he⟩ := List.mem_flatMap.mp he
    exact hg.snd_lt_of_mem_memberEdges he
  · obtain ⟨_, -, he⟩ := List.mem_flatMap.mp he
    exact hg.snd_lt_of_mem_memberEdges he
  · exact hg.snd_lt_of_mem_memberEdges he
  · -- a supertype of the class
    unfold supertypeRefs at he
    obtain ⟨t, ht, rfl⟩ := List.mem_map.mp he
    cases hc : g.classNode? i with
    | none => simp [hc] at ht
    | some c =>
      have hshape := hg.classShape i c hc
      simp only [hc, Option.bind_some, Option.map_some, Option.getD_some, List.mem_append,
        Option.mem_toList] at ht
      rcases ht with ht | ht
      · exact (hshape.superClass_lt t ht).1
      · exact (hshape.interfaces_lt t ht).1

namespace Renumbering

variable {σ : Nat → Nat} {g g' : StructuralGraph}

theorem range_perm (h : g.Renumbering σ g') : ((List.range g.size).map σ).Perm (List.range g.size) := by
  refine (List.perm_ext_iff_of_nodup (List.nodup_range.map_on fun i hi j hj hij =>
    h.injective i (List.mem_range.mp hi) j (List.mem_range.mp hj) hij) List.nodup_range).mpr
    fun x => ?_
  rw [List.mem_map, List.mem_range]
  constructor
  · rintro ⟨i, hi, rfl⟩
    exact h.lt_size i (List.mem_range.mp hi)
  · intro hx
    obtain ⟨i, hi, rfl⟩ := h.surjective x hx
    exact ⟨i, List.mem_range.mpr hi, rfl⟩

theorem interfacesOf_eq (h : g.Renumbering σ g') {i : Nat} (hi : i < g.size) :
    g'.interfacesOf (σ i) = (g.interfacesOf i).map σ := by
  cases hc : g.classNode? i with
  | none => simp [interfacesOf, hc, h.classNode?_eq_none hi hc]
  | some c =>
    obtain ⟨c', hc', hr⟩ := h.classNode? hc
    rw [interfacesOf_of_classNode? hc, interfacesOf_of_classNode? hc', hr.interfaces]

theorem interfaceCount_eq (h : g.Renumbering σ g') : g'.interfaceCount = g.interfaceCount := by
  rw [← sum_interfacesOf, ← sum_interfacesOf, h.size_eq]
  calc ((List.range g.size).map fun i => (g'.interfacesOf i).length).sum
      = (((List.range g.size).map σ).map fun i => (g'.interfacesOf i).length).sum :=
        (h.range_perm.map _).sum_eq.symm
    _ = ((List.range g.size).map fun i => (g.interfacesOf i).length).sum := by
        rw [List.map_map]
        congr 1
        refine List.map_congr_left fun i hi => ?_
        simp [h.interfacesOf_eq (List.mem_range.mp hi)]

/-! ### The hierarchy walk -/

section Walk

variable (h : g.Renumbering σ g') (hg : g.WellFormed) {find find' : Nat → Option Nat}
  (hfind : ∀ k < g.size, find' (σ k) = (find k).map σ)
include h hg hfind

/-- The interface walk over renumbered queues answers the renumbered answer. -/
theorem searchInterfaces_map : ∀ fuel queue seen, (∀ x ∈ queue, x < g.size) →
    (∀ x ∈ seen, x < g.size) → g'.searchInterfaces find' fuel (queue.map σ) (seen.map σ) =
      (g.searchInterfaces find fuel queue seen).map σ := by
  intro fuel
  induction fuel with
  | zero => intros; rfl
  | succ fuel ih =>
    intro queue seen hq hs
    cases queue with
    | nil => rfl
    | cons c queue =>
      have hc := hq c List.mem_cons_self
      have hq' : ∀ x ∈ queue, x < g.size := fun x hx => hq x (List.mem_cons_of_mem c hx)
      simp only [List.map_cons, searchInterfaces, h.contains_map hs hc, hfind c hc]
      split
      · exact ih queue seen hq' hs
      · cases find c with
        | some found => rfl
        | none =>
          -- one more node seen, its interfaces queued
          rw [Option.map_none, h.interfacesOf_eq hc, ← List.map_append, ← List.map_cons]
          refine ih _ _ (fun x hx => ?_) fun x hx => ?_
          · rcases List.mem_append.mp hx with hx | hx
            · exact hq' x hx
            · exact hg.lt_of_mem_interfacesOf hx
          · rcases List.mem_cons.mp hx with rfl | hx
            · exact hc
            · exact hs x hx

/-- The superclass walk from a renumbered start answers the renumbered answer. -/
theorem searchChain_map : ∀ fuel start queue seen, (∀ x ∈ start, x < g.size) →
    (∀ x ∈ queue, x < g.size) → (∀ x ∈ seen, x < g.size) →
      g'.searchChain find' fuel (start.map σ) (queue.map σ) (seen.map σ) =
        (g.searchChain find fuel start queue seen).map σ := by
  -- the walk handed over to the interfaces
  have hinterfaces : ∀ queue seen, (∀ x ∈ queue, x < g.size) → (∀ x ∈ seen, x < g.size) →
      g'.searchInterfaces find' ((queue.map σ).length + g'.interfaceCount + 1) (queue.map σ)
        (seen.map σ) =
        (g.searchInterfaces find (queue.length + g.interfaceCount + 1) queue seen).map σ :=
    fun queue seen hq hs => by
      rw [List.length_map, h.interfaceCount_eq]
      exact searchInterfaces_map h hg hfind _ queue seen hq hs
  intro fuel
  induction fuel with
  | zero =>
    intro start queue seen _ hq hs
    simp only [searchChain]
    exact hinterfaces queue seen hq hs
  | succ fuel ih =>
    intro start queue seen hstart hq hs
    cases start with
    | none =>
      simp only [Option.map_none, searchChain]
      exact hinterfaces queue seen hq hs
    | some c =>
      have hc := hstart c rfl
      simp only [Option.map_some, searchChain, h.contains_map hs hc, hfind c hc]
      split
      · exact hinterfaces queue seen hq hs
      · cases find c with
        | some found => rfl
        | none =>
          cases hn : g.classNode? c with
          | none => simp [h.classNode?_eq_none hc hn]
          | some node =>
            -- one class up, its interfaces queued
            obtain ⟨node', hn', hr⟩ := h.classNode? hn
            have hshape := hg.classShape c node hn
            simp only [Option.map_none, hn', hr.superClass, hr.interfaces, ← List.map_append,
              ← List.map_cons]
            refine ih _ _ _ (fun x hx => (hshape.superClass_lt x hx).1) (fun x hx => ?_)
              fun x hx => ?_
            · rcases List.mem_append.mp hx with hx | hx
              · exact hq x hx
              · exact (hshape.interfaces_lt x hx).1
            · rcases List.mem_cons.mp hx with rfl | hx
              · exact hc
              · exact hs x hx

theorem lookupHierarchy_map {c : Nat} (hc : c < g.size) :
    g'.lookupHierarchy (σ c) find' = (g.lookupHierarchy c find).map σ := by
  unfold lookupHierarchy
  rw [h.size_eq]
  exact searchChain_map h hg hfind _ (some c) [] [] (fun x hx => Option.mem_some_iff.mp hx ▸ hc)
    (fun _ hx => absurd hx List.not_mem_nil) fun _ hx => absurd hx List.not_mem_nil

end Walk

/-! ### Member lookup -/

variable (h : g.Renumbering σ g') (hg : g.WellFormed)
include h hg

theorem declaredMethod_eq {k : Nat} (hk : k < g.size) (name descriptor : String) :
    g'.declaredMethod (σ k) name descriptor = (g.declaredMethod k name descriptor).map σ := by
  unfold declaredMethod
  cases hc : g.classNode? k with
  | none => simp [h.classNode?_eq_none hk hc]
  | some c =>
    obtain ⟨c', hc', hr⟩ := h.classNode? hc
    rw [hc', Option.bind_some, Option.bind_some]
    refine find?_perm_map hr.methods (fun m hm => h.methodNode?_any (methods_lt hg hc m hm)
      fun _ => rfl) fun x hx y hy hpx hpy => ?_
    obtain ⟨mx, hmx, hpx⟩ := (Option.any_eq_true _ _).mp hpx
    obtain ⟨my, hmy, hpy⟩ := (Option.any_eq_true _ _).mp hpy
    simp only [Bool.and_eq_true, beq_iff_eq] at hpx hpy
    exact hg.eq_of_mem_methods hc hx hy hmx hmy (hpx.1.2.trans hpy.1.2.symm)
      (hpx.2.trans hpy.2.symm)

theorem declaredField_eq {k : Nat} (hk : k < g.size) (name : String) :
    g'.declaredField (σ k) name = (g.declaredField k name).map σ := by
  unfold declaredField
  cases hc : g.classNode? k with
  | none => simp [h.classNode?_eq_none hk hc]
  | some c =>
    obtain ⟨c', hc', hr⟩ := h.classNode? hc
    rw [hc', Option.bind_some, Option.bind_some]
    refine find?_perm_map hr.fields (fun f hf => h.fieldNode?_any (fields_lt hg hc f hf)
      fun _ => rfl) fun x hx y hy hpx hpy => ?_
    obtain ⟨fx, hfx, hpx⟩ := (Option.any_eq_true _ _).mp hpx
    obtain ⟨fy, hfy, hpy⟩ := (Option.any_eq_true _ _).mp hpy
    simp only [Bool.and_eq_true, beq_iff_eq] at hpx hpy
    exact hg.eq_of_mem_fields hc hx hy hfx hfy (hpx.2.trans hpy.2.symm)

theorem findMethod_eq {c : Nat} (hc : c < g.size) (name descriptor : String) :
    g'.findMethod (σ c) name descriptor = (g.findMethod c name descriptor).map σ :=
  lookupHierarchy_map h hg (fun _ hk => h.declaredMethod_eq hg hk name descriptor) hc

theorem findField_eq {c : Nat} (hc : c < g.size) (name : String) :
    g'.findField (σ c) name = (g.findField c name).map σ :=
  lookupHierarchy_map h hg (fun _ hk => h.declaredField_eq hg hk name) hc

/-- What a node makes of another, renumbered: a class's supertypes are renumbered with it. -/
theorem usageOf_eq {a t : Nat} (ha : a < g.size) (ht : t < g.size) :
    g'.usageOf (σ a) (σ t) = g.usageOf a t := by
  unfold usageOf
  cases hc : g.classNode? a with
  | none => rw [h.classNode?_eq_none ha hc]
  | some c =>
    obtain ⟨c', hc', hr⟩ := h.classNode? hc
    have hshape := hg.classShape a c hc
    -- `σ` is one to one on the supertypes and `t`
    have hsup : c.superClass.map σ = some (σ t) ↔ c.superClass = some t := by
      constructor
      · intro hs
        obtain ⟨s, hs, hst⟩ := Option.map_eq_some_iff.mp hs
        rw [hs, h.injective s (hshape.superClass_lt s hs).1 t ht hst]
      · intro hs
        rw [hs]
        rfl
    have hifs : σ t ∈ c.interfaces.map σ ↔ t ∈ c.interfaces := by
      rw [List.mem_map]
      constructor
      · rintro ⟨s, hs, hst⟩
        rwa [← h.injective s (hshape.interfaces_lt s hs).1 t ht hst]
      · exact fun hs => ⟨t, hs, rfl⟩
    rw [hc']
    simp only [ClassNode.usageTo, hr.superClass, hr.interfaces, hr.access, hsup, hifs]

/-! ### Places and references -/

variable (hg' : g'.WellFormed)
include hg'

theorem target_eq (s : Site) : Site.target g' s = (Site.target g s).map σ := by
  cases s with
  | type n => exact h.get?_eq hg' n
  | method r _ =>
    simp only [Site.target, h.get?_eq hg']
    cases ho : g.get? r.owner with
    | none => rfl
    | some o =>
      rw [Option.map_some, Option.bind_some, Option.bind_some,
        h.findMethod_eq hg (key_of_get? ho).1, Option.map_or]
  | field r _ =>
    simp only [Site.target, h.get?_eq hg']
    cases ho : g.get? r.owner with
    | none => rfl
    | some o =>
      rw [Option.map_some, Option.bind_some, Option.bind_some, h.findField_eq hg (key_of_get? ho).1,
        Option.map_or]

theorem memberEdges_eq (src : Option Nat) (sites : Except FormatError (List Site)) :
    memberEdges g' (src.map σ) sites = (memberEdges g src sites).map (Prod.map σ σ) := by
  unfold memberEdges
  cases src with
  | none => rfl
  | some s =>
    cases sites with
    | error _ => rfl
    | ok ss =>
      simp only [Option.map_some, List.map_map]
      rw [funext (target_eq h hg hg'), ← List.map_filterMap, List.map_map]
      rfl

theorem membersRefs_eq {α : Type} (key : α → String) (sites : α → Except FormatError (List Site))
    (xs : List α) : membersRefs g' key sites xs = (membersRefs g key sites xs).map (Prod.map σ σ) := by
  unfold membersRefs
  rw [List.map_flatMap]
  refine List.flatMap_congr fun x _ => ?_
  rw [h.get?_eq hg', memberEdges_eq h hg hg']

omit hg hg' in
theorem supertypeRefs_eq {i : Nat} (hi : i < g.size) :
    supertypeRefs g' (σ i) = (supertypeRefs g i).map (Prod.map σ σ) := by
  unfold supertypeRefs
  cases hc : g.classNode? i with
  | none => simp [h.classNode?_eq_none hi hc]
  | some c =>
    obtain ⟨c', hc', hr⟩ := h.classNode? hc
    simp only [hc', Option.bind_some, Option.map_some, Option.getD_some, hr.superClass,
      hr.interfaces, List.map_map]
    cases c.superClass <;> simp [Function.comp_def]

theorem wiredRefs_eq (cls : String) {i : Nat} (hi : i < g.size) (file : ClassInfo) :
    wiredRefs g' cls (σ i) file = (wiredRefs g cls i file).map (Prod.map σ σ) := by
  unfold wiredRefs
  rw [membersRefs_eq h hg hg', membersRefs_eq h hg hg', supertypeRefs_eq h hi,
    show some (σ i) = (some i).map σ from rfl, memberEdges_eq h hg hg']
  simp only [List.map_append]

end Renumbering

/-! ### Lookups read the nodes alone -/

section NodesOnly

variable (g : StructuralGraph) (find : Nat → Option Nat)

theorem searchInterfaces_nodesOnly : ∀ fuel queue seen,
    g.nodesOnly.searchInterfaces find fuel queue seen = g.searchInterfaces find fuel queue seen := by
  intro fuel
  induction fuel with
  | zero => intros; rfl
  | succ fuel ih =>
    intro queue seen
    cases queue with
    | nil => rfl
    | cons c queue =>
      simp only [searchInterfaces, ih]
      rfl

theorem searchChain_nodesOnly : ∀ fuel start queue seen,
    g.nodesOnly.searchChain find fuel start queue seen = g.searchChain find fuel start queue seen := by
  intro fuel
  induction fuel with
  | zero =>
    intro start queue seen
    simp only [searchChain, searchInterfaces_nodesOnly]
    rfl
  | succ fuel ih =>
    intro start queue seen
    cases start with
    | none =>
      simp only [searchChain, searchInterfaces_nodesOnly]
      rfl
    | some c =>
      simp only [searchChain, searchInterfaces_nodesOnly, ih]
      rfl

theorem findMethod_nodesOnly : g.nodesOnly.findMethod = g.findMethod := by
  funext c name descriptor
  exact searchChain_nodesOnly g _ _ _ _ _

theorem findField_nodesOnly : g.nodesOnly.findField = g.findField := by
  funext c name
  exact searchChain_nodesOnly g _ _ _ _ _

theorem target_nodesOnly : Site.target g.nodesOnly = Site.target g := by
  funext s
  cases s <;> simp only [Site.target, findMethod_nodesOnly, findField_nodesOnly] <;> rfl

theorem wiredRefs_nodesOnly : wiredRefs g.nodesOnly = wiredRefs g := by
  funext cls i file
  simp only [wiredRefs, membersRefs, memberEdges, target_nodesOnly]
  rfl

end NodesOnly

end StructuralGraph

end ClassMetrics
