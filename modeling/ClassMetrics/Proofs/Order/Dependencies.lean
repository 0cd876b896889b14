import ClassMetrics.Proofs.Order.Fresh
import ClassMetrics.Proofs.Dependency.Rollup

/-!
Dependencies recorded in another order. What aggregation and the listing read of a dependency
graph (couplings, weights and cycles inside sets of keys, and the sorted listing of each level)
depends only on its dependencies, not on the order they were first recorded. Under a renumbering
of the graph a class records the same dependencies, in another order; so measuring the visited
classes of either graph records the same dependencies.
-/

namespace ClassMetrics

namespace DependencyGraph

variable {d₁ d₂ : DependencyGraph}

section Perm

variable (hp : d₁.edges.toList.Perm d₂.edges.toList)
include hp

theorem afferent_eq_of_perm (s : Scope) (k : String) : d₁.afferent s k = d₂.afferent s k :=
  (hp.filter _).length_eq

theorem efferent_eq_of_perm (s : Scope) (k : String) : d₁.efferent s k = d₂.efferent s k :=
  (hp.filter _).length_eq

theorem internalWeight_eq_of_perm (s : Scope) (within : String → Bool) :
    d₁.internalWeight s within = d₂.internalWeight s within :=
  ((hp.filter _).map _).sum_eq

theorem WellFormed.edge?_eq_of_perm (hd₁ : d₁.WellFormed) (hd₂ : d₂.WellFormed) (s : Scope)
    (a b : String) : d₁.edge? s a b = d₂.edge? s a b :=
  Option.ext fun e => by rw [hd₁.edge?_eq_some_iff, hd₂.edge?_eq_some_iff, hp.mem_iff]

theorem WellFormed.cycles_eq_of_perm (hd₁ : d₁.WellFormed) (hd₂ : d₂.WellFormed) (s : Scope)
    (within : String → Bool) : d₁.cycles s within = d₂.cycles s within := by
  have hinner : Inner d₁ s within = Inner d₂ s within := by
    funext x y
    simp only [Inner, hd₁.edge?_eq_of_perm hp hd₂ s x y]
  obtain ⟨-, ⟨reps, hreps⟩, hlen₁⟩ := cycles_spec hd₁ s within
  have hreps₂ : NamesComponents (Inner d₂ s within) reps := hinner ▸ hreps
  rw [hlen₁ reps hreps, (cycles_spec hd₂ s within).2.2 reps hreps₂]

theorem WellFormed.edgesAt_eq_of_perm (hd₁ : d₁.WellFormed) (hd₂ : d₂.WellFormed) (s : Scope) :
    d₁.edgesAt s = d₂.edgesAt s := by
  have hperm : (d₁.edgesAt s).Perm (d₂.edgesAt s) :=
    (List.mergeSort_perm _ _).trans ((hp.filter _).trans (List.mergeSort_perm _ _).symm)
  refine List.Perm.eq_of_pairwise (fun a b _ _ hab hba => ?_) (hd₁.edgesAt_sorted s)
    (hd₂.edgesAt_sorted s) hperm
  -- no two dependencies each sort strictly before the other
  rcases hab with hab | ⟨hab, hab'⟩ <;> rcases hba with hba | ⟨hba, hba'⟩
  · exact absurd (hab.trans hba) (lt_irrefl _)
  · exact absurd hab (hba ▸ lt_irrefl _)
  · exact absurd hba (hab ▸ lt_irrefl _)
  · exact absurd (hab'.trans hba') (lt_irrefl _)

end Perm

end DependencyGraph

namespace SourceTree

variable {d₁ d₂ : DependencyGraph}

theorem aggregate_eq_of_perm (t : SourceTree) (c : EngineConfig) (hd₁ : d₁.WellFormed)
    (hd₂ : d₂.WellFormed) (hp : d₁.edges.toList.Perm d₂.edges.toList) :
    t.aggregate d₁ c = t.aggregate d₂ c := by
  have haff : d₁.afferent = d₂.afferent :=
    funext fun s => funext (DependencyGraph.afferent_eq_of_perm hp s)
  have heff : d₁.efferent = d₂.efferent :=
    funext fun s => funext (DependencyGraph.efferent_eq_of_perm hp s)
  have hweight : d₁.internalWeight = d₂.internalWeight :=
    funext fun s => funext (DependencyGraph.internalWeight_eq_of_perm hp s)
  have hcycles : d₁.cycles = d₂.cycles :=
    funext fun s => funext (hd₁.cycles_eq_of_perm hp hd₂ s)
  unfold aggregate setCoupling rollupPackage
  rw [haff, heff, hweight, hcycles]

end SourceTree

namespace StructuralGraph

theorem classDependencies_congr_containers (g : StructuralGraph) {t t' : SourceTree}
    (h : ∀ k, t'.containers? k = t.containers? k) (cls : Nat) :
    g.classDependencies t' cls = g.classDependencies t cls := by
  simp only [classDependencies, h]

namespace Renumbering

variable {σ : Nat → Nat} {g g' : StructuralGraph}

/-- A renumbered class records the dependencies the class records, in some order: its edges
are the renumbered ones, each to the renumbered owner, of the same key, usage and weight. -/
theorem classDependencies_perm (h : g.Renumbering σ g') (hg : g.WellFormed)
    (hg' : g'.WellFormed) (t : SourceTree) {cls : Nat} (hcls : cls < g.size) :
    (g'.classDependencies t (σ cls)).Perm (g.classDependencies t cls) := by
  unfold classDependencies
  rw [h.key_eq hcls]
  cases hc : g.classNode? cls with
  | none => rw [h.classNode?_eq_none hcls hc]
  | some node =>
    obtain ⟨node', hc', hr⟩ := h.classNode? hc
    rw [hc']
    cases t.containers? (g.key cls) with
    | none => exact List.Perm.refl _
    | some source =>
      dsimp only
      refine ((h.classEdges_perm hg hg' hc hr).flatMap_right _).trans
        (List.Perm.of_eq ?_)
      rw [List.flatMap_map]
      refine List.flatMap_congr fun l hl => ?_
      have ht : l.target < g.size := by
        obtain ⟨x, -, hx⟩ := List.mem_flatMap.mp hl
        exact hg.target_lt_of_mem_edgesFrom hx
      have ho := hg.ownerClass_lt ht
      have hinj : σ (g.ownerClass l.target) = σ cls ↔ g.ownerClass l.target = cls :=
        ⟨h.injective _ ho _ hcls, congrArg σ⟩
      simp only [Link.renumber, h.ownerClass_eq ht, h.key_eq ho, hinj]
      rfl

theorem measureClass_fst_eq (h : g.Renumbering σ g') (hg : g.WellFormed) (hg' : g'.WellFormed)
    (hs : SubclassesRenumbered σ g g') (c : EngineConfig) {cls : Nat} (hcls : cls < g.size)
    (t : SourceTree) (d d' : DependencyGraph) :
    (measureClass g' c (t, d') (σ cls)).1 = (measureClass g c (t, d) cls).1 := by
  rw [measureClass_fst, measureClass_fst, h.key_eq hcls]
  cases hc : g.classNode? cls with
  | none => rw [h.classNode?_eq_none hcls hc]
  | some node =>
    obtain ⟨node', hc', hr⟩ := h.classNode? hc
    rw [hc']
    cases t.find? .cls (g.key cls) with
    | none => rfl
    | some id =>
      dsimp only
      rw [h.classMeasures_eq c hg hg' hs hc hr]

end Renumbering

end StructuralGraph

namespace SourceTree

variable {n : Nat} {t₁ t₂ : SourceTree}

theorem AlikeFrom.containers?_eq (h : AlikeFrom n t₁ t₂) (hm₁ : t₁.MethodsFrom n)
    (hm₂ : t₂.MethodsFrom n) (k : String) : t₂.containers? k = t₁.containers? k := by
  rw [← hm₂.containers?_eraseKeysFrom, ← h.erased, hm₁.containers?_eraseKeysFrom]

theorem AlikeFrom.of_sameShape {u₁ u₂ : SourceTree} (h : AlikeFrom n t₁ t₂)
    (h₁ : u₁.SameShape t₁) (h₂ : u₂.SameShape t₂) (hE : u₁.eraseKeysFrom n = u₂.eraseKeysFrom n) :
    AlikeFrom n u₁ u₂ :=
  ⟨hE, fun k => by rw [h₁.find?_eq, h₂.find?_eq]; exact h.methods k, h₁.size_eq ▸ h.le_size⟩

theorem AlikeFrom.aggregate (h : AlikeFrom n t₁ t₂) (hm₁ : t₁.MethodsFrom n)
    (hm₂ : t₂.MethodsFrom n) {d₁ d₂ : DependencyGraph} (hd₁ : d₁.WellFormed) (hd₂ : d₂.WellFormed)
    (hp : d₁.edges.toList.Perm d₂.edges.toList) (c : EngineConfig) :
    AlikeFrom n (t₁.aggregate d₁ c) (t₂.aggregate d₂ c) := by
  refine h.of_sameShape (aggregate_sameShape t₁ d₁ c) (aggregate_sameShape t₂ d₂ c) ?_
  rw [← hm₁.aggregate_eraseKeysFrom, ← hm₂.aggregate_eraseKeysFrom, h.erased,
    aggregate_eq_of_perm _ c hd₁ hd₂ hp]

section Run

variable {σ : Nat → Nat} {g g' : StructuralGraph} (h : g.Renumbering σ g') (hg : g.WellFormed)
  (hg' : g'.WellFormed) (c : EngineConfig) (ht : AlikeFrom n t₁ t₂) (hm₁ : t₁.MethodsFrom n)
  (hm₂ : t₂.MethodsFrom n) {V : List Nat} (hV : ∀ cls ∈ V, cls < g.size)
include h hg hg' ht hm₁ hm₂ hV

theorem AlikeFrom.foldl_measureClass (hs : StructuralGraph.SubclassesRenumbered σ g g') :
    AlikeFrom n (V.foldl (measureClass g c) (t₁, {})).1
      ((V.map σ).foldl (measureClass g' c) (t₂, {})).1 := by
  have hu₁ := (writes_foldl_measureClass g c t₁ {} (l := V)).shape
  have hu₂ := (writes_foldl_measureClass g' c t₂ {} (l := V.map σ)).shape
  refine ht.of_sameShape hu₁ hu₂ ?_
  have hE₁ := congrArg Prod.fst (hm₁.foldl_measureClass_eraseKeysFrom g c V {})
  have hE₂ := congrArg Prod.fst (hm₂.foldl_measureClass_eraseKeysFrom g' c (V.map σ) {})
  dsimp only at hE₁ hE₂
  rw [← hE₁, ← hE₂, foldl_measureClass_fst, foldl_measureClass_fst, List.foldl_map, ht.erased]
  exact List.foldl_ext _ _ _ fun u cls hcls =>
    (h.measureClass_fst_eq hg hg' hs c (hV cls hcls) u {} {}).symm

theorem AlikeFrom.foldl_measureClass_edges_perm :
    (V.foldl (measureClass g c) (t₁, {})).2.edges.toList.Perm
      ((V.map σ).foldl (measureClass g' c) (t₂, {})).2.edges.toList := by
  obtain ⟨u₁, -, hrun₁⟩ := ClassMetrics.foldl_measureClass g c V t₁ {}
  obtain ⟨u₂, -, hrun₂⟩ := ClassMetrics.foldl_measureClass g' c (V.map σ) t₂ {}
  rw [hrun₁, hrun₂]
  refine DependencyGraph.edges_foldl_record_perm ?_
  rw [List.flatMap_map]
  refine List.Perm.flatMap_left V fun cls hcls => ?_
  -- the containers of keys are the same in both trees
  rw [← g.classDependencies_congr_containers (ht.containers?_eq hm₁ hm₂) cls]
  exact (h.classDependencies_perm hg hg' t₂ (hV cls hcls)).symm

end Run

end SourceTree

end ClassMetrics
