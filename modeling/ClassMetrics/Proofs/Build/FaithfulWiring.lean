import ClassMetrics.Proofs.Build.FaithfulLoads

/-!
The wiring pass keeps the graph of a build faithful to its source. Each place of an analysed file
loads the class it names at the structure level, which adds no member that is not declared; a
member reference whose owner's hierarchy declares nothing of its name makes a member that is not
declared, for that place; and recording a use leaves the nodes. So every member not declared in
the graph a build leaves was made for a place of an analysed file, and its owner's hierarchy
declares nothing of its name.
-/

namespace ClassMetrics

open ClassFile StructuralGraph Load Loader

namespace StructuralGraph

variable {S : ClassSource} {A : String → Bool} {U : Nat → Site → Prop} {P : Nat → Prop}
  {g g' : StructuralGraph}

theorem Faithful.below (h : g.Faithful S A U P) :
    g.Faithful S A (fun j σ => U j σ ∧ j < g.size) P := by
  refine ⟨h.classes, h.methods, h.fields, fun j m hm hd => ?_, fun j f hf hd => ?_⟩
  · obtain ⟨r, s, hr, hm'⟩ := h.usedMethods j m hm hd
    exact ⟨r, s, ⟨hr, lt_size_of_resource? (methodNode?_eq_some.mp hm)⟩, hm'⟩
  · obtain ⟨r, s, hr, hf'⟩ := h.usedFields j f hf hd
    exact ⟨r, s, ⟨hr, lt_size_of_resource? (fieldNode?_eq_some.mp hf)⟩, hf'⟩

/-- Every member that is not declared is one that its owner's hierarchy does not declare. -/
structure Unfound (g : StructuralGraph) : Prop where
  methods : ∀ j m, g.methodNode? j = some m → m.declared = false →
    g.findMethod m.owner m.name m.descriptor = none
  fields : ∀ j f, g.fieldNode? j = some f → f.declared = false → g.findField f.owner f.name = none

theorem Faithful.unfound (h : g.Faithful S A (fun _ _ => False) P) : g.Unfound :=
  ⟨fun j m hm hd => absurd (h.usedMethods j m hm hd) fun ⟨_, _, hU, _⟩ => hU,
    fun j f hf hd => absurd (h.usedFields j f hf hd) fun ⟨_, _, hU, _⟩ => hU⟩

/-- Grown frozen over `g`, a graph keeps the failing lookups of `g`'s members not declared; its
new members not declared must fail theirs. -/
theorem Unfound.frozen (h : g.Unfound) (hfr : FrozenBelow g.size g g') (hg : g.WellFormed)
    (hg' : g'.WellFormed)
    (hm : ∀ j m, g.size ≤ j → g'.methodNode? j = some m → m.declared = false →
      g'.findMethod m.owner m.name m.descriptor = none)
    (hf : ∀ j f, g.size ≤ j → g'.fieldNode? j = some f → f.declared = false →
      g'.findField f.owner f.name = none) : g'.Unfound := by
  constructor
  · intro j m' hm' hd
    by_cases hj : j < g.size
    · -- an old member keeps its owner and name, is still not declared, and its lookup is frozen
      obtain ⟨m, hm⟩ : ∃ m, g.methodNode? j = some m := by
        have hown := hfr.grows.methodNode?_owner hj
        rw [hm'] at hown
        obtain ⟨m, hm, -⟩ := Option.map_eq_some_iff.mp hown.symm
        exact ⟨m, hm⟩
      obtain ⟨m'', hm'', -, hown, hname, hdesc⟩ := hfr.grows.methodNode j m hm
      rw [hm'] at hm''
      cases hm''
      have hlt : m.owner < g.size := (hg.method_key j m hm).1
      have hd₀ : m.declared = false := (hfr.method_declared j m m' hlt hm hm').symm.trans hd
      rw [hown, hname, hdesc, hfr.findMethod_eq hg hg' hlt]
      exact h.methods j m hm hd₀
    · exact hm j m' (Nat.le_of_not_lt hj) hm' hd
  · intro j f' hf' hd
    by_cases hj : j < g.size
    · obtain ⟨f, hf₀⟩ : ∃ f, g.fieldNode? j = some f := by
        have hown := hfr.grows.fieldNode?_owner hj
        rw [hf'] at hown
        obtain ⟨f, hf₀, -⟩ := Option.map_eq_some_iff.mp hown.symm
        exact ⟨f, hf₀⟩
      obtain ⟨f'', hf'', -, hown, hname⟩ := hfr.grows.fieldNode j f hf₀
      rw [hf'] at hf''
      cases hf''
      have hlt : f.owner < g.size := (hg.field_key j f hf₀).1
      have hd₀ : f.declared = false := (hfr.field_declared j f f' hlt hf₀ hf').symm.trans hd
      rw [hown, hname, hfr.findField_eq hg hg' hlt]
      exact h.fields j f hf₀ hd₀
    · exact hf j f' (Nat.le_of_not_lt hj) hf' hd

theorem Unfound.of_nodes_eq (h : g.Unfound) (hn : g'.nodes = g.nodes) (hg : g.WellFormed)
    (hg' : g'.WellFormed) : g'.Unfound := by
  have hsize : g'.size = g.size := by unfold size; rw [hn]
  refine h.frozen (FrozenBelow.of_nodes_eq hn) hg hg' (fun j m hj hm _ => ?_) fun j f hj hf _ => ?_
  · exact absurd (lt_size_of_resource? (methodNode?_eq_some.mp hm)) (by omega)
  · exact absurd (lt_size_of_resource? (fieldNode?_eq_some.mp hf)) (by omega)

theorem Faithful.of_nodes_eq (h : g.Faithful S A U P) (hn : g'.nodes = g.nodes)
    (hg : g.WellFormed) : g'.Faithful S A U P := by
  have hsize : g'.size = g.size := by unfold size; rw [hn]
  refine h.extend hg (KeepsNodes.of_nodes_eq hn) (fun _ _ hp => hp) (fun j c hj hc => ?_)
    (fun j m hj hm => ?_) fun j f hj hf => ?_
  · exact absurd (lt_size_of_resource? (classNode?_eq_some.mp hc)) (by omega)
  · exact absurd (lt_size_of_resource? (methodNode?_eq_some.mp hm)) (by omega)
  · exact absurd (lt_size_of_resource? (fieldNode?_eq_some.mp hf)) (by omega)

end StructuralGraph

/-! ### The wiring invariant -/

namespace Loader

/-- What the wiring of a build keeps of a loader over the source `S`, with the classes to analyse
`A` and fuel `k`: sound with fuel for the texts left, its graph faithful with each member not
declared made for a place of an analysed file, and each such member declared nowhere in its
owner's hierarchy. -/
structure Wiring (S : ClassSource) (A : String → Bool) (k : Nat) (p : Loader) : Prop where
  source : p.source = S
  analyzable : p.isAnalyzable = A
  sound : p.Sound
  fuel : p.unloaded + 1 < k
  faithful : p.graph.Faithful S A (fun _ σ => S.AnalysedSite A σ) fun _ => False
  unfound : p.graph.Unfound

variable {S : ClassSource} {A : String → Bool} {k : Nat} {p : Loader}

theorem Wiring.addEdge (hw : p.Wiring S A k) (hp : p.Valid) {s t : Nat} (hs : s < p.graph.size)
    (ht : t < p.graph.size) (u : Usage) :
    ({ p with graph := (p.graph.addEdge s t u).1 } : Loader).Wiring S A k :=
  ⟨hw.source, hw.analyzable, hw.sound.addEdge s t u,
    (later_withGraph hp (hp.graph.addEdge hs ht u) (extends_addEdge _ _ _)).unloaded_succ_lt hw.fuel,
    hw.faithful.of_nodes_eq (nodes_addEdge _ _ _) hp.graph,
    hw.unfound.of_nodes_eq (nodes_addEdge _ _ _) hp.graph (hp.graph.addEdge hs ht u)⟩

theorem Wiring.takeFile (hw : p.Wiring S A k) (i : Nat) : (p.takeFile i).2.Wiring S A k :=
  ⟨hw.source, hw.analyzable, ⟨hw.sound.prefetched, hw.sound.graph⟩, hw.fuel, hw.faithful,
    hw.unfound⟩

end Loader

section Wiring

variable {S : ClassSource} {A : String → Bool} {k : Nat} {p : Loader}

/-- A load at the structure level, of a class the build loads, keeps the wiring invariant: it adds
no member that is not declared, and grows the graph frozen over what it was. -/
theorem run_getClass_wiring (hK : S.Keyable A) (hp : p.Valid) (hw : p.Wiring S A k) {name : String}
    (hn : S.Loads A name) :
    (getClass k name .structureOnly).Run p fun t p' => p'.Wiring S A k ∧ LoadsAbove name p t p' := by
  have hF : p.graph.Faithful p.source p.isAnalyzable
      (fun j σ => S.AnalysedSite A σ ∧ j < p.graph.size) fun _ => False := by
    rw [hw.source, hw.analyzable]
    exact hw.faithful.below
  have hK' : p.source.Keyable p.isAnalyzable := by rw [hw.source, hw.analyzable]; exact hK
  have hn' : p.source.Loads p.isAnalyzable name := by rw [hw.source, hw.analyzable]; exact hn
  refine ((run_getClass_faithful k name .structureOnly p _ hp hw.sound hK'
    (fuelFor_of_succ_lt hw.fuel name) hn' nofun hF).and (run_getClass_structure k name p hp)).mono
    fun t p' hl ⟨⟨hs', hF'⟩, hloads⟩ => ⟨?_, hloads⟩
  have hsrc : p'.source = S := hl.source_eq.trans hw.source
  have hA : p'.isAnalyzable = A := hl.isAnalyzable_eq.trans hw.analyzable
  rw [hsrc, hA] at hF'
  -- what the load adds is declared, so the old members' lookups are all that may fail
  have hnew : ∀ j, p.graph.size ≤ j → ∀ σ, ¬ (S.AnalysedSite A σ ∧ j < p.graph.size) :=
    fun j hj σ h => absurd h.2 (Nat.not_lt_of_le hj)
  have hfr := hloads.2.2.frozen (hF'.classKeysPlain hK.plain)
  refine ⟨hsrc, hA, hs', hl.unloaded_succ_lt hw.fuel, hF'.mono (fun _ _ h => h.1) fun _ h => h,
    hw.unfound.frozen hfr hp.graph hl.valid.graph (fun j m hj hm hd => ?_) fun j f hj hf hd => ?_⟩
  · obtain ⟨r, s, hU, -⟩ := hF'.usedMethods j m hm hd
    exact absurd hU (hnew j hj _)
  · obtain ⟨r, s, hU, -⟩ := hF'.usedFields j f hf hd
    exact absurd hU (hnew j hj _)

/-- Resolving a method reference of an analysed file keeps the wiring invariant: a method made
on demand is made for that place, after its owner's hierarchy was found not to declare it. -/
theorem run_resolveMethod_wiring (hK : S.Keyable A) (hp : p.Valid) (hw : p.Wiring S A k)
    {r : MemberRef} {isStatic : Bool} (hsite : S.AnalysedSite A (.method r isStatic)) :
    (resolveMethod k r isStatic).Run p fun _ p' => p'.Wiring S A k := by
  unfold resolveMethod
  refine Run.bind (run_getClass_wiring hK hp hw (ClassSource.Loads.named hsite))
    fun o p₁ h₁ hpost => ?_
  obtain ⟨hw₁, ho, -, -⟩ := hpost
  refine Run.get_bind ?_
  split
  · exact Run.pure h₁.valid hw₁
  · rename_i hnone
    refine (run_addResource h₁.valid ?hadm).mono fun _ p₂ h₂ hadd => ?_
    case hadm => exact ⟨ho.1, by rw [ho.2]⟩
    obtain ⟨-, -, hp₂, -⟩ := hadd
    subst hp₂
    -- the method made on demand is not declared, so the lookups are as they were
    have hfr : FrozenBelow p₁.graph.size p₁.graph
        (p₁.graph.addResource (.method (r.usedMethod o isStatic))).1 :=
      FrozenBelow.addResource (fun _ h _ => by cases h; rfl) (fun _ h => by cases h)
    have hcls : ∀ c, Resource.method (r.usedMethod o isStatic) ≠ .cls c := fun _ h => by cases h
    refine ⟨hw₁.source, hw₁.analyzable,
      hw₁.sound.withGraph (hw₁.sound.graph.addResource_settled (fun h => by cases h) fun _ h => by cases h),
      h₂.unloaded_succ_lt hw₁.fuel, hw₁.faithful.addUsedMethod h₁.valid.graph hsite o,
      hw₁.unfound.frozen hfr h₁.valid.graph h₂.valid.graph (fun j m hj hm _ => ?_)
        fun j f hj hf _ => ?_⟩
    · -- the new node is the method made, on the owner whose lookup failed
      cases eq_of_resource?_addResource hcls hj (methodNode?_eq_some.mp hm)
      exact (hfr.findMethod_eq h₁.valid.graph h₂.valid.graph ho.1 _ _).trans hnone
    · cases eq_of_resource?_addResource hcls hj (fieldNode?_eq_some.mp hf)

/-- Resolving a field reference of an analysed file keeps the wiring invariant. -/
theorem run_resolveField_wiring (hK : S.Keyable A) (hp : p.Valid) (hw : p.Wiring S A k)
    {r : MemberRef} {isStatic : Bool} (hsite : S.AnalysedSite A (.field r isStatic)) :
    (resolveField k r isStatic).Run p fun _ p' => p'.Wiring S A k := by
  unfold resolveField
  refine Run.bind (run_getClass_wiring hK hp hw (ClassSource.Loads.named hsite))
    fun o p₁ h₁ hpost => ?_
  obtain ⟨hw₁, ho, -, -⟩ := hpost
  refine Run.get_bind ?_
  split
  · exact Run.pure h₁.valid hw₁
  · rename_i hnone
    refine (run_addResource h₁.valid ?hadm).mono fun _ p₂ h₂ hadd => ?_
    case hadm => exact ⟨ho.1, by rw [ho.2]⟩
    obtain ⟨-, -, hp₂, -⟩ := hadd
    subst hp₂
    have hfr : FrozenBelow p₁.graph.size p₁.graph
        (p₁.graph.addResource (.field (r.usedField o isStatic))).1 :=
      FrozenBelow.addResource (fun _ h => by cases h) (fun _ h _ => by cases h; rfl)
    have hcls : ∀ c, Resource.field (r.usedField o isStatic) ≠ .cls c := fun _ h => by cases h
    refine ⟨hw₁.source, hw₁.analyzable,
      hw₁.sound.withGraph (hw₁.sound.graph.addResource_settled trivial fun _ h => by cases h),
      h₂.unloaded_succ_lt hw₁.fuel, hw₁.faithful.addUsedField h₁.valid.graph hsite o,
      hw₁.unfound.frozen hfr h₁.valid.graph h₂.valid.graph (fun j m hj hm _ => ?_)
        fun j f hj hf _ => ?_⟩
    · cases eq_of_resource?_addResource hcls hj (methodNode?_eq_some.mp hm)
    · cases eq_of_resource?_addResource hcls hj (fieldNode?_eq_some.mp hf)
      exact (hfr.findField_eq h₁.valid.graph h₂.valid.graph ho.1 _).trans hnone

theorem run_resolve_wiring (hK : S.Keyable A) (hp : p.Valid) (hw : p.Wiring S A k) {σ : Site}
    (hσ : S.AnalysedSite A σ) : (σ.resolve k).Run p fun _ p' => p'.Wiring S A k := by
  cases σ with
  | type n =>
    exact (run_getClass_wiring hK hp hw (ClassSource.Loads.named hσ)).mono fun _ _ _ h => h.1
  | method r isStatic => exact run_resolveMethod_wiring hK hp hw hσ
  | field r isStatic => exact run_resolveField_wiring hK hp hw hσ

/-- The load pass over classes to analyse keeps the graph faithful and makes no member that is
not declared, so it ends in the wiring invariant. -/
theorem run_loadPass_wiring (hK : S.Keyable A) (hp : p.Valid) (hs : p.Sound) (hsrc : p.source = S)
    (hA : p.isAnalyzable = A) (hk : p.unloaded + 1 < k)
    (hF : p.graph.Faithful S A (fun _ _ => False) fun _ => False) (names : List String)
    (hnames : ∀ n ∈ names, A n = true) :
    (Build.loadPass k names).Run p fun _ p' => p'.Wiring S A k := by
  refine (Run.mapM (Q := fun _ _ _ => True) (I := fun q => q.Sound ∧ q.source = S ∧
    q.isAnalyzable = A ∧ q.unloaded + 1 < k ∧ q.graph.Faithful S A (fun _ _ => False) fun _ => False)
    (fun _ _ _ _ h _ => h) names (fun n hn q hq ⟨hsq, hsrcq, hAq, hkq, hFq⟩ => ?_) p hp
    ⟨hs, hsrc, hA, hk, hF⟩).mono fun _ _ _ ⟨_, hsq, hsrcq, hAq, hkq, hFq⟩ =>
      ⟨hsrcq, hAq, hsq, hkq, hFq.mono (fun _ _ h => h.elim) fun _ h => h, hFq.unfound⟩
  have hK' : q.source.Keyable q.isAnalyzable := by rw [hsrcq, hAq]; exact hK
  have hn : q.isAnalyzable n = true := by rw [hAq]; exact hnames n hn
  have hFq' : q.graph.Faithful q.source q.isAnalyzable (fun _ _ => False) fun _ => False := by
    rw [hsrcq, hAq]
    exact hFq
  refine (run_getClass_faithful k n .structureAndCalls q _ hq hsq hK' (fuelFor_of_succ_lt hkq n)
    (.analysed hn) (fun _ => ⟨hn, fun _ h => h⟩) hFq').mono fun _ q' hl ⟨hs', hF'⟩ =>
      ⟨trivial, hs', hl.source_eq.trans hsrcq, hl.isAnalyzable_eq.trans hAq,
        hl.unloaded_succ_lt hkq, ?_⟩
  rw [hl.source_eq, hl.isAnalyzable_eq, hsrcq, hAq] at hF'
  exact hF'

end Wiring

end ClassMetrics
