import ClassMetrics.Proofs.Build.FaithfulWiring

/-!
The usage each edge of a build records. A place records a use; the wiring of a class records an
extension to its superclass and, to each of its interfaces, an extension from an interface or an
implementation from a class. An edge recorded more than once keeps the strongest of its usages.
So usages only rise, none rises above what its source allows, and once a class is wired its
edges reach what its supertypes ask for: the usage of an edge from a class is what the class
makes of its target, and a use from any other node.
-/

namespace ClassMetrics

open ClassFile StructuralGraph Load Loader

namespace Usage

theorem rank_le_extends (u : Usage) : u.rank ≤ Usage.extends.rank := by
  cases u <;> decide

end Usage

/-- The usage of a class's edges to its interfaces: an interface extends them, a class
implements them. -/
def interfaceUsage (access : Nat) : Usage :=
  if Access.has access Access.interface then .extends else .implements

/-- The usage of an edge from class `c` to node `t`: an extension to its superclass, the usage
of its interfaces to one of them, a use to any other node. -/
def ClassNode.usageTo (c : ClassNode) (t : Nat) : Usage :=
  if c.superClass = some t then .extends
  else if t ∈ c.interfaces then interfaceUsage c.access else .uses

theorem ClassNode.usageTo_congr {c c' : ClassNode} (hs : c'.superClass = c.superClass)
    (hi : c'.interfaces = c.interfaces) (ha : c'.access = c.access) : c'.usageTo = c.usageTo := by
  funext t
  simp only [ClassNode.usageTo, hs, hi, ha]

namespace StructuralGraph

variable {g g' g'' : StructuralGraph}

/-- The usage of the edge from `s` to `t` in a build: what the class at `s` makes of `t`, and a
use from any other node. -/
def usageOf (g : StructuralGraph) (s t : Nat) : Usage :=
  match g.classNode? s with
  | some c => c.usageTo t
  | none => .uses

/-! ### The links of a recorded edge -/

theorem classNode?_addEdge (s t : Nat) (u : Usage) (j : Nat) :
    (g.addEdge s t u).1.classNode? j = g.classNode? j := by
  simp [classNode?, resource?]

/-- After an edge is recorded, each link was there before or is the link of the edge's pair: new
with the usage recorded, or an old link of the pair merged with it. -/
theorem mem_links_addEdge {s t : Nat} {u : Usage} {l' : Link}
    (h : l' ∈ (g.addEdge s t u).1.links.toList) : l' ∈ g.links.toList ∨
      l'.source = s ∧ l'.target = t ∧ (l'.usage = u ∨
        ∃ l ∈ g.links.toList, l.source = s ∧ l.target = t ∧ l'.usage = l.usage.strongest u) := by
  unfold addEdge at h
  split at h
  · exact .inl h
  split at h
  · rename_i j hj
    obtain ⟨hjlt, hjp, -⟩ := Array.findIdx?_eq_some_iff_getElem.mp hj
    simp only [Bool.and_eq_true, beq_iff_eq] at hjp
    dsimp only at h
    rw [Array.toList_modify] at h
    obtain ⟨k, hk, rfl⟩ := List.getElem_of_mem h
    rw [List.getElem_modify]
    by_cases hkj : j = k
    · -- the pair's link, merged
      subst hkj
      rw [if_pos rfl]
      refine .inr ⟨?_, ?_, .inr ⟨_, List.getElem_mem (by simpa using hk), ?_, ?_, rfl⟩⟩
      · simpa [Array.getElem_toList] using hjp.1
      · simpa [Array.getElem_toList] using hjp.2
      · simpa [Array.getElem_toList] using hjp.1
      · simpa [Array.getElem_toList] using hjp.2
    · rw [if_neg hkj]
      exact .inl (List.getElem_mem _)
  · dsimp only at h
    rw [Array.toList_push, List.mem_append, List.mem_singleton] at h
    rcases h with h | rfl
    · exact .inl h
    · exact .inr ⟨rfl, rfl, .inl rfl⟩

/-- Recording an edge keeps every link, between the same ends, with a usage as strong. -/
theorem exists_link_addEdge_of_mem {s t : Nat} (u : Usage) {l : Link} (hl : l ∈ g.links.toList) :
    ∃ l' ∈ (g.addEdge s t u).1.links.toList, l'.source = l.source ∧ l'.target = l.target ∧
      l.usage.rank ≤ l'.usage.rank := by
  unfold addEdge
  split
  · exact ⟨l, hl, rfl, rfl, Nat.le_refl _⟩
  split
  · rename_i j _
    dsimp only
    rw [Array.toList_modify]
    obtain ⟨k, hk, rfl⟩ := List.getElem_of_mem hl
    refine ⟨_, List.getElem_mem (by simpa using hk), ?_⟩
    rw [List.getElem_modify]
    by_cases hkj : j = k
    · subst hkj
      rw [if_pos rfl]
      exact ⟨rfl, rfl, by rw [Usage.rank_strongest]; omega⟩
    · rw [if_neg hkj]
      exact ⟨rfl, rfl, Nat.le_refl _⟩
  · exact ⟨l, by simp [hl], rfl, rfl, Nat.le_refl _⟩

theorem exists_link_addEdge {s t : Nat} (u : Usage) (hadm : g.Admits s t) :
    ∃ l' ∈ (g.addEdge s t u).1.links.toList, l'.source = s ∧ l'.target = t ∧
      u.rank ≤ l'.usage.rank := by
  unfold addEdge
  rw [if_neg fun h => h.elim hadm.1 hadm.2]
  split
  · rename_i j hj
    obtain ⟨hjlt, hjp, -⟩ := Array.findIdx?_eq_some_iff_getElem.mp hj
    simp only [Bool.and_eq_true, beq_iff_eq] at hjp
    dsimp only
    rw [Array.toList_modify]
    refine ⟨_, List.getElem_mem (by simpa using hjlt), ?_⟩
    rw [List.getElem_modify, if_pos rfl]
    refine ⟨by simpa [Array.getElem_toList] using hjp.1, by simpa [Array.getElem_toList] using hjp.2,
      ?_⟩
    rw [Usage.rank_strongest]
    omega
  · exact ⟨⟨s, t, u, 1⟩, by simp, rfl, rfl, Nat.le_refl _⟩

/-! ### Usages bounded by their sources -/

/-- No edge of `g` records more than its source allows: an edge records a use, or leaves a class
read with bodies and records at most what the class makes of its target. -/
def UsagesBounded (g : StructuralGraph) : Prop :=
  ∀ l ∈ g.links.toList, l.usage = .uses ∨ ∃ c, g.classNode? l.source = some c ∧
    c.level = some .structureAndCalls ∧ l.usage.rank ≤ (c.usageTo l.target).rank

theorem UsagesBounded.addEdge (h : g.UsagesBounded) {s t : Nat} {u : Usage}
    (hu : u = .uses ∨ ∃ c, g.classNode? s = some c ∧ c.level = some .structureAndCalls ∧
      u.rank ≤ (c.usageTo t).rank) : (g.addEdge s t u).1.UsagesBounded := by
  intro l' hl'
  simp only [classNode?_addEdge]
  rcases mem_links_addEdge hl' with hold | ⟨hs, ht, hnew | ⟨l, hl, hls, hlt, hmerge⟩⟩
  · exact h l' hold
  · rw [hs, ht, hnew]
    exact hu
  · rw [hs, ht, hmerge]
    unfold Usage.strongest
    split
    · exact hu
    · rw [← hls, ← hlt]
      exact h l hl

section Frozen

variable {S : ClassSource} {A : String → Bool} {U U' : Nat → Site → Prop} {P P' : Nat → Prop}

/-- In a graph grown frozen over `g`, both faithful to one source, a class read with bodies
stays so, with its supertypes and the access of its file: what it makes of each node stays. -/
theorem FrozenBelow.usageTo_eq (hfr : FrozenBelow g.size g g') (hF : g.Faithful S A U P)
    (hF' : g'.Faithful S A U' P') {i : Nat} {c : ClassNode} (hc : g.classNode? i = some c)
    (hlev : c.level = some .structureAndCalls) :
    ∃ c', g'.classNode? i = some c' ∧ c'.level = some .structureAndCalls ∧
      c'.access = c.access ∧ c'.usageTo = c.usageTo := by
  obtain ⟨c', hc', hkey, hrise⟩ := hfr.grows.classNode _ c hc
  obtain ⟨c'', hc'', hsup, hint⟩ :=
    hfr.supertypes _ c (lt_size_of_resource? (classNode?_eq_some.mp hc)) hc
  rw [hc'] at hc''
  cases hc''
  have hlev' : c'.level = some .structureAndCalls := by
    rw [hlev] at hrise
    exact LevelRises.eq_structureAndCalls hrise
  -- the class's access is that of its file with bodies, in both graphs
  obtain ⟨F, hF₁, hacc, -⟩ := (hF.classes _ c hc).2.2 _ hlev
  obtain ⟨F', hF₁', hacc', -⟩ := (hF'.classes _ c' hc').2.2 _ hlev'
  rw [hkey] at hF₁'
  have hfile : F' = F := hF₁.unique hF₁'
  have haccess : c'.access = c.access := by rw [hacc', hacc, hfile]
  exact ⟨c', hc', hlev', haccess, ClassNode.usageTo_congr hsup hint haccess⟩

theorem UsagesBounded.grow (h : g.UsagesBounded) (hF : g.Faithful S A U P)
    (hF' : g'.Faithful S A U' P') (hfr : FrozenBelow g.size g g') (hl : g'.links = g.links) :
    g'.UsagesBounded := by
  intro l hl'
  rw [hl] at hl'
  rcases h l hl' with huses | ⟨c, hc, hlev, hrank⟩
  · exact .inl huses
  obtain ⟨c', hc', hlev', -, husage⟩ := hfr.usageTo_eq hF hF' hc hlev
  refine .inr ⟨c', hc', hlev', ?_⟩
  rw [husage]
  exact hrank

end Frozen

/-! ### Usages that rise -/

/-- Every link of `g` has one in `g'` between the same ends, with a usage as strong. -/
def UsagesRise (g g' : StructuralGraph) : Prop :=
  ∀ l ∈ g.links.toList, ∃ l' ∈ g'.links.toList, l'.source = l.source ∧ l'.target = l.target ∧
    l.usage.rank ≤ l'.usage.rank

theorem UsagesRise.refl (g : StructuralGraph) : UsagesRise g g :=
  fun l hl => ⟨l, hl, rfl, rfl, Nat.le_refl _⟩

theorem UsagesRise.trans (h₁ : UsagesRise g g') (h₂ : UsagesRise g' g'') : UsagesRise g g'' := by
  intro l hl
  obtain ⟨l', hl', hs', ht', hrank'⟩ := h₁ l hl
  obtain ⟨l'', hl'', hs'', ht'', hrank''⟩ := h₂ l' hl'
  exact ⟨l'', hl'', hs''.trans hs', ht''.trans ht', Nat.le_trans hrank' hrank''⟩

theorem UsagesRise.of_links_eq (h : UsagesRise g g') (hl : g''.links = g'.links) :
    UsagesRise g g'' := by
  unfold UsagesRise
  rw [hl]
  exact h

theorem UsagesRise.addEdge (h : UsagesRise g g') (s t : Nat) (u : Usage) :
    UsagesRise g (g'.addEdge s t u).1 := by
  intro l hl
  obtain ⟨l', hl', hs, ht, hrank⟩ := h l hl
  obtain ⟨l'', hl'', hs', ht', hrank'⟩ := exists_link_addEdge_of_mem u hl'
  exact ⟨l'', hl'', hs'.trans hs, ht'.trans ht, Nat.le_trans hrank hrank'⟩

/-- An edge from `i` to `t` is recorded with a usage at least `u`. -/
def RecordedWith (g : StructuralGraph) (i t : Nat) (u : Usage) : Prop :=
  ∃ l ∈ g.links.toList, l.source = i ∧ l.target = t ∧ u.rank ≤ l.usage.rank

theorem RecordedWith.rise {i t : Nat} {u : Usage} (h : g.RecordedWith i t u)
    (hr : UsagesRise g g') : g'.RecordedWith i t u := by
  obtain ⟨l, hl, hs, ht, hrank⟩ := h
  obtain ⟨l', hl', hs', ht', hrank'⟩ := hr l hl
  exact ⟨l', hl', hs'.trans hs, ht'.trans ht, Nat.le_trans hrank hrank'⟩

/-- The edges from node `i` that the supertypes of its class `c` ask for are recorded, each with
a usage at least what the class makes of its target. -/
def SupertypesRecorded (g : StructuralGraph) (i : Nat) (c : ClassNode) : Prop :=
  ∀ t, c.usageTo t ≠ .uses → g.RecordedWith i t (c.usageTo t)

theorem SupertypesRecorded.rise {i : Nat} {c : ClassNode} (h : g.SupertypesRecorded i c)
    (hr : UsagesRise g g') : g'.SupertypesRecorded i c :=
  fun t ht => (h t ht).rise hr

theorem SupertypesRecorded.of_usageTo_eq {i : Nat} {c c' : ClassNode}
    (h : g.SupertypesRecorded i c) (hu : c'.usageTo = c.usageTo) : g.SupertypesRecorded i c' := by
  unfold SupertypesRecorded
  rw [hu]
  exact h

theorem supertypesRecorded_of {i : Nat} {c : ClassNode}
    (hsup : ∀ s, c.superClass = some s → g.RecordedWith i s .extends)
    (hint : ∀ t ∈ c.interfaces, g.RecordedWith i t (interfaceUsage c.access)) :
    g.SupertypesRecorded i c := by
  intro t ht
  unfold ClassNode.usageTo at ht ⊢
  split
  · rename_i hs
    exact hsup t hs
  · split
    · rename_i ht'
      exact hint t ht'
    · rename_i hs ht'
      rw [if_neg hs, if_neg ht'] at ht
      exact absurd rfl ht

/-- In a well-formed graph with bounded usages, an edge from a class whose supertypes' edges
are recorded has the usage the class makes of its target. -/
theorem usage_eq_usageTo (hg : g.WellFormed) (hb : g.UsagesBounded) {i t : Nat} {c : ClassNode}
    (hc : g.classNode? i = some c) (hrec : g.SupertypesRecorded i c) {l : Link}
    (he : g.edge? i t = some l) : l.usage = c.usageTo t := by
  obtain ⟨hl, hs, ht⟩ := mem_of_edge?_eq_some he
  have hbound : l.usage = .uses ∨ l.usage.rank ≤ (c.usageTo t).rank := by
    rcases hb l hl with huses | ⟨c', hc', -, hrank⟩
    · exact .inl huses
    · rw [hs, hc] at hc'
      cases hc'
      exact .inr (ht ▸ hrank)
  by_cases hu : c.usageTo t = .uses
  · rw [hu]
    rcases hbound with huses | hrank
    · exact huses
    · exact Usage.eq_uses_of_rank_le (hu ▸ hrank)
  · -- the recorded edge is this one, the only edge of its pair
    obtain ⟨l', hl', hs', ht', hrank'⟩ := hrec t hu
    have hl'e : g.edge? i t = some l' := by
      rw [← hs', ← ht']
      exact hg.edge?_of_mem hl'
    rw [he] at hl'e
    cases hl'e
    have hpos : 0 < (c.usageTo t).rank := by
      revert hu
      cases c.usageTo t <;> simp [Usage.rank]
    rcases hbound with huses | hrank
    · rw [huses] at hrank'
      exact absurd hrank' (Nat.not_le_of_lt hpos)
    · exact Usage.eq_of_rank_eq (Nat.le_antisymm hrank hrank')

theorem usage_eq_uses (hb : g.UsagesBounded) {s t : Nat} (hs : g.classNode? s = none) {l : Link}
    (he : g.edge? s t = some l) : l.usage = .uses := by
  obtain ⟨hl, hls, -⟩ := mem_of_edge?_eq_some he
  rcases hb l hl with huses | ⟨c, hc, -⟩
  · exact huses
  · rw [hls, hs] at hc
    cases hc

end StructuralGraph

/-! ### The usages through the wiring -/

namespace Loader

/-- The wiring invariant over the source `S`, with the classes to analyse `A` and fuel `k`, with
the usages bounded by their sources and risen over those of `p₀`. -/
structure UsageWiring (S : ClassSource) (A : String → Bool) (k : Nat) (p₀ p : Loader) : Prop where
  wiring : p.Wiring S A k
  bounded : p.graph.UsagesBounded
  rise : UsagesRise p₀.graph p.graph
  frozen : FrozenBelow p₀.graph.size p₀.graph p.graph

variable {S : ClassSource} {A : String → Bool} {k : Nat} {p p' p'' : Loader}

theorem UsageWiring.refl (hw : p.Wiring S A k) (hb : p.graph.UsagesBounded) :
    UsageWiring S A k p p :=
  ⟨hw, hb, UsagesRise.refl _, FrozenBelow.refl _ _⟩

theorem UsageWiring.trans (h₁ : UsageWiring S A k p p') (h₂ : UsageWiring S A k p' p'') :
    UsageWiring S A k p p'' :=
  ⟨h₂.wiring, h₂.bounded, h₁.rise.trans h₂.rise,
    h₁.frozen.trans (h₂.frozen.mono h₁.frozen.grows.size_le)⟩

theorem UsageWiring.addEdge {p₀ : Loader} (h : UsageWiring S A k p₀ p) (hp : p.Valid) {s t : Nat}
    (hs : s < p.graph.size) (ht : t < p.graph.size) {u : Usage}
    (hu : u = .uses ∨ ∃ c, p.graph.classNode? s = some c ∧ c.level = some .structureAndCalls ∧
      u.rank ≤ (c.usageTo t).rank) :
    UsageWiring S A k p₀ { p with graph := (p.graph.addEdge s t u).1 } :=
  ⟨h.wiring.addEdge hp hs ht u, h.bounded.addEdge hu, h.rise.addEdge _ _ _,
    h.frozen.trans (FrozenBelow.of_nodes_eq (nodes_addEdge _ _ _))⟩

end Loader

section Wiring

variable {S : ClassSource} {A : String → Bool} {k : Nat} {p p₀ : Loader}

theorem run_use_usages (hK : S.Keyable A) {σ : Site} {x : Load Nat} (hx : x.Run p (Resolves σ p))
    (hxw : x.Run p fun _ p' => p'.Wiring S A k) (hI : UsageWiring S A k p₀ p) {src : Nat}
    (hsrc : src < p.graph.size) :
    (x >>= fun t => addUse src t .uses).Run p fun _ p' => UsageWiring S A k p₀ p' := by
  refine Run.bind (hx.and hxw) fun _ p₁ h₁ ⟨⟨hlinks, hgrow, ht, _⟩, hw₁⟩ => ?_
  have hsrc₁ : src < p₁.graph.size := Nat.lt_of_lt_of_le hsrc h₁.graph.size_le
  have hfr : FrozenBelow p.graph.size p.graph p₁.graph :=
    hgrow.frozen (hw₁.faithful.classKeysPlain hK.plain)
  have hb₁ : p₁.graph.UsagesBounded :=
    hI.bounded.grow hI.wiring.faithful hw₁.faithful hfr hlinks
  have hI₁ : UsageWiring S A k p₀ p₁ := ⟨hw₁, hb₁, hI.rise.of_links_eq hlinks,
    hI.frozen.trans (hfr.mono hI.frozen.grows.size_le)⟩
  refine (run_addUse h₁.valid hsrc₁ ht .uses).mono fun _ _ _ hp₂ => ?_
  subst hp₂
  exact hI₁.addEdge h₁.valid hsrc₁ ht (.inl rfl)

theorem sitesKeepOn_usages (hK : S.Keyable A) (p₀ : Loader) :
    SitesKeepOn k (S.AnalysedSite A) (UsageWiring S A k p₀) where
  edge q src σ hσ hq hI hsrc := by
    rw [Site.edge_eq]
    exact run_use_usages hK (run_resolve_resolves hq k σ)
      (run_resolve_wiring hK hq hI.wiring hσ) hI hsrc

theorem run_addUse_supertype (hp : p.Valid) (hI : UsageWiring S A k p₀ p) {i t : Nat}
    {c : ClassNode} (hc : p.graph.classNode? i = some c) (hlev : c.level = some .structureAndCalls)
    (ht : t < p.graph.size) (hti : t ≠ i) {u : Usage} (hu : u.rank ≤ (c.usageTo t).rank) :
    (addUse i t u).Run p fun _ p' => UsageWiring S A k p₀ p' ∧ p'.graph.classNode? i = some c ∧
      UsagesRise p.graph p'.graph ∧ p'.graph.RecordedWith i t u := by
  have hi : i < p.graph.size := lt_size_of_resource? (classNode?_eq_some.mp hc)
  have hadm : p.graph.Admits i t := by
    refine ⟨hti.symm, ?_⟩
    rw [ownerClass_of_resource? (classNode?_eq_some.mp hc)]
    exact hti.symm
  refine (run_addUse hp hi ht u).mono fun _ _ _ hp' => ?_
  subst hp'
  refine ⟨hI.addEdge hp hi ht (.inr ⟨c, hc, hlev, hu⟩), ?_, (UsagesRise.refl _).addEdge _ _ _,
    exists_link_addEdge u hadm⟩
  rw [classNode?_addEdge]
  exact hc

/-- The edges from a class read with bodies to its supertypes, with the usage of its interfaces,
record what the class asks for. -/
theorem run_wireSupertypes_usages (hp : p.Valid) (hI : UsageWiring S A k p₀ p) {i : Nat}
    {c : ClassNode} (hc : p.graph.classNode? i = some c) (hlev : c.level = some .structureAndCalls) :
    (wireSupertypes i (interfaceUsage c.access)).Run p fun _ p' =>
      UsageWiring S A k p₀ p' ∧ p'.graph.SupertypesRecorded i c := by
  unfold wireSupertypes
  refine Run.get_bind ?_
  dsimp only
  have hshape := hp.graph.classShape i c hc
  -- the loop over the interfaces, from a loader where the superclass's edge is recorded
  have hloop : ∀ q : Loader, q.Valid → UsageWiring S A k p₀ q → q.graph.classNode? i = some c →
      p.graph.size ≤ q.graph.size →
      (∀ s, c.superClass = some s → q.graph.RecordedWith i s .extends) →
      ((forIn (((p.graph.classNode? i).map ClassNode.interfaces).getD []) PUnit.unit fun t _ => do
          addUse i t (interfaceUsage c.access)
          pure (ForInStep.yield PUnit.unit)) >>= fun _ => pure ()).Run q fun _ q' =>
        UsageWiring S A k p₀ q' ∧ q'.graph.SupertypesRecorded i c := by
    intro q hq hIq hcq hle hsup
    rw [bind_pure_unit, hc]
    refine (Run.forIn_of_step (I := fun done (q' : Loader) => UsageWiring S A k p₀ q' ∧
      q'.graph.classNode? i = some c ∧ p.graph.size ≤ q'.graph.size ∧
      (∀ s, c.superClass = some s → q'.graph.RecordedWith i s .extends) ∧
      ∀ t ∈ done, q'.graph.RecordedWith i t (interfaceUsage c.access)) ?_ hq
      ⟨hIq, hcq, hle, hsup, fun _ h => absurd h List.not_mem_nil⟩).mono
      fun _ _ _ h => ⟨h.1, supertypesRecorded_of h.2.2.2.1 h.2.2.2.2⟩
    rintro done t rest hmem q' hq' ⟨hIq', hcq', hle', hsup', hint'⟩
    have ht : t ∈ c.interfaces := by
      rw [Option.map_some, Option.getD_some] at hmem
      rw [← hmem]
      exact List.mem_append_right _ (List.mem_cons_self ..)
    obtain ⟨htlt, hti⟩ := hshape.interfaces_lt t ht
    -- the usage of the interfaces is what the class makes of one, unless it is the superclass
    have hu : (interfaceUsage c.access).rank ≤ (c.usageTo t).rank := by
      unfold ClassNode.usageTo
      split
      · exact Usage.rank_le_extends _
      · exact Nat.le_refl _
    refine Run.bind (run_addUse_supertype hq' hIq' hcq' hlev (Nat.lt_of_lt_of_le htlt hle') hti hu)
      fun _ q'' hl hadd => ?_
    obtain ⟨hI'', hc'', hr'', hrec''⟩ := hadd
    refine Run.pure hl.valid ⟨rfl, hI'', hc'', Nat.le_trans hle' hl.graph.size_le,
      fun s hs => (hsup' s hs).rise hr'', fun t' ht' => ?_⟩
    rcases List.mem_append.mp ht' with ht' | ht'
    · exact (hint' t' ht').rise hr''
    · rw [List.mem_singleton.mp ht']
      exact hrec''
  split
  · rename_i s hs
    simp only [hc, Option.bind_some] at hs
    obtain ⟨hslt, hsi⟩ := hshape.superClass_lt s hs
    have hu : Usage.extends.rank ≤ (c.usageTo s).rank := by
      unfold ClassNode.usageTo
      rw [if_pos hs]
    exact Run.bind (run_addUse_supertype hp hI hc hlev hslt hsi hu) fun _ q hl hadd =>
      hloop q hl.valid hadd.1 hadd.2.1 hl.graph.size_le fun s' hs' => by
        rw [hs] at hs'
        cases hs'
        exact hadd.2.2.2
  · rename_i hnone
    simp only [hc, Option.bind_some] at hnone
    exact hloop p hp hI hc (Nat.le_refl _) fun s hs => absurd (hs.symm.trans hnone) fun h => by cases h

/-- Wiring a class read with bodies from its file with bodies: its places keep the usages bounded,
and the edges to its supertypes record what it asks for. -/
theorem run_wireClass_usages (hK : S.Keyable A) (hp : p.Valid) (hw : p.Wiring S A k)
    (hb : p.graph.UsagesBounded) (cls : String) {i : Nat} {c : ClassNode}
    (hc : p.graph.classNode? i = some c) (hlev : c.level = some .structureAndCalls)
    {file : ClassInfo} (hacc : file.access = c.access)
    (hok : ∀ σ, file.HasSite σ → S.AnalysedSite A σ) :
    (wireClass k cls i file).Run p fun _ p' =>
      UsageWiring S A k p p' ∧ p'.graph.SupertypesRecorded i c := by
  refine (sitesKeepOn_usages hK p).run_wireClass_with hp (UsageWiring.refl hw hb) cls
    (lt_size_of_resource? (classNode?_eq_some.mp hc)) hok fun q hl hIq _ => ?_
  -- the class as the places left it: its supertypes frozen, its access its file's
  obtain ⟨c', hc', hlev', hacc', husage⟩ :=
    hIq.frozen.usageTo_eq hw.faithful hIq.wiring.faithful hc hlev
  have hu : (if Access.has file.access Access.interface then Usage.extends else .implements) =
      interfaceUsage c'.access := by
    rw [hacc, ← hacc']
    rfl
  rw [hu]
  exact (run_wireSupertypes_usages hl.valid hIq hc' hlev').mono fun _ _ _ ⟨hI', hrec⟩ =>
    ⟨hI', hrec.of_usageTo_eq husage.symm⟩

/-- The wiring pass over loaded classes at distinct nodes, each read with bodies and with its
file with bodies kept: the usages stay bounded, and every class wired records what its
supertypes ask for. -/
theorem run_wirePass_usages (hK : S.Keyable A) (hp : p.Valid) (hw : p.Wiring S A k)
    (hb : p.graph.UsagesBounded) (names : List String) (loaded : List Nat)
    (hnodup : ((names.zip loaded).map Prod.snd).Nodup)
    (hfiles : ∀ x ∈ names.zip loaded, ∃ file c, p.fileOf x.2 = some file ∧
      p.graph.classNode? x.2 = some c ∧ c.level = some .structureAndCalls ∧
      file.access = c.access ∧ ∀ σ, file.HasSite σ → S.AnalysedSite A σ) :
    (Build.wirePass k names loaded).Run p fun _ p' => UsageWiring S A k p p' ∧
      ∀ x ∈ names.zip loaded, ∀ c, p.graph.classNode? x.2 = some c →
        p'.graph.SupertypesRecorded x.2 c := by
  have hloaded : ∀ x ∈ names.zip loaded, x.2 < p.graph.size := fun x hx => by
    obtain ⟨_, c, _, hc, -⟩ := hfiles x hx
    exact lt_size_of_resource? (classNode?_eq_some.mp hc)
  -- a class whose file is taken has been wired
  refine (run_wirePass_with (I := fun q => UsageWiring S A k p q ∧
    ∀ x ∈ names.zip loaded, q.fileOf x.2 = none → ∀ c, p.graph.classNode? x.2 = some c →
      q.graph.SupertypesRecorded x.2 c) hp ⟨UsageWiring.refl hw hb, fun x hx hnone => ?_⟩
    names loaded hloaded hnodup ?_).mono fun _ _ _ ⟨⟨hI, hrec⟩, hnone⟩ =>
      ⟨hI, fun x hx c hc => hrec x hx (hnone x hx) c hc⟩
  · obtain ⟨file, -, hfile, -⟩ := hfiles x hx
    rw [hfile] at hnone
    cases hnone
  intro q x F hx hq ⟨hIq, hrecq⟩ hlt _ hpF
  obtain ⟨file, c, hfile, hc, hlev, hacc, hok⟩ := hfiles x hx
  rw [hpF] at hfile
  cases hfile
  obtain ⟨c', hc', hlev', hacc', husage⟩ :=
    hIq.frozen.usageTo_eq hw.faithful hIq.wiring.faithful hc hlev
  have hI₁ : UsageWiring S A k p (q.takeFile x.2).2 :=
    ⟨hIq.wiring.takeFile x.2, hIq.bounded, hIq.rise, hIq.frozen⟩
  have hq₁ : (q.takeFile x.2).2.Valid := (hq.takeFile x.2).valid
  refine ((run_wireClass_usages hK hq₁ hI₁.wiring hI₁.bounded x.1 hc' hlev' (hacc.trans hacc'.symm)
    hok).and ((edgesKeep_files k _ _).run_wireClass hq₁ ⟨Nat.le_refl _, fun _ _ => rfl⟩ x.1 hlt
    F)).mono fun _ q' _ ⟨⟨hI', hrec'⟩, _, hkept⟩ => ⟨hI₁.trans hI', fun y hy hnone c₀ hc₀ => ?_⟩
  by_cases hyx : y.2 = x.2
  · -- the class just wired
    rw [hyx, hc] at hc₀
    cases hc₀
    rw [hyx]
    exact hrec'.of_usageTo_eq husage.symm
  · -- a class wired before keeps its file taken and its edges
    have hy₁ : (q.takeFile x.2).2.fileOf y.2 = none := by
      rw [← hkept y.2 (Nat.lt_of_lt_of_le (hloaded y hy) hIq.frozen.grows.size_le)]
      exact hnone
    rw [fileOf_takeFile q hyx] at hy₁
    exact (hrecq y hy hy₁ c₀ hc₀).rise hI'.rise

end Wiring

end ClassMetrics
