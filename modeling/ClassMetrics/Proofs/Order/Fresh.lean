import ClassMetrics.Proofs.Order.Attach

/-!
What the analysis leaves at the method nodes attached to a tree. Measuring classes writes at
class nodes, and aggregation past the sums writes at the root, at class, file and package
nodes, and at the files of packages; none of these is a method node added below a class. So
each added node ends with the count of one function and no other measure, whichever it is: the
added nodes are interchangeable.
-/

namespace ClassMetrics

namespace SourceTree

variable {t t' : SourceTree} {n : Nat}

theorem writes_setCoupling_levels (t : SourceTree) (deps : DependencyGraph) :
    Writes t (t.setCoupling deps) fun i _ => (t.node i).scope ≠ .method :=
  Writes.foldl fun _ ht' s hs => Writes.foldl fun _ _ i hi => by
    have hsc : (t.node i).scope = s := ht'.scope_of_mem_ids hi
    have hne : (t.node i).scope ≠ .method := by
      simp only [List.mem_cons, List.not_mem_nil, or_false] at hs
      rcases hs with rfl | rfl | rfl <;> simp [hsc]
    exact (writes_setMeasure_of hne _).setMeasure hne _

theorem writes_rollupPackage_nodes (c : EngineConfig) (deps : DependencyGraph) (t : SourceTree)
    (pkg : Nat) : Writes t (rollupPackage c deps t pkg).1 fun i _ =>
      i = pkg ∨ i ∈ (t.node pkg).children := by
  unfold rollupPackage
  dsimp only
  refine Writes.setMeasure (Writes.setMeasure ?_ (.inl rfl) _) (.inl rfl) _
  refine Writes.trans ?_ ((writes_store _ _ pkg).mono fun _ _ h => .inl h.1)
  -- each file rolled up writes at that file, a child of the package
  exact Writes.foldl_fst (p := (t, Rollup.empty c)) fun q _ f hf =>
    (writes_rollupFile c q.1 q.2 f).mono fun _ _ h => .inr (h.1 ▸ Array.mem_toList_iff.mp hf)

/-- Aggregation past the sums writes at the root, at class, file and package nodes, and at
the files of packages. -/
theorem writes_aggregate_after_sums (t : SourceTree) (deps : DependencyGraph)
    (c : EngineConfig) : Writes t.setLeafCounts.sumUp (t.aggregate deps c) fun i _ =>
      i = 0 ∨ (t.node i).scope ≠ .method ∨
        ∃ p, (t.node p).scope = .package ∧ i ∈ (t.node p).children := by
  obtain ⟨project, v₁, v₂, h⟩ := aggregate_eq t deps c
  have hsum := (writes_sumUp_setLeafCounts t).shape
  have hcoupling := writes_setCoupling_levels t.setLeafCounts.sumUp deps
  rw [h]
  refine Writes.setMeasure (Writes.setMeasure ?_ (Or.inl rfl) _) (Or.inl rfl) _
  refine Writes.trans (hcoupling.mono fun i _ hi => Or.inr (Or.inl (hsum.scope_node i ▸ hi))) ?_
  refine Writes.trans ?_ ((writes_store project _ 0).mono fun _ _ h => Or.inl h.1)
  -- each package rolled up writes at the package and at its files
  have hpre := hcoupling.shape.trans hsum
  refine Writes.foldl fun u hu pkg hpkg => (writes_rollupPackage_nodes c deps u pkg).mono ?_
  have hps : (t.node pkg).scope = .package := hpre.scope_of_mem_ids hpkg
  rintro i _ (rfl | hi)
  · exact Or.inr (Or.inl (by rw [hps]; decide))
  · rw [(hu.trans hpre).children_node pkg] at hi
    exact Or.inr (Or.inr ⟨pkg, hps, hi⟩)

theorem FreshFrom.of_writes {w : Nat → Metric → Prop} (h : t.FreshFrom n) (hw : Writes t t' w)
    (hn : ∀ i m, n ≤ i → ¬ w i m) : t'.FreshFrom n where
  methods := h.methods.of_sameShape hw.shape
  le_size := hw.shape.size_eq ▸ h.le_size
  childless i hi := by rw [hw.shape.children_node]; exact h.childless i hi
  unmeasured i hi m := by rw [hw.keep i m (hn i m hi)]; exact h.unmeasured i hi m

theorem FreshFrom.foldl_measureClass (h : t.FreshFrom n) (g : StructuralGraph)
    (c : EngineConfig) (l : List Nat) (d : DependencyGraph) :
    (l.foldl (measureClass g c) (t, d)).1.FreshFrom n :=
  h.of_writes (writes_foldl_measureClass g c t d) fun i m hi ⟨cls, _, hf, _⟩ => by
    have hcls := (find?_eq_some hf).2.1
    rw [h.methods.scope_eq i hi (find?_eq_some hf).1] at hcls
    cases hcls

/-- After aggregation a node added below a class counts one function and holds nothing else. -/
theorem FreshFrom.measure?_aggregate (h : t.FreshFrom n) (hl : t.Linked) (hn : 0 < n)
    (deps : DependencyGraph) (c : EngineConfig) {j : Nat} (hj : n ≤ j) (hjs : j < t.size)
    (m : Metric) : (t.aggregate deps c).measure? j m =
      if m = .functions then some (.int 1) else none := by
  have hs : (t.node j).scope = .method := h.methods.scope_eq j hj hjs
  by_cases hm : m ∈ Metric.summed
  · -- the count of its level, and no children to sum
    rw [measure?_aggregate_of_summed hl deps c hm, h.childless j hj, h.unmeasured j hj, hs]
    by_cases hf : m = .functions
    · subst hf
      simp [hjs, Scope.countMetric?]
    · simp [Scope.countMetric?, hf, Ne.symm hf, sumValues]
  · -- the sums write summed metrics only, and nothing after them writes at the node
    have hnot : ¬ (j = 0 ∨ (t.node j).scope ≠ .method ∨
        ∃ p, (t.node p).scope = .package ∧ j ∈ (t.node p).children) := by
      rintro (hj0 | hsj | ⟨p, hp, hjp⟩)
      · omega
      · exact hsj hs
      · rw [h.methods.below_cls p j hjp hj] at hp
        cases hp
    have hf : m ≠ .functions := fun hf => hm (hf ▸ by decide)
    rw [(writes_aggregate_after_sums t deps c).keep j m hnot,
      (writes_sumUp_setLeafCounts t).keep j m hm, h.unmeasured j hj, if_neg hf]

/-- A linked tree whose nodes from `n` on are methods that count one function each and hold no
other measure: what an analysis leaves of the nodes it attached. -/
structure CountsFrom (n : Nat) (t : SourceTree) : Prop where
  linked : t.Linked
  methods : t.MethodsFrom n
  counts : ∀ j, n ≤ j → j < t.size → ∀ m,
    t.measure? j m = if m = .functions then some (.int 1) else none

theorem FreshFrom.countsFrom_aggregate (h : t.FreshFrom n) (hl : t.Linked) (hn : 0 < n)
    (deps : DependencyGraph) (c : EngineConfig) : (t.aggregate deps c).CountsFrom n where
  linked := hl.of_sameShape (aggregate_sameShape t deps c)
  methods := h.methods.of_sameShape (aggregate_sameShape t deps c)
  counts j hj hjs m := by
    rw [(aggregate_sameShape t deps c).size_eq] at hjs
    exact h.measure?_aggregate hl hn deps c hj hjs m

/-! ### Look-ups in alike trees -/

section Alike

variable {t₁ t₂ : SourceTree}

theorem AlikeFrom.find?_of_lt (h : AlikeFrom n t₁ t₂) (hl₂ : t₂.Linked) {s : Scope} {k : String}
    {i : Nat} (hf : t₁.find? s k = some i) (hi : i < n) : t₂.find? s k = some i := by
  obtain ⟨hlt, hs, hk⟩ := find?_eq_some hf
  refine hl₂.find?_eq_some_iff.mpr ⟨h.size_eq ▸ hlt, ?_, (h.key_eq hi).trans hk⟩
  rw [← scope_eraseKeysFrom n t₂, ← h.erased, scope_eraseKeysFrom, hs]

theorem AlikeFrom.measure?_eq (h : AlikeFrom n t₁ t₂) (i : Nat) (m : Metric) :
    t₂.measure? i m = t₁.measure? i m := by
  rw [← measure?_eraseKeysFrom n t₂, ← h.erased, measure?_eraseKeysFrom]

/-- Alike trees whose nodes from `n` on count one function each give every level and key the
same measures: a key found among the first nodes is found at that node in both trees, and a
method key found past them is found past them in both. -/
theorem AlikeFrom.bind_measure?_find? (h : AlikeFrom n t₁ t₂) (h₁ : t₁.CountsFrom n)
    (h₂ : t₂.CountsFrom n) (s : Scope) (k : String) (m : Metric) :
    (t₁.find? s k).bind (t₁.measure? · m) = (t₂.find? s k).bind (t₂.measure? · m) := by
  cases hf₁ : t₁.find? s k with
  | some i =>
    by_cases hi : i < n
    · rw [h.find?_of_lt h₂.linked hf₁ hi, Option.bind_some, Option.bind_some, h.measure?_eq]
    · -- a method node past the first ones: the other tree has the key past them too
      obtain ⟨hlt, hs, -⟩ := find?_eq_some hf₁
      have hsm : s = .method := hs.symm.trans (h₁.methods.scope_eq i (by omega) hlt)
      subst hsm
      cases hf₂ : t₂.find? .method k with
      | none =>
        have hsome := (h.methods k).mp (by rw [hf₁]; rfl)
        rw [hf₂] at hsome
        cases hsome
      | some j =>
        by_cases hj : j < n
        · have hback := h.symm.find?_of_lt h₁.linked hf₂ hj
          rw [hf₁] at hback
          cases hback
          exact absurd hj hi
        · obtain ⟨hjt, -, -⟩ := find?_eq_some hf₂
          rw [Option.bind_some, Option.bind_some, h₁.counts i (by omega) hlt m,
            h₂.counts j (by omega) hjt m]
  | none =>
    cases hf₂ : t₂.find? s k with
    | none => rfl
    | some j =>
      by_cases hj : j < n
      · have hback := h.symm.find?_of_lt h₁.linked hf₂ hj
        rw [hf₁] at hback
        cases hback
      · obtain ⟨hjt, hs, -⟩ := find?_eq_some hf₂
        have hsm : s = .method := hs.symm.trans (h₂.methods.scope_eq j (by omega) hjt)
        subst hsm
        have hsome := (h.methods k).mpr (by rw [hf₂]; rfl)
        rw [hf₁] at hsome
        cases hsome

end Alike

end SourceTree

end ClassMetrics
