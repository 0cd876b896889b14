import ClassMetrics.Proofs.Tree.SumUp

/-!
Distributions of class values. Over limits `l₀ < … < lₖ₋₁`, bucket `i` holds the values that
reach `lᵢ` and, unless the bucket is the last, stay below `lᵢ₊₁`; values below the first limit
are in no bucket. Adding values one by one to the empty distribution counts each in its
bucket, so the counts do not depend on the order of the values, and merging two distributions
over the same limits counts the values of both. Aggregation therefore gives each package the
distribution of the integer RFC and LCOM4 values of the classes in its files, and the project
that of all classes.
-/

namespace ClassMetrics

namespace Distribution

/-- Whether bucket `i` holds a value: the value reaches the bucket's limit and, unless the
bucket is the last, stays below the next one. -/
def inBucket (limits : List Nat) (i : Nat) (v : Int) : Bool :=
  decide ((limits.getD i 0 : Int) ≤ v ∧ (i + 1 = limits.length ∨ v < limits.getD (i + 1) 0))

/-- The distribution over the limits that counts each value in the bucket that holds it. -/
def histogram (limits : List Nat) (vs : List Int) : Distribution :=
  ⟨limits, (List.range limits.length).map fun i => vs.countP (inBucket limits i)⟩

example : histogram [0, 5, 10] [12, 3, -1, 7, 5] = ⟨[0, 5, 10], [1, 2, 1]⟩ := by decide

/-- The last of the numbers below `n` that pass a test is one that passes, after which none
does. -/
theorem getLast?_filter_range (p : Nat → Bool) (n i : Nat) :
    ((List.range n).filter p).getLast? = some i ↔
      i < n ∧ p i ∧ ∀ j, i < j → j < n → p j = false := by
  induction n with
  | zero => simp
  | succ n ih =>
    rw [List.range_succ, List.filter_append]
    cases hn : p n
    · -- `n` fails: the last that passes lies below it
      simp only [List.filter_cons, hn, List.filter_nil, Bool.false_eq_true, ite_false,
        List.append_nil, ih]
      constructor
      · rintro ⟨hi, hp, hj⟩
        refine ⟨by omega, hp, fun j hij hjn => ?_⟩
        rcases Nat.lt_succ_iff_lt_or_eq.mp hjn with hjn | rfl
        · exact hj j hij hjn
        · exact hn
      · rintro ⟨hi, hp, hj⟩
        have hin : i ≠ n := by
          rintro rfl
          rw [hn] at hp
          exact Bool.false_ne_true hp
        exact ⟨by omega, hp, fun j hij hjn => hj j hij (by omega)⟩
    · -- `n` passes and is the last
      simp only [List.filter_cons, hn, List.filter_nil, ite_true, List.getLast?_append,
        List.getLast?_singleton, Option.some_or, Option.some.injEq]
      constructor
      · rintro rfl
        exact ⟨by omega, hn, fun j hij hjn => by omega⟩
      · rintro ⟨hi, hp, hj⟩
        rcases Nat.lt_succ_iff_lt_or_eq.mp hi with hi | rfl
        · rw [hj n hi (by omega)] at hn
          exact absurd hn Bool.false_ne_true
        · rfl

variable {limits : List Nat}

theorem getD_le_getD (hl : limits.Pairwise (· < ·)) {a b : Nat} (hab : a ≤ b)
    (hb : b < limits.length) : limits.getD a 0 ≤ limits.getD b 0 := by
  simp only [List.getD_eq_getElem?_getD, List.getElem?_eq_getElem (show a < limits.length by omega),
    List.getElem?_eq_getElem hb, Option.getD_some]
  rcases hab.lt_or_eq with hab | rfl
  · exact (List.pairwise_iff_getElem.mp hl a b (by omega) hb hab).le
  · exact le_refl _

theorem bucket?_eq_some_iff (hl : limits.Pairwise (· < ·)) (v : Int) (i : Nat) :
    bucket? limits v = some i ↔ i < limits.length ∧ inBucket limits i v = true := by
  unfold bucket?
  rw [getLast?_filter_range]
  simp only [inBucket, decide_eq_true_eq, decide_eq_false_iff_not, not_le]
  constructor
  · rintro ⟨hi, hv, hj⟩
    refine ⟨hi, hv, ?_⟩
    by_cases hlast : i + 1 = limits.length
    · exact .inl hlast
    · exact .inr (hj (i + 1) (by omega) (by omega))
  · rintro ⟨hi, hv, hnext⟩
    refine ⟨hi, hv, fun j hij hj => ?_⟩
    rcases hnext with hlast | hlt
    · omega
    · -- the limits rise, so every later limit lies above the value too
      have := getD_le_getD hl (show i + 1 ≤ j by omega) hj
      omega

theorem inBucket_eq_false (hl : limits.Pairwise (· < ·)) {v : Int} (hb : bucket? limits v = none)
    {i : Nat} (hi : i < limits.length) : inBucket limits i v = false := by
  cases h : inBucket limits i v
  · rfl
  · rw [(bucket?_eq_some_iff hl v i).mpr ⟨hi, h⟩] at hb
    cases hb

/-- Adding a value to the histogram of some values gives the histogram of them all: the
count of the value's bucket grows by one and no other. -/
theorem add_histogram (hl : limits.Pairwise (· < ·)) (vs : List Int) (v : Int) :
    (histogram limits vs).add v = histogram limits (vs ++ [v]) := by
  unfold add histogram
  dsimp only
  cases hb : bucket? limits v with
  | none =>
    simp only [Distribution.mk.injEq, true_and]
    refine List.map_congr_left fun i hi => ?_
    simp [List.countP_append, inBucket_eq_false hl hb (List.mem_range.mp hi)]
  | some b =>
    have honly : ∀ i < limits.length, inBucket limits i v = true ↔ b = i := fun i hi =>
      ⟨fun h => Option.some.inj (hb.symm.trans ((bucket?_eq_some_iff hl v i).mpr ⟨hi, h⟩)),
        fun h => h ▸ ((bucket?_eq_some_iff hl v b).mp hb).2⟩
    simp only [Distribution.mk.injEq, true_and]
    refine List.ext_getElem (by simp) fun j h₁ h₂ => ?_
    have hj : j < limits.length := by simpa using h₂
    rw [List.getElem_modify, List.getElem_map, List.getElem_map, List.getElem_range,
      List.countP_append]
    by_cases hbj : b = j
    · simp [hbj, (honly j hj).mpr hbj]
    · simp [hbj, mt (honly j hj).mp hbj]

theorem empty_eq_histogram (limits : List Nat) : empty limits = histogram limits [] := by
  simp [empty, histogram]

theorem foldl_add_empty (hl : limits.Pairwise (· < ·)) (vs : List Int) :
    vs.foldl add (empty limits) = histogram limits vs := by
  rw [empty_eq_histogram]
  -- adding `vs` after some values `ws` counts `ws ++ vs`
  suffices h : ∀ ws, vs.foldl add (histogram limits ws) = histogram limits (ws ++ vs) by
    simpa using h []
  induction vs with
  | nil => simp
  | cons v vs ih =>
    intro ws
    rw [List.foldl_cons, add_histogram hl, ih, List.append_assoc, List.singleton_append]

theorem histogram_perm {vs ws : List Int} (h : vs.Perm ws) :
    histogram limits vs = histogram limits ws := by
  simp only [histogram, h.countP_eq]

theorem merge_histogram (vs ws : List Int) :
    (histogram limits vs).merge (histogram limits ws) = histogram limits (vs ++ ws) := by
  simp [merge, histogram, List.zipWith_map, List.zipWith_self, List.countP_append]

end Distribution

namespace EngineConfig

theorem isChain_of_any_zip_tail : ∀ limits : List Nat,
    ((limits.zip limits.tail).any fun (a, b) => a ≥ b) = false → limits.IsChain (· < ·)
  | [], _ => .nil
  | [_], _ => .singleton _
  | a :: b :: l, h => by
    simp only [List.tail_cons, List.zip_cons_cons, List.any_cons, Bool.or_eq_false_iff,
      decide_eq_false_iff_not, not_le] at h
    exact .cons_cons h.1 (isChain_of_any_zip_tail (b :: l) h.2)

theorem pairwise_of_checkLimits {name : String} {limits : List Nat}
    (h : checkLimits name limits = .ok ()) : limits.Pairwise (· < ·) := by
  unfold checkLimits at h
  split at h
  · cases h
  · split at h
    · cases h
    · next hany =>
      exact List.isChain_iff_pairwise.mp (isChain_of_any_zip_tail limits (by simpa using hany))

theorem limits_of_validate {c c' : EngineConfig} (h : c.validate = .ok c') :
    c.rfcDistributionLimits.Pairwise (· < ·) ∧ c.lcom4DistributionLimits.Pairwise (· < ·) := by
  unfold validate at h
  cases h₁ : checkLimits "rfc_distribution_limits" c.rfcDistributionLimits with
  | error e =>
    rw [h₁] at h
    cases h
  | ok u =>
    cases h₂ : checkLimits "lcom4_distribution_limits" c.lcom4DistributionLimits with
    | error e =>
      rw [h₁, h₂] at h
      cases h
    | ok u' => exact ⟨pairwise_of_checkLimits h₁, pairwise_of_checkLimits h₂⟩

end EngineConfig

/-- The class metrics whose integer values packages and the project count in distributions. -/
inductive Distributed
  | rfc
  | lcom4
  deriving DecidableEq, Repr

namespace Distributed

/-- The class metric whose values are counted. -/
def metric : Distributed → Metric
  | .rfc => .rfc
  | .lcom4 => .lcom4

/-- The metric the distribution is kept as. -/
def stored : Distributed → Metric
  | .rfc => .rfcDistribution
  | .lcom4 => .lcom4Distribution

/-- The limits of the distribution in a configuration. -/
def limits : Distributed → EngineConfig → List Nat
  | .rfc, c => c.rfcDistributionLimits
  | .lcom4, c => c.lcom4DistributionLimits

/-- The distribution a rollup gathers. -/
def ofRollup : Distributed → Rollup → Distribution
  | .rfc, r => r.rfcDistribution
  | .lcom4, r => r.lcom4Distribution

theorem limits_pairwise {c c' : EngineConfig} (h : c.validate = .ok c') (d : Distributed) :
    (d.limits c).Pairwise (· < ·) := by
  cases d
  · exact (EngineConfig.limits_of_validate h).1
  · exact (EngineConfig.limits_of_validate h).2

@[simp] theorem ofRollup_empty (d : Distributed) (c : EngineConfig) :
    d.ofRollup (Rollup.empty c) = .empty (d.limits c) := by
  cases d <;> rfl

@[simp] theorem ofRollup_merge (d : Distributed) (a b : Rollup) :
    d.ofRollup (a.merge b) = (d.ofRollup a).merge (d.ofRollup b) := by
  cases d <;> rfl

theorem stored_not_mem (d : Distributed) : d.stored ≠ .rfc ∧ d.stored ≠ .lcom4 ∧
    d.stored ≠ .fileEdgesWeight ∧ d.stored ≠ .fileCycles ∧ d.stored ≠ .packageEdgesWeight ∧
      d.stored ≠ .packageCycles := by
  cases d <;> decide

end Distributed

namespace Scope

theorem child?_inj {s s' c : Scope} (h : s.child? = some c) (h' : s'.child? = some c) :
    s = s' := by
  have hss := h.trans h'.symm
  revert hss
  cases s <;> cases s' <;> decide

end Scope

namespace SourceTree

open ClassMetrics.Distribution

/-- The integer values of a metric at the children of a node, in order: at a file, those of
its classes. -/
def fileValues (t : SourceTree) (m : Metric) (f : Nat) : List Int :=
  (t.node f).children.toList.filterMap fun k => (t.measure? k m).bind MeasureValue.asInt?

/-- The integer values of a metric at the classes in the files of a package, file by file. -/
def packageValues (t : SourceTree) (m : Metric) (p : Nat) : List Int :=
  (t.node p).children.toList.flatMap (t.fileValues m)

theorem rollupFile_distribution (c : EngineConfig) (t : SourceTree) (r : Rollup) (f : Nat)
    (d : Distributed) : d.ofRollup (rollupFile c t r f).2 =
      (d.ofRollup r).merge ((t.fileValues d.metric f).foldl add (empty (d.limits c))) := by
  unfold rollupFile
  dsimp only
  cases d <;> split <;> split <;> rfl

theorem foldl_merge_histogram {α σ : Type} {limits : List Nat} {xs : List α}
    {F : SourceTree × σ → α → SourceTree × σ} {dist : σ → Distribution} {g : α → List Int}
    {I : SourceTree → Prop}
    (hstep : ∀ q : SourceTree × σ, I q.1 → ∀ x ∈ xs,
      I (F q x).1 ∧ dist (F q x).2 = (dist q.2).merge (histogram limits (g x)))
    {q : SourceTree × σ} (hq : I q.1) {u : List Int} (hd : dist q.2 = histogram limits u) :
    dist (xs.foldl F q).2 = histogram limits (u ++ xs.flatMap g) := by
  induction xs generalizing q u with
  | nil => simpa using hd
  | cons x xs ih =>
    obtain ⟨hinv, hdist⟩ := hstep q hq x (by simp)
    rw [List.foldl_cons, ih (fun q' hq' y hy => hstep q' hq' y (by simp [hy])) hinv
      (by rw [hdist, hd, merge_histogram]), List.flatMap_cons, List.append_assoc]

variable {t : SourceTree}

/-- `T` has the shape of `t` and the same values of the distributed metrics at its classes. -/
structure ClassValuesAgree (t T : SourceTree) : Prop where
  shape : T.SameShape t
  values : ∀ k, (t.node k).scope = .cls → ∀ d : Distributed,
    T.measure? k d.metric = t.measure? k d.metric

theorem ClassValuesAgree.refl (t : SourceTree) : ClassValuesAgree t t :=
  ⟨.refl t, fun _ _ _ => rfl⟩

theorem ClassValuesAgree.writes {T T' : SourceTree} {w : Nat → Metric → Prop}
    (ha : ClassValuesAgree t T) (hw : Writes T T' w)
    (hkeep : ∀ k (d : Distributed), (t.node k).scope = .cls → ¬ w k d.metric) :
    ClassValuesAgree t T' :=
  ⟨hw.shape.trans ha.shape, fun k hk d =>
    (hw.keep k d.metric (hkeep k d hk)).trans (ha.values k hk d)⟩

theorem Grown.scope_child (h : t.Grown Scope.Encloses) {p k : Nat} {s : Scope}
    (hk : k ∈ (t.node p).children) (hs : (t.node p).scope.child? = some s) :
    (t.node k).scope = s :=
  (Option.some.inj ((h.encloses_of_parent ((h.linked.mem_children p k).mp hk)).symm.trans hs))

theorem ClassValuesAgree.fileValues_eq {T : SourceTree} (h : t.Grown Scope.Encloses)
    (ha : ClassValuesAgree t T) {f : Nat} (hf : (t.node f).scope = .file) (d : Distributed) :
    T.fileValues d.metric f = t.fileValues d.metric f := by
  unfold fileValues
  rw [ha.shape.children_node]
  refine List.filterMap_congr fun k hk => ?_
  rw [ha.values k (h.scope_child (Array.mem_toList_iff.mp hk) (by rw [hf]; rfl)) d]

theorem writes_rollupPackage_at (c : EngineConfig) (deps : DependencyGraph) (T : SourceTree)
    (p : Nat) : Writes T (rollupPackage c deps T p).1 fun i n =>
      i = p ∨ (i ∈ (T.node p).children ∧ (n = .rfc ∨ n = .lcom4)) := by
  unfold rollupPackage
  dsimp only
  refine Writes.setMeasure (Writes.setMeasure ?_ (.inl rfl) _) (.inl rfl) _
  refine (Writes.foldl_fst (p := (T, Rollup.empty c)) fun q _ f hf =>
    (writes_rollupFile c q.1 q.2 f).mono fun i n ⟨hi, hn⟩ => .inr ⟨?_, hn⟩).trans
    ((writes_store _ _ p).mono fun i n h => .inl h.1)
  rw [hi]
  exact Array.mem_toList_iff.mp hf

/-- Rolling up a package gathers the histogram of the values at the classes in its files. -/
theorem Grown.rollupPackage_distribution (h : t.Grown Scope.Encloses) {c c' : EngineConfig}
    (hc : c.validate = .ok c') (deps : DependencyGraph) {T : SourceTree}
    (ha : ClassValuesAgree t T) {p : Nat} (hp : (t.node p).scope = .package)
    (d : Distributed) :
    d.ofRollup (rollupPackage c deps T p).2 =
      histogram (d.limits c) (t.packageValues d.metric p) := by
  have hl := d.limits_pairwise hc
  unfold rollupPackage
  dsimp only
  rw [ha.shape.children_node]
  -- each file merges the histogram of its classes' values
  refine foldl_merge_histogram (I := ClassValuesAgree t) (g := t.fileValues d.metric)
    (fun q hq f hf => ?_) ha (u := []) (by rw [Distributed.ofRollup_empty, empty_eq_histogram])
  have hfs : (t.node f).scope = .file :=
    h.scope_child (Array.mem_toList_iff.mp hf) (by rw [hp]; rfl)
  refine ⟨hq.writes (writes_rollupFile c q.1 q.2 f) fun k _ hk ⟨hkf, _⟩ => ?_, ?_⟩
  · rw [hkf, hfs] at hk
    cases hk
  · rw [rollupFile_distribution, hq.fileValues_eq h hfs, foldl_add_empty hl]

theorem measure?_store (r : Rollup) {T : SourceTree} {id : Nat} (hid : id < T.size)
    (d : Distributed) :
    (r.store T id).measure? id d.stored = some (.distribution (d.ofRollup r)) := by
  unfold Rollup.store
  dsimp only
  cases d
  · rw [measure?_setMeasure, if_neg fun h => absurd h.2.2 (by decide), measure?_setMeasure,
      if_pos ⟨rfl, by split_ifs <;> simpa using hid, rfl⟩]
    rfl
  · rw [measure?_setMeasure, if_pos ⟨rfl, by split_ifs <;> simpa using hid, rfl⟩]
    rfl

theorem measure?_rollupPackage_stored (c : EngineConfig) (deps : DependencyGraph)
    {T : SourceTree} {p : Nat} (hp : p < T.size) (d : Distributed) :
    (rollupPackage c deps T p).1.measure? p d.stored =
      some (.distribution (d.ofRollup (rollupPackage c deps T p).2)) := by
  have hfold := writes_rollupFiles c T (T.node p).children.toList
  unfold rollupPackage
  dsimp only
  generalize (T.node p).children.toList.foldl (fun q f => rollupFile c q.1 q.2 f)
    (T, Rollup.empty c) = X at hfold ⊢
  obtain ⟨-, -, -, hfc, -, -⟩ := d.stored_not_mem
  rw [measure?_setMeasure, if_neg fun h => hfc h.2.2.symm, measure?_setMeasure,
    if_neg fun h => absurd h.2.2 (by cases d <;> decide),
    measure?_store X.2 (by rw [hfold.shape.size_eq]; exact hp)]

theorem Grown.exists_parent (h : t.Grown Scope.Encloses) {j : Nat} {s : Scope} (hj : j < t.size)
    (hjs : (t.node j).scope = s) (hs : s ≠ .project) :
    ∃ q, (t.node j).parent = some q ∧ (t.node q).scope.child? = some s := by
  cases hq : (t.node j).parent with
  | none =>
    rw [(h.linked.parent_eq_none j hj).mp hq, h.scope_root] at hjs
    exact absurd hjs.symm hs
  | some q => exact ⟨q, rfl, hjs ▸ h.encloses_of_parent hq⟩

/-- Package by package and file by file, the classes in the files are the classes of the
tree, each once. -/
theorem Grown.classes_perm (h : t.Grown Scope.Encloses) :
    ((t.ids .package).flatMap fun p => (t.node p).children.toList.flatMap fun f =>
      (t.node f).children.toList).Perm (t.ids .cls) := by
  have hl := h.linked
  have hpar : ∀ {a k}, k ∈ (t.node a).children.toList → (t.node k).parent = some a :=
    fun hk => (hl.mem_children _ _).mp (Array.mem_toList_iff.mp hk)
  -- children of different nodes are apart, a node having one parent
  have hdisj : ∀ {a b}, a ≠ b →
      List.Disjoint (t.node a).children.toList (t.node b).children.toList :=
    fun hab _ hka hkb => hab (Option.some.inj ((hpar hka).symm.trans (hpar hkb)))
  refine (List.perm_ext_iff_of_nodup ?_ (nodup_ids t .cls)).mpr fun k => ?_
  · refine List.nodup_flatMap.mpr ⟨fun p _ => List.nodup_flatMap.mpr
      ⟨fun f _ => hl.nodup_children f, (hl.nodup_children p).imp hdisj⟩,
      (nodup_ids t .package).imp fun hne k hk₁ hk₂ => ?_⟩
    -- a class in files of two packages has one file above it, in one package
    obtain ⟨f₁, hf₁, hk₁⟩ := List.mem_flatMap.mp hk₁
    obtain ⟨f₂, hf₂, hk₂⟩ := List.mem_flatMap.mp hk₂
    obtain rfl : f₁ = f₂ := Option.some.inj ((hpar hk₁).symm.trans (hpar hk₂))
    exact hne (Option.some.inj ((hpar hf₁).symm.trans (hpar hf₂)))
  · simp only [List.mem_flatMap, mem_ids]
    constructor
    · rintro ⟨p, ⟨-, hps⟩, f, hf, hk⟩
      have hfs := h.scope_child (Array.mem_toList_iff.mp hf) (by rw [hps]; rfl)
      exact ⟨lt_size_of_parent (hpar hk),
        h.scope_child (Array.mem_toList_iff.mp hk) (by rw [hfs]; rfl)⟩
    · rintro ⟨hk, hks⟩
      -- a class hangs below a file, which hangs below a package
      obtain ⟨f, hf, hfk⟩ := h.exists_parent hk hks (by decide)
      have hfl : f < t.size := (hl.parent_lt k f hf).trans hk
      have hff : (t.node f).scope = .file :=
        Scope.child?_inj hfk (show Scope.file.child? = some .cls from rfl)
      obtain ⟨p, hp, hpf⟩ := h.exists_parent hfl hff (by decide)
      have hpp : (t.node p).scope = .package :=
        Scope.child?_inj hpf (show Scope.package.child? = some .file from rfl)
      exact ⟨p, ⟨(hl.parent_lt f p hp).trans hfl, hpp⟩, f,
        Array.mem_toList_iff.mpr ((hl.mem_children p f).mpr hp),
        Array.mem_toList_iff.mpr ((hl.mem_children f k).mpr hf)⟩

theorem classValuesAgree_setCoupling (t : SourceTree) (deps : DependencyGraph) :
    ClassValuesAgree t (t.setLeafCounts.sumUp.setCoupling deps) := by
  have hw : Writes t (t.setLeafCounts.sumUp.setCoupling deps)
      fun _ n => n ∈ Metric.summed ∨ n = .ca ∨ n = .ce :=
    ((writes_sumUp_setLeafCounts t).mono fun _ _ h => Or.inl h).trans
      ((writes_setCoupling _ deps).mono fun _ _ h => Or.inr h)
  exact (ClassValuesAgree.refl t).writes hw fun _ d _ => by cases d <;> decide

theorem aggregate_eq_rollups (t : SourceTree) (deps : DependencyGraph) (c : EngineConfig) :
    ∃ v₁ v₂ : MeasureValue, t.aggregate deps c =
      let P := ((t.setLeafCounts.sumUp.setCoupling deps).ids .package).foldl
        (fun q pkg =>
          ((rollupPackage c deps q.1 pkg).1, q.2.merge (rollupPackage c deps q.1 pkg).2))
        (t.setLeafCounts.sumUp.setCoupling deps, Rollup.empty c)
      ((P.2.store P.1 0).setMeasure 0 .packageEdgesWeight v₁).setMeasure 0 .packageCycles v₂ := by
  unfold aggregate
  dsimp only
  exact ⟨_, _, rfl⟩

theorem sameShape_foldl_rollupPackage (c : EngineConfig) (deps : DependencyGraph)
    (pkgs : List Nat) (q : SourceTree × Rollup) :
    (pkgs.foldl (fun q pkg => ((rollupPackage c deps q.1 pkg).1,
      q.2.merge (rollupPackage c deps q.1 pkg).2)) q).1.SameShape q.1 :=
  (Writes.foldl_fst (w := fun _ _ => True) (F := fun (q : SourceTree × Rollup) (pkg : Nat) =>
    ((rollupPackage c deps q.1 pkg).1, q.2.merge (rollupPackage c deps q.1 pkg).2)) fun q _ p _ =>
      (writes_rollupPackage_at c deps q.1 p).mono fun _ _ _ => trivial).shape

section Aggregate

variable (h : t.Grown Scope.Encloses) {c c' : EngineConfig} (hc : c.validate = .ok c')
  (deps : DependencyGraph)
include h hc

theorem Grown.foldl_rollupPackage_distribution (d : Distributed) {pkgs : List Nat}
    (hpkgs : ∀ p ∈ pkgs, (t.node p).scope = .package) {T : SourceTree}
    (ha : ClassValuesAgree t T) :
    d.ofRollup (pkgs.foldl (fun q pkg => ((rollupPackage c deps q.1 pkg).1,
      q.2.merge (rollupPackage c deps q.1 pkg).2)) (T, Rollup.empty c)).2 =
      histogram (d.limits c) (pkgs.flatMap (t.packageValues d.metric)) := by
  refine foldl_merge_histogram (I := ClassValuesAgree t) (fun q hq p hp => ⟨?_, ?_⟩) ha (u := [])
    (by rw [Distributed.ofRollup_empty, empty_eq_histogram])
  · -- a package's rollup writes at the package and its files, none of them a class
    refine hq.writes (writes_rollupPackage_at c deps q.1 p) fun k _ hk hw => ?_
    rcases hw with rfl | ⟨hkp, -⟩
    · rw [hpkgs k hp] at hk
      cases hk
    · rw [hq.shape.children_node] at hkp
      rw [h.scope_child hkp (by rw [hpkgs p hp]; rfl)] at hk
      cases hk
  · rw [Distributed.ofRollup_merge, h.rollupPackage_distribution hc deps hq (hpkgs p hp)]

/-- After aggregation each package holds the distributions of the values at the classes in
its files. -/
theorem Grown.measure?_aggregate_package {p : Nat} (hp : p < t.size)
    (hps : (t.node p).scope = .package) (d : Distributed) :
    (t.aggregate deps c).measure? p d.stored =
      some (.distribution (histogram (d.limits c) (t.packageValues d.metric p))) := by
  obtain ⟨v₁, v₂, hagg⟩ := aggregate_eq_rollups t deps c
  have ha₁ := classValuesAgree_setCoupling t deps
  have hp0 : p ≠ 0 := by
    rintro rfl
    rw [h.scope_root] at hps
    cases hps
  rw [hagg]
  dsimp only
  rw [measure?_setMeasure, if_neg fun h' => hp0 h'.1.symm, measure?_setMeasure,
    if_neg fun h' => hp0 h'.1.symm, (writes_store _ _ 0).keep p _ fun h' => hp0 h'.1,
    foldl_fst_eq _ (F := fun (q : SourceTree × Rollup) (pkg : Nat) =>
      ((rollupPackage c deps q.1 pkg).1, q.2.merge (rollupPackage c deps q.1 pkg).2))
      (G := fun T pkg => (rollupPackage c deps T pkg).1) fun _ _ => rfl]
  -- the package's own rollup writes its distributions, the other packages' rollups keep them
  have hmem : p ∈ (t.setLeafCounts.sumUp.setCoupling deps).ids .package := by
    rw [ha₁.shape.ids_eq]
    exact mem_ids.mpr ⟨hp, hps⟩
  obtain ⟨l₁, l₂, hsplit, h₁, h₂⟩ := Writes.foldl_split hmem
    (w := fun y i n => i = y ∨ (i ∈ (t.node y).children ∧ (n = .rfc ∨ n = .lcom4)))
    fun T' hT' y _ => by
      have hw := writes_rollupPackage_at c deps T' y
      rwa [(hT'.trans ha₁.shape).children_node] at hw
  have hp' : p ∉ l₁ ++ l₂ := (List.nodup_cons.mp (List.nodup_middle.mp
    (hsplit ▸ nodup_ids (t.setLeafCounts.sumUp.setCoupling deps) .package))).1
  have hpkg : ∀ y ∈ l₁, (t.node y).scope = .package := fun y hy =>
    ha₁.shape.scope_of_mem_ids (hsplit ▸ List.mem_append_left _ hy)
  have ha₂ := ha₁.writes h₁ fun k _ hk ⟨y, hy, hw⟩ => by
    rcases hw with rfl | ⟨hky, -⟩
    · rw [hpkg k hy] at hk
      cases hk
    · rw [h.scope_child hky (by rw [hpkg y hy]; rfl)] at hk
      cases hk
  obtain ⟨hst₁, hst₂, -, -, -, -⟩ := d.stored_not_mem
  rw [h₂.keep p d.stored fun ⟨y, hy, hw⟩ => ?_,
    measure?_rollupPackage_stored c deps (by rw [ha₂.shape.size_eq]; exact hp),
    h.rollupPackage_distribution hc deps ha₂ hps]
  rcases hw with rfl | ⟨-, hn | hn⟩
  · exact hp' (List.mem_append_right _ hy)
  · exact hst₁ hn
  · exact hst₂ hn

/-- After aggregation the project holds the distributions of the values at all classes. -/
theorem Grown.measure?_aggregate_project (d : Distributed) :
    (t.aggregate deps c).measure? 0 d.stored = some (.distribution (histogram (d.limits c)
      ((t.ids .cls).filterMap fun k => (t.measure? k d.metric).bind MeasureValue.asInt?))) := by
  obtain ⟨v₁, v₂, hagg⟩ := aggregate_eq_rollups t deps c
  have ha₁ := classValuesAgree_setCoupling t deps
  have hpkgs : ∀ p ∈ (t.setLeafCounts.sumUp.setCoupling deps).ids .package,
      (t.node p).scope = .package := fun _ hp => ha₁.shape.scope_of_mem_ids hp
  -- the values of the packages' classes, package by package, are those of all classes
  have hvalues : (t.ids .package).flatMap (t.packageValues d.metric) =
      ((t.ids .package).flatMap fun p => (t.node p).children.toList.flatMap fun f =>
        (t.node f).children.toList).filterMap fun k =>
          (t.measure? k d.metric).bind MeasureValue.asInt? := by
    simp only [List.filterMap_flatMap]
    rfl
  obtain ⟨-, -, -, -, hpe, hpc⟩ := d.stored_not_mem
  rw [hagg]
  dsimp only
  rw [measure?_setMeasure, if_neg fun h' => hpc h'.2.2.symm, measure?_setMeasure,
    if_neg fun h' => hpe h'.2.2.symm,
    measure?_store _ (by
      rw [(sameShape_foldl_rollupPackage c deps _ _).size_eq, ha₁.shape.size_eq]
      exact h.linked.size_pos),
    h.foldl_rollupPackage_distribution hc deps d hpkgs ha₁, ha₁.shape.ids_eq, hvalues,
    histogram_perm (h.classes_perm.filterMap _)]

end Aggregate

/-- Distributions count exactly. Over strictly increasing limits, adding values one by one to
the empty distribution counts in bucket `i` the values that reach the `i`-th limit and, unless
the bucket is the last, stay below the next; the counts do not depend on the order of the
values, and merging two such distributions counts the values of both. After a grown tree is
aggregated under a configuration that passes its check, each package holds the distributions
of the integer RFC and LCOM4 values at the classes in its files, and the project those at all
classes. -/
theorem distributions_are_histograms :
    (∀ limits : List Nat, limits.Pairwise (· < ·) → ∀ vs : List Int,
      vs.foldl Distribution.add (.empty limits) = histogram limits vs) ∧
    (∀ limits : List Nat, limits.Pairwise (· < ·) → ∀ vs ws : List Int, vs.Perm ws →
      vs.foldl Distribution.add (.empty limits) = ws.foldl Distribution.add (.empty limits)) ∧
    (∀ limits : List Nat, limits.Pairwise (· < ·) → ∀ vs ws : List Int,
      (vs.foldl Distribution.add (.empty limits)).merge
          (ws.foldl Distribution.add (.empty limits)) =
        (vs ++ ws).foldl Distribution.add (.empty limits)) ∧
    (∀ (t : SourceTree) (deps : DependencyGraph) (c : EngineConfig), t.Grown Scope.Encloses →
      c.validate = .ok c → ∀ d : Distributed,
        (∀ p < t.size, (t.node p).scope = .package → (t.aggregate deps c).measure? p d.stored =
          some (.distribution (histogram (d.limits c) (t.packageValues d.metric p)))) ∧
        (t.aggregate deps c).measure? 0 d.stored = some (.distribution (histogram (d.limits c)
          ((t.ids .cls).filterMap fun k => (t.measure? k d.metric).bind MeasureValue.asInt?)))) :=
  ⟨fun _ hl vs => foldl_add_empty hl vs,
    fun _ hl vs ws h => by rw [foldl_add_empty hl, foldl_add_empty hl, histogram_perm h],
    fun _ hl vs ws => by rw [foldl_add_empty hl, foldl_add_empty hl, foldl_add_empty hl,
      merge_histogram],
    fun _ deps _ h hc d => ⟨fun _ hp hps => h.measure?_aggregate_package hc deps hp hps d,
      h.measure?_aggregate_project hc deps d⟩⟩

theorem distributions_are_histograms_fiveValues :
    ([0, 5, 10] : List Nat).Pairwise (· < ·) ∧
      [12, 3, -1, 7, 5].foldl Distribution.add (.empty [0, 5, 10]) =
        histogram [0, 5, 10] [12, 3, -1, 7, 5] :=
  ⟨by decide, distributions_are_histograms.1 _ (by decide) _⟩

end SourceTree

end ClassMetrics
