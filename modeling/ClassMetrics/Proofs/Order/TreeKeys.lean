import ClassMetrics.Proofs.Tree.SumUp
import ClassMetrics.Proofs.Dependency.Dispatch

/-!
Trees alike but for the keys of their later nodes. Attaching the methods of a class in another
order adds the same number of method nodes below it, in another order of their keys. Blanking
the keys from the first added node on makes the two trees one; and measuring classes and
aggregating read no key of a method node, so they commute with the blanking. The trees they
leave are again one once blanked: every measure sits at the same node in both.
-/

namespace ClassMetrics

namespace SourceTree

variable {t t' : SourceTree} {n : Nat}

/-- The tree with the keys of its nodes from `n` on blanked. -/
def eraseKeysFrom (n : Nat) (t : SourceTree) : SourceTree :=
  ⟨t.nodes.mapIdx fun i x => if n ≤ i then { x with key := "" } else x⟩

theorem node_eraseKeysFrom (n : Nat) (t : SourceTree) (i : Nat) :
    (t.eraseKeysFrom n).node i = if n ≤ i then { t.node i with key := "" } else t.node i := by
  unfold eraseKeysFrom node
  rw [Array.getElem?_mapIdx]
  cases t.nodes[i]? <;> split <;> rfl

@[simp] theorem size_eraseKeysFrom (n : Nat) (t : SourceTree) : (t.eraseKeysFrom n).size = t.size :=
  Array.size_mapIdx

@[simp] theorem scope_eraseKeysFrom (n : Nat) (t : SourceTree) (i : Nat) :
    ((t.eraseKeysFrom n).node i).scope = (t.node i).scope := by
  rw [node_eraseKeysFrom]; split <;> rfl

@[simp] theorem parent_eraseKeysFrom (n : Nat) (t : SourceTree) (i : Nat) :
    ((t.eraseKeysFrom n).node i).parent = (t.node i).parent := by
  rw [node_eraseKeysFrom]; split <;> rfl

@[simp] theorem children_eraseKeysFrom (n : Nat) (t : SourceTree) (i : Nat) :
    ((t.eraseKeysFrom n).node i).children = (t.node i).children := by
  rw [node_eraseKeysFrom]; split <;> rfl

@[simp] theorem measures_eraseKeysFrom (n : Nat) (t : SourceTree) (i : Nat) :
    ((t.eraseKeysFrom n).node i).measures = (t.node i).measures := by
  rw [node_eraseKeysFrom]; split <;> rfl

theorem key_eraseKeysFrom_of_lt {i : Nat} (hi : i < n) :
    ((t.eraseKeysFrom n).node i).key = (t.node i).key := by
  rw [node_eraseKeysFrom, if_neg (by omega)]

@[simp] theorem measure?_eraseKeysFrom (n : Nat) (t : SourceTree) (i : Nat) (m : Metric) :
    (t.eraseKeysFrom n).measure? i m = t.measure? i m := by
  simp [measure?]

@[simp] theorem ids_eraseKeysFrom (n : Nat) (t : SourceTree) (s : Scope) :
    (t.eraseKeysFrom n).ids s = t.ids s := by
  simp [ids]

theorem postOrderFrom_eraseKeysFrom (n : Nat) (t : SourceTree) (f i : Nat) :
    (t.eraseKeysFrom n).postOrderFrom f i = t.postOrderFrom f i := by
  induction f generalizing i with
  | zero => rfl
  | succ f ih => simp only [postOrderFrom, children_eraseKeysFrom, funext ih]

@[simp] theorem postOrder_eraseKeysFrom (n : Nat) (t : SourceTree) :
    (t.eraseKeysFrom n).postOrder = t.postOrder := by
  rw [postOrder, postOrder, size_eraseKeysFrom, postOrderFrom_eraseKeysFrom]

@[simp] theorem ancestor?_eraseKeysFrom (n : Nat) (t : SourceTree) (i : Nat) (s : Scope) :
    (t.eraseKeysFrom n).ancestor? i s = t.ancestor? i s := by
  unfold ancestor?
  rw [size_eraseKeysFrom]
  induction t.size generalizing i with
  | zero => rfl
  | succ f ih => simp only [ancestor?.go, scope_eraseKeysFrom, parent_eraseKeysFrom, ih]

/-- A look-up by level and key finds the first node that passes its test, so two trees whose
nodes pass alike give one answer. -/
theorem find?_congr (hsize : t'.size = t.size) {s s' : Scope} {k k' : String}
    (hp : ∀ i < t.size, ((t'.node i).scope = s' ∧ (t'.node i).key = k') ↔
      ((t.node i).scope = s ∧ (t.node i).key = k)) : t'.find? s' k' = t.find? s k := by
  have hnode : ∀ (u : SourceTree) i (hi : i < u.nodes.size), u.nodes[i] = u.node i :=
    fun u i hi => by simp [node, Array.getElem?_eq_getElem hi]
  have hs : t'.nodes.size = t.nodes.size := hsize
  refine Option.ext fun i => ?_
  unfold find?
  simp only [Array.findIdx?_eq_some_iff_getElem, Bool.and_eq_true, decide_eq_true_eq]
  constructor
  · rintro ⟨hi, hpi, hj⟩
    have hi' : i < t.nodes.size := by omega
    refine ⟨hi', ?_, fun j hji hpj => hj j hji ?_⟩
    · rw [hnode t' i hi] at hpi
      rw [hnode t i hi']
      exact (hp i hi').mp hpi
    · have hj' : j < t.nodes.size := by omega
      rw [hnode t j hj'] at hpj
      rw [hnode t' j (by omega)]
      exact (hp j hj').mpr hpj
  · rintro ⟨hi, hpi, hj⟩
    have hi' : i < t'.nodes.size := by omega
    refine ⟨hi', ?_, fun j hji hpj => hj j hji ?_⟩
    · rw [hnode t i hi] at hpi
      rw [hnode t' i hi']
      exact (hp i hi).mpr hpi
    · have hj' : j < t.nodes.size := by omega
      rw [hnode t' j (by omega)] at hpj
      rw [hnode t j hj']
      exact (hp j hj').mp hpj

/-- The nodes from `n` on are methods, each listed only by a class: what attaching methods adds
to a tree of `n` nodes. -/
structure MethodsFrom (n : Nat) (t : SourceTree) : Prop where
  scope_eq : ∀ i, n ≤ i → i < t.size → (t.node i).scope = .method
  below_cls : ∀ p, ∀ c ∈ (t.node p).children, n ≤ c → (t.node p).scope = .cls

theorem MethodsFrom.of_sameShape (h : t.MethodsFrom n) (ht : t'.SameShape t) : t'.MethodsFrom n where
  scope_eq i hn hi := by rw [ht.scope_node]; exact h.scope_eq i hn (ht.size_eq ▸ hi)
  below_cls p c hc hn := by
    rw [ht.scope_node]
    exact h.below_cls p c (ht.children_node p ▸ hc) hn

theorem MethodsFrom.key_eraseKeysFrom (h : t.MethodsFrom n) {i : Nat}
    (hs : (t.node i).scope ≠ .method) : ((t.eraseKeysFrom n).node i).key = (t.node i).key := by
  rw [node_eraseKeysFrom]
  split
  · by_cases hi : i < t.size
    · exact absurd (h.scope_eq i ‹_› hi) hs
    · rw [node_eq_default (not_lt.mp hi)]
      rfl
  · rfl

theorem MethodsFrom.key_eraseKeysFrom_of_mem_children (h : t.MethodsFrom n) {p c : Nat}
    (hp : (t.node p).scope ≠ .cls) (hc : c ∈ (t.node p).children) :
    ((t.eraseKeysFrom n).node c).key = (t.node c).key :=
  key_eraseKeysFrom_of_lt (Nat.lt_of_not_le fun hn => hp (h.below_cls p c hc hn))

theorem MethodsFrom.find?_eraseKeysFrom (h : t.MethodsFrom n) {s : Scope} (hs : s ≠ .method)
    (k : String) : (t.eraseKeysFrom n).find? s k = t.find? s k :=
  find?_congr (size_eraseKeysFrom n t) fun i _ => by
    rw [scope_eraseKeysFrom]
    constructor
    · rintro ⟨hsi, hk⟩
      exact ⟨hsi, (h.key_eraseKeysFrom (hsi ▸ hs)).symm.trans hk⟩
    · rintro ⟨hsi, hk⟩
      exact ⟨hsi, (h.key_eraseKeysFrom (hsi ▸ hs)).trans hk⟩

theorem scope_of_ancestor? {i a : Nat} {s : Scope} (h : t.ancestor? i s = some a) :
    (t.node a).scope = s := by
  -- the climb stops only at a node of the level
  have hgo : ∀ f i, ancestor?.go t s f i = some a → (t.node a).scope = s := by
    intro f
    induction f with
    | zero => intro i h; cases h
    | succ f ih =>
      intro i h
      simp only [ancestor?.go] at h
      split at h
      · cases h
        assumption
      · split at h
        · exact ih _ h
        · cases h
  exact hgo _ i h

theorem MethodsFrom.containers?_eraseKeysFrom (h : t.MethodsFrom n) (k : String) :
    (t.eraseKeysFrom n).containers? k = t.containers? k := by
  -- the class and the file and package above it are no methods, so they keep their keys
  have hkeyAt : ∀ id s, s ≠ .method → ((t.ancestor? id s).map fun a =>
      ((t.eraseKeysFrom n).node a).key) = (t.ancestor? id s).map fun a => (t.node a).key := by
    intro id s hs
    cases ha : t.ancestor? id s with
    | none => rfl
    | some a =>
      simp only [Option.map_some]
      rw [h.key_eraseKeysFrom (by rw [scope_of_ancestor? ha]; exact hs)]
  unfold containers?
  rw [h.find?_eraseKeysFrom (by decide)]
  cases hf : t.find? .cls k with
  | none => rfl
  | some id =>
    have hid := (find?_eq_some hf).2.1
    simp only [Option.map_some, ancestor?_eraseKeysFrom, hkeyAt id .file (by decide),
      hkeyAt id .package (by decide), h.key_eraseKeysFrom (by rw [hid]; decide)]

theorem ext_node {t t' : SourceTree} (hsize : t.size = t'.size) (h : ∀ i, t.node i = t'.node i) :
    t = t' := by
  obtain ⟨nodes⟩ := t
  obtain ⟨nodes'⟩ := t'
  congr 1
  refine Array.ext hsize fun i hi hi' => ?_
  have := h i
  simp only [node, Array.getElem?_eq_getElem hi, Array.getElem?_eq_getElem hi',
    Option.getD_some] at this
  exact this

/-! ### Measuring and aggregating read no blanked key -/

theorem setMeasure_eraseKeysFrom (n : Nat) (t : SourceTree) (id : Nat) (m : Metric)
    (v : MeasureValue) :
    (t.eraseKeysFrom n).setMeasure id m v = (t.setMeasure id m v).eraseKeysFrom n := by
  refine ext_node (by simp) fun i => ?_
  rw [node_setMeasure, node_eraseKeysFrom, node_eraseKeysFrom, node_setMeasure,
    size_eraseKeysFrom]
  split_ifs <;> rfl

theorem foldl_eraseKeysFrom {α : Type} (P : SourceTree → Prop) {f : SourceTree → α → SourceTree}
    {l : List α} (hP : ∀ t, P t → ∀ x ∈ l, P (f t x))
    (hf : ∀ t, P t → ∀ x ∈ l, f (t.eraseKeysFrom n) x = (f t x).eraseKeysFrom n) {t : SourceTree}
    (ht : P t) : l.foldl f (t.eraseKeysFrom n) = (l.foldl f t).eraseKeysFrom n := by
  induction l generalizing t with
  | nil => rfl
  | cons x l ih =>
    rw [List.foldl_cons, List.foldl_cons, hf t ht x (by simp)]
    exact ih (fun t' ht' y hy => hP t' ht' y (by simp [hy]))
      (fun t' ht' y hy => hf t' ht' y (by simp [hy])) (hP t ht x (by simp))

theorem setLeafCounts_eraseKeysFrom (n : Nat) (t : SourceTree) :
    (t.eraseKeysFrom n).setLeafCounts = t.setLeafCounts.eraseKeysFrom n := by
  unfold setLeafCounts
  refine foldl_eraseKeysFrom (fun _ => True) (fun _ _ _ _ => trivial) (fun t _ p _ => ?_) trivial
  obtain ⟨s, m⟩ := p
  dsimp only
  rw [ids_eraseKeysFrom]
  exact foldl_eraseKeysFrom (fun _ => True) (fun _ _ _ _ => trivial)
    (fun t _ id _ => setMeasure_eraseKeysFrom n t id _ _) trivial

theorem sumAt_eraseKeysFrom (n : Nat) (t : SourceTree) (id : Nat) (m : Metric) :
    (t.eraseKeysFrom n).sumAt id m = (t.sumAt id m).eraseKeysFrom n := by
  unfold sumAt
  simp only [measure?_eraseKeysFrom, children_eraseKeysFrom]
  split
  · rfl
  · split
    · exact setMeasure_eraseKeysFrom n t id m _
    · rfl

theorem sumUp_eraseKeysFrom (n : Nat) (t : SourceTree) :
    (t.eraseKeysFrom n).sumUp = t.sumUp.eraseKeysFrom n := by
  unfold sumUp
  rw [postOrder_eraseKeysFrom]
  refine foldl_eraseKeysFrom (fun _ => True) (fun _ _ _ _ => trivial) (fun t _ id _ => ?_) trivial
  exact foldl_eraseKeysFrom (fun _ => True) (fun _ _ _ _ => trivial)
    (fun t _ m _ => sumAt_eraseKeysFrom n t id m) trivial

theorem MethodsFrom.setCoupling_eraseKeysFrom (h : t.MethodsFrom n) (deps : DependencyGraph) :
    (t.eraseKeysFrom n).setCoupling deps = (t.setCoupling deps).eraseKeysFrom n := by
  unfold setCoupling
  refine foldl_eraseKeysFrom (MethodsFrom n) (fun u hu s _ => ?_) (fun u hu s hs => ?_) h
  · exact hu.of_sameShape (Writes.foldl (w := fun _ _ => True) fun _ _ _ _ =>
      (writes_setMeasure_of trivial _).setMeasure trivial _).shape
  · rw [ids_eraseKeysFrom]
    -- each step of the level keeps the shape of the tree it started from
    refine foldl_eraseKeysFrom (·.SameShape u) (fun u' hu' id _ => ?_)
      (fun u' hu' id hid => ?_) (.refl u)
    · exact ((setMeasure_sameShape _ _ _ _).trans (setMeasure_sameShape _ _ _ _)).trans hu'
    · -- a class, file or package node keeps its key
      have hsc : (u'.node id).scope ≠ .method := by
        rw [hu'.scope_node, (mem_ids.mp hid).2]
        simp only [List.mem_cons, List.not_mem_nil, or_false] at hs
        rcases hs with rfl | rfl | rfl <;> decide
      simp only [(hu.of_sameShape hu').key_eraseKeysFrom hsc, setMeasure_eraseKeysFrom]

theorem foldl_pair_eraseKeysFrom {α σ : Type} (P : SourceTree → Prop)
    {F : SourceTree × σ → α → SourceTree × σ} {l : List α}
    (hP : ∀ q : SourceTree × σ, P q.1 → ∀ x ∈ l, P (F q x).1)
    (hF : ∀ q : SourceTree × σ, P q.1 → ∀ x ∈ l,
      F (q.1.eraseKeysFrom n, q.2) x = ((F q x).1.eraseKeysFrom n, (F q x).2))
    {q : SourceTree × σ} (hq : P q.1) :
    l.foldl F (q.1.eraseKeysFrom n, q.2) = ((l.foldl F q).1.eraseKeysFrom n, (l.foldl F q).2) := by
  induction l generalizing q with
  | nil => rfl
  | cons x l ih =>
    rw [List.foldl_cons, List.foldl_cons, hF q hq x (by simp)]
    exact ih (fun q' hq' y hy => hP q' hq' y (by simp [hy]))
      (fun q' hq' y hy => hF q' hq' y (by simp [hy])) (hP q hq x (by simp))

theorem rollupFile_eraseKeysFrom (c : EngineConfig) (n : Nat) (t : SourceTree) (r : Rollup)
    (file : Nat) : rollupFile c (t.eraseKeysFrom n) r file =
      ((rollupFile c t r file).1.eraseKeysFrom n, (rollupFile c t r file).2) := by
  unfold rollupFile
  simp only [children_eraseKeysFrom, measure?_eraseKeysFrom]
  -- both sides take the same branches
  split <;> split <;> simp_all [setMeasure_eraseKeysFrom]

theorem store_eraseKeysFrom (r : Rollup) (n : Nat) (t : SourceTree) (id : Nat) :
    r.store (t.eraseKeysFrom n) id = (r.store t id).eraseKeysFrom n := by
  unfold Rollup.store
  split_ifs <;> simp only [setMeasure_eraseKeysFrom]

/-- Rolling up a package reads the keys of its files, which are no methods. -/
theorem MethodsFrom.rollupPackage_eraseKeysFrom (h : t.MethodsFrom n) (c : EngineConfig)
    (deps : DependencyGraph) {pkg : Nat} (hpkg : (t.node pkg).scope ≠ .cls) :
    rollupPackage c deps (t.eraseKeysFrom n) pkg =
      ((rollupPackage c deps t pkg).1.eraseKeysFrom n, (rollupPackage c deps t pkg).2) := by
  have hfiles := writes_rollupFiles c t (t.node pkg).children.toList
  unfold rollupPackage
  simp only [children_eraseKeysFrom]
  rw [foldl_pair_eraseKeysFrom (q := (t, Rollup.empty c)) (fun _ => True) (fun _ _ _ _ => trivial)
    (fun q _ f _ => rollupFile_eraseKeysFrom c n q.1 q.2 f) trivial]
  generalize (t.node pkg).children.toList.foldl (fun q f => rollupFile c q.1 q.2 f)
    (t, Rollup.empty c) = T at hfiles ⊢
  -- the files are read in a tree of the shape the rollup started from
  have hT : (T.2.store T.1 pkg).SameShape t := (writes_store T.2 T.1 pkg).shape.trans hfiles.shape
  have hT' := h.of_sameShape hT
  have hkeys : ((t.node pkg).children.toList.map fun f =>
      (((T.2.store T.1 pkg).eraseKeysFrom n).node f).key) =
      (t.node pkg).children.toList.map fun f => ((T.2.store T.1 pkg).node f).key :=
    List.map_congr_left fun f hf => hT'.key_eraseKeysFrom_of_mem_children
      (by rw [hT.scope_node]; exact hpkg) (by rw [hT.children_node]; exact Array.mem_toList_iff.mp hf)
  simp only [store_eraseKeysFrom, hkeys, setMeasure_eraseKeysFrom]

/-- One package rolled up on top of what the packages before it gathered. -/
def rollupStep (c : EngineConfig) (deps : DependencyGraph) (q : SourceTree × Rollup) (pkg : Nat) :
    SourceTree × Rollup :=
  ((rollupPackage c deps q.1 pkg).1, q.2.merge (rollupPackage c deps q.1 pkg).2)

theorem MethodsFrom.foldl_rollupStep_eraseKeysFrom (h : t.MethodsFrom n) (c : EngineConfig)
    (deps : DependencyGraph) (r : Rollup) :
    (t.ids .package).foldl (rollupStep c deps) (t.eraseKeysFrom n, r) =
      (((t.ids .package).foldl (rollupStep c deps) (t, r)).1.eraseKeysFrom n,
        ((t.ids .package).foldl (rollupStep c deps) (t, r)).2) := by
  -- each package is rolled up in a tree of the shape the rollups started from
  refine foldl_pair_eraseKeysFrom (q := (t, r)) (·.SameShape t) (fun q hq pkg _ => ?_)
    (fun q hq pkg hpkg => ?_) (.refl t)
  · exact (writes_rollupPackage c deps q.1 pkg).shape.trans hq
  · have hs : (q.1.node pkg).scope ≠ .cls := by
      rw [hq.scope_node, (mem_ids.mp hpkg).2]
      decide
    simp only [rollupStep, (h.of_sameShape hq).rollupPackage_eraseKeysFrom c deps hs]

theorem MethodsFrom.aggregate_eraseKeysFrom (h : t.MethodsFrom n) (deps : DependencyGraph)
    (c : EngineConfig) :
    (t.eraseKeysFrom n).aggregate deps c = (t.aggregate deps c).eraseKeysFrom n := by
  have hsum := writes_sumUp_setLeafCounts t
  have hcoupled := (writes_setCoupling t.setLeafCounts.sumUp deps).shape.trans hsum.shape
  unfold aggregate
  dsimp only
  rw [setLeafCounts_eraseKeysFrom, sumUp_eraseKeysFrom,
    (h.of_sameShape hsum.shape).setCoupling_eraseKeysFrom]
  generalize t.setLeafCounts.sumUp.setCoupling deps = T at hcoupled ⊢
  have hfold := (h.of_sameShape hcoupled).foldl_rollupStep_eraseKeysFrom c deps (Rollup.empty c)
  unfold rollupStep at hfold
  rw [ids_eraseKeysFrom, hfold, store_eraseKeysFrom, setMeasure_eraseKeysFrom, setMeasure_eraseKeysFrom]

/-! ### Measuring classes reads no blanked key -/

theorem MethodsFrom.measureClass_eraseKeysFrom (h : t.MethodsFrom n) (g : StructuralGraph)
    (c : EngineConfig) (d : DependencyGraph) (cls : Nat) :
    measureClass g c (t.eraseKeysFrom n, d) cls =
      ((measureClass g c (t, d) cls).1.eraseKeysFrom n, (measureClass g c (t, d) cls).2) := by
  unfold measureClass
  cases hn : g.classNode? cls with
  | none => rfl
  | some node =>
    have hfind : (t.eraseKeysFrom n).find? .cls (g.key cls) = t.find? .cls (g.key cls) :=
      h.find?_eraseKeysFrom (by decide) _
    simp only [hfind, h.containers?_eraseKeysFrom]
    cases t.find? .cls (g.key cls) with
    | none => rfl
    | some id =>
      cases t.containers? (g.key cls) with
      | none => rfl
      | some source =>
        dsimp only
        -- the class's measures are set at its node, and the classes its edges reach are found
        -- in a tree of the same shape
        have hw : Writes t ((g.classMeasures c cls node).foldl
            (fun t (x : Metric × MeasureValue) => t.setMeasure id x.1 x.2) t) fun _ _ => True :=
          Writes.foldl fun t' _ x _ => writes_setMeasure_of trivial _
        have hmeasured := h.of_sameShape hw.shape
        rw [foldl_eraseKeysFrom (fun _ => True) (fun _ _ _ _ => trivial)
          (fun t' _ x _ => setMeasure_eraseKeysFrom n t' id x.1 x.2) trivial]
        simp only [hmeasured.containers?_eraseKeysFrom]

theorem MethodsFrom.foldl_measureClass_eraseKeysFrom (h : t.MethodsFrom n) (g : StructuralGraph)
    (c : EngineConfig) (l : List Nat) (d : DependencyGraph) :
    l.foldl (measureClass g c) (t.eraseKeysFrom n, d) =
      ((l.foldl (measureClass g c) (t, d)).1.eraseKeysFrom n,
        (l.foldl (measureClass g c) (t, d)).2) :=
  foldl_pair_eraseKeysFrom (q := (t, d)) (MethodsFrom n)
    (fun q hq cls _ => hq.of_sameShape (writes_foldl_measureClass g c q.1 q.2 (l := [cls])).shape)
    (fun q hq cls _ => hq.measureClass_eraseKeysFrom g c q.2 cls) h

end SourceTree

end ClassMetrics
