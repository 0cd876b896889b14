import ClassMetrics.Aggregate
import ClassMetrics.Analysis.Measures

/-!
What setting measures leaves of a source tree. A measure is set at one node and changes no
node's key, level, parent or children, so every step of measuring and of aggregation keeps
the shape of the tree, and with it the look-ups by level and key, the ancestors and the
containers of a class. `Writes t t' w` says that `t'` is `t` with measures changed at most
where `w` allows; the aggregation's steps are stated that way, and from them what it leaves
in the coupling of every class, file and package and in the weight of the dependencies
inside each package.
-/

namespace ClassMetrics

namespace TreeNode

/-- What a node is apart from its measures. -/
def shape (n : TreeNode) : String × Scope × Option Nat × Array Nat :=
  (n.key, n.scope, n.parent, n.children)

end TreeNode

namespace Measures

theorem find?_insertSorted (m : Metric) (v : MeasureValue) (l : List (Metric × MeasureValue))
    (m' : Metric) : (insertSorted m v l).find? (·.1 = m') =
      if m = m' then some (m, v) else l.find? (·.1 = m') := by
  induction l with
  | nil => by_cases h : m = m' <;> simp [insertSorted, h]
  | cons p l ih =>
    obtain ⟨n, x⟩ := p
    unfold insertSorted
    by_cases hn : n = m
    · subst hn
      by_cases h : n = m' <;> simp [h]
    by_cases hlt : m.index < n.index
    · by_cases h : m = m'
      · subst h
        simp [hn, hlt]
      · simp [hn, hlt, h]
    · by_cases h : n = m'
      · subst h
        simp [hn, hlt, Ne.symm hn]
      · simp [hn, hlt, h, ih]

@[simp] theorem get?_set (ms : Measures) (m : Metric) (v : MeasureValue) (m' : Metric) :
    (ms.set m v).get? m' = if m = m' then some v else ms.get? m' := by
  unfold get? set
  rw [find?_insertSorted]
  split <;> simp

end Measures

namespace SourceTree

theorem node_setMeasure (t : SourceTree) (id : Nat) (m : Metric) (v : MeasureValue) (i : Nat) :
    (t.setMeasure id m v).node i = if id = i ∧ i < t.size
      then { t.node i with measures := (t.node i).measures.set m v } else t.node i := by
  unfold node setMeasure size
  rw [Array.getElem?_modify]
  by_cases h : id = i
  · by_cases hi : i < t.nodes.size
    · simp [h, hi]
    · simp [h, hi]
  · simp [h]

theorem measure?_setMeasure (t : SourceTree) (id : Nat) (m : Metric) (v : MeasureValue)
    (i : Nat) (m' : Metric) :
    (t.setMeasure id m v).measure? i m' =
      if id = i ∧ i < t.size ∧ m = m' then some v else t.measure? i m' := by
  unfold measure?
  rw [node_setMeasure]
  by_cases h : id = i ∧ i < t.size
  · rw [if_pos h, Measures.get?_set]
    by_cases hm : m = m' <;> simp [h, hm]
  · rw [if_neg h, if_neg fun h' => h ⟨h'.1, h'.2.1⟩]

theorem find?_eq_findIdx?_shape (t : SourceTree) (s : Scope) (k : String) :
    t.find? s k = (t.nodes.toList.map TreeNode.shape).findIdx? fun x => x.2.1 = s && x.1 = k := by
  rw [List.findIdx?_map, find?, ← List.findIdx?_toArray, Array.toArray_toList]
  rfl

theorem mem_ids {t : SourceTree} {s : Scope} {i : Nat} :
    i ∈ t.ids s ↔ i < t.size ∧ (t.node i).scope = s := by
  simp [ids]

theorem nodup_ids (t : SourceTree) (s : Scope) : (t.ids s).Nodup :=
  List.nodup_range.filter _

/-- Two trees of the same nodes, which may differ only in their measures. -/
def SameShape (t' t : SourceTree) : Prop :=
  t'.nodes.toList.map TreeNode.shape = t.nodes.toList.map TreeNode.shape

namespace SameShape

variable {t t' t'' : SourceTree}

@[refl] theorem refl (t : SourceTree) : t.SameShape t := rfl

theorem trans (h₁ : t''.SameShape t') (h₂ : t'.SameShape t) : t''.SameShape t :=
  Eq.trans h₁ h₂

theorem size_eq (h : t'.SameShape t) : t'.size = t.size := by
  simpa [size] using congrArg List.length h

theorem shape_node (h : t'.SameShape t) (i : Nat) : (t'.node i).shape = (t.node i).shape := by
  have hi := congrArg (·[i]?) h
  simp only [List.getElem?_map, Array.getElem?_toList] at hi
  unfold node
  cases h₁ : t'.nodes[i]? <;> cases h₂ : t.nodes[i]? <;> simp_all

theorem key_node (h : t'.SameShape t) (i : Nat) : (t'.node i).key = (t.node i).key :=
  congrArg (·.1) (h.shape_node i)

theorem scope_node (h : t'.SameShape t) (i : Nat) : (t'.node i).scope = (t.node i).scope :=
  congrArg (·.2.1) (h.shape_node i)

theorem parent_node (h : t'.SameShape t) (i : Nat) : (t'.node i).parent = (t.node i).parent :=
  congrArg (·.2.2.1) (h.shape_node i)

theorem children_node (h : t'.SameShape t) (i : Nat) :
    (t'.node i).children = (t.node i).children :=
  congrArg (·.2.2.2) (h.shape_node i)

theorem find?_eq (h : t'.SameShape t) (s : Scope) (k : String) : t'.find? s k = t.find? s k := by
  rw [find?_eq_findIdx?_shape, find?_eq_findIdx?_shape, h]

theorem ids_eq (h : t'.SameShape t) (s : Scope) : t'.ids s = t.ids s := by
  simp only [ids, h.size_eq, h.scope_node]

theorem scope_of_mem_ids (h : t'.SameShape t) {s : Scope} {i : Nat} (hi : i ∈ t'.ids s) :
    (t.node i).scope = s := by
  rw [← h.scope_node]
  exact (mem_ids.mp hi).2

theorem ancestor?_eq (h : t'.SameShape t) (i : Nat) (s : Scope) :
    t'.ancestor? i s = t.ancestor? i s := by
  unfold ancestor?
  rw [h.size_eq]
  -- the climb reads only levels and parents
  induction t.size generalizing i with
  | zero => rfl
  | succ n ih => simp only [ancestor?.go, h.scope_node, h.parent_node, ih]

theorem containers?_eq (h : t'.SameShape t) (k : String) : t'.containers? k = t.containers? k := by
  simp only [containers?, h.find?_eq, h.ancestor?_eq, h.key_node]

end SameShape

theorem setMeasure_sameShape (t : SourceTree) (id : Nat) (m : Metric) (v : MeasureValue) :
    (t.setMeasure id m v).SameShape t := by
  unfold SameShape setMeasure
  apply List.ext_getElem?
  intro i
  simp only [List.getElem?_map, Array.getElem?_toList, Array.getElem?_modify]
  split <;> cases t.nodes[i]? <;> rfl

@[simp] theorem size_setMeasure (T : SourceTree) (id : Nat) (m : Metric) (v : MeasureValue) :
    (T.setMeasure id m v).size = T.size :=
  (setMeasure_sameShape T id m v).size_eq

/-- `t'` is `t` with measures changed at most where `w` allows. -/
structure Writes (t t' : SourceTree) (w : Nat → Metric → Prop) : Prop where
  shape : t'.SameShape t
  keep : ∀ id m, ¬ w id m → t'.measure? id m = t.measure? id m

namespace Writes

variable {t t' t'' : SourceTree} {w w' : Nat → Metric → Prop}

theorem refl (t : SourceTree) (w : Nat → Metric → Prop) : Writes t t w :=
  ⟨.refl t, fun _ _ _ => rfl⟩

theorem trans (h₁ : Writes t t' w) (h₂ : Writes t' t'' w) : Writes t t'' w :=
  ⟨h₂.shape.trans h₁.shape, fun id m hw => (h₂.keep id m hw).trans (h₁.keep id m hw)⟩

theorem mono (h : Writes t t' w) (hw : ∀ id m, w id m → w' id m) : Writes t t' w' :=
  ⟨h.shape, fun id m hn => h.keep id m fun h' => hn (hw id m h')⟩

theorem foldl {α : Type} {l : List α} {f : SourceTree → α → SourceTree}
    (hf : ∀ t', t'.SameShape t → ∀ x ∈ l, Writes t' (f t' x) w) : Writes t (l.foldl f t) w := by
  induction l generalizing t with
  | nil => exact refl t w
  | cons x l ih =>
    have h₁ := hf t (.refl t) x (by simp)
    exact h₁.trans (ih fun t' ht' y hy => hf t' (ht'.trans h₁.shape) y (by simp [hy]))

end Writes

theorem writes_setMeasure (t : SourceTree) (id : Nat) (m : Metric) (v : MeasureValue) :
    Writes t (t.setMeasure id m v) fun i n => i = id ∧ n = m :=
  ⟨setMeasure_sameShape t id m v, fun i n hn => by
    rw [measure?_setMeasure, if_neg fun h => hn ⟨h.1.symm, h.2.2.symm⟩]⟩

theorem Writes.foldl_split {α : Type} {l : List α} {x : α} (hx : x ∈ l)
    {f : SourceTree → α → SourceTree} {t : SourceTree} {w : α → Nat → Metric → Prop}
    (hf : ∀ t', t'.SameShape t → ∀ y ∈ l, Writes t' (f t' y) (w y)) :
    ∃ l₁ l₂, l = l₁ ++ x :: l₂ ∧ Writes t (l₁.foldl f t) (fun i n => ∃ y ∈ l₁, w y i n) ∧
      Writes (f (l₁.foldl f t) x) (l.foldl f t) fun i n => ∃ y ∈ l₂, w y i n := by
  obtain ⟨l₁, l₂, rfl⟩ := List.append_of_mem hx
  have h₁ : Writes t (l₁.foldl f t) fun i n => ∃ y ∈ l₁, w y i n :=
    Writes.foldl fun t' ht' y hy => (hf t' ht' y (by simp [hy])).mono fun _ _ h => ⟨y, hy, h⟩
  refine ⟨l₁, l₂, rfl, h₁, ?_⟩
  rw [List.foldl_append, List.foldl_cons]
  refine Writes.foldl fun t' ht' y hy => (hf t' ?_ y (by simp [hy])).mono fun _ _ h => ⟨y, hy, h⟩
  exact ht'.trans ((hf _ h₁.shape x hx).shape.trans h₁.shape)

theorem measure?_foldl_of_writes {α : Type} {l : List α} (hl : l.Nodup) {x : α} (hx : x ∈ l)
    {f : SourceTree → α → SourceTree} {t : SourceTree} {w : α → Nat → Metric → Prop}
    (hf : ∀ t', t'.SameShape t → ∀ y ∈ l, Writes t' (f t' y) (w y)) {id : Nat} {m : Metric}
    (hw : ∀ y ∈ l, y ≠ x → ¬ w y id m) {v : MeasureValue}
    (hv : ∀ t', t'.SameShape t → (f t' x).measure? id m = some v) :
    (l.foldl f t).measure? id m = some v := by
  obtain ⟨l₁, l₂, hsplit, h₁, h₂⟩ := Writes.foldl_split hx hf
  have hx₂ : x ∉ l₂ := (List.nodup_cons.mp (List.nodup_append.mp (hsplit ▸ hl)).2.1).1
  -- `x` writes the value and the steps after it keep it
  rw [h₂.keep id m fun ⟨y, hy, hwy⟩ =>
    hw y (hsplit ▸ by simp [hy]) (fun h => hx₂ (h ▸ hy)) hwy]
  exact hv _ h₁.shape

theorem writes_setMeasure_of {t : SourceTree} {w : Nat → Metric → Prop} {id : Nat} {m : Metric}
    (h : w id m) (v : MeasureValue) : Writes t (t.setMeasure id m v) w :=
  (writes_setMeasure t id m v).mono fun _ _ ⟨hi, hn⟩ => hi ▸ hn ▸ h

theorem foldl_fst_eq {α σ : Type} (l : List α) {F : SourceTree × σ → α → SourceTree × σ}
    {G : SourceTree → α → SourceTree} (h : ∀ p x, (F p x).1 = G p.1 x) (p : SourceTree × σ) :
    (l.foldl F p).1 = l.foldl G p.1 := by
  induction l generalizing p with
  | nil => rfl
  | cons x l ih => rw [List.foldl_cons, List.foldl_cons, ih, h]

/-- The metrics that a rollup stores at a package or the project. -/
def rollupMetrics : List Metric :=
  [.rfc, .lcom4, .suspectLcom4Density, .rfcDistribution, .lcom4Distribution]

theorem Writes.setMeasure {t t' : SourceTree} {w : Nat → Metric → Prop} (h : Writes t t' w)
    {id : Nat} {m : Metric} (hw : w id m) (v : MeasureValue) : Writes t (t'.setMeasure id m v) w :=
  h.trans (writes_setMeasure_of hw v)

theorem writes_rollupFile (c : EngineConfig) (t : SourceTree) (r : Rollup) (file : Nat) :
    Writes t (rollupFile c t r file).1 fun i n => i = file ∧ (n = .rfc ∨ n = .lcom4) := by
  unfold rollupFile
  dsimp only
  -- at most the file's RFC and then its LCOM4 are set
  split
  · refine Writes.setMeasure ?_ ⟨rfl, by simp⟩ _
    split
    · exact (Writes.refl t _).setMeasure ⟨rfl, by simp⟩ _
    · exact Writes.refl t _
  · split
    · exact (Writes.refl t _).setMeasure ⟨rfl, by simp⟩ _
    · exact Writes.refl t _

theorem writes_store (r : Rollup) (t : SourceTree) (id : Nat) :
    Writes t (r.store t id) fun i n => i = id ∧ n ∈ rollupMetrics := by
  unfold Rollup.store
  dsimp only
  refine Writes.setMeasure (Writes.setMeasure ?_ ⟨rfl, by simp [rollupMetrics]⟩ _)
    ⟨rfl, by simp [rollupMetrics]⟩ _
  -- the mean LCOM4 and the share of suspect files, if any file has an LCOM4, over the mean RFC
  split
  · refine Writes.setMeasure (Writes.setMeasure ?_ ⟨rfl, by simp [rollupMetrics]⟩ _)
      ⟨rfl, by simp [rollupMetrics]⟩ _
    split
    · exact (Writes.refl t _).setMeasure ⟨rfl, by simp [rollupMetrics]⟩ _
    · exact Writes.refl t _
  · split
    · exact (Writes.refl t _).setMeasure ⟨rfl, by simp [rollupMetrics]⟩ _
    · exact Writes.refl t _

theorem Writes.foldl_fst {α σ : Type} {w : Nat → Metric → Prop} {l : List α}
    {F : SourceTree × σ → α → SourceTree × σ} {p : SourceTree × σ}
    (hf : ∀ q : SourceTree × σ, q.1.SameShape p.1 → ∀ x ∈ l, Writes q.1 (F q x).1 w) :
    Writes p.1 (l.foldl F p).1 w := by
  induction l generalizing p with
  | nil => exact Writes.refl _ w
  | cons x l ih =>
    have h₁ := hf p (.refl _) x (by simp)
    exact h₁.trans (ih fun q hq y hy => hf q (hq.trans h₁.shape) y (by simp [hy]))

/-- The keys of the files of a package node. -/
def fileKeys (t : SourceTree) (pkg : Nat) : List String :=
  (t.node pkg).children.toList.map fun f => (t.node f).key

theorem SameShape.fileKeys_eq {t t' : SourceTree} (h : t'.SameShape t) (pkg : Nat) :
    t'.fileKeys pkg = t.fileKeys pkg := by
  simp only [fileKeys, h.children_node, h.key_node]

theorem writes_rollupFiles (c : EngineConfig) (t : SourceTree) (files : List Nat) :
    Writes t (files.foldl (fun q f => rollupFile c q.1 q.2 f) (t, Rollup.empty c)).1
      fun _ n => n ∈ rollupMetrics :=
  Writes.foldl_fst (p := (t, Rollup.empty c)) fun q _ f _ =>
    (writes_rollupFile c q.1 q.2 f).mono fun _ _ h => by
      rcases h with ⟨-, h | h⟩ <;> simp [rollupMetrics, h]

theorem writes_rollupPackage (c : EngineConfig) (deps : DependencyGraph) (t : SourceTree)
    (pkg : Nat) : Writes t (rollupPackage c deps t pkg).1 fun i n =>
      n ∈ rollupMetrics ∨ i = pkg ∧ (n = .fileEdgesWeight ∨ n = .fileCycles) := by
  unfold rollupPackage
  dsimp only
  -- the files, then the package's means, then the weight and the cycles among its files
  refine Writes.setMeasure (Writes.setMeasure ?_ (Or.inr ⟨rfl, by simp⟩) _)
    (Or.inr ⟨rfl, by simp⟩) _
  exact ((writes_rollupFiles c t _).trans (writes_store _ _ pkg |>.mono fun _ _ h => h.2)).mono
    fun _ _ h => Or.inl h

theorem measure?_rollupPackage (c : EngineConfig) (deps : DependencyGraph) {t : SourceTree}
    {pkg : Nat} (hpkg : pkg < t.size) :
    (rollupPackage c deps t pkg).1.measure? pkg .fileEdgesWeight =
      some (.int (deps.internalWeight .file fun k => (t.fileKeys pkg).contains k)) := by
  have hfold := writes_rollupFiles c t (t.node pkg).children.toList
  unfold rollupPackage
  dsimp only
  generalize (t.node pkg).children.toList.foldl (fun q f => rollupFile c q.1 q.2 f)
    (t, Rollup.empty c) = T at hfold ⊢
  have hT : (T.2.store T.1 pkg).SameShape t := (writes_store T.2 T.1 pkg).shape.trans hfold.shape
  rw [measure?_setMeasure, if_neg (by simp), measure?_setMeasure, if_pos ⟨rfl, by
    rw [hT.size_eq]; exact hpkg, rfl⟩]
  simp only [fileKeys, hT.key_node]

theorem writes_sumAt (t : SourceTree) (id : Nat) (m : Metric) :
    Writes t (t.sumAt id m) fun i n => i = id ∧ n = m := by
  unfold sumAt
  split
  · exact Writes.refl t _
  · dsimp only
    split
    · exact writes_setMeasure t id m _
    · exact Writes.refl t _

theorem writes_sumUp_setLeafCounts (t : SourceTree) :
    Writes t t.setLeafCounts.sumUp fun _ n => n ∈ Metric.summed := by
  refine Writes.trans (Writes.foldl fun t' _ p hp => Writes.foldl fun t'' _ _ _ =>
    writes_setMeasure_of ?_ _) (Writes.foldl fun t' _ _ _ => Writes.foldl fun t'' _ m hm =>
      (writes_sumAt t'' _ m).mono fun _ _ h => h.2 ▸ hm)
  simp only [List.mem_cons, List.not_mem_nil, or_false] at hp
  rcases hp with rfl | rfl | rfl | rfl <;> simp [Metric.summed]

/-- Coupling is set at every class, file and package node from the dependencies at its
level: the number of keys that depend on its key and of those its key depends on. -/
theorem measure?_setCoupling (t : SourceTree) (deps : DependencyGraph) {id : Nat}
    (hid : id < t.size) (hs : (t.node id).scope ∈ [Scope.cls, .file, .package]) :
    (t.setCoupling deps).measure? id .ca =
        some (.int (deps.afferent (t.node id).scope (t.node id).key)) ∧
      (t.setCoupling deps).measure? id .ce =
        some (.int (deps.efferent (t.node id).scope (t.node id).key)) := by
  -- the pass over one level writes at the nodes of that level only
  have hlevel : ∀ t', t'.SameShape t → ∀ s ∈ [Scope.cls, .file, .package],
      Writes t' ((t'.ids s).foldl (fun t id =>
          (t.setMeasure id .ca (.int (deps.afferent s (t.node id).key))).setMeasure id .ce
            (.int (deps.efferent s (t.node id).key))) t')
        fun i _ => (t.node i).scope = s := by
    intro t' ht' s _
    refine Writes.foldl fun t'' ht'' i hi => ?_
    have hsc : (t.node i).scope = s := ht'.scope_of_mem_ids hi
    exact (writes_setMeasure_of hsc _).setMeasure hsc _
  have hids : id ∈ t.ids (t.node id).scope := mem_ids.mpr ⟨hid, rfl⟩
  have hnd : (t.ids (t.node id).scope).Nodup := nodup_ids t _
  have hval : ∀ m, m = Metric.ca ∨ m = .ce → ∀ v, (∀ t' : SourceTree, t'.SameShape t →
      ((t'.setMeasure id .ca (.int (deps.afferent (t.node id).scope (t'.node id).key))).setMeasure
        id .ce (.int (deps.efferent (t.node id).scope (t'.node id).key))).measure? id m = some v) →
      (t.setCoupling deps).measure? id m = some v := by
    intro m _ v hv
    refine measure?_foldl_of_writes (by decide) hs hlevel (fun s _ hne h => hne h.symm) ?_
    intro t' ht'
    rw [ht'.ids_eq]
    refine measure?_foldl_of_writes hnd hids (w := fun y i _ => i = y) ?_
      (fun y _ hne h => hne h.symm)
      fun t'' ht'' => hv t'' (ht''.trans ht')
    intro t'' _ y _
    exact (writes_setMeasure_of rfl _).setMeasure rfl _
  constructor
  · refine hval .ca (.inl rfl) _ fun t' ht' => ?_
    rw [measure?_setMeasure, if_neg (by simp), measure?_setMeasure,
      if_pos ⟨rfl, ht'.size_eq ▸ hid, rfl⟩, ht'.key_node]
  · refine hval .ce (.inr rfl) _ fun t' ht' => ?_
    rw [measure?_setMeasure, if_pos ⟨rfl, by
      rw [(setMeasure_sameShape _ _ _ _).size_eq, ht'.size_eq]; exact hid, rfl⟩, ht'.key_node]

theorem writes_setCoupling (t : SourceTree) (deps : DependencyGraph) :
    Writes t (t.setCoupling deps) fun _ n => n = .ca ∨ n = .ce :=
  Writes.foldl fun _ _ _ _ => Writes.foldl fun _ _ _ _ =>
    (writes_setMeasure_of (.inl rfl) _).setMeasure (.inr rfl) _

theorem aggregate_eq (t : SourceTree) (deps : DependencyGraph) (c : EngineConfig) :
    ∃ (project : Rollup) (v₁ v₂ : MeasureValue), t.aggregate deps c =
      ((project.store (((t.setLeafCounts.sumUp.setCoupling deps).ids .package).foldl
        (fun t pkg => (rollupPackage c deps t pkg).1) (t.setLeafCounts.sumUp.setCoupling deps))
        0).setMeasure 0 .packageEdgesWeight v₁).setMeasure 0 .packageCycles v₂ := by
  unfold aggregate
  dsimp only
  rw [foldl_fst_eq _ (F := fun (q : SourceTree × Rollup) (pkg : Nat) =>
    ((rollupPackage c deps q.1 pkg).1, q.2.merge (rollupPackage c deps q.1 pkg).2))
    (G := fun t pkg => (rollupPackage c deps t pkg).1) fun _ _ => rfl]
  dsimp only
  exact ⟨_, _, _, rfl⟩

theorem writes_aggregate_rollups (c : EngineConfig) (deps : DependencyGraph) (t : SourceTree)
    (project : Rollup) (v₁ v₂ : MeasureValue) :
    Writes t (((project.store ((t.ids .package).foldl (fun t pkg => (rollupPackage c deps t pkg).1)
      t) 0).setMeasure 0 .packageEdgesWeight v₁).setMeasure 0 .packageCycles v₂)
      fun _ n => n ∈ rollupMetrics ∨ n = .fileEdgesWeight ∨ n = .fileCycles ∨
        n = .packageEdgesWeight ∨ n = .packageCycles := by
  refine Writes.setMeasure (Writes.setMeasure ?_ (by simp) _) (by simp) _
  refine (Writes.foldl fun t' _ pkg _ => (writes_rollupPackage c deps t' pkg).mono ?_).trans
    ((writes_store project _ 0).mono fun _ _ h => .inl h.2)
  rintro _ _ (h | ⟨-, h | h⟩) <;> simp [h]

theorem aggregate_sameShape (t : SourceTree) (deps : DependencyGraph) (c : EngineConfig) :
    (t.aggregate deps c).SameShape t := by
  obtain ⟨project, v₁, v₂, h⟩ := aggregate_eq t deps c
  rw [h]
  exact (writes_aggregate_rollups c deps _ project v₁ v₂).shape.trans
    ((writes_setCoupling _ deps).shape.trans (writes_sumUp_setLeafCounts t).shape)

/-- After aggregation every class, file and package node holds the coupling of its key. -/
theorem measure?_aggregate_coupling (t : SourceTree) (deps : DependencyGraph) (c : EngineConfig)
    {id : Nat} (hid : id < t.size) (hs : (t.node id).scope ∈ [Scope.cls, .file, .package]) :
    (t.aggregate deps c).measure? id .ca =
        some (.int (deps.afferent (t.node id).scope (t.node id).key)) ∧
      (t.aggregate deps c).measure? id .ce =
        some (.int (deps.efferent (t.node id).scope (t.node id).key)) := by
  obtain ⟨project, v₁, v₂, h⟩ := aggregate_eq t deps c
  have h₁ := (writes_sumUp_setLeafCounts t).shape
  have h₂ := writes_aggregate_rollups c deps (t.setLeafCounts.sumUp.setCoupling deps) project v₁ v₂
  have hid' : id < t.setLeafCounts.sumUp.size := by rw [h₁.size_eq]; exact hid
  have hs' : (t.setLeafCounts.sumUp.node id).scope ∈ [Scope.cls, .file, .package] := by
    rw [h₁.scope_node]; exact hs
  obtain ⟨hca, hce⟩ := measure?_setCoupling _ deps hid' hs'
  have hk : ∀ m, m = Metric.ca ∨ m = .ce → ¬ (m ∈ rollupMetrics ∨ m = .fileEdgesWeight ∨
      m = .fileCycles ∨ m = .packageEdgesWeight ∨ m = .packageCycles) := by
    rintro m (rfl | rfl) <;> simp [rollupMetrics]
  rw [h, h₂.keep id .ca (hk _ (.inl rfl)), h₂.keep id .ce (hk _ (.inr rfl)), hca, hce,
    h₁.scope_node, h₁.key_node]
  exact ⟨rfl, rfl⟩

/-- After aggregation every package node holds the weight of the dependencies among its
files. -/
theorem measure?_aggregate_fileEdgesWeight (t : SourceTree) (deps : DependencyGraph)
    (c : EngineConfig) {id : Nat} (hid : id ∈ t.ids .package) :
    (t.aggregate deps c).measure? id .fileEdgesWeight =
      some (.int (deps.internalWeight .file fun k => (t.fileKeys id).contains k)) := by
  obtain ⟨project, v₁, v₂, h⟩ := aggregate_eq t deps c
  have h₁ := (writes_setCoupling _ deps).shape.trans (writes_sumUp_setLeafCounts t).shape
  have hstore : ¬ (Metric.fileEdgesWeight ∈ rollupMetrics) := by simp [rollupMetrics]
  rw [h, measure?_setMeasure, if_neg (by simp), measure?_setMeasure, if_neg (by simp),
    (writes_store project _ 0).keep id _ fun h => hstore h.2]
  -- the package's own rollup writes the weight; the other packages' rollups keep it
  have hnd : ((t.setLeafCounts.sumUp.setCoupling deps).ids .package).Nodup := nodup_ids _ _
  have hid' : id ∈ (t.setLeafCounts.sumUp.setCoupling deps).ids .package := by
    rw [h₁.ids_eq]; exact hid
  have hlt : id < t.size := (mem_ids.mp hid).1
  refine measure?_foldl_of_writes hnd hid'
    (fun t' _ pkg _ => writes_rollupPackage c deps t' pkg) ?_ fun t' ht' => ?_
  · rintro y - hne (h | ⟨h, -⟩)
    · exact hstore h
    · exact hne h.symm
  · have ht := ht'.trans h₁
    have hlt' : id < t'.size := by rw [ht.size_eq]; exact hlt
    rw [measure?_rollupPackage c deps hlt', ht.fileKeys_eq]

end SourceTree

end ClassMetrics
