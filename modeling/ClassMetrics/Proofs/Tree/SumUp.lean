import ClassMetrics.Proofs.Tree.Growth
import Mathlib.Algebra.BigOperators.Ring.Finset

/-!
Summing up the tree. Aggregation first gives each method, class, file and package a count of
one of its kind, then visits the nodes in post-order and gives each summed metric a node lacks
the sum of its children's values. Every child is visited before its parent and nothing after
the summing writes a summed metric, so the value a node ends with is its own, or else the sum
of the values its children end with. On a tree whose levels nest, the counts at a node are
then the numbers of nodes of each level below it.

Sums of integers wrap to 64 bits at each step; they are exact while no partial sum leaves
that range, and a sum of numbers becomes a double as soon as it meets one.
-/

namespace ClassMetrics

namespace Scope

/-- The metric that counts the nodes of a level. -/
def countMetric? : Scope → Option Metric
  | .method => some .functions
  | .cls => some .classes
  | .file => some .files
  | .package => some .packages
  | .project => none

theorem countMetric?_inj {s s' : Scope} {m : Metric} (h : s.countMetric? = some m)
    (h' : s'.countMetric? = some m) : s = s' := by
  have hss := h.trans h'.symm
  revert hss
  cases s <;> cases s' <;> decide

theorem mem_summed_of_countMetric? {s : Scope} {m : Metric} (h : s.countMetric? = some m) :
    m ∈ Metric.summed := by
  cases s <;> simp_all [countMetric?, Metric.summed]

/-- How far below the project a level lies. -/
def depth : Scope → Nat
  | .project => 0
  | .package => 1
  | .file => 2
  | .cls => 3
  | .method => 4

theorem Encloses.depth_eq {p c : Scope} (h : p.Encloses c) : c.depth = p.depth + 1 := by
  cases p <;> cases c <;> simp_all [Encloses, child?, depth]

end Scope

namespace MeasureValue

theorem wrap64_of_lt {v : Int} (h₁ : -2 ^ 63 ≤ v) (h₂ : v < 2 ^ 63) : wrap64 v = v := by
  unfold wrap64
  exact Int.bmod_eq_of_le (by omega) (by omega)

theorem foldlM_add_int (l : List Int) (a : Int) :
    (l.map int).foldlM add (int a) = some (int (l.foldl (fun x y => wrap64 (x + y)) a)) := by
  induction l generalizing a with
  | nil => rfl
  | cons b l ih => simp [List.foldlM_cons, add, ih]

theorem foldl_wrap64 (l : List Int) (a : Int)
    (h : ∀ k, -2 ^ 63 ≤ a + (l.take k).sum ∧ a + (l.take k).sum < 2 ^ 63) :
    l.foldl (fun x y => wrap64 (x + y)) a = a + l.sum := by
  induction l generalizing a with
  | nil => simp
  | cons b l ih =>
    have hb : wrap64 (a + b) = a + b := by
      obtain ⟨h₁, h₂⟩ := h 1
      simp only [List.take_succ_cons, List.take_zero, List.sum_cons, List.sum_nil] at h₁ h₂
      exact wrap64_of_lt (by omega) (by omega)
    rw [List.foldl_cons, hb, ih (a + b) fun k => by
      simpa [List.sum_cons, add_assoc] using h (k + 1), List.sum_cons, add_assoc]

theorem foldlM_add_double (vs : List MeasureValue) (hvs : ∀ v ∈ vs, v.asFloat?.isSome)
    (x : Float) : ∃ y, vs.foldlM add (double x) = some (double y) := by
  induction vs generalizing x with
  | nil => exact ⟨x, rfl⟩
  | cons v vs ih =>
    obtain ⟨z, hz⟩ := Option.isSome_iff_exists.mp (hvs v (by simp))
    obtain ⟨y, hy⟩ := ih (fun w hw => hvs w (by simp [hw])) (x + z)
    refine ⟨y, ?_⟩
    cases v <;> simp_all [List.foldlM_cons, add, asFloat?]

theorem foldlM_add_of_not_int (vs : List MeasureValue) (hvs : ∀ v ∈ vs, v.asFloat?.isSome)
    (hd : ∃ v ∈ vs, v.asInt? = none) (a : Int) :
    ∃ y, vs.foldlM add (int a) = some (double y) := by
  induction vs generalizing a with
  | nil => simp at hd
  | cons v vs ih =>
    have hvs' : ∀ w ∈ vs, w.asFloat?.isSome := fun w hw => hvs w (by simp [hw])
    cases v with
    | int b =>
      have hd' : ∃ v ∈ vs, v.asInt? = none := by simpa [asInt?] using hd
      simpa [List.foldlM_cons, add] using ih hvs' hd' (wrap64 (a + b))
    | double z =>
      simpa [List.foldlM_cons, add, asFloat?] using foldlM_add_double vs hvs' _
    | blocks bs => simp [asFloat?] at hvs
    | distribution d => simp [asFloat?] at hvs

end MeasureValue

namespace SourceTree

open MeasureValue

/-! ### Sums of values -/

theorem sumValues_map_int (l : List Int) (hl : l ≠ []) :
    ∃ n, sumValues (l.map int) = some (int n) := by
  obtain ⟨a, l, rfl⟩ := List.exists_cons_of_ne_nil hl
  exact ⟨_, foldlM_add_int l a⟩

theorem sumValues_map_int_exact (l : List Int) (hl : l ≠ [])
    (h : ∀ k, -2 ^ 63 ≤ (l.take k).sum ∧ (l.take k).sum < 2 ^ 63) :
    sumValues (l.map int) = some (int l.sum) := by
  obtain ⟨a, l, rfl⟩ := List.exists_cons_of_ne_nil hl
  rw [List.map_cons, sumValues, foldlM_add_int, foldl_wrap64 l a fun k => by
    simpa using h (k + 1), List.sum_cons]

theorem sumValues_double (vs : List MeasureValue) (hl : vs ≠ [])
    (hvs : ∀ v ∈ vs, v.asFloat?.isSome) (hd : ∃ v ∈ vs, v.asInt? = none) :
    ∃ x, sumValues vs = some (double x) := by
  obtain ⟨v, vs, rfl⟩ := List.exists_cons_of_ne_nil hl
  have hvs' : ∀ w ∈ vs, w.asFloat?.isSome := fun w hw => hvs w (by simp [hw])
  cases v with
  | int a => exact foldlM_add_of_not_int vs hvs' (by simpa [asInt?] using hd) a
  | double x => exact foldlM_add_double vs hvs' x
  | blocks bs => simp [asFloat?] at hvs
  | distribution d => simp [asFloat?] at hvs

theorem sumValues_map_natCast (l : List Nat) (hl : l.sum < 2 ^ 63) :
    sumValues (l.map fun n : Nat => int n) = if l = [] then none else some (int l.sum) := by
  split
  · next h => simp [h, sumValues]
  · next h =>
    have hexact := sumValues_map_int_exact (l.map Nat.cast) (by simpa using h) fun k => by
      have hk := List.sum_take_add_sum_drop l k
      rw [← List.map_take]
      push_cast [← Nat.cast_list_sum]
      omega
    simpa [List.map_map, Function.comp_def, Nat.cast_list_sum] using hexact

theorem filterMap_counts (l : List Nat) :
    (l.filterMap fun n : Nat => if n = 0 then none else some (int n)) =
      (l.filter (· ≠ 0)).map fun n : Nat => int n := by
  induction l with
  | nil => rfl
  | cons n l ih => by_cases hn : n = 0 <;> simp [hn, ih]

theorem sum_filter_ne_zero (l : List Nat) : (l.filter (· ≠ 0)).sum = l.sum := by
  induction l with
  | nil => rfl
  | cons n l ih =>
    by_cases hn : n = 0
    · rw [List.filter_cons_of_neg (by simp [hn]), ih, List.sum_cons, hn, Nat.zero_add]
    · rw [List.filter_cons_of_pos (by simp [hn]), List.sum_cons, List.sum_cons, ih]

theorem sumValues_counts (l : List Nat) (hl : l.sum < 2 ^ 63) :
    sumValues (l.filterMap fun n : Nat => if n = 0 then none else some (int n)) =
      if l.sum = 0 then none else some (int l.sum) := by
  have hnil : l.filter (· ≠ 0) = [] ↔ l.sum = 0 := by
    simp [List.filter_eq_nil_iff, List.sum_eq_zero_iff_forall_eq_nat]
  rw [filterMap_counts, sumValues_map_natCast _ (sum_filter_ne_zero l ▸ hl), sum_filter_ne_zero]
  simp only [hnil]

/-! ### Counting -/

theorem measure?_of_size_le (t : SourceTree) {i : Nat} (hi : t.size ≤ i) (m : Metric) :
    t.measure? i m = none := by
  rw [measure?, node_eq_default hi]
  rfl

theorem countMetric?_of_mem {p : Scope × Metric} (hp : p ∈ [(Scope.method, Metric.functions),
    (.cls, .classes), (.file, .files), (.package, .packages)]) : p.1.countMetric? = some p.2 := by
  simp only [List.mem_cons, List.not_mem_nil, or_false] at hp
  rcases hp with rfl | rfl | rfl | rfl <;> rfl

theorem writes_countPass (t : SourceTree) (s : Scope) (n : Metric) :
    Writes t ((t.ids s).foldl (fun t id => t.setMeasure id n (int 1)) t)
      fun j n' => j < t.size ∧ (t.node j).scope = s ∧ n' = n :=
  Writes.foldl fun _ _ _ hj => writes_setMeasure_of ⟨(mem_ids.mp hj).1, (mem_ids.mp hj).2, rfl⟩ _

theorem writes_countPass_of_sameShape {t t' : SourceTree} (ht' : t'.SameShape t) (s : Scope)
    (n : Metric) : Writes t' ((t'.ids s).foldl (fun t id => t.setMeasure id n (int 1)) t')
      fun j n' => j < t.size ∧ (t.node j).scope = s ∧ n' = n :=
  (writes_countPass t' s n).mono fun j _ ⟨hj, hs, hn⟩ =>
    ⟨ht'.size_eq ▸ hj, ht'.scope_node j ▸ hs, hn⟩

theorem writes_setLeafCounts (t : SourceTree) :
    Writes t t.setLeafCounts fun j n => j < t.size ∧ (t.node j).scope.countMetric? = some n := by
  refine Writes.foldl fun t' ht' p hp => ?_
  obtain ⟨s, n⟩ := p
  refine (writes_countPass_of_sameShape ht' s n).mono fun j n' ⟨hj, hs, hn⟩ => ⟨hj, ?_⟩
  rw [hs, hn]
  exact countMetric?_of_mem hp

/-- Each method, class, file and package counts one of its kind; nothing else changes. -/
theorem measure?_setLeafCounts (t : SourceTree) (i : Nat) (m : Metric) :
    t.setLeafCounts.measure? i m =
      if i < t.size ∧ (t.node i).scope.countMetric? = some m then some (int 1)
      else t.measure? i m := by
  split
  · next hc =>
    obtain ⟨hi, hm⟩ := hc
    have hpair : ((t.node i).scope, m) ∈ [(Scope.method, Metric.functions),
        (.cls, .classes), (.file, .files), (.package, .packages)] := by
      revert hm
      cases (t.node i).scope <;> simp [Scope.countMetric?, eq_comm]
    -- the pass over the node's level sets it; the other passes count other levels
    refine measure?_foldl_of_writes (by decide) hpair
      (fun t' ht' p _ => writes_countPass_of_sameShape ht' p.1 p.2) ?_ fun t' ht' => ?_
    · rintro ⟨s, n⟩ - hne ⟨-, hs, hn⟩
      exact hne (Prod.ext hs.symm hn.symm)
    · have hids : i ∈ t'.ids (t.node i).scope := by
        rw [ht'.ids_eq]
        exact mem_ids.mpr ⟨hi, rfl⟩
      refine measure?_foldl_of_writes (List.nodup_range.filter _) hids
        (w := fun y j _ => j = y) (fun _ _ _ _ => writes_setMeasure_of rfl _)
        (fun _ _ hne h => hne h.symm) fun t'' ht'' => ?_
      rw [measure?_setMeasure, if_pos ⟨rfl, by rw [ht''.size_eq, ht'.size_eq]; exact hi, rfl⟩]
  · next hc => exact (writes_setLeafCounts t).keep i m hc

/-! ### Summing up -/

theorem measure?_sumAt_self (t : SourceTree) (i : Nat) (m : Metric) :
    (t.sumAt i m).measure? i m = (t.measure? i m).or
      (sumValues ((t.node i).children.toList.filterMap fun c => t.measure? c m)) := by
  unfold sumAt
  cases hm : t.measure? i m with
  | some v => simp [hm]
  | none =>
    simp only [Option.isSome_none, Bool.false_eq_true, ite_false, Option.none_or]
    split
    · next total htotal =>
      have hi : i < t.size := by
        by_contra hi
        rw [node_eq_default (not_lt.mp hi)] at htotal
        simp [sumValues] at htotal
      rw [measure?_setMeasure, if_pos ⟨rfl, hi, rfl⟩, htotal]
    · next htotal => rw [hm, htotal]

theorem writes_sumAll (t : SourceTree) (id : Nat) :
    Writes t (Metric.summed.foldl (fun t m => t.sumAt id m) t) fun i _ => i = id :=
  Writes.foldl fun t' _ m _ => (writes_sumAt t' id m).mono fun _ _ h => h.1

theorem measure?_sumAll_self (t : SourceTree) (id : Nat) {m : Metric}
    (hm : m ∈ Metric.summed) :
    (Metric.summed.foldl (fun t m => t.sumAt id m) t).measure? id m =
      (t.sumAt id m).measure? id m := by
  obtain ⟨ms₁, ms₂, hsplit, h₁, h₂⟩ := Writes.foldl_split hm (t := t)
    (w := fun m' i n => i = id ∧ n = m') fun t' _ m' _ => writes_sumAt t' id m'
  have hnd : m ∉ ms₁ ++ ms₂ :=
    (List.nodup_cons.mp (List.nodup_middle.mp (hsplit ▸ (by decide : Metric.summed.Nodup)))).1
  have hkeep : ∀ j, (ms₁.foldl (fun t m => t.sumAt id m) t).measure? j m = t.measure? j m :=
    fun j => h₁.keep j m fun ⟨m', hm', _, h⟩ => hnd (List.mem_append_left _ (h ▸ hm'))
  rw [h₂.keep id m fun ⟨m', hm', _, h⟩ => hnd (List.mem_append_right _ (h ▸ hm')),
    measure?_sumAt_self, measure?_sumAt_self]
  simp only [hkeep, h₁.shape.children_node]

theorem writes_sumUp (t : SourceTree) : Writes t t.sumUp fun _ n => n ∈ Metric.summed :=
  Writes.foldl fun _ _ _ _ => Writes.foldl fun t'' _ m hm =>
    (writes_sumAt t'' _ m).mono fun _ _ h => h.2 ▸ hm

/-- After summing up, a node of a linked tree has its own value of a summed metric, else the
sum of the values its children end with. -/
theorem measure?_sumUp {t : SourceTree} (h : t.Linked) {m : Metric} (hm : m ∈ Metric.summed)
    (i : Nat) : t.sumUp.measure? i m = (t.measure? i m).or
      (sumValues ((t.node i).children.toList.filterMap fun c => t.sumUp.measure? c m)) := by
  by_cases hi : i < t.size
  swap
  · -- past the last node there is nothing to sum
    have hle : t.size ≤ i := not_lt.mp hi
    rw [measure?_of_size_le _ (by rw [(writes_sumUp t).shape.size_eq]; exact hle),
      measure?_of_size_le _ hle, node_eq_default hle]
    rfl
  have hnd : t.postOrder.Nodup := h.postOrder_perm.nodup_iff.mpr List.nodup_range
  obtain ⟨l₁, l₂, hsplit, h₁, h₂⟩ := Writes.foldl_split (h.mem_postOrder.mpr hi)
    (t := t) (w := fun y j _ => j = y) fun t' _ y _ => writes_sumAll t' y
  have hi' : i ∉ l₁ ++ l₂ := (List.nodup_cons.mp (List.nodup_middle.mp (hsplit ▸ hnd))).1
  -- the post-order visits every child of `i` before `i`, so no later step writes it
  have hchild : ∀ c ∈ (t.node i).children.toList, c ≠ i ∧ c ∉ l₂ := by
    intro c hc
    have hp : (t.node c).parent = some i := (h.mem_children i c).mp (Array.mem_toList_iff.mp hc)
    refine ⟨fun hci => absurd (h.parent_lt c i hp) (by omega), fun hc₂ => ?_⟩
    have hpw := h.postOrder_pairwise
    rw [hsplit, List.pairwise_append, List.pairwise_cons] at hpw
    exact hpw.2.1.1 c hc₂ (.single hp)
  have hfinal : ∀ c ∈ (t.node i).children.toList,
      t.sumUp.measure? c m = (l₁.foldl (fun t id => Metric.summed.foldl
        (fun t m => t.sumAt id m) t) t).measure? c m := by
    intro c hc
    obtain ⟨hci, hc₂⟩ := hchild c hc
    rw [sumUp, h₂.keep c m fun ⟨y, hy, h⟩ => hc₂ (h ▸ hy), (writes_sumAll _ i).keep c m hci]
  have hself : t.sumUp.measure? i m = ((l₁.foldl (fun t id => Metric.summed.foldl
      (fun t m => t.sumAt id m) t) t).sumAt i m).measure? i m := by
    rw [sumUp, h₂.keep i m fun ⟨y, hy, h⟩ => hi' (List.mem_append_right _ (h ▸ hy)),
      measure?_sumAll_self _ _ hm]
  rw [hself, measure?_sumAt_self, h₁.shape.children_node,
    h₁.keep i m fun ⟨y, hy, h⟩ => hi' (List.mem_append_left _ (h ▸ hy))]
  congr 2
  exact List.filterMap_congr fun c hc => (hfinal c hc).symm

/-! ### Aggregation -/

theorem measure?_aggregate_eq_sumUp (t : SourceTree) (deps : DependencyGraph) (c : EngineConfig)
    {m : Metric} (hm : m ∈ Metric.summed) (i : Nat) :
    (t.aggregate deps c).measure? i m = t.setLeafCounts.sumUp.measure? i m := by
  obtain ⟨project, v₁, v₂, h⟩ := aggregate_eq t deps c
  have hrollup := writes_aggregate_rollups c deps (t.setLeafCounts.sumUp.setCoupling deps)
    project v₁ v₂
  have hnot : ¬ (m ∈ rollupMetrics ∨ m = .fileEdgesWeight ∨ m = .fileCycles ∨
      m = .packageEdgesWeight ∨ m = .packageCycles) ∧ ¬ (m = .ca ∨ m = .ce) := by
    simp only [Metric.summed, List.mem_cons, List.not_mem_nil, or_false] at hm
    rcases hm with rfl | rfl | rfl | rfl | rfl | rfl | rfl | rfl | rfl <;> simp [rollupMetrics]
  rw [h, hrollup.keep i m hnot.1, (writes_setCoupling _ deps).keep i m hnot.2]

theorem measure?_aggregate_of_summed {t : SourceTree} (h : t.Linked) (deps : DependencyGraph)
    (c : EngineConfig) {m : Metric} (hm : m ∈ Metric.summed) (i : Nat) :
    (t.aggregate deps c).measure? i m =
      if i < t.size ∧ (t.node i).scope.countMetric? = some m then some (int 1)
      else (t.measure? i m).or (sumValues ((t.node i).children.toList.filterMap
        fun k => (t.aggregate deps c).measure? k m)) := by
  have hcount := writes_setLeafCounts t
  simp only [measure?_aggregate_eq_sumUp t deps c hm]
  rw [measure?_sumUp (h.of_sameShape hcount.shape) hm, measure?_setLeafCounts,
    hcount.shape.children_node]
  split
  · rfl
  · rfl

/-! ### Counts -/

variable {t : SourceTree}

theorem Grown.encloses_of_parent (h : t.Grown Scope.Encloses) {j q : Nat}
    (hq : (t.node j).parent = some q) : (t.node q).scope.Encloses (t.node j).scope :=
  (isWellFormed_iff.mp h.isWellFormed j (lt_size_of_parent hq)).2 q hq

theorem Grown.depth_lt_of_strictlyBelow (h : t.Grown Scope.Encloses) {d a : Nat}
    (hb : t.StrictlyBelow d a) : (t.node a).scope.depth < (t.node d).scope.depth := by
  induction hb with
  | single hp => rw [(h.encloses_of_parent hp).depth_eq]; omega
  | tail _ hp ih => rw [(h.encloses_of_parent hp).depth_eq] at ih; omega

open Classical in
/-- The nodes of level `s` at or below node `i`. -/
noncomputable def levelBelow (t : SourceTree) (s : Scope) (i : Nat) : Finset Nat :=
  (Finset.range t.size).filter fun j => (t.node j).scope = s ∧ t.Below j i

theorem mem_levelBelow {s : Scope} {i j : Nat} :
    j ∈ t.levelBelow s i ↔ j < t.size ∧ (t.node j).scope = s ∧ t.Below j i := by
  simp [levelBelow]

/-- A node of level `s` is the only node of that level at or below it; any other node has
below it the nodes of level `s` below its children, which are apart. -/
theorem Grown.card_levelBelow (h : t.Grown Scope.Encloses) {s : Scope} {i : Nat}
    (hi : i < t.size) : (t.levelBelow s i).card = if (t.node i).scope = s then 1
      else ((t.node i).children.toList.map fun c => (t.levelBelow s c).card).sum := by
  have hl := h.linked
  split
  · next hs =>
    rw [Finset.card_eq_one]
    refine ⟨i, Finset.eq_singleton_iff_unique_mem.mpr ⟨mem_levelBelow.mpr ⟨hi, hs, .refl⟩, ?_⟩⟩
    intro j hj
    obtain ⟨-, hjs, hb⟩ := mem_levelBelow.mp hj
    rcases Relation.reflTransGen_iff_eq_or_transGen.mp hb with rfl | hsb
    · rfl
    · have := h.depth_lt_of_strictlyBelow hsb
      rw [hs, hjs] at this
      omega
  · next hs =>
    classical
    have hunion : t.levelBelow s i =
        (t.node i).children.toList.toFinset.biUnion (t.levelBelow s) := by
      ext j
      simp only [mem_levelBelow, Finset.mem_biUnion, List.mem_toFinset, Array.mem_toList_iff]
      constructor
      · rintro ⟨hj, hjs, hb⟩
        rcases (hl.below_iff_children).mp hb with rfl | ⟨c, hc, hbc⟩
        · exact absurd hjs hs
        · exact ⟨c, hc, hj, hjs, hbc⟩
      · rintro ⟨c, hc, hj, hjs, hbc⟩
        exact ⟨hj, hjs, (hl.below_iff_children).mpr (.inr ⟨c, hc, hbc⟩)⟩
    rw [hunion, Finset.card_biUnion, List.sum_toFinset _ (hl.nodup_children i)]
    -- the subtrees of two children share no node
    intro c₁ hc₁ c₂ hc₂ hne
    refine Finset.disjoint_left.mpr fun j hj₁ hj₂ => ?_
    have hp : ∀ {c}, c ∈ (t.node i).children.toList.toFinset → (t.node c).parent = some i :=
      fun hc => (hl.mem_children i _).mp (Array.mem_toList_iff.mp (List.mem_toFinset.mp hc))
    exact hl.not_below_siblings (hp hc₁) (hp hc₂) hne (mem_levelBelow.mp hj₁).2.2
      (mem_levelBelow.mp hj₂).2.2

theorem card_levelBelow_le (s : Scope) (i : Nat) : (t.levelBelow s i).card ≤ t.size := by
  classical
  unfold levelBelow
  exact (Finset.card_filter_le _ _).trans (Finset.card_range _).le

/-- When no node carries the count of a level, aggregation gives each node the number of
nodes of that level at or below it, and nothing where there are none. -/
theorem Grown.measure?_aggregate_count (h : t.Grown Scope.Encloses) (deps : DependencyGraph)
    (c : EngineConfig) {s : Scope} {m : Metric} (hsm : s.countMetric? = some m)
    (hnone : ∀ j, t.measure? j m = none) (hsize : t.size < 2 ^ 63) {i : Nat} (hi : i < t.size) :
    (t.aggregate deps c).measure? i m =
      if (t.levelBelow s i).card = 0 then none else some (int (t.levelBelow s i).card) := by
  have hm := Scope.mem_summed_of_countMetric? hsm
  -- induction on the nodes after `i`: children are numbered after their parent
  obtain ⟨n, hn⟩ : ∃ n, t.size - i = n := ⟨_, rfl⟩
  induction n using Nat.strong_induction_on generalizing i with
  | _ n ih =>
    rw [measure?_aggregate_of_summed h.linked deps c hm, h.card_levelBelow hi]
    by_cases hs : (t.node i).scope = s
    · rw [if_pos ⟨hi, hs ▸ hsm⟩, if_pos hs]
      rfl
    · have hns : ¬ (i < t.size ∧ (t.node i).scope.countMetric? = some m) :=
        fun ⟨_, h'⟩ => hs (Scope.countMetric?_inj h' hsm)
      rw [if_neg hns, if_neg hs, hnone i, Option.none_or]
      have hchild : ∀ k ∈ (t.node i).children.toList, (t.aggregate deps c).measure? k m =
          if (t.levelBelow s k).card = 0 then none else some (int (t.levelBelow s k).card) := by
        intro k hk
        have hp := (h.linked.mem_children i k).mp (Array.mem_toList_iff.mp hk)
        have hik := h.linked.parent_lt k i hp
        have hk' := lt_size_of_parent hp
        exact ih (t.size - k) (by omega) hk' rfl
      have hcard := h.card_levelBelow (s := s) hi
      rw [if_neg hs] at hcard
      have hsum := sumValues_counts _ (hcard ▸ (card_levelBelow_le s i).trans_lt hsize)
      rw [List.filterMap_map] at hsum
      rw [List.filterMap_congr hchild]
      exact hsum


/-- What aggregation leaves in the summed metrics of a grown tree. At each node: one for the
count of its own level, else the value it had, else the sum of what its children end with, and
nothing when no child has a value. Where no count is supplied, each count is therefore the
number of nodes of its level at or below the node, when there are any. A sum of integers is an
integer, exact while no partial sum leaves 64 bits; a sum of numbers that are not all integers
is a double. -/
theorem aggregate_sums_children (t : SourceTree) (ht : t.Grown Scope.Encloses)
    (deps : DependencyGraph) (c : EngineConfig) :
    (∀ m ∈ Metric.summed, ∀ i < t.size, (t.aggregate deps c).measure? i m =
      if (t.node i).scope.countMetric? = some m then some (int 1)
      else (t.measure? i m).or (sumValues ((t.node i).children.toList.filterMap
        fun k => (t.aggregate deps c).measure? k m))) ∧
    (∀ s m, s.countMetric? = some m → (∀ j, t.measure? j m = none) → t.size < 2 ^ 63 →
      ∀ i < t.size, (t.aggregate deps c).measure? i m =
        if (t.levelBelow s i).card = 0 then none else some (int (t.levelBelow s i).card)) ∧
    (∀ l : List Int, l ≠ [] → ∃ n, sumValues (l.map int) = some (int n)) ∧
    (∀ l : List Int, l ≠ [] → (∀ k, -2 ^ 63 ≤ (l.take k).sum ∧ (l.take k).sum < 2 ^ 63) →
      sumValues (l.map int) = some (int l.sum)) ∧
    (∀ vs : List MeasureValue, vs ≠ [] → (∀ v ∈ vs, v.asFloat?.isSome) →
      (∃ v ∈ vs, v.asInt? = none) → ∃ x, sumValues vs = some (double x)) := by
  refine ⟨fun m hm i hi => ?_, fun s m hsm hnone hsize i hi =>
    ht.measure?_aggregate_count deps c hsm hnone hsize hi, sumValues_map_int,
    sumValues_map_int_exact, sumValues_double⟩
  rw [measure?_aggregate_of_summed ht.linked deps c hm]
  simp only [hi, true_and]

theorem aggregate_sums_children_twoPackages :
    let t := ofClassNames "app" ["app/Main", "app/Util", "lib/Log"]
    t.Grown Scope.Encloses ∧
      ∀ m ∈ Metric.summed, ∀ i < t.size, (t.aggregate {} {}).measure? i m =
        if (t.node i).scope.countMetric? = some m then some (int 1)
        else (t.measure? i m).or (sumValues ((t.node i).children.toList.filterMap fun k =>
          (t.aggregate {} {}).measure? k m)) :=
  ⟨(ofClassNames_spec _ _).1,
    (aggregate_sums_children _ (ofClassNames_spec _ _).1 {} {}).1⟩

end SourceTree

end ClassMetrics
