import ClassMetrics.Proofs.Dependency.Accounts
import ClassMetrics.Proofs.Dependency.Visit

/-!
Measuring classes in any order. A class writes its measures at the node of its key, computed
from the graph alone, and records its dependencies against the containers of the tree, which
measuring never changes. So when the classes have distinct keys, the measures a run leaves do
not depend on the order of the classes; nor do the dependencies, since at each level and pair
of keys the graph keeps the strongest usage and the summed weight of what was recorded there.
-/

namespace ClassMetrics

namespace Usage

theorem strongest_right_comm (a b c : Usage) :
    (a.strongest b).strongest c = (a.strongest c).strongest b :=
  eq_of_rank_eq (by simp only [rank_strongest]; omega)

end Usage

namespace DependencyGraph

theorem summary_perm {es es' : List Dependency} (h : es.Perm es') (k : Scope × String × String) :
    summary k es = summary k es' := by
  unfold summary
  by_cases hnil : es = []
  · subst hnil
    rw [List.Perm.eq_nil h.symm]
  · have hnil' : es' ≠ [] := fun h' => hnil (List.Perm.eq_nil (h' ▸ h))
    rw [if_neg hnil, if_neg hnil', (h.map _).sum_eq,
      (h.map _).foldl_eq' fun _ _ _ _ z => Usage.strongest_right_comm z _ _]

/-- Recording a list of dependencies into the empty graph gives the same dependencies, in some
order, whatever the order of the list. -/
theorem edges_foldl_record_perm {es es' : List Dependency} (h : es.Perm es') :
    (es.foldl record {}).edges.toList.Perm (es'.foldl record {}).edges.toList := by
  have hwf := foldl_record_wellFormed wellFormed_empty es
  have hwf' := foldl_record_wellFormed wellFormed_empty es'
  -- the look-ups agree at every level and pair of keys
  have hedge : ∀ s a b, (es.foldl record {}).edge? s a b = (es'.foldl record {}).edge? s a b := by
    intro s a b
    by_cases hab : a = b
    · subst hab
      have hnone : ∀ {d : DependencyGraph}, d.WellFormed → d.edge? s a a = none :=
        fun hd => edge?_eq_none_iff.mpr fun e he hends => hd.irrefl e he (by
          simp only [Dependency.ends, Prod.mk.injEq] at hends
          rw [hends.2.1, hends.2.2])
      rw [hnone hwf, hnone hwf']
    · rw [edge?_foldl_record_empty es hab, edge?_foldl_record_empty es' hab,
        summary_perm (h.filter _)]
  refine (List.perm_ext_iff_of_nodup (hwf.ends_nodup.of_map _) (hwf'.ends_nodup.of_map _)).mpr
    fun e => ?_
  have he := hedge e.scope e.source e.target
  constructor
  · intro hmem
    exact (hwf'.edge?_eq_some_iff.mp (he ▸ hwf.edge?_eq_some_iff.mpr ⟨hmem, rfl⟩)).1
  · intro hmem
    exact (hwf.edge?_eq_some_iff.mp (he.symm ▸ hwf'.edge?_eq_some_iff.mpr ⟨hmem, rfl⟩)).1

end DependencyGraph

namespace SourceTree

/-- Setting measures of distinct metrics at a node in turn leaves there the value each was
given, and every other measure as it was. -/
theorem measure?_foldl_setMeasure (t : SourceTree) {id : Nat} (hid : id < t.size)
    (ms : List (Metric × MeasureValue)) (hms : (ms.map Prod.fst).Nodup) (j : Nat) (m : Metric) :
    (ms.foldl (fun t x => t.setMeasure id x.1 x.2) t).measure? j m =
      if j = id then ((ms.find? (·.1 = m)).map (·.2)).or (t.measure? j m)
      else t.measure? j m := by
  induction ms generalizing t with
  | nil => split <;> rfl
  | cons x ms ih =>
    obtain ⟨hx, hms⟩ := List.nodup_cons.mp hms
    have hid' : id < (t.setMeasure id x.1 x.2).size := by
      rw [(setMeasure_sameShape _ _ _ _).size_eq]
      exact hid
    rw [List.foldl_cons, ih _ hid' hms, measure?_setMeasure]
    by_cases hj : j = id
    · subst hj
      by_cases hm : x.1 = m
      · -- the metric set first is set nowhere after
        have hnone : ms.find? (·.1 = m) = none :=
          List.find?_eq_none.mpr fun y hy hym => hx (by
            rw [hm, ← of_decide_eq_true hym]
            exact List.mem_map_of_mem hy)
        simp [hm, hid, hnone]
      · simp [hm]
    · simp [hj, Ne.symm hj]

end SourceTree

theorem find?_fst_of_nodup {α β : Type} [DecidableEq α] {xs : List (α × β)}
    (hxs : (xs.map Prod.fst).Nodup) {x : α × β} (hx : x ∈ xs) :
    xs.find? (·.1 = x.1) = some x := by
  induction xs with
  | nil => cases hx
  | cons y xs ih =>
    obtain ⟨hy, hxs⟩ := List.nodup_cons.mp hxs
    rcases List.mem_cons.mp hx with rfl | hx
    · simp
    · have hne : y.1 ≠ x.1 := fun h => hy (h ▸ List.mem_map_of_mem hx)
      rw [List.find?_cons_of_neg (by simpa using hne)]
      exact ih hxs hx

namespace StructuralGraph

theorem nodup_classMeasures (g : StructuralGraph) (c : EngineConfig) (cls : Nat)
    (node : ClassNode) : ((g.classMeasures c cls node).map Prod.fst).Nodup := by
  simp [classMeasures]

end StructuralGraph

open SourceTree

theorem measureClass_fst (g : StructuralGraph) (c : EngineConfig) (t : SourceTree)
    (d : DependencyGraph) (cls : Nat) :
    (measureClass g c (t, d) cls).1 = match g.classNode? cls, t.find? .cls (g.key cls) with
      | some node, some id => (g.classMeasures c cls node).foldl
          (fun t x => t.setMeasure id x.1 x.2) t
      | _, _ => t := by
  unfold measureClass
  cases hn : g.classNode? cls with
  | none => rfl
  | some node =>
    cases hf : t.find? .cls (g.key cls) with
    | none => simp [containers?_eq_none.mpr hf]
    | some id =>
      obtain ⟨source, hc⟩ : ∃ source, t.containers? (g.key cls) = some source := by
        simp [SourceTree.containers?, hf]
      simp only [hc, hf]

theorem foldl_measureClass_fst (g : StructuralGraph) (c : EngineConfig) (l : List Nat)
    (t : SourceTree) (d : DependencyGraph) :
    (l.foldl (measureClass g c) (t, d)).1 =
      l.foldl (fun t cls => (measureClass g c (t, {}) cls).1) t :=
  foldl_fst_eq l (fun q cls => by rw [measureClass_fst, measureClass_fst]) (t, d)

theorem writes_measureClass (g : StructuralGraph) (c : EngineConfig) {t t' : SourceTree}
    (ht' : t'.SameShape t) (cls : Nat) :
    Writes t' (measureClass g c (t', {}) cls).1 fun i m => t.find? .cls (g.key cls) = some i ∧
      ∃ node, g.classNode? cls = some node ∧ m ∈ (g.classMeasures c cls node).map Prod.fst := by
  rw [measureClass_fst, ht'.find?_eq]
  split
  · next node id hn hf =>
    exact Writes.foldl fun _ _ x hx => writes_setMeasure_of ⟨hf, node, hn, List.mem_map_of_mem hx⟩ _
  · exact Writes.refl t' _

section Run

variable (g : StructuralGraph) (c : EngineConfig) (t : SourceTree) (d : DependencyGraph)
  {l : List Nat}

theorem writes_foldl_measureClass :
    Writes t (l.foldl (measureClass g c) (t, d)).1 fun i m => ∃ cls ∈ l,
      t.find? .cls (g.key cls) = some i ∧
        ∃ node, g.classNode? cls = some node ∧ m ∈ (g.classMeasures c cls node).map Prod.fst := by
  rw [foldl_measureClass_fst]
  exact Writes.foldl fun t' ht' cls hcls =>
    (writes_measureClass g c ht' cls).mono fun _ _ h => ⟨cls, hcls, h⟩

/-- After measuring classes of distinct keys in turn, the node of a class that the graph and
the tree hold carries the class's measures, computed from the graph alone, over the measures
it had. -/
theorem measure?_foldl_measureClass_of_mem (hkeys : (l.map g.key).Nodup) {cls : Nat}
    (hcls : cls ∈ l) {node : ClassNode} (hn : g.classNode? cls = some node) {id : Nat}
    (hf : t.find? .cls (g.key cls) = some id) (m : Metric) :
    (l.foldl (measureClass g c) (t, d)).1.measure? id m =
      (((g.classMeasures c cls node).find? (·.1 = m)).map (·.2)).or (t.measure? id m) := by
  -- no other class of the run writes at this node: its key is the class's
  have hother : ∀ y ∈ l, t.find? .cls (g.key y) = some id → y = cls := fun y hy hfy =>
    List.inj_on_of_nodup_map hkeys hy hcls
      ((find?_eq_some hfy).2.2.symm.trans (find?_eq_some hf).2.2)
  by_cases hm : m ∈ (g.classMeasures c cls node).map Prod.fst
  · -- the class writes the metric, and only the class writes it there
    obtain ⟨x, hx, rfl⟩ := List.mem_map.mp hm
    rw [find?_fst_of_nodup (g.nodup_classMeasures c cls node) hx, foldl_measureClass_fst]
    refine measure?_foldl_of_writes (hkeys.of_map _) hcls (fun t' ht' y _ =>
      writes_measureClass g c ht' y) (fun y hy hne ⟨hfy, _⟩ => hne (hother y hy hfy))
      fun t' ht' => ?_
    have hid : id < t'.size := by
      rw [ht'.size_eq]
      exact (find?_eq_some hf).1
    rw [measureClass_fst, ht'.find?_eq, hn, hf]
    dsimp only
    rw [measure?_foldl_setMeasure t' hid _ (g.nodup_classMeasures c cls node), if_pos rfl,
      find?_fst_of_nodup (g.nodup_classMeasures c cls node) hx]
    rfl
  · -- nothing in the run writes the metric there
    have hkeep : ¬ ∃ y ∈ l, t.find? .cls (g.key y) = some id ∧
        ∃ node', g.classNode? y = some node' ∧ m ∈ (g.classMeasures c y node').map Prod.fst :=
      fun ⟨y, hy, hfy, node', hn', hm'⟩ => by
        obtain rfl := hother y hy hfy
        rw [hn] at hn'
        cases hn'
        exact hm hm'
    have hnone : (g.classMeasures c cls node).find? (·.1 = m) = none :=
      List.find?_eq_none.mpr fun x hx hxm => hm (of_decide_eq_true hxm ▸ List.mem_map_of_mem hx)
    rw [(writes_foldl_measureClass g c t d).keep id m hkeep, hnone]
    rfl

theorem measure?_foldl_measureClass_of_not_mem {id : Nat}
    (hid : ∀ cls ∈ l, (g.classNode? cls).isSome → t.find? .cls (g.key cls) ≠ some id)
    (m : Metric) : (l.foldl (measureClass g c) (t, d)).1.measure? id m = t.measure? id m :=
  (writes_foldl_measureClass g c t d).keep id m fun ⟨cls, hcls, hf, node, hn, _⟩ =>
    hid cls hcls (by rw [hn]; rfl) hf

end Run

/-- Measuring classes carries nothing from one class to the next. In whatever order a list of
classes with distinct keys (in a well-formed graph, distinct classes) is measured, every node
of the tree ends with the same measures and the dependencies are the same; the node of each
class that the graph and the tree hold carries the class's own measures, computed from the
graph alone, and every other node keeps its own. -/
theorem measureClasses_order_free (g : StructuralGraph) (c : EngineConfig) (t : SourceTree)
    {l₁ l₂ : List Nat} (hperm : l₁.Perm l₂) (hkeys : (l₁.map g.key).Nodup) :
    (∀ id m, (l₁.foldl (measureClass g c) (t, {})).1.measure? id m =
      (l₂.foldl (measureClass g c) (t, {})).1.measure? id m) ∧
    (l₁.foldl (measureClass g c) (t, {})).2.edges.toList.Perm
      (l₂.foldl (measureClass g c) (t, {})).2.edges.toList ∧
    (∀ cls ∈ l₁, ∀ node id, g.classNode? cls = some node → t.find? .cls (g.key cls) = some id →
      ∀ m, (l₁.foldl (measureClass g c) (t, {})).1.measure? id m =
        (((g.classMeasures c cls node).find? (·.1 = m)).map (·.2)).or (t.measure? id m)) ∧
    (∀ id, (∀ cls ∈ l₁, (g.classNode? cls).isSome → t.find? .cls (g.key cls) ≠ some id) →
      ∀ m, (l₁.foldl (measureClass g c) (t, {})).1.measure? id m = t.measure? id m) := by
  have hkeys₂ : (l₂.map g.key).Nodup := (hperm.map g.key).nodup_iff.mp hkeys
  refine ⟨fun id m => ?_, ?_, fun cls hcls node id hn hf m =>
    measure?_foldl_measureClass_of_mem g c t {} hkeys hcls hn hf m,
    fun id hid m => measure?_foldl_measureClass_of_not_mem g c t {} hid m⟩
  · -- a node of some class of the run has its measures in both runs, any other keeps its own
    by_cases hcls : ∃ cls ∈ l₁, ∃ node, g.classNode? cls = some node ∧
        t.find? .cls (g.key cls) = some id
    · obtain ⟨cls, hcls, node, hn, hf⟩ := hcls
      rw [measure?_foldl_measureClass_of_mem g c t {} hkeys hcls hn hf,
        measure?_foldl_measureClass_of_mem g c t {} hkeys₂ (hperm.subset hcls) hn hf]
    · have hnot : ∀ l : List Nat, l.Perm l₁ → ∀ cls ∈ l, (g.classNode? cls).isSome →
          t.find? .cls (g.key cls) ≠ some id := fun l hl cls hc hs hf => hcls
        ⟨cls, hl.subset hc, (Option.isSome_iff_exists.mp hs).imp fun _ hn => ⟨hn, hf⟩⟩
      rw [measure?_foldl_measureClass_of_not_mem g c t {} (hnot l₁ (.refl _)) m,
        measure?_foldl_measureClass_of_not_mem g c t {} (hnot l₂ hperm.symm) m]
  · obtain ⟨t₁, -, h₁⟩ := foldl_measureClass g c l₁ t {}
    obtain ⟨t₂, -, h₂⟩ := foldl_measureClass g c l₂ t {}
    rw [h₁, h₂]
    exact DependencyGraph.edges_foldl_record_perm (hperm.flatMap_right _)

/-- Measuring by visitors carries nothing from one class to the next. The standard visitors,
in whatever states an earlier walk left them, walked through a list of classes with distinct
keys (in a well-formed graph, distinct classes) in any order, leave every node of the tree with
the same measures, and the same dependencies; the node of each class that the graph and the
tree hold carries the class's own measures, computed from the graph alone, and every other node
keeps its own. -/
theorem dispatch_order_free (g : StructuralGraph) (c : EngineConfig) (t : SourceTree)
    {vs₁ vs₂ : List MetricVisitor} (hvs₁ : vs₁.map MetricVisitor.reset = MetricVisitor.standard)
    (hvs₂ : vs₂.map MetricVisitor.reset = MetricVisitor.standard) {l₁ l₂ : List Nat}
    (hperm : l₁.Perm l₂) (hkeys : (l₁.map g.key).Nodup) :
    (∀ id m, (dispatch ⟨g, c, t, {}⟩ l₁ vs₁).2.tree.measure? id m =
      (dispatch ⟨g, c, t, {}⟩ l₂ vs₂).2.tree.measure? id m) ∧
    (dispatch ⟨g, c, t, {}⟩ l₁ vs₁).2.dependencies.edges.toList.Perm
      (dispatch ⟨g, c, t, {}⟩ l₂ vs₂).2.dependencies.edges.toList ∧
    (∀ cls ∈ l₁, ∀ node id, g.classNode? cls = some node → t.find? .cls (g.key cls) = some id →
      ∀ m, (dispatch ⟨g, c, t, {}⟩ l₁ vs₁).2.tree.measure? id m =
        (((g.classMeasures c cls node).find? (·.1 = m)).map (·.2)).or (t.measure? id m)) ∧
    (∀ id, (∀ cls ∈ l₁, (g.classNode? cls).isSome → t.find? .cls (g.key cls) ≠ some id) →
      ∀ m, (dispatch ⟨g, c, t, {}⟩ l₁ vs₁).2.tree.measure? id m = t.measure? id m) := by
  rw [(dispatch_standard hvs₁ g c t {} l₁).2, (dispatch_standard hvs₂ g c t {} l₂).2]
  exact measureClasses_order_free g c t hperm hkeys

/-- Two classes, the first calling a method of the second, walked through in both orders, the
second walk by visitors left in the states of another class. -/
theorem dispatch_order_free_callerCallee :
    let g : StructuralGraph := {
      nodes := #[.cls ⟨"A", 0x21, some .structureAndCalls, none, [], [1], []⟩,
        .method ⟨"A#run()V", 0, "run", "()V", 1, true, true, none, []⟩,
        .cls ⟨"B", 0x21, some .structureAndCalls, none, [], [3], []⟩,
        .method ⟨"B#go()V", 2, "go", "()V", 1, true, true, none, []⟩]
      links := #[⟨1, 3, .uses, 1⟩] }
    let vs : List MetricVisitor := [.accessor 2, .dit, .rfc (some 7) [7] [8], .noc,
      .lcom4 (some 7) [7] [7] [(7, 8)], .dependencies none]
    vs.map MetricVisitor.reset = MetricVisitor.standard ∧ ([0, 2] : List Nat).Perm [2, 0] ∧
      ([0, 2].map g.key).Nodup ∧
      ∀ id m, (dispatch ⟨g, {}, SourceTree.ofClassNames "app" ["A", "B"], {}⟩ [0, 2]
          MetricVisitor.standard).2.tree.measure? id m =
        (dispatch ⟨g, {}, SourceTree.ofClassNames "app" ["A", "B"], {}⟩ [2, 0] vs).2.tree.measure?
          id m := by
  intro g vs
  have hvs : vs.map MetricVisitor.reset = MetricVisitor.standard := rfl
  have hp : ([0, 2] : List Nat).Perm [2, 0] := by decide
  have hk : ([0, 2].map g.key).Nodup := by decide
  exact ⟨hvs, hp, hk, (dispatch_order_free g {} _ rfl hvs hp hk).1⟩

end ClassMetrics
