import ClassMetrics.Proofs.Dependency.Rollup
import ClassMetrics.Proofs.Loader.Commute
import Mathlib

/-!
The dependencies of a successful analysis roll its graph's edges up without loss, while the
weights of the edges sum below `2 ^ 32` so that no dependency's weight wraps. Between two
classes of the tree, the first of whose keys holds no `#`, the dependency is made of the edges
from the first class or a member it declares to the second class or a member it owns; between
two files or two packages it weighs what the dependencies between their classes weigh, and it
is a use; the weight of the dependencies among the files of a package is what the dependencies
between its classes in different files weigh; no dependency joins a key to itself; and the
coupling of every class, file and package counts the keys on either side of its dependencies.
-/

namespace ClassMetrics

open DependencyGraph StructuralGraph SourceTree

namespace Analysis

/-- The edges of the graph that make one class depend on another, by the classes' keys: from
the first or a member it declares to the second or a member it owns. -/
def classLinks (a : Analysis) (A B : String) : List Link :=
  match a.graph.get? A, a.graph.get? B with
  | some i, some j => a.graph.linksBetween i j
  | _, _ => []

theorem classLinks_of_get? {a : Analysis} {A B : String} {i : Nat} (hi : a.graph.get? A = some i) :
    a.classLinks A B = match a.graph.get? B with
      | some j => a.graph.linksBetween i j
      | none => [] := by
  unfold classLinks
  rw [hi]
  cases a.graph.get? B <;> rfl

/-- How the dependencies of an analysis roll up the edges of its graph, level by level. -/
structure RollsUp (a : Analysis) : Prop where
  cls : ∀ A B, A ≠ B → (a.tree.find? .cls A).isSome → (a.tree.find? .cls B).isSome →
    Key.Plain A →
    a.dependencies.edge? .cls A B = Dependency.ofLinks (.cls, A, B) (a.classLinks A B)
  container : ∀ s, s = .file ∨ s = .package → ∀ F G, F ≠ G →
    a.dependencies.weightAt (s, F, G) = a.dependencies.weightBetween .cls
      fun A B => a.tree.containerOf s A == some F && a.tree.containerOf s B == some G
  uses : ∀ e ∈ a.dependencies.edges.toList, e.scope ≠ .cls → e.usage = .uses
  fileEdgesWeight : ∀ id ∈ a.tree.ids .package,
    a.tree.measure? id .fileEdgesWeight = some (.int (a.dependencies.weightBetween .cls
      (a.tree.across .file fun F G =>
        (a.tree.fileKeys id).contains F && (a.tree.fileKeys id).contains G)))
  irrefl : ∀ e ∈ a.dependencies.edges.toList, e.source ≠ e.target
  coupling : ∀ id < a.tree.size, (a.tree.node id).scope ∈ [Scope.cls, .file, .package] →
    (∃ xs : List String, xs.Nodup ∧
      (∀ x, x ∈ xs ↔ (a.dependencies.edge? (a.tree.node id).scope x (a.tree.node id).key).isSome) ∧
      a.tree.measure? id .ca = some (.int xs.length)) ∧
    (∃ xs : List String, xs.Nodup ∧
      (∀ x, x ∈ xs ↔ (a.dependencies.edge? (a.tree.node id).scope (a.tree.node id).key x).isSome) ∧
      a.tree.measure? id .ce = some (.int xs.length))

end Analysis

/-- Between keys `F ≠ G`, two classes lie in different containers related as `F` to `G`
exactly when their containers are `F` and `G`. -/
theorem SourceTree.across_beq (t : SourceTree) (s : Scope) {F G : String} (hFG : F ≠ G) :
    t.across s (fun x y => x == F && y == G) =
      fun A B => t.containerOf s A == some F && t.containerOf s B == some G := by
  funext A B
  unfold across
  split
  · next x y hx hy =>
    rw [hx, hy]
    by_cases h : x = F ∧ y = G
    · obtain ⟨rfl, rfl⟩ := h
      simp [hFG]
    · rcases not_and_or.mp h with h | h <;> simp [h]
  · next hnone =>
    cases hx : t.containerOf s A with
    | none => simp
    | some x =>
      cases hy : t.containerOf s B with
      | none => simp
      | some y => exact absurd hy (hnone x y hx)

/-- How a successful analysis recorded its dependencies: it visited the classes `V` of its graph
once each, among them every class of the tree `t` it measured, recording what each records
against `t`; and its tree is `t` aggregated. -/
structure Recorded (a : Analysis) (c : EngineConfig) (t : SourceTree) (V : List Nat) : Prop where
  graph : a.graph.WellFormed
  nodup : V.Nodup
  lt_size : ∀ x ∈ V, x < a.graph.size
  covers : ∀ A i, (t.find? .cls A).isSome → a.graph.get? A = some i → i ∈ V
  deps : a.dependencies = (V.flatMap (a.graph.classDependencies t)).foldl record {}
  tree : a.tree = t.aggregate a.dependencies c

theorem analyze_recorded {c : EngineConfig} {project : String} {classes libraries : ClassSource}
    {tree : Option SourceTree} {a : Analysis}
    (h : analyze c project classes libraries tree = .ok a) : ∃ t V, Recorded a c t V := by
  obtain ⟨t, hg, hnamed, -, hdeps, htree⟩ := analyze_structure h
  obtain ⟨hmem, hnd⟩ := sortedDistinct_spec (analyzedNames classes tree)
  refine ⟨t, _, hg, ?_, ?_, ?_, hdeps, htree⟩
  · -- the graph keeps one node per key
    refine hnd.filterMap fun n n' x hx hx' => ?_
    exact (key_of_get? hx).2.symm.trans (key_of_get? hx').2
  · intro x hx
    obtain ⟨n, -, hn⟩ := List.mem_filterMap.mp hx
    exact (key_of_get? hn).1
  · intro A i hA hi
    obtain ⟨id, hid⟩ := Option.isSome_iff_exists.mp hA
    exact List.mem_filterMap.mpr ⟨A, (hmem A).mpr (hnamed.mem_of_find? hid), hi⟩

namespace Recorded

variable {a : Analysis} {c : EngineConfig} {t : SourceTree} {V : List Nat}

theorem deps_wellFormed (hr : Recorded a c t V) : a.dependencies.WellFormed := by
  rw [hr.deps]
  exact foldl_record_wellFormed wellFormed_empty _

theorem sameShape (hr : Recorded a c t V) : a.tree.SameShape t := by
  rw [hr.tree]
  exact aggregate_sameShape t _ c

section Small

variable (hr : Recorded a c t V) (hsmall : (a.graph.links.toList.map (·.weight)).sum < 2 ^ 32)
include hr hsmall

/-- No level and keys gather weights that wrap. -/
theorem fit (k : Scope × String × String) :
    ({} : DependencyGraph).weightAt k +
      (((V.flatMap (a.graph.classDependencies t)).filter (·.ends = k)).map (·.weight)).sum <
      2 ^ 32 := by
  have hsub : ((V.flatMap (a.graph.classDependencies t)).filter (·.ends = k)).Sublist
      ((V.flatMap (a.graph.classDependencies t)).filter (·.scope = k.1)) :=
    List.monotone_filter_right _ fun e he => by
      simp only [decide_eq_true_eq] at he ⊢
      rw [← he]
      rfl
  calc ({} : DependencyGraph).weightAt k +
        (((V.flatMap (a.graph.classDependencies t)).filter (·.ends = k)).map (·.weight)).sum
      = (((V.flatMap (a.graph.classDependencies t)).filter (·.ends = k)).map (·.weight)).sum :=
        Nat.zero_add _
    _ ≤ (((V.flatMap (a.graph.classDependencies t)).filter (·.scope = k.1)).map
          (·.weight)).sum := (hsub.map _).sum_le_sum fun _ _ => Nat.zero_le _
    _ ≤ (a.graph.links.toList.map (·.weight)).sum :=
        hr.graph.sum_flatMap_classDependencies_le hr.nodup t k.1
    _ < 2 ^ 32 := hsmall

theorem weightWhere (p : Scope × String × String → Bool) :
    a.dependencies.weightWhere p =
      (((V.flatMap (a.graph.classDependencies t)).filter fun e =>
        e.source ≠ e.target ∧ p e.ends).map (·.weight)).sum := by
  rw [hr.deps, wellFormed_empty.weightWhere_foldl_record _ (hr.fit hsmall) p]
  exact Nat.zero_add _

theorem weightBetween_container {s : Scope} (hs : s = .file ∨ s = .package)
    (P : String → String → Bool) :
    a.dependencies.weightBetween s P = a.dependencies.weightBetween .cls (a.tree.across s P) := by
  rw [hr.sameShape.across_eq]
  unfold DependencyGraph.weightBetween
  rw [hr.weightWhere hsmall, hr.weightWhere hsmall, List.filter_flatMap, List.filter_flatMap,
    sum_map_flatMap, sum_map_flatMap]
  congr 1
  exact List.map_congr_left fun x _ => sum_classDependencies_at hs P t x

theorem weightAt_container {s : Scope} (hs : s = .file ∨ s = .package) {F G : String}
    (hFG : F ≠ G) :
    a.dependencies.weightAt (s, F, G) = a.dependencies.weightBetween .cls
      fun A B => a.tree.containerOf s A == some F && a.tree.containerOf s B == some G := by
  have hk : (fun k : Scope × String × String => decide (k = (s, F, G))) =
      fun k => decide (k.1 = s) && (k.2.1 == F && k.2.2 == G) := by
    funext ⟨s', x, y⟩
    by_cases hs' : s' = s <;> by_cases hx : x = F <;> by_cases hy : y = G <;> simp [hs', hx, hy]
  rw [← hr.deps_wellFormed.weightWhere_eq_weightAt, hk,
    show a.dependencies.weightWhere (fun k => decide (k.1 = s) && (k.2.1 == F && k.2.2 == G)) =
      a.dependencies.weightBetween s (fun x y => x == F && y == G) from rfl,
    hr.weightBetween_container hsmall hs, a.tree.across_beq s hFG]

/-- The dependency between two classes of the tree, the first of whose keys is plain, is made
of the edges between them. -/
theorem edge?_cls {A B : String} (hAB : A ≠ B) (hA : (a.tree.find? .cls A).isSome)
    (hB : (a.tree.find? .cls B).isSome) (hplain : Key.Plain A) :
    a.dependencies.edge? .cls A B = Dependency.ofLinks (.cls, A, B) (a.classLinks A B) := by
  have hg := hr.graph
  rw [hr.sameShape.find?_eq] at hA hB
  have hcont : ∀ {k}, (t.find? .cls k).isSome → (t.containers? k).isSome := fun hk => by
    cases h : t.containers? _ with
    | none => rw [containers?_eq_none.mp h] at hk; exact absurd hk (by simp)
    | some _ => rfl
  rw [hr.deps, edge?_foldl_record_empty _ hAB]
  cases hi : a.graph.get? A with
  | none =>
    -- no node has the key, so no visited class records a dependency from it
    have hcl : a.classLinks A B = [] := by simp [Analysis.classLinks, hi]
    rw [hcl, List.filter_flatMap, List.flatMap_eq_nil_iff.mpr fun x hx =>
      filter_classDependencies_eq_nil fun h =>
        get?_eq_none_iff.mp hi x (hr.lt_size x hx) h]
    rfl
  | some i =>
    obtain ⟨hilt, hik⟩ := hg.get?_eq_some_iff.mp hi
    -- the node of a plain key is a class
    obtain ⟨ci, hci⟩ := hg.classNode_of_key hilt (by rw [hik]; exact hplain)
    rw [hg.filter_flatMap_classDependencies hr.nodup hr.lt_size (hr.covers A i hA hi) hik,
      filter_classDependencies_cls hci hik hAB (hcont hA) (hcont hB)]
    rw [Analysis.classLinks_of_get? hi]
    refine Dependency.summary_ofLink (hg.filter_classEdges_perm hci B) ?_
    split
    · exact lt_of_le_of_lt
        ((List.filter_sublist.map _).sum_le_sum fun _ _ => Nat.zero_le _) hsmall
    · exact Nat.two_pow_pos 32

theorem fileEdgesWeight {id : Nat} (hid : id ∈ a.tree.ids .package) :
    a.tree.measure? id .fileEdgesWeight = some (.int (a.dependencies.weightBetween .cls
      (a.tree.across .file fun F G =>
        (a.tree.fileKeys id).contains F && (a.tree.fileKeys id).contains G))) := by
  have hshape := hr.sameShape
  rw [hshape.ids_eq] at hid
  have h := measure?_aggregate_fileEdgesWeight t a.dependencies c hid
  rw [← hr.tree, internalWeight_eq_weightBetween, hr.weightBetween_container hsmall (.inl rfl),
    ← hshape.fileKeys_eq] at h
  exact h

end Small

/-- Every dependency between files or between packages is a use. -/
theorem usage_uses (hr : Recorded a c t V) {e : Dependency}
    (he : e ∈ a.dependencies.edges.toList) (hs : e.scope ≠ .cls) : e.usage = .uses := by
  have hwf := hr.deps_wellFormed
  have hsome : a.dependencies.edge? e.scope e.source e.target = some e :=
    hwf.edge?_eq_some_iff.mpr ⟨he, rfl⟩
  rw [hr.deps, edge?_foldl_record_empty _ (hwf.irrefl e he)] at hsome
  have hu := congrArg (Option.map Dependency.usage) hsome
  unfold summary at hu
  split at hu
  · cases hu
  · rw [← Option.some.inj hu]
    -- what the classes record at these levels is a use
    refine foldl_strongest_uses _ fun u hu' => ?_
    obtain ⟨e', he', rfl⟩ := List.mem_map.mp hu'
    obtain ⟨he'm, hk⟩ := List.mem_filter.mp he'
    obtain ⟨x, -, hx⟩ := List.mem_flatMap.mp he'm
    have hscope : e'.scope = e.scope := by
      simp only [Dependency.ends, decide_eq_true_eq, Prod.mk.injEq] at hk
      exact hk.1
    exact (of_mem_classDependencies hx).2 (hscope ▸ hs)

/-- The coupling of every class, file and package counts the keys that depend on it and those
it depends on. -/
theorem coupling (hr : Recorded a c t V) {id : Nat} (hid : id < a.tree.size)
    (hs : (a.tree.node id).scope ∈ [Scope.cls, .file, .package]) :
    (∃ xs : List String, xs.Nodup ∧
      (∀ x, x ∈ xs ↔ (a.dependencies.edge? (a.tree.node id).scope x (a.tree.node id).key).isSome) ∧
      a.tree.measure? id .ca = some (.int xs.length)) ∧
    (∃ xs : List String, xs.Nodup ∧
      (∀ x, x ∈ xs ↔ (a.dependencies.edge? (a.tree.node id).scope (a.tree.node id).key x).isSome) ∧
      a.tree.measure? id .ce = some (.int xs.length)) := by
  have hshape := hr.sameShape
  rw [hshape.size_eq] at hid
  rw [hshape.scope_node] at hs ⊢
  rw [hshape.key_node]
  obtain ⟨hca, hce⟩ := measure?_aggregate_coupling t a.dependencies c hid hs
  rw [← hr.tree] at hca hce
  obtain ⟨xs, hxs, hmem, hlen⟩ :=
    hr.deps_wellFormed.afferent_eq_length (t.node id).scope (t.node id).key
  obtain ⟨ys, hys, hmem', hlen'⟩ :=
    hr.deps_wellFormed.efferent_eq_length (t.node id).scope (t.node id).key
  exact ⟨⟨xs, hxs, hmem, by rw [hca, hlen]⟩, ⟨ys, hys, hmem', by rw [hce, hlen']⟩⟩

theorem edge?_cls_eq_none (hr : Recorded a c t V) {A B : String} (hAB : A ≠ B)
    (hA : ∀ i, a.graph.get? A = some i → a.graph.classNode? i = none) :
    a.dependencies.edge? .cls A B = none := by
  have hnil : (V.flatMap fun x => (a.graph.classDependencies t x).filter
      (·.ends = (.cls, A, B))) = [] := by
    refine List.flatMap_eq_nil_iff.mpr fun x hx => ?_
    by_cases hxA : a.graph.key x = A
    · -- the node of the key is no class, so it records nothing
      have hnone := hA x (hr.graph.get?_eq_some_iff.mpr ⟨hr.lt_size x hx, hxA⟩)
      refine List.filter_eq_nil_iff.mpr fun e he _ => ?_
      obtain ⟨c', hc'⟩ := classNode?_of_mem_classDependencies he
      rw [hnone] at hc'
      cases hc'
    · exact filter_classDependencies_eq_nil hxA
  rw [hr.deps, edge?_foldl_record_empty _ hAB, List.filter_flatMap, hnil]
  rfl

end Recorded

/-- After a successful analysis whose graph's edges weigh less than `2 ^ 32` in all, the
dependencies roll up the edges of the graph level by level. -/
theorem analyze_dependencies_rollUp {c : EngineConfig} {project : String}
    {classes libraries : ClassSource} {tree : Option SourceTree} {a : Analysis}
    (h : analyze c project classes libraries tree = .ok a)
    (hsmall : (a.graph.links.toList.map (·.weight)).sum < 2 ^ 32) : a.RollsUp := by
  obtain ⟨t, V, hr⟩ := analyze_recorded h
  exact {
    cls := fun _ _ hAB hA hB hplain => hr.edge?_cls hsmall hAB hA hB hplain
    container := fun _ hs _ _ hFG => hr.weightAt_container hsmall hs hFG
    uses := fun _ he hs => hr.usage_uses he hs
    fileEdgesWeight := fun _ hid => hr.fileEdgesWeight hsmall hid
    irrefl := hr.deps_wellFormed.irrefl
    coupling := fun _ hid hs => hr.coupling hid hs }

/-- A class `A` whose field `f` has type `B`, analysed with the class `B`. -/
theorem dependencies_rollUp_fieldOfOtherClass :
    let bytesA : List UInt8 :=
      [0xca, 0xfe, 0xba, 0xbe, 0x00, 0x00, 0x00, 0x34, 0x00, 0x07, 0x01, 0x00, 0x01, 0x41,
       0x07, 0x00, 0x01, 0x01, 0x00, 0x10, 0x6a, 0x61, 0x76, 0x61, 0x2f, 0x6c, 0x61, 0x6e,
       0x67, 0x2f, 0x4f, 0x62, 0x6a, 0x65, 0x63, 0x74, 0x07, 0x00, 0x03, 0x01, 0x00, 0x01,
       0x66, 0x01, 0x00, 0x03, 0x4c, 0x42, 0x3b, 0x00, 0x21, 0x00, 0x02, 0x00, 0x04, 0x00,
       0x00, 0x00, 0x01, 0x00, 0x02, 0x00, 0x05, 0x00, 0x06, 0x00, 0x00, 0x00, 0x00, 0x00,
       0x00]
    let bytesB : List UInt8 :=
      [0xca, 0xfe, 0xba, 0xbe, 0x00, 0x00, 0x00, 0x34, 0x00, 0x05, 0x01, 0x00, 0x01, 0x42,
       0x07, 0x00, 0x01, 0x01, 0x00, 0x10, 0x6a, 0x61, 0x76, 0x61, 0x2f, 0x6c, 0x61, 0x6e,
       0x67, 0x2f, 0x4f, 0x62, 0x6a, 0x65, 0x63, 0x74, 0x07, 0x00, 0x03, 0x00, 0x21, 0x00,
       0x02, 0x00, 0x04, 0x00, 0x00, 0x00, 0x00, 0x00, 0x00, 0x00, 0x00]
    let classes : ClassSource := [.table [("A", bytesA), ("B", bytesB)]]
    ∃ a, analyze {} "project" classes [] none = .ok a ∧
      (a.graph.links.toList.map (·.weight)).sum < 2 ^ 32 ∧ a.RollsUp := by
  intro bytesA bytesB classes
  have hweight : ((buildGraph (classes ++ []) (analyzedNames classes none)).toOption.map
      fun g => (g.link.1.links.toList.map (·.weight)).sum) = some 3 := by cbv
  cases hb : buildGraph (classes ++ []) (analyzedNames classes none) with
  | error e => rw [hb] at hweight; cases hweight
  | ok g =>
    obtain ⟨a, ha, hga⟩ : ∃ a, analyze {} "project" classes [] none = .ok a ∧
        a.graph = g.link.1 := analyze_of_buildGraph hb
    rw [hb] at hweight
    simp only [Except.toOption, Option.map_some, Option.some.injEq] at hweight
    have hsmall : (a.graph.links.toList.map (·.weight)).sum < 2 ^ 32 := by
      rw [hga, hweight]
      decide
    exact ⟨a, ha, hsmall, analyze_dependencies_rollUp ha hsmall⟩

/-- A class named `A#f` beside a class `A` whose field `f` has type `B`: the name finds the
field, so the edge from it towards `B` makes no dependency of the class `A#f` on `B`. -/
theorem classNamedLikeField_dependsOnNothing :
    let bytesA : List UInt8 :=
      [0xca, 0xfe, 0xba, 0xbe, 0x00, 0x00, 0x00, 0x34, 0x00, 0x07, 0x01, 0x00, 0x01, 0x41,
       0x07, 0x00, 0x01, 0x01, 0x00, 0x10, 0x6a, 0x61, 0x76, 0x61, 0x2f, 0x6c, 0x61, 0x6e,
       0x67, 0x2f, 0x4f, 0x62, 0x6a, 0x65, 0x63, 0x74, 0x07, 0x00, 0x03, 0x01, 0x00, 0x01,
       0x66, 0x01, 0x00, 0x03, 0x4c, 0x42, 0x3b, 0x00, 0x21, 0x00, 0x02, 0x00, 0x04, 0x00,
       0x00, 0x00, 0x01, 0x00, 0x02, 0x00, 0x05, 0x00, 0x06, 0x00, 0x00, 0x00, 0x00, 0x00,
       0x00]
    let bytesAf : List UInt8 :=
      [0xca, 0xfe, 0xba, 0xbe, 0x00, 0x00, 0x00, 0x34, 0x00, 0x05, 0x01, 0x00, 0x03, 0x41,
       0x23, 0x66, 0x07, 0x00, 0x01, 0x01, 0x00, 0x10, 0x6a, 0x61, 0x76, 0x61, 0x2f, 0x6c,
       0x61, 0x6e, 0x67, 0x2f, 0x4f, 0x62, 0x6a, 0x65, 0x63, 0x74, 0x07, 0x00, 0x03, 0x00,
       0x21, 0x00, 0x02, 0x00, 0x04, 0x00, 0x00, 0x00, 0x00, 0x00, 0x00, 0x00, 0x00]
    let bytesB : List UInt8 :=
      [0xca, 0xfe, 0xba, 0xbe, 0x00, 0x00, 0x00, 0x34, 0x00, 0x05, 0x01, 0x00, 0x01, 0x42,
       0x07, 0x00, 0x01, 0x01, 0x00, 0x10, 0x6a, 0x61, 0x76, 0x61, 0x2f, 0x6c, 0x61, 0x6e,
       0x67, 0x2f, 0x4f, 0x62, 0x6a, 0x65, 0x63, 0x74, 0x07, 0x00, 0x03, 0x00, 0x21, 0x00,
       0x02, 0x00, 0x04, 0x00, 0x00, 0x00, 0x00, 0x00, 0x00, 0x00, 0x00]
    let classes : ClassSource := [.table [("A", bytesA), ("A#f", bytesAf), ("B", bytesB)]]
    ∃ a, analyze {} "project" classes [] none = .ok a ∧
      (a.tree.find? .cls "A#f").isSome ∧ (a.tree.find? .cls "B").isSome ∧
      a.classLinks "A#f" "B" ≠ [] ∧ a.dependencies.edge? .cls "A#f" "B" = none := by
  intro bytesA bytesAf bytesB classes
  have hfacts : ((buildGraph (classes ++ []) (analyzedNames classes none)).toOption.map fun g =>
      ((analyzedTree "project" classes none g.link.1).find? .cls "A#f").isSome &&
      ((analyzedTree "project" classes none g.link.1).find? .cls "B").isSome &&
      !(match g.link.1.get? "A#f", g.link.1.get? "B" with
        | some i, some j => g.link.1.linksBetween i j
        | _, _ => []).isEmpty &&
      (g.link.1.get? "A#f").all fun i => (g.link.1.classNode? i).isNone) = some true := by
    cbv
  cases hb : buildGraph (classes ++ []) (analyzedNames classes none) with
  | error e => rw [hb] at hfacts; cases hfacts
  | ok g =>
    obtain ⟨a, ha, hga⟩ : ∃ a, analyze {} "project" classes [] none = .ok a ∧
        a.graph = g.link.1 := analyze_of_buildGraph hb
    rw [hb] at hfacts
    simp only [Except.toOption, Option.map_some, Option.some.injEq, Bool.and_eq_true,
      Bool.not_eq_true', List.isEmpty_eq_false_iff] at hfacts
    obtain ⟨⟨⟨hA, hB⟩, hlinks⟩, hfield⟩ := hfacts
    have hshape := analyze_tree_sameShape ha
    rw [hga] at hshape
    obtain ⟨t, V, hr⟩ := analyze_recorded ha
    refine ⟨a, ha, by rw [hshape.find?_eq]; exact hA, by rw [hshape.find?_eq]; exact hB, ?_, ?_⟩
    · unfold Analysis.classLinks
      rw [hga]
      exact hlinks
    · -- the node of the name is the field, no class
      refine hr.edge?_cls_eq_none (by decide) fun i hi => ?_
      rw [hga] at hi ⊢
      rw [hi] at hfield
      simpa using hfield

end ClassMetrics
