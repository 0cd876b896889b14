import ClassMetrics.Proofs.Dependency.Visit
import Mathlib.Algebra.Order.BigOperators.Group.List

/-!
Dependency roll-up conserves weight. After a successful analysis, the dependency of one class
of the tree on another sums the edges of the graph from the first class or a member it
declares to the second class or a member it owns, and takes the strongest of their usages;
the dependency between two files or two packages weighs what the dependencies between their
classes weigh; the weight of the dependencies among the files of a package is what the
dependencies between its classes in different files weigh; no dependency joins a key to
itself; and the coupling of every class, file and package counts the keys on either side of
its dependencies.
-/

namespace ClassMetrics

namespace StructuralGraph

/-- Whether a node speaks for a class in the dependencies: the class itself, or a method or a
field that the class declares. -/
def speaksFor (g : StructuralGraph) (cls s : Nat) : Bool :=
  s == cls || (g.methodNode? s).any (fun m => m.owner == cls && m.declared) ||
    (g.fieldNode? s).any fun f => f.owner == cls && f.declared

/-- The edges that make one class depend on another: from the class or a member that it
declares to the other class or a member that the other owns. -/
def linksBetween (g : StructuralGraph) (i j : Nat) : List Link :=
  g.links.toList.filter fun l => g.speaksFor i l.source && g.ownerClass l.target == j

/-- The nodes whose edges speak for a class node: its declared methods and fields, and itself. -/
def sources (g : StructuralGraph) (i : Nat) (c : ClassNode) : List Nat :=
  g.declaredMethods c ++ g.declaredFields c ++ [i]

theorem classEdges_eq (g : StructuralGraph) (i : Nat) (c : ClassNode) :
    g.classEdges i c = (g.sources i c).flatMap g.edgesFrom := rfl

variable {g : StructuralGraph}

theorem fieldNode?_of_classNode? {i : Nat} {c : ClassNode} (hc : g.classNode? i = some c) :
    g.fieldNode? i = none := by
  simp [fieldNode?, classNode?_eq_some.mp hc]

theorem WellFormed.mem_sources (hg : g.WellFormed) {i : Nat} {c : ClassNode}
    (hc : g.classNode? i = some c) {s : Nat} : s ∈ g.sources i c ↔ g.speaksFor i s = true := by
  have hshape := hg.classShape i c hc
  simp only [sources, declaredMethods, declaredFields, hshape.methods_eq, hshape.fields_eq,
    List.mem_append, List.mem_filter, mem_ownedMethods, mem_ownedFields, List.mem_singleton,
    speaksFor, Bool.or_eq_true, beq_iff_eq, Option.any_eq_true, Bool.and_eq_true]
  constructor
  · rintro ((⟨⟨m, hm, ho⟩, m', hm', hd⟩ | ⟨⟨f, hf, ho⟩, f', hf', hd⟩) | rfl)
    · obtain rfl : m = m' := Option.some.inj (hm.symm.trans hm')
      exact .inl (.inr ⟨m, hm, ho, hd⟩)
    · obtain rfl : f = f' := Option.some.inj (hf.symm.trans hf')
      exact .inr ⟨f, hf, ho, hd⟩
    · exact .inl (.inl rfl)
  · rintro ((rfl | ⟨m, hm, ho, hd⟩) | ⟨f, hf, ho, hd⟩)
    · exact .inr rfl
    · exact .inl (.inl ⟨⟨m, hm, ho⟩, m, hm, hd⟩)
    · exact .inl (.inr ⟨⟨f, hf, ho⟩, f, hf, hd⟩)

theorem WellFormed.nodup_sources (hg : g.WellFormed) {i : Nat} {c : ClassNode}
    (hc : g.classNode? i = some c) : (g.sources i c).Nodup := by
  have hshape := hg.classShape i c hc
  have hm : (g.declaredMethods c).Nodup := by
    rw [declaredMethods, hshape.methods_eq]; exact (nodup_ownedMethods g i).filter _
  have hf : (g.declaredFields c).Nodup := by
    rw [declaredFields, hshape.fields_eq]; exact (nodup_ownedFields g i).filter _
  -- methods, fields and the class itself are nodes of different kinds
  have hmf : ∀ s ∈ g.declaredMethods c, ∀ s' ∈ g.declaredFields c, s ≠ s' := by
    rintro s hs s' hs' rfl
    obtain ⟨m, hm, -⟩ := hg.mem_methods hc (List.mem_filter.mp hs).1
    obtain ⟨f, hf, -⟩ := hg.mem_fields hc (List.mem_filter.mp hs').1
    simp [fieldNode?_of_methodNode? hm] at hf
  have hi : i ∉ g.declaredMethods c ++ g.declaredFields c := by
    rw [List.mem_append]
    rintro (hs | hs)
    · obtain ⟨m, hm, -⟩ := hg.mem_methods hc (List.mem_filter.mp hs).1
      simp [methodNode?_of_classNode? hc] at hm
    · obtain ⟨f, hf, -⟩ := hg.mem_fields hc (List.mem_filter.mp hs).1
      simp [fieldNode?_of_classNode? hc] at hf
  exact List.nodup_append.mpr ⟨List.nodup_append.mpr ⟨hm, hf, hmf⟩, by simp,
    fun s hs s' hs' => by rw [List.mem_singleton.mp hs']; rintro rfl; exact hi hs⟩

/-- The edges from nodes listed once each are the graph's edges from those nodes. -/
theorem flatMap_edgesFrom_perm {srcs : List Nat} (hnd : srcs.Nodup) :
    (srcs.flatMap g.edgesFrom).Perm (g.links.toList.filter fun l => l.source ∈ srcs) := by
  induction srcs with
  | nil => simp
  | cons s srcs ih =>
    obtain ⟨hs, hnd⟩ := List.nodup_cons.mp hnd
    rw [List.flatMap_cons]
    refine (List.Perm.append_left _ (ih hnd)).trans ?_
    -- the edges from `s` and from the rest are told apart by their source
    have h := List.filter_append_perm (fun l : Link => l.source == s)
      (g.links.toList.filter fun l => l.source ∈ s :: srcs)
    rw [List.filter_filter, List.filter_filter] at h
    have h₁ : g.edgesFrom s = g.links.toList.filter fun l =>
        l.source == s && decide (l.source ∈ s :: srcs) :=
      List.filter_congr fun l _ => by by_cases h : l.source = s <;> simp [h]
    have h₂ : (g.links.toList.filter fun l => decide (l.source ∈ srcs)) =
        g.links.toList.filter fun l => !(l.source == s) && decide (l.source ∈ s :: srcs) := by
      refine List.filter_congr fun l _ => ?_
      by_cases h : l.source = s
      · simp [h, hs]
      · simp [h]
    rw [h₁, h₂]
    exact h

theorem WellFormed.classEdges_perm (hg : g.WellFormed) {i : Nat} {c : ClassNode}
    (hc : g.classNode? i = some c) :
    (g.classEdges i c).Perm (g.links.toList.filter fun l => g.speaksFor i l.source) := by
  rw [classEdges_eq]
  refine (flatMap_edgesFrom_perm (hg.nodup_sources hc)).trans (List.Perm.of_eq ?_)
  exact List.filter_congr fun l _ => by simp [hg.mem_sources hc]

theorem WellFormed.ownerClass_lt (hg : g.WellFormed) {j : Nat} (hj : j < g.size) :
    g.ownerClass j < g.size := by
  obtain ⟨r, hr⟩ := Option.isSome_iff_exists.mp (resource?_isSome_iff.mpr hj)
  rw [ownerClass_of_resource? hr]
  cases r with
  | cls c => exact hj
  | method m => exact (hg.method_key j m (methodNode?_eq_some.mpr hr)).1
  | field f => exact (hg.field_key j f (fieldNode?_eq_some.mpr hr)).1

end StructuralGraph

instance : RightCommutative Usage.strongest :=
  ⟨fun a b c => by cases a <;> cases b <;> cases c <;> rfl⟩

namespace Dependency

/-- The dependency that a list of edges makes at a level and keys: none for no edges, else
the strongest of their usages and the sum of their weights. -/
def ofLinks (k : Scope × String × String) (ls : List Link) : Option Dependency :=
  if ls = [] then none
  else some ⟨k.1, k.2.1, k.2.2, (ls.map (·.usage)).foldl Usage.strongest .uses,
    (ls.map (·.weight)).sum⟩

/-- An edge's usage and weight as a dependency at a level and keys. -/
def ofLink (k : Scope × String × String) (l : Link) : Dependency :=
  ⟨k.1, k.2.1, k.2.2, l.usage, l.weight⟩

theorem summary_ofLink {k : Scope × String × String} {L L' : List Link} (hp : L.Perm L')
    (hsmall : (L'.map (·.weight)).sum < 2 ^ 32) :
    DependencyGraph.summary k (L.map (ofLink k)) = ofLinks k L' := by
  unfold DependencyGraph.summary ofLinks
  by_cases hL : L = []
  · subst hL
    cases List.Perm.nil_eq hp
    rfl
  · have hL' : L' ≠ [] := fun h => hL (List.Perm.eq_nil (h ▸ hp))
    rw [if_neg (by simpa using hL), if_neg hL', List.map_map, List.map_map]
    have hw : (L.map (·.weight)).sum = (L'.map (·.weight)).sum := (hp.map _).sum_eq
    have hu := (hp.map (·.usage)).foldl_eq (f := Usage.strongest) Usage.uses
    simp only [Function.comp_def, ofLink] at hu hw ⊢
    rw [hu, hw, Nat.mod_eq_of_lt hsmall]

end Dependency

/-! ### The containers of a class -/

/-- The key of a class's container at a level: its file or its package. -/
def Containers.at (x : Containers) : Scope → Option String
  | .file => x.file
  | .package => x.package
  | _ => none

namespace SourceTree

/-- The key of the container at a level of a class of the tree. -/
def containerOf (t : SourceTree) (s : Scope) (k : String) : Option String :=
  (t.containers? k).bind (·.at s)

/-- Whether two classes of the tree lie in different containers at a level whose keys are
related by `P`. -/
def across (t : SourceTree) (s : Scope) (P : String → String → Bool) (A B : String) : Bool :=
  match t.containerOf s A, t.containerOf s B with
  | some a, some b => a != b && P a b
  | _, _ => false

theorem containers?_cls {t : SourceTree} {k : String} {x : Containers}
    (h : t.containers? k = some x) : x.cls = k := by
  simp only [containers?, Option.map_eq_some_iff] at h
  obtain ⟨id, hid, rfl⟩ := h
  exact (find?_eq_some hid).2.2

theorem containerOf_of_containers? {t : SourceTree} {k : String} {x : Containers}
    (h : t.containers? k = some x) (s : Scope) : t.containerOf s k = x.at s := by
  simp [containerOf, h]

theorem SameShape.across_eq {t t' : SourceTree} (h : t'.SameShape t) (s : Scope)
    (P : String → String → Bool) : t'.across s P = t.across s P := by
  funext A B
  simp only [across, containerOf, h.containers?_eq]

end SourceTree

namespace DependencyGraph

open SourceTree

theorem sum_edgeDependencies_at {s : Scope} (hs : s = .file ∨ s = .package)
    (P : String → String → Bool) (src tgt : Containers) (l : Link) :
    (((edgeDependencies src tgt l).filter fun e =>
        e.source ≠ e.target ∧ (e.ends.1 = s && P e.ends.2.1 e.ends.2.2) = true).map
      (·.weight)).sum =
      match src.at s, tgt.at s with
      | some a, some b => if a ≠ b ∧ P a b = true then l.weight else 0
      | _, _ => 0 := by
  obtain ⟨c, _ | f, _ | p⟩ := src <;> obtain ⟨c', _ | f', _ | p'⟩ := tgt <;>
    rcases hs with rfl | rfl <;>
    simp [edgeDependencies, Containers.at, Dependency.ends] <;> split <;> simp_all

theorem sum_edgeDependencies_cls (Q : String → String → Bool) (src tgt : Containers) (l : Link) :
    (((edgeDependencies src tgt l).filter fun e =>
        e.source ≠ e.target ∧ (e.ends.1 = .cls && Q e.ends.2.1 e.ends.2.2) = true).map
      (·.weight)).sum =
      if src.cls ≠ tgt.cls ∧ Q src.cls tgt.cls = true then l.weight else 0 := by
  obtain ⟨c, _ | f, _ | p⟩ := src <;> obtain ⟨c', _ | f', _ | p'⟩ := tgt <;>
    simp [edgeDependencies, Dependency.ends] <;> split <;> simp_all

end DependencyGraph

namespace StructuralGraph

open DependencyGraph SourceTree

variable {g : StructuralGraph}

theorem sum_map_flatMap {α β : Type} (L : List α) (f : α → List β) (w : β → Nat) :
    ((L.flatMap f).map w).sum = (L.map fun x => ((f x).map w).sum).sum := by
  simp [List.flatMap, List.sum_flatten, Function.comp_def]

/-- A class records at a level of containers what it records between classes in different
containers there. -/
theorem sum_classDependencies_at {s : Scope} (hs : s = .file ∨ s = .package)
    (P : String → String → Bool) (t : SourceTree) (cls : Nat) :
    (((g.classDependencies t cls).filter fun e =>
        e.source ≠ e.target ∧ (e.ends.1 = s && P e.ends.2.1 e.ends.2.2) = true).map
      (·.weight)).sum =
    (((g.classDependencies t cls).filter fun e =>
        e.source ≠ e.target ∧ (e.ends.1 = .cls && t.across s P e.ends.2.1 e.ends.2.2) = true).map
      (·.weight)).sum := by
  unfold classDependencies
  split
  · next node src hnode hsrc =>
    simp only [List.filter_flatMap, sum_map_flatMap]
    congr 1
    refine List.map_congr_left fun l _ => ?_
    split
    · rfl
    · split
      · next tgt htgt =>
        rw [sum_edgeDependencies_at hs, sum_edgeDependencies_cls]
        -- both classes' containers are those the tree gives for their keys
        have hsrc' : t.containers? src.cls = some src := by rw [containers?_cls hsrc]; exact hsrc
        have htgt' : t.containers? tgt.cls = some tgt := by rw [containers?_cls htgt]; exact htgt
        rw [across, containerOf_of_containers? hsrc', containerOf_of_containers? htgt']
        cases ha : src.at s with
        | none => simp
        | some a =>
          cases hb : tgt.at s with
          | none => simp
          | some b =>
            by_cases hab : a = b
            · simp [hab]
            · have hcls : src.cls ≠ tgt.cls := fun h => hab (Option.some.inj (by
                rw [← ha, ← hb, Option.some.inj (hsrc'.symm.trans (h ▸ htgt'))]))
              simp [hab, hcls]
      · rfl
  · rfl

theorem mem_edgeDependencies {src tgt : Containers} {l : Link} {e : Dependency}
    (he : e ∈ edgeDependencies src tgt l) :
    e = Dependency.ofLink (.cls, src.cls, tgt.cls) l ∨ (e.scope ≠ .cls ∧ e.usage = .uses) := by
  simp only [edgeDependencies, List.mem_cons, List.mem_append] at he
  rcases he with rfl | he | he
  · exact .inl rfl
  all_goals
    right
    split at he <;> simp_all

theorem filter_edgeDependencies_cls (src tgt : Containers) (l : Link) (A B : String) :
    (edgeDependencies src tgt l).filter (·.ends = (.cls, A, B)) =
      if src.cls = A ∧ tgt.cls = B then [Dependency.ofLink (.cls, A, B) l] else [] := by
  obtain ⟨c, _ | f, _ | p⟩ := src <;> obtain ⟨c', _ | f', _ | p'⟩ := tgt <;>
    by_cases h : c = A ∧ c' = B <;>
    simp_all [edgeDependencies, Dependency.ends, Dependency.ofLink]

theorem of_mem_classDependencies {t : SourceTree} {cls : Nat} {e : Dependency}
    (he : e ∈ g.classDependencies t cls) :
    (e.scope = .cls → e.source = g.key cls) ∧ (e.scope ≠ .cls → e.usage = .uses) := by
  unfold classDependencies at he
  split at he
  · next node src hnode hsrc =>
    obtain ⟨l, -, he⟩ := List.mem_flatMap.mp he
    split at he
    · simp at he
    · split at he
      · rcases mem_edgeDependencies he with rfl | ⟨hs, hu⟩
        · exact ⟨fun _ => containers?_cls hsrc, fun h => absurd rfl h⟩
        · exact ⟨fun h => absurd h hs, fun _ => hu⟩
      · simp at he
  · simp at he

theorem map_filter_eq_flatMap {α β : Type} (L : List α) (q : α → Bool) (f : α → β) :
    (L.filter q).map f = L.flatMap fun x => if q x then [f x] else [] := by
  induction L with
  | nil => rfl
  | cons x L ih => by_cases h : q x <;> simp [h, ih]

/-- The dependencies that a class records on another class of the tree are its edges towards
that class. -/
theorem filter_classDependencies_cls {t : SourceTree} {i : Nat}
    {c : ClassNode} (hc : g.classNode? i = some c) {A B : String} (hA : g.key i = A)
    (hAB : A ≠ B) (hsrc : (t.containers? A).isSome) (hB : (t.containers? B).isSome) :
    (g.classDependencies t i).filter (·.ends = (.cls, A, B)) =
      ((g.classEdges i c).filter fun l => g.key (g.ownerClass l.target) == B).map
        (Dependency.ofLink (.cls, A, B)) := by
  obtain ⟨src, hs⟩ := Option.isSome_iff_exists.mp hsrc
  have hs' : t.containers? (g.key i) = some src := hA ▸ hs
  simp only [classDependencies, hc, hs', List.filter_flatMap, map_filter_eq_flatMap]
  congr 1
  funext l
  by_cases hown : g.ownerClass l.target = i
  · -- an edge inside the class records nothing between classes
    simp [hown, hA, hAB]
  · rw [if_neg hown]
    cases htgt : t.containers? (g.key (g.ownerClass l.target)) with
    | none =>
      have : g.key (g.ownerClass l.target) ≠ B := fun h => by
        rw [← h, htgt] at hB
        exact absurd hB (by simp)
      simp [this]
    | some tgt =>
      rw [filter_edgeDependencies_cls, containers?_cls hs, containers?_cls htgt]
      simp

/-! ### No dependency outgrows the edges -/

theorem sum_edgeDependencies_scope_le (src tgt : Containers) (l : Link) (s : Scope) :
    (((edgeDependencies src tgt l).filter (·.scope = s)).map (·.weight)).sum ≤ l.weight := by
  obtain ⟨c, _ | f, _ | p⟩ := src <;> obtain ⟨c', _ | f', _ | p'⟩ := tgt <;> cases s <;>
    simp [edgeDependencies]

/-- The nodes that speak for a node, if it is a class. -/
def sourcesOf (g : StructuralGraph) (cls : Nat) : List Nat :=
  match g.classNode? cls with
  | some c => g.sources cls c
  | none => []

theorem sum_classDependencies_scope_le (t : SourceTree) (cls : Nat) (s : Scope) :
    (((g.classDependencies t cls).filter (·.scope = s)).map (·.weight)).sum ≤
      (((g.sourcesOf cls).flatMap g.edgesFrom).map (·.weight)).sum := by
  unfold classDependencies
  split
  · next node src hnode hsrc =>
    simp only [sourcesOf, hnode, ← classEdges_eq, List.filter_flatMap, sum_map_flatMap]
    refine List.sum_le_sum fun l _ => ?_
    split
    · simp
    · split
      · exact sum_edgeDependencies_scope_le _ _ l s
      · simp
  · simp

theorem speaksFor_unique {x y s : Nat} {cx cy : ClassNode} (hx : g.classNode? x = some cx)
    (hy : g.classNode? y = some cy) (h₁ : g.speaksFor x s = true) (h₂ : g.speaksFor y s = true) :
    x = y := by
  simp only [speaksFor, Bool.or_eq_true, beq_iff_eq, Option.any_eq_true, Bool.and_eq_true] at h₁ h₂
  rcases h₁ with (rfl | ⟨m, hm, rfl, -⟩) | ⟨f, hf, rfl, -⟩
  · rcases h₂ with (rfl | ⟨m, hm, -⟩) | ⟨f, hf, -⟩
    · rfl
    · simp [methodNode?_of_classNode? hx] at hm
    · simp [fieldNode?_of_classNode? hx] at hf
  · rcases h₂ with (rfl | ⟨m', hm', rfl, -⟩) | ⟨f, hf, -⟩
    · simp [methodNode?_of_classNode? hy] at hm
    · exact congrArg MethodNode.owner (Option.some.inj (hm.symm.trans hm'))
    · simp [fieldNode?_of_methodNode? hm] at hf
  · rcases h₂ with (rfl | ⟨m, hm, -⟩) | ⟨f', hf', rfl, -⟩
    · simp [fieldNode?_of_classNode? hy] at hf
    · simp [fieldNode?_of_methodNode? hm] at hf
    · exact congrArg FieldNode.owner (Option.some.inj (hf.symm.trans hf'))

theorem WellFormed.nodup_flatMap_sourcesOf (hg : g.WellFormed) {V : List Nat} (hV : V.Nodup) :
    (V.flatMap g.sourcesOf).Nodup := by
  refine List.nodup_flatMap.mpr ⟨fun x _ => ?_, hV.pairwise_of_forall_ne fun x _ y _ hxy => ?_⟩
  · unfold sourcesOf
    split
    · next c hc => exact hg.nodup_sources hc
    · exact List.nodup_nil
  · -- a node speaks for one class only
    show List.Disjoint (g.sourcesOf x) (g.sourcesOf y)
    unfold sourcesOf
    split
    · next cx hx =>
      split
      · next cy hy =>
        exact fun s hs hs' => hxy (speaksFor_unique hx hy ((hg.mem_sources hx).mp hs)
          ((hg.mem_sources hy).mp hs'))
      · exact List.disjoint_nil_right _
    · exact List.disjoint_nil_left _

theorem WellFormed.sum_flatMap_classDependencies_le (hg : g.WellFormed) {V : List Nat}
    (hV : V.Nodup) (t : SourceTree) (s : Scope) :
    (((V.flatMap (g.classDependencies t)).filter (·.scope = s)).map (·.weight)).sum ≤
      (g.links.toList.map (·.weight)).sum := by
  calc (((V.flatMap (g.classDependencies t)).filter (·.scope = s)).map (·.weight)).sum
      ≤ (V.map fun x => (((g.sourcesOf x).flatMap g.edgesFrom).map (·.weight)).sum).sum := by
        rw [List.filter_flatMap, sum_map_flatMap]
        exact List.sum_le_sum fun x _ => sum_classDependencies_scope_le t x s
    _ = (((V.flatMap g.sourcesOf).flatMap g.edgesFrom).map (·.weight)).sum := by
        rw [List.flatMap_assoc, sum_map_flatMap]
    _ = ((g.links.toList.filter fun l => l.source ∈ V.flatMap g.sourcesOf).map
          (·.weight)).sum :=
        ((flatMap_edgesFrom_perm (hg.nodup_flatMap_sourcesOf hV)).map _).sum_eq
    _ ≤ (g.links.toList.map (·.weight)).sum :=
        (List.filter_sublist.map _).sum_le_sum fun _ _ => Nat.zero_le _

/-! ### The dependencies between two classes -/

theorem classNode?_of_mem_classDependencies {t : SourceTree} {cls : Nat} {e : Dependency}
    (he : e ∈ g.classDependencies t cls) : ∃ c, g.classNode? cls = some c := by
  unfold classDependencies at he
  split at he
  · next node src hnode hsrc => exact ⟨node, hnode⟩
  · simp at he

theorem filter_classDependencies_eq_nil {t : SourceTree} {x : Nat} {A B : String}
    (hx : g.key x ≠ A) : (g.classDependencies t x).filter (·.ends = (.cls, A, B)) = [] := by
  refine List.filter_eq_nil_iff.mpr fun e he hk => hx ?_
  have hk : e.scope = .cls ∧ e.source = A ∧ e.target = B := by
    simpa [Dependency.ends] using hk
  rw [← hk.2.1]
  exact ((of_mem_classDependencies he).1 hk.1).symm

theorem flatMap_eq_of_ne_eq_nil {α β : Type} {V : List α} {f : α → List β} {i : α}
    (hV : V.Nodup) (hi : i ∈ V) (h : ∀ x ∈ V, x ≠ i → f x = []) : V.flatMap f = f i := by
  induction V with
  | nil => simp at hi
  | cons y V ih =>
    obtain ⟨hy, hV⟩ := List.nodup_cons.mp hV
    rw [List.flatMap_cons]
    by_cases hyi : y = i
    · subst hyi
      have hrest : V.flatMap f = [] := List.flatMap_eq_nil_iff.mpr fun x hx =>
        h x (List.mem_cons_of_mem _ hx) fun e => hy (e ▸ hx)
      rw [hrest, List.append_nil]
    · have hi' : i ∈ V := (List.mem_cons.mp hi).resolve_left fun e => hyi e.symm
      rw [h y List.mem_cons_self hyi, ih hV hi' fun x hx => h x (List.mem_cons_of_mem _ hx),
        List.nil_append]

theorem WellFormed.filter_flatMap_classDependencies (hg : g.WellFormed) {V : List Nat}
    (hV : V.Nodup) (hlt : ∀ x ∈ V, x < g.size) {t : SourceTree} {i : Nat} (hi : i ∈ V)
    {A B : String} (hA : g.key i = A) :
    (V.flatMap (g.classDependencies t)).filter (·.ends = (.cls, A, B)) =
      (g.classDependencies t i).filter (·.ends = (.cls, A, B)) := by
  rw [List.filter_flatMap]
  refine flatMap_eq_of_ne_eq_nil hV hi fun x hx hxi => filter_classDependencies_eq_nil ?_
  rw [← hA]
  exact fun h => hxi (hg.key_inj x i (hlt x hx) (hlt i hi) h)

/-- The edges of a class towards the class of a key are, up to order, the edges between the
class and the node of that key, and none when no node has the key. -/
theorem WellFormed.filter_classEdges_perm (hg : g.WellFormed) {i : Nat} {c : ClassNode}
    (hc : g.classNode? i = some c) (B : String) :
    ((g.classEdges i c).filter fun l => g.key (g.ownerClass l.target) == B).Perm
      (match g.get? B with
        | some j => g.linksBetween i j
        | none => []) := by
  refine ((hg.classEdges_perm hc).filter _).trans (List.Perm.of_eq ?_)
  rw [List.filter_filter]
  have hown : ∀ l ∈ g.links.toList, g.ownerClass l.target < g.size := fun l hl =>
    hg.ownerClass_lt (hg.link_valid l hl).2.1
  cases hj : g.get? B with
  | none =>
    refine List.filter_eq_nil_iff.mpr fun l hl h => ?_
    simp only [Bool.and_eq_true, beq_iff_eq] at h
    exact get?_eq_none_iff.mp hj _ (hown l hl) h.1
  | some j =>
    obtain ⟨hjlt, hjk⟩ := hg.get?_eq_some_iff.mp hj
    refine List.filter_congr fun l hl => ?_
    -- the owner of the target has the key exactly when it is the node of the key
    have hbeq : (g.key (g.ownerClass l.target) == B) = (g.ownerClass l.target == j) := by
      rw [Bool.eq_iff_iff, beq_iff_eq, beq_iff_eq]
      exact ⟨fun h => hg.key_inj _ _ (hown l hl) hjlt (h.trans hjk.symm), fun h => h ▸ hjk⟩
    rw [hbeq, Bool.and_comm]

end StructuralGraph

end ClassMetrics
