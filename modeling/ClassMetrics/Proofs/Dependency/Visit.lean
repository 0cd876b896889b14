import ClassMetrics.Analysis.Basic
import ClassMetrics.Proofs.Dependency.Record
import ClassMetrics.Proofs.Visitor.Standard
import ClassMetrics.Proofs.Build.Run
import Mathlib.Data.String.Basic

/-!
The dependencies of an analysis as a list of recorded dependencies. Each class of the graph
that the tree holds records, for every edge from itself or a declared member of it towards
another class of the tree, a dependency between the two classes, between their files and
between their packages. Measuring keeps the shape of the tree, so every class is measured
against the same containers, and the analysis visits each of its class names once; its
dependencies are what the visited classes record, one after another.
-/

namespace ClassMetrics

open DependencyGraph

/-! ### Names sorted and kept once -/

/-- Sorting the names and keeping the first of each run of equal ones keeps every name, and
each once. -/
theorem sortedDistinct_spec (l : List String) :
    (∀ x, x ∈ sortedDistinct l ↔ x ∈ l) ∧ (sortedDistinct l).Nodup := by
  have hsorted : (l.mergeSort fun a b => decide (a ≤ b)).Pairwise
      fun a b => decide (a ≤ b) = true := List.pairwise_mergeSort
    (fun a b c hab hbc => by simp only [decide_eq_true_eq] at *; exact le_trans hab hbc)
    (fun a b => by simpa using le_total a b) l
  have hmem : ∀ x, x ∈ l.mergeSort (fun a b => decide (a ≤ b)) ↔ x ∈ l :=
    fun x => (List.mergeSort_perm l _).mem_iff
  unfold sortedDistinct
  generalize l.mergeSort _ = l' at hsorted hmem
  simp only [← hmem]
  replace hsorted := hsorted.imp fun h => of_decide_eq_true h
  -- by induction on the sorted list: the result holds its names, strictly increasing
  suffices h : (∀ x, x ∈ l'.foldr _ [] ↔ x ∈ l') ∧ (l'.foldr _ []).Pairwise (· < ·) from
    ⟨h.1, h.2.imp ne_of_lt⟩
  clear hmem
  induction l' with
  | nil => simp
  | cons n l ih =>
    obtain ⟨hn, hl⟩ := List.pairwise_cons.mp hsorted
    obtain ⟨hmem, hlt⟩ := ih hl
    simp only [List.foldr_cons]
    generalize l.foldr _ [] = acc at hmem hlt
    cases acc with
    | nil => simp_all
    | cons m rest =>
      by_cases h : n = m
      · subst h
        refine ⟨fun x => ?_, by simpa using hlt⟩
        dsimp only
        rw [if_pos (beq_self_eq_true n), hmem, List.mem_cons]
        exact ⟨.inr, fun hx => hx.elim (fun h => h ▸ (hmem n).mp (by simp)) id⟩
      · simp only [beq_iff_eq, h, if_false]
        refine ⟨fun x => by simp only [List.mem_cons, hmem], List.pairwise_cons.mpr ⟨fun x hx => ?_, hlt⟩⟩
        -- `n` is below everything after it, and differs from the least of them
        have hnx : n ≤ x := hn x ((hmem x).mp hx)
        rcases List.mem_cons.mp hx with rfl | hx
        · exact lt_of_le_of_ne hnx h
        · exact lt_of_le_of_lt (hn m ((hmem m).mp (by simp))) ((List.pairwise_cons.mp hlt).1 x hx)

/-! ### Trees whose classes bear given names -/

namespace SourceTree

/-- Adding a node keeps the key and level of every node and puts the new one last. -/
theorem key_scope_addChild (t : SourceTree) (p : Nat) (s : Scope) (k : String) {i : Nat}
    (hi : i < (t.addChild p s k).1.size) :
    ((t.addChild p s k).1.node i).key = (if i < t.size then (t.node i).key else k) ∧
      ((t.addChild p s k).1.node i).scope = (if i < t.size then (t.node i).scope else s) := by
  unfold addChild at hi ⊢
  cases hf : t.find? s k with
  | some id =>
    simp only [hf] at hi ⊢
    simp [hi]
  | none =>
    simp only [hf, size, Array.size_modify, Array.size_push] at hi ⊢
    simp only [node, Array.getElem?_modify, Array.getElem?_push]
    by_cases hlt : i < t.nodes.size
    · have hne : i ≠ t.nodes.size := Nat.ne_of_lt hlt
      by_cases hp : p = i <;> simp [hp, hlt, hne]
    · have hieq : i = t.nodes.size := by omega
      by_cases hp : p = i
      · simp [hp, hieq]
      · have hp' : p ≠ t.nodes.size := hieq ▸ hp
        simp [hp', hieq]

/-- Every class node of the tree bears one of the names. -/
def ClassesNamed (t : SourceTree) (names : List String) : Prop :=
  ∀ id < t.size, (t.node id).scope = .cls → (t.node id).key ∈ names

theorem ClassesNamed.addChild {t : SourceTree} {names : List String} (h : t.ClassesNamed names)
    (p : Nat) (s : Scope) (k : String) (hk : s = .cls → k ∈ names) :
    (t.addChild p s k).1.ClassesNamed names := by
  intro i hi hs
  obtain ⟨hkey, hscope⟩ := key_scope_addChild t p s k hi
  rw [hkey]
  rw [hscope] at hs
  split at hs
  · next hlt => rw [if_pos hlt]; exact h i hlt hs
  · next hlt => rw [if_neg hlt]; exact hk hs

theorem ClassesNamed.attachMethods {t : SourceTree} {names : List String}
    (h : t.ClassesNamed names) (g : StructuralGraph) : (t.attachMethods g).ClassesNamed names := by
  unfold SourceTree.attachMethods
  -- every node added is a method
  induction t.ids .cls generalizing t with
  | nil => exact h
  | cons cid ids ih =>
    refine ih ?_
    dsimp only
    split
    · next node hnode =>
      clear hnode
      induction node.methods generalizing t with
      | nil => exact h
      | cons m ms ihm =>
        refine ihm ?_
        dsimp only
        split
        · split
          · exact h.addChild _ _ _ (by simp)
          · exact h
        · exact h
    · exact h

/-- One step of making a tree of class names: the package of the name below the root, its file
below the package and the class below the file. -/
def addClassName (t : SourceTree) (name : String) : SourceTree :=
  let (t, p) := t.addChild 0 .package (Key.packageOf name)
  let (t, f) := t.addChild p .file (Key.fileOf name)
  (t.addChild f .cls name).1

theorem ofClassNames_eq_foldl (project : String) (names : List String) :
    ofClassNames project names = names.foldl addClassName (new project) := rfl

theorem classesNamed_ofClassNames (project : String) (names : List String) :
    (ofClassNames project names).ClassesNamed names := by
  have h₀ : (new project).ClassesNamed names := by
    intro i hi hs
    simp only [new, size, List.size_toArray, List.length_cons, List.length_nil] at hi
    have : i = 0 := by omega
    subst this
    simp [new, node] at hs
  rw [ofClassNames_eq_foldl]
  suffices ∀ l : List String, (∀ n ∈ l, n ∈ names) → ∀ t : SourceTree, t.ClassesNamed names →
      (l.foldl addClassName t).ClassesNamed names from this names (fun _ h => h) _ h₀
  intro l
  induction l with
  | nil => exact fun _ _ h => h
  | cons n l ih =>
    intro hl t ht
    refine ih (fun x hx => hl x (by simp [hx])) _ ?_
    exact ((ht.addChild _ _ _ (by simp)).addChild _ _ _ (by simp)).addChild _ _ _
      fun _ => hl n (by simp)

theorem classesNamed_ids (t : SourceTree) :
    t.ClassesNamed ((t.ids .cls).map fun id => (t.node id).key) := fun id hid hs =>
  List.mem_map.mpr ⟨id, mem_ids.mpr ⟨hid, hs⟩, rfl⟩

theorem SameShape.classesNamed {t t' : SourceTree} (h : t'.SameShape t) {names : List String}
    (ht : t.ClassesNamed names) : t'.ClassesNamed names := by
  intro id hid hs
  rw [h.key_node]
  exact ht id (h.size_eq ▸ hid) (h.scope_node id ▸ hs)

theorem find?_eq_some {t : SourceTree} {s : Scope} {k : String} {id : Nat}
    (h : t.find? s k = some id) : id < t.size ∧ (t.node id).scope = s ∧ (t.node id).key = k := by
  rw [find?_eq_findIdx?_shape] at h
  obtain ⟨hlt, hp, -⟩ := List.findIdx?_eq_some_iff_getElem.mp h
  simp only [List.length_map, Array.length_toList] at hlt
  simp only [List.getElem_map, Array.getElem_toList, Bool.and_eq_true, decide_eq_true_eq,
    TreeNode.shape] at hp
  refine ⟨hlt, ?_, ?_⟩ <;> simp [node, Array.getElem?_eq_getElem hlt, hp]

theorem ClassesNamed.mem_of_find? {t : SourceTree} {names : List String}
    (h : t.ClassesNamed names) {k : String} {id : Nat} (hf : t.find? .cls k = some id) :
    k ∈ names := by
  obtain ⟨hid, hs, hk⟩ := find?_eq_some hf
  exact hk ▸ h id hid hs

end SourceTree

/-! ### The linked graph -/

namespace StructuralGraph

theorem WellFormed.link {g : StructuralGraph} (hg : g.WellFormed) : g.link.1.WellFormed := by
  unfold StructuralGraph.link
  -- each override only adds an implementation to a method
  induction g.overrideLinks generalizing g with
  | nil => exact hg
  | cons p ps ih =>
    refine ih (hg.modifyMethod fun m => ?_)
    split <;> exact ⟨rfl, rfl, rfl, rfl⟩

end StructuralGraph

/-! ### What a class records -/

namespace DependencyGraph

/-- The dependencies that one edge records between two classes of the tree: between the
classes with the edge's usage, and between their files and between their packages as a use,
each with the edge's weight. -/
def edgeDependencies (source target : Containers) (l : Link) : List Dependency :=
  ⟨.cls, source.cls, target.cls, l.usage, l.weight⟩ ::
    ((match source.file, target.file with
      | some a, some b => [⟨.file, a, b, .uses, l.weight⟩]
      | _, _ => []) ++
    (match source.package, target.package with
      | some a, some b => [⟨.package, a, b, .uses, l.weight⟩]
      | _, _ => []))

theorem addEdge_eq_foldl (d : DependencyGraph) (source target : Containers) (l : Link) :
    d.addEdge source target l = (edgeDependencies source target l).foldl record d := by
  obtain ⟨c, _ | f, _ | p⟩ := source <;> obtain ⟨c', _ | f', _ | p'⟩ := target <;> rfl

end DependencyGraph

namespace StructuralGraph

/-- The dependencies that a class of the graph records against a tree: for each edge from
the class or a declared member of it, those of the edge towards the class that owns its
target, when that is another class and both are in the tree. -/
def classDependencies (g : StructuralGraph) (t : SourceTree) (cls : Nat) : List Dependency :=
  match g.classNode? cls, t.containers? (g.key cls) with
  | some node, some source => (g.classEdges cls node).flatMap fun l =>
    if g.ownerClass l.target = cls then []
    else match t.containers? (g.key (g.ownerClass l.target)) with
      | some target => DependencyGraph.edgeDependencies source target l
      | none => []
  | _, _ => []

theorem classDependencies_congr (g : StructuralGraph) {t t' : SourceTree} (h : t'.SameShape t)
    (cls : Nat) : g.classDependencies t' cls = g.classDependencies t cls := by
  simp only [classDependencies, h.containers?_eq]

end StructuralGraph

theorem containers?_eq_none {t : SourceTree} {k : String} :
    t.containers? k = none ↔ t.find? .cls k = none := by
  simp [SourceTree.containers?]

/-- Measuring a class sets measures only and records what the class records. -/
theorem measureClass_eq (g : StructuralGraph) (c : EngineConfig) (t : SourceTree)
    (d : DependencyGraph) (cls : Nat) : ∃ t' : SourceTree, t'.SameShape t ∧
      measureClass g c (t, d) cls = (t', (g.classDependencies t cls).foldl record d) := by
  unfold measureClass
  cases hn : g.classNode? cls with
  | none => exact ⟨t, .refl t, by simp [StructuralGraph.classDependencies, hn]⟩
  | some node =>
    cases hf : t.find? .cls (g.key cls) with
    | none =>
      have hc : t.containers? (g.key cls) = none := containers?_eq_none.mpr hf
      exact ⟨t, .refl t, by simp [StructuralGraph.classDependencies, hn, hc]⟩
    | some id =>
      obtain ⟨source, hc⟩ : ∃ source, t.containers? (g.key cls) = some source := by
        simp [SourceTree.containers?, hf]
      simp only [hc]
      have hw : SourceTree.Writes t ((g.classMeasures c cls node).foldl
          (fun t (x : Metric × MeasureValue) => t.setMeasure id x.1 x.2) t) fun _ _ => True :=
        SourceTree.Writes.foldl fun t' _ x _ => SourceTree.writes_setMeasure_of trivial _
      refine ⟨_, hw.shape, ?_⟩
      simp only [StructuralGraph.classDependencies, hn, hc, hf, List.foldl_flatMap]
      congr 1
      -- each edge records the same against the measured tree as against the tree
      refine List.foldl_ext _ _ _ fun d l _ => ?_
      rw [hw.shape.containers?_eq]
      by_cases htc : g.ownerClass l.target = cls
      · simp [htc]
      · simp only [beq_iff_eq, htc, if_false]
        cases t.containers? (g.key (g.ownerClass l.target)) with
        | none => rfl
        | some target => exact DependencyGraph.addEdge_eq_foldl _ _ _ _

theorem foldl_measureClass (g : StructuralGraph) (c : EngineConfig) (l : List Nat)
    (t : SourceTree) (d : DependencyGraph) : ∃ t' : SourceTree, t'.SameShape t ∧
      l.foldl (measureClass g c) (t, d) = (t', (l.flatMap (g.classDependencies t)).foldl record d) := by
  induction l generalizing t d with
  | nil => exact ⟨t, .refl t, rfl⟩
  | cons cls l ih =>
    obtain ⟨t₁, h₁, hm⟩ := measureClass_eq g c t d cls
    obtain ⟨t', h', hfold⟩ := ih t₁ ((g.classDependencies t cls).foldl record d)
    refine ⟨t', h'.trans h₁, ?_⟩
    rw [List.foldl_cons, hm, hfold, List.flatMap_cons, List.foldl_append,
      funext (g.classDependencies_congr h₁)]

/-- The names an analysis measures: the keys of the classes of the tree it is given, else the
names of the classes of its source. -/
def analyzedNames (classes : ClassSource) (tree : Option SourceTree) : List String :=
  match tree with
  | some t => (t.ids .cls).map fun id => (t.node id).key
  | none => classes.classNames

/-- The tree an analysis measures before it sets any measure: the tree it is given, else one
made of its names, with the graph's methods attached. -/
def analyzedTree (project : String) (classes : ClassSource) (tree : Option SourceTree)
    (g : StructuralGraph) : SourceTree :=
  (tree.getD (SourceTree.ofClassNames project (analyzedNames classes tree))).attachMethods g

section Analyze

variable {c : EngineConfig} {project : String} {classes libraries : ClassSource}
  {tree : Option SourceTree} {a : Analysis}

theorem analyze_of_buildGraph {g : StructuralGraph}
    (hb : buildGraph (classes ++ libraries) (analyzedNames classes tree) = .ok g) :
    ∃ a, analyze c project classes libraries tree = .ok a ∧ a.graph = g.link.1 := by
  unfold analyze
  extract_lets names
  have hnames : names = analyzedNames classes tree := by cases tree <;> rfl
  clear_value names
  subst hnames
  simp only [bind, Except.bind, hb]
  exact ⟨_, rfl, rfl⟩

/-- A successful analysis: its graph is well formed, its dependencies are those that its names
record, each name visited once, against a tree of the shape it measures whose classes all bear
those names, and its tree is that tree aggregated. -/
theorem analyze_structure (h : analyze c project classes libraries tree = .ok a) :
    ∃ t : SourceTree, a.graph.WellFormed ∧ t.ClassesNamed (analyzedNames classes tree) ∧
      t.SameShape (analyzedTree project classes tree a.graph) ∧
      a.dependencies = (((sortedDistinct (analyzedNames classes tree)).filterMap
        a.graph.get?).flatMap (a.graph.classDependencies t)).foldl record {} ∧
      a.tree = t.aggregate a.dependencies c := by
  unfold analyze at h
  extract_lets names at h
  have hnames : names = analyzedNames classes tree := by cases tree <;> rfl
  -- the names are those of the tree's classes, or the source's over a tree made of them
  have hnamed : (tree.getD (SourceTree.ofClassNames project names)).ClassesNamed names := by
    cases tree with
    | some t₀ => exact SourceTree.classesNamed_ids t₀
    | none => exact SourceTree.classesNamed_ofClassNames project names
  clear_value names
  subst hnames
  simp only [bind, Except.bind] at h
  split at h
  · cases h
  · next g₀ hb =>
    have hwf : g₀.link.1.WellFormed := (buildGraph_wellFormed hb).link
    generalize g₀.link.1 = g at h hwf
    rw [(dispatch_standard rfl g c _ {} _).2] at h
    obtain ⟨t', hshape, hfold⟩ := foldl_measureClass g c
      ((sortedDistinct (analyzedNames classes tree)).filterMap g.get?)
      (analyzedTree project classes tree g) {}
    simp only [analyzedTree] at hfold hshape
    simp only [hfold, pure, Except.pure, Except.ok.injEq] at h
    subst h
    have ht' : t'.ClassesNamed (analyzedNames classes tree) :=
      hshape.classesNamed (hnamed.attachMethods g)
    refine ⟨t', hwf, ht', hshape, ?_, ?_⟩
    · dsimp only
      rw [funext (g.classDependencies_congr hshape)]
    · dsimp only

theorem analyze_tree_sameShape (h : analyze c project classes libraries tree = .ok a) :
    a.tree.SameShape (analyzedTree project classes tree a.graph) := by
  obtain ⟨t, -, -, hshape, -, htree⟩ := analyze_structure h
  rw [htree]
  exact (SourceTree.aggregate_sameShape t _ c).trans hshape

end Analyze

end ClassMetrics
