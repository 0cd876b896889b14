import ClassMetrics.Proofs.Order.Dependencies
import ClassMetrics.Proofs.Order.Builds

/-!
Member order does not matter to an analysis. Two sources alike but for the order in which
their class files list fields and methods build graphs that renumber one another by keys
(`StructuralGraph.Built.renumbering`). An analysis by renumbered graphs attaches the same
methods in another order, measures each class alike and records the same dependencies in
another order; its measures and its listing of dependencies are the same.
-/

namespace ClassMetrics

/-- What an analysis computes from its linked graph: the graph's methods attached to the tree,
the classes of its names measured in turn, and the tree aggregated. -/
def analysisOf (c : EngineConfig) (names : List String) (t : SourceTree) (g : StructuralGraph) :
    Analysis :=
  let run := ((sortedDistinct names).filterMap g.get?).foldl (measureClass g c)
    (t.attachMethods g, {})
  ⟨g, run.1.aggregate run.2 c, run.2⟩

theorem analyze_eq_map (c : EngineConfig) (project : String) (classes libraries : ClassSource)
    (tree : Option SourceTree) :
    analyze c project classes libraries tree =
      (buildGraph (classes ++ libraries) (analyzedNames classes tree)).map fun g =>
        analysisOf c (analyzedNames classes tree)
          (tree.getD (SourceTree.ofClassNames project (analyzedNames classes tree))) g.link.1 := by
  unfold analyze
  extract_lets names
  have hnames : names = analyzedNames classes tree := by cases tree <;> rfl
  clear_value names
  subst hnames
  cases buildGraph (classes ++ libraries) (analyzedNames classes tree) with
  | error e => rfl
  | ok g =>
    simp only [bind, Except.bind, pure, Except.pure, Except.map, analysisOf]
    rw [(dispatch_standard rfl g.link.1 c _ {} _).2]

theorem analyze_eq_ok_iff {c : EngineConfig} {project : String} {classes libraries : ClassSource}
    {tree : Option SourceTree} {a : Analysis} :
    analyze c project classes libraries tree = .ok a ↔
      ∃ g, buildGraph (classes ++ libraries) (analyzedNames classes tree) = .ok g ∧
        a = analysisOf c (analyzedNames classes tree)
          (tree.getD (SourceTree.ofClassNames project (analyzedNames classes tree))) g.link.1 := by
  rw [analyze_eq_map]
  cases buildGraph (classes ++ libraries) (analyzedNames classes tree) with
  | error e => simp [Except.map]
  | ok g => simp [Except.map, eq_comm]

theorem wellFormed_foldl_measureClass (g : StructuralGraph) (c : EngineConfig) (l : List Nat)
    (t : SourceTree) : (l.foldl (measureClass g c) (t, {})).2.WellFormed := by
  obtain ⟨t', -, hrun⟩ := foldl_measureClass g c l t {}
  rw [hrun]
  exact DependencyGraph.foldl_record_wellFormed DependencyGraph.wellFormed_empty _

namespace StructuralGraph.Renumbering

variable {σ : Nat → Nat} {G₁ G₂ : StructuralGraph}

theorem filterMap_get? (h : G₁.Renumbering σ G₂) (hg₂ : G₂.WellFormed) (l : List String) :
    l.filterMap G₂.get? = (l.filterMap G₁.get?).map σ := by
  rw [List.map_filterMap]
  exact List.filterMap_congr fun k _ => h.get?_eq hg₂ k

/-- Analyses of one tree and the same names by renumbered graphs measure every level and key
alike and list the same dependencies. The methods attached differ at most in the order of
their nodes; measuring a class reads its node, and aggregation reads dependencies recorded
alike. -/
theorem analysisOf_alike (h : G₁.Renumbering σ G₂) (hg₁ : G₁.WellFormed) (hg₂ : G₂.WellFormed)
    (hs : SubclassesRenumbered σ G₁ G₂) (c : EngineConfig) (names : List String)
    {t : SourceTree} (ht : t.Grown Scope.Encloses) :
    (∀ s k m, (analysisOf c names t G₁).measure? s k m = (analysisOf c names t G₂).measure? s k m) ∧
      (analysisOf c names t G₁).dependencyList = (analysisOf c names t G₂).dependencyList := by
  have hn : 0 < t.size := ht.linked.size_pos
  unfold analysisOf
  dsimp only
  rw [h.filterMap_get? hg₂]
  -- the classes visited: those of one graph, renumbered in the other
  set V := (sortedDistinct names).filterMap G₁.get?
  have hVlt : ∀ cls ∈ V, cls < G₁.size := fun cls hcls => by
    obtain ⟨k, -, hk⟩ := List.mem_filterMap.mp hcls
    exact (key_of_get? hk).1
  -- the trees with methods attached, alike from the first node attached on
  have hA := SourceTree.attachMethods_alike h hg₁ hg₂ t
  have hf₁ := ht.linked.freshFrom_attachMethods G₁
  have hf₂ := ht.linked.freshFrom_attachMethods G₂
  -- measuring the classes keeps the trees alike and records the same dependencies
  have hR := hA.foldl_measureClass h hg₁ hg₂ c hf₁.methods hf₂.methods hVlt hs
  have hP := hA.foldl_measureClass_edges_perm h hg₁ hg₂ c hf₁.methods hf₂.methods hVlt
  have hw₁ := wellFormed_foldl_measureClass G₁ c V (t.attachMethods G₁)
  have hw₂ := wellFormed_foldl_measureClass G₂ c (V.map σ) (t.attachMethods G₂)
  have hr₁ := hf₁.foldl_measureClass G₁ c V {}
  have hr₂ := hf₂.foldl_measureClass G₂ c (V.map σ) {}
  have hl₁ := (ht.attachMethods G₁).linked.of_sameShape
    (writes_foldl_measureClass G₁ c (t.attachMethods G₁) {} (l := V)).shape
  have hl₂ := (ht.attachMethods G₂).linked.of_sameShape
    (writes_foldl_measureClass G₂ c (t.attachMethods G₂) {} (l := V.map σ)).shape
  set run₁ := V.foldl (measureClass G₁ c) (t.attachMethods G₁, {})
  set run₂ := (V.map σ).foldl (measureClass G₂ c) (t.attachMethods G₂, {})
  -- aggregated, each node attached counts one function and holds nothing else
  have hc₁ := hr₁.countsFrom_aggregate hl₁ hn run₁.2 c
  have hc₂ := hr₂.countsFrom_aggregate hl₂ hn run₂.2 c
  refine ⟨fun s k m => ?_, ?_⟩
  · unfold Analysis.measure?
    dsimp only
    exact (hR.aggregate hr₁.methods hr₂.methods hw₁ hw₂ hP c).bind_measure?_find? hc₁ hc₂ s k m
  · unfold Analysis.dependencyList
    dsimp only
    rw [funext (hw₁.edgesAt_eq_of_perm hP hw₂)]

end StructuralGraph.Renumbering

theorem buildGraph_ok_of_membersPermuted {S S' : ClassSource} {names : List String}
    (hp : S.MembersPermuted S') (hA : ∀ n ∈ names, Key.Plain n) {g : StructuralGraph}
    (h : buildGraph S names = .ok g) : ∃ g', buildGraph S' names = .ok g' := by
  cases h' : buildGraph S' names with
  | ok g' => exact ⟨g', rfl⟩
  | error e =>
    have hacc := buildGraph_accepts h hA
    have hx := buildGraph_error_explained h'
    exfalso
    cases e with
    | missingClass n =>
      obtain ⟨hn, hr⟩ := hx
      exact (hacc n hn).not_fails (.inl ((hp.resolve_eq_none_iff n).mp hr))
    | parse n _ =>
      obtain ⟨hn, hr⟩ := hx
      exact (hacc n hn).not_fails (.inr (hp.symm.rejects hr))

theorem buildGraph_link_renumbering {S S' : ClassSource} {names : List String}
    (hp : S.MembersPermuted S') (hK : S.MembersKeyed names.contains)
    (hA : ∀ n ∈ names, Key.Plain n) {g₁ g₂ : StructuralGraph} (hb : buildGraph S names = .ok g₁)
    (hb' : buildGraph S' names = .ok g₂) : ∃ σ, g₁.link.1.Renumbering σ g₂.link.1 ∧
      StructuralGraph.SubclassesRenumbered σ g₁.link.1 g₂.link.1 := by
  -- the build reads its names sorted and each once
  have hmem := (sortedDistinct_spec names).1
  have hcontains : (sortedDistinct names).contains = names.contains := funext fun n =>
    Bool.eq_iff_iff.mpr (by simp only [List.contains_iff_mem, hmem n])
  have hA' : ∀ n ∈ sortedDistinct names, Key.Plain n := fun n hn => hA n ((hmem n).mp hn)
  have hK' : S.MembersKeyed (sortedDistinct names).contains := hcontains ▸ hK
  obtain ⟨g₀₁, hb₁, rfl⟩ := buildGraph_built hb (hK'.keyable_of_plain hA') hA
  obtain ⟨g₀₂, hb₂, rfl⟩ := buildGraph_built hb'
    ((hK'.of_membersPermuted hp).keyable_of_plain hA') hA
  have hR := hb₁.renumbering hb₂ hp hK' hA'
  exact ⟨_, hR.indexHierarchy.link, (hR.subclassesRenumbered hb₁.wellFormed).link⟩

/-- Member order does not matter to an analysis. Two sources alike but for the order in which
their class files list fields and methods, analysed over the same names, libraries and tree:
when the names to analyse hold no `#`, the files read key their members apart and the places
that name a member under one key name it alike, both analyses succeed or neither does, and then
every level, key and metric has the same measure and the dependencies listed are the same. -/
theorem analyze_memberOrder_free {c : EngineConfig} {project : String}
    {classes classes' libraries : ClassSource} {tree : Option SourceTree}
    (hp : (classes ++ libraries).MembersPermuted (classes' ++ libraries))
    (hnames : classes'.classNames = classes.classNames)
    (hK : (classes ++ libraries).MembersKeyed (analyzedNames classes tree).contains)
    (hA : ∀ n ∈ analyzedNames classes tree, Key.Plain n)
    (htree : ∀ t, tree = some t → t.Grown Scope.Encloses) :
    ((∃ a, analyze c project classes libraries tree = .ok a) ↔
      ∃ a', analyze c project classes' libraries tree = .ok a') ∧
    ∀ a a', analyze c project classes libraries tree = .ok a →
      analyze c project classes' libraries tree = .ok a' →
      (∀ s k m, a.measure? s k m = a'.measure? s k m) ∧ a.dependencyList = a'.dependencyList := by
  have hnames' : analyzedNames classes' tree = analyzedNames classes tree := by
    cases tree with
    | some t => rfl
    | none => exact hnames
  -- the tree analysed: the one given, else one made of the names, grown by levels either way
  have ht : (tree.getD (SourceTree.ofClassNames project (analyzedNames classes tree))).Grown
      Scope.Encloses := by
    cases tree with
    | some t₀ => exact htree t₀ rfl
    | none => exact (SourceTree.ofClassNames_spec project _).1
  simp only [analyze_eq_ok_iff, hnames']
  generalize analyzedNames classes tree = names at hK hA ht
  generalize tree.getD (SourceTree.ofClassNames project names) = t at ht
  generalize classes ++ libraries = S at hp hK
  generalize classes' ++ libraries = S' at hp
  refine ⟨⟨?_, ?_⟩, ?_⟩
  · rintro ⟨-, g, hb, -⟩
    obtain ⟨g', hg'⟩ := buildGraph_ok_of_membersPermuted hp hA hb
    exact ⟨_, g', hg', rfl⟩
  · rintro ⟨-, g, hb, -⟩
    obtain ⟨g', hg'⟩ := buildGraph_ok_of_membersPermuted hp.symm hA hb
    exact ⟨_, g', hg', rfl⟩
  · rintro a a' ⟨g₁, hb, rfl⟩ ⟨g₂, hb', rfl⟩
    obtain ⟨σ, hR, hs⟩ := buildGraph_link_renumbering hp hK hA hb hb'
    exact hR.analysisOf_alike (buildGraph_wellFormed hb).link (buildGraph_wellFormed hb').link
      hs c names ht

/-- A class `C` whose methods `a` and `b` come in either order, `a` calling `b`. -/
theorem memberOrder_twoMethods :
    let bytes₁ : List UInt8 :=
      [0xca, 0xfe, 0xba, 0xbe, 0x00, 0x00, 0x00, 0x34, 0x00, 0x0b, 0x01, 0x00, 0x01, 0x43,
       0x07, 0x00, 0x01, 0x01, 0x00, 0x10, 0x6a, 0x61, 0x76, 0x61, 0x2f, 0x6c, 0x61, 0x6e,
       0x67, 0x2f, 0x4f, 0x62, 0x6a, 0x65, 0x63, 0x74, 0x07, 0x00, 0x03, 0x01, 0x00, 0x01,
       0x61, 0x01, 0x00, 0x03, 0x28, 0x29, 0x56, 0x01, 0x00, 0x01, 0x62, 0x01, 0x00, 0x04,
       0x43, 0x6f, 0x64, 0x65, 0x0c, 0x00, 0x07, 0x00, 0x06, 0x0a, 0x00, 0x02, 0x00, 0x09,
       0x00, 0x21, 0x00, 0x02, 0x00, 0x04, 0x00, 0x00, 0x00, 0x00, 0x00, 0x02, 0x00, 0x01,
       0x00, 0x05, 0x00, 0x06, 0x00, 0x01, 0x00, 0x08, 0x00, 0x00, 0x00, 0x11, 0x00, 0x01,
       0x00, 0x01, 0x00, 0x00, 0x00, 0x05, 0x2a, 0xb6, 0x00, 0x0a, 0xb1, 0x00, 0x00, 0x00,
       0x00, 0x00, 0x01, 0x00, 0x07, 0x00, 0x06, 0x00, 0x01, 0x00, 0x08, 0x00, 0x00, 0x00,
       0x0d, 0x00, 0x00, 0x00, 0x01, 0x00, 0x00, 0x00, 0x01, 0xb1, 0x00, 0x00, 0x00, 0x00,
       0x00, 0x00]
    let bytes₂ : List UInt8 :=
      [0xca, 0xfe, 0xba, 0xbe, 0x00, 0x00, 0x00, 0x34, 0x00, 0x0b, 0x01, 0x00, 0x01, 0x43,
       0x07, 0x00, 0x01, 0x01, 0x00, 0x10, 0x6a, 0x61, 0x76, 0x61, 0x2f, 0x6c, 0x61, 0x6e,
       0x67, 0x2f, 0x4f, 0x62, 0x6a, 0x65, 0x63, 0x74, 0x07, 0x00, 0x03, 0x01, 0x00, 0x01,
       0x61, 0x01, 0x00, 0x03, 0x28, 0x29, 0x56, 0x01, 0x00, 0x01, 0x62, 0x01, 0x00, 0x04,
       0x43, 0x6f, 0x64, 0x65, 0x0c, 0x00, 0x07, 0x00, 0x06, 0x0a, 0x00, 0x02, 0x00, 0x09,
       0x00, 0x21, 0x00, 0x02, 0x00, 0x04, 0x00, 0x00, 0x00, 0x00, 0x00, 0x02, 0x00, 0x01,
       0x00, 0x07, 0x00, 0x06, 0x00, 0x01, 0x00, 0x08, 0x00, 0x00, 0x00, 0x0d, 0x00, 0x00,
       0x00, 0x01, 0x00, 0x00, 0x00, 0x01, 0xb1, 0x00, 0x00, 0x00, 0x00, 0x00, 0x01, 0x00,
       0x05, 0x00, 0x06, 0x00, 0x01, 0x00, 0x08, 0x00, 0x00, 0x00, 0x11, 0x00, 0x01, 0x00,
       0x01, 0x00, 0x00, 0x00, 0x05, 0x2a, 0xb6, 0x00, 0x0a, 0xb1, 0x00, 0x00, 0x00, 0x00,
       0x00, 0x00]
    ((∃ a, analyze {} "p" [.table [("C", bytes₁)]] [] none = .ok a) ↔
        ∃ a', analyze {} "p" [.table [("C", bytes₂)]] [] none = .ok a') ∧
      ∀ a a', analyze {} "p" [.table [("C", bytes₁)]] [] none = .ok a →
        analyze {} "p" [.table [("C", bytes₂)]] [] none = .ok a' →
        (∀ s k m, a.measure? s k m = a'.measure? s k m) ∧ a.dependencyList = a'.dependencyList := by
  intro bytes₁ bytes₂
  -- the second file lists the methods of the first in the other order
  have hswap : ∀ l, ClassFile.ClassInfo.decode bytes₂ l =
      (ClassFile.ClassInfo.decode bytes₁ l).map fun F => { F with methods := F.methods.reverse } := by
    intro l
    cases l <;> cbv
  -- at either level: two keys, a plain superclass, and at most the call of `b` as a place
  let call : Site := .method ⟨"C", "b", "()V"⟩ false
  have hread : ∀ l, (ClassFile.ClassInfo.decode bytes₁ l).map (fun F =>
      (F.memberKeys "C", F.superClass, F.interfaces, F.siteList)) =
        .ok (["C#a()V", "C#b()V"], some "java/lang/Object", [],
          .ok (if l = .structureAndCalls then [call] else [])) := by
    intro l
    cases l <;> cbv
  have hfile : ∀ l (file : ClassFile.ClassInfo), ClassFile.ClassInfo.decode bytes₁ l = .ok file →
      file.NamesPlain ∧ (file.memberKeys "C").Nodup ∧ ∀ σ, file.HasSite σ → σ = call := by
    intro l file hd
    have h := hread l
    rw [hd] at h
    simp only [Except.map, Except.ok.injEq, Prod.mk.injEq] at h
    obtain ⟨hkeys, hsup, hint, hsites⟩ := h
    have hcall : ∀ σ, file.HasSite σ → σ = call := by
      intro σ hσ
      have hmem := hσ.mem_siteList hsites
      split at hmem
      · exact List.mem_singleton.mp hmem
      · exact absurd hmem List.not_mem_nil
    refine ⟨⟨⟨fun s hs => ?_, fun s hs => ?_⟩, fun σ hσ => ?_⟩, by rw [hkeys]; decide, hcall⟩
    · rw [hsup] at hs
      cases hs
      decide
    · rw [hint] at hs
      exact absurd hs List.not_mem_nil
    · rw [hcall σ hσ]
      decide
  refine analyze_memberOrder_free (ClassSource.membersPermuted_single
    ClassFile.ClassInfo.MembersPermuted.reverseMethods hswap) rfl
    (ClassSource.membersKeyed_single fun l file hd => ?_) (fun n hn => ?_) (fun _ h => by cases h)
  · obtain ⟨hplain, hnodup, hcall⟩ := hfile l file hd
    refine ⟨hplain, hnodup, fun σ σ' hσ hσ' _ _ => ?_⟩
    rw [hcall σ hσ, hcall σ' hσ']
    exact ⟨rfl, rfl, rfl⟩
  · -- the one class analysed is `C`
    have hC : n = "C" := by
      simpa [analyzedNames, ClassSource.classNames, ClassStore.classNames,
        (sortedDistinct_spec _).1] using hn
    rw [hC]
    decide

end ClassMetrics
