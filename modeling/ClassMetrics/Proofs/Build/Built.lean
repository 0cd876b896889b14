import ClassMetrics.Proofs.Build.Usages

/-!
What the graph a build leaves holds of its source, before its hierarchy is indexed. Every node is
faithful to the source: a class the build loads, at the level the policy gives it, with its
supertypes and its members from its file; a member declared by its class's file, or made for a
place of an analysed file when its owner's hierarchy declares nothing of its name. Each class to
analyse is read with bodies and its places lead to nodes. The edge from one node to another
holds the references the wiring of the classes records between them, and the usage of an edge is
what its source makes of its target.
-/

namespace ClassMetrics

open ClassFile StructuralGraph Load Loader

/-- The file with bodies that the bytes of a class read to, when they read. -/
def ClassSource.fileWithBodies (S : ClassSource) (n : String) : Option ClassInfo :=
  (S.resolve n).bind fun bytes => (ClassInfo.decode bytes .structureAndCalls).toOption

theorem ClassSource.fileWithBodies_eq_some {S : ClassSource} {n : String} {file : ClassInfo} :
    S.fileWithBodies n = some file ↔ S.Reads n .structureAndCalls file := by
  unfold fileWithBodies Reads
  constructor
  · intro h
    obtain ⟨bytes, hb, hd⟩ := Option.bind_eq_some_iff.mp h
    refine ⟨bytes, hb, ?_⟩
    cases hdec : ClassInfo.decode bytes .structureAndCalls with
    | error e =>
      rw [hdec] at hd
      cases hd
    | ok f =>
      rw [hdec] at hd
      cases hd
      rfl
  · rintro ⟨bytes, hb, hd⟩
    rw [hb, Option.bind_some, hd]
    rfl

namespace StructuralGraph

/-- The references the wiring of class `n` records, read in `g`: from its file with bodies, at its
node; none when it has no node or no such file. -/
def classRefs (g : StructuralGraph) (S : ClassSource) (n : String) : List (Nat × Nat) :=
  match g.get? n, S.fileWithBodies n with
  | some i, some file => wiredRefs g n i file
  | _, _ => []

/-- What the graph of a build of the classes `names` of the source `S` holds, before its
hierarchy is indexed. -/
structure Built (S : ClassSource) (names : List String) (g : StructuralGraph) : Prop where
  wellFormed : g.WellFormed
  faithful : g.Faithful S names.contains (fun _ σ => S.AnalysedSite names.contains σ) fun _ => False
  unfound : g.Unfound
  levels : g.LevelsFollow names.contains S
  analysed : ∀ n ∈ names, ∃ i c file, g.get? n = some i ∧ g.classNode? i = some c ∧
    c.level = some .structureAndCalls ∧ S.Reads n .structureAndCalls file ∧ ClassRead g n i file
  weights : ∀ a t, g.Records a t
    (if g.Admits a t then (names.flatMap (g.classRefs S)).count (a, t) else 0)
  bounded : g.UsagesBounded
  supertypes : ∀ n ∈ names, ∀ i c, g.get? n = some i → g.classNode? i = some c →
    g.SupertypesRecorded i c

namespace Built

variable {S : ClassSource} {names : List String} {g : StructuralGraph}

theorem mem_refs_of_edge? (h : g.Built S names) {s t : Nat} {l : Link} (he : g.edge? s t = some l) :
    (s, t) ∈ names.flatMap (g.classRefs S) := by
  have hpos := (h.weights s t).2.mp (by rw [he]; rfl)
  split at hpos
  · exact List.count_pos_iff.mp hpos
  · exact absurd hpos (Nat.lt_irrefl 0)

theorem wired_of_edge? (h : g.Built S names) (hplain : g.ClassKeysPlain) {s t : Nat} {l : Link}
    (he : g.edge? s t = some l) {c : ClassNode} (hc : g.classNode? s = some c) :
    ∃ n ∈ names, g.get? n = some s := by
  obtain ⟨n, hn, href⟩ := List.mem_flatMap.mp (h.mem_refs_of_edge? he)
  unfold classRefs at href
  split at href
  · rename_i i file hi _
    rcases key_of_mem_wiredRefs href with hsi | ⟨y, hy⟩
    · have hsi : s = i := hsi
      exact ⟨n, hn, hsi ▸ hi⟩
    · exact absurd hy (Key.ne_append_of_plain (hplain s c hc) n y)
  · exact absurd href List.not_mem_nil

theorem usage_eq (h : g.Built S names) (hplain : g.ClassKeysPlain) {s t : Nat} {l : Link}
    (he : g.edge? s t = some l) : l.usage = g.usageOf s t := by
  unfold usageOf
  cases hc : g.classNode? s with
  | none => exact usage_eq_uses h.bounded hc he
  | some c =>
    obtain ⟨n, hn, hget⟩ := h.wired_of_edge? hplain he hc
    exact usage_eq_usageTo h.wellFormed h.bounded hc (h.supertypes n hn s c hget hc) he

end Built

end StructuralGraph

/-! ### The build -/

section Build

variable {S : ClassSource} {names : List String} {p : Loader}

/-- The passes of a build, from a faithful loader with nothing resolved, no file kept and no
reference, over distinct names to analyse that hold no `#`, leave a built graph. -/
theorem run_build_built (hK : S.Keyable names.contains) (hp : p.Valid) (hs : p.Sound)
    (hst : p.Stocked fun _ => False) (hempty : p.graph.links = #[]) (hsrc : p.source = S)
    (hA : p.isAnalyzable = names.contains)
    (hF : p.graph.Faithful S names.contains (fun _ _ => False) fun _ => False)
    (hplain : ∀ n ∈ names, Key.Plain n) (hnodup : names.Nodup) :
    (Build.run names).Run p fun _ p' => p'.graph.Built S names := by
  have hnames : ∀ n ∈ names, names.contains n = true := fun n hn => List.contains_iff_mem.mpr hn
  have hAn : ∀ n ∈ names, p.isAnalyzable n = true := fun n hn => by rw [hA]; exact hnames n hn
  unfold Build.run
  refine Run.get_bind ?_
  refine Run.bind ((run_loadPass_kept hp hs hst names hAn hplain).and
    (run_loadPass_wiring hK hp hs hsrc hA (unloaded_succ_lt_fuel p) hF names hnames))
    fun loaded p₁ h₁ ⟨⟨hlen, _, hl₁, hclass⟩, hw₁⟩ => ?_
  have hfst : (names.zip loaded).map Prod.fst = names := List.map_fst_zip (Nat.le_of_eq hlen)
  have hnodup' : ((names.zip loaded).map Prod.fst).Nodup := by rw [hfst]; exact hnodup
  have hnodup₂ : ((names.zip loaded).map Prod.snd).Nodup := by
    -- distinct names are at distinct nodes, each keyed by its name
    refine List.Nodup.map_on (fun x hx y hy hxy => Prod.ext ?_ hxy) (List.Nodup.of_map Prod.fst hnodup')
    rw [← (hclass x hx).1.2, hxy, (hclass y hy).1.2]
  have hlinks₁ : p₁.graph.links = #[] := hl₁.trans hempty
  have hb₁ : p₁.graph.UsagesBounded := by
    intro l hl
    rw [hlinks₁] at hl
    exact absurd hl List.not_mem_nil
  -- each class to analyse is read with bodies at its node, with its file with bodies kept
  have hfiles : ∀ x ∈ names.zip loaded, ∃ file c, p₁.fileOf x.2 = some file ∧
      p₁.graph.classNode? x.2 = some c ∧ c.level = some .structureAndCalls ∧
      file.access = c.access ∧ ∀ σ, file.HasSite σ → S.AnalysedSite names.contains σ := by
    intro x hx
    obtain ⟨hn, c, bytes, F, hc, hlev, hb, hd, hF, -⟩ := hclass x hx
    have hread : S.Reads x.1 .structureAndCalls F := ⟨bytes, hsrc ▸ hb, hd⟩
    have hkey : c.key = x.1 := by
      rw [← hn.2, key_of_resource? (classNode?_eq_some.mp hc)]
      rfl
    obtain ⟨F', hF', hacc, -⟩ := (hw₁.faithful.classes _ c hc).2.2 _ hlev
    rw [hkey] at hF'
    cases hread.unique hF'
    exact ⟨F, c, hF, hc, hlev, hacc.symm,
      fun σ hσ => ⟨x.1, F, hnames x.1 (List.of_mem_zip hx).1, hread, hσ⟩⟩
  refine ((run_wirePass_refs h₁.valid names loaded (fun x hx => (hclass x hx).1) hnodup'
    fun x hx F hF => ?_).and (run_wirePass_usages hK h₁.valid hw₁ hb₁ names loaded hnodup₂
    hfiles)).mono fun _ p' hl ⟨⟨_, hrefs⟩, hI, hrec⟩ => ?_
  · obtain ⟨-, c, -, F', hc, -, -, -, hF', hdecl⟩ := hclass x hx
    rw [hF] at hF'
    cases hF'
    exact ⟨⟨c, hc⟩, hdecl⟩
  have hkeys : p'.graph.ClassKeysPlain := hI.wiring.faithful.classKeysPlain hK.plain
  obtain ⟨hread, hadds⟩ := hrefs hkeys
  -- the class of each name to analyse, as the load pass left it
  have hclass' : ∀ n ∈ names, ∃ x ∈ names.zip loaded, x.1 = n := fun n hn => by
    rw [← hfst] at hn
    obtain ⟨x, hx, hxn⟩ := List.mem_map.mp hn
    exact ⟨x, hx, hxn⟩
  have hget : ∀ x ∈ names.zip loaded, p'.graph.get? x.1 = some x.2 := fun x hx =>
    hl.valid.graph.get?_eq_some_iff.mpr ((hclass x hx).1.later hl)
  have hfile : ∀ x ∈ names.zip loaded, ∀ F, p₁.fileOf x.2 = some F →
      S.fileWithBodies x.1 = some F := by
    intro x hx F hF
    obtain ⟨-, c, bytes, F', -, -, hb, hd, hF', -⟩ := hclass x hx
    rw [hF] at hF'
    cases hF'
    exact ClassSource.fileWithBodies_eq_some.mpr ⟨bytes, hsrc ▸ hb, hd⟩
  -- the references of the pass, class by class
  have hsum : (names.zip loaded).flatMap (fileRefs p'.graph p₁) =
      names.flatMap (p'.graph.classRefs S) := by
    calc (names.zip loaded).flatMap (fileRefs p'.graph p₁)
        = (names.zip loaded).flatMap (fun x => p'.graph.classRefs S x.1) := by
          refine List.flatMap_congr fun x hx => ?_
          obtain ⟨F, -, hF, -⟩ := hfiles x hx
          unfold fileRefs classRefs
          rw [hF, hget x hx, hfile x hx F hF]
      _ = names.flatMap (p'.graph.classRefs S) := by
          rw [← List.flatMap_map, hfst]
  refine ⟨hl.valid.graph, hI.wiring.faithful, hI.wiring.unfound, ?_, fun n hn => ?_, fun a t => ?_,
    hI.bounded, fun n hn i c hi hc => ?_⟩
  · have hlev := hI.wiring.sound.graph
    rw [hI.wiring.analyzable, hI.wiring.source] at hlev
    exact hlev
  · obtain ⟨x, hx, rfl⟩ := hclass' n hn
    obtain ⟨F, c, hF, hc, hlev, -, -⟩ := hfiles x hx
    obtain ⟨c', hc', -, hrise⟩ := hl.graph.classNode _ c hc
    rw [hlev] at hrise
    exact ⟨x.2, c', F, hget x hx, hc', LevelRises.eq_structureAndCalls hrise,
      ClassSource.fileWithBodies_eq_some.mp (hfile x hx F hF), hread x hx F hF⟩
  · obtain ⟨hw, hlink⟩ := hadds.of_links_empty hlinks₁ a t
    rw [hsum] at hw hlink
    exact hl.valid.graph.records hw hlink
  · -- the class wired at that node, as the load pass left it, makes the same of each node
    obtain ⟨x, hx, rfl⟩ := hclass' n hn
    rw [hget x hx] at hi
    cases hi
    obtain ⟨-, c₁, -, -, hc₁, hlev₁, -⟩ := hclass x hx
    obtain ⟨c', hc', -, -, husage⟩ :=
      hI.frozen.usageTo_eq hw₁.faithful hI.wiring.faithful hc₁ hlev₁
    rw [hc] at hc'
    cases hc'
    exact (hrec x hx c₁ hc₁).of_usageTo_eq husage

theorem StructuralGraph.faithful_empty (S : ClassSource) (A : String → Bool)
    (U : Nat → Site → Prop) (P : Nat → Prop) : ({} : StructuralGraph).Faithful S A U P where
  classes _ _ h := absurd (lt_size_of_resource? (classNode?_eq_some.mp h)) (by simp [size])
  methods _ _ h := absurd (lt_size_of_resource? (methodNode?_eq_some.mp h)) (by simp [size])
  fields _ _ h := absurd (lt_size_of_resource? (fieldNode?_eq_some.mp h)) (by simp [size])
  usedMethods _ _ h := absurd (lt_size_of_resource? (methodNode?_eq_some.mp h)) (by simp [size])
  usedFields _ _ h := absurd (lt_size_of_resource? (fieldNode?_eq_some.mp h)) (by simp [size])

theorem buildGraph_built {analyzable : List String} {g : StructuralGraph}
    (h : buildGraph S analyzable = .ok g) (hK : S.Keyable (sortedDistinct analyzable).contains)
    (hplain : ∀ n ∈ analyzable, Key.Plain n) :
    ∃ g₀ : StructuralGraph, g₀.Built S (sortedDistinct analyzable) ∧ g = g₀.indexHierarchy := by
  obtain ⟨p, hrun, rfl⟩ := buildGraph_eq_ok h
  have hmem := sortedDistinct_spec analyzable
  have hstart := Build.start_later S (sortedDistinct analyzable)
  have hgraph : (Build.start S (sortedDistinct analyzable)).graph = {} :=
    (Loader.prefetch_spec _ _ _).2.1
  obtain ⟨-, hbuilt⟩ := run_build_built hK hstart.valid (Build.start_sound S _)
    (Build.start_stocked S _ _) (by rw [hgraph]) hstart.source_eq (Build.isAnalyzable_start S _)
    (by rw [hgraph]; exact faithful_empty _ _ _ _) (fun n hn => hplain n ((hmem.1 n).mp hn))
    hmem.2
  rw [hrun] at hbuilt
  exact ⟨p.graph, hbuilt () rfl, rfl⟩

end Build

end ClassMetrics
