import ClassMetrics.Proofs.Loader.Commute
import Mathlib

/-! Path independence of escalation. A class not yet in the graph, loaded at the structure level
and then at the highest level, ends in the graph that loading it at the highest level at once
builds. The two runs differ only by the class's level and by what its members record of the
code, and the escalation's node map removes that difference: the insertion from the structure
level's file, changed by the map, is the insertion from the highest level's file, and the loads
of the supertypes in between commute with the map. Where the direct load succeeds the two runs
end in the same loader. Where a supertype cannot be loaded the graphs still agree, but the
escalation keeps the class's file, which the failed direct load never stored. Class names must
hold no `#`, the separator of member keys: a supertype named like a member key of the class
redeclares that member, and the order of the two declarations then shows. -/

namespace ClassMetrics

open ClassFile StructuralGraph Load

variable {source : ClassSource} {analyzable : List String} {p q : Loader} {n : String}
  {file : ClassInfo}

theorem Reachable.source_eq (h : Reachable source analyzable p) : p.source = source := by
  induction h with
  | start => rfl
  | step hr hstep ih => exact ((hstep.later hr.valid).source_eq).trans ih

theorem Loader.Valid.outcome_eq_decode (hp : p.Valid) (name : String) (level : DetailLevel) :
    ∃ l, level ≤ l ∧ p.outcome name level = (p.source.resolve name).map (ClassInfo.decode · l) := by
  unfold Loader.outcome
  split
  · rename_i n' l r hfind
    split
    · rename_i hle
      obtain ⟨bytes, hb, hr⟩ := hp.prefetched _ (List.mem_of_find?_eq_some hfind)
      have hn' : n' = name := by simpa using List.find?_some hfind
      subst hn'
      refine ⟨l, hle, ?_⟩
      rw [hb]
      exact congrArg some hr
    · exact ⟨level, Nat.le_refl _, rfl⟩
  · exact ⟨level, Nat.le_refl _, rfl⟩

/-! ### The loads of one class -/

theorem loadClass_exec (name : String) (level : DetailLevel) (p : Loader) :
    (loadClass name level).exec p = (getClass p.fuel name level).exec p := by
  unfold loadClass
  rw [exec_bind, exec_get]

theorem loadClass_exec_of_read (hfresh : p.graph.get? n = none) {level : DetailLevel}
    {f : ClassInfo} (hread : p.outcome n level = some (.ok f)) :
    (loadClass n level).exec p =
      (insert p.source.size n f).exec { p with prefetched := p.prefetched.filter (·.1 != n) } := by
  rw [loadClass_exec, Loader.fuel, getClass_exec_of_fresh hfresh, exec_bind, decode_exec, hread]
  rfl

theorem loadClass_exec_of_level {i : Nat} {c : ClassNode} {l level : DetailLevel}
    (hi : p.graph.get? n = some i) (hc : p.graph.classNode? i = some c) (hl : c.level = some l)
    (hle : ¬ l < level) : (loadClass n level).exec p = (.ok i, p) := by
  rw [loadClass_exec, Loader.fuel]
  refine getClass_exec_of_get? hi fun current hcur => ?_
  rw [hc, Option.bind_some, hl, Option.some.injEq] at hcur
  rw [← hcur]
  exact hle

/-- A load at the highest level of a class at the structure level reads its file again and
escalates the class. -/
theorem loadClass_exec_escalate {i : Nat} {c : ClassNode} {bytes : List UInt8}
    (hp : p.Valid) (hi : p.graph.get? n = some i) (hc : p.graph.classNode? i = some c)
    (hl : c.level = some .structureOnly) (hbytes : p.source.resolve n = some bytes)
    (hdec : ClassInfo.decode bytes .structureAndCalls = .ok file) :
    (loadClass n .structureAndCalls).exec p =
      (.ok i, { p with
        prefetched := p.prefetched.filter (·.1 != n),
        graph := (p.graph.modifyClass i fun c => { c with level := some file.level }).declareMembers
          i n file,
        files := (i, file) :: p.files.filter (·.1 != i) }) := by
  have hread : p.outcome n .structureAndCalls = some (.ok file) := by
    rw [hp.outcome_structureAndCalls, hbytes, Option.map_some, hdec]
  rw [loadClass_exec, Loader.fuel, getClass, exec_bind, exec_get]
  dsimp only
  rw [hi]
  dsimp only
  rw [hc, Option.bind_some, hl]
  dsimp only
  rw [if_pos (by decide), exec_bind, escalate, exec_bind, decode_exec, hread]
  rfl

/-! ### An insertion in three parts -/

/-- The graph an insertion builds before it loads the supertypes: the class added under a new
key, with its members declared. -/
def StructuralGraph.inserted (g : StructuralGraph) (n : String) (f : ClassInfo) :
    StructuralGraph :=
  ({ g with nodes := g.nodes.push (.cls ⟨n, f.access, some f.level, none, [], [], []⟩) } :
    StructuralGraph).declareMembers g.size n f

/-- What an insertion at node `i` does once the loads of the supertypes end: it records the
supertypes and keeps the file, or stops at a failed load. -/
def insertDone (i : Nat) (f : ClassInfo) :
    Except AnalysisError (Option Nat × List Nat) × Loader → Except AnalysisError Nat × Loader
  | (.ok st, q) => (.ok i, { q with
      graph := q.graph.modifyClass i fun c =>
        { c with superClass := st.1.filter (· != i), interfaces := st.2 },
      files := (i, f) :: q.files.filter (·.1 != i) })
  | (.error e, q) => (.error e, q)

theorem insert_exec_of_fresh {fuel : Nat} {f : ClassInfo} (hfresh : q.graph.get? n = none) :
    (insert fuel n f).exec q =
      insertDone q.graph.size f
        ((loadSupertypes fuel q.graph.size f).exec { q with graph := q.graph.inserted n f }) := by
  have hadd : q.graph.addResource (.cls ⟨n, f.access, some f.level, none, [], [], []⟩) =
      ({ q.graph with nodes := q.graph.nodes.push (.cls ⟨n, f.access, some f.level, none, [], [], []⟩) },
        q.graph.size) :=
    addResource_cls hfresh
  rw [insert_eq, exec_bind]
  simp only [ClassMetrics.addResource, exec_modifyGet, hadd]
  rw [exec_bind]
  simp only [ClassMetrics.modifyGraph, exec_modify]
  rw [exec_bind]
  unfold StructuralGraph.inserted
  split
  · rename_i st q' hls
    rw [hls]
    simp only [exec_bind, exec_modify, storeFile, exec_pure]
    rfl
  · rename_i e q' hls
    rw [hls]
    rfl

section Inserted

variable {g : StructuralGraph} {f : ClassInfo}

theorem get?_inserted (hfresh : g.get? n = none) : (g.inserted n f).get? n = some g.size := by
  have hpush : ({ g with nodes := g.nodes.push (.cls ⟨n, f.access, some f.level, none, [], [], []⟩) } :
      StructuralGraph).get? n = some g.size := by
    rw [get?_eq_some_iff]
    refine ⟨by simp, by rw [key_push, if_pos rfl]; rfl, fun j hj => ?_⟩
    rw [key_push, if_neg (Nat.ne_of_lt hj)]
    exact get?_eq_none_iff.mp hfresh j hj
  exact (extends_declareMembers _ _ _).get?_eq hpush

theorem classNode?_inserted : ∃ c, (g.inserted n f).classNode? g.size = some c ∧ c.key = n := by
  have hpush : ({ g with nodes := g.nodes.push (.cls ⟨n, f.access, some f.level, none, [], [], []⟩) } :
      StructuralGraph).classNode? g.size = some ⟨n, f.access, some f.level, none, [], [], []⟩ := by
    rw [classNode?_push, if_pos rfl]
  obtain ⟨c, hc, hk, -⟩ := (extends_declareMembers _ _ _).classNode _ _ hpush
  exact ⟨c, hc, hk⟩

theorem uniqueKeys_push_cls (hg : g.UniqueKeys) {c : ClassNode} (hfresh : g.get? c.key = none) :
    ({ g with nodes := g.nodes.push (.cls c) } : StructuralGraph).UniqueKeys := by
  have hadd := hg.addResource (.cls c)
  rwa [addResource_cls hfresh] at hadd

theorem isSome_get?_inserted (hg : g.UniqueKeys) (hfresh : g.get? n = none) :
    ∀ r ∈ memberNodes g.size n f.fields f.methods, ((g.inserted n f).get? r.key).isSome :=
  isSome_get?_declareMembers (uniqueKeys_push_cls hg hfresh) g.size n f

theorem mapNodes_raise_of_fresh (hfresh : g.get? n = none) (level : DetailLevel) :
    g.mapNodes (NodeMap.raise n level) = g := by
  refine mapNodes_eq_self fun j r hr => NodeMap.raise_fixes ?_ r rfl
  have hj : j < g.size := resource?_isSome_iff.mp (by rw [hr]; rfl)
  rw [← key_of_resource? hr]
  exact get?_eq_none_iff.mp hfresh j hj

theorem inserted_mapNodes_raise (hn : Key.Plain n) (hfresh : g.get? n = none) :
    (g.inserted n f).mapNodes (NodeMap.raise n f.level) = g.inserted n f := by
  have hmember : ∀ x, (NodeMap.raise n f.level).Fixes (n ++ "#" ++ x) :=
    fun x => NodeMap.raise_fixes (Key.ne_append_of_plain hn n x).symm
  unfold inserted
  rw [mapNodes_declareMembers (fun fi _ => hmember fi.name)
      (fun mi _ => by rw [Key.method_eq_append]; exact hmember _),
    mapNodes_push, mapNodes_raise_of_fresh hfresh]
  simp [NodeMap.apply, NodeMap.raise]

theorem inserted_withoutCode_mapNodes (hg : g.UniqueKeys) (hfresh : g.get? n = none)
    (file : ClassInfo) :
    (g.inserted n file.withoutCode).mapNodes (NodeMap.escalation n file) = g.inserted n file := by
  unfold inserted
  rw [escalation_declareMembers_withoutCode (uniqueKeys_push_cls hg hfresh), mapNodes_push,
    mapNodes_raise_of_fresh hfresh]
  simp [NodeMap.apply, NodeMap.raise, ClassInfo.withoutCode]

end Inserted

theorem Loader.Valid.apart_inserted (hp : p.Valid) (hplain : p.source.PlainSupertypes)
    (hfresh : p.graph.get? n = none) (f : ClassInfo) :
    ({ p with prefetched := p.prefetched.filter (·.1 != n), graph := p.graph.inserted n f } :
      Loader).Apart n where
  present := by rw [get?_inserted hfresh]; rfl
  prefetched_ne e he := by simpa using (List.mem_filter.mp he).2
  prefetched e he := hp.prefetched e (List.mem_filter.mp he).1
  plain := hplain

section Done

variable {i : Nat} {f : ClassInfo} (r : Except AnalysisError (Option Nat × List Nat))

theorem extends_insertDone : q.graph.Extends (insertDone i f (r, q)).2.graph := by
  cases r with
  | error e => exact Extends.refl _
  | ok st => exact extends_modifyClass fun c _ => ⟨rfl, LevelRises.refl _⟩

theorem classNode?_insertDone {c : ClassNode} (hc : q.graph.classNode? i = some c) :
    ∃ c', (insertDone i f (r, q)).2.graph.classNode? i = some c' ∧ c'.key = c.key ∧
      c'.level = c.level := by
  cases r with
  | error e => exact ⟨c, hc, rfl, rfl⟩
  | ok st =>
    refine ⟨{ c with superClass := st.1.filter (· != i), interfaces := st.2 }, ?_, rfl, rfl⟩
    simp only [insertDone]
    rw [classNode?_modifyClass, if_pos rfl, hc]
    rfl

end Done

theorem eq_of_insertDone {i j : Nat} {f : ClassInfo}
    {x : Except AnalysisError (Option Nat × List Nat) × Loader}
    (h : (insertDone i f x).1 = .ok j) : j = i := by
  obtain ⟨r, q⟩ := x
  cases r with
  | error e => cases h
  | ok st => cases h; rfl

/-! ### The loads of the supertypes keep clear of the new class -/

/-- Loading the supertypes leaves the new class at the level its file was read at: the loads
commute with raising the class to that level, which changes nothing where they start. -/
theorem level_after_loadSupertypes (hn : Key.Plain n) (hfresh : q.graph.get? n = none)
    {f : ClassInfo} (hq : ({ q with graph := q.graph.inserted n f } : Loader).Apart n)
    (hf : f.PlainSupertypes) (fuel : Nat) :
    ∃ c, ((loadSupertypes fuel q.graph.size f).exec
        { q with graph := q.graph.inserted n f }).2.graph.get? n = some q.graph.size ∧
      ((loadSupertypes fuel q.graph.size f).exec
        { q with graph := q.graph.inserted n f }).2.graph.classNode? q.graph.size = some c ∧
      c.level = some f.level := by
  obtain ⟨heq, -, hext⟩ := commutes_loadSupertypes
    (commutes_getClass (NodeMap.raise_confined n f.level) hn fuel) hf q.graph.size _ hq
  have hfix : ({ q with graph := q.graph.inserted n f } : Loader).mapGraph
      (NodeMap.raise n f.level) = { q with graph := q.graph.inserted n f } := by
    simp only [Loader.mapGraph, inserted_mapNodes_raise hn hfresh]
  rw [hfix] at heq
  obtain ⟨c₀, hc₀, hk₀⟩ := classNode?_inserted (g := q.graph) (n := n) (f := f)
  obtain ⟨c, hc, hk, -⟩ := hext.classNode _ _ hc₀
  refine ⟨c, hext.get?_eq (get?_inserted hfresh), hc, ?_⟩
  -- the graph the loads leave is one the raise does not change, so the class is at its level
  have hraised := hc
  rw [congrArg (fun r => r.2.graph) heq] at hraised
  simp only [Loader.mapGraph, classNode?_mapNodes, hc, Option.map_some, Option.some.injEq]
    at hraised
  have hlev := congrArg ClassNode.level hraised
  simp [NodeMap.raise, hk.trans hk₀] at hlev
  exact hlev.symm

theorem loadClass_exec_after_insert (hn : Key.Plain n) (hfresh : q.graph.get? n = none)
    {f : ClassInfo} (hq : ({ q with graph := q.graph.inserted n f } : Loader).Apart n)
    (hf : f.PlainSupertypes) (fuel : Nat) {level : DetailLevel} (hle : ¬ f.level < level) :
    (loadClass n level).exec (insertDone q.graph.size f ((loadSupertypes fuel q.graph.size f).exec
        { q with graph := q.graph.inserted n f })).2 =
      (.ok q.graph.size, (insertDone q.graph.size f ((loadSupertypes fuel q.graph.size f).exec
        { q with graph := q.graph.inserted n f })).2) := by
  obtain ⟨c, hget, hc, hl⟩ := level_after_loadSupertypes hn hfresh hq hf fuel
  generalize (loadSupertypes fuel q.graph.size f).exec { q with graph := q.graph.inserted n f } = x
    at hget hc ⊢
  obtain ⟨r, qs⟩ := x
  obtain ⟨c', hc', -, hl'⟩ := classNode?_insertDone (f := f) r hc
  exact loadClass_exec_of_level ((extends_insertDone r).get?_eq hget) hc' (hl'.trans hl) hle

/-- After an insertion from the structure level's file, a load at the highest level escalates
the class and ends with the graph of the insertion from the highest level's file; where that
insertion succeeds, with its loader too. -/
theorem loadClass_escalate_after_insert (hn : Key.Plain n) (hfresh : q.graph.get? n = none)
    (hg : q.graph.UniqueKeys)
    (hq : ({ q with graph := q.graph.inserted n file.withoutCode } : Loader).Apart n)
    (hf : file.PlainSupertypes) (fuel : Nat) {X : Loader}
    (hX : X = (insertDone q.graph.size file.withoutCode ((loadSupertypes fuel q.graph.size file).exec
        { q with graph := q.graph.inserted n file.withoutCode })).2)
    (hvalid : X.Valid) {bytes : List UInt8} (hbytes : X.source.resolve n = some bytes)
    (hdec : ClassInfo.decode bytes .structureAndCalls = .ok file) :
    ((loadClass n .structureAndCalls).exec X).2.graph =
        (insertDone q.graph.size file ((loadSupertypes fuel q.graph.size file).exec
          { q with graph := q.graph.inserted n file })).2.graph ∧
      ∀ j, (insertDone q.graph.size file ((loadSupertypes fuel q.graph.size file).exec
          { q with graph := q.graph.inserted n file })).1 = .ok j →
        (loadClass n .structureAndCalls).exec X =
          insertDone q.graph.size file ((loadSupertypes fuel q.graph.size file).exec
            { q with graph := q.graph.inserted n file }) := by
  -- the direct insertion's loads are the first insertion's, changed by the escalation
  obtain ⟨heq, hqs, hext⟩ := commutes_loadSupertypes
    (commutes_getClass (NodeMap.escalation_confined n file) hn fuel) hf q.graph.size _ hq
  have hstart : ({ q with graph := q.graph.inserted n file.withoutCode } : Loader).mapGraph
      (NodeMap.escalation n file) = { q with graph := q.graph.inserted n file } := by
    simp only [Loader.mapGraph, inserted_withoutCode_mapNodes hg hfresh]
  rw [hstart] at heq
  rw [heq]
  have hsame : loadSupertypes fuel q.graph.size file.withoutCode =
      loadSupertypes fuel q.graph.size file := rfl
  obtain ⟨c, hget, hc, hl⟩ :=
    level_after_loadSupertypes (f := file.withoutCode) hn hfresh hq hf fuel
  rw [hsame] at hget hc
  have hmem := isSome_get?_inserted (f := file.withoutCode) hg hfresh
  rw [memberNodes_withoutCode] at hmem
  generalize (loadSupertypes fuel q.graph.size file).exec
    { q with graph := q.graph.inserted n file.withoutCode } = x at hX hqs hext hget hc ⊢
  obtain ⟨r, qs⟩ := x
  -- the first insertion leaves the class at the structure level, with every member key
  obtain ⟨c', hc', -, hl'⟩ := classNode?_insertDone (f := file.withoutCode) r hc
  have hget' := (extends_insertDone (i := q.graph.size) (f := file.withoutCode) r).get?_eq hget
  rw [← hX] at hc' hget'
  have hmemX : ∀ m ∈ memberNodes q.graph.size n file.fields file.methods,
      (X.graph.get? m.key).isSome := by
    intro m hm
    obtain ⟨j, hj⟩ := Option.isSome_iff_exists.mp (hmem m hm)
    rw [hX, (hext.trans (extends_insertDone (i := q.graph.size) (f := file.withoutCode) r)).get?_eq hj]
    rfl
  have hgraph := escalate_eq_mapNodes hvalid.graph.uniqueKeys hget' file hmemX
  rw [loadClass_exec_escalate hvalid hget' hc' (hl'.trans hl) hbytes hdec, hgraph]
  subst hX
  cases r with
  | error e => exact ⟨rfl, fun j hj => by cases hj⟩
  | ok st =>
    -- nothing is decoded ahead for the class, and the file kept replaces the first one
    have hpre : qs.prefetched.filter (·.1 != n) = qs.prefetched :=
      List.filter_eq_self.mpr fun e he => by simpa using hqs.prefetched_ne e he
    have hfiles : ((q.graph.size, file.withoutCode) :: qs.files.filter (·.1 != q.graph.size)).filter
        (·.1 != q.graph.size) = qs.files.filter (·.1 != q.graph.size) := by
      simp [List.filter_filter]
    have hmod := mapNodes_modifyClass (g := qs.graph) (i := q.graph.size)
      (τ := NodeMap.escalation n file) (f := fun c =>
        { c with superClass := st.1.filter (· != q.graph.size), interfaces := st.2 })
      (fun _ => rfl) (fun _ _ => rfl)
    refine ⟨?_, fun j _ => ?_⟩
    · simp only [insertDone, Loader.mapGraph]
      exact hmod
    · simp only [insertDone, Loader.mapGraph, hpre, hfiles, hmod]

/-! ### Path independence -/

/-- A new class with a plain name whose file reads at the highest level, loaded at the structure
level and then at the highest level, ends in the graph of the direct load at the highest level;
where that load succeeds, in the same loader. -/
theorem loadClass_structureOnly_then_structureAndCalls {bytes : List UInt8}
    (h : Reachable source analyzable p) (hfresh : p.graph.get? n = none) (hn : Key.Plain n)
    (hplain : source.PlainSupertypes) (hbytes : source.resolve n = some bytes)
    (hdec : ClassInfo.decode bytes .structureAndCalls = .ok file) :
    ((loadClass n .structureAndCalls).exec ((loadClass n .structureOnly).exec p).2).2.graph =
        ((loadClass n .structureAndCalls).exec p).2.graph ∧
      ∀ i, ((loadClass n .structureAndCalls).exec p).1 = .ok i →
        (loadClass n .structureAndCalls).exec ((loadClass n .structureOnly).exec p).2 =
          (loadClass n .structureAndCalls).exec p := by
  have hp := h.valid
  have hA := h.step (.load (.getClass n .structureOnly))
  have hbytes' : p.source.resolve n = some bytes := by rw [h.source_eq]; exact hbytes
  have hplain' : p.source.PlainSupertypes := by rw [h.source_eq]; exact hplain
  have hfile := hplain n bytes hbytes _ file hdec
  have hB := loadClass_exec_of_read hfresh
    (by rw [hp.outcome_structureAndCalls, hbytes', Option.map_some, hdec])
  -- the first load reads the structure level's file, or the whole file decoded ahead
  obtain ⟨f₁, hf₁, hl⟩ : ∃ f₁, (f₁ = file.withoutCode ∨ f₁ = file) ∧
      p.outcome n .structureOnly = some (.ok f₁) := by
    obtain ⟨l, -, hl⟩ := hp.outcome_eq_decode n .structureOnly
    rw [hbytes', Option.map_some] at hl
    cases l with
    | structureOnly => exact ⟨_, .inl rfl, by rw [hl, ClassInfo.decode_withoutCode hdec]⟩
    | structureAndCalls => exact ⟨_, .inr rfl, by rw [hl, hdec]⟩
  have hA1 := loadClass_exec_of_read hfresh hl
  generalize hq : ({ p with prefetched := p.prefetched.filter (·.1 != n) } : Loader) = q
    at hB hA1
  have hqfresh : q.graph.get? n = none := by rw [← hq]; exact hfresh
  have hapart : ∀ f, ({ q with graph := q.graph.inserted n f } : Loader).Apart n := fun f => by
    rw [← hq]
    exact hp.apart_inserted hplain' hfresh f
  rw [insert_exec_of_fresh hqfresh] at hB hA1
  rw [hB]
  rcases hf₁ with rfl | rfl
  · have hsame : loadSupertypes p.source.size q.graph.size file.withoutCode =
        loadSupertypes p.source.size q.graph.size file := rfl
    rw [hsame] at hA1
    have hg : q.graph.UniqueKeys := by rw [← hq]; exact hp.graph.uniqueKeys
    have hvalid := hA.valid
    have hsrc := hA.source_eq
    rw [hA1] at hvalid hsrc
    rw [hA1]
    exact loadClass_escalate_after_insert hn hqfresh hg (hapart _) hfile p.source.size rfl hvalid
      (by rw [hsrc]; exact hbytes) hdec
  · -- both loads insert the same file, and the second finds the class at the highest level
    rw [hA1, loadClass_exec_after_insert hn hqfresh (hapart _) hfile p.source.size
      (by rw [ClassInfo.decode_level hdec]; decide)]
    exact ⟨rfl, fun i hi => Prod.ext (by rw [hi, eq_of_insertDone hi]) rfl⟩

/-- Detail levels under a class provider: no operation lowers a class's level or resolves a
placeholder; a load that returned a node, repeated at once, returns it again and changes neither
the graph nor the kept files; and a new class with a plain name, in a source whose classes name
plain supertypes, loaded at the structure level and then at the highest level ends in the graph
of the direct load at the highest level, and in its loader when that load succeeds. -/
theorem loadLevels_rise_settle_and_commute (h : Reachable source analyzable p) :
    (∀ p', ProviderStep p p' → ∀ j c, p.graph.classNode? j = some c →
      ∃ c', p'.graph.classNode? j = some c' ∧ LevelRises c.level c'.level) ∧
    (∀ name level i, ((loadClass name level).exec p).1 = .ok i →
      ((loadClass name level).exec ((loadClass name level).exec p).2).1 = .ok i ∧
      ((loadClass name level).exec ((loadClass name level).exec p).2).2.graph =
        ((loadClass name level).exec p).2.graph ∧
      ((loadClass name level).exec ((loadClass name level).exec p).2).2.files =
        ((loadClass name level).exec p).2.files) ∧
    (∀ n bytes file, p.graph.get? n = none → Key.Plain n → source.PlainSupertypes →
      source.resolve n = some bytes → ClassInfo.decode bytes .structureAndCalls = .ok file →
      ((loadClass n .structureAndCalls).exec ((loadClass n .structureOnly).exec p).2).2.graph =
          ((loadClass n .structureAndCalls).exec p).2.graph ∧
        ∀ i, ((loadClass n .structureAndCalls).exec p).1 = .ok i →
          (loadClass n .structureAndCalls).exec ((loadClass n .structureOnly).exec p).2 =
            (loadClass n .structureAndCalls).exec p) :=
  ⟨fun _ hstep _ _ hc => ProviderStep.levelRises h.valid hstep hc,
    fun _ _ _ hi => loadClass_repeat h hi,
    fun _ _ _ hfresh hn hplain hbytes hdec =>
      loadClass_structureOnly_then_structureAndCalls h hfresh hn hplain hbytes hdec⟩

/-- A class `A` extending `java/lang/Object`, with one method `m()V` whose body is `return`,
loaded at the structure level and then at the highest level from a fresh provider. -/
theorem loadLevels_minimalClass :
    let bytes : List UInt8 :=
      [0xCA, 0xFE, 0xBA, 0xBE, 0, 0, 0, 0x34, 0, 8,
       1, 0, 1, 0x41, 7, 0, 1,
       1, 0, 16, 0x6a, 0x61, 0x76, 0x61, 0x2f, 0x6c, 0x61, 0x6e, 0x67, 0x2f, 0x4f, 0x62, 0x6a,
       0x65, 0x63, 0x74, 7, 0, 3,
       1, 0, 1, 0x6d, 1, 0, 3, 0x28, 0x29, 0x56, 1, 0, 4, 0x43, 0x6f, 0x64, 0x65,
       0, 0x21, 0, 2, 0, 4, 0, 0, 0, 0, 0, 1,
       0, 1, 0, 5, 0, 6, 0, 1, 0, 7, 0, 0, 0, 13, 0, 0, 0, 1, 0, 0, 0, 1, 0xb1, 0, 0, 0, 0,
       0, 0]
    let p₀ : Loader := { source := [.table [("A", bytes)]], analyzable := ["A"] }
    ((loadClass "A" .structureAndCalls).exec ((loadClass "A" .structureOnly).exec p₀).2).2.graph =
        ((loadClass "A" .structureAndCalls).exec p₀).2.graph ∧
      ∀ i, ((loadClass "A" .structureAndCalls).exec p₀).1 = .ok i →
        (loadClass "A" .structureAndCalls).exec ((loadClass "A" .structureOnly).exec p₀).2 =
          (loadClass "A" .structureAndCalls).exec p₀ := by
  intro bytes p₀
  let c : ClassInfo := ⟨"A", 0x21, some "java/lang/Object", [], none, [],
    [⟨1, "m", "()V", none, [], true, some ⟨[], [], [], .empty⟩⟩], .structureAndCalls⟩
  have hdec : ClassInfo.decode bytes .structureAndCalls = .ok c := by cbv
  have hobj : Key.Plain "java/lang/Object" := by decide
  have hplain : ClassSource.PlainSupertypes [.table [("A", bytes)]] := by
    intro name b hres level file hfile
    -- the source holds one class
    have hb : b = bytes := by
      simp only [ClassSource.resolve, List.findSome?_cons, List.findSome?_nil, ClassStore.resolve,
        List.find?_cons, List.find?_nil] at hres
      cases hname : "A" == name with
      | false => simp [hname] at hres
      | true => simpa [hname] using hres.symm
    subst hb
    cases level with
    | structureOnly =>
      rw [ClassInfo.decode_withoutCode hdec] at hfile
      cases hfile
      exact ⟨fun s hs => by cases hs; exact hobj, fun s hs => by cases hs⟩
    | structureAndCalls =>
      rw [hdec] at hfile
      cases hfile
      exact ⟨fun s hs => by cases hs; exact hobj, fun s hs => by cases hs⟩
  exact (loadLevels_rise_settle_and_commute .start).2.2 "A" bytes c
    (by rw [get?_eq_findIdx?]; rfl) (by decide) hplain rfl hdec

/-- A class `N` whose superclass is named `N#a`: `N` declares a field `a#b` of type `I` and `N#a`
a field `b` of type `J`, and both have the key `N#a#b`. Loaded directly at the highest level, the
field's node keeps what `N#a`, loaded after `N`'s members, declares; loaded at the structure level
and then escalated, it is declared by `N` again and keeps `N`'s type and access. -/
theorem escalation_redeclares_supertype_member :
    let bytesN : List UInt8 :=
      [0xca, 0xfe, 0xba, 0xbe, 0x00, 0x00, 0x00, 0x34, 0x00, 0x07, 0x01, 0x00, 0x01, 0x4e,
       0x07, 0x00, 0x01, 0x01, 0x00, 0x03, 0x4e, 0x23, 0x61, 0x07, 0x00, 0x03, 0x01, 0x00,
       0x03, 0x61, 0x23, 0x62, 0x01, 0x00, 0x01, 0x49, 0x00, 0x21, 0x00, 0x02, 0x00, 0x04,
       0x00, 0x00, 0x00, 0x01, 0x00, 0x01, 0x00, 0x05, 0x00, 0x06, 0x00, 0x00, 0x00, 0x00,
       0x00, 0x00]
    let bytesNa : List UInt8 :=
      [0xca, 0xfe, 0xba, 0xbe, 0x00, 0x00, 0x00, 0x34, 0x00, 0x05, 0x01, 0x00, 0x03, 0x4e,
       0x23, 0x61, 0x07, 0x00, 0x01, 0x01, 0x00, 0x01, 0x62, 0x01, 0x00, 0x01, 0x4a, 0x00,
       0x21, 0x00, 0x02, 0x00, 0x00, 0x00, 0x00, 0x00, 0x01, 0x00, 0x02, 0x00, 0x03, 0x00,
       0x04, 0x00, 0x00, 0x00, 0x00, 0x00, 0x00]
    let p₀ : Loader := { source := [.table [("N", bytesN), ("N#a", bytesNa)]], analyzable := [] }
    (((loadClass "N" .structureAndCalls).exec p₀).2.graph.fieldNode? 1).map
        (fun f => (f.key, f.descriptor, f.access)) = some ("N#a#b", "J", 2) ∧
      (((loadClass "N" .structureAndCalls).exec
          ((loadClass "N" .structureOnly).exec p₀).2).2.graph.fieldNode? 1).map
        (fun f => (f.key, f.descriptor, f.access)) = some ("N#a#b", "I", 1) := by
  intro bytesN bytesNa p₀
  cbv
  decide

/-- Loading directly at the highest level can fail where loading first at the structure level
does not leave the same files: a class `N` extending `M`, where `M` is to be analysed and missing.
The direct load fails and keeps no file for `N`, while a load at the structure level, which fails
alike, followed by one at the highest level escalates `N` and keeps its file. -/
example :
    let bytes : List UInt8 := [0xCA, 0xFE, 0xBA, 0xBE, 0, 0, 0, 0x34, 0, 5,
      1, 0, 1, 0x4E, 7, 0, 1, 1, 0, 1, 0x4D, 7, 0, 3,
      0, 0x21, 0, 2, 0, 4, 0, 0, 0, 0, 0, 0, 0, 0]
    let p₀ : Loader := { source := [.table [("N", bytes)]], analyzable := ["M"] }
    ((loadClass "N" .structureAndCalls).exec p₀).1 = .error (.missingClass "M") ∧
      (((loadClass "N" .structureAndCalls).exec p₀).2.takeFile 0).1 = none ∧
      ((loadClass "N" .structureAndCalls).exec ((loadClass "N" .structureOnly).exec p₀).2).1 =
        .ok 0 ∧
      (((loadClass "N" .structureAndCalls).exec
          ((loadClass "N" .structureOnly).exec p₀).2).2.takeFile 0).1 =
        some ⟨"N", 0x21, some "M", [], none, [], [], .structureAndCalls⟩ := by
  intro bytes p₀
  cbv
  exact ⟨rfl, rfl⟩

end ClassMetrics
