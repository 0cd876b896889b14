import ClassMetrics.Proofs.Loader.Run

/-! The runs of the loader's elementary steps: changing the graph, adding a resource, keeping a
file, reading a class and raising a class to a higher level, and the operations on a loader
outside a load (decoding ahead, taking a file, recording an edge). -/

namespace ClassMetrics

open ClassFile StructuralGraph Load

variable {p : Loader}

theorem decode_exec (name : String) (level : DetailLevel) (p : Loader) :
    (decode name level).exec p =
      (readOutcome name (p.isAnalyzable name) (p.outcome name level),
        { p with prefetched := p.prefetched.filter (·.1 != name) }) := by
  unfold decode
  simp only [exec_bind, exec_get, exec_set, exec_ofExcept]

/-- A file read at a level is at that level or a higher one: decoded now, it is at the level
asked for; decoded ahead, at the level it was decoded at, which served only if no lower. -/
theorem Loader.Valid.outcome_level (hp : p.Valid) {name : String} {level : DetailLevel}
    {file : ClassInfo} (h : p.outcome name level = some (.ok file)) : level ≤ file.level := by
  have hfresh : (p.source.resolve name).map (ClassInfo.decode · level) = some (.ok file) →
      level ≤ file.level := by
    intro hf
    obtain ⟨bytes, -, hb⟩ := Option.map_eq_some_iff.mp hf
    rw [ClassInfo.decode_level hb]
    exact Nat.le_refl _
  unfold Loader.outcome at h
  split at h
  · rename_i n' l r hfind
    split at h
    · rename_i hle
      cases h
      obtain ⟨bytes, -, hr⟩ := hp.prefetched _ (List.mem_of_find?_eq_some hfind)
      rw [ClassInfo.decode_level hr.symm]
      exact hle
    · exact hfresh h
  · exact hfresh h

theorem Loader.outcome_filter (name : String) (level : DetailLevel) :
    ({ p with prefetched := p.prefetched.filter (·.1 != name) } : Loader).outcome name level =
      (p.source.resolve name).map (ClassInfo.decode · level) := by
  unfold Loader.outcome
  have hnone : (p.prefetched.filter (·.1 != name)).find? (·.1 == name) = none := by
    rw [List.find?_eq_none]
    intro e he
    have := (List.mem_filter.mp he).2
    simpa using this
  rw [hnone]

/-- At the highest level a read finds what the source's bytes decode to: an outcome decoded
ahead serves only if it was decoded at that level too. -/
theorem Loader.Valid.outcome_structureAndCalls (hp : p.Valid) (name : String) :
    p.outcome name .structureAndCalls =
      (p.source.resolve name).map (ClassInfo.decode · .structureAndCalls) := by
  unfold Loader.outcome
  split
  · rename_i n' l r hfind
    split
    · rename_i hle
      have hl : l = .structureAndCalls := by
        cases l
        · exact absurd hle (by decide)
        · rfl
      obtain ⟨bytes, hb, hr⟩ := hp.prefetched _ (List.mem_of_find?_eq_some hfind)
      have hn : n' = name := by simpa using List.find?_some hfind
      subst hl hn
      rw [hb]
      exact congrArg some hr
    · rfl
  · rfl

theorem DetailLevel.eq_structureAndCalls_of_lt {a b : DetailLevel} (h : a < b) :
    b = .structureAndCalls := by
  cases b
  · cases a <;> exact absurd h (by decide)
  · rfl

theorem readOutcome_eq_ok_some {name : String} {analyzable : Bool}
    {r : Option (Except FormatError ClassInfo)} {file : ClassInfo}
    (h : readOutcome name analyzable r = .ok (some file)) : r = some (.ok file) := by
  unfold readOutcome at h
  split at h
  · cases h; rfl
  · split at h <;> cases h
  · split at h <;> cases h

theorem run_decode (hp : p.Valid) (name : String) (level : DetailLevel) :
    (decode name level).Run p fun r p' =>
      p' = { p with prefetched := p.prefetched.filter (·.1 != name) } ∧
      readOutcome name (p.isAnalyzable name) (p.outcome name level) = .ok r ∧
      ∀ file, r = some file → level ≤ file.level := by
  unfold Run
  rw [decode_exec]
  refine ⟨⟨rfl, rfl, Extends.refl _, hp.graph, ?_⟩, ?_⟩
  · intro e he
    exact hp.prefetched e (List.mem_filter.mp he).1
  · intro r hr
    refine ⟨rfl, hr, ?_⟩
    intro file hfile
    subst hfile
    exact hp.outcome_level (readOutcome_eq_ok_some hr)

theorem run_modifyGraph (hp : p.Valid) {f : StructuralGraph → StructuralGraph}
    (hwf : (f p.graph).WellFormed) (hext : p.graph.Extends (f p.graph)) :
    (modifyGraph f).Run p fun _ p' => p' = { p with graph := f p.graph } :=
  ⟨Loader.later_withGraph hp hwf hext, fun _ _ => rfl⟩

theorem run_addResource (hp : p.Valid) {r : Resource} (hr : p.graph.Admissible r) :
    (addResource r).Run p fun i p' => i < p'.graph.size ∧ p'.graph.key i = r.key ∧
      p' = { p with graph := (p.graph.addResource r).1 } ∧ i = (p.graph.addResource r).2 :=
  ⟨Loader.later_withGraph hp (hp.graph.addResource hr) (extends_addResource r),
    fun _ hi => by cases hi; exact ⟨(addResource_key r).1, (addResource_key r).2, rfl, rfl⟩⟩

theorem run_storeFile (hp : p.Valid) (i : Nat) (file : ClassInfo) :
    (storeFile i file).Run p fun _ p' => p'.graph = p.graph :=
  ⟨⟨rfl, rfl, Extends.refl _, hp.graph, hp.prefetched⟩, fun _ _ => rfl⟩

/-- Raising a class keyed `name` to a file's level, with its members declared again, keeps the
graph well formed, and the class ends at the level asked for or a higher one; or else the read
fails softly and only what was decoded ahead for the name is used up. -/
theorem run_escalate (hp : p.Valid) {i : Nat} {name : String} {level : DetailLevel}
    (hi : i < p.graph.size) (hk : p.graph.key i = name)
    (hlevel : ∀ c, p.graph.classNode? i = some c → LevelRises c.level (some level)) :
    (escalate i name level).Run p fun _ p' =>
      (∀ c, p.graph.classNode? i = some c →
        ∃ c', p'.graph.classNode? i = some c' ∧ LevelRises (some level) c'.level) ∨
      (readOutcome name (p.isAnalyzable name) (p.outcome name level) = .ok none ∧
        p' = { p with prefetched := p.prefetched.filter (·.1 != name) }) := by
  unfold escalate
  refine Run.bind (run_decode hp name level) fun r p₁ h₁ ⟨hp₁, hread, hr⟩ => ?_
  cases r with
  | none => exact Run.pure h₁.valid (.inr ⟨hread, hp₁⟩)
  | some file =>
    have hgraph : p₁.graph = p.graph := by rw [hp₁]
    rw [← hgraph] at hi hk hlevel ⊢
    -- only the level of the class changes before its members are declared again
    have hwf : (p₁.graph.modifyClass i fun c => { c with level := some file.level }).WellFormed :=
      h₁.valid.graph.modifyClass (fun _ => rfl) fun c hc =>
        (h₁.valid.graph.classShape i c hc).congr rfl rfl rfl rfl
    have hext : p₁.graph.Extends (p₁.graph.modifyClass i fun c => { c with level := some file.level }) :=
      extends_modifyClass fun c hc => ⟨rfl, (hlevel c hc).trans (hr file rfl)⟩
    refine Run.bind (run_modifyGraph h₁.valid
      (hwf.declareMembers (by simpa using hi) (by rw [key_modifyClass (by intro c; rfl)]; exact hk) file)
      (hext.trans (extends_declareMembers i name file))) fun _ p₂ h₂ hp₂ => ?_
    refine (run_storeFile h₂.valid i file).mono fun _ p₃ h₃ _ => .inl fun c hc => ?_
    -- the class now has the file's level, and the later steps only raise it
    have hraised : (p₁.graph.modifyClass i fun c => { c with level := some file.level }).classNode? i =
        some { c with level := some file.level } := by
      rw [classNode?_modifyClass, if_pos rfl, hc]
      rfl
    subst hp₂
    obtain ⟨c', hc', -, hrise⟩ :=
      ((extends_declareMembers i name file).trans h₃.graph).classNode i _ hraised
    have hfile : LevelRises (some level) (some file.level) := hr file rfl
    exact ⟨c', hc', hfile.trans hrise⟩

end ClassMetrics
