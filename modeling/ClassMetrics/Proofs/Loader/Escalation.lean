import ClassMetrics.Proofs.Loader.Reachable

/-! Raising classes to a higher detail level. A class's level only rises and a placeholder
stays one, since an escalation installs a file read at the level asked for or a higher one. A
load that returned a node has settled it: loading the name again at the same level returns
the same node and changes neither the graph nor the kept files, because the node is at the
level already, or is a placeholder or a member, or its escalation failed softly and fails so
again. -/

namespace ClassMetrics

open ClassFile StructuralGraph Load

variable {p : Loader} {name : String} {level : DetailLevel} {i : Nat}

theorem ProviderStep.levelRises {p' : Loader} (hp : p.Valid) (hstep : ProviderStep p p')
    {j : Nat} {c : ClassNode} (hc : p.graph.classNode? j = some c) :
    ∃ c', p'.graph.classNode? j = some c' ∧ LevelRises c.level c'.level := by
  obtain ⟨c', hc', -, hrise⟩ := (hstep.later hp).graph.classNode j c hc
  exact ⟨c', hc', hrise⟩

theorem escalate_exec_of_soft
    (hsoft : readOutcome name (p.isAnalyzable name) (p.outcome name level) = .ok none) :
    (escalate i name level).exec p =
      (.ok ⟨⟩, { p with prefetched := p.prefetched.filter (·.1 != name) }) := by
  unfold escalate
  rw [exec_bind, decode_exec, hsoft]
  rfl

/-- Loading again a name whose load settled on node `i` returns `i` and changes neither the
graph nor the kept files. -/
theorem loadClass_exec_of_settles (hp : p.Valid) (hn : p.Names name i)
    (hs : p.Settles name level i) :
    ((loadClass name level).exec p).1 = .ok i ∧ ((loadClass name level).exec p).2.graph = p.graph ∧
      ((loadClass name level).exec p).2.files = p.files := by
  have hget : p.graph.get? name = some i := hp.graph.get?_eq_some_iff.mpr hn
  unfold loadClass
  rw [exec_bind, exec_get]
  dsimp only
  rw [Loader.fuel, getClass, exec_bind, exec_get]
  dsimp only
  rw [hget]
  dsimp only
  split
  · rename_i current hcur
    split
    · -- still below the level: the read fails softly again
      rename_i hlt
      obtain ⟨c, hc, hlev⟩ := Option.bind_eq_some_iff.mp hcur
      rw [exec_bind, escalate_exec_of_soft (hs c current hc hlev hlt)]
      exact ⟨rfl, rfl, rfl⟩
    · exact ⟨rfl, rfl, rfl⟩
  · exact ⟨rfl, rfl, rfl⟩

theorem loadClass_repeat {source : ClassSource} {analyzable : List String}
    (h : Reachable source analyzable p) (hi : ((loadClass name level).exec p).1 = .ok i) :
    (((loadClass name level).exec ((loadClass name level).exec p).2).1 = .ok i ∧
      ((loadClass name level).exec ((loadClass name level).exec p).2).2.graph =
        ((loadClass name level).exec p).2.graph ∧
      ((loadClass name level).exec ((loadClass name level).exec p).2).2.files =
        ((loadClass name level).exec p).2.files) := by
  obtain ⟨hl, hq⟩ := run_loadClass h.valid name level
  obtain ⟨hn, hs⟩ := hq i hi
  exact loadClass_exec_of_settles hl.valid hn hs

end ClassMetrics
