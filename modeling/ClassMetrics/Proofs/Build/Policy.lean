import ClassMetrics.Proofs.Build.Loads
import ClassMetrics.Proofs.Graph.Shapes
import ClassMetrics.Proofs.Loader.Fuel
import ClassMetrics.Proofs.Loader.PathIndependence

/-!
Loads keep the level policy. A loader is sound when it has decoded ahead only classes to analyse
and its graph follows the policy for them. A read then finds a file the policy allows: a class
not to analyse is read at the level asked for, and bodies only come with the level that reads
them. Inserting or raising a class keeps the policy, and a placeholder is made only when a read
fails softly, which it never does for a class to analyse. With fuel for the pool texts not yet
loaded, no load runs out of fuel, so no class that could be read becomes a placeholder.
-/

namespace ClassMetrics

open ClassFile StructuralGraph Load Loader

namespace Loader

/-- What a loader may hold: outcomes decoded ahead only for classes to analyse, and a graph whose
levels and shapes follow the policy for them. -/
structure Sound (p : Loader) : Prop where
  prefetched : ∀ e ∈ p.prefetched, p.isAnalyzable e.1 = true
  graph : p.graph.LevelsFollow p.isAnalyzable p.source

variable {p : Loader} {name : String} {level : DetailLevel} {file : ClassInfo}

theorem levelAllowed_some {A : String → Bool} {l : DetailLevel}
    (h : A name = false → l ≠ .structureAndCalls) : LevelAllowed A name (some l) :=
  And.intro nofun fun hA hl => h hA (Option.some.inj hl)

theorem levelAllowed_none {A : String → Bool} (h : A name = false) : LevelAllowed A name none :=
  And.intro (fun _ => h) fun _ => nofun

theorem Sound.withGraph (hs : p.Sound) {g : StructuralGraph}
    (hg : g.LevelsFollow p.isAnalyzable p.source) : ({ p with graph := g } : Loader).Sound :=
  ⟨hs.prefetched, hg⟩

theorem Sound.filter (hs : p.Sound) (name : String) :
    ({ p with prefetched := p.prefetched.filter (·.1 != name) } : Loader).Sound :=
  ⟨fun e he => hs.prefetched e (List.mem_filter.mp he).1, hs.graph⟩

theorem Sound.outcome_of_not_analyzable (hs : p.Sound) (hA : p.isAnalyzable name = false)
    (level : DetailLevel) :
    p.outcome name level = (p.source.resolve name).map (ClassInfo.decode · level) := by
  unfold Loader.outcome
  rw [List.find?_eq_none.mpr fun e he heq => ?_]
  have hA' := hs.prefetched e he
  rw [beq_iff_eq.mp heq, hA] at hA'
  cases hA'

/-- A file a read finds is one the policy allows, when only a class to analyse is asked for
with bodies. -/
theorem Sound.fileAllowed (hp : p.Valid) (hs : p.Sound)
    (hA : level = .structureAndCalls → p.isAnalyzable name = true)
    (h : p.outcome name level = some (.ok file)) :
    FileAllowed p.isAnalyzable p.source name file := by
  obtain ⟨l, -, hl⟩ := hp.outcome_eq_decode name level
  obtain ⟨bytes, hb, hd⟩ := Option.map_eq_some_iff.mp (hl ▸ h)
  have hlev : file.level = l := ClassInfo.decode_level hd
  -- a class not to analyse is read at the level asked for, which is not the one with bodies
  have hlib : p.isAnalyzable name = false → file.level = .structureOnly := by
    intro hA'
    obtain ⟨bytes', -, hd'⟩ := Option.map_eq_some_iff.mp ((hs.outcome_of_not_analyzable hA' level) ▸ h)
    rw [ClassInfo.decode_level hd']
    cases level
    · rfl
    · rw [hA rfl] at hA'
      cases hA'
  refine ⟨levelAllowed_some fun hA' => by rw [hlib hA']; decide, fun mi hmi hcode => ?_,
    fun hsac => ⟨bytes, hb, hsac ▸ hlev ▸ hd⟩⟩
  -- a body is read only with bodies, and only a class to analyse is read so
  have hsac : file.level = .structureAndCalls := by
    cases hfl : file.level with
    | structureOnly =>
      rw [hlev] at hfl
      rw [hfl] at hd
      rw [ClassInfo.decode_structureOnly_code hd mi hmi] at hcode
      cases hcode
    | structureAndCalls => rfl
  have hA' : p.isAnalyzable name = true := by
    cases hAn : p.isAnalyzable name with
    | false => rw [hlib hAn] at hsac; cases hsac
    | true => rfl
  exact ⟨name, bytes, file, mi, hA', hb, hsac ▸ hlev ▸ hd, hmi, rfl, hcode⟩

theorem Valid.supertype_mem_poolNames (hp : p.Valid) (h : p.outcome name level = some (.ok file))
    {t : String} (ht : file.superClass = some t ∨ t ∈ file.interfaces) : t ∈ p.source.poolNames := by
  obtain ⟨l, -, hl⟩ := hp.outcome_eq_decode name level
  obtain ⟨bytes, hb, hd⟩ := Option.map_eq_some_iff.mp (hl ▸ h)
  exact ClassSource.supertype_mem_poolNames hb hd ht

end Loader

theorem readOutcome_eq_ok_none {analyzable : Bool} {r : Option (Except FormatError ClassInfo)}
    (h : readOutcome name analyzable r = .ok none) : analyzable = false := by
  unfold readOutcome at h
  split at h
  · cases h
  · split at h
    · cases h
    · rename_i hA
      simpa using hA
  · split at h
    · cases h
    · rename_i hA
      simpa using hA

/-! ### Reads, raises and insertions -/

variable {p : Loader} {name : String} {level : DetailLevel}

theorem run_decode_sound (hp : p.Valid) (hs : p.Sound)
    (hA : level = .structureAndCalls → p.isAnalyzable name = true) :
    (decode name level).Run p fun r p' => p'.Sound ∧
      (∀ file, r = some file → FileAllowed p.isAnalyzable p.source name file ∧
        ∀ t, (file.superClass = some t ∨ t ∈ file.interfaces) → t ∈ p.source.poolNames) ∧
      (r = none → p.isAnalyzable name = false) :=
  (run_decode hp name level).mono fun r p' _ ⟨hp', hread, _⟩ =>
    ⟨hp' ▸ hs.filter name, fun file hr => by
      subst hr
      exact ⟨hs.fileAllowed hp hA (readOutcome_eq_ok_some hread),
        fun t ht => hp.supertype_mem_poolNames (readOutcome_eq_ok_some hread) ht⟩,
      fun hr => readOutcome_eq_ok_none (hr ▸ hread)⟩

theorem escalate_exec (i : Nat) (name : String) (level : DetailLevel) (p : Loader) :
    (escalate i name level).exec p =
      match readOutcome name (p.isAnalyzable name) (p.outcome name level) with
      | .ok (some file) => (.ok (), { p with
          prefetched := p.prefetched.filter (·.1 != name),
          graph := (p.graph.modifyClass i fun c => { c with level := some file.level }).declareMembers
            i name file,
          files := (i, file) :: p.files.filter (·.1 != i) })
      | .ok none => (.ok (), { p with prefetched := p.prefetched.filter (·.1 != name) })
      | .error e => (.error e, { p with prefetched := p.prefetched.filter (·.1 != name) }) := by
  unfold escalate
  rw [exec_bind, decode_exec]
  rcases readOutcome name (p.isAnalyzable name) (p.outcome name level) with e | _ | file <;> rfl

theorem run_escalate_sound (hp : p.Valid) (hs : p.Sound) {i : Nat} (hi : i < p.graph.size)
    (hk : p.graph.key i = name)
    (hlevel : ∀ c, p.graph.classNode? i = some c → LevelRises c.level (some level))
    (hA : level = .structureAndCalls → p.isAnalyzable name = true) :
    (escalate i name level).Run p fun _ p' => p'.Sound := by
  refine ⟨(run_escalate hp hi hk hlevel).1, fun _ hok => ?_⟩
  rw [escalate_exec] at hok ⊢
  cases hr : readOutcome name (p.isAnalyzable name) (p.outcome name level) with
  | error e => rw [hr] at hok; cases hok
  | ok r =>
    cases r with
    | none => exact hs.filter name
    | some file =>
      have hf := hs.fileAllowed hp hA (readOutcome_eq_ok_some hr)
      have hup : LevelRises (some level) (some file.level) :=
        hp.outcome_level (readOutcome_eq_ok_some hr)
      exact ⟨(hs.filter name).prefetched,
        hs.graph.escalate hi hk (fun c hc => (hlevel c hc).trans hup) hf⟩

/-- Inserting a file the policy allows keeps the loader sound, given loads of its supertypes with
the fuel left that keep it. -/
theorem run_insert_sound {k : Nat}
    (hget : ∀ t q, q.Valid → q.Sound → q.FuelFor k t →
      (getClass k t .structureOnly).Run q fun _ q' => q'.Sound)
    (hp : p.Valid) (hs : p.Sound) {file : ClassInfo} (hfresh : p.graph.get? name = none)
    (hf : FileAllowed p.isAnalyzable p.source name file)
    (hsup : ∀ t, (file.superClass = some t ∨ t ∈ file.interfaces) → t ∈ p.source.poolNames)
    (hfuel : ∀ q q', p.Later q → q.graph.get? name ≠ none → q.Later q' →
      ∀ t ∈ p.source.poolNames, q'.FuelFor k t) :
    (insert k name file).Run p fun _ p' => p'.Sound := by
  rw [insert_eq]
  refine Run.bind (run_addResource hp ⟨rfl, rfl, rfl, rfl⟩) fun i p₁ h₁ ⟨hi₁, hk₁, hp₁, hidx⟩ => ?_
  refine Run.bind (run_modifyGraph h₁.valid (h₁.valid.graph.declareMembers hi₁ hk₁ file)
    (extends_declareMembers i name file)) fun _ p₂ h₂ hp₂ => ?_
  -- the class and its members, added together, keep the policy
  have hs₂ : p₂.Sound := by
    rw [hp₂, hp₁, hidx]
    exact hs.withGraph (hs.graph.insert hfresh hf)
  have hin : p₂.graph.get? name ≠ none := by
    have hg : p₂.graph.get? name = some i := h₂.valid.graph.get?_eq_some_iff.mpr
      ⟨Nat.lt_of_lt_of_le hi₁ h₂.graph.size_le, (h₂.graph.key_eq hi₁).trans hk₁⟩
    rw [hg]
    exact Option.some_ne_none i
  -- the supertypes are loads with the fuel left, each keeping the loader sound
  refine Run.bind (run_loadSupertypes (R := fun q q' => q.Later q' ∧ (q.Sound → q'.Sound))
    (fun q hq => ⟨Later.refl hq, id⟩) (fun h₁₂ h₂₃ => ⟨h₁₂.1.trans h₂₃.1, h₂₃.2 ∘ h₁₂.2⟩) file
    (fun t q ht hq hR => ((run_getClass k t .structureOnly q hq).and
      (hget t q hq (hR.2 hs₂) (hfuel p₂ q (h₁.trans h₂) hin hR.1 t (hsup t ht)))).mono
      fun j q' hl ⟨⟨hn, _⟩, hs'⟩ => ⟨hn, hl, fun _ => hs'⟩) h₂.valid)
    fun st p₃ h₃ ⟨⟨_, hR₃⟩, hsup₃, hifs₃, hnd₃⟩ => ?_
  have hs₃ := hR₃ hs₂
  have hcls : ∃ c, p₃.graph.classNode? i = some c := by
    have hc₁ : p₁.graph.classNode? i = some ⟨name, file.access, some file.level, none, [], [], []⟩ := by
      rw [hp₁, hidx]
      exact classNode?_addResource_cls hfresh
    obtain ⟨c, hc, -⟩ := (h₂.trans h₃).graph.classNode i _ hc₁
    exact ⟨c, hc⟩
  refine Run.bind (run_setSupertypes h₃.valid hcls hsup₃ hifs₃ hnd₃) fun _ p₄ h₄ hp₄ => ?_
  refine Run.bind (run_storeFile_files h₄.valid i file) fun _ p₅ h₅ hp₅ => Run.pure h₅.valid ?_
  rw [hp₅, hp₄]
  exact ⟨hs₃.prefetched, hs₃.graph.modifyClass_level fun _ => ⟨rfl, rfl⟩⟩

/-- With fuel for the pool texts left, a load keeps the loader sound, when only a class to
analyse is asked for with bodies. -/
theorem run_getClass_sound (k : Nat) : ∀ name level p, p.Valid → p.Sound → p.FuelFor k name →
    (level = .structureAndCalls → p.isAnalyzable name = true) →
    (getClass k name level).Run p fun _ p' => p'.Sound := by
  induction k with
  | zero => exact fun _ _ _ _ _ hfuel _ => absurd hfuel.pos (Nat.lt_irrefl 0)
  | succ k ih =>
    intro name level p hp hs hfuel hA
    rw [getClass]
    refine Run.bind (Run.get hp) ?_
    rintro _ _ hl ⟨rfl, rfl⟩
    split
    · -- a node with the name: raised when it is a resolved class below the level
      rename_i i hi
      have hn : Loader.Names name i _ := key_of_get? hi
      split
      · rename_i current hcur
        obtain ⟨c₀, hc₀, hlev₀⟩ := Option.bind_eq_some_iff.mp hcur
        split
        · rename_i hlt
          refine Run.bind (run_escalate_sound hl.valid hs hn.1 hn.2 (fun c hc => ?_) hA)
            fun _ p₁ h₁ hs₁ => Run.pure h₁.valid hs₁
          rw [hc₀] at hc
          cases hc
          rw [hlev₀]
          exact Nat.le_of_lt hlt
        · exact Run.pure hl.valid hs
      · exact Run.pure hl.valid hs
    · -- a new name: read, then inserted with the fuel left, or a placeholder for a soft failure
      rename_i hfresh
      refine Run.bind ((run_decode hl.valid name level).and (run_decode_sound hl.valid hs hA))
        fun r p₁ h₁ ⟨⟨hp₁, _, _⟩, hs₁, hfile, hnone⟩ => ?_
      have hfuel₁ : p₁.FuelFor (k + 1) name := hfuel.later h₁
      subst hp₁
      cases r with
      | some file =>
        obtain ⟨hf, hsup⟩ := hfile file rfl
        exact run_insert_sound (fun t q hq hsq hft => ih t .structureOnly q hq hsq hft nofun)
          h₁.valid hs₁ hfresh hf hsup fun q q' hq hin hq' t ht => hfuel₁.supertype hfresh hq hin ht hq'
      | none =>
        refine (run_addResource (r := .cls (ClassNode.unresolved name)) h₁.valid
          ⟨rfl, rfl, rfl, rfl⟩).mono fun i p' _ ⟨_, _, hp', _⟩ => ?_
        rw [hp']
        exact hs₁.withGraph (hs₁.graph.addResource_settled (levelAllowed_none (hnone rfl))
          fun c hc => by cases hc; simp [ClassNode.unresolved])

end ClassMetrics
