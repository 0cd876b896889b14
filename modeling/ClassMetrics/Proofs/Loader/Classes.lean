import ClassMetrics.Proofs.Loader.Steps

/-! Loading a class keeps the loader valid and returns the node keyed by the name asked for,
whatever the fuel, and also when it fails partway. The proof follows the mutual recursion: a
load at fuel `k` gives the insertion at fuel `k`, whose supertypes are loads at fuel `k`, and
that gives the load at fuel `k + 1`. -/

namespace ClassMetrics

open ClassFile StructuralGraph Load

variable {p p' : Loader} {name : String} {i : Nat}

/-- Node `i` of the loader's graph is keyed `name`. -/
def Loader.Names (name : String) (i : Nat) (p : Loader) : Prop :=
  i < p.graph.size ∧ p.graph.key i = name

theorem Loader.Names.later (h : p.Names name i) (hl : p.Later p') : p'.Names name i :=
  ⟨Nat.lt_of_lt_of_le h.1 hl.graph.size_le, (hl.graph.key_eq h.1).trans h.2⟩

/-- Node `i` is a class at level `l` or higher; a placeholder when `l` is `none`. -/
def Loader.ClassAtLeast (l : Option DetailLevel) (i : Nat) (p : Loader) : Prop :=
  ∃ c, p.graph.classNode? i = some c ∧ LevelRises l c.level

theorem Loader.ClassAtLeast.later {l : Option DetailLevel} (h : p.ClassAtLeast l i)
    (hl : p.Later p') : p'.ClassAtLeast l i := by
  obtain ⟨c, hc, hlev⟩ := h
  obtain ⟨c', hc', -, hrise⟩ := hl.graph.classNode i c hc
  exact ⟨c', hc', hlev.trans hrise⟩

/-- After a load of `name` at `level` that returned node `i`: if the node is a class still
below the level, reading the name at the level again fails softly. -/
def Loader.Settles (name : String) (level : DetailLevel) (i : Nat) (p : Loader) : Prop :=
  ∀ c cur, p.graph.classNode? i = some c → c.level = some cur → cur < level →
    readOutcome name (p.isAnalyzable name) (p.outcome name level) = .ok none

theorem Loader.ClassAtLeast.settles {level : DetailLevel} (h : p.ClassAtLeast (some level) i)
    (name : String) : p.Settles name level i := by
  intro c cur hc hcur hlt
  obtain ⟨c', hc', hlev⟩ := h
  rw [hc] at hc'
  cases hc'
  rw [hcur] at hlev
  exact absurd hlev (Nat.not_le_of_lt hlt)

theorem Loader.Valid.settles_of_soft (hp : p.Valid) {level : DetailLevel}
    (hsoft : readOutcome name (p.isAnalyzable name) (p.outcome name level) = .ok none) :
    ({ p with prefetched := p.prefetched.filter (·.1 != name) } : Loader).Settles name level i := by
  intro c cur _ _ hlt
  have hl := DetailLevel.eq_structureAndCalls_of_lt hlt
  subst hl
  rw [Loader.outcome_filter]
  rw [hp.outcome_structureAndCalls] at hsoft
  exact hsoft

/-- The interfaces a class collects stay other nodes of the graph, each once: a node joins
unless it is the class itself or is already there. -/
theorem interfaces_step {acc : List Nat} {q n : Nat} (hacc : ∀ s ∈ acc, s < n ∧ s ≠ i)
    (hnd : acc.Nodup) (hq : q < n) :
    (∀ s ∈ (if q == i || acc.contains q then acc else acc ++ [q]), s < n ∧ s ≠ i) ∧
      (if q == i || acc.contains q then acc else acc ++ [q]).Nodup := by
  split
  · exact ⟨hacc, hnd⟩
  · rename_i hnew
    simp only [Bool.or_eq_true, beq_iff_eq, List.contains_iff_mem, not_or] at hnew
    obtain ⟨hqi, hqacc⟩ := hnew
    refine ⟨?_, ?_⟩
    · intro s hs
      rcases List.mem_append.mp hs with hs | hs
      · exact hacc s hs
      · rw [List.mem_singleton.mp hs]
        exact ⟨hq, hqi⟩
    · rw [List.nodup_append]
      refine ⟨hnd, by simp, ?_⟩
      intro a ha b hb hab
      rw [List.mem_singleton.mp hb] at hab
      exact hqacc (hab ▸ ha)

/-- Inserting a decoded class, given loads at the same fuel that keep the loader valid and
return the node of the name asked for: the class is returned, and a new one stays at the file's
level or higher. -/
theorem run_insert_of {k : Nat}
    (hget : ∀ name level p, Loader.Valid p → (getClass k name level).Run p fun i p' =>
      p'.Names name i)
    (name : String) (file : ClassInfo) (hp : p.Valid) :
    (insert k name file).Run p fun i p' => p'.Names name i ∧
      (p.graph.get? name = none → p'.ClassAtLeast (some file.level) i) := by
  rw [insert]
  refine Run.bind (run_addResource hp ⟨rfl, rfl, rfl, rfl⟩) fun i p₁ h₁ ⟨hi₁, hk₁, hp₁, hidx⟩ => ?_
  -- what is said of the class holds once it is added, and every later loader keeps it
  have hnode : ∀ p', p₁.Later p' → p'.Names name i ∧
      (p.graph.get? name = none → p'.ClassAtLeast (some file.level) i) := by
    intro p' hl
    refine ⟨Loader.Names.later ⟨hi₁, hk₁⟩ hl, fun hfresh => Loader.ClassAtLeast.later ?_ hl⟩
    rw [hp₁, hidx]
    exact ⟨_, classNode?_addResource_cls hfresh, LevelRises.refl _⟩
  refine Run.mono (Q := fun j _ => j = i) ?_ fun j p' hl hj => hj ▸ hnode p' hl
  refine Run.bind (run_modifyGraph h₁.valid (h₁.valid.graph.declareMembers hi₁ hk₁ file)
    (extends_declareMembers i name file)) fun _ p₂ h₂ _ => ?_
  -- the superclass is loaded first, then the rest runs from the loader it leaves
  extract_lets rest
  suffices hrest : ∀ sup p₃, p₂.Later p₃ → (∀ s, sup = some s → s < p₃.graph.size) →
      (rest sup).Run p₃ fun j _ => j = i by
    split
    · exact Run.bind (Run.map ((hget _ _ p₂ h₂.valid).mono fun j _ _ hj s hs => by
          cases hs
          exact hj.1))
        fun sup p₃ h₃ hs => hrest sup p₃ h₃ hs
    · exact Run.bind (Q := fun sup (p₃ : Loader) => ∀ s, sup = some s → s < p₃.graph.size)
        (Run.pure h₂.valid fun s hs => by cases hs) fun sup p₃ h₃ hs => hrest sup p₃ h₃ hs
  intro sup p₃ h₃ hsup
  dsimp only [rest]
  -- then the interfaces, collected by `interfaces_step`
  refine Run.bind (Run.foldlM (I := fun acc (p' : Loader) =>
      (∀ s, sup = some s → s < p'.graph.size) ∧ (∀ s ∈ acc, s < p'.graph.size ∧ s ≠ i) ∧ acc.Nodup)
    _ ?_ [] p₃ h₃.valid ⟨hsup, by simp, List.nodup_nil⟩) fun ifaces p₄ h₄ hi₄ => ?_
  · rintro acc p' hp' ⟨hs, hacc, hnd⟩ n -
    refine Run.bind (hget n .structureOnly p' hp') fun q p'' hl hq => Run.pure hl.valid ?_
    have hgrow : p'.graph.size ≤ p''.graph.size := hl.graph.size_le
    have hacc' : ∀ s ∈ acc, s < p''.graph.size ∧ s ≠ i := fun s h =>
      ⟨Nat.lt_of_lt_of_le (hacc s h).1 hgrow, (hacc s h).2⟩
    obtain ⟨hstep, hstepnd⟩ := interfaces_step hacc' hnd hq.1
    exact ⟨fun s h => Nat.lt_of_lt_of_le (hs s h) hgrow, hstep, hstepnd⟩
  obtain ⟨hsup₄, hifs₄, hnd₄⟩ := hi₄
  -- the class takes its supertypes, a superclass that is the class itself dropped
  have hsup' : ∀ s, sup.filter (· != i) = some s → s < p₄.graph.size ∧ s ≠ i := by
    intro s hs
    obtain ⟨hs, hne⟩ := Option.filter_eq_some_iff.mp hs
    exact ⟨hsup₄ s hs, by simpa using hne⟩
  refine Run.bind (run_modifyGraph h₄.valid
    (h₄.valid.graph.modifyClass (fun _ => rfl) fun c hc =>
      (h₄.valid.graph.classShape i c hc).withSupertypes hsup' hifs₄ hnd₄)
    (extends_modifyClass fun c _ => ⟨rfl, LevelRises.refl _⟩)) fun _ p₅ h₅ _ => ?_
  exact Run.bind (run_storeFile h₅.valid i file) fun _ p₆ h₆ _ => Run.pure h₆.valid rfl

/-- A load at any fuel keeps the loader valid and returns the node keyed by the name; with
fuel left, the load settles: the node is at the level asked for, or a placeholder or member,
or reading the name at that level again fails softly. -/
theorem run_getClass (k : Nat) :
    ∀ name level p, Loader.Valid p → (getClass k name level).Run p fun i p' =>
      p'.Names name i ∧ (0 < k → p'.Settles name level i) := by
  induction k with
  | zero =>
    intro name level p hp
    rw [getClass]
    exact (run_addResource (r := .cls (ClassNode.unresolved name)) hp ⟨rfl, rfl, rfl, rfl⟩).mono
      fun i p' _ h =>
      ⟨⟨h.1, h.2.1⟩, fun hk => absurd hk (Nat.lt_irrefl 0)⟩
  | succ k ih =>
    intro name level p hp
    rw [getClass]
    refine Run.bind (Run.get hp) ?_
    rintro _ _ hl ⟨rfl, rfl⟩
    split
    · -- a node with the name: raised when it is a resolved class below the level
      rename_i i hi
      have hn : Loader.Names name i _ := key_of_get? hi
      split
      · rename_i current hcur
        obtain ⟨c₀, hc₀, hlev₀⟩ := Option.bind_eq_some_iff.mp hcur
        split
        · rename_i hlt
          refine Run.bind (run_escalate hl.valid hn.1 hn.2 ?_) fun _ p₁ h₁ hesc =>
            Run.pure h₁.valid ⟨hn.later h₁, fun _ => ?_⟩
          · intro c hc
            rw [hc₀] at hc
            cases hc
            rw [hlev₀]
            exact Nat.le_of_lt hlt
          · rcases hesc with hraised | ⟨hsoft, hp₁⟩
            · obtain ⟨c', hc', hrise⟩ := hraised c₀ hc₀
              exact Loader.ClassAtLeast.settles ⟨c', hc', hrise⟩ name
            · rw [hp₁]
              exact hl.valid.settles_of_soft hsoft
        · rename_i hge
          refine Run.pure hl.valid ⟨hn, fun _ c cur hc hcur hlt => absurd ?_ hge⟩
          rw [hc₀] at hc
          cases hc
          rw [hlev₀] at hcur
          cases hcur
          exact hlt
      · rename_i hnone
        refine Run.pure hl.valid ⟨hn, fun _ c cur hc hcur _ => ?_⟩
        rw [hc, Option.bind_some, hcur] at hnone
        cases hnone
    · -- a new name: read, then inserted, or else a placeholder
      rename_i hfresh
      refine Run.bind (run_decode hl.valid name level) fun r p₁ h₁ hd => ?_
      obtain ⟨hp₁, -, hr⟩ := hd
      have hfresh₁ : p₁.graph.get? name = none := by rw [hp₁]; exact hfresh
      cases r with
      | some file =>
        refine (run_insert_of (fun n l q hq => (ih n l q hq).mono fun _ _ _ h => h.1) name file
          h₁.valid).mono fun i p' _ hi => ⟨hi.1, fun _ => ?_⟩
        obtain ⟨c, hc, hrise⟩ := hi.2 hfresh₁
        have hfile : LevelRises (some level) (some file.level) := hr file rfl
        exact Loader.ClassAtLeast.settles ⟨c, hc, hfile.trans hrise⟩ name
      | none =>
        refine (run_addResource (r := .cls (ClassNode.unresolved name)) h₁.valid
          ⟨rfl, rfl, rfl, rfl⟩).mono
          fun i p' _ ha => ⟨⟨ha.1, ha.2.1⟩, fun _ c cur hc hcur _ => ?_⟩
        -- the placeholder has no level
        obtain ⟨-, -, hp', hidx⟩ := ha
        rw [hp', hidx] at hc
        rw [classNode?_addResource_cls hfresh₁] at hc
        cases hc
        cases hcur

theorem run_loadClass (hp : p.Valid) (name : String) (level : DetailLevel) :
    (loadClass name level).Run p fun i p' => p'.Names name i ∧ p'.Settles name level i := by
  unfold loadClass
  exact Run.bind (Run.get hp) fun _ _ hl ⟨h, _⟩ =>
    h ▸ (run_getClass _ name level _ hl.valid).mono fun _ _ _ h => ⟨h.1, h.2 (Nat.succ_pos _)⟩

theorem run_resolveMethod (hp : p.Valid) (fuel : Nat) (m : MemberRef) (isStatic : Bool) :
    (resolveMethod fuel m isStatic).Run p fun _ _ => True := by
  unfold resolveMethod
  refine Run.bind (run_getClass fuel m.owner .structureOnly p hp) fun owner p₁ h₁ ⟨ho, _⟩ => ?_
  refine Run.bind (Run.get h₁.valid) ?_
  rintro _ p₂ hl ⟨rfl, rfl⟩
  split
  · exact Run.pure hl.valid trivial
  · refine (run_addResource hl.valid ?_).mono fun _ _ _ _ => trivial
    exact ⟨ho.1, by rw [ho.2]⟩

theorem run_resolveField (hp : p.Valid) (fuel : Nat) (m : MemberRef) (isStatic : Bool) :
    (resolveField fuel m isStatic).Run p fun _ _ => True := by
  unfold resolveField
  refine Run.bind (run_getClass fuel m.owner .structureOnly p hp) fun owner p₁ h₁ ⟨ho, _⟩ => ?_
  refine Run.bind (Run.get h₁.valid) ?_
  rintro _ p₂ hl ⟨rfl, rfl⟩
  split
  · exact Run.pure hl.valid trivial
  · refine (run_addResource hl.valid ?_).mono fun _ _ _ _ => trivial
    exact ⟨ho.1, by rw [ho.2]⟩

end ClassMetrics
