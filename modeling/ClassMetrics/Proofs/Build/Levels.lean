import ClassMetrics.Proofs.Build.Policy
import ClassMetrics.Proofs.Build.Run
import ClassMetrics.Proofs.Dependency.Visit
import Mathlib

/-!
The detail levels a build leaves. Every class to analyse is loaded with its bodies; a class not
to analyse is read at the structure level only, or stays a placeholder; and a method node has a
body shape exactly when it stands for a method with a body in the file of a class to analyse.

The level policy of loads holds through the whole build: resolving a member adds at most a member
without a shape, and recording an edge leaves the nodes. A name to analyse is taken plain, with no
`#`: a name with one can be the key of a member, and is then never read as a class.
-/

namespace ClassMetrics

open ClassFile StructuralGraph Load Loader

variable {p : Loader} {k : Nat}

namespace Loader

/-- Sound, and with fuel `k` for every pool text not yet loaded. -/
def SoundFor (k : Nat) (p : Loader) : Prop := p.Sound ∧ p.unloaded + 1 < k

theorem Later.unloaded_succ_lt {p' : Loader} (hl : p.Later p') (hk : p.unloaded + 1 < k) :
    p'.unloaded + 1 < k :=
  Nat.lt_of_le_of_lt (Nat.add_le_add_right hl.unloaded_le 1) hk

theorem Later.isAnalyzable_eq {p' : Loader} (hl : p.Later p') : p'.isAnalyzable = p.isAnalyzable := by
  funext n
  unfold isAnalyzable
  rw [hl.analyzable_eq]

end Loader

/-! ### Member resolution and wiring keep the policy -/

theorem run_getClass_structure_sound (hp : p.Valid) (hs : p.Sound) (hk : p.unloaded + 1 < k)
    (n : String) : (getClass k n .structureOnly).Run p fun _ p' => p'.Sound :=
  run_getClass_sound k n .structureOnly p hp hs (fuelFor_of_succ_lt hk n) nofun

theorem run_resolveMethod_sound (hp : p.Valid) (hs : p.Sound) (hk : p.unloaded + 1 < k)
    (m : MemberRef) (isStatic : Bool) :
    (resolveMethod k m isStatic).Run p fun _ p' => p'.Sound := by
  unfold resolveMethod
  refine Run.bind ((run_getClass k m.owner .structureOnly p hp).and
    (run_getClass_structure_sound hp hs hk m.owner)) fun o p₁ h₁ hpost => ?_
  obtain ⟨⟨ho, -⟩, hs₁⟩ := hpost
  refine Run.get_bind ?_
  split
  · exact Run.pure h₁.valid hs₁
  · refine (run_addResource h₁.valid ?hadm).mono fun _ p₂ _ hadd => ?_
    case hadm => exact ⟨ho.1, by rw [ho.2]⟩
    rw [hadd.2.2.1]
    exact hs₁.withGraph (hs₁.graph.addResource_settled (fun h => by cases h) fun _ h => by cases h)

theorem run_resolveField_sound (hp : p.Valid) (hs : p.Sound) (hk : p.unloaded + 1 < k)
    (m : MemberRef) (isStatic : Bool) :
    (resolveField k m isStatic).Run p fun _ p' => p'.Sound := by
  unfold resolveField
  refine Run.bind ((run_getClass k m.owner .structureOnly p hp).and
    (run_getClass_structure_sound hp hs hk m.owner)) fun o p₁ h₁ hpost => ?_
  obtain ⟨⟨ho, -⟩, hs₁⟩ := hpost
  refine Run.get_bind ?_
  split
  · exact Run.pure h₁.valid hs₁
  · refine (run_addResource h₁.valid ?hadm).mono fun _ p₂ _ hadd => ?_
    case hadm => exact ⟨ho.1, by rw [ho.2]⟩
    rw [hadd.2.2.1]
    exact hs₁.withGraph (hs₁.graph.addResource_settled trivial fun _ h => by cases h)

theorem Loader.Sound.addEdge (hs : p.Sound) (s t : Nat) (u : Usage) :
    ({ p with graph := (p.graph.addEdge s t u).1 } : Loader).Sound :=
  hs.withGraph (hs.graph.of_nodes_eq (nodes_addEdge _ _ _))

theorem run_use_sound {σ : Site} {x : Load Nat} (hx : x.Run p (Resolves σ p))
    (hxs : x.Run p fun _ p' => p'.Sound) {src : Nat} (hsrc : src < p.graph.size) :
    (x >>= fun t => addUse src t .uses).Run p fun _ p' => p'.Sound :=
  Run.bind (hx.and hxs) fun t _ h₁ ⟨⟨_, _, ht, _⟩, hs₁⟩ =>
    (run_addUse h₁.valid (Nat.lt_of_lt_of_le hsrc h₁.graph.size_le) ht .uses).mono
      fun _ _ _ hp₂ => hp₂ ▸ hs₁.addEdge src t .uses

theorem wiringKeeps_soundFor (k : Nat) : WiringKeeps k (SoundFor k) where
  edge q src σ hq hI hsrc := by
    refine (?_ : (σ.edge k src).Run q fun _ q' => q'.Sound).mono fun _ q' hl hs' =>
      ⟨hs', hl.unloaded_succ_lt hI.2⟩
    cases σ with
    | type n =>
      exact run_use_sound (run_getClass_resolves hq k n)
        (run_getClass_structure_sound hq hI.1 hI.2 n) hsrc
    | method m isStatic =>
      exact run_use_sound (run_resolveMethod_resolves hq k m isStatic)
        (run_resolveMethod_sound hq hI.1 hI.2 m isStatic) hsrc
    | field m isStatic =>
      exact run_use_sound (run_resolveField_resolves hq k m isStatic)
        (run_resolveField_sound hq hI.1 hI.2 m isStatic) hsrc
  use q s t u hq hI hs ht :=
    ⟨hI.1.addEdge s t u,
      (later_withGraph hq (hq.graph.addEdge hs ht u) (extends_addEdge _ _ _)).unloaded_succ_lt hI.2⟩
  take _ _ h := ⟨⟨h.1.prefetched, h.1.graph⟩, h.2⟩

/-! ### The passes of a build -/

/-- The node of a class to analyse after its load: under its name, and, when the name is plain,
a class at the level with bodies. -/
def Loader.LoadedWithBodies (n : String) (i : Nat) (p : Loader) : Prop :=
  p.Names n i ∧ (Key.Plain n → p.ClassAtLeast (some .structureAndCalls) i)

theorem Loader.LoadedWithBodies.later {p' : Loader} {n : String} {i : Nat}
    (h : p.LoadedWithBodies n i) (hl : p.Later p') : p'.LoadedWithBodies n i :=
  ⟨h.1.later hl, fun hplain => (h.2 hplain).later hl⟩

/-- A class to analyse is loaded with its bodies: a read of it never fails softly, so a load that
succeeds leaves it at the highest level. -/
theorem run_getClass_bodies (hp : p.Valid) (hs : p.Sound) (hk : p.unloaded + 1 < k) {n : String}
    (hA : p.isAnalyzable n = true) :
    (getClass k n .structureAndCalls).Run p fun i p' => p'.LoadedWithBodies n i ∧ p'.SoundFor k := by
  refine ((run_getClass k n .structureAndCalls p hp).and (run_getClass_sound k n _ p hp hs
    (fuelFor_of_succ_lt hk n) fun _ => hA)).mono fun i p' hl ⟨⟨hn, hset⟩, hs'⟩ =>
    ⟨⟨hn, fun hplain => ?_⟩, hs', hl.unloaded_succ_lt hk⟩
  have hA' : p'.isAnalyzable n = true := by rw [hl.isAnalyzable_eq]; exact hA
  -- a plain key is a class's
  obtain ⟨c, hc⟩ := hl.valid.graph.classNode_of_key hn.1 (hn.2 ▸ hplain)
  have hkey : c.key = n := by
    rw [← hn.2, key_of_resource? (classNode?_eq_some.mp hc)]
    rfl
  refine ⟨c, hc, ?_⟩
  cases hlev : c.level with
  | none =>
    -- a class to analyse is never a placeholder
    have hfalse := (hs'.graph.classes i c hc).1 hlev
    rw [hkey, hA'] at hfalse
    cases hfalse
  | some cur =>
    cases cur with
    | structureAndCalls => exact Nat.le_refl _
    | structureOnly =>
      -- a class below the level would have been raised, or its read failed softly
      have hsoft := hset (Nat.zero_lt_of_lt hk) c .structureOnly hc hlev (Nat.zero_lt_one)
      rw [hA'] at hsoft
      cases readOutcome_eq_ok_none hsoft

theorem run_loadPass_bodies (hp : p.Valid) (hs : p.Sound) (hk : p.unloaded + 1 < k)
    (names : List String) (hA : ∀ n ∈ names, p.isAnalyzable n = true) :
    (Build.loadPass k names).Run p fun is p' =>
      List.Forall₂ (fun n i => p'.LoadedWithBodies n i) names is ∧ p'.SoundFor k := by
  refine (Run.mapM (I := fun q => q.SoundFor k ∧ q.isAnalyzable = p.isAnalyzable)
    (fun _ _ _ _ h hl => h.later hl) names (fun n hn q hq ⟨hI, hAq⟩ => ?_) p hp
    ⟨⟨hs, hk⟩, rfl⟩).mono fun _ _ _ h => ⟨h.1, h.2.1⟩
  refine (run_getClass_bodies hq hI.1 hI.2 (hAq ▸ hA n hn)).mono fun _ q' hl h =>
    ⟨h.1, h.2, hl.isAnalyzable_eq.trans hAq⟩

theorem run_build_sound (hp : p.Valid) (hs : p.Sound) (names : List String)
    (hA : ∀ n ∈ names, p.isAnalyzable n = true) :
    (Build.run names).Run p fun _ p' => p'.Sound ∧ ∀ n ∈ names, ∃ i, p'.LoadedWithBodies n i := by
  unfold Build.run
  refine Run.get_bind ?_
  refine Run.bind (run_loadPass_bodies hp hs (unloaded_succ_lt_fuel p) names hA)
    fun loaded p₁ h₁ ⟨hloaded, hI₁⟩ => ?_
  refine ((wiringKeeps_soundFor p.fuel).run_wirePass h₁.valid hI₁ names loaded
    fun x hx => (List.forall₂_zip hloaded hx).1.1).mono fun _ p₂ h₂ hI₂ => ⟨hI₂.1, fun n hn => ?_⟩
  obtain ⟨⟨idx, hidx⟩, rfl⟩ := List.get_of_mem hn
  have hidx' : idx < loaded.length := by rw [← hloaded.length_eq]; exact hidx
  exact ⟨_, (hloaded.get hidx hidx').later h₂⟩

theorem Loader.prefetch_spec (p : Loader) (names : List String) (level : DetailLevel) :
    (p.prefetch names level).analyzable = p.analyzable ∧ (p.prefetch names level).graph = p.graph ∧
      ∀ e ∈ (p.prefetch names level).prefetched, e ∈ p.prefetched ∨ e.1 ∈ names := by
  unfold Loader.prefetch
  refine List.foldlRecOn (motive := fun q : Loader => q.analyzable = p.analyzable ∧
    q.graph = p.graph ∧ ∀ e ∈ q.prefetched, e ∈ p.prefetched ∨ e.1 ∈ names) names _
    ⟨rfl, rfl, fun _ he => .inl he⟩ ?_
  intro q ⟨hA, hg, hpre⟩ n hn
  split
  · refine ⟨hA, hg, fun e he => ?_⟩
    rcases List.mem_cons.mp he with rfl | he
    · exact .inr hn
    · exact hpre e (List.mem_filter.mp he).1
  · exact ⟨hA, hg, hpre⟩

theorem Build.start_sound (source : ClassSource) (names : List String) :
    (Build.start source names).Sound := by
  unfold Build.start
  obtain ⟨hA, hg, hpre⟩ :=
    Loader.prefetch_spec ({ source, analyzable := names } : Loader) names .structureAndCalls
  refine ⟨fun e he => ?_, ?_⟩
  · unfold isAnalyzable
    rw [hA]
    rcases hpre e he with he | he
    · exact absurd he List.not_mem_nil
    · exact List.contains_iff_mem.mpr he
  · rw [hg]
    -- the empty graph has no node
    refine ⟨fun j c hc => ?_, fun j m hm => ?_, fun j c _ hc => ?_⟩
    · simp [classNode?, resource?] at hc
    · simp [methodNode?, resource?] at hm
    · simp [classNode?, resource?] at hc

/-! ### What a sound loader's graph holds -/

theorem LevelRises.eq_structureAndCalls {l : Option DetailLevel}
    (h : LevelRises (some .structureAndCalls) l) : l = some .structureAndCalls := by
  cases l with
  | none => cases h
  | some b =>
    cases b with
    | structureOnly => exact (Nat.not_succ_le_zero 0 h).elim
    | structureAndCalls => rfl

theorem Loader.LoadedWithBodies.classNode {n : String} {i : Nat} (hp : p.Valid)
    (h : p.LoadedWithBodies n i) (hplain : Key.Plain n) :
    ∃ c, p.graph.get? n = some i ∧ p.graph.classNode? i = some c ∧ c.key = n ∧
      c.level = some .structureAndCalls := by
  obtain ⟨c, hc, hlev⟩ := h.2 hplain
  have hkey : c.key = n := by
    rw [← h.1.2, key_of_resource? (classNode?_eq_some.mp hc)]
    rfl
  exact ⟨c, hp.graph.get?_eq_some_iff.mpr h.1, hc, hkey, hlev.eq_structureAndCalls⟩

theorem Loader.Sound.level_of_not_analyzable (hs : p.Sound) {i : Nat} {c : ClassNode}
    (hc : p.graph.classNode? i = some c) (hA : p.isAnalyzable c.key = false) :
    c.level = some .structureOnly ∨ c.level = none := by
  have hnot := (hs.graph.classes i c hc).2 hA
  cases hlev : c.level with
  | none => exact .inr rfl
  | some l =>
    cases l with
    | structureOnly => exact .inl rfl
    | structureAndCalls => exact absurd hlev hnot

theorem Loader.Sound.shape_iff (hs : p.Sound) (hp : p.Valid)
    (hbodies : ∀ n, p.isAnalyzable n = true → Key.Plain n ∧ ∃ i, p.LoadedWithBodies n i)
    {j : Nat} {m : MethodNode} (hm : p.graph.methodNode? j = some m) :
    m.shape.isSome = true ↔ ShapeFrom p.isAnalyzable p.source m.key := by
  refine ⟨hs.graph.methods j m hm, ?_⟩
  rintro ⟨n, bytes, file, mi, hA, hres, hdec, hmi, hkey, hcode⟩
  obtain ⟨hplain, i, hload⟩ := hbodies n hA
  obtain ⟨c, -, hc, hck, hlev⟩ := hload.classNode hp hplain
  -- the class's file gave shapes to its methods with bodies, the one under `m.key` among them
  obtain ⟨j', hj', hshape⟩ := hs.graph.declared i c id hc hlev bytes file (hck ▸ hres) hdec mi hmi
    hcode
  have hj : p.graph.get? m.key = some j := by
    refine hp.graph.get?_eq_some_iff.mpr ⟨lt_size_of_resource? (methodNode?_eq_some.mp hm), ?_⟩
    rw [key_of_resource? (methodNode?_eq_some.mp hm)]
    rfl
  rw [hck, hkey, hj] at hj'
  cases hj'
  exact hshape m hm

theorem isAccessor_of_shape_none {g : StructuralGraph} {j : Nat} {m : MethodNode}
    (hm : g.methodNode? j = some m) (hshape : m.shape = none) : g.isAccessor j = false := by
  simp [isAccessor, accessedField, hm, accessorTarget, hshape]

/-! ### The levels of a build -/

/-- Key `k` is the key of a method with a body in the file, read with bodies, of one of the
classes `analyzable`. -/
def ClassSource.BodyOf (source : ClassSource) (analyzable : List String) (k : String) : Prop :=
  ∃ n ∈ analyzable, ∃ bytes file, source.resolve n = some bytes ∧
    ClassInfo.decode bytes .structureAndCalls = .ok file ∧
    ∃ mi ∈ file.methods, Key.method n mi.name mi.descriptor = k ∧ mi.hasCode = true

/-- The loader a build ends in, when it succeeds: sound, and every class to analyse loaded with
its bodies. -/
theorem buildGraph_final {source : ClassSource} {analyzable : List String} {g : StructuralGraph}
    (h : buildGraph source analyzable = .ok g) :
    ∃ p : Loader, g = p.graph.indexHierarchy ∧ p.Valid ∧ p.source = source ∧
      (∀ n, p.isAnalyzable n = true ↔ n ∈ analyzable) ∧ p.Sound ∧
      ∀ n ∈ analyzable, ∃ i, p.LoadedWithBodies n i := by
  obtain ⟨p, hrun, rfl⟩ := buildGraph_eq_ok h
  have hmem := (sortedDistinct_spec analyzable).1
  have hstart := Build.start_later source (sortedDistinct analyzable)
  have hA : ∀ n ∈ sortedDistinct analyzable,
      (Build.start source (sortedDistinct analyzable)).isAnalyzable n = true := fun n hn => by
    rw [Build.isAnalyzable_start]
    exact List.contains_iff_mem.mpr hn
  obtain ⟨hl, hq⟩ := run_build_sound hstart.valid (Build.start_sound source _) _ hA
  rw [hrun] at hl hq
  obtain ⟨hs, hloaded⟩ := hq () rfl
  have hl' := hstart.trans hl
  refine ⟨p, rfl, hl.valid, hl'.source_eq, fun n => ?_, hs, fun n hn => hloaded n ((hmem n).mpr hn)⟩
  unfold isAnalyzable
  rw [hl'.analyzable_eq, List.contains_iff_mem]
  exact hmem n

/-- The detail levels of a graph built for the classes `analyzable` of `source`: each class to
analyse is a class node loaded with bodies; every other class node is at the structure level or
a placeholder; a method node has a body shape exactly when it stands for a method with a body in
the file of a class to analyse, so that no other method node is an accessor. -/
structure LevelsOfBuild (source : ClassSource) (analyzable : List String) (g : StructuralGraph) :
    Prop where
  analyzed : ∀ n ∈ analyzable, ∃ i c, g.get? n = some i ∧ g.classNode? i = some c ∧
    c.level = some .structureAndCalls
  libraries : ∀ i c, g.classNode? i = some c → c.key ∉ analyzable →
    c.level = some .structureOnly ∨ c.level = none
  shapes : ∀ j m, g.methodNode? j = some m → (m.shape.isSome = true ↔ source.BodyOf analyzable m.key)
  accessors : ∀ j m, g.methodNode? j = some m → ¬ source.BodyOf analyzable m.key →
    g.isAccessor j = false

/-- **The detail levels of a build.** A build that succeeds, for names to analyse that hold no
`#`, leaves the levels and shapes the policy asks for. -/
theorem buildGraph_detailLevels {source : ClassSource} {analyzable : List String}
    {g : StructuralGraph} (h : buildGraph source analyzable = .ok g)
    (hplain : ∀ n ∈ analyzable, Key.Plain n) : LevelsOfBuild source analyzable g := by
  obtain ⟨p, rfl, hp, hsrc, hA, hs, hloaded⟩ := buildGraph_final h
  -- the policy's allowance for a shape is a body in the file of a class to analyse
  have hshape : ∀ k, ShapeFrom p.isAnalyzable p.source k ↔ source.BodyOf analyzable k := by
    intro k
    rw [hsrc]
    constructor
    · rintro ⟨n, bytes, file, mi, hn, hres, hdec, hmi, hkey, hcode⟩
      refine ⟨n, (hA n).mp hn, bytes, file, hres, hdec, mi, hmi, hkey, ?_⟩
      rw [← ClassInfo.decode_structureAndCalls_code hdec mi hmi]
      exact hcode
    · rintro ⟨n, hn, bytes, file, hres, hdec, mi, hmi, hkey, hcode⟩
      refine ⟨n, bytes, file, mi, (hA n).mpr hn, hres, hdec, hmi, hkey, ?_⟩
      rw [ClassInfo.decode_structureAndCalls_code hdec mi hmi]
      exact hcode
  have hiff : ∀ j m, p.graph.methodNode? j = some m →
      (m.shape.isSome = true ↔ source.BodyOf analyzable m.key) := fun j m hm =>
    (hs.shape_iff hp (fun n hn => ⟨hplain n ((hA n).mp hn), hloaded n ((hA n).mp hn)⟩) hm).trans
      (hshape m.key)
  refine ⟨fun n hn => ?_, fun i c hc hn => ?_, hiff, fun j m hm hbody => ?_⟩
  · obtain ⟨i, hload⟩ := hloaded n hn
    obtain ⟨c, hget, hc, -, hlev⟩ := hload.classNode hp (hplain n hn)
    exact ⟨i, c, hget, hc, hlev⟩
  · refine hs.level_of_not_analyzable hc ?_
    cases hc' : p.isAnalyzable c.key with
    | false => rfl
    | true => exact absurd ((hA c.key).mp hc') hn
  · refine isAccessor_of_shape_none hm ?_
    cases hsh : m.shape with
    | none => rfl
    | some _ =>
      have hsome := (hiff j m hm).mp (by rw [hsh]; rfl)
      exact absurd hsome hbody

/-- A class `A` with an `int` field `f` and a getter `getF` that reads it, analysed alone. -/
theorem detailLevels_classWithGetter :
    let bytes : List UInt8 :=
      [0xca, 0xfe, 0xba, 0xbe, 0x00, 0x00, 0x00, 0x34, 0x00, 0x0a, 0x01, 0x00, 0x01, 0x41,
       0x07, 0x00, 0x01, 0x01, 0x00, 0x01, 0x66, 0x01, 0x00, 0x01, 0x49, 0x0c, 0x00, 0x03,
       0x00, 0x04, 0x09, 0x00, 0x02, 0x00, 0x05, 0x01, 0x00, 0x04, 0x67, 0x65, 0x74, 0x46,
       0x01, 0x00, 0x03, 0x28, 0x29, 0x49, 0x01, 0x00, 0x04, 0x43, 0x6f, 0x64, 0x65, 0x00,
       0x21, 0x00, 0x02, 0x00, 0x00, 0x00, 0x00, 0x00, 0x01, 0x00, 0x02, 0x00, 0x03, 0x00,
       0x04, 0x00, 0x00, 0x00, 0x01, 0x00, 0x01, 0x00, 0x07, 0x00, 0x08, 0x00, 0x01, 0x00,
       0x09, 0x00, 0x00, 0x00, 0x11, 0x00, 0x01, 0x00, 0x01, 0x00, 0x00, 0x00, 0x05, 0x2a,
       0xb4, 0x00, 0x06, 0xac, 0x00, 0x00, 0x00, 0x00, 0x00, 0x00]
    let classes : ClassSource := [.table [("A", bytes)]]
    (∀ n ∈ ["A"], Key.Plain n) ∧
      ∃ g, buildGraph classes ["A"] = .ok g ∧ LevelsOfBuild classes ["A"] g := by
  intro bytes classes
  have hplain : ∀ n ∈ ["A"], Key.Plain n := by decide
  have hok : (buildGraph classes ["A"]).toOption.isSome = true := by cbv
  cases hb : buildGraph classes ["A"] with
  | error e => rw [hb] at hok; cases hok
  | ok g => exact ⟨hplain, g, rfl, buildGraph_detailLevels hb hplain⟩

/-- A class named `A#f` beside a class `A` with a field `f`, both analysed: the name finds the
field, so the node of this name to analyse is no class. -/
theorem classNamedLikeField_isNoClassNode :
    let bytesA : List UInt8 :=
      [0xca, 0xfe, 0xba, 0xbe, 0x00, 0x00, 0x00, 0x34, 0x00, 0x05, 0x01, 0x00, 0x01, 0x41,
       0x07, 0x00, 0x01, 0x01, 0x00, 0x01, 0x66, 0x01, 0x00, 0x01, 0x49, 0x00, 0x21, 0x00,
       0x02, 0x00, 0x00, 0x00, 0x00, 0x00, 0x01, 0x00, 0x02, 0x00, 0x03, 0x00, 0x04, 0x00,
       0x00, 0x00, 0x00, 0x00, 0x00]
    let bytesAf : List UInt8 :=
      [0xca, 0xfe, 0xba, 0xbe, 0x00, 0x00, 0x00, 0x34, 0x00, 0x03, 0x01, 0x00, 0x03, 0x41,
       0x23, 0x66, 0x07, 0x00, 0x01, 0x00, 0x21, 0x00, 0x02, 0x00, 0x00, 0x00, 0x00, 0x00,
       0x00, 0x00, 0x00, 0x00, 0x00]
    let classes : ClassSource := [.table [("A", bytesA), ("A#f", bytesAf)]]
    ∃ g, buildGraph classes ["A", "A#f"] = .ok g ∧ ∃ i, g.get? "A#f" = some i ∧
      g.classNode? i = none := by
  intro bytesA bytesAf classes
  have hfact : (buildGraph classes ["A", "A#f"]).toOption.map
      (fun g => (g.get? "A#f").map fun i => (g.classNode? i).isNone) = some (some true) := by
    cbv
  cases hb : buildGraph classes ["A", "A#f"] with
  | error e => rw [hb] at hfact; cases hfact
  | ok g =>
    rw [hb] at hfact
    cases hi : g.get? "A#f" with
    | none => simp [Except.toOption, hi] at hfact
    | some i =>
      simp only [Except.toOption, hi, Option.map_some, Option.some.injEq,
        Option.isNone_iff_eq_none] at hfact
      exact ⟨g, rfl, i, hi, hfact⟩

end ClassMetrics
