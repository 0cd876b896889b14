import ClassMetrics.Proofs.Build.Run
import ClassMetrics.Proofs.Build.Policy

/-!
What a loader keeps of its source. A resolved class of the graph was read from the bytes of its
key at its level, and the file of a class read with bodies is kept until wiring takes it; every
file kept is what the bytes of its class read to, and each of its members has a node. Loads at
any fuel and the edges of wiring keep this; taking a file leaves its class pending.
-/

namespace ClassMetrics

open ClassFile StructuralGraph Load Loader

namespace StructuralGraph

variable {g g' g'' : StructuralGraph}

/-- Every class of `g` is still a class of `g'`, under its key and at its level. -/
def KeepsLevels (g g' : StructuralGraph) : Prop :=
  ∀ j c, g.classNode? j = some c → ∃ c', g'.classNode? j = some c' ∧ c'.key = c.key ∧ c'.level = c.level

theorem KeepsLevels.refl (g : StructuralGraph) : KeepsLevels g g := fun _ c h => ⟨c, h, rfl, rfl⟩

theorem KeepsLevels.trans (h₁ : KeepsLevels g g') (h₂ : KeepsLevels g' g'') : KeepsLevels g g'' := by
  intro j c hc
  obtain ⟨c', hc', hk', hl'⟩ := h₁ j c hc
  obtain ⟨c'', hc'', hk'', hl''⟩ := h₂ j c' hc'
  exact ⟨c'', hc'', hk''.trans hk', hl''.trans hl'⟩

theorem KeepsLevels.push (r : Resource) : KeepsLevels g { g with nodes := g.nodes.push r } := by
  intro j c hc
  refine ⟨c, ?_, rfl, rfl⟩
  rw [classNode?_push, if_neg (Nat.ne_of_lt (lt_size_of_resource? (classNode?_eq_some.mp hc)))]
  exact hc

/-- `g'` keeps the classes of `g` under their keys and at their levels, and every resolved class
of `g'` is one of `g`: only members and placeholders are new. -/
structure KeepsClasses (g g' : StructuralGraph) : Prop where
  levels : KeepsLevels g g'
  resolved : ∀ j c' l, g'.classNode? j = some c' → c'.level = some l →
    ∃ c, g.classNode? j = some c ∧ c.key = c'.key ∧ c.level = some l

namespace KeepsClasses

theorem refl (g : StructuralGraph) : KeepsClasses g g :=
  ⟨KeepsLevels.refl g, fun _ c _ h hl => ⟨c, h, rfl, hl⟩⟩

theorem trans (h₁ : KeepsClasses g g') (h₂ : KeepsClasses g' g'') : KeepsClasses g g'' := by
  refine ⟨h₁.levels.trans h₂.levels, fun j c'' l hc'' hl => ?_⟩
  obtain ⟨c', hc', hk', hl'⟩ := h₂.resolved j c'' l hc'' hl
  obtain ⟨c, hc, hk, hl⟩ := h₁.resolved j c' l hc' hl'
  exact ⟨c, hc, hk.trans hk', hl⟩

theorem of_classNode?_eq (h : ∀ j, g'.classNode? j = g.classNode? j) : KeepsClasses g g' :=
  ⟨fun j c hc => ⟨c, (h j).trans hc, rfl, rfl⟩, fun j c _ hc hl => ⟨c, (h j) ▸ hc, rfl, hl⟩⟩

theorem modifyClass {i : Nat} {f : ClassNode → ClassNode}
    (hf : ∀ c, (f c).key = c.key ∧ (f c).level = c.level) : KeepsClasses g (g.modifyClass i f) := by
  refine ⟨fun j c hc => ?_, fun j c' l hc' hl => ?_⟩
  · rw [classNode?_modifyClass]
    split
    · exact ⟨f c, by rw [hc]; rfl, (hf c).1, (hf c).2⟩
    · exact ⟨c, hc, rfl, rfl⟩
  · rw [classNode?_modifyClass] at hc'
    split at hc'
    · obtain ⟨c, hc, rfl⟩ := Option.map_eq_some_iff.mp hc'
      exact ⟨c, hc, (hf c).1.symm, (hf c).2 ▸ hl⟩
    · exact ⟨c', hc', rfl, hl⟩

theorem push {r : Resource} (hr : ∀ c, r = .cls c → c.level = none) :
    KeepsClasses g { g with nodes := g.nodes.push r } := by
  refine ⟨KeepsLevels.push r, fun j c' l hc' hl => ?_⟩
  rw [classNode?_push] at hc'
  split at hc'
  · cases r with
    | cls c =>
      cases hc'
      rw [hr c' rfl] at hl
      cases hl
    | method m => cases hc'
    | field f => cases hc'
  · exact ⟨c', hc', rfl, hl⟩

theorem addResource {r : Resource} (hr : ∀ c, r = .cls c → c.level = none) :
    KeepsClasses g (g.addResource r).1 := by
  unfold StructuralGraph.addResource
  split
  · exact refl g
  · cases r with
    | cls c => exact push hr
    | method m => exact (push hr).trans (modifyClass fun _ => ⟨rfl, rfl⟩)
    | field f => exact (push hr).trans (modifyClass fun _ => ⟨rfl, rfl⟩)

theorem declareField (owner : Nat) (cls : String) (fi : FieldInfo) :
    KeepsClasses g (g.declareField owner cls fi) := by
  unfold StructuralGraph.declareField
  dsimp only
  split
  · exact of_classNode?_eq fun _ => classNode?_modifyField
  · exact addResource fun _ h => by cases h

theorem declareMethod (owner : Nat) (cls : String) (mi : MethodInfo) :
    KeepsClasses g (g.declareMethod owner cls mi) := by
  unfold StructuralGraph.declareMethod
  dsimp only
  split
  · exact of_classNode?_eq fun _ => classNode?_modifyMethod
  · exact addResource fun _ h => by cases h

theorem foldl {α : Type} {F : StructuralGraph → α → StructuralGraph}
    (hF : ∀ g x, KeepsClasses g (F g x)) : ∀ (xs : List α) (g : StructuralGraph),
      KeepsClasses g (xs.foldl F g)
  | [], g => refl g
  | x :: xs, g => (hF g x).trans (foldl hF xs (F g x))

theorem declareMembers (owner : Nat) (cls : String) (file : ClassInfo) :
    KeepsClasses g (g.declareMembers owner cls file) :=
  (foldl (fun _ f => declareField owner cls f) file.fields g).trans
    (foldl (fun _ m => declareMethod owner cls m) file.methods _)

theorem addEdge (s t : Nat) (u : Usage) : KeepsClasses g (g.addEdge s t u).1 :=
  of_classNode?_eq fun j => by unfold classNode? resource?; rw [nodes_addEdge]

end KeepsClasses

theorem KeepsLevels.addResource (r : Resource) : KeepsLevels g (g.addResource r).1 := by
  cases r with
  | cls c =>
    unfold StructuralGraph.addResource
    split
    · exact KeepsLevels.refl g
    · exact KeepsLevels.push _
  | method m => exact (KeepsClasses.addResource (r := .method m) fun _ h => by cases h).levels
  | field f => exact (KeepsClasses.addResource (r := .field f) fun _ h => by cases h).levels

/-- Every field and method of `file` has a node under its key as a member of class `cls`. -/
def Declares (g : StructuralGraph) (cls : String) (file : ClassInfo) : Prop :=
  (∀ f ∈ file.fields, (g.get? (Key.field cls f.name)).isSome) ∧
    ∀ m ∈ file.methods, (g.get? (Key.method cls m.name m.descriptor)).isSome

theorem Declares.extend {cls : String} {file : ClassInfo} (h : g.Declares cls file)
    (hext : g.Extends g') : g'.Declares cls file := by
  -- a key found stays found, under the same node
  have hkeep : ∀ k, (g.get? k).isSome → (g'.get? k).isSome := fun k hk => by
    obtain ⟨i, hi⟩ := Option.isSome_iff_exists.mp hk
    rw [hext.get?_eq hi]
    rfl
  exact ⟨fun f hf => hkeep _ (h.1 f hf), fun m hm => hkeep _ (h.2 m hm)⟩

theorem declares_declareMembers (hg : g.UniqueKeys) (owner : Nat) (cls : String)
    (file : ClassInfo) : (g.declareMembers owner cls file).Declares cls file := by
  have hmem := isSome_get?_declareMembers hg owner cls file
  refine ⟨fun f hf => hmem (.field (fieldNodeOf owner cls f)) ?_,
    fun m hm => hmem (.method (methodNodeOf owner cls m)) ?_⟩
  · exact List.mem_append_left _ (List.mem_map.mpr ⟨f, hf, rfl⟩)
  · exact List.mem_append_right _ (List.mem_map.mpr ⟨m, hm, rfl⟩)

end StructuralGraph

namespace Loader

variable {p p' : Loader} {P Q : Nat → Prop}

/-- What a loader holds of its source, but for the files of the nodes `P`: a resolved class was
read from the bytes of its name at its level, and a class read with bodies has that file kept;
every file kept is what the bytes of its class read to at the file's level, and each member of
it has a node. -/
structure Stocked (P : Nat → Prop) (p : Loader) : Prop where
  classes : ∀ j c l, p.graph.classNode? j = some c → c.level = some l →
    ∃ bytes file, p.source.resolve c.key = some bytes ∧ ClassInfo.decode bytes l = .ok file ∧
      (l = .structureAndCalls → ¬ P j → p.fileOf j = some file)
  files : ∀ j file, p.fileOf j = some file → ∃ c bytes, p.graph.classNode? j = some c ∧
    p.source.resolve c.key = some bytes ∧ ClassInfo.decode bytes file.level = .ok file ∧
    p.graph.Declares c.key file

namespace Stocked

theorem mono (hs : p.Stocked P) (hPQ : ∀ j, P j → Q j) : p.Stocked Q :=
  ⟨fun j c l hc hl => by
    obtain ⟨bytes, file, hb, hd, hf⟩ := hs.classes j c l hc hl
    exact ⟨bytes, file, hb, hd, fun hsac hQ => hf hsac fun hP => hQ (hPQ j hP)⟩, hs.files⟩

theorem files_extend (hs : p.Stocked P) {g : StructuralGraph} (hext : p.graph.Extends g) :
    ∀ j file, p.fileOf j = some file → ∃ c bytes, g.classNode? j = some c ∧
      p.source.resolve c.key = some bytes ∧ ClassInfo.decode bytes file.level = .ok file ∧
      g.Declares c.key file := by
  intro j file hf
  obtain ⟨c, bytes, hc, hb, hd, hdecl⟩ := hs.files j file hf
  obtain ⟨c', hc', hkey, -⟩ := hext.classNode j c hc
  exact ⟨c', bytes, hc', hkey ▸ hb, hd, hkey ▸ hdecl.extend hext⟩

theorem withGraph (hs : p.Stocked P) {g : StructuralGraph} (hk : p.graph.KeepsClasses g)
    (hext : p.graph.Extends g) : ({ p with graph := g } : Loader).Stocked P := by
  refine ⟨fun j c' l hc' hl => ?_, hs.files_extend hext⟩
  obtain ⟨c, hc, hkey, hlev⟩ := hk.resolved j c' l hc' hl
  rw [← hkey]
  exact hs.classes j c l hc hlev

theorem withGraphAt (hs : p.Stocked P) {g : StructuralGraph} {i : Nat} (hext : p.graph.Extends g)
    (hkeep : ∀ j c' l, j ≠ i → g.classNode? j = some c' → c'.level = some l →
      ∃ c, p.graph.classNode? j = some c ∧ c.key = c'.key ∧ c.level = some l)
    (hread : ∀ c' l, g.classNode? i = some c' → c'.level = some l →
      ∃ bytes file, p.source.resolve c'.key = some bytes ∧ ClassInfo.decode bytes l = .ok file) :
    ({ p with graph := g } : Loader).Stocked fun j => P j ∨ j = i := by
  refine ⟨fun j c' l hc' hl => ?_, hs.files_extend hext⟩
  by_cases hji : j = i
  · subst hji
    obtain ⟨bytes, file, hb, hd⟩ := hread c' l hc' hl
    exact ⟨bytes, file, hb, hd, fun _ hP => absurd (.inr rfl) hP⟩
  · obtain ⟨c, hc, hkey, hlev⟩ := hkeep j c' l hji hc' hl
    obtain ⟨bytes, file, hb, hd, hf⟩ := hs.classes j c l hc hlev
    exact ⟨bytes, file, hkey ▸ hb, hd, fun hsac hP => hf hsac fun h => hP (.inl h)⟩

theorem addEdge (hs : p.Stocked P) (s t : Nat) (u : Usage) :
    ({ p with graph := (p.graph.addEdge s t u).1 } : Loader).Stocked P :=
  hs.withGraph (KeepsClasses.addEdge s t u) (extends_addEdge _ _ _)

theorem filter (hs : p.Stocked P) (name : String) :
    ({ p with prefetched := p.prefetched.filter (·.1 != name) } : Loader).Stocked P :=
  ⟨hs.classes, hs.files⟩

theorem takeFile (hs : p.Stocked P) (i : Nat) : (p.takeFile i).2.Stocked fun j => P j ∨ j = i := by
  refine ⟨fun j c l hc hl => ?_, fun j file hf => ?_⟩
  · obtain ⟨bytes, file, hb, hd, hf⟩ := hs.classes j c l hc hl
    refine ⟨bytes, file, hb, hd, fun hsac hP => ?_⟩
    have hji : j ≠ i := fun h => hP (.inr h)
    rw [p.fileOf_takeFile hji]
    exact hf hsac fun h => hP (.inl h)
  · -- the file of `i` is gone, so a file found is one kept before
    have hji : j ≠ i := by
      rintro rfl
      simp only [Loader.takeFile, fileOf, List.find?_filter, Option.map_eq_some_iff] at hf
      obtain ⟨x, hx, -⟩ := hf
      simpa using List.find?_some hx
    rw [p.fileOf_takeFile hji] at hf
    exact hs.files j file hf

/-- Keeping the file of class `i`, read from the bytes of its name at its level, with its
members declared, ends its pending. -/
theorem store (hs : p.Stocked fun j => P j ∨ j = i) {c : ClassNode} {file : ClassInfo}
    {bytes : List UInt8} (hc : p.graph.classNode? i = some c) (hlev : c.level = some file.level)
    (hb : p.source.resolve c.key = some bytes) (hd : ClassInfo.decode bytes file.level = .ok file)
    (hdecl : p.graph.Declares c.key file) :
    ({ p with files := (i, file) :: p.files.filter (·.1 != i) } : Loader).Stocked P := by
  refine ⟨fun j c' l hc' hl => ?_, fun j file' hf => ?_⟩
  · by_cases hji : j = i
    · subst hji
      rw [hc] at hc'
      cases hc'
      rw [hlev] at hl
      cases hl
      exact ⟨bytes, file, hb, hd, fun _ _ => by rw [fileOf_store, if_pos rfl]⟩
    · obtain ⟨bytes', file', hb', hd', hf'⟩ := hs.classes j c' l hc' hl
      refine ⟨bytes', file', hb', hd', fun hsac hP => ?_⟩
      rw [fileOf_store, if_neg hji]
      exact hf' hsac fun h => h.elim hP hji
  · rw [fileOf_store] at hf
    split at hf
    · rename_i hji
      subst hji
      cases hf
      exact ⟨c, bytes, hc, hb, hd, hdecl⟩
    · exact hs.files j file' hf

/-- Raising class `i` to the level of a file read from the bytes of its key, declaring the
file's members and keeping the file. -/
theorem raise (hs : p.Stocked P) (hg : p.graph.UniqueKeys) {i : Nat} {c₀ : ClassNode}
    (hc₀ : p.graph.classNode? i = some c₀) {file : ClassInfo} {bytes : List UInt8}
    (hb : p.source.resolve c₀.key = some bytes) (hd : ClassInfo.decode bytes file.level = .ok file)
    (hup : LevelRises c₀.level (some file.level)) :
    ({ p with
        graph := ((p.graph.modifyClass i fun c => { c with level := some file.level }).declareMembers
          i c₀.key file)
        files := (i, file) :: p.files.filter (·.1 != i) } : Loader).Stocked P := by
  -- the class raised, then its members declared
  have hraise : p.graph.Extends (p.graph.modifyClass i fun c => { c with level := some file.level }) :=
    extends_modifyClass fun c hc => by
      rw [hc₀] at hc
      cases hc
      exact ⟨rfl, hup⟩
  have hkeep := KeepsClasses.declareMembers
    (g := p.graph.modifyClass i fun c => { c with level := some file.level }) i c₀.key file
  have hc₁ : (p.graph.modifyClass i fun c => { c with level := some file.level }).classNode? i =
      some { c₀ with level := some file.level } := by
    rw [classNode?_modifyClass, if_pos rfl, hc₀]
    rfl
  -- until the file is kept, the class is pending
  have hs₁ := hs.withGraphAt (i := i) (hraise.trans (extends_declareMembers i c₀.key file))
    (fun j c' l hji hc' hl => by
      obtain ⟨c₁, hc₁', hk₁, hl₁⟩ := hkeep.resolved j c' l hc' hl
      rw [classNode?_modifyClass, if_neg (Ne.symm hji)] at hc₁'
      exact ⟨c₁, hc₁', hk₁, hl₁⟩)
    (fun c' l hc' hl => by
      obtain ⟨c₁, hc₁', hk₁, hl₁⟩ := hkeep.resolved i c' l hc' hl
      rw [hc₁] at hc₁'
      cases hc₁'
      cases hl₁
      exact ⟨bytes, file, hk₁ ▸ hb, hd⟩)
  obtain ⟨c', hc', hkey', hlev'⟩ := hkeep.levels i _ hc₁
  have huniq : (p.graph.modifyClass i fun c => { c with level := some file.level }).UniqueKeys :=
    hg.of_keys size_modifyClass fun _ => key_modifyClass fun _ => rfl
  exact hs₁.store hc' hlev' (hkey' ▸ hb) hd (hkey' ▸ declares_declareMembers huniq i c₀.key file)

end Stocked

theorem Valid.read_of_outcome (hp : p.Valid) {name : String} {level : DetailLevel} {file : ClassInfo}
    (h : p.outcome name level = some (.ok file)) :
    ∃ bytes, p.source.resolve name = some bytes ∧ ClassInfo.decode bytes file.level = .ok file := by
  obtain ⟨l, -, hl⟩ := hp.outcome_eq_decode name level
  rw [hl] at h
  obtain ⟨bytes, hb, hd⟩ := Option.map_eq_some_iff.mp h
  exact ⟨bytes, hb, (ClassInfo.decode_level hd) ▸ hd⟩

end Loader

/-! ### Loads keep the stock -/

variable {p : Loader} {P : Nat → Prop}

theorem Load.Run.of_exec_eq {α : Type} {x y : Load α} {Q : α → Loader → Prop}
    (h : x.exec p = y.exec p) (hy : y.Run p Q) : x.Run p Q := by
  unfold Load.Run at hy ⊢
  rw [h]
  exact hy

theorem run_addResource_stocked (hp : p.Valid) (hs : p.Stocked P) {r : Resource}
    (hr : p.graph.Admissible r) (hcls : ∀ c, r = .cls c → c.level = none) :
    (addResource r).Run p fun _ p' => p'.Stocked P :=
  (run_addResource hp hr).mono fun _ _ _ ⟨_, _, hp', _⟩ =>
    hp' ▸ hs.withGraph (KeepsClasses.addResource hcls) (extends_addResource r)

/-- Raising a class below the level asked for. -/
theorem run_escalate_stocked (hp : p.Valid) (hs : p.Stocked P) {i : Nat} {name : String}
    {level : DetailLevel} {c₀ : ClassNode} (hc₀ : p.graph.classNode? i = some c₀)
    (hkey : c₀.key = name) (hlev : LevelRises c₀.level (some level)) :
    (escalate i name level).Run p fun _ p' => p'.Stocked P := by
  subst hkey
  have hres := classNode?_eq_some.mp hc₀
  refine ⟨(run_escalate hp (lt_size_of_resource? hres) (key_of_resource? hres) fun c hc => ?_).1,
    fun _ hok => ?_⟩
  · rw [hc₀] at hc
    cases hc
    exact hlev
  rw [escalate_exec] at hok ⊢
  cases hr : readOutcome c₀.key (p.isAnalyzable c₀.key) (p.outcome c₀.key level) with
  | error e => rw [hr] at hok; cases hok
  | ok r =>
    cases r with
    | none => exact hs.filter c₀.key
    | some file =>
      -- the file read is what the bytes of the class's key read to, at a level not below it
      have hout := readOutcome_eq_ok_some hr
      obtain ⟨bytes, hb, hd⟩ := hp.read_of_outcome hout
      exact (hs.filter c₀.key).raise hp.graph.uniqueKeys hc₀ hb hd (hlev.trans (hp.outcome_level hout))

/-- Inserting a class keeps every class there was, at its level, when the loads of its
supertypes do. -/
theorem run_insert_keepsLevels {k : Nat}
    (hget : ∀ name q, q.Valid →
      (getClass k name .structureOnly).Run q fun _ q' => q.graph.KeepsLevels q'.graph)
    (hp : p.Valid) {name : String} (hfresh : p.graph.get? name = none) (file : ClassInfo) :
    (insert k name file).Run p fun _ p' => p.graph.KeepsLevels p'.graph := by
  rw [insert_eq]
  refine Run.bind (run_addResource hp ⟨rfl, rfl, rfl, rfl⟩) fun i p₁ h₁ ⟨hi₁, hk₁, hp₁, hidx⟩ => ?_
  have hc₁ : ∃ c, p₁.graph.classNode? i = some c := by
    rw [hp₁, hidx]
    exact ⟨_, classNode?_addResource_cls hfresh⟩
  refine Run.bind (run_modifyGraph h₁.valid (h₁.valid.graph.declareMembers hi₁ hk₁ file)
    (extends_declareMembers i name file)) fun _ p₂ h₂ hp₂ => ?_
  have hkeep₂ : p.graph.KeepsLevels p₂.graph := by
    rw [hp₂, hp₁]
    exact (KeepsLevels.addResource _).trans (KeepsClasses.declareMembers i name file).levels
  refine Run.bind (run_loadSupertypes (R := fun q q' => q.graph.KeepsLevels q'.graph)
    (fun _ _ => KeepsLevels.refl _) (fun h₁₂ h₂₃ => h₁₂.trans h₂₃) file
    (fun t q _ hq _ => ((run_getClass k t .structureOnly q hq).and (hget t q hq)).mono
      fun _ _ _ ⟨⟨hn, _⟩, hkl⟩ => ⟨hn, hkl⟩) h₂.valid)
    fun st p₃ h₃ ⟨hkeep₃, hsup, hifs, hnd⟩ => ?_
  have hcls : ∃ c, p₃.graph.classNode? i = some c := by
    obtain ⟨c, hc⟩ := hc₁
    obtain ⟨c', hc', -⟩ := (h₂.trans h₃).graph.classNode i c hc
    exact ⟨c', hc'⟩
  refine Run.bind (run_setSupertypes h₃.valid hcls hsup hifs hnd) fun _ p₄ h₄ hp₄ => ?_
  refine Run.bind (run_storeFile_files h₄.valid i file) fun _ p₅ h₅ hp₅ => Run.pure h₅.valid ?_
  rw [hp₅, hp₄]
  exact hkeep₂.trans (hkeep₃.trans (KeepsClasses.modifyClass fun _ => by exact ⟨rfl, rfl⟩).levels)

/-- A load at the structure level keeps every class there was, at its level: no class is below
the lowest level, so none is raised. -/
theorem run_getClass_keepsLevels (k : Nat) : ∀ name p, Loader.Valid p →
    (getClass k name .structureOnly).Run p fun _ p' => p.graph.KeepsLevels p'.graph := by
  induction k with
  | zero =>
    intro name p hp
    rw [getClass]
    exact (run_addResource (r := .cls (ClassNode.unresolved name)) hp ⟨rfl, rfl, rfl, rfl⟩).mono
      fun _ _ _ h => h.2.2.1 ▸ KeepsLevels.addResource _
  | succ k ih =>
    intro name p hp
    cases hget : p.graph.get? name with
    | some i =>
      have hexec := @getClass_structureOnly_exec_of_get? k p name i hget
      refine ⟨by rw [hexec]; exact Later.refl hp, fun _ _ => ?_⟩
      rw [hexec]
      exact KeepsLevels.refl _
    | none =>
      refine Run.of_exec_eq (getClass_exec_of_fresh hget) ?_
      refine Run.bind (run_decode hp name .structureOnly) fun r p₁ h₁ hd => ?_
      -- reading changes only what was decoded ahead
      have hg₁ : p₁.graph = p.graph := by rw [hd.1]
      rw [← hg₁]
      cases r with
      | some file => exact run_insert_keepsLevels ih h₁.valid (hg₁ ▸ hget) file
      | none =>
        exact (run_addResource (r := .cls (ClassNode.unresolved name)) h₁.valid ⟨rfl, rfl, rfl, rfl⟩).mono
          fun _ _ _ h => h.2.2.1 ▸ KeepsLevels.addResource _


/-- Inserting a class read from the bytes of its name, when the loads of its supertypes keep the
stock. -/
theorem run_insert_stocked {k : Nat}
    (hget : ∀ name P q, q.Valid → q.Stocked P →
      (getClass k name .structureOnly).Run q fun _ q' => q'.Stocked P)
    (hp : p.Valid) (hs : p.Stocked P) {name : String} (hfresh : p.graph.get? name = none)
    {file : ClassInfo} {bytes : List UInt8} (hb : p.source.resolve name = some bytes)
    (hd : ClassInfo.decode bytes file.level = .ok file) :
    (insert k name file).Run p fun _ p' => p'.Stocked P := by
  rw [insert_eq]
  -- the class as it is added: bare, at the file's level, as a new last node
  obtain ⟨c₀, hc₀⟩ : ∃ c₀ : ClassNode, c₀ = ⟨name, file.access, some file.level, none, [], [], []⟩ :=
    ⟨_, rfl⟩
  rw [← hc₀]
  have hfresh₀ : p.graph.get? c₀.key = none := by rw [hc₀]; exact hfresh
  refine Run.bind (run_addResource hp (by rw [hc₀]; exact ⟨rfl, rfl, rfl, rfl⟩))
    fun i p₁ h₁ ⟨hi₁, hk₁, hp₁, hidx⟩ => ?_
  have hi : i = p.graph.size := by rw [hidx, addResource_cls hfresh₀]
  have hk₁' : p₁.graph.key i = name := hk₁.trans (by rw [hc₀]; rfl)
  refine Run.bind (run_modifyGraph h₁.valid (h₁.valid.graph.declareMembers hi₁ hk₁' file)
    (extends_declareMembers i name file)) fun _ p₂ h₂ hp₂ => ?_
  have hpush : p₁.graph = { p.graph with nodes := p.graph.nodes.push (.cls c₀) } := by
    rw [hp₁, addResource_cls hfresh₀]
  have hkeep₂ := KeepsClasses.declareMembers (g := p₁.graph) i name file
  have hc₁ : p₁.graph.classNode? i = some c₀ := by rw [hpush, hi, classNode?_push, if_pos rfl]
  -- with its members declared, the class is read from the bytes of its name, its file pending
  have hp₂' : p₂ = { p with graph := p₁.graph.declareMembers i name file } := by rw [hp₂, hp₁]
  have hs₂ : p₂.Stocked fun j => P j ∨ j = i := by
    rw [hp₂']
    have hext : p.graph.Extends (p₁.graph.declareMembers i name file) := by
      have := (h₁.trans h₂).graph
      rwa [hp₂'] at this
    refine hs.withGraphAt hext (fun j c' l hji hc' hl => ?_) fun c' l hc' hl => ?_
    · obtain ⟨c, hc, hkey, hlev⟩ := hkeep₂.resolved j c' l hc' hl
      rw [hpush, classNode?_push, if_neg (hi ▸ hji)] at hc
      exact ⟨c, hc, hkey, hlev⟩
    · obtain ⟨c, hc, hkey, hlev⟩ := hkeep₂.resolved i c' l hc' hl
      rw [hc₁] at hc
      cases hc
      rw [hc₀] at hkey hlev
      cases hlev
      exact ⟨bytes, file, hkey ▸ hb, hd⟩
  have hdecl₂ : p₂.graph.Declares name file := by
    rw [hp₂]
    exact declares_declareMembers (hpush ▸ h₁.valid.graph.uniqueKeys) i name file
  obtain ⟨c₂, hc₂, hkey₂, hlev₂⟩ := hkeep₂.levels i c₀ hc₁
  -- the supertypes are loads that keep the stock and the levels of the classes there are
  refine Run.bind (run_loadSupertypes (R := fun q q' =>
      (q.Stocked fun j => P j ∨ j = i) → (q'.Stocked fun j => P j ∨ j = i) ∧
        q.graph.KeepsLevels q'.graph)
    (fun _ _ hs' => ⟨hs', KeepsLevels.refl _⟩)
    (fun h₁₂ h₂₃ hs' => ⟨(h₂₃ (h₁₂ hs').1).1, (h₁₂ hs').2.trans (h₂₃ (h₁₂ hs').1).2⟩) file
    (fun t q _ hq hR => ((run_getClass k t .structureOnly q hq).and
      ((hget t _ q hq (hR hs₂).1).and (run_getClass_keepsLevels k t q hq))).mono
      fun _ _ _ ⟨⟨hn, _⟩, hs', hkl⟩ => ⟨hn, fun _ => ⟨hs', hkl⟩⟩) h₂.valid)
    fun st p₃ h₃ ⟨hR₃, hsup, hifs, hnd⟩ => ?_
  obtain ⟨hs₃, hkeep₃⟩ := hR₃ hs₂
  obtain ⟨c₃, hc₃, hkey₃, hlev₃⟩ := hkeep₃ i c₂ (hp₂ ▸ hc₂)
  refine Run.bind (run_setSupertypes h₃.valid ⟨c₃, hc₃⟩ hsup hifs hnd) fun _ p₄ h₄ hp₄ => ?_
  refine Run.bind (run_storeFile_files h₄.valid i file) fun _ p₅ h₅ hp₅ => Run.pure h₅.valid ?_
  -- the supertypes recorded, the file is kept under the class
  have hkeep₄ := KeepsClasses.modifyClass (g := p₃.graph) (i := i)
    (f := fun c => { c with superClass := st.1.filter (· != i), interfaces := st.2 }) fun _ => ⟨rfl, rfl⟩
  have hs₄ : p₄.Stocked fun j => P j ∨ j = i := by
    have hext := h₄.graph
    rw [hp₄] at hext ⊢
    exact hs₃.withGraph hkeep₄ hext
  obtain ⟨c₄, hc₄, hkey₄, hlev₄⟩ := hkeep₄.levels i c₃ hc₃
  have hkey : c₄.key = name := by rw [hkey₄, hkey₃, hkey₂, hc₀]
  have hlev : c₄.level = some file.level := by rw [hlev₄, hlev₃, hlev₂, hc₀]
  rw [hp₅]
  exact hs₄.store (hp₄ ▸ hc₄) hlev (hkey ▸ (h₁.trans (h₂.trans (h₃.trans h₄))).source_eq ▸ hb) hd
    (hkey ▸ hdecl₂.extend (h₃.trans h₄).graph)

/-- The stock lasts through every load, at any fuel. -/
theorem run_getClass_stocked (k : Nat) : ∀ name level P p, Loader.Valid p → p.Stocked P →
    (getClass k name level).Run p fun _ p' => p'.Stocked P := by
  induction k with
  | zero =>
    intro name level P p hp hs
    rw [getClass]
    exact run_addResource_stocked hp hs ⟨rfl, rfl, rfl, rfl⟩ fun c h => by cases h; rfl
  | succ k ih =>
    intro name level P p hp hs
    rw [getClass]
    refine Run.bind (Run.get hp) ?_
    rintro _ _ hl ⟨rfl, rfl⟩
    split
    · -- a node with the name: raised when it is a resolved class below the level
      rename_i i hi
      split
      · rename_i current hcur
        obtain ⟨c₀, hc₀, hlev₀⟩ := Option.bind_eq_some_iff.mp hcur
        split
        · rename_i hlt
          have hkey : c₀.key = name := by
            rw [← (key_of_get? hi).2, key_of_resource? (classNode?_eq_some.mp hc₀)]
            rfl
          refine Run.bind (run_escalate_stocked hl.valid hs hc₀ hkey ?_) fun _ p₁ h₁ hs₁ =>
            Run.pure h₁.valid hs₁
          rw [hlev₀]
          exact Nat.le_of_lt hlt
        · exact Run.pure hl.valid hs
      · exact Run.pure hl.valid hs
    · -- a new name: read, then inserted with its file, or a placeholder
      rename_i hfresh
      refine Run.bind (run_decode hl.valid name level) fun r p₁ h₁ ⟨hp₁, hread, _⟩ => ?_
      have hs₁ : p₁.Stocked P := hp₁ ▸ hs.filter name
      have hfresh₁ : p₁.graph.get? name = none := by rw [hp₁]; exact hfresh
      cases r with
      | some file =>
        obtain ⟨bytes, hb, hd⟩ := hl.valid.read_of_outcome (readOutcome_eq_ok_some hread)
        exact run_insert_stocked (fun n P' q hq hsq => ih n .structureOnly P' q hq hsq) h₁.valid hs₁
          hfresh₁ (h₁.source_eq ▸ hb) hd
      | none => exact run_addResource_stocked h₁.valid hs₁ ⟨rfl, rfl, rfl, rfl⟩ fun c h => by cases h; rfl

theorem run_resolveMethod_stocked (hp : p.Valid) (hs : p.Stocked P) (fuel : Nat) (m : MemberRef)
    (isStatic : Bool) : (resolveMethod fuel m isStatic).Run p fun _ p' => p'.Stocked P := by
  unfold resolveMethod
  refine Run.bind ((run_getClass fuel m.owner .structureOnly p hp).and
    (run_getClass_stocked fuel m.owner .structureOnly P p hp hs)) fun o p₁ h₁ hpost => ?_
  obtain ⟨⟨ho, -⟩, hs₁⟩ := hpost
  refine Run.bind (Run.get h₁.valid) ?_
  rintro _ _ hl ⟨rfl, rfl⟩
  split
  · exact Run.pure hl.valid hs₁
  · exact run_addResource_stocked hl.valid hs₁ ⟨ho.1, by rw [ho.2]⟩ fun _ h => by cases h

theorem run_resolveField_stocked (hp : p.Valid) (hs : p.Stocked P) (fuel : Nat) (m : MemberRef)
    (isStatic : Bool) : (resolveField fuel m isStatic).Run p fun _ p' => p'.Stocked P := by
  unfold resolveField
  refine Run.bind ((run_getClass fuel m.owner .structureOnly p hp).and
    (run_getClass_stocked fuel m.owner .structureOnly P p hp hs)) fun o p₁ h₁ hpost => ?_
  obtain ⟨⟨ho, -⟩, hs₁⟩ := hpost
  refine Run.bind (Run.get h₁.valid) ?_
  rintro _ _ hl ⟨rfl, rfl⟩
  split
  · exact Run.pure hl.valid hs₁
  · exact run_addResource_stocked hl.valid hs₁ ⟨ho.1, by rw [ho.2]⟩ fun _ h => by cases h

theorem run_use_stocked {σ : Site} {x : Load Nat} (hx : x.Run p (Resolves σ p))
    (hxs : x.Run p fun _ p' => p'.Stocked P) {src : Nat} (hsrc : src < p.graph.size) :
    (x >>= fun t => addUse src t .uses).Run p fun _ p' => p'.Stocked P :=
  Run.bind (hx.and hxs) fun t _ h₁ ⟨⟨_, _, ht, _⟩, hs₁⟩ =>
    (run_addUse h₁.valid (Nat.lt_of_lt_of_le hsrc h₁.graph.size_le) ht .uses).mono
      fun _ _ _ hp' => hp' ▸ hs₁.addEdge src t .uses

theorem edgesKeep_stocked (fuel : Nat) (P : Nat → Prop) : EdgesKeep fuel (Stocked P) where
  edge q src σ hq hs hsrc := by
    cases σ with
    | type n =>
      exact run_use_stocked (run_getClass_resolves hq fuel n)
        (run_getClass_stocked fuel n .structureOnly P q hq hs) hsrc
    | method m isStatic =>
      exact run_use_stocked (run_resolveMethod_resolves hq fuel m isStatic)
        (run_resolveMethod_stocked hq hs fuel m isStatic) hsrc
    | field m isStatic =>
      exact run_use_stocked (run_resolveField_resolves hq fuel m isStatic)
        (run_resolveField_stocked hq hs fuel m isStatic) hsrc
  use _ s t u _ hs _ _ := hs.addEdge s t u

theorem wiringKeeps_stocked (fuel : Nat) : WiringKeeps fuel fun q => ∃ P, q.Stocked P where
  edge q src σ hq := fun ⟨P, hs⟩ hsrc =>
    ((edgesKeep_stocked fuel P).edge q src σ hq hs hsrc).mono fun _ _ _ hs' => ⟨P, hs'⟩
  use _ s t u _ := fun ⟨P, hs⟩ _ _ => ⟨P, hs.addEdge s t u⟩
  take _ i := fun ⟨_, hs⟩ => ⟨_, hs.takeFile i⟩

end ClassMetrics
