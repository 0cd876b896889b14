import ClassMetrics.Proofs.Graph.Nodes

/-! The graph only grows. Every update keeps each node under its key, of its kind, with its
owner, name and descriptor; new nodes come at the end; and a class's detail level never goes
down, nor does a placeholder ever become resolved. -/

namespace ClassMetrics

open ClassFile

/-- How the level of a class may change: a placeholder stays one, and a resolved class keeps a
level at least as high. -/
def LevelRises : Option DetailLevel → Option DetailLevel → Prop
  | none, none => True
  | some a, some b => a.rank ≤ b.rank
  | _, _ => False

theorem LevelRises.refl (l : Option DetailLevel) : LevelRises l l := by
  cases l <;> simp [LevelRises]

theorem LevelRises.trans {a b c : Option DetailLevel} (h₁ : LevelRises a b) (h₂ : LevelRises b c) :
    LevelRises a c := by
  cases a <;> cases b <;> cases c <;> simp_all [LevelRises]
  omega

namespace StructuralGraph

/-- `g'` grows out of `g`: each node of `g` is still there with its key, kind and owner, a
member keeps its name and descriptor, and a class's level has only risen. -/
structure Extends (g g' : StructuralGraph) : Prop where
  size_le : g.size ≤ g'.size
  classNode : ∀ j c, g.classNode? j = some c →
    ∃ c', g'.classNode? j = some c' ∧ c'.key = c.key ∧ LevelRises c.level c'.level
  methodNode : ∀ j m, g.methodNode? j = some m →
    ∃ m', g'.methodNode? j = some m' ∧ m'.key = m.key ∧ m'.owner = m.owner ∧
      m'.name = m.name ∧ m'.descriptor = m.descriptor
  fieldNode : ∀ j f, g.fieldNode? j = some f →
    ∃ f', g'.fieldNode? j = some f' ∧ f'.key = f.key ∧ f'.owner = f.owner ∧ f'.name = f.name

namespace Extends

variable {g g' g'' : StructuralGraph}

theorem refl (g : StructuralGraph) : g.Extends g :=
  ⟨Nat.le_refl _, fun _ c h => ⟨c, h, rfl, LevelRises.refl _⟩,
    fun _ m h => ⟨m, h, rfl, rfl, rfl, rfl⟩, fun _ f h => ⟨f, h, rfl, rfl, rfl⟩⟩

theorem trans (h₁ : g.Extends g') (h₂ : g'.Extends g'') : g.Extends g'' where
  size_le := Nat.le_trans h₁.size_le h₂.size_le
  classNode j c h := by
    obtain ⟨c', h', hk', hl'⟩ := h₁.classNode j c h
    obtain ⟨c'', h'', hk'', hl''⟩ := h₂.classNode j c' h'
    exact ⟨c'', h'', hk''.trans hk', hl'.trans hl''⟩
  methodNode j m h := by
    obtain ⟨m', h', hk', ho', hn', hd'⟩ := h₁.methodNode j m h
    obtain ⟨m'', h'', hk'', ho'', hn'', hd''⟩ := h₂.methodNode j m' h'
    exact ⟨m'', h'', hk''.trans hk', ho''.trans ho', hn''.trans hn', hd''.trans hd'⟩
  fieldNode j f h := by
    obtain ⟨f', h', hk', ho', hn'⟩ := h₁.fieldNode j f h
    obtain ⟨f'', h'', hk'', ho'', hn''⟩ := h₂.fieldNode j f' h'
    exact ⟨f'', h'', hk''.trans hk', ho''.trans ho', hn''.trans hn'⟩

theorem resource? (h : g.Extends g') {j : Nat} {r : Resource} (hr : g.resource? j = some r) :
    ∃ r', g'.resource? j = some r' ∧ r'.key = r.key ∧ r'.owner j = r.owner j := by
  cases r with
  | cls c =>
    obtain ⟨c', h', hk, -⟩ := h.classNode j c (classNode?_eq_some.mpr hr)
    exact ⟨.cls c', classNode?_eq_some.mp h', hk, rfl⟩
  | method m =>
    obtain ⟨m', h', hk, ho, -⟩ := h.methodNode j m (methodNode?_eq_some.mpr hr)
    exact ⟨.method m', methodNode?_eq_some.mp h', hk, ho⟩
  | field f =>
    obtain ⟨f', h', hk, ho, -⟩ := h.fieldNode j f (fieldNode?_eq_some.mpr hr)
    exact ⟨.field f', fieldNode?_eq_some.mp h', hk, ho⟩

theorem key_eq (h : g.Extends g') {j : Nat} (hj : j < g.size) : g'.key j = g.key j := by
  obtain ⟨r, hr⟩ := Option.isSome_iff_exists.mp (resource?_isSome_iff.mpr hj)
  obtain ⟨r', hr', hk, -⟩ := h.resource? hr
  rw [key_of_resource? hr, key_of_resource? hr', hk]

theorem ownerClass_eq (h : g.Extends g') {j : Nat} (hj : j < g.size) :
    g'.ownerClass j = g.ownerClass j := by
  obtain ⟨r, hr⟩ := Option.isSome_iff_exists.mp (resource?_isSome_iff.mpr hj)
  obtain ⟨r', hr', -, ho⟩ := h.resource? hr
  rw [ownerClass_of_resource? hr, ownerClass_of_resource? hr', ho]

theorem get?_eq (h : g.Extends g') {k : String} {i : Nat} (hk : g.get? k = some i) :
    g'.get? k = some i := by
  obtain ⟨hi, hik, hlt⟩ := get?_eq_some_iff.mp hk
  refine get?_eq_some_iff.mpr ⟨Nat.lt_of_lt_of_le hi h.size_le, (h.key_eq hi).trans hik, ?_⟩
  intro j hj
  rw [h.key_eq (Nat.lt_trans hj hi)]
  exact hlt j hj

end Extends

/-! ### Every update extends the graph -/

section Updates

variable {g : StructuralGraph}

theorem extends_push (r : Resource) : g.Extends { g with nodes := g.nodes.push r } where
  size_le := by simp
  classNode j c h := by
    have hj : j ≠ g.size := Nat.ne_of_lt (lt_size_of_resource? (classNode?_eq_some.mp h))
    exact ⟨c, by rw [classNode?_push, if_neg hj, h], rfl, LevelRises.refl _⟩
  methodNode j m h := by
    have hj : j ≠ g.size := Nat.ne_of_lt (lt_size_of_resource? (methodNode?_eq_some.mp h))
    exact ⟨m, by rw [methodNode?_push, if_neg hj, h], rfl, rfl, rfl, rfl⟩
  fieldNode j f h := by
    have hj : j ≠ g.size := Nat.ne_of_lt (lt_size_of_resource? (fieldNode?_eq_some.mp h))
    exact ⟨f, by rw [fieldNode?_push, if_neg hj, h], rfl, rfl, rfl⟩

theorem extends_modifyClass {i : Nat} {f : ClassNode → ClassNode}
    (hf : ∀ c, g.classNode? i = some c → (f c).key = c.key ∧ LevelRises c.level (f c).level) :
    g.Extends (g.modifyClass i f) where
  size_le := by simp
  classNode j c h := by
    rw [classNode?_modifyClass, h]
    by_cases hij : i = j
    · subst hij
      exact ⟨f c, by rw [if_pos rfl]; rfl, (hf c h).1, (hf c h).2⟩
    · exact ⟨c, by rw [if_neg hij], rfl, LevelRises.refl _⟩
  methodNode j m h := ⟨m, by rw [methodNode?_modifyClass, h], rfl, rfl, rfl, rfl⟩
  fieldNode j f h := ⟨f, by rw [fieldNode?_modifyClass, h], rfl, rfl, rfl⟩

theorem extends_modifyMethod {i : Nat} {u : MethodNode → MethodNode}
    (hu : ∀ m, (u m).key = m.key ∧ (u m).owner = m.owner ∧ (u m).name = m.name ∧
      (u m).descriptor = m.descriptor) :
    g.Extends (g.modifyMethod i u) where
  size_le := by simp
  classNode j c h := ⟨c, by rw [classNode?_modifyMethod, h], rfl, LevelRises.refl _⟩
  methodNode j m h := by
    rw [methodNode?_modifyMethod, h]
    by_cases hij : i = j
    · exact ⟨u m, by rw [if_pos hij]; rfl, hu m⟩
    · exact ⟨m, by rw [if_neg hij], rfl, rfl, rfl, rfl⟩
  fieldNode j f h := ⟨f, by rw [fieldNode?_modifyMethod, h], rfl, rfl, rfl⟩

theorem extends_modifyField {i : Nat} {v : FieldNode → FieldNode}
    (hv : ∀ f, (v f).key = f.key ∧ (v f).owner = f.owner ∧ (v f).name = f.name) :
    g.Extends (g.modifyField i v) where
  size_le := by simp
  classNode j c h := ⟨c, by rw [classNode?_modifyField, h], rfl, LevelRises.refl _⟩
  methodNode j m h := ⟨m, by rw [methodNode?_modifyField, h], rfl, rfl, rfl, rfl⟩
  fieldNode j f h := by
    rw [fieldNode?_modifyField, h]
    by_cases hij : i = j
    · exact ⟨v f, by rw [if_pos hij]; rfl, hv f⟩
    · exact ⟨f, by rw [if_neg hij], rfl, rfl, rfl⟩

theorem extends_listMember {i : Nat} {f : ClassNode → ClassNode}
    (hf : ∀ c, f c = { c with methods := (f c).methods, fields := (f c).fields }) :
    g.Extends (g.modifyClass i f) :=
  extends_modifyClass fun c _ => by rw [hf c]; exact ⟨rfl, LevelRises.refl _⟩

theorem extends_addResource (r : Resource) : g.Extends (g.addResource r).1 := by
  cases hk : g.get? r.key with
  | some i => rw [addResource_of_get?_eq_some hk]; exact Extends.refl g
  | none =>
    have hpush := extends_push (g := g) r
    cases r with
    | cls c => rw [addResource_cls hk]; exact hpush
    | method m =>
      rw [addResource_method hk]
      exact hpush.trans (extends_listMember fun _ => rfl)
    | field f =>
      rw [addResource_field hk]
      exact hpush.trans (extends_listMember fun _ => rfl)

theorem extends_declareField (owner : Nat) (cls : String) (f : FieldInfo) :
    g.Extends (g.declareField owner cls f) := by
  unfold declareField
  dsimp only
  split
  · exact extends_modifyField fun _ => ⟨rfl, rfl, rfl⟩
  · exact extends_addResource _

theorem extends_declareMethod (owner : Nat) (cls : String) (m : MethodInfo) :
    g.Extends (g.declareMethod owner cls m) := by
  unfold declareMethod
  dsimp only
  split
  · exact extends_modifyMethod fun _ => ⟨rfl, rfl, rfl, rfl⟩
  · exact extends_addResource _

theorem extends_declareMembers (owner : Nat) (cls : String) (file : ClassInfo) :
    g.Extends (g.declareMembers owner cls file) := by
  unfold declareMembers
  have hfields : ∀ (fs : List FieldInfo) (g : StructuralGraph),
      g.Extends (fs.foldl (fun g f => g.declareField owner cls f) g) := by
    intro fs
    induction fs with
    | nil => exact Extends.refl
    | cons f fs ih => exact fun g => (extends_declareField owner cls f).trans (ih _)
  have hmethods : ∀ (ms : List MethodInfo) (g : StructuralGraph),
      g.Extends (ms.foldl (fun g m => g.declareMethod owner cls m) g) := by
    intro ms
    induction ms with
    | nil => exact Extends.refl
    | cons m ms ih => exact fun g => (extends_declareMethod owner cls m).trans (ih _)
  exact (hfields _ g).trans (hmethods _ _)

theorem extends_of_nodes_eq {g' : StructuralGraph} (h : g'.nodes = g.nodes) : g.Extends g' where
  size_le := by simp [size, h]
  classNode j c hc := ⟨c, by simpa [classNode?, resource?, h] using hc, rfl, LevelRises.refl _⟩
  methodNode j m hm := ⟨m, by simpa [methodNode?, resource?, h] using hm, rfl, rfl, rfl, rfl⟩
  fieldNode j f hf := ⟨f, by simpa [fieldNode?, resource?, h] using hf, rfl, rfl, rfl⟩

theorem extends_addEdge (s t : Nat) (u : Usage) : g.Extends (g.addEdge s t u).1 :=
  extends_of_nodes_eq (nodes_addEdge s t u)

end Updates

end StructuralGraph

end ClassMetrics
