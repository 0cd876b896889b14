import ClassMetrics.Proofs.Graph.Extends

/-!
The detail levels and body shapes a graph may hold, given the classes to analyse and where
class files come from. A placeholder is only made for a class not to analyse, and only a class
to analyse is read with method bodies. A method has a body shape only when a class to analyse,
read with bodies, has a method with a body under that key; and a class read with bodies has
given a shape to each of its methods with a body. Every update of the graph keeps this, except
that a class raised to the level with bodies is pending until its members are declared.
-/

namespace ClassMetrics

open ClassFile

namespace StructuralGraph

section Policy

variable (A : String → Bool) (source : ClassSource)

/-- The levels a class under `name` may have: a placeholder only for a class not to analyse,
and bodies read only for a class to analyse. -/
def LevelAllowed (name : String) (level : Option DetailLevel) : Prop :=
  (level = none → A name = false) ∧ (A name = false → level ≠ some .structureAndCalls)

/-- A body shape may stand under key `k` only for the body of a method with that key in the file,
read with bodies, of a class to analyse. -/
def ShapeFrom (k : String) : Prop :=
  ∃ n bytes file mi, A n = true ∧ source.resolve n = some bytes ∧
    ClassInfo.decode bytes .structureAndCalls = .ok file ∧ mi ∈ file.methods ∧
    Key.method n mi.name mi.descriptor = k ∧ mi.code.isSome = true

/-- What a single node may be. -/
def NodeAllowed : Resource → Prop
  | .cls c => LevelAllowed A c.key c.level
  | .method m => m.shape.isSome = true → ShapeFrom A source m.key
  | .field _ => True

/-- Each of the methods `ms` of class `cls` with a body has a node under its key, and that node,
when a method, has a shape. -/
def HasShapes (g : StructuralGraph) (cls : String) (ms : List MethodInfo) : Prop :=
  ∀ mi ∈ ms, mi.code.isSome = true →
    ∃ j, g.get? (Key.method cls mi.name mi.descriptor) = some j ∧
      ∀ m, g.methodNode? j = some m → m.shape.isSome = true

/-- The class `n` has given shapes to the methods of its file read with bodies. -/
def FileDeclared (g : StructuralGraph) (n : String) : Prop :=
  ∀ bytes file, source.resolve n = some bytes →
    ClassInfo.decode bytes .structureAndCalls = .ok file → g.HasShapes n file.methods

/-- What a file read for class `name` may bring into the graph: its level, bodies only as the
policy allows, and, when read with bodies, exactly what the source's bytes for the class read
to. -/
structure FileAllowed (name : String) (file : ClassInfo) : Prop where
  level : LevelAllowed A name (some file.level)
  code : ∀ mi ∈ file.methods, mi.code.isSome = true →
    ShapeFrom A source (Key.method name mi.name mi.descriptor)
  bodies : file.level = .structureAndCalls → ∃ bytes, source.resolve name = some bytes ∧
    ClassInfo.decode bytes .structureAndCalls = .ok file

/-- The levels and shapes of `g` follow the policy, except that the classes at `pending` may
not have declared their members yet. -/
structure LevelsFollowBut (pending : Nat → Prop) (g : StructuralGraph) : Prop where
  classes : ∀ j c, g.classNode? j = some c → LevelAllowed A c.key c.level
  methods : ∀ j m, g.methodNode? j = some m → m.shape.isSome = true → ShapeFrom A source m.key
  declared : ∀ j c, ¬ pending j → g.classNode? j = some c → c.level = some .structureAndCalls →
    FileDeclared source g c.key

/-- The levels and shapes of `g` follow the policy. -/
def LevelsFollow (g : StructuralGraph) : Prop := LevelsFollowBut A source (fun _ => False) g

end Policy

/-! ### Keeping shapes as the graph grows -/

variable {g g' g'' : StructuralGraph} {j : Nat}

/-- A method's shape, once given, stays. -/
def KeepsShapes (g g' : StructuralGraph) : Prop :=
  ∀ j m m', g.methodNode? j = some m → g'.methodNode? j = some m' →
    m.shape.isSome = true → m'.shape.isSome = true

theorem KeepsShapes.refl (g : StructuralGraph) : KeepsShapes g g := by
  intro j m m' hm hm' hs
  rw [hm] at hm'
  cases hm'
  exact hs

theorem Extends.methodNode?_back (h : g.Extends g') (hj : j < g.size) {m' : MethodNode}
    (hm' : g'.methodNode? j = some m') : ∃ m, g.methodNode? j = some m := by
  obtain ⟨r, hr⟩ := Option.isSome_iff_exists.mp (resource?_isSome_iff.mpr hj)
  cases r with
  | cls c =>
    obtain ⟨c', hc', -⟩ := h.classNode j c (classNode?_eq_some.mpr hr)
    rw [methodNode?_eq_some, classNode?_eq_some.mp hc'] at hm'
    cases hm'
  | method m => exact ⟨m, methodNode?_eq_some.mpr hr⟩
  | field f =>
    obtain ⟨f', hf', -⟩ := h.fieldNode j f (fieldNode?_eq_some.mpr hr)
    rw [methodNode?_eq_some, fieldNode?_eq_some.mp hf'] at hm'
    cases hm'

theorem KeepsShapes.trans (h₁ : KeepsShapes g g') (h₂ : KeepsShapes g' g'') (hext : g.Extends g') :
    KeepsShapes g g'' := by
  intro j m m'' hm hm'' hs
  obtain ⟨m', hm', -⟩ := hext.methodNode j m hm
  exact h₂ j m' m'' hm' hm'' (h₁ j m m' hm hm' hs)

theorem HasShapes.keep {cls : String} {ms : List MethodInfo} (h : g.HasShapes cls ms)
    (hext : g.Extends g') (hk : KeepsShapes g g') : g'.HasShapes cls ms := by
  intro mi hmi hcode
  obtain ⟨j, hj, hshape⟩ := h mi hmi hcode
  refine ⟨j, hext.get?_eq hj, fun m' hm' => ?_⟩
  obtain ⟨m, hm⟩ := hext.methodNode?_back (key_of_get? hj).1 hm'
  exact hk j m m' hm hm' (hshape m hm)

theorem HasShapes.append {cls : String} {ms ms' : List MethodInfo} (h : g.HasShapes cls ms)
    (h' : g.HasShapes cls ms') : g.HasShapes cls (ms ++ ms') := by
  intro mi hmi
  rcases List.mem_append.mp hmi with hmi | hmi
  · exact h mi hmi
  · exact h' mi hmi

theorem keepsShapes_of_nodes_eq (hn : g'.nodes = g.nodes) : KeepsShapes g g' := by
  intro j m m' hm hm' hs
  simp only [methodNode?, resource?, hn] at hm'
  rw [methodNode?, resource?] at hm
  rw [hm] at hm'
  cases hm'
  exact hs

theorem keepsShapes_push (r : Resource) : KeepsShapes g { g with nodes := g.nodes.push r } := by
  intro j m m' hm hm' hs
  have hj : j ≠ g.size := Nat.ne_of_lt (lt_size_of_resource? (methodNode?_eq_some.mp hm))
  rw [methodNode?_push, if_neg hj, hm] at hm'
  cases hm'
  exact hs

theorem keepsShapes_modifyClass {i : Nat} (f : ClassNode → ClassNode) :
    KeepsShapes g (g.modifyClass i f) := by
  intro j m m' hm hm' hs
  rw [methodNode?_modifyClass, hm] at hm'
  cases hm'
  exact hs

theorem keepsShapes_modifyMethod {i : Nat} {u : MethodNode → MethodNode}
    (hkeep : ∀ m, m.shape.isSome = true → (u m).shape.isSome = true) :
    KeepsShapes g (g.modifyMethod i u) := by
  intro j m m' hm hm' hs
  rw [methodNode?_modifyMethod, hm] at hm'
  split at hm'
  · cases hm'
    exact hkeep m hs
  · cases hm'
    exact hs

theorem keepsShapes_modifyField {i : Nat} (v : FieldNode → FieldNode) :
    KeepsShapes g (g.modifyField i v) := by
  intro j m m' hm hm' hs
  rw [methodNode?_modifyField, hm] at hm'
  cases hm'
  exact hs

theorem keepsShapes_addResource (r : Resource) : KeepsShapes g (g.addResource r).1 := by
  cases hk : g.get? r.key with
  | some i =>
    rw [addResource_of_get?_eq_some hk]
    exact KeepsShapes.refl g
  | none =>
    cases r with
    | cls c =>
      rw [addResource_cls hk]
      exact keepsShapes_push _
    | method m =>
      rw [addResource_method hk]
      exact (keepsShapes_push _).trans (keepsShapes_modifyClass _) (extends_push _)
    | field f =>
      rw [addResource_field hk]
      exact (keepsShapes_push _).trans (keepsShapes_modifyClass _) (extends_push _)

theorem keepsShapes_declareMethod (owner : Nat) (cls : String) (mi : MethodInfo) :
    KeepsShapes g (g.declareMethod owner cls mi) := by
  unfold declareMethod
  dsimp only
  split
  · refine keepsShapes_modifyMethod fun m hs => ?_
    dsimp only
    split <;> simp_all
  · exact keepsShapes_addResource _

theorem get?_addResource_of_fresh {r : Resource} (hk : g.get? r.key = none) :
    (g.addResource r).1.get? r.key = some g.size ∧ (g.addResource r).2 = g.size := by
  have hidx : (g.addResource r).2 = g.size := by
    cases r <;> simp [addResource, Resource.key, hk] at hk ⊢
  obtain ⟨hlt, hkey⟩ := addResource_key (g := g) r
  rw [hidx] at hlt hkey
  refine ⟨get?_eq_some_iff.mpr ⟨hlt, hkey, fun j hj => ?_⟩, hidx⟩
  rw [(extends_addResource r).key_eq hj]
  exact get?_eq_none_iff.mp hk j hj

/-- A method declared with a body has a shape under its key. -/
theorem hasShapes_declareMethod (owner : Nat) (cls : String) (mi : MethodInfo) :
    (g.declareMethod owner cls mi).HasShapes cls [mi] := by
  intro mi' hmi' hcode
  rw [List.mem_singleton] at hmi'
  subst hmi'
  unfold declareMethod
  dsimp only
  split
  · rename_i j hj
    refine ⟨j, ?_, fun m hm => ?_⟩
    · apply Extends.get?_eq _ hj
      exact extends_modifyMethod fun _ => ⟨rfl, rfl, rfl, rfl⟩
    rw [methodNode?_modifyMethod, if_pos rfl] at hm
    obtain ⟨m₀, -, rfl⟩ := Option.map_eq_some_iff.mp hm
    simp [hcode]
  · rename_i hnone
    obtain ⟨hget, hidx⟩ := get?_addResource_of_fresh (r := .method ⟨Key.method cls mi'.name
      mi'.descriptor, owner, mi'.name, mi'.descriptor, mi'.access, true, mi'.hasCode,
      mi'.code.map (·.shape), []⟩) hnone
    refine ⟨g.size, hget, fun m hm => ?_⟩
    rw [addResource_method hnone, methodNode?_modifyClass, methodNode?_push, if_pos rfl] at hm
    cases hm
    simp [hcode]

/-- Declaring a file's members gives a shape to each of its methods with a body. -/
theorem hasShapes_declareMembers (owner : Nat) (cls : String) (file : ClassInfo) :
    (g.declareMembers owner cls file).HasShapes cls file.methods := by
  unfold declareMembers
  dsimp only
  -- each method gets its shape when declared, and the methods after it keep it
  suffices h : ∀ (ms : List MethodInfo) (g₀ : StructuralGraph),
      (ms.foldl (fun g m => g.declareMethod owner cls m) g₀).HasShapes cls ms from h _ _
  intro ms
  induction ms with
  | nil => exact fun _ mi hmi => absurd hmi List.not_mem_nil
  | cons mi ms ih =>
    intro g₀
    have hrest : ∀ g₁ : StructuralGraph, g₁.Extends (ms.foldl (fun g m => g.declareMethod owner cls m) g₁) ∧
        KeepsShapes g₁ (ms.foldl (fun g m => g.declareMethod owner cls m) g₁) := by
      clear ih g₀
      induction ms with
      | nil => exact fun g₁ => ⟨Extends.refl _, KeepsShapes.refl _⟩
      | cons mi' ms ih =>
        intro g₁
        obtain ⟨hext, hk⟩ := ih (g₁.declareMethod owner cls mi')
        exact ⟨(extends_declareMethod owner cls mi').trans hext,
          (keepsShapes_declareMethod owner cls mi').trans hk (extends_declareMethod owner cls mi')⟩
    rw [List.foldl_cons]
    obtain ⟨hext, hk⟩ := hrest (g₀.declareMethod owner cls mi)
    exact ((hasShapes_declareMethod owner cls mi).keep hext hk).append (ih _)

/-! ### The policy, step by step -/

section Steps

variable {A : String → Bool} {source : ClassSource} {P Q : Nat → Prop}

namespace LevelsFollowBut

theorem keep (h : g.LevelsFollowBut A source P) (hext : g.Extends g') (hk : KeepsShapes g g')
    (hclasses : ∀ j c', g'.classNode? j = some c' → LevelAllowed A c'.key c'.level)
    (hmethods : ∀ j m', g'.methodNode? j = some m' → m'.shape.isSome = true →
      ShapeFrom A source m'.key)
    (hlevel : ∀ j c', ¬ Q j → g'.classNode? j = some c' → c'.level = some .structureAndCalls →
      ∃ c, ¬ P j ∧ g.classNode? j = some c ∧ c.key = c'.key ∧ c.level = some .structureAndCalls) :
    g'.LevelsFollowBut A source Q where
  classes := hclasses
  methods := hmethods
  declared j c' hq hc' hlev' := by
    obtain ⟨c, hp, hc, hkey, hlev⟩ := hlevel j c' hq hc' hlev'
    rw [← hkey]
    exact fun bytes file hb hf => (h.declared j c hp hc hlev bytes file hb hf).keep hext hk

theorem mono (h : g.LevelsFollowBut A source P) (hPQ : ∀ j, P j → Q j) :
    g.LevelsFollowBut A source Q :=
  ⟨h.classes, h.methods, fun j c hq => h.declared j c (fun hp => hq (hPQ j hp))⟩

theorem settle {i : Nat} (h : g.LevelsFollowBut A source fun j => P j ∨ j = i)
    (hi : ¬ P i → ∀ c, g.classNode? i = some c → c.level = some .structureAndCalls →
      FileDeclared source g c.key) : g.LevelsFollowBut A source P := by
  refine ⟨h.classes, h.methods, fun j c hp hc hlev => ?_⟩
  by_cases hj : j = i
  · subst hj
    exact hi hp c hc hlev
  · exact h.declared j c (fun h' => h'.elim hp hj) hc hlev

theorem of_nodes_eq (h : g.LevelsFollowBut A source P) (hn : g'.nodes = g.nodes) :
    g'.LevelsFollowBut A source P := by
  have hcls : ∀ j, g'.classNode? j = g.classNode? j := fun j => by simp [classNode?, resource?, hn]
  have hmeth : ∀ j, g'.methodNode? j = g.methodNode? j := fun j => by
    simp [methodNode?, resource?, hn]
  refine h.keep (extends_of_nodes_eq hn) (keepsShapes_of_nodes_eq hn) (fun j c hc => ?_)
    (fun j m hm => ?_) (fun j c hp hc hlev => ⟨c, hp, (hcls j) ▸ hc, rfl, hlev⟩)
  · exact h.classes j c ((hcls j) ▸ hc)
  · exact h.methods j m ((hmeth j) ▸ hm)

/-- A new node at the end is allowed when it is; a class there is pending. -/
theorem push (h : g.LevelsFollowBut A source P) {r : Resource} (hr : NodeAllowed A source r) :
    ({ g with nodes := g.nodes.push r } : StructuralGraph).LevelsFollowBut A source
      fun j => P j ∨ j = g.size := by
  refine h.keep (extends_push r) (keepsShapes_push r) (fun j c hc => ?_) (fun j m hm => ?_)
    (fun j c hq hc hlev => ?_)
  · rw [classNode?_push] at hc
    split at hc
    · cases r with
      | cls c₀ => cases hc; exact hr
      | method _ => cases hc
      | field _ => cases hc
    · exact h.classes j c hc
  · rw [methodNode?_push] at hm
    split at hm
    · cases r with
      | cls _ => cases hm
      | method m₀ => cases hm; exact hr
      | field _ => cases hm
    · exact h.methods j m hm
  · have hj : j ≠ g.size := fun hj => hq (Or.inr hj)
    rw [classNode?_push, if_neg hj] at hc
    exact ⟨c, fun hp => hq (Or.inl hp), hc, rfl, hlev⟩

theorem modifyClass_level (h : g.LevelsFollowBut A source P) {i : Nat} {f : ClassNode → ClassNode}
    (hf : ∀ c, (f c).key = c.key ∧ (f c).level = c.level) :
    (g.modifyClass i f).LevelsFollowBut A source P := by
  refine h.keep (extends_modifyClass fun c _ => ⟨(hf c).1, (hf c).2 ▸ LevelRises.refl _⟩)
    (keepsShapes_modifyClass f) (fun j c hc => ?_) (fun j m hm => ?_) (fun j c hq hc hlev => ?_)
  · rw [classNode?_modifyClass] at hc
    split at hc
    · obtain ⟨c₀, hc₀, rfl⟩ := Option.map_eq_some_iff.mp hc
      rw [(hf c₀).1, (hf c₀).2]
      exact h.classes j c₀ hc₀
    · exact h.classes j c hc
  · rw [methodNode?_modifyClass] at hm
    exact h.methods j m hm
  · rw [classNode?_modifyClass] at hc
    split at hc
    · obtain ⟨c₀, hc₀, rfl⟩ := Option.map_eq_some_iff.mp hc
      exact ⟨c₀, hq, hc₀, (hf c₀).1.symm, (hf c₀).2 ▸ hlev⟩
    · exact ⟨c, hq, hc, rfl, hlev⟩

/-- Raising a class to an allowed level; the class is pending. -/
theorem raise (h : g.LevelsFollowBut A source P) {i : Nat} {f : ClassNode → ClassNode}
    (hf : ∀ c, g.classNode? i = some c → (f c).key = c.key ∧ LevelRises c.level (f c).level ∧
      LevelAllowed A c.key (f c).level) :
    (g.modifyClass i f).LevelsFollowBut A source fun j => P j ∨ j = i := by
  refine h.keep (extends_modifyClass fun c hc => ⟨(hf c hc).1, (hf c hc).2.1⟩)
    (keepsShapes_modifyClass f) (fun j c hc => ?_) (fun j m hm => ?_) (fun j c hq hc hlev => ?_)
  · rw [classNode?_modifyClass] at hc
    split at hc
    · rename_i hij
      subst hij
      obtain ⟨c₀, hc₀, rfl⟩ := Option.map_eq_some_iff.mp hc
      rw [(hf c₀ hc₀).1]
      exact (hf c₀ hc₀).2.2
    · exact h.classes j c hc
  · rw [methodNode?_modifyClass] at hm
    exact h.methods j m hm
  · have hij : i ≠ j := fun hij => hq (Or.inr hij.symm)
    rw [classNode?_modifyClass, if_neg hij] at hc
    exact ⟨c, fun hp => hq (Or.inl hp), hc, rfl, hlev⟩

/-- Changing a method but not its key, keeping any shape it has and giving one only as the
policy allows. -/
theorem modifyMethod (h : g.LevelsFollowBut A source P) {i : Nat} {u : MethodNode → MethodNode}
    (hu : ∀ m, (u m).key = m.key ∧ (u m).owner = m.owner ∧ (u m).name = m.name ∧
      (u m).descriptor = m.descriptor)
    (hkeep : ∀ m, m.shape.isSome = true → (u m).shape.isSome = true)
    (hshape : ∀ m, g.methodNode? i = some m → (u m).shape.isSome = true →
      m.shape.isSome = true ∨ ShapeFrom A source m.key) :
    (g.modifyMethod i u).LevelsFollowBut A source P := by
  refine h.keep (extends_modifyMethod hu) (keepsShapes_modifyMethod hkeep) (fun j c hc => ?_)
    (fun j m hm hs => ?_) (fun j c hq hc hlev => ?_)
  · rw [classNode?_modifyMethod] at hc
    exact h.classes j c hc
  · rw [methodNode?_modifyMethod] at hm
    split at hm
    · rename_i hij
      subst hij
      obtain ⟨m₀, hm₀, rfl⟩ := Option.map_eq_some_iff.mp hm
      rw [(hu m₀).1]
      rcases hshape m₀ hm₀ hs with hs₀ | hfrom
      · exact h.methods i m₀ hm₀ hs₀
      · exact hfrom
    · exact h.methods j m hm hs
  · rw [classNode?_modifyMethod] at hc
    exact ⟨c, hq, hc, rfl, hlev⟩

theorem modifyField (h : g.LevelsFollowBut A source P) {i : Nat} {v : FieldNode → FieldNode}
    (hv : ∀ f, (v f).key = f.key ∧ (v f).owner = f.owner ∧ (v f).name = f.name) :
    (g.modifyField i v).LevelsFollowBut A source P := by
  refine h.keep (extends_modifyField hv) (keepsShapes_modifyField v) (fun j c hc => ?_)
    (fun j m hm => ?_) (fun j c hq hc hlev => ?_)
  · rw [classNode?_modifyField] at hc
    exact h.classes j c hc
  · rw [methodNode?_modifyField] at hm
    exact h.methods j m hm
  · rw [classNode?_modifyField] at hc
    exact ⟨c, hq, hc, rfl, hlev⟩

/-- Adding an allowed resource; the node returned is pending. -/
theorem addResource (h : g.LevelsFollowBut A source P) {r : Resource}
    (hr : NodeAllowed A source r) :
    (g.addResource r).1.LevelsFollowBut A source fun j => P j ∨ j = (g.addResource r).2 := by
  cases hk : g.get? r.key with
  | some i =>
    rw [addResource_of_get?_eq_some hk]
    exact h.mono fun _ => Or.inl
  | none =>
    have hpush := h.push hr
    cases r with
    | cls c =>
      rw [addResource_cls hk]
      exact hpush
    | method m =>
      rw [addResource_method hk]
      exact hpush.modifyClass_level fun _ => ⟨rfl, rfl⟩
    | field f =>
      rw [addResource_field hk]
      exact hpush.modifyClass_level fun _ => ⟨rfl, rfl⟩

/-- Adding an allowed resource that is no class with bodies. -/
theorem addResource_settled (h : g.LevelsFollowBut A source P) {r : Resource}
    (hr : NodeAllowed A source r) (hnot : ∀ c, r = .cls c → c.level ≠ some .structureAndCalls) :
    (g.addResource r).1.LevelsFollowBut A source P := by
  refine (h.addResource hr).settle fun hp c hc hlev => ?_
  cases hk : g.get? r.key with
  | some i =>
    rw [addResource_of_get?_eq_some hk] at hc hp ⊢
    exact h.declared i c hp hc hlev
  | none =>
    -- the new node is the resource itself, or a member that is no class
    cases r with
    | cls c₀ =>
      rw [classNode?_addResource_cls hk] at hc
      cases hc
      exact absurd hlev (hnot c rfl)
    | method m =>
      rw [addResource_method hk, classNode?_modifyClass] at hc
      simp [classNode?_push] at hc
    | field f =>
      rw [addResource_field hk, classNode?_modifyClass] at hc
      simp [classNode?_push] at hc

theorem declareField (h : g.LevelsFollowBut A source P) (owner : Nat) (cls : String)
    (fi : FieldInfo) : (g.declareField owner cls fi).LevelsFollowBut A source P := by
  unfold StructuralGraph.declareField
  dsimp only
  split
  · exact h.modifyField fun _ => ⟨rfl, rfl, rfl⟩
  · exact h.addResource_settled trivial fun _ h => by cases h

/-- Declaring a method gives it a shape only from a body the policy allows. -/
theorem declareMethod (h : g.LevelsFollowBut A source P) (owner : Nat) (cls : String)
    (mi : MethodInfo)
    (hcode : mi.code.isSome = true → ShapeFrom A source (Key.method cls mi.name mi.descriptor)) :
    (g.declareMethod owner cls mi).LevelsFollowBut A source P := by
  unfold StructuralGraph.declareMethod
  dsimp only
  split
  · rename_i j hj
    refine h.modifyMethod (fun _ => ⟨rfl, rfl, rfl, rfl⟩) (fun m hs => ?_) (fun m hm hs => ?_)
    · dsimp only
      split <;> simp_all
    · -- the node found has the method's key; its shape is the body's or the one it had
      have hkey : m.key = Key.method cls mi.name mi.descriptor := by
        have hk := key_of_resource? (methodNode?_eq_some.mp hm)
        rw [(key_of_get? hj).2] at hk
        exact hk.symm
      by_cases hc : mi.code.isSome = true
      · exact Or.inr (hkey ▸ hcode hc)
      · left
        simpa [hc] using hs
  · exact h.addResource_settled (fun hs => hcode (by simpa using hs)) fun _ h => by cases h

/-- Declaring the members of a file whose bodies the policy allows. -/
theorem declareMembers (h : g.LevelsFollowBut A source P) (owner : Nat) (cls : String)
    (file : ClassInfo) (hcode : ∀ mi ∈ file.methods, mi.code.isSome = true →
      ShapeFrom A source (Key.method cls mi.name mi.descriptor)) :
    (g.declareMembers owner cls file).LevelsFollowBut A source P := by
  unfold StructuralGraph.declareMembers
  dsimp only
  have hfields : ∀ (fs : List FieldInfo) (g₀ : StructuralGraph), g₀.LevelsFollowBut A source P →
      (fs.foldl (fun g f => g.declareField owner cls f) g₀).LevelsFollowBut A source P := by
    intro fs
    induction fs with
    | nil => exact fun _ h => h
    | cons fi fs ih => exact fun g₀ h₀ => ih _ (h₀.declareField owner cls fi)
  have hmethods : ∀ (ms : List MethodInfo), (∀ mi ∈ ms, mi.code.isSome = true →
      ShapeFrom A source (Key.method cls mi.name mi.descriptor)) → ∀ g₀ : StructuralGraph,
      g₀.LevelsFollowBut A source P →
      (ms.foldl (fun g m => g.declareMethod owner cls m) g₀).LevelsFollowBut A source P := by
    intro ms
    induction ms with
    | nil => exact fun _ _ h => h
    | cons mi ms ih =>
      intro hms g₀ h₀
      exact ih (fun mi' hmi' => hms mi' (List.mem_cons_of_mem _ hmi')) _
        (h₀.declareMethod owner cls mi (hms mi (List.mem_cons_self ..)))
  exact hmethods _ hcode _ (hfields _ g h)

/-- A pending class declares the members of a file the policy allows for it: it is then settled,
the file being read with bodies only when it is what the source's bytes for the class read to. -/
theorem declareFile {i : Nat} {name : String} {file : ClassInfo}
    (h : g.LevelsFollowBut A source fun j => P j ∨ j = i) (hi : i < g.size) (hkey : g.key i = name)
    (hlevel : ∀ c, g.classNode? i = some c → c.level = some file.level)
    (hf : FileAllowed A source name file) :
    (g.declareMembers i name file).LevelsFollowBut A source P := by
  cases hl : file.level with
  | structureOnly =>
    -- a class without bodies has nothing to declare before it is settled
    refine (h.settle fun _ c hc hlev => ?_).declareMembers i name file hf.code
    rw [hlevel c hc, hl] at hlev
    cases hlev
  | structureAndCalls =>
    refine (h.declareMembers i name file hf.code).settle fun _ c hc _ => ?_
    have hext := extends_declareMembers (g := g) i name file
    have hck : c.key = name := by
      rw [← hkey, ← hext.key_eq hi]
      exact (key_of_resource? (classNode?_eq_some.mp hc)).symm
    obtain ⟨bytes, hb, hd⟩ := hf.bodies hl
    intro bytes' file' hb' hd'
    rw [hck, hb] at hb'
    cases hb'
    rw [hd] at hd'
    cases hd'
    rw [hck]
    exact hasShapes_declareMembers i name file

theorem escalate (h : g.LevelsFollowBut A source P) {i : Nat} {name : String} {file : ClassInfo}
    (hi : i < g.size) (hkey : g.key i = name)
    (hrise : ∀ c, g.classNode? i = some c → LevelRises c.level (some file.level))
    (hf : FileAllowed A source name file) :
    ((g.modifyClass i fun c => { c with level := some file.level }).declareMembers i name
      file).LevelsFollowBut A source P := by
  have hck : ∀ c, g.classNode? i = some c → c.key = name := fun c hc => by
    rw [← hkey]
    exact (key_of_resource? (classNode?_eq_some.mp hc)).symm
  have hkey' : (g.modifyClass i fun c => { c with level := some file.level }).key i = name := by
    rw [key_modifyClass (f := fun c => { c with level := some file.level }) fun _ => rfl]
    exact hkey
  refine (h.raise (f := fun c => { c with level := some file.level }) fun c hc =>
    ⟨rfl, hrise c hc, (hck c hc) ▸ hf.level⟩).declareFile (by simpa using hi) hkey'
    (fun c hc => ?_) hf
  rw [classNode?_modifyClass, if_pos rfl] at hc
  obtain ⟨c₀, -, rfl⟩ := Option.map_eq_some_iff.mp hc
  rfl

theorem insert (h : g.LevelsFollowBut A source P) {name : String} {access : Nat}
    {file : ClassInfo} (hfresh : g.get? name = none) (hf : FileAllowed A source name file) :
    ((g.addResource (.cls ⟨name, access, some file.level, none, [], [], []⟩)).1.declareMembers
      (g.addResource (.cls ⟨name, access, some file.level, none, [], [], []⟩)).2 name
      file).LevelsFollowBut A source P := by
  obtain ⟨hlt, hkey⟩ := addResource_key (g := g) (.cls ⟨name, access, some file.level, none, [], [], []⟩)
  refine (h.addResource (r := .cls ⟨name, access, some file.level, none, [], [], []⟩)
    hf.level).declareFile hlt hkey (fun c hc => ?_) hf
  rw [classNode?_addResource_cls hfresh] at hc
  cases hc
  rfl

end LevelsFollowBut

end Steps

end StructuralGraph

end ClassMetrics
