import ClassMetrics.Proofs.Build.Accounting

/-!
What a build's graph holds of its source, node by node. The classes it loads are the classes to
analyse, the class each place of their files names, and the supertypes of every class it loads
that can be read; each is read from its bytes at its level, with its access and its supertypes,
or is a placeholder for bytes that do not read. A declared member is one of its class's file,
with the content the file gives it, and each member of a file read has such a node. A member that
is not declared was made for a place of a file analysed. This module states these facts of a
graph and shows that each change of the graph a load makes keeps them.
-/

namespace ClassMetrics

open ClassFile StructuralGraph

/-! ### The classes a build loads -/

/-- The class a place names: the class of a type, the owner of a member. -/
def Site.className : Site → String
  | .type n => n
  | .method m _ => m.owner
  | .field m _ => m.owner

/-- A place of a class file: of one of its fields, of one of its methods, or of its own
signature. -/
def ClassFile.ClassInfo.HasSite (file : ClassInfo) (σ : Site) : Prop :=
  (∃ f ∈ file.fields, ∃ σs, f.sites = .ok σs ∧ σ ∈ σs) ∨
    (∃ m ∈ file.methods, ∃ σs, m.sites = .ok σs ∧ σ ∈ σs) ∨
    ∃ σs, file.signatureSites = .ok σs ∧ σ ∈ σs

namespace ClassSource

variable (S : ClassSource) (A : String → Bool)

/-- The bytes of class `n` read at a level to a file. -/
def Reads (n : String) (l : DetailLevel) (file : ClassInfo) : Prop :=
  ∃ bytes, S.resolve n = some bytes ∧ ClassInfo.decode bytes l = .ok file

/-- A place of the file, read with bodies, of a class to analyse. -/
def AnalysedSite (σ : Site) : Prop :=
  ∃ n file, A n = true ∧ S.Reads n .structureAndCalls file ∧ file.HasSite σ

/-- The classes a build of the classes `A` loads: each class to analyse, the class each place of
their files names, and the superclass and interfaces of every class loaded whose bytes read. -/
inductive Loads : String → Prop
  | analysed {n : String} : A n = true → Loads n
  | named {σ : Site} : S.AnalysedSite A σ → Loads σ.className
  | supertype {n t : String} {file : ClassInfo} : Loads n → S.Reads n .structureOnly file →
      (file.superClass = some t ∨ t ∈ file.interfaces) → Loads t

variable {S} {n : String} {l l' : DetailLevel} {file file' : ClassInfo}

theorem Reads.level (h : S.Reads n l file) : file.level = l := by
  obtain ⟨_, -, hd⟩ := h
  exact ClassInfo.decode_level hd

theorem Reads.unique (h : S.Reads n l file) (h' : S.Reads n l file') : file' = file := by
  obtain ⟨b, hb, hd⟩ := h
  obtain ⟨b', hb', hd'⟩ := h'
  rw [hb] at hb'
  cases hb'
  rw [hd] at hd'
  cases hd'
  rfl

theorem Reads.withoutCode (h : S.Reads n .structureAndCalls file) :
    S.Reads n .structureOnly file.withoutCode := by
  obtain ⟨b, hb, hd⟩ := h
  exact ⟨b, hb, ClassInfo.decode_withoutCode hd⟩

theorem Reads.toStructure (h : S.Reads n l file) : ∃ file', S.Reads n .structureOnly file' ∧
    file'.access = file.access ∧ file'.superClass = file.superClass ∧
    file'.interfaces = file.interfaces := by
  cases l with
  | structureOnly => exact ⟨file, h, rfl, rfl, rfl⟩
  | structureAndCalls => exact ⟨file.withoutCode, h.withoutCode, rfl, rfl, rfl⟩

end ClassSource

/-! ### The nodes a file and a use give -/

/-- The node of a method that a class file declares, on the class's node `owner`, with the
shape of its body when the body was read. -/
def ClassFile.MethodInfo.node (mi : MethodInfo) (owner : Nat) (cls : String) : MethodNode :=
  { methodNodeOf owner cls mi with shape := mi.code.map (·.shape) }

/-- The method a reference makes on its owner's node, when its owner's hierarchy declares none
of its name and descriptor. -/
def ClassFile.MemberRef.usedMethod (r : MemberRef) (owner : Nat) (isStatic : Bool) : MethodNode :=
  ⟨Key.method r.owner r.name r.descriptor, owner, r.name, r.descriptor, useAccess isStatic, false,
    false, none, []⟩

/-- The field a reference makes on its owner's node, when its owner's hierarchy declares none of
its name. -/
def ClassFile.MemberRef.usedField (r : MemberRef) (owner : Nat) (isStatic : Bool) : FieldNode :=
  ⟨Key.field r.owner r.name, owner, r.name, r.descriptor, useAccess isStatic, false⟩

/-- The supertypes of a class node are those its file names, by key: the superclass unless it is
the class itself, and the interfaces but the class itself, the first of each. -/
def ClassNode.SupertypesOf (g : StructuralGraph) (c : ClassNode) (file : ClassInfo) : Prop :=
  c.superClass.map g.key = file.superClass.filter (· != c.key) ∧
    c.interfaces.map g.key = firstOfEach (file.interfaces.filter (· != c.key))

theorem MethodNode.redeclare_methodNodeOf (owner : Nat) (cls : String) (mi : MethodInfo) :
    MethodNode.redeclare mi (methodNodeOf owner cls mi) = mi.node owner cls := by
  unfold MethodNode.redeclare ClassFile.MethodInfo.node methodNodeOf
  cases mi.code <;> rfl

theorem MethodNode.redeclare_node_withoutCode (owner : Nat) (cls : String) (mi : MethodInfo) :
    MethodNode.redeclare mi (mi.withoutCode.node owner cls) = mi.node owner cls := by
  unfold MethodNode.redeclare ClassFile.MethodInfo.node methodNodeOf MethodInfo.withoutCode
  cases mi.code <;> rfl

theorem FieldNode.redeclare_fieldNodeOf (owner : Nat) (cls : String) (fi : FieldInfo) :
    FieldNode.redeclare fi (fieldNodeOf owner cls fi) = fieldNodeOf owner cls fi := rfl

theorem redeclareBy_eq_of_nodup {α β : Type} {key : β → String} {keyOf : α → String}
    {update : α → β → β} (hkeep : ∀ a x, key (update a x) = key x) :
    ∀ {as : List α}, (as.map keyOf).Nodup → ∀ {a : α}, a ∈ as → ∀ {x : β}, keyOf a = key x →
      redeclareBy key keyOf update as x = update a x
  | [], _, _, ha, _, _ => absurd ha List.not_mem_nil
  | b :: bs, hnd, a, ha, x, hx => by
    rw [List.map_cons, List.nodup_cons] at hnd
    unfold redeclareBy
    rw [List.foldl_cons]
    rcases List.mem_cons.mp ha with rfl | ha
    · -- the update applies here and no later one is keyed alike
      rw [if_pos hx.symm]
      refine redeclareBy_of_forall_ne fun c hc hck => hnd.1 ?_
      rw [hkeep, ← hx] at hck
      exact hck ▸ List.mem_map_of_mem hc
    · have hb : key x ≠ keyOf b := fun h => hnd.1 (h ▸ hx ▸ List.mem_map_of_mem ha)
      rw [if_neg hb]
      exact redeclareBy_eq_of_nodup hkeep hnd.2 ha hx

/-! ### Faithful graphs -/

namespace StructuralGraph

variable (S : ClassSource) (A : String → Bool) (U : Nat → Site → Prop)

/-- Each member of class `cls`'s file has a node under its key, on node `j`, with the content the
file gives it. -/
def DeclaresNodes (g : StructuralGraph) (j : Nat) (cls : String) (file : ClassInfo) : Prop :=
  (∀ mi ∈ file.methods, ∃ k, g.get? (Key.method cls mi.name mi.descriptor) = some k ∧
      g.methodNode? k = some (mi.node j cls)) ∧
    ∀ fi ∈ file.fields, ∃ k, g.get? (Key.field cls fi.name) = some k ∧
      g.fieldNode? k = some (fieldNodeOf j cls fi)

/-- What class node `j` holds of the source: a class the build loads; a placeholder with no
access and no supertypes when its bytes do not read; otherwise read at its level to a file that
gives its access, its supertypes unless it is `pending`, and a node for each of its members. -/
def ClassFaithful (pending : Prop) (g : StructuralGraph) (j : Nat) (c : ClassNode) : Prop :=
  S.Loads A c.key ∧
    (c.level = none → c.access = 0 ∧ c.superClass = none ∧ c.interfaces = [] ∧
      ∀ file, ¬ S.Reads c.key .structureOnly file) ∧
    ∀ l, c.level = some l → ∃ file, S.Reads c.key l file ∧ c.access = file.access ∧
      (¬ pending → c.SupertypesOf g file) ∧ g.DeclaresNodes j c.key file

/-- A declared method is one of the file of its class, read at the class's level. -/
def MethodFaithful (g : StructuralGraph) (m : MethodNode) : Prop :=
  m.declared = true → ∃ c l file mi, g.classNode? m.owner = some c ∧ c.level = some l ∧
    S.Reads c.key l file ∧ mi ∈ file.methods ∧ m = mi.node m.owner c.key

/-- A declared field is one of the file of its class, read at the class's level. -/
def FieldFaithful (g : StructuralGraph) (f : FieldNode) : Prop :=
  f.declared = true → ∃ c l file fi, g.classNode? f.owner = some c ∧ c.level = some l ∧
    S.Reads c.key l file ∧ fi ∈ file.fields ∧ f = fieldNodeOf f.owner c.key fi

/-- A method not declared was made, as node `j`, for a reference of a place that `U j` allows. -/
def MethodUsed (U : Nat → Site → Prop) (j : Nat) (m : MethodNode) : Prop :=
  m.declared = false → ∃ r isStatic, U j (.method r isStatic) ∧ m = r.usedMethod m.owner isStatic

/-- A field not declared was made, as node `j`, for a reference of a place that `U j` allows. -/
def FieldUsed (U : Nat → Site → Prop) (j : Nat) (f : FieldNode) : Prop :=
  f.declared = false → ∃ r isStatic, U j (.field r isStatic) ∧ f = r.usedField f.owner isStatic

/-- What a graph holds of the source `S` in a build of the classes `A`, but for the supertypes of
the pending classes `P`: the members not declared were made for places that `U` allows. -/
structure Faithful (U : Nat → Site → Prop) (P : Nat → Prop) (g : StructuralGraph) : Prop where
  classes : ∀ j c, g.classNode? j = some c → ClassFaithful S A (P j) g j c
  methods : ∀ j m, g.methodNode? j = some m → MethodFaithful S g m
  fields : ∀ j f, g.fieldNode? j = some f → FieldFaithful S g f
  usedMethods : ∀ j m, g.methodNode? j = some m → MethodUsed U j m
  usedFields : ∀ j f, g.fieldNode? j = some f → FieldUsed U j f

variable {S A U}

/-- `g'` keeps every node of `g`: each class but for its lists of members, each member as it
is. -/
structure KeepsNodes (g g' : StructuralGraph) : Prop where
  size_le : g.size ≤ g'.size
  classNode : ∀ j c, g.classNode? j = some c → ∃ c', g'.classNode? j = some c' ∧ c'.key = c.key ∧
    c'.access = c.access ∧ c'.level = c.level ∧ c'.superClass = c.superClass ∧
    c'.interfaces = c.interfaces
  methodNode : ∀ j m, g.methodNode? j = some m → g'.methodNode? j = some m
  fieldNode : ∀ j f, g.fieldNode? j = some f → g'.fieldNode? j = some f

namespace KeepsNodes

variable {g g' g'' : StructuralGraph}

theorem refl (g : StructuralGraph) : KeepsNodes g g :=
  ⟨Nat.le_refl _, fun _ c h => ⟨c, h, rfl, rfl, rfl, rfl, rfl⟩, fun _ _ h => h, fun _ _ h => h⟩

theorem trans (h₁ : KeepsNodes g g') (h₂ : KeepsNodes g' g'') : KeepsNodes g g'' := by
  refine ⟨Nat.le_trans h₁.size_le h₂.size_le, fun j c hc => ?_, fun j m hm => h₂.methodNode j m
    (h₁.methodNode j m hm), fun j f hf => h₂.fieldNode j f (h₁.fieldNode j f hf)⟩
  obtain ⟨c', hc', hk, ha, hl, hs, hi⟩ := h₁.classNode j c hc
  obtain ⟨c'', hc'', hk', ha', hl', hs', hi'⟩ := h₂.classNode j c' hc'
  exact ⟨c'', hc'', hk'.trans hk, ha'.trans ha, hl'.trans hl, hs'.trans hs, hi'.trans hi⟩

theorem of_nodes_eq (h : g'.nodes = g.nodes) : KeepsNodes g g' := by
  have hr : ∀ j, g'.resource? j = g.resource? j := fun j => by simp [resource?, h]
  refine ⟨by simp [size, h], fun j c hc => ⟨c, ?_, rfl, rfl, rfl, rfl, rfl⟩, fun j m hm => ?_,
    fun j f hf => ?_⟩
  · simpa [classNode?, hr] using hc
  · simpa [methodNode?, hr] using hm
  · simpa [fieldNode?, hr] using hf

theorem toExtends (h : KeepsNodes g g') : g.Extends g' where
  size_le := h.size_le
  classNode j c hc := by
    obtain ⟨c', hc', hk, -, hl, -⟩ := h.classNode j c hc
    exact ⟨c', hc', hk, hl ▸ LevelRises.refl _⟩
  methodNode j m hm := ⟨m, h.methodNode j m hm, rfl, rfl, rfl, rfl⟩
  fieldNode j f hf := ⟨f, h.fieldNode j f hf, rfl, rfl, rfl⟩

theorem push (r : Resource) : KeepsNodes g { g with nodes := g.nodes.push r } := by
  refine ⟨by simp, fun j c hc => ⟨c, ?_, rfl, rfl, rfl, rfl, rfl⟩, fun j m hm => ?_, fun j f hf => ?_⟩
  · rw [classNode?_push, if_neg (Nat.ne_of_lt (lt_size_of_resource? (classNode?_eq_some.mp hc)))]
    exact hc
  · rw [methodNode?_push, if_neg (Nat.ne_of_lt (lt_size_of_resource? (methodNode?_eq_some.mp hm)))]
    exact hm
  · rw [fieldNode?_push, if_neg (Nat.ne_of_lt (lt_size_of_resource? (fieldNode?_eq_some.mp hf)))]
    exact hf

theorem modifyClass {i : Nat} {f : ClassNode → ClassNode}
    (hf : ∀ c, (f c).key = c.key ∧ (f c).access = c.access ∧ (f c).level = c.level ∧
      (f c).superClass = c.superClass ∧ (f c).interfaces = c.interfaces) :
    KeepsNodes g (g.modifyClass i f) := by
  refine ⟨by simp, fun j c hc => ?_, fun j m hm => by simpa using hm, fun j x hx => by simpa using hx⟩
  rw [classNode?_modifyClass]
  split
  · exact ⟨f c, by rw [hc]; rfl, hf c⟩
  · exact ⟨c, hc, rfl, rfl, rfl, rfl, rfl⟩

theorem addResource (r : Resource) : KeepsNodes g (g.addResource r).1 := by
  cases hk : g.get? r.key with
  | some i => rw [addResource_of_get?_eq_some hk]; exact refl g
  | none =>
    cases r with
    | cls c => rw [addResource_cls hk]; exact push _
    | method m =>
      rw [addResource_method hk]
      exact (push _).trans (modifyClass fun _ => ⟨rfl, rfl, rfl, rfl, rfl⟩)
    | field f =>
      rw [addResource_field hk]
      exact (push _).trans (modifyClass fun _ => ⟨rfl, rfl, rfl, rfl, rfl⟩)

theorem addNodes (rs : List Resource) : KeepsNodes g (g.addNodes rs) := by
  induction rs generalizing g with
  | nil => exact refl g
  | cons r rs ih => exact (addResource r).trans ih

/-- Changing every node keeps the nodes the change leaves alone. -/
theorem mapNodes {g₀ : StructuralGraph} {τ : NodeMap} (h : KeepsNodes g₀ g)
    (hfix : ∀ j r, j < g₀.size → g.resource? j = some r → τ.apply r = r) :
    KeepsNodes g₀ (g.mapNodes τ) := by
  have hr : ∀ j, j < g₀.size → (g.mapNodes τ).resource? j = g.resource? j := by
    intro j hj
    rw [resource?_mapNodes]
    cases hj' : g.resource? j with
    | none => rfl
    | some r => rw [Option.map_some, hfix j r hj hj']
  refine ⟨by simpa using h.size_le, fun j c hc => ?_, fun j m hm => ?_, fun j f hf => ?_⟩
  · obtain ⟨c', hc', hrest⟩ := h.classNode j c hc
    refine ⟨c', ?_, hrest⟩
    unfold classNode?
    rw [hr j (lt_size_of_resource? (classNode?_eq_some.mp hc))]
    exact hc'
  · unfold methodNode?
    rw [hr j (lt_size_of_resource? (methodNode?_eq_some.mp hm))]
    exact h.methodNode j m hm
  · unfold fieldNode?
    rw [hr j (lt_size_of_resource? (fieldNode?_eq_some.mp hf))]
    exact h.fieldNode j f hf

end KeepsNodes

section Keep

variable {g g' : StructuralGraph}

theorem methodNode?_mapNodes {τ : NodeMap} (j : Nat) :
    (g.mapNodes τ).methodNode? j = (g.methodNode? j).map τ.method := by
  unfold methodNode?
  rw [resource?_mapNodes]
  cases g.resource? j with
  | none => rfl
  | some r => cases r <;> rfl

theorem fieldNode?_mapNodes {τ : NodeMap} (j : Nat) :
    (g.mapNodes τ).fieldNode? j = (g.fieldNode? j).map τ.field := by
  unfold fieldNode?
  rw [resource?_mapNodes]
  cases g.resource? j with
  | none => rfl
  | some r => cases r <;> rfl

theorem DeclaresNodes.keep {j : Nat} {cls : String} {file : ClassInfo}
    (h : g.DeclaresNodes j cls file) (hk : KeepsNodes g g') : g'.DeclaresNodes j cls file := by
  refine ⟨fun mi hmi => ?_, fun fi hfi => ?_⟩
  · obtain ⟨k, hget, hm⟩ := h.1 mi hmi
    exact ⟨k, hk.toExtends.get?_eq hget, hk.methodNode k _ hm⟩
  · obtain ⟨k, hget, hf⟩ := h.2 fi hfi
    exact ⟨k, hk.toExtends.get?_eq hget, hk.fieldNode k _ hf⟩

theorem SupertypesOf.keep {c c' : ClassNode} {file : ClassInfo} (h : c.SupertypesOf g file)
    (hk : KeepsNodes g g') (hlt : ∀ s, (c.superClass = some s ∨ s ∈ c.interfaces) → s < g.size)
    (hkey : c'.key = c.key) (hsup : c'.superClass = c.superClass)
    (hifs : c'.interfaces = c.interfaces) : c'.SupertypesOf g' file := by
  refine ⟨?_, ?_⟩
  · rw [hsup, hkey, ← h.1]
    cases hs : c.superClass with
    | none => rfl
    | some s => simp [hk.toExtends.key_eq (hlt s (.inl hs))]
  · rw [hifs, hkey, ← h.2]
    exact List.map_congr_left fun s hs => hk.toExtends.key_eq (hlt s (.inr hs))

theorem ClassFaithful.keep {pending : Prop} {j : Nat} {c c' : ClassNode} (hg : g.WellFormed)
    (h : ClassFaithful S A pending g j c) (hk : KeepsNodes g g') (hc : g.classNode? j = some c)
    (hkey : c'.key = c.key) (hacc : c'.access = c.access) (hlev : c'.level = c.level)
    (hsup : c'.superClass = c.superClass) (hifs : c'.interfaces = c.interfaces) :
    ClassFaithful S A pending g' j c' := by
  obtain ⟨hloads, hnone, hsome⟩ := h
  refine ⟨hkey ▸ hloads, fun hl => ?_, fun l hl => ?_⟩
  · rw [hkey, hacc, hsup, hifs]
    exact hnone (hlev ▸ hl)
  · obtain ⟨file, hread, hfacc, hst, hdecl⟩ := hsome l (hlev ▸ hl)
    have hshape := hg.classShape j c hc
    refine ⟨file, hkey ▸ hread, hacc ▸ hfacc, fun hp => ?_, hkey ▸ hdecl.keep hk⟩
    refine SupertypesOf.keep (hst hp) hk (fun s hs => ?_) hkey hsup hifs
    rcases hs with hs | hs
    · exact (hshape.superClass_lt s hs).1
    · exact (hshape.interfaces_lt s hs).1

theorem MethodFaithful.keep {m : MethodNode} (h : MethodFaithful S g m) (hk : KeepsNodes g g') :
    MethodFaithful S g' m := by
  intro hdecl
  obtain ⟨c, l, file, mi, hc, hl, hread, hmi, hm⟩ := h hdecl
  obtain ⟨c', hc', hkey, -, hlev, -⟩ := hk.classNode _ c hc
  exact ⟨c', l, file, mi, hc', hlev.trans hl, hkey ▸ hread, hmi, hkey ▸ hm⟩

theorem FieldFaithful.keep {f : FieldNode} (h : FieldFaithful S g f) (hk : KeepsNodes g g') :
    FieldFaithful S g' f := by
  intro hdecl
  obtain ⟨c, l, file, fi, hc, hl, hread, hfi, hf⟩ := h hdecl
  obtain ⟨c', hc', hkey, -, hlev, -⟩ := hk.classNode _ c hc
  exact ⟨c', l, file, fi, hc', hlev.trans hl, hkey ▸ hread, hfi, hkey ▸ hf⟩

theorem classNode?_eq_none_of_methodNode? {j : Nat} {m : MethodNode}
    (h : g.methodNode? j = some m) : g.classNode? j = none := by
  simp [classNode?, methodNode?_eq_some.mp h]

theorem classNode?_eq_none_of_fieldNode? {j : Nat} {f : FieldNode}
    (h : g.fieldNode? j = some f) : g.classNode? j = none := by
  simp [classNode?, fieldNode?_eq_some.mp h]

theorem Faithful.mono {U' : Nat → Site → Prop} {P P' : Nat → Prop} (h : g.Faithful S A U P)
    (hU : ∀ j σ, U j σ → U' j σ) (hP : ∀ j, P j → P' j) : g.Faithful S A U' P' := by
  refine ⟨fun j c hc => ?_, h.methods, h.fields, fun j m hm hd => ?_, fun j f hf hd => ?_⟩
  · obtain ⟨hloads, hnone, hsome⟩ := h.classes j c hc
    exact ⟨hloads, hnone, fun l hl => (hsome l hl).imp fun _ ⟨h₁, h₂, h₃, h₄⟩ =>
      ⟨h₁, h₂, fun hp => h₃ fun hp' => hp (hP j hp'), h₄⟩⟩
  · obtain ⟨r, s, hr, hm'⟩ := h.usedMethods j m hm hd
    exact ⟨r, s, hU j _ hr, hm'⟩
  · obtain ⟨r, s, hr, hf'⟩ := h.usedFields j f hf hd
    exact ⟨r, s, hU j _ hr, hf'⟩

theorem Faithful.classKeysPlain {P : Nat → Prop} (h : g.Faithful S A U P)
    (hplain : ∀ n, S.Loads A n → Key.Plain n) : g.ClassKeysPlain := by
  intro j c hc
  rw [key_of_resource? (classNode?_eq_some.mp hc)]
  exact hplain _ (h.classes j c hc).1

theorem KeepsNodes.methodNode_old (hk : KeepsNodes g g') {j : Nat} (hj : j < g.size)
    {m : MethodNode} (hm : g'.methodNode? j = some m) : g.methodNode? j = some m := by
  obtain ⟨r, hr⟩ := Option.isSome_iff_exists.mp (resource?_isSome_iff.mpr hj)
  cases r with
  | method m₀ =>
    have hm₀ := methodNode?_eq_some.mpr hr
    rw [hk.methodNode j m₀ hm₀] at hm
    rw [hm₀, hm]
  | cls c =>
    obtain ⟨c', hc', -⟩ := hk.classNode j c (classNode?_eq_some.mpr hr)
    rw [classNode?_eq_none_of_methodNode? hm] at hc'
    cases hc'
  | field f =>
    have hf := hk.fieldNode j f (fieldNode?_eq_some.mpr hr)
    simp [methodNode?, fieldNode?_eq_some.mp hf] at hm

theorem KeepsNodes.fieldNode_old (hk : KeepsNodes g g') {j : Nat} (hj : j < g.size)
    {f : FieldNode} (hf : g'.fieldNode? j = some f) : g.fieldNode? j = some f := by
  obtain ⟨r, hr⟩ := Option.isSome_iff_exists.mp (resource?_isSome_iff.mpr hj)
  cases r with
  | field f₀ =>
    have hf₀ := fieldNode?_eq_some.mpr hr
    rw [hk.fieldNode j f₀ hf₀] at hf
    rw [hf₀, hf]
  | cls c =>
    obtain ⟨c', hc', -⟩ := hk.classNode j c (classNode?_eq_some.mpr hr)
    rw [classNode?_eq_none_of_fieldNode? hf] at hc'
    cases hc'
  | method m =>
    have hm := hk.methodNode j m (methodNode?_eq_some.mpr hr)
    simp [fieldNode?, methodNode?_eq_some.mp hm] at hf

/-- A graph that keeps the nodes of a faithful one is faithful when its new nodes are, and a node
pending before is still pending. -/
theorem Faithful.extend {P P' : Nat → Prop} (h : g.Faithful S A U P) (hg : g.WellFormed)
    (hk : KeepsNodes g g') (hP : ∀ j, j < g.size → P j → P' j)
    (hcls : ∀ j c, g.size ≤ j → g'.classNode? j = some c → ClassFaithful S A (P' j) g' j c)
    (hmeth : ∀ j m, g.size ≤ j → g'.methodNode? j = some m →
      MethodFaithful S g' m ∧ MethodUsed U j m)
    (hfld : ∀ j f, g.size ≤ j → g'.fieldNode? j = some f → FieldFaithful S g' f ∧ FieldUsed U j f) :
    g'.Faithful S A U P' := by
  refine ⟨fun j c' hc' => ?_, fun j m hm => ?_, fun j f hf => ?_, fun j m hm => ?_,
    fun j f hf => ?_⟩
  · by_cases hj : j < g.size
    · -- an old class keeps what it held
      obtain ⟨r, hr⟩ := Option.isSome_iff_exists.mp (resource?_isSome_iff.mpr hj)
      cases r with
      | cls c =>
        have hc := classNode?_eq_some.mpr hr
        obtain ⟨c'', hc'', hkey, hacc, hlev, hsup, hifs⟩ := hk.classNode j c hc
        rw [hc'] at hc''
        cases hc''
        have hkept := (h.classes j c hc).keep hg hk hc hkey hacc hlev hsup hifs
        exact ⟨hkept.1, hkept.2.1, fun l hl => (hkept.2.2 l hl).imp fun _ ⟨h₁, h₂, h₃, h₄⟩ =>
          ⟨h₁, h₂, fun hp => h₃ fun hp' => hp (hP j hj hp'), h₄⟩⟩
      | method m =>
        rw [classNode?_eq_none_of_methodNode? (hk.methodNode j m (methodNode?_eq_some.mpr hr))] at hc'
        cases hc'
      | field f =>
        rw [classNode?_eq_none_of_fieldNode? (hk.fieldNode j f (fieldNode?_eq_some.mpr hr))] at hc'
        cases hc'
    · exact hcls j c' (Nat.le_of_not_lt hj) hc'
  · by_cases hj : j < g.size
    · exact (h.methods j m (hk.methodNode_old hj hm)).keep hk
    · exact (hmeth j m (Nat.le_of_not_lt hj) hm).1
  · by_cases hj : j < g.size
    · exact (h.fields j f (hk.fieldNode_old hj hf)).keep hk
    · exact (hfld j f (Nat.le_of_not_lt hj) hf).1
  · by_cases hj : j < g.size
    · exact h.usedMethods j m (hk.methodNode_old hj hm)
    · exact (hmeth j m (Nat.le_of_not_lt hj) hm).2
  · by_cases hj : j < g.size
    · exact h.usedFields j f (hk.fieldNode_old hj hf)
    · exact (hfld j f (Nat.le_of_not_lt hj) hf).2

end Keep

/-! ### The nodes a class's declaration adds -/

section Declare

variable {g : StructuralGraph}

/-- A node that adding members makes holds one of them: a member, once added, stays as it is. -/
theorem mem_of_resource?_addNodes {rs : List Resource} (hrs : ∀ r ∈ rs, ∀ c, r ≠ .cls c)
    {j : Nat} {r : Resource} (hr : (g.addNodes rs).resource? j = some r) (hj : g.size ≤ j) :
    r ∈ rs := by
  induction rs generalizing g with
  | nil => exact absurd (lt_size_of_resource? hr) (Nat.not_lt_of_le hj)
  | cons r₀ rs ih =>
    have hrs' : ∀ r ∈ rs, ∀ c, r ≠ .cls c := fun r hr => hrs r (List.mem_cons_of_mem _ hr)
    by_cases hj₁ : (g.addResource r₀).1.size ≤ j
    · exact List.mem_cons_of_mem _ (ih hrs' hr hj₁)
    · -- the node `j` is the one `r₀` made, and later additions leave a member alone
      have hkeep : KeepsNodes (g.addResource r₀).1 ((g.addResource r₀).1.addNodes rs) :=
        KeepsNodes.addNodes rs
      cases hk : g.get? r₀.key with
      | some i =>
        rw [addResource_of_get?_eq_some hk] at hj₁
        exact absurd hj hj₁
      | none =>
        cases r₀ with
        | cls c => exact absurd rfl (hrs _ (List.mem_cons_self ..) c)
        | method m =>
          rw [addResource_method hk] at hj₁ hkeep
          have hjs : j = g.size := by simp at hj₁; omega
          have hm : (({ g with nodes := g.nodes.push (.method m) } : StructuralGraph).modifyClass
              m.owner fun c => { c with methods := c.methods ++ [g.size] }).methodNode? j =
                some m := by
            rw [methodNode?_modifyClass, methodNode?_push, if_pos hjs]
          have hr' := hkeep.methodNode j m hm
          change (((g.addResource (.method m)).1).addNodes rs).resource? j = some r at hr
          rw [addResource_method hk, methodNode?_eq_some.mp hr'] at hr
          cases hr
          exact List.mem_cons_self ..
        | field f =>
          rw [addResource_field hk] at hj₁ hkeep
          have hjs : j = g.size := by simp at hj₁; omega
          have hf : (({ g with nodes := g.nodes.push (.field f) } : StructuralGraph).modifyClass
              f.owner fun c => { c with fields := c.fields ++ [g.size] }).fieldNode? j =
                some f := by
            rw [fieldNode?_modifyClass, fieldNode?_push, if_pos hjs]
          have hr' := hkeep.fieldNode j f hf
          change (((g.addResource (.field f)).1).addNodes rs).resource? j = some r at hr
          rw [addResource_field hk, fieldNode?_eq_some.mp hr'] at hr
          cases hr
          exact List.mem_cons_self ..

variable {owner : Nat} {cls : String} {file : ClassInfo}

theorem key_mem_memberKeys {r : Resource} (hr : r ∈ memberNodes owner cls file.fields file.methods) :
    r.key ∈ file.memberKeys cls := by
  rcases List.mem_append.mp hr with hr | hr
  · obtain ⟨fi, hfi, rfl⟩ := List.mem_map.mp hr
    exact List.mem_append_left _ (List.mem_map_of_mem hfi)
  · obtain ⟨mi, hmi, rfl⟩ := List.mem_map.mp hr
    exact List.mem_append_right _ (List.mem_map_of_mem hmi)

theorem not_cls_of_mem_memberNodes {r : Resource}
    (hr : r ∈ memberNodes owner cls file.fields file.methods) (c : ClassNode) : r ≠ .cls c := by
  rcases List.mem_append.mp hr with hr | hr
  · obtain ⟨fi, -, rfl⟩ := List.mem_map.mp hr
    nofun
  · obtain ⟨mi, -, rfl⟩ := List.mem_map.mp hr
    nofun

theorem eq_method_of_mem_memberNodes (hnd : (file.memberKeys cls).Nodup) {r : Resource}
    (hr : r ∈ memberNodes owner cls file.fields file.methods) {mi : MethodInfo}
    (hmi : mi ∈ file.methods) (hk : r.key = Key.method cls mi.name mi.descriptor) :
    r = .method (methodNodeOf owner cls mi) := by
  obtain ⟨-, hm, hdisj⟩ := List.nodup_append.mp hnd
  rcases List.mem_append.mp hr with hr | hr
  · obtain ⟨fi, hfi, rfl⟩ := List.mem_map.mp hr
    exact absurd hk (hdisj _ (List.mem_map_of_mem hfi) _ (List.mem_map_of_mem hmi))
  · obtain ⟨mi', hmi', rfl⟩ := List.mem_map.mp hr
    rw [List.inj_on_of_nodup_map hm hmi' hmi hk]

theorem eq_field_of_mem_memberNodes (hnd : (file.memberKeys cls).Nodup) {r : Resource}
    (hr : r ∈ memberNodes owner cls file.fields file.methods) {fi : FieldInfo}
    (hfi : fi ∈ file.fields) (hk : r.key = Key.field cls fi.name) :
    r = .field (fieldNodeOf owner cls fi) := by
  obtain ⟨hf, -, hdisj⟩ := List.nodup_append.mp hnd
  rcases List.mem_append.mp hr with hr | hr
  · obtain ⟨fi', hfi', rfl⟩ := List.mem_map.mp hr
    rw [List.inj_on_of_nodup_map hf hfi' hfi hk]
  · obtain ⟨mi, hmi, rfl⟩ := List.mem_map.mp hr
    exact absurd hk.symm (hdisj _ (List.mem_map_of_mem hfi) _ (List.mem_map_of_mem hmi))

theorem redeclare_apply_method (hnd : (file.memberKeys cls).Nodup) {mi : MethodInfo}
    (hmi : mi ∈ file.methods) (owner : Nat) :
    (NodeMap.redeclare cls file.fields file.methods).apply (.method (methodNodeOf owner cls mi)) =
      .method (mi.node owner cls) := by
  have hnd' := (List.nodup_append.mp hnd).2.1
  show Resource.method (redeclareBy _ _ _ _ _) = _
  rw [@redeclareBy_eq_of_nodup _ _ MethodNode.key _ MethodNode.redeclare (fun _ _ => rfl) _ hnd' _ hmi
    _ rfl, MethodNode.redeclare_methodNodeOf]

theorem redeclare_apply_field (hnd : (file.memberKeys cls).Nodup) {fi : FieldInfo}
    (hfi : fi ∈ file.fields) (owner : Nat) :
    (NodeMap.redeclare cls file.fields file.methods).apply (.field (fieldNodeOf owner cls fi)) =
      .field (fieldNodeOf owner cls fi) := by
  have hnd' := (List.nodup_append.mp hnd).1
  show Resource.field (redeclareBy _ _ _ _ _) = _
  rw [@redeclareBy_eq_of_nodup _ _ FieldNode.key _ FieldNode.redeclare (fun _ _ => rfl) _ hnd' _ hfi
    _ rfl, FieldNode.redeclare_fieldNodeOf]

theorem redeclare_apply_of_not_mem {r : Resource} (hr : r.key ∉ file.memberKeys cls) :
    (NodeMap.redeclare cls file.fields file.methods).apply r = r := by
  cases r with
  | cls c => rfl
  | method m =>
    refine congrArg Resource.method (redeclareBy_of_forall_ne fun mi hmi hk => hr ?_)
    show m.key ∈ file.memberKeys cls
    rw [← hk]
    exact List.mem_append_right _ (List.mem_map_of_mem hmi)
  | field f =>
    refine congrArg Resource.field (redeclareBy_of_forall_ne fun fi hfi hk => hr ?_)
    show f.key ∈ file.memberKeys cls
    rw [← hk]
    exact List.mem_append_left _ (List.mem_map_of_mem hfi)

end Declare

/-! ### The changes a load makes -/

section Load

variable {g : StructuralGraph} {P : Nat → Prop}

/-- A class read from its file and added under a new key, its members declared, keeps a graph
faithful; its supertypes are not set yet, so it is pending. -/
theorem Faithful.insert (h : g.Faithful S A U P) (hg : g.WellFormed) (hplain : g.ClassKeysPlain)
    {name : String} {file : ClassInfo} (hX : Key.Plain name) (hfresh : g.get? name = none)
    (hloads : S.Loads A name) (hread : S.Reads name file.level file)
    (hnd : (file.memberKeys name).Nodup) :
    (({ g with nodes := g.nodes.push (.cls ⟨name, file.access, some file.level, none, [], [], []⟩) } :
      StructuralGraph).declareMembers g.size name file).Faithful S A U fun j => P j ∨ j = g.size := by
  set c₀ : ClassNode := ⟨name, file.access, some file.level, none, [], [], []⟩
  set g₁ : StructuralGraph := { g with nodes := g.nodes.push (.cls c₀) }
  set rs := memberNodes g.size name file.fields file.methods
  set τ := NodeMap.redeclare name file.fields file.methods
  have hg₁ : g₁.WellFormed := hg.push_cls hfresh rfl rfl rfl rfl
  rw [declareMembers_eq_mapNodes hg₁.uniqueKeys]
  have hsize₁ : g₁.size = g.size + 1 := by simp [g₁]
  -- no node of `g₁` is keyed as a member of the file
  have hold : ∀ j, j < g₁.size → g₁.key j ∉ file.memberKeys name := by
    intro j hj hmem
    obtain ⟨y, hy⟩ := ClassInfo.eq_append_of_mem_memberKeys hmem
    rw [key_push] at hy
    split at hy
    · exact Key.ne_append_of_plain hX name y hy
    · exact hg.key_ne_member_of_fresh hplain hX hfresh j (by omega) y hy
  have hadd : KeepsNodes g₁ (g₁.addNodes rs) := KeepsNodes.addNodes rs
  have hk₁ : KeepsNodes g₁ ((g₁.addNodes rs).mapNodes τ) :=
    hadd.mapNodes fun j r hj hr => redeclare_apply_of_not_mem (by
      rw [← key_of_resource? hr, hadd.toExtends.key_eq hj]
      exact hold j hj)
  have hk : KeepsNodes g ((g₁.addNodes rs).mapNodes τ) := (KeepsNodes.push _).trans hk₁
  -- a node past the class holds a member of the file, declared again
  have hnew : ∀ j r, g.size < j → ((g₁.addNodes rs).mapNodes τ).resource? j = some r →
      ∃ r₀ ∈ rs, τ.apply r₀ = r := by
    intro j r hj hr
    rw [resource?_mapNodes] at hr
    obtain ⟨r₀, hr₀, rfl⟩ := Option.map_eq_some_iff.mp hr
    exact ⟨r₀, mem_of_resource?_addNodes (fun r hr => not_cls_of_mem_memberNodes hr) hr₀
      (by omega), rfl⟩
  -- each member of the file is found under its key, at a node holding a member of the file
  have hfound : ∀ r ∈ rs, ∃ k r₀, ((g₁.addNodes rs).mapNodes τ).get? r.key = some k ∧ r₀ ∈ rs ∧
      r₀.key = r.key ∧ ((g₁.addNodes rs).mapNodes τ).resource? k = some (τ.apply r₀) := by
    intro r hr
    have hsome : ((g₁.addNodes rs).get? r.key).isSome := isSome_get?_addNodes_of_mem rs r hr
    obtain ⟨k, hget⟩ := Option.isSome_iff_exists.mp hsome
    obtain ⟨hks, hkey⟩ := key_of_get? hget
    have hk₁' : g₁.size ≤ k := by
      refine Nat.le_of_not_lt fun hlt => hold k hlt ?_
      rw [← hadd.toExtends.key_eq hlt, hkey]
      exact key_mem_memberKeys hr
    obtain ⟨r₀, hr₀⟩ := Option.isSome_iff_exists.mp (resource?_isSome_iff.mpr hks)
    refine ⟨k, r₀, by rw [get?_mapNodes]; exact hget,
      mem_of_resource?_addNodes (fun r hr => not_cls_of_mem_memberNodes hr) hr₀ hk₁', ?_, ?_⟩
    · rw [← key_of_resource? hr₀, hkey]
    · rw [resource?_mapNodes, hr₀, Option.map_some]
  have hdecl : ((g₁.addNodes rs).mapNodes τ).DeclaresNodes g.size name file := by
    refine ⟨fun mi hmi => ?_, fun fi hfi => ?_⟩
    · obtain ⟨k, r₀, hget, hr₀, hkey, hres⟩ :=
        hfound (.method (methodNodeOf g.size name mi)) (List.mem_append_right _ (List.mem_map_of_mem hmi))
      rw [eq_method_of_mem_memberNodes hnd hr₀ hmi hkey, redeclare_apply_method hnd hmi] at hres
      exact ⟨k, hget, methodNode?_eq_some.mpr hres⟩
    · obtain ⟨k, r₀, hget, hr₀, hkey, hres⟩ :=
        hfound (.field (fieldNodeOf g.size name fi)) (List.mem_append_left _ (List.mem_map_of_mem hfi))
      rw [eq_field_of_mem_memberNodes hnd hr₀ hfi hkey, redeclare_apply_field hnd hfi] at hres
      exact ⟨k, hget, fieldNode?_eq_some.mpr hres⟩
  -- the class's own node
  obtain ⟨c', hc', hkey, hacc, hlev, -, -⟩ := hk₁.classNode g.size c₀ (by
    rw [classNode?_push, if_pos rfl])
  refine h.extend hg hk (fun j _ hj => .inl hj) (fun j c hj hc => ?_) (fun j m hj hm => ?_)
    (fun j f hj hf => ?_)
  · rcases Nat.eq_or_lt_of_le hj with rfl | hj
    · rw [hc'] at hc
      cases hc
      refine ⟨hkey ▸ hloads, fun hl => absurd (hlev.trans rfl) (hl ▸ nofun), fun l hl => ?_⟩
      have hl' : file.level = l := Option.some.inj (hlev.symm.trans hl)
      exact ⟨file, hkey ▸ hl' ▸ hread, hacc, fun hp => absurd (.inr rfl) hp, hkey ▸ hdecl⟩
    · obtain ⟨r₀, hr₀, hres⟩ := hnew j _ hj (classNode?_eq_some.mp hc)
      rcases List.mem_append.mp hr₀ with hr₀ | hr₀
      · obtain ⟨fi, -, rfl⟩ := List.mem_map.mp hr₀
        cases hres
      · obtain ⟨mi, -, rfl⟩ := List.mem_map.mp hr₀
        cases hres
  · -- a new method is one of the file's, declared on the class's node
    have hjs : g.size < j := by
      refine Nat.lt_of_le_of_ne hj fun he => ?_
      rw [he, classNode?_eq_none_of_methodNode? hm] at hc'
      cases hc'
    obtain ⟨r₀, hr₀, hres⟩ := hnew j _ hjs (methodNode?_eq_some.mp hm)
    rcases List.mem_append.mp hr₀ with hr₀ | hr₀
    · obtain ⟨fi, -, rfl⟩ := List.mem_map.mp hr₀
      cases hres
    · obtain ⟨mi, hmi, rfl⟩ := List.mem_map.mp hr₀
      rw [redeclare_apply_method hnd hmi, Resource.method.injEq] at hres
      subst hres
      exact ⟨fun _ => ⟨c', file.level, file, mi, hc', hlev, hkey ▸ hread, hmi, hkey ▸ rfl⟩,
        fun hd => by cases hd⟩
  · have hjs : g.size < j := by
      refine Nat.lt_of_le_of_ne hj fun he => ?_
      rw [he, classNode?_eq_none_of_fieldNode? hf] at hc'
      cases hc'
    obtain ⟨r₀, hr₀, hres⟩ := hnew j _ hjs (fieldNode?_eq_some.mp hf)
    rcases List.mem_append.mp hr₀ with hr₀ | hr₀
    · obtain ⟨fi, hfi, rfl⟩ := List.mem_map.mp hr₀
      rw [redeclare_apply_field hnd hfi, Resource.field.injEq] at hres
      subst hres
      exact ⟨fun _ => ⟨c', file.level, file, fi, hc', hlev, hkey ▸ hread, hfi, hkey ▸ rfl⟩,
        fun hd => by cases hd⟩
    · obtain ⟨mi, -, rfl⟩ := List.mem_map.mp hr₀
      cases hres

/-- A placeholder for a class the build loads whose bytes do not read keeps a graph faithful. -/
theorem Faithful.addPlaceholder (h : g.Faithful S A U P) (hg : g.WellFormed) {name : String}
    (hloads : S.Loads A name) (hno : ∀ file, ¬ S.Reads name .structureOnly file) :
    (g.addResource (.cls (ClassNode.unresolved name))).1.Faithful S A U P := by
  cases hk : g.get? name with
  | some i => rw [addResource_of_get?_eq_some hk]; exact h
  | none =>
    rw [addResource_cls hk]
    refine h.extend hg (KeepsNodes.push _) (fun _ _ hp => hp) (fun j c hj hc => ?_)
      (fun j m hj hm => ?_) (fun j f hj hf => ?_)
    · rw [classNode?_push] at hc
      split at hc
      · cases hc
        exact ⟨hloads, fun _ => ⟨rfl, rfl, rfl, hno⟩, fun l hl => by cases hl⟩
      · exact absurd (lt_size_of_resource? (classNode?_eq_some.mp hc)) (Nat.not_lt_of_le hj)
    · rw [methodNode?_push] at hm
      split at hm
      · cases hm
      · exact absurd (lt_size_of_resource? (methodNode?_eq_some.mp hm)) (Nat.not_lt_of_le hj)
    · rw [fieldNode?_push] at hf
      split at hf
      · cases hf
      · exact absurd (lt_size_of_resource? (fieldNode?_eq_some.mp hf)) (Nat.not_lt_of_le hj)

theorem size_addResource_le (r : Resource) : (g.addResource r).1.size ≤ g.size + 1 := by
  cases hk : g.get? r.key with
  | some i => rw [addResource_of_get?_eq_some hk]; exact Nat.le_succ _
  | none =>
    cases r with
    | cls c => rw [addResource_cls hk]; simp
    | method m => rw [addResource_method hk]; simp
    | field f => rw [addResource_field hk]; simp

theorem eq_of_resource?_addResource {r : Resource} (hcls : ∀ c, r ≠ .cls c) {j : Nat}
    {r' : Resource} (hj : g.size ≤ j) (hr' : (g.addResource r).1.resource? j = some r') : r' = r :=
  List.mem_singleton.mp (mem_of_resource?_addNodes (fun _ h₀ => List.mem_singleton.mp h₀ ▸ hcls)
    (show (g.addNodes [r]).resource? j = some r' from hr') hj)

theorem Faithful.addUsedMethod (h : g.Faithful S A U P) (hg : g.WellFormed) {r : MemberRef}
    {isStatic : Bool} (hU : U g.size (.method r isStatic)) (owner : Nat) :
    (g.addResource (.method (r.usedMethod owner isStatic))).1.Faithful S A U P := by
  have hcls : ∀ c, Resource.method (r.usedMethod owner isStatic) ≠ .cls c := fun _ => nofun
  refine h.extend hg (KeepsNodes.addResource _) (fun _ _ hp => hp) (fun j c hj hc => ?_)
    (fun j m hj hm => ?_) (fun j f hj hf => ?_)
  · cases eq_of_resource?_addResource hcls hj (classNode?_eq_some.mp hc)
  · cases eq_of_resource?_addResource hcls hj (methodNode?_eq_some.mp hm)
    -- the node is at `g.size` exactly: it is new
    have hjs : j = g.size := by
      have := lt_size_of_resource? (methodNode?_eq_some.mp hm)
      have : (g.addResource (.method (r.usedMethod owner isStatic))).1.size ≤ g.size + 1 :=
        size_addResource_le _
      omega
    exact ⟨fun hd => (by cases hd), fun _ => ⟨r, isStatic, hjs ▸ hU, rfl⟩⟩
  · cases eq_of_resource?_addResource hcls hj (fieldNode?_eq_some.mp hf)

theorem Faithful.addUsedField (h : g.Faithful S A U P) (hg : g.WellFormed) {r : MemberRef}
    {isStatic : Bool} (hU : U g.size (.field r isStatic)) (owner : Nat) :
    (g.addResource (.field (r.usedField owner isStatic))).1.Faithful S A U P := by
  have hcls : ∀ c, Resource.field (r.usedField owner isStatic) ≠ .cls c := fun _ => nofun
  refine h.extend hg (KeepsNodes.addResource _) (fun _ _ hp => hp) (fun j c hj hc => ?_)
    (fun j m hj hm => ?_) (fun j f hj hf => ?_)
  · cases eq_of_resource?_addResource hcls hj (classNode?_eq_some.mp hc)
  · cases eq_of_resource?_addResource hcls hj (methodNode?_eq_some.mp hm)
  · cases eq_of_resource?_addResource hcls hj (fieldNode?_eq_some.mp hf)
    have hjs : j = g.size := by
      have := lt_size_of_resource? (fieldNode?_eq_some.mp hf)
      have : (g.addResource (.field (r.usedField owner isStatic))).1.size ≤ g.size + 1 :=
        size_addResource_le _
      omega
    exact ⟨fun hd => (by cases hd), fun _ => ⟨r, isStatic, hjs ▸ hU, rfl⟩⟩

theorem get?_modifyClass_supertypes (i : Nat) (sup : Option Nat) (ifs : List Nat) (k : String) :
    (g.modifyClass i fun c => { c with superClass := sup, interfaces := ifs }).get? k = g.get? k := by
  have hext : g.Extends (g.modifyClass i fun c => { c with superClass := sup, interfaces := ifs }) :=
    extends_modifyClass fun c _ => ⟨rfl, LevelRises.refl _⟩
  cases hk : g.get? k with
  | some j => exact hext.get?_eq hk
  | none =>
    refine get?_eq_none_iff.mpr fun j hj => ?_
    have hkey : (g.modifyClass i fun c => { c with superClass := sup, interfaces := ifs }).key j =
        g.key j := key_modifyClass fun _ => rfl
    rw [hkey]
    exact get?_eq_none_iff.mp hk j (by simpa using hj)

/-- Setting a class's supertypes to those its file names ends its pending, and keeps the graph
faithful. -/
theorem Faithful.setSupertypes (h : g.Faithful S A U P) {i : Nat} {c : ClassNode}
    (hc : g.classNode? i = some c) {l : DetailLevel} (hl : c.level = some l) {sup : Option Nat}
    {ifs : List Nat}
    (hst : ∀ file, S.Reads c.key l file →
      ({ c with superClass := sup, interfaces := ifs } : ClassNode).SupertypesOf g file) :
    (g.modifyClass i fun c => { c with superClass := sup, interfaces := ifs }).Faithful S A U
      fun j => P j ∧ j ≠ i := by
  set g' := g.modifyClass i fun c => { c with superClass := sup, interfaces := ifs }
  have hkey : ∀ j, g'.key j = g.key j := fun j => key_modifyClass fun _ => rfl
  have hget : ∀ k, g'.get? k = g.get? k := get?_modifyClass_supertypes i sup ifs
  have hdecl : ∀ {j cls file}, g.DeclaresNodes j cls file → g'.DeclaresNodes j cls file :=
    fun hd => ⟨fun mi hmi => by simpa [g', hget] using hd.1 mi hmi,
      fun fi hfi => by simpa [g', hget] using hd.2 fi hfi⟩
  have hst' : ∀ {c₁ : ClassNode} {file}, c₁.SupertypesOf g file → c₁.SupertypesOf g' file := by
    intro c₁ file hs
    have hk : g'.key = g.key := funext hkey
    rw [ClassNode.SupertypesOf, hk]
    exact hs
  -- a class's owner keeps its key and level
  have hcls : ∀ j c₁, g.classNode? j = some c₁ → ∃ c₂, g'.classNode? j = some c₂ ∧
      c₂.key = c₁.key ∧ c₂.level = c₁.level := by
    intro j c₁ hc₁
    rw [classNode?_modifyClass]
    split
    · exact ⟨{ c₁ with superClass := sup, interfaces := ifs }, by rw [hc₁]; rfl, rfl, rfl⟩
    · exact ⟨c₁, hc₁, rfl, rfl⟩
  refine ⟨fun j c' hc' => ?_, fun j m hm => ?_, fun j f hf => ?_,
    fun j m hm => h.usedMethods j m (by rwa [methodNode?_modifyClass] at hm),
    fun j f hf => h.usedFields j f (by rwa [fieldNode?_modifyClass] at hf)⟩
  · rw [classNode?_modifyClass] at hc'
    split at hc'
    · rename_i hij
      subst hij
      rw [hc] at hc'
      cases hc'
      obtain ⟨hloads, -, hsome⟩ := h.classes i c hc
      refine ⟨hloads, fun hn => absurd (hl.symm.trans hn) nofun, fun l' hl' => ?_⟩
      obtain ⟨file, hread, hacc, -, hd⟩ := hsome l' hl'
      cases hl.symm.trans hl'
      exact ⟨file, hread, hacc, fun _ => hst' (hst file hread), hdecl hd⟩
    · rename_i hij
      obtain ⟨hloads, hnone, hsome⟩ := h.classes j c' hc'
      refine ⟨hloads, hnone, fun l' hl' => ?_⟩
      obtain ⟨file, hread, hacc, hs, hd⟩ := hsome l' hl'
      exact ⟨file, hread, hacc, fun hp => hst' (hs fun hp' => hp ⟨hp', Ne.symm hij⟩), hdecl hd⟩
  · rw [methodNode?_modifyClass] at hm
    intro hd
    obtain ⟨c₁, l₁, file, mi, hc₁, hl₁, hread, hmi, hm'⟩ := h.methods j m hm hd
    obtain ⟨c₂, hc₂, hk₂, hl₂⟩ := hcls _ c₁ hc₁
    exact ⟨c₂, l₁, file, mi, hc₂, hl₂.trans hl₁, hk₂ ▸ hread, hmi, hk₂ ▸ hm'⟩
  · rw [fieldNode?_modifyClass] at hf
    intro hd
    obtain ⟨c₁, l₁, file, fi, hc₁, hl₁, hread, hfi, hf'⟩ := h.fields j f hf hd
    obtain ⟨c₂, hc₂, hk₂, hl₂⟩ := hcls _ c₁ hc₁
    exact ⟨c₂, l₁, file, fi, hc₂, hl₂.trans hl₁, hk₂ ▸ hread, hfi, hk₂ ▸ hf'⟩

/-- Raising a class read at the structure level, and not pending, to its file read with bodies,
its members declared again, keeps a graph faithful. -/
theorem Faithful.escalate (h : g.Faithful S A U P) (hg : g.WellFormed) (hplain : g.ClassKeysPlain)
    {i : Nat} {c : ClassNode} (hc : g.classNode? i = some c) (hP : ¬ P i)
    (hlev : c.level = some .structureOnly) {file : ClassInfo}
    (hread : S.Reads c.key .structureAndCalls file) (hnd : (file.memberKeys c.key).Nodup) :
    ((g.modifyClass i fun c => { c with level := some file.level }).declareMembers i c.key file).Faithful
      S A U P := by
  obtain ⟨hloads, -, hsome⟩ := h.classes i c hc
  obtain ⟨file₀, hread₀, hacc, hst, hd₀⟩ := hsome .structureOnly hlev
  cases hread.withoutCode.unique hread₀
  have hci : g.resource? i = some (.cls c) := classNode?_eq_some.mp hc
  have hi : g.get? c.key = some i := hg.get?_eq_some_iff.mpr
    ⟨lt_size_of_resource? hci, key_of_resource? hci⟩
  -- each member of the file has its node from the structure level
  have hmeth₀ : ∀ mi ∈ file.methods, ∃ k, g.get? (Key.method c.key mi.name mi.descriptor) = some k ∧
      g.methodNode? k = some (mi.withoutCode.node i c.key) :=
    fun mi hmi => hd₀.1 mi.withoutCode (List.mem_map_of_mem hmi)
  have hmem : ∀ r ∈ memberNodes i c.key file.fields file.methods, (g.get? r.key).isSome := by
    intro r hr
    rcases List.mem_append.mp hr with hr | hr
    · obtain ⟨fi, hfi, rfl⟩ := List.mem_map.mp hr
      obtain ⟨k, hk, -⟩ := hd₀.2 fi hfi
      exact Option.isSome_iff_exists.mpr ⟨k, hk⟩
    · obtain ⟨mi, hmi, rfl⟩ := List.mem_map.mp hr
      obtain ⟨k, hk, -⟩ := hmeth₀ mi hmi
      exact Option.isSome_iff_exists.mpr ⟨k, hk⟩
  rw [escalate_eq_mapNodes hg.uniqueKeys hi file hmem]
  set τ := NodeMap.escalation c.key file
  -- a method keyed as one of the file's is declared again from it; any other method stays
  have hmeth : ∀ k m, g.methodNode? k = some m → ∀ mi ∈ file.methods,
      m.key = Key.method c.key mi.name mi.descriptor → τ.method m = mi.node i c.key := by
    intro k m hm mi hmi hkey
    obtain ⟨k', hk', hm'⟩ := hmeth₀ mi hmi
    have hkk : k = k' := hg.uniqueKeys k k' (lt_size_of_resource? (methodNode?_eq_some.mp hm))
      (key_of_get? hk').1 (by rw [key_of_resource? (methodNode?_eq_some.mp hm), (key_of_get? hk').2]; exact hkey)
    rw [hkk, hm'] at hm
    cases hm
    show redeclareBy _ _ _ _ (mi.withoutCode.node i c.key) = _
    rw [@redeclareBy_eq_of_nodup _ _ MethodNode.key _ MethodNode.redeclare (fun _ _ => rfl) _
      (List.nodup_append.mp hnd).2.1 _ hmi _ hkey.symm, MethodNode.redeclare_node_withoutCode]
  have hother : ∀ m : MethodNode, (∀ mi ∈ file.methods, m.key ≠ Key.method c.key mi.name mi.descriptor) →
      τ.method m = m :=
    fun m hm => redeclareBy_of_forall_ne fun mi hmi hk => hm mi hmi hk.symm
  -- a field keeps its node: declaring it again gives what it had
  have hfield : ∀ k f, g.fieldNode? k = some f → τ.field f = f := by
    intro k f hf
    by_cases hkey : ∃ fi ∈ file.fields, f.key = Key.field c.key fi.name
    · obtain ⟨fi, hfi, hkey⟩ := hkey
      obtain ⟨k', hk', hf'⟩ := hd₀.2 fi hfi
      have hkk : k = k' := hg.uniqueKeys k k' (lt_size_of_resource? (fieldNode?_eq_some.mp hf))
        (key_of_get? hk').1 (by rw [key_of_resource? (fieldNode?_eq_some.mp hf), (key_of_get? hk').2]; exact hkey)
      rw [hkk, hf'] at hf
      cases hf
      show redeclareBy _ _ _ _ (fieldNodeOf i c.key fi) = _
      rw [@redeclareBy_eq_of_nodup _ _ FieldNode.key _ FieldNode.redeclare (fun _ _ => rfl) _
        (List.nodup_append.mp hnd).1 _ hfi _ hkey.symm, FieldNode.redeclare_fieldNodeOf]
    · exact redeclareBy_of_forall_ne fun fi hfi hk => hkey ⟨fi, hfi, hk.symm⟩
  -- the class is raised; every other class stays
  have hclass_i : (g.mapNodes τ).classNode? i = some { c with level := some file.level } := by
    rw [classNode?_mapNodes, hc]
    simp [τ, NodeMap.escalation, NodeMap.comp, NodeMap.redeclare, NodeMap.raise]
  have hclass : ∀ j c₁, g.classNode? j = some c₁ → j ≠ i → (g.mapNodes τ).classNode? j = some c₁ ∧
      c₁.key ≠ c.key := by
    intro j c₁ hc₁ hj
    have hcj := classNode?_eq_some.mp hc₁
    have hne : c₁.key ≠ c.key := fun he => hj (hg.uniqueKeys j i (lt_size_of_resource? hcj)
      (lt_size_of_resource? hci) (by rw [key_of_resource? hcj, key_of_resource? hci]; exact he))
    refine ⟨?_, hne⟩
    rw [classNode?_mapNodes, hc₁]
    simp [τ, NodeMap.escalation, NodeMap.comp, NodeMap.redeclare, NodeMap.raise, hne]
  have hkeys : (g.mapNodes τ).key = g.key := funext key_mapNodes
  have hplain_i : Key.Plain c.key := by
    have := hplain i c hc
    rwa [key_of_resource? hci] at this
  -- another class's members stay
  have hdecl : ∀ j c₁ file₁, g.classNode? j = some c₁ → c₁.key ≠ c.key →
      g.DeclaresNodes j c₁.key file₁ → (g.mapNodes τ).DeclaresNodes j c₁.key file₁ := by
    intro j c₁ file₁ hc₁ hne hd
    have hplain₁ : Key.Plain c₁.key := by
      have := hplain j c₁ hc₁
      rwa [key_of_resource? (classNode?_eq_some.mp hc₁)] at this
    refine ⟨fun mi hmi => ?_, fun fi hfi => ?_⟩
    · obtain ⟨k, hk, hm⟩ := hd.1 mi hmi
      refine ⟨k, by rw [get?_mapNodes]; exact hk, ?_⟩
      rw [methodNode?_mapNodes, hm, Option.map_some, hother _ fun mi' _ he => ?_]
      -- members of two classes have keys with two prefixes
      have he' : Key.method c₁.key mi.name mi.descriptor = Key.method c.key mi'.name mi'.descriptor := he
      rw [Key.method_eq_append, Key.method_eq_append] at he'
      exact Key.append_ne_append hplain₁ hplain_i hne _ _ he'
    · obtain ⟨k, hk, hf⟩ := hd.2 fi hfi
      refine ⟨k, by rw [get?_mapNodes]; exact hk, ?_⟩
      rw [fieldNode?_mapNodes, hf, Option.map_some, hfield k _ hf]
  refine ⟨fun j c' hc' => ?_, fun j m' hm' => ?_, fun j f' hf' => ?_, fun j m' hm' => ?_,
    fun j f' hf' => ?_⟩
  · by_cases hj : j = i
    · subst hj
      rw [hclass_i] at hc'
      cases hc'
      refine ⟨hloads, fun hn => by simp at hn, fun l hl => ?_⟩
      cases hl
      refine ⟨file, hread.level ▸ hread, hacc, fun _ => ?_, ⟨fun mi hmi => ?_, fun fi hfi => ?_⟩⟩
      · rw [ClassNode.SupertypesOf, hkeys]
        exact hst hP
      · obtain ⟨k, hk, hm⟩ := hmeth₀ mi hmi
        refine ⟨k, by rw [get?_mapNodes]; exact hk, ?_⟩
        rw [methodNode?_mapNodes, hm, Option.map_some,
          hmeth k _ hm mi hmi ((key_of_resource? (methodNode?_eq_some.mp hm)).symm.trans (key_of_get? hk).2)]
      · obtain ⟨k, hk, hf⟩ := hd₀.2 fi hfi
        refine ⟨k, by rw [get?_mapNodes]; exact hk, ?_⟩
        rw [fieldNode?_mapNodes, hf, Option.map_some, hfield k _ hf]
    · rw [classNode?_mapNodes] at hc'
      obtain ⟨c₁, hc₁, rfl⟩ := Option.map_eq_some_iff.mp hc'
      obtain ⟨hc₁', hne⟩ := hclass j c₁ hc₁ hj
      rw [classNode?_mapNodes, hc₁, Option.map_some, Option.some.injEq] at hc₁'
      rw [hc₁']
      obtain ⟨hloads₁, hnone₁, hsome₁⟩ := h.classes j c₁ hc₁
      refine ⟨hloads₁, hnone₁, fun l hl => ?_⟩
      obtain ⟨file₁, hread₁, hacc₁, hst₁, hd₁⟩ := hsome₁ l hl
      exact ⟨file₁, hread₁, hacc₁, fun hp => by rw [ClassNode.SupertypesOf, hkeys]; exact hst₁ hp,
        hdecl j c₁ file₁ hc₁ hne hd₁⟩
  · rw [methodNode?_mapNodes] at hm'
    obtain ⟨m, hm, rfl⟩ := Option.map_eq_some_iff.mp hm'
    by_cases hkey : ∃ mi ∈ file.methods, m.key = Key.method c.key mi.name mi.descriptor
    · obtain ⟨mi, hmi, hkey⟩ := hkey
      rw [hmeth j m hm mi hmi hkey]
      exact fun _ => ⟨_, file.level, file, mi, hclass_i, rfl, hread.level ▸ hread, hmi, rfl⟩
    · rw [hother m fun mi hmi he => hkey ⟨mi, hmi, he⟩]
      intro hd
      obtain ⟨c₁, l₁, file₁, mi₁, hc₁, hl₁, hread₁, hmi₁, hm₁⟩ := h.methods j m hm hd
      by_cases ho : m.owner = i
      · -- a declared method of the raised class is one of its file's
        rw [ho, hc] at hc₁
        cases hc₁
        cases hlev.symm.trans hl₁
        cases hread.withoutCode.unique hread₁
        obtain ⟨mi, hmi, rfl⟩ := List.mem_map.mp hmi₁
        exact absurd ⟨mi, hmi, by rw [hm₁]; rfl⟩ hkey
      · obtain ⟨hc₂, -⟩ := hclass _ c₁ hc₁ ho
        exact ⟨c₁, l₁, file₁, mi₁, hc₂, hl₁, hread₁, hmi₁, hm₁⟩
  · rw [fieldNode?_mapNodes] at hf'
    obtain ⟨f, hf, rfl⟩ := Option.map_eq_some_iff.mp hf'
    rw [hfield j f hf]
    intro hd
    obtain ⟨c₁, l₁, file₁, fi, hc₁, hl₁, hread₁, hfi, hf₁⟩ := h.fields j f hf hd
    by_cases ho : f.owner = i
    · rw [ho, hc] at hc₁
      cases hc₁
      cases hlev.symm.trans hl₁
      cases hread.withoutCode.unique hread₁
      exact ⟨{ c with level := some file.level }, file.level, file, fi, by rw [ho]; exact hclass_i, rfl,
        hread.level ▸ hread, hfi, hf₁⟩
    · obtain ⟨hc₂, -⟩ := hclass _ c₁ hc₁ ho
      exact ⟨c₁, l₁, file₁, fi, hc₂, hl₁, hread₁, hfi, hf₁⟩
  · -- a method declared again is declared; any other is as it was
    rw [methodNode?_mapNodes] at hm'
    obtain ⟨m, hm, rfl⟩ := Option.map_eq_some_iff.mp hm'
    by_cases hkey : ∃ mi ∈ file.methods, m.key = Key.method c.key mi.name mi.descriptor
    · obtain ⟨mi, hmi, hkey⟩ := hkey
      rw [hmeth j m hm mi hmi hkey]
      exact fun hd => by cases hd
    · rw [hother m fun mi hmi he => hkey ⟨mi, hmi, he⟩]
      exact h.usedMethods j m hm
  · rw [fieldNode?_mapNodes] at hf'
    obtain ⟨f, hf, rfl⟩ := Option.map_eq_some_iff.mp hf'
    rw [hfield j f hf]
    exact h.usedFields j f hf

end Load

end StructuralGraph

end ClassMetrics
