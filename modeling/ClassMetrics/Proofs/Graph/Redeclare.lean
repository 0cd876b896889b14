import ClassMetrics.Proofs.Graph.NodeMap
import ClassMetrics.Proofs.ClassFile.Levels

/-! Declaring a class file's members, seen as a change of every node. Declaring is adding a node
for each member key the graph lacks and then declaring every member again in place; so once the
graph has every key, declaring again is a `NodeMap`, and raising a class is one too. Declaring
the members of the structure level first and of the highest level afterwards ends where
declaring the highest level alone does: the second declaration overwrites what the first set,
and keeps a body's shape only where none was read. -/

namespace ClassMetrics

open ClassFile

/-- Applies, in the list's order, each update whose key is the node's key. -/
def redeclareBy {α β : Type} (key : β → String) (keyOf : α → String) (update : α → β → β)
    (as : List α) (x : β) : β :=
  as.foldl (fun x a => if key x = keyOf a then update a x else x) x

section RedeclareBy

variable {α β γ : Type} {key : β → String} {keyOf : α → String} {update : α → β → β}

theorem redeclareBy_keeps (f : β → γ) (hf : ∀ a x, f (update a x) = f x) (as : List α) (x : β) :
    f (redeclareBy key keyOf update as x) = f x := by
  unfold redeclareBy
  induction as generalizing x with
  | nil => rfl
  | cons a as ih =>
    rw [List.foldl_cons, ih]
    split
    · exact hf a x
    · rfl

theorem redeclareBy_of_forall_ne {as : List α} {x : β} (h : ∀ a ∈ as, keyOf a ≠ key x) :
    redeclareBy key keyOf update as x = x := by
  unfold redeclareBy
  induction as with
  | nil => rfl
  | cons a as ih =>
    rw [List.foldl_cons, if_neg (Ne.symm (h a (List.mem_cons_self ..)))]
    exact ih fun b hb => h b (List.mem_cons_of_mem _ hb)

theorem redeclareBy_eq_of_rel (R : β → β → Prop) (hkey : ∀ x y, R x y → key x = key y)
    (hupd : ∀ a x y, R x y → update a x = update a y) {as : List α} {x y : β}
    (hmatch : ∃ a ∈ as, keyOf a = key x) (hR : R x y) :
    redeclareBy key keyOf update as x = redeclareBy key keyOf update as y := by
  unfold redeclareBy
  induction as generalizing x y with
  | nil =>
    obtain ⟨a, ha, -⟩ := hmatch
    cases ha
  | cons a as ih =>
    rw [List.foldl_cons, List.foldl_cons]
    by_cases hx : key x = keyOf a
    · rw [if_pos hx, if_pos ((hkey x y hR).symm.trans hx), hupd a x y hR]
    · rw [if_neg hx, if_neg fun hy => hx ((hkey x y hR).trans hy)]
      obtain ⟨b, hb, hbk⟩ := hmatch
      rcases List.mem_cons.mp hb with rfl | hb
      · exact absurd hbk.symm hx
      · exact ih ⟨b, hb, hbk⟩ hR

/-- Declaring from `as` over an earlier declaration from `bs`, whose keys are among those of
`as` and whose updates change only what `R` lets differ, ends where declaring from `as` alone
does. -/
theorem redeclareBy_absorb (R : β → β → Prop) (hkey : ∀ x y, R x y → key x = key y)
    (hupd : ∀ a x y, R x y → update a x = update a y) (hrefl : ∀ x, R x x) {as bs : List α}
    (hbs : ∀ b ∈ bs, (∃ a ∈ as, keyOf a = keyOf b) ∧ ∀ z x, R z x → R (update b z) x) (x : β) :
    redeclareBy key keyOf update as (redeclareBy key keyOf update bs x) =
      redeclareBy key keyOf update as x := by
  -- the earlier declaration differs from the node only where `R` allows
  have hpre : ∀ (cs : List α), (∀ b ∈ cs, ∀ z x, R z x → R (update b z) x) →
      ∀ z, R z x → R (redeclareBy key keyOf update cs z) x := by
    intro cs hcs
    unfold redeclareBy
    induction cs with
    | nil => exact fun z hz => hz
    | cons b cs ih =>
      intro z hz
      rw [List.foldl_cons]
      refine ih (fun c hc => hcs c (List.mem_cons_of_mem _ hc)) _ ?_
      split
      · exact hcs b (List.mem_cons_self ..) z x hz
      · exact hz
  have hbx := hpre bs (fun b hb => (hbs b hb).2) x (hrefl x)
  by_cases hm : ∃ a ∈ as, keyOf a = key x
  · rw [← hkey _ _ hbx] at hm
    exact redeclareBy_eq_of_rel R hkey hupd hm hbx
  · -- no key of `as` is the node's, hence none of `bs` either
    have hbs_ne : redeclareBy key keyOf update bs x = x := by
      refine redeclareBy_of_forall_ne fun b hb hbk => ?_
      obtain ⟨a, ha, hab⟩ := (hbs b hb).1
      exact hm ⟨a, ha, hab.trans hbk⟩
    rw [hbs_ne]

end RedeclareBy

/-- A field declared again from a class file: marked declared, with the file's access and
descriptor. -/
def FieldNode.redeclare (fi : FieldInfo) (x : FieldNode) : FieldNode :=
  { x with declared := true, access := fi.access, descriptor := fi.descriptor }

/-- A method declared again from a class file: marked declared, with the file's access and
whether it has a body, and with the body's shape when the body was read. -/
def MethodNode.redeclare (mi : MethodInfo) (x : MethodNode) : MethodNode :=
  { x with declared := true, access := mi.access, hasBody := mi.hasCode,
           shape := if (mi.code.map (·.shape)).isSome then mi.code.map (·.shape) else x.shape }

/-- Two fields that differ at most in what a declaration overwrites. -/
def FieldNode.DiffersInDeclaration (x y : FieldNode) : Prop :=
  { x with declared := y.declared, access := y.access, descriptor := y.descriptor } = y

/-- Two methods that differ at most in what every declaration overwrites: a body's shape is not
among it. -/
def MethodNode.DiffersInDeclaration (x y : MethodNode) : Prop :=
  { x with declared := y.declared, access := y.access, hasBody := y.hasBody } = y

namespace NodeMap

/-- Declares again, from a class's fields and methods, every member node keyed as one of them;
classes stay. -/
def redeclare (cls : String) (fields : List FieldInfo) (methods : List MethodInfo) : NodeMap where
  level _ l := l
  method := redeclareBy MethodNode.key (fun mi => Key.method cls mi.name mi.descriptor)
    MethodNode.redeclare methods
  field := redeclareBy FieldNode.key (fun fi => Key.field cls fi.name) FieldNode.redeclare fields
  method_key := redeclareBy_keeps MethodNode.key (by intros; rfl) methods
  method_owner := redeclareBy_keeps MethodNode.owner (by intros; rfl) methods
  field_key := redeclareBy_keeps FieldNode.key (by intros; rfl) fields
  field_owner := redeclareBy_keeps FieldNode.owner (by intros; rfl) fields

/-- Raising the class keyed `cls` to a file's level and declaring the file's members again. -/
def escalation (cls : String) (file : ClassInfo) : NodeMap :=
  (redeclare cls file.fields file.methods).comp (raise cls file.level)

theorem redeclare_nil_apply (cls : String) (r : Resource) : (redeclare cls [] []).apply r = r := by
  cases r <;> rfl

/-- Member keys all begin with the class and `#`: an escalation leaves every other key alone. -/
theorem escalation_fixes {cls k : String} {file : ClassInfo} (hk : k ≠ cls)
    (hmem : ∀ x, k ≠ cls ++ "#" ++ x) : (escalation cls file).Fixes k := by
  intro r hr
  rw [escalation, apply_comp, raise_fixes hk r hr]
  cases r with
  | cls c => rfl
  | method m =>
    have hm : m.key = k := hr
    show Resource.method (redeclareBy _ _ _ _ m) = _
    rw [redeclareBy_of_forall_ne]
    intro mi _ he
    apply hmem (mi.name ++ mi.descriptor)
    rw [← hm, ← he, Key.method, String.append_assoc]
  | field f =>
    have hf : f.key = k := hr
    show Resource.field (redeclareBy _ _ _ _ f) = _
    rw [redeclareBy_of_forall_ne]
    intro fi _ he
    exact hmem fi.name (by rw [← hf, ← he, Key.field])

/-- Declaring the highest level's members over the structure level's ends where declaring the
highest level's alone does: fields are the same at both levels and are overwritten, and a
method's body shape is set only by the level that read the body. -/
theorem escalation_apply_redeclare_withoutCode (cls : String) (file : ClassInfo) (r : Resource) :
    (escalation cls file).apply
        ((redeclare cls file.withoutCode.fields file.withoutCode.methods).apply r) =
      (escalation cls file).apply r := by
  cases r with
  | cls c => rfl
  | method m =>
    show Resource.method (redeclareBy _ _ _ file.methods (redeclareBy _ _ _ _ m)) =
      Resource.method (redeclareBy _ _ _ file.methods m)
    rw [redeclareBy_absorb MethodNode.DiffersInDeclaration
      (fun x y h => by rw [← h]) (fun a x y h => by rw [← h]; rfl) (fun x => rfl)]
    intro b hb
    obtain ⟨a, ha, rfl⟩ := List.mem_map.mp hb
    exact ⟨⟨a, ha, rfl⟩, fun z x h => h⟩
  | field f =>
    show Resource.field (redeclareBy _ _ _ file.fields (redeclareBy _ _ _ file.fields f)) =
      Resource.field (redeclareBy _ _ _ file.fields f)
    rw [redeclareBy_absorb FieldNode.DiffersInDeclaration
      (fun x y h => by rw [← h]) (fun a x y h => by rw [← h]; rfl) (fun x => rfl)]
    exact fun b hb => ⟨⟨b, hb, rfl⟩, fun z x h => h⟩

end NodeMap

namespace StructuralGraph

variable {g : StructuralGraph} {τ : NodeMap} {i j : Nat}

/-! ### Unique keys -/

/-- No two nodes share a key. -/
def UniqueKeys (g : StructuralGraph) : Prop :=
  ∀ i j, i < g.size → j < g.size → g.key i = g.key j → i = j

theorem WellFormed.uniqueKeys (hg : g.WellFormed) : g.UniqueKeys := hg.key_inj

theorem UniqueKeys.of_keys {g' : StructuralGraph} (hg : g.UniqueKeys) (hs : g'.size = g.size)
    (hk : ∀ j, g'.key j = g.key j) : g'.UniqueKeys := by
  intro a b ha hb hab
  rw [hk, hk] at hab
  exact hg a b (hs ▸ ha) (hs ▸ hb) hab

theorem UniqueKeys.mapNodes (hg : g.UniqueKeys) : (g.mapNodes τ).UniqueKeys :=
  hg.of_keys size_mapNodes key_mapNodes

theorem UniqueKeys.addResource (hg : g.UniqueKeys) (r : Resource) : (g.addResource r).1.UniqueKeys := by
  cases hk : g.get? r.key with
  | some j =>
    rw [addResource_of_get?_eq_some hk]
    exact hg
  | none =>
    -- the new node's key is no old node's key
    have hfresh := get?_eq_none_iff.mp hk
    have hpush : ({ g with nodes := g.nodes.push r } : StructuralGraph).UniqueKeys := by
      intro a b ha hb hab
      rw [size_push] at ha hb
      rw [key_push, key_push] at hab
      by_cases ha' : a = g.size <;> by_cases hb' : b = g.size
      · omega
      · rw [if_pos ha', if_neg hb'] at hab
        exact absurd hab.symm (hfresh b (by omega))
      · rw [if_neg ha', if_pos hb'] at hab
        exact absurd hab (hfresh a (by omega))
      · rw [if_neg ha', if_neg hb'] at hab
        exact hg a b (by omega) (by omega) hab
    cases r with
    | cls c =>
      rw [addResource_cls hk]
      exact hpush
    | method m =>
      rw [addResource_method hk]
      exact hpush.of_keys size_modifyClass fun _ => key_modifyClass fun _ => rfl
    | field f =>
      rw [addResource_field hk]
      exact hpush.of_keys size_modifyClass fun _ => key_modifyClass fun _ => rfl

/-! ### Adding nodes under new keys -/

/-- Adds resources one after another; a key already present adds nothing. -/
def addNodes (g : StructuralGraph) (rs : List Resource) : StructuralGraph :=
  rs.foldl (fun g r => (g.addResource r).1) g

theorem UniqueKeys.addNodes (hg : g.UniqueKeys) (rs : List Resource) : (g.addNodes rs).UniqueKeys := by
  induction rs generalizing g with
  | nil => exact hg
  | cons r rs ih => exact ih (hg.addResource r)

theorem isSome_get?_addResource {k : String} (h : (g.get? k).isSome) (r : Resource) :
    ((g.addResource r).1.get? k).isSome := by
  obtain ⟨j, hj⟩ := Option.isSome_iff_exists.mp h
  rw [(extends_addResource r).get?_eq hj]
  rfl

theorem isSome_get?_addNodes {k : String} (h : (g.get? k).isSome) (rs : List Resource) :
    ((g.addNodes rs).get? k).isSome := by
  induction rs generalizing g with
  | nil => exact h
  | cons r rs ih => exact ih (isSome_get?_addResource h r)

theorem isSome_get?_addResource_self (r : Resource) : ((g.addResource r).1.get? r.key).isSome := by
  cases hk : (g.addResource r).1.get? r.key with
  | some _ => rfl
  | none => exact absurd (addResource_key r).2 (get?_eq_none_iff.mp hk _ (addResource_key r).1)

theorem isSome_get?_addNodes_of_mem (rs : List Resource) :
    ∀ r ∈ rs, ((g.addNodes rs).get? r.key).isSome := by
  induction rs generalizing g with
  | nil => intro r hr; cases hr
  | cons r rs ih =>
    intro r' hr'
    rcases List.mem_cons.mp hr' with rfl | hr'
    · exact isSome_get?_addNodes (isSome_get?_addResource_self r') rs
    · exact ih r' hr'

theorem addNodes_of_isSome {rs : List Resource} (h : ∀ r ∈ rs, (g.get? r.key).isSome) :
    g.addNodes rs = g := by
  induction rs with
  | nil => rfl
  | cons r rs ih =>
    obtain ⟨j, hj⟩ := Option.isSome_iff_exists.mp (h r (List.mem_cons_self ..))
    show (g.addResource r).1.addNodes rs = g
    rw [addResource_of_get?_eq_some hj]
    exact ih fun r' hr' => h r' (List.mem_cons_of_mem _ hr')

theorem addNodes_mapNodes {rs : List Resource} (h : ∀ r ∈ rs, (g.get? r.key).isSome ∨ τ.apply r = r) :
    (g.mapNodes τ).addNodes rs = (g.addNodes rs).mapNodes τ := by
  induction rs generalizing g with
  | nil => rfl
  | cons r rs ih =>
    have hstep : ((g.mapNodes τ).addResource r).1 = (g.addResource r).1.mapNodes τ := by
      rcases h r (List.mem_cons_self ..) with hk | hfix
      · obtain ⟨j, hj⟩ := Option.isSome_iff_exists.mp hk
        rw [addResource_of_get?_eq_some hj, addResource_of_get?_eq_some (by simpa using hj)]
      · rw [(mapNodes_addResource r).1, hfix]
    show ((g.mapNodes τ).addResource r).1.addNodes rs = ((g.addResource r).1.addNodes rs).mapNodes τ
    rw [hstep]
    exact ih fun r' hr' =>
      (h r' (List.mem_cons_of_mem _ hr')).imp_left fun hk => isSome_get?_addResource hk r

/-! ### Declaring members as adding nodes, then declaring again -/

/-- The node a field declaration adds under a key the graph lacks. -/
def fieldNodeOf (owner : Nat) (cls : String) (fi : FieldInfo) : FieldNode :=
  ⟨Key.field cls fi.name, owner, fi.name, fi.descriptor, fi.access, true⟩

/-- The node a method declaration adds under a key the graph lacks, with no body shape yet. -/
def methodNodeOf (owner : Nat) (cls : String) (mi : MethodInfo) : MethodNode :=
  ⟨Key.method cls mi.name mi.descriptor, owner, mi.name, mi.descriptor, mi.access, true,
    mi.hasCode, none, []⟩

/-- The member nodes that declaring a class's fields and methods may add, in order. -/
def memberNodes (owner : Nat) (cls : String) (fields : List FieldInfo) (methods : List MethodInfo) :
    List Resource :=
  fields.map (fun fi => .field (fieldNodeOf owner cls fi)) ++
    methods.map (fun mi => .method (methodNodeOf owner cls mi))

theorem raise_apply_memberNodes {owner : Nat} {cls : String} {fields : List FieldInfo}
    {methods : List MethodInfo} (cls' : String) (level : DetailLevel) :
    ∀ r ∈ memberNodes owner cls fields methods, (NodeMap.raise cls' level).apply r = r := by
  intro r hr
  rcases List.mem_append.mp hr with hr | hr
  · obtain ⟨fi, -, rfl⟩ := List.mem_map.mp hr
    rfl
  · obtain ⟨mi, -, rfl⟩ := List.mem_map.mp hr
    rfl

/-- Changing one node is changing every node, when the node is the only one under its key and
the change of every node touches that key alone. -/
theorem modify_eq_mapNodes (hg : g.UniqueKeys) {k : String} (hj : g.get? k = some j)
    {F : Resource → Resource} (hF : ∀ r, r.key = k → τ.apply r = F r)
    (hτ : ∀ r, r.key ≠ k → τ.apply r = r) :
    ({ g with nodes := g.nodes.modify j F } : StructuralGraph) = g.mapNodes τ := by
  obtain ⟨hjs, hjk⟩ := key_of_get? hj
  have hnodes : g.nodes.modify j F = g.nodes.map τ.apply := by
    apply Array.ext_getElem?
    intro l
    rw [Array.getElem?_modify, Array.getElem?_map]
    cases hr : g.nodes[l]? with
    | none => split <;> rfl
    | some r =>
      have hrk : g.key l = r.key := key_of_resource? hr
      split
      · rename_i hjl
        subst hjl
        exact congrArg some (hF r (hrk.symm.trans hjk)).symm
      · rename_i hjl
        -- another node has another key
        have hl : l < g.size := lt_size_of_resource? hr
        refine congrArg some (hτ r fun h => hjl (hg j l hjs hl ?_)).symm
        rw [hjk, hrk, h]
  unfold mapNodes
  rw [hnodes]

theorem addResource_mapNodes_of_fresh {b : Resource} (hk : g.get? b.key = none)
    (hτ : ∀ r, r.key ≠ b.key → τ.apply r = r) :
    (g.addResource b).1.mapNodes τ = (g.addResource (τ.apply b)).1 := by
  rw [(mapNodes_addResource b).1, mapNodes_eq_self]
  intro l r hr
  apply hτ
  rw [← key_of_resource? hr]
  exact get?_eq_none_iff.mp hk l (lt_size_of_resource? hr)

/-- Declaring one field is adding its node if its key is new, then declaring it again. -/
theorem declareField_eq_mapNodes (hg : g.UniqueKeys) (owner : Nat) (cls : String) (fi : FieldInfo) :
    g.declareField owner cls fi =
      (g.addResource (.field (fieldNodeOf owner cls fi))).1.mapNodes (NodeMap.redeclare cls [fi] []) := by
  -- the change declares again the field node keyed as `fi` and nothing else
  have hother : ∀ r : Resource, r.key ≠ Key.field cls fi.name →
      (NodeMap.redeclare cls [fi] []).apply r = r := by
    intro r hr
    cases r with
    | cls c => rfl
    | method m => rfl
    | field x => exact congrArg Resource.field (if_neg hr)
  unfold declareField
  dsimp only
  cases hk : g.get? (Key.field cls fi.name) with
  | some j =>
    dsimp only
    rw [addResource_of_get?_eq_some (r := .field (fieldNodeOf owner cls fi)) hk]
    unfold modifyField
    refine modify_eq_mapNodes hg hk (fun r hr => ?_) hother
    cases r with
    | cls c => rfl
    | method m => rfl
    | field x => exact congrArg Resource.field (if_pos hr)
  | none =>
    dsimp only
    rw [addResource_mapNodes_of_fresh (b := .field (fieldNodeOf owner cls fi)) hk hother]
    exact congrArg (fun r => (g.addResource r).1) (congrArg Resource.field (if_pos rfl)).symm

/-- Declaring one method is adding its node if its key is new, then declaring it again: the
body's shape is set by the declaration. -/
theorem declareMethod_eq_mapNodes (hg : g.UniqueKeys) (owner : Nat) (cls : String)
    (mi : MethodInfo) :
    g.declareMethod owner cls mi =
      (g.addResource (.method (methodNodeOf owner cls mi))).1.mapNodes
        (NodeMap.redeclare cls [] [mi]) := by
  have hother : ∀ r : Resource, r.key ≠ Key.method cls mi.name mi.descriptor →
      (NodeMap.redeclare cls [] [mi]).apply r = r := by
    intro r hr
    cases r with
    | cls c => rfl
    | method m => exact congrArg Resource.method (if_neg hr)
    | field x => rfl
  unfold declareMethod
  dsimp only
  cases hk : g.get? (Key.method cls mi.name mi.descriptor) with
  | some j =>
    dsimp only
    rw [addResource_of_get?_eq_some (r := .method (methodNodeOf owner cls mi)) hk]
    unfold modifyMethod
    refine modify_eq_mapNodes hg hk (fun r hr => ?_) hother
    cases r with
    | cls c => rfl
    | method m => exact congrArg Resource.method (if_pos hr)
    | field x => rfl
  | none =>
    dsimp only
    rw [addResource_mapNodes_of_fresh (b := .method (methodNodeOf owner cls mi)) hk hother]
    have hnew : (NodeMap.redeclare cls [] [mi]).apply (.method (methodNodeOf owner cls mi)) =
        .method ((methodNodeOf owner cls mi).redeclare mi) := congrArg Resource.method (if_pos rfl)
    rw [hnew]
    -- a new method takes the shape of its body, if one was read
    cases hc : mi.code <;> simp [MethodNode.redeclare, methodNodeOf, hc]

/-- Declaring fields one after another is adding their new nodes, then declaring them all again. -/
theorem foldl_declareField (owner : Nat) (cls : String) :
    ∀ (fs : List FieldInfo) (g : StructuralGraph), g.UniqueKeys →
      fs.foldl (fun g fi => g.declareField owner cls fi) g =
        (g.addNodes (fs.map fun fi => .field (fieldNodeOf owner cls fi))).mapNodes
          (NodeMap.redeclare cls fs [])
  | [], g, _ => (mapNodes_eq_self fun _ r _ => NodeMap.redeclare_nil_apply cls r).symm
  | fi :: fs, g, hg => by
    rw [List.foldl_cons, declareField_eq_mapNodes hg,
      foldl_declareField owner cls fs _ (hg.addResource _).mapNodes, List.map_cons, addNodes_mapNodes,
      mapNodes_mapNodes (ρ := NodeMap.redeclare cls (fi :: fs) []) fun r => by cases r <;> rfl]
    · rfl
    -- a later field under `fi`'s key finds its node; any other is left alone by `fi`'s declaration
    intro r hr
    obtain ⟨b, -, rfl⟩ := List.mem_map.mp hr
    by_cases hb : Key.field cls b.name = Key.field cls fi.name
    · left
      rw [show (Resource.field (fieldNodeOf owner cls b)).key = Key.field cls fi.name from hb]
      exact isSome_get?_addResource_self _
    · exact .inr (congrArg Resource.field (if_neg hb))

/-- Declaring methods one after another is adding their new nodes, then declaring them all again. -/
theorem foldl_declareMethod (owner : Nat) (cls : String) :
    ∀ (ms : List MethodInfo) (g : StructuralGraph), g.UniqueKeys →
      ms.foldl (fun g mi => g.declareMethod owner cls mi) g =
        (g.addNodes (ms.map fun mi => .method (methodNodeOf owner cls mi))).mapNodes
          (NodeMap.redeclare cls [] ms)
  | [], g, _ => (mapNodes_eq_self fun _ r _ => NodeMap.redeclare_nil_apply cls r).symm
  | mi :: ms, g, hg => by
    rw [List.foldl_cons, declareMethod_eq_mapNodes hg,
      foldl_declareMethod owner cls ms _ (hg.addResource _).mapNodes, List.map_cons, addNodes_mapNodes,
      mapNodes_mapNodes (ρ := NodeMap.redeclare cls [] (mi :: ms)) fun r => by cases r <;> rfl]
    · rfl
    intro r hr
    obtain ⟨b, -, rfl⟩ := List.mem_map.mp hr
    by_cases hb : Key.method cls b.name b.descriptor = Key.method cls mi.name mi.descriptor
    · left
      rw [show (Resource.method (methodNodeOf owner cls b)).key =
        Key.method cls mi.name mi.descriptor from hb]
      exact isSome_get?_addResource_self _
    · exact .inr (congrArg Resource.method (if_neg hb))

/-- Declaring a class file's members is adding a node for each member key the graph lacks, then
declaring every member again in place. -/
theorem declareMembers_eq_mapNodes (hg : g.UniqueKeys) (owner : Nat) (cls : String)
    (file : ClassInfo) :
    g.declareMembers owner cls file =
      (g.addNodes (memberNodes owner cls file.fields file.methods)).mapNodes
        (NodeMap.redeclare cls file.fields file.methods) := by
  -- a field declaration leaves every method node alone
  have hmethods : ∀ r ∈ file.methods.map (fun mi => Resource.method (methodNodeOf owner cls mi)),
      ((g.addNodes (file.fields.map fun fi => .field (fieldNodeOf owner cls fi))).get? r.key).isSome ∨
        (NodeMap.redeclare cls file.fields []).apply r = r := by
    intro r hr
    obtain ⟨mi, -, rfl⟩ := List.mem_map.mp hr
    exact .inr rfl
  unfold declareMembers memberNodes
  dsimp only
  rw [foldl_declareField owner cls _ g hg, foldl_declareMethod owner cls _ _ (hg.addNodes _).mapNodes,
    addNodes_mapNodes hmethods,
    mapNodes_mapNodes (ρ := NodeMap.redeclare cls file.fields file.methods) fun r => by cases r <;> rfl]
  unfold addNodes
  rw [List.foldl_append]

theorem isSome_get?_declareMembers (hg : g.UniqueKeys) (owner : Nat) (cls : String)
    (file : ClassInfo) :
    ∀ r ∈ memberNodes owner cls file.fields file.methods,
      ((g.declareMembers owner cls file).get? r.key).isSome := by
  intro r hr
  rw [declareMembers_eq_mapNodes hg, get?_mapNodes]
  exact isSome_get?_addNodes_of_mem _ r hr

theorem escalate_eq_mapNodes (hg : g.UniqueKeys) {cls : String} (hi : g.get? cls = some i)
    (file : ClassInfo)
    (hmem : ∀ r ∈ memberNodes i cls file.fields file.methods, (g.get? r.key).isSome) :
    (g.modifyClass i fun c => { c with level := some file.level }).declareMembers i cls file =
      g.mapNodes (NodeMap.escalation cls file) := by
  have hraise : g.modifyClass i (fun c => { c with level := some file.level }) =
      g.mapNodes (NodeMap.raise cls file.level) := by
    unfold modifyClass
    refine modify_eq_mapNodes hg hi (fun r hr => ?_) fun r hr => NodeMap.raise_fixes hr r rfl
    cases r with
    | cls c =>
      have hc : c.key = cls := hr
      simp [NodeMap.apply, NodeMap.raise, hc]
    | method m => rfl
    | field f => rfl
  rw [hraise, declareMembers_eq_mapNodes hg.mapNodes, addNodes_of_isSome (by simpa using hmem),
    mapNodes_mapNodes fun r => (NodeMap.apply_comp _ _ r).symm]
  rfl

theorem memberNodes_withoutCode (owner : Nat) (cls : String) (file : ClassInfo) :
    memberNodes owner cls file.withoutCode.fields file.withoutCode.methods =
      memberNodes owner cls file.fields file.methods := by
  simp [memberNodes, ClassInfo.withoutCode, methodNodeOf, MethodInfo.withoutCode]

theorem escalation_declareMembers_withoutCode (hg : g.UniqueKeys) (owner : Nat) (cls : String)
    (file : ClassInfo) :
    (g.declareMembers owner cls file.withoutCode).mapNodes (NodeMap.escalation cls file) =
      (g.mapNodes (NodeMap.raise cls file.level)).declareMembers owner cls file := by
  rw [declareMembers_eq_mapNodes hg, memberNodes_withoutCode,
    mapNodes_mapNodes (NodeMap.escalation_apply_redeclare_withoutCode cls file),
    declareMembers_eq_mapNodes hg.mapNodes,
    addNodes_mapNodes fun r hr => .inr (raise_apply_memberNodes cls file.level r hr),
    mapNodes_mapNodes fun r => (NodeMap.apply_comp _ _ r).symm]
  rfl

end StructuralGraph

end ClassMetrics
