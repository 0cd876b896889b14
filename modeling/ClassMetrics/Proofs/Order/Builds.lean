import ClassMetrics.Proofs.Order.Lookup
import ClassMetrics.Proofs.Build.Keys
import ClassMetrics.Proofs.Dependency.Rollup

/-!
Two builds of sources alike but for the order of members, over the same classes to analyse, from
sources as member order asks them. Each node of the one graph has a node alike under its key in
the other. A class loaded by one build is loaded by the other, at the same level, with the access
and the supertypes of its file. A declared member is one of two files alike. A member made for a
place is made in both: a lookup finds nothing in the one graph exactly when it finds nothing in
the other, and two places that name one member under one key name it alike.
-/

namespace ClassMetrics

open ClassFile

theorem count_map_of_injOn {α β : Type} [BEq α] [LawfulBEq α] [BEq β] [LawfulBEq β] {f : α → β}
    {p : α → Prop} (hf : ∀ a, p a → ∀ b, p b → f a = f b → a = b) {l : List α}
    (hl : ∀ y ∈ l, p y) {x : α} (hx : p x) : (l.map f).count (f x) = l.count x := by
  simp only [List.count, List.countP_map]
  refine List.countP_congr fun y hy => ?_
  simp only [Function.comp_apply, beq_iff_eq]
  exact ⟨hf y (hl y hy) x hx, congrArg f⟩

theorem wiredRefs_perm_of_membersPermuted (g : StructuralGraph) (cls : String) (i : Nat)
    {file file' : ClassInfo} (h : file.MembersPermuted file') :
    (wiredRefs g cls i file').Perm (wiredRefs g cls i file) := by
  unfold wiredRefs membersRefs
  rw [h.signatureSites_eq]
  exact (((List.Perm.flatMap_right _ h.fields).append (List.Perm.flatMap_right _ h.methods)).append
    (.refl _)).append (.refl _)

theorem StructuralGraph.Built.lt_of_mem_refs {S : ClassSource} {names : List String}
    {g : StructuralGraph} (hb : g.Built S names) {e : Nat × Nat}
    (he : e ∈ names.flatMap (g.classRefs S)) : e.1 < g.size ∧ e.2 < g.size := by
  obtain ⟨n, -, he⟩ := List.mem_flatMap.mp he
  unfold StructuralGraph.classRefs at he
  split at he
  · rename_i i file hi _
    exact hb.wellFormed.ends_lt_of_mem_wiredRefs (key_of_get? hi).1 he
  · exact absurd he List.not_mem_nil

namespace StructuralGraph.Built

variable {S S' : ClassSource} {names : List String} {g g' : StructuralGraph}
  (hb : g.Built S names) (hb' : g'.Built S' names) (hp : S.MembersPermuted S')
  (hK : S.MembersKeyed names.contains) (hA : ∀ n ∈ names, Key.Plain n)
include hb hb' hp hK hA

/-! ### Classes and declared members -/

/-- A class of one graph has a class alike under its key in the other. -/
theorem classesKeyedIn : g.ClassesKeyedIn g' := by
  intro i c hc
  obtain ⟨hloads, -, hsome⟩ := hb.faithful.classes i c hc
  obtain ⟨i', c', hi', hc'⟩ :=
    hb'.classNode_of_loads ((hK.of_membersPermuted hp).keyable_of_plain hA) (hp.loads hloads)
  have hkey : c'.key = c.key :=
    (key_of_resource? (classNode?_eq_some.mp hc')).symm.trans (key_of_get? hi').2
  have hlev : c'.level = c.level := by
    rw [hb'.level_eq hc', hb.level_eq hc, hkey]
    exact hp.loadedLevel_eq _ _
  -- the access and the supertypes come from files alike, or from no file
  have hrest : c'.access = c.access ∧ c'.superClass.map g'.key = c.superClass.map g.key ∧
      c'.interfaces.map g'.key = c.interfaces.map g.key := by
    cases hl : c.level with
    | none =>
      obtain ⟨ha, hs, hi⟩ := hb.placeholder hc hl
      obtain ⟨ha', hs', hi''⟩ := hb'.placeholder hc' (hlev.trans hl)
      rw [ha, ha', hs, hs', hi, hi'']
      exact ⟨rfl, rfl, rfl⟩
    | some l =>
      obtain ⟨file, hr, -⟩ := hsome l hl
      obtain ⟨file', hr', hfile⟩ := hp.reads hr
      rw [← hkey] at hr'
      have hsup := hb.supertypesOf hc hr
      have hsup' := hb'.supertypesOf hc' hr'
      unfold ClassNode.SupertypesOf at hsup hsup'
      refine ⟨by rw [hb'.access_eq hc' hr', hb.access_eq hc hr, hfile.access], ?_, ?_⟩
      · rw [hsup.1, hsup'.1, hkey, hfile.superClass]
      · rw [hsup.2, hsup'.2, hkey, hfile.interfaces]
  exact ⟨i', c', hi', hc', hkey, hrest.1, hlev, hrest.2⟩

/-- A declared member of one graph has a member alike under its key in the other: the class of
its owner's key reads there to a file alike, which declares it too. -/
theorem declared_keyed {j : Nat} {r : Resource} (hr : g.resource? j = some r)
    (hd : r.isDeclared = true) :
    ∃ j' r', g'.get? r.key = some j' ∧ g'.resource? j' = some r' ∧ g.AlikeIn g' r r' := by
  cases r with
  | cls c => cases hd
  | method m =>
    obtain ⟨c, l, file, mi, hc, hl, hr, hmi, hmeq⟩ :=
      hb.faithful.methods j m (methodNode?_eq_some.mpr hr) hd
    obtain ⟨i', c', hi', hc', hkey, -, hlev, -⟩ := classesKeyedIn hb hb' hp hK hA _ c hc
    obtain ⟨file', hr', hfile⟩ := hp.reads hr
    obtain ⟨file'', hr'', -, -, hdecl⟩ := (hb'.faithful.classes i' c' hc').2.2 l (hlev.trans hl)
    rw [hkey] at hr'' hdecl
    cases hr'.unique hr''
    obtain ⟨k, hk, hmk⟩ := hdecl.1 mi (hfile.methods.mem_iff.mpr hmi)
    refine ⟨k, .method (mi.node i' c.key), ?_, methodNode?_eq_some.mp hmk, ?_, ?_⟩
    · rw [hmeq]
      exact hk
    · rw [hmeq]
      rfl
    · show g'.key i' = g.key m.owner
      rw [(key_of_get? hi').2]
      exact (key_of_resource? (classNode?_eq_some.mp hc)).symm
  | field f =>
    obtain ⟨c, l, file, fi, hc, hl, hr, hfi, hfeq⟩ :=
      hb.faithful.fields j f (fieldNode?_eq_some.mpr hr) hd
    obtain ⟨i', c', hi', hc', hkey, -, hlev, -⟩ := classesKeyedIn hb hb' hp hK hA _ c hc
    obtain ⟨file', hr', hfile⟩ := hp.reads hr
    obtain ⟨file'', hr'', -, -, hdecl⟩ := (hb'.faithful.classes i' c' hc').2.2 l (hlev.trans hl)
    rw [hkey] at hr'' hdecl
    cases hr'.unique hr''
    obtain ⟨k, hk, hfk⟩ := hdecl.2 fi (hfile.fields.mem_iff.mpr hfi)
    refine ⟨k, .field (fieldNodeOf i' c.key fi), ?_, fieldNode?_eq_some.mp hfk, ?_, ?_⟩
    · rw [hfeq]
      exact hk
    · rw [hfeq]
      rfl
    · show g'.key i' = g.key f.owner
      rw [(key_of_get? hi').2]
      exact (key_of_resource? (classNode?_eq_some.mp hc)).symm

theorem isDeclared_of_key {j j' : Nat} {r r' : Resource} (hr : g.resource? j = some r)
    (hr' : g'.resource? j' = some r') (hkey : r'.key = r.key) (hd' : r'.isDeclared = true) :
    r.isDeclared = true := by
  obtain ⟨j₀, r₀, hj₀, hr₀, halike⟩ :=
    declared_keyed hb' hb hp.symm (hK.of_membersPermuted hp) hA hr' hd'
  have hj : g.get? r.key = some j :=
    hb.wellFormed.get?_eq_some_iff.mpr ⟨lt_size_of_resource? hr, key_of_resource? hr⟩
  rw [hkey, hj] at hj₀
  cases hj₀
  rw [hr] at hr₀
  cases hr₀
  rw [halike.isDeclared_eq, hd']

/-! ### Members made for places -/

/-- Two members not declared under one key, one in each graph, are alike: they were made for
places that name them alike. -/
theorem alike_of_made {j j' : Nat} {r r' : Resource} (hr : g.resource? j = some r)
    (hr' : g'.resource? j' = some r') (hkey : r'.key = r.key) (hd : r.isDeclared = false)
    (hcls : ∀ c, r ≠ .cls c) : g.AlikeIn g' r r' := by
  have hK' := hK.of_membersPermuted hp
  obtain ⟨σ, o, hσ, hused⟩ := hb.made hr hd hcls
  have hmk := Site.memberKey_of_used hused
  -- the node under that key in the other graph is no class, whose key would be plain
  have hcls' : ∀ c', r' ≠ .cls c' := by
    rintro c' rfl
    have hplain := hb'.faithful.classKeysPlain (hK'.keyable_of_plain hA).plain j' c'
      (classNode?_eq_some.mpr hr')
    rw [key_of_resource? hr', hkey] at hplain
    exact Site.not_plain_of_memberKey hmk hplain
  have hd' : r'.isDeclared = false := by
    cases hdecl : r'.isDeclared with
    | false => rfl
    | true =>
      rw [isDeclared_of_key hb hb' hp hK hA hr hr' hkey hdecl] at hd
      cases hd
  obtain ⟨σ', o', hσ', hused'⟩ := hb'.made hr' hd' hcls'
  have halike := hK.sitesAlike σ σ' hσ (hp.symm.analysedSite hσ') (by rw [hmk]; rfl)
    (by rw [hmk, Site.memberKey_of_used hused', hkey])
  -- the owners have the key of the class the places name
  cases σ with
  | type n => cases hused
  | method ρ s =>
    cases σ' with
    | type n => cases hused'
    | field ρ' s' => exact absurd halike id
    | method ρ' s' =>
      cases hused
      cases hused'
      obtain ⟨hname, hdesc, rfl⟩ := halike
      have hk : Key.method ρ'.owner ρ'.name ρ'.descriptor = Key.method ρ.owner ρ.name ρ.descriptor :=
        hkey
      have ho := (hb.wellFormed.method_key j _ (methodNode?_eq_some.mpr hr)).2
      have ho' := (hb'.wellFormed.method_key j' _ (methodNode?_eq_some.mpr hr')).2
      change Key.method ρ.owner ρ.name ρ.descriptor = Key.method (g.key o) ρ.name ρ.descriptor at ho
      change Key.method ρ'.owner ρ'.name ρ'.descriptor =
        Key.method (g'.key o') ρ'.name ρ'.descriptor at ho'
      rw [← hname, ← hdesc] at hk ho'
      have hown : ρ'.owner = ρ.owner := Key.method_inj_left.mp hk
      refine ⟨?_, ?_⟩
      · simp only [MethodNode.unowned, MemberRef.usedMethod, hown, hname, hdesc]
      · show g'.key o' = g.key o
        rw [← Key.method_inj_left.mp ho, ← Key.method_inj_left.mp ho', hown]
  | field ρ s =>
    cases σ' with
    | type n => cases hused'
    | method ρ' s' => exact absurd halike id
    | field ρ' s' =>
      cases hused
      cases hused'
      obtain ⟨hname, rfl⟩ := halike
      have hk : Key.field ρ'.owner ρ'.name = Key.field ρ.owner ρ.name := hkey
      have ho := (hb.wellFormed.field_key j _ (fieldNode?_eq_some.mpr hr)).2
      have ho' := (hb'.wellFormed.field_key j' _ (fieldNode?_eq_some.mpr hr')).2
      change Key.field ρ.owner ρ.name = Key.field (g.key o) ρ.name at ho
      change Key.field ρ'.owner ρ'.name = Key.field (g'.key o') ρ'.name at ho'
      rw [← hname] at hk ho'
      have hown : ρ'.owner = ρ.owner := Key.field_inj_left.mp hk
      refine ⟨?_, ?_⟩
      · simp only [FieldNode.unowned, MemberRef.usedField, hown, hname]
      · show g'.key o' = g.key o
        rw [← Key.field_inj_left.mp ho, ← Key.field_inj_left.mp ho', hown]

/-! ### Lookups that find nothing -/

/-- A class that declares a method of a name and descriptor goes by key to one that declares one
too. -/
theorem declaresMethod_byKey {name descriptor : String} {k x : Nat}
    (hx : g.DeclaresMethod name descriptor k x) :
    ∃ x', g'.DeclaresMethod name descriptor (g.byKey g' k) x' := by
  obtain ⟨node, mx, hk, hxm, hmx, hd, hn, hdesc⟩ := hx
  obtain ⟨m₀, hm₀, hown⟩ := hb.wellFormed.mem_methods hk hxm
  rw [hmx] at hm₀
  cases hm₀
  obtain ⟨j', r', hj', hr', halike⟩ :=
    declared_keyed hb hb' hp hK hA (methodNode?_eq_some.mp hmx) hd
  cases r' with
  | cls _ => exact absurd halike id
  | field _ => exact absurd halike id
  | method m' =>
    obtain ⟨hu, hko⟩ := halike
    have hm' := methodNode?_eq_some.mpr hr'
    -- the class goes to the owner of the method alike
    have hbk : g.byKey g' k = m'.owner :=
      byKey_spec hb'.wellFormed (hb'.wellFormed.method_key j' m' hm').1 (hown ▸ hko)
    obtain ⟨node', hnode', -⟩ := classNode?_byKey hb'.wellFormed (classesKeyedIn hb hb' hp hK hA) hk
    refine ⟨j', node', m', hnode', ?_, hm', ?_, ?_, ?_⟩
    · rw [(hb'.wellFormed.classShape _ node' hnode').methods_eq]
      exact mem_ownedMethods.mpr ⟨m', hm', hbk.symm⟩
    · have hd' := congrArg MethodNode.declared hu
      exact hd'.trans hd
    · have hn' := congrArg MethodNode.name hu
      exact hn'.trans hn
    · have hdesc' := congrArg MethodNode.descriptor hu
      exact hdesc'.trans hdesc

/-- A class that declares a field of a name goes by key to one that declares one too. -/
theorem declaresField_byKey {name : String} {k x : Nat} (hx : g.DeclaresField name k x) :
    ∃ x', g'.DeclaresField name (g.byKey g' k) x' := by
  obtain ⟨node, fx, hk, hxf, hfx, hd, hn⟩ := hx
  obtain ⟨f₀, hf₀, hown⟩ := hb.wellFormed.mem_fields hk hxf
  rw [hfx] at hf₀
  cases hf₀
  obtain ⟨j', r', hj', hr', halike⟩ :=
    declared_keyed hb hb' hp hK hA (fieldNode?_eq_some.mp hfx) hd
  cases r' with
  | cls _ => exact absurd halike id
  | method _ => exact absurd halike id
  | field f' =>
    obtain ⟨hu, hko⟩ := halike
    have hf' := fieldNode?_eq_some.mpr hr'
    have hbk : g.byKey g' k = f'.owner :=
      byKey_spec hb'.wellFormed (hb'.wellFormed.field_key j' f' hf').1 (hown ▸ hko)
    obtain ⟨node', hnode', -⟩ := classNode?_byKey hb'.wellFormed (classesKeyedIn hb hb' hp hK hA) hk
    refine ⟨j', node', f', hnode', ?_, hf', ?_, ?_⟩
    · rw [(hb'.wellFormed.classShape _ node' hnode').fields_eq]
      exact mem_ownedFields.mpr ⟨f', hf', hbk.symm⟩
    · have hd' := congrArg FieldNode.declared hu
      exact hd'.trans hd
    · have hn' := congrArg FieldNode.name hu
      exact hn'.trans hn

theorem findMethod_eq_none {o o' : Nat} (ho : (g.classNode? o).isSome) (hkey : g'.key o' = g.key o)
    {name descriptor : String} (hnone : g.findMethod o name descriptor = none) :
    g'.findMethod o' name descriptor = none := by
  cases h : g'.findMethod o' name descriptor with
  | none => rfl
  | some x' =>
    have hK' := hK.of_membersPermuted hp
    obtain ⟨k', hk', hfk'⟩ := lookupHierarchy_sound h
    obtain ⟨x, hx⟩ := declaresMethod_byKey hb' hb hp.symm hK' hA (declaredMethod_eq_some hfk')
    have hin := inHierarchy_byKey hb.wellFormed (classesKeyedIn hb' hb hp.symm hK' hA) hk'
    obtain ⟨c, hc⟩ := Option.isSome_iff_exists.mp ho
    rw [byKey_spec hb.wellFormed (lt_size_of_resource? (classNode?_eq_some.mp hc)) hkey.symm] at hin
    exact absurd hx (declaredMethod_eq_none_iff.mp (lookupHierarchy_eq_none
      (hb.linksToClasses (hK.keyable_of_plain hA)) ho hnone _ hin) x)

theorem findField_eq_none {o o' : Nat} (ho : (g.classNode? o).isSome) (hkey : g'.key o' = g.key o)
    {name : String} (hnone : g.findField o name = none) : g'.findField o' name = none := by
  cases h : g'.findField o' name with
  | none => rfl
  | some x' =>
    have hK' := hK.of_membersPermuted hp
    obtain ⟨k', hk', hfk'⟩ := lookupHierarchy_sound h
    obtain ⟨x, hx⟩ := declaresField_byKey hb' hb hp.symm hK' hA (declaredField_eq_some hfk')
    have hin := inHierarchy_byKey hb.wellFormed (classesKeyedIn hb' hb hp.symm hK' hA) hk'
    obtain ⟨c, hc⟩ := Option.isSome_iff_exists.mp ho
    rw [byKey_spec hb.wellFormed (lt_size_of_resource? (classNode?_eq_some.mp hc)) hkey.symm] at hin
    exact absurd hx (declaredField_eq_none_iff.mp (lookupHierarchy_eq_none
      (hb.linksToClasses (hK.keyable_of_plain hA)) ho hnone _ hin) x)

/-! ### Keyed builds -/

/-- A member not declared in one graph has a member alike under its key in the other: its
owner's lookup finds nothing there either, so its place leads to the member of its key. -/
theorem made_keyed {j : Nat} {r : Resource} (hr : g.resource? j = some r)
    (hd : r.isDeclared = false) (hcls : ∀ c, r ≠ .cls c) :
    ∃ j' r', g'.get? r.key = some j' ∧ g'.resource? j' = some r' ∧ g.AlikeIn g' r r' := by
  obtain ⟨σ, o, hσ, hused⟩ := hb.made hr hd hcls
  suffices hkey : (g'.get? r.key).isSome by
    obtain ⟨j', hj'⟩ := Option.isSome_iff_exists.mp hkey
    obtain ⟨r', hr'⟩ := Option.isSome_iff_exists.mp (resource?_isSome_iff.mpr (key_of_get? hj').1)
    exact ⟨j', r', hj', hr', alike_of_made hb hb' hp hK hA hr hr'
      ((key_of_resource? hr').symm.trans (key_of_get? hj').2) hd hcls⟩
  have htarget := hb'.target_isSome (hp.analysedSite hσ)
  have hplain : Key.Plain σ.className := (hK.keyable_of_plain hA).plain _ (.named hσ)
  cases σ with
  | type n => cases hused
  | method ρ s =>
    cases hused
    have hm := methodNode?_eq_some.mpr hr
    have hlt : o < g.size := (hb.wellFormed.method_key j _ hm).1
    have hkm : Key.method ρ.owner ρ.name ρ.descriptor = Key.method (g.key o) ρ.name ρ.descriptor :=
      (hb.wellFormed.method_key j _ hm).2
    have hown : ρ.owner = g.key o := Key.method_inj_left.mp hkm
    obtain ⟨c, hc⟩ := hb.wellFormed.classNode_of_key hlt (hown ▸ hplain)
    have hnone : g.findMethod o ρ.name ρ.descriptor = none := hb.unfound.methods j _ hm hd
    cases ho' : g'.get? ρ.owner with
    | none => simp [Site.target, ho'] at htarget
    | some o' =>
      simp only [Site.target, ho', Option.bind_some, findMethod_eq_none hb hb' hp hK hA
        (by rw [hc]; rfl) ((key_of_get? ho').2.trans hown) hnone, Option.none_or] at htarget
      exact htarget
  | field ρ s =>
    cases hused
    have hf := fieldNode?_eq_some.mpr hr
    have hlt : o < g.size := (hb.wellFormed.field_key j _ hf).1
    have hkf : Key.field ρ.owner ρ.name = Key.field (g.key o) ρ.name :=
      (hb.wellFormed.field_key j _ hf).2
    have hown : ρ.owner = g.key o := Key.field_inj_left.mp hkf
    obtain ⟨c, hc⟩ := hb.wellFormed.classNode_of_key hlt (hown ▸ hplain)
    have hnone : g.findField o ρ.name = none := hb.unfound.fields j _ hf hd
    cases ho' : g'.get? ρ.owner with
    | none => simp [Site.target, ho'] at htarget
    | some o' =>
      simp only [Site.target, ho', Option.bind_some, findField_eq_none hb hb' hp hK hA
        (by rw [hc]; rfl) ((key_of_get? ho').2.trans hown) hnone, Option.none_or] at htarget
      exact htarget

theorem keyedIn : g.KeyedIn g' := by
  intro j r hr
  cases hd : r.isDeclared with
  | true => exact declared_keyed hb hb' hp hK hA hr hd
  | false =>
    cases r with
    | cls c =>
      obtain ⟨i', c', hi', hc', halike⟩ :=
        classesKeyedIn hb hb' hp hK hA j c (classNode?_eq_some.mpr hr)
      exact ⟨i', .cls c', hi', classNode?_eq_some.mp hc', halike⟩
    | method m => exact made_keyed hb hb' hp hK hA hr hd fun c h => by cases h
    | field f => exact made_keyed hb hb' hp hK hA hr hd fun c h => by cases h

theorem renumbering_nodes : g.nodesOnly.Renumbering (g.byKey g') g'.nodesOnly :=
  StructuralGraph.renumbering_nodesOnly hb.wellFormed hb'.wellFormed (keyedIn hb hb' hp hK hA)
    (keyedIn hb' hb hp.symm (hK.of_membersPermuted hp) hA)

/-! ### References, weights and usages -/

theorem wiredRefs_byKey (cls : String) {i : Nat} (hi : i < g.size) (file : ClassInfo) :
    wiredRefs g' cls (g.byKey g' i) file =
      (wiredRefs g cls i file).map (Prod.map (g.byKey g') (g.byKey g')) := by
  rw [← wiredRefs_nodesOnly g', ← wiredRefs_nodesOnly g]
  exact (renumbering_nodes hb hb' hp hK hA).wiredRefs_eq hb.wellFormed.nodesOnly
    hb'.wellFormed.nodesOnly cls hi file

theorem classRefs_perm (n : String) :
    (g'.classRefs S' n).Perm ((g.classRefs S n).map (Prod.map (g.byKey g') (g.byKey g'))) := by
  have hget : g'.get? n = (g.get? n).map (g.byKey g') :=
    (renumbering_nodes hb hb' hp hK hA).get?_eq hb'.wellFormed.nodesOnly n
  cases hi : g.get? n with
  | none => simp [classRefs, hget, hi]
  | some i =>
    cases hf : S.fileWithBodies n with
    | none => simp [classRefs, hget, hi, hf, hp.fileWithBodies_none hf]
    | some file =>
      obtain ⟨file', hf', hfile⟩ := hp.fileWithBodies_some hf
      simp only [classRefs, hget, hi, hf, hf', Option.map_some]
      rw [← wiredRefs_byKey hb hb' hp hK hA n (key_of_get? hi).1 file]
      exact wiredRefs_perm_of_membersPermuted g' n _ hfile

theorem refs_perm : (names.flatMap (g'.classRefs S')).Perm
    ((names.flatMap (g.classRefs S)).map (Prod.map (g.byKey g') (g.byKey g'))) := by
  rw [List.map_flatMap]
  exact List.Perm.flatMap_left names fun n _ => classRefs_perm hb hb' hp hK hA n

/-- A reference between renumbered nodes is refused as it was. -/
theorem admits_byKey {a t : Nat} (ha : a < g.size) (ht : t < g.size) :
    g'.Admits (g.byKey g' a) (g.byKey g' t) ↔ g.Admits a t := by
  have hN := renumbering_nodes hb hb' hp hK hA
  have hown : g'.ownerClass (g.byKey g' a) = g.byKey g' (g.ownerClass a) := hN.ownerClass_eq ha
  unfold Admits
  rw [hown]
  exact and_congr (not_congr ⟨hN.injective a ha t ht, congrArg _⟩)
    (not_congr ⟨hN.injective _ (hb.wellFormed.ownerClass_lt ha) t ht, congrArg _⟩)

/-- The edges between the nodes of two keys hold as many references in both graphs. -/
theorem held_byKey {a t : Nat} (ha : a < g.size) (ht : t < g.size) :
    (if g'.Admits (g.byKey g' a) (g.byKey g' t) then
        (names.flatMap (g'.classRefs S')).count (g.byKey g' a, g.byKey g' t) else 0) =
      if g.Admits a t then (names.flatMap (g.classRefs S)).count (a, t) else 0 := by
  have hN := renumbering_nodes hb hb' hp hK hA
  by_cases hadm : g.Admits a t
  · rw [if_pos hadm, if_pos ((admits_byKey hb hb' hp hK hA ha ht).mpr hadm),
      (refs_perm hb hb' hp hK hA).count_eq]
    exact count_map_of_injOn (f := Prod.map (g.byKey g') (g.byKey g'))
      (p := fun e => e.1 < g.size ∧ e.2 < g.size)
      (fun e he e' he' hee' => Prod.ext (hN.injective _ he.1 _ he'.1 (congrArg Prod.fst hee'))
        (hN.injective _ he.2 _ he'.2 (congrArg Prod.snd hee')))
      (fun e he => hb.lt_of_mem_refs he) (x := (a, t)) ⟨ha, ht⟩
  · rw [if_neg hadm, if_neg (mt (admits_byKey hb hb' hp hK hA ha ht).mp hadm)]

/-- The weight of an edge between the nodes of two keys is the same in both graphs. -/
theorem weight_byKey {a t : Nat} (ha : a < g.size) (ht : t < g.size) :
    g'.weight (g.byKey g' a) (g.byKey g' t) = g.weight a t := by
  rw [(hb'.weights _ _).1, (hb.weights a t).1, held_byKey hb hb' hp hK hA ha ht]

theorem usage?_byKey {a t : Nat} (ha : a < g.size) (ht : t < g.size) :
    g'.usage? (g.byKey g' a) (g.byKey g' t) = g.usage? a t := by
  have hN := renumbering_nodes hb hb' hp hK hA
  have hsome : (g'.edge? (g.byKey g' a) (g.byKey g' t)).isSome = (g.edge? a t).isSome := by
    rw [Bool.eq_iff_iff, (hb'.weights _ _).2, (hb.weights a t).2, held_byKey hb hb' hp hK hA ha ht]
  unfold usage?
  cases he : g.edge? a t with
  | none =>
    rw [he, Option.isSome_none, Option.isSome_eq_false_iff, Option.isNone_iff_eq_none] at hsome
    rw [hsome]
  | some l =>
    rw [he, Option.isSome_some, Option.isSome_iff_exists] at hsome
    obtain ⟨l', he'⟩ := hsome
    have hplain := hb.faithful.classKeysPlain (hK.keyable_of_plain hA).plain
    have hplain' := hb'.faithful.classKeysPlain ((hK.of_membersPermuted hp).keyable_of_plain hA).plain
    rw [he', Option.map_some, Option.map_some, hb'.usage_eq hplain' he', hb.usage_eq hplain he]
    exact congrArg some (hN.usageOf_eq hb.wellFormed.nodesOnly ha ht)

theorem renumbering : g.Renumbering (g.byKey g') g' :=
  let hN := renumbering_nodes hb hb' hp hK hA
  ⟨hN.size_eq, hN.lt_size, hN.injective, hN.resource,
    fun _ ha _ ht => weight_byKey hb hb' hp hK hA ha ht,
    fun _ ha _ ht => usage?_byKey hb hb' hp hK hA ha ht⟩

end StructuralGraph.Built

end ClassMetrics
