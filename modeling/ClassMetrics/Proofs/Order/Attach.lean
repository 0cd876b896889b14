import ClassMetrics.Proofs.Order.TreeKeys
import ClassMetrics.Proofs.Order.Measures

/-!
Attaching methods under graphs renumbered one into the other. A class shows the same method
keys in both graphs, in member order, which may differ. Adding distinct keys below a node pushes
a node for each key new to the tree, so the trees attached differ only in the keys of the nodes
pushed: they are alike from the first of them on (`AlikeFrom`). Those nodes are childless,
unmeasured methods below classes (`FreshFrom`).
-/

namespace ClassMetrics

namespace SourceTree

variable {t : SourceTree} {n cid : Nat} {k : String}

/-- Adds a method node of a key below a node, as `addChild` does when the key is new. -/
def pushMethod (t : SourceTree) (cid : Nat) (k : String) : SourceTree :=
  ⟨(t.nodes.push { key := k, scope := .method, parent := some cid }).modify cid
    fun p => { p with children := p.children.push t.size }⟩

theorem addChild_method_of_find?_eq_none (h : t.find? .method k = none) :
    (t.addChild cid .method k).1 = t.pushMethod cid k := by
  simp [addChild, h, pushMethod]

@[simp] theorem size_pushMethod (t : SourceTree) (cid : Nat) (k : String) :
    (t.pushMethod cid k).size = t.size + 1 := by
  simp [pushMethod, size]

theorem node_pushMethod (hc : cid < t.size) (i : Nat) :
    (t.pushMethod cid k).node i =
      if i = t.size then { key := k, scope := .method, parent := some cid }
      else if i = cid then { t.node cid with children := (t.node cid).children.push t.size }
      else t.node i := by
  unfold pushMethod node size at *
  rw [Array.getElem?_modify, Array.getElem?_push]
  by_cases hi : i = t.nodes.size
  · subst hi
    simp [Nat.ne_of_lt hc]
  · by_cases hci : cid = i
    · subst hci
      simp [hi, Array.getElem?_eq_getElem hc]
    · simp [hi, hci, Ne.symm hci]

theorem eraseKeysFrom_pushMethod (hn : n ≤ t.size) (hc : cid < t.size) :
    (t.pushMethod cid k).eraseKeysFrom n = (t.eraseKeysFrom n).pushMethod cid "" := by
  refine ext_node (by simp) fun i => ?_
  rw [node_eraseKeysFrom, node_pushMethod hc, node_pushMethod (by simpa using hc),
    size_eraseKeysFrom, node_eraseKeysFrom, node_eraseKeysFrom]
  by_cases hi : i = t.size
  · subst hi
    simp [hn]
  · by_cases hci : i = cid
    · subst hci
      split_ifs <;> rfl
    · simp only [hi, hci, if_false]

theorem find?_pushMethod_eq_none_iff (hc : cid < t.size) {k' : String} :
    (t.pushMethod cid k).find? .method k' = none ↔ t.find? .method k' = none ∧ k' ≠ k := by
  simp only [find?_eq_none_iff, size_pushMethod, node_pushMethod hc]
  constructor
  · intro h
    refine ⟨fun j hj hs hk => h j (by omega) ?_ ?_, fun hk => h t.size (by omega) ?_ ?_⟩
    · rw [if_neg (by omega)]
      split_ifs with hjc
      · subst hjc; exact hs
      · exact hs
    · rw [if_neg (by omega)]
      split_ifs with hjc
      · subst hjc; exact hk
      · exact hk
    · simp
    · simp [hk]
  · rintro ⟨h, hk⟩ j hj
    split_ifs with hjs hjc
    · intro _ hkj
      exact hk hkj.symm
    · subst hjc
      exact h j hc
    · exact h j (by omega)

theorem isSome_find?_foldl_pushMethod (hc : cid < t.size) (ks : List String) (k' : String) :
    ((ks.foldl (fun t k => t.pushMethod cid k) t).find? .method k').isSome ↔
      (t.find? .method k').isSome ∨ k' ∈ ks := by
  induction ks generalizing t with
  | nil => simp
  | cons k ks ih =>
    rw [List.foldl_cons, ih (by simp; omega), List.mem_cons]
    have hstep : (t.pushMethod cid k).find? .method k' = none ↔
        t.find? .method k' = none ∧ k' ≠ k := find?_pushMethod_eq_none_iff hc
    constructor
    · rintro (h | h)
      · by_cases hk : k' = k
        · exact .inr (.inl hk)
        · refine .inl ?_
          rw [Option.isSome_iff_ne_none] at h ⊢
          exact fun hn => h (hstep.mpr ⟨hn, hk⟩)
      · exact .inr (.inr h)
    · rintro (h | h | h)
      · refine .inl ?_
        rw [Option.isSome_iff_ne_none] at h ⊢
        exact fun hn => h (hstep.mp hn).1
      · refine .inl ?_
        rw [Option.isSome_iff_ne_none]
        exact fun hn => (hstep.mp hn).2 h
      · exact .inr h

/-- Adding methods of distinct keys below a node pushes those that are new, in order. -/
theorem foldl_addChild_method (hc : cid < t.size) {ks : List String} (hks : ks.Nodup) :
    ks.foldl (fun t k => (t.addChild cid .method k).1) t =
      (ks.filter fun k => (t.find? .method k).isNone).foldl (fun t k => t.pushMethod cid k) t := by
  induction ks generalizing t with
  | nil => rfl
  | cons k ks ih =>
    obtain ⟨hk, hks⟩ := List.nodup_cons.mp hks
    rw [List.foldl_cons, List.filter_cons]
    cases hf : t.find? .method k with
    | some id =>
      rw [addChild_of_find?_eq_some hf, ih hc hks]
      simp
    | none =>
      rw [addChild_method_of_find?_eq_none hf, ih (by simp; omega) hks]
      simp only [Option.isNone_none, if_true, List.foldl_cons]
      -- the keys after `k` are new after it exactly when they were before it
      congr 1
      refine List.filter_congr fun k' hk' => ?_
      have hne : k' ≠ k := fun h => hk (h ▸ hk')
      cases hf' : t.find? .method k' with
      | none => simp [(find?_pushMethod_eq_none_iff hc).mpr ⟨hf', hne⟩]
      | some _ =>
        cases h' : (t.pushMethod cid k).find? .method k' with
        | none => rw [((find?_pushMethod_eq_none_iff hc).mp h').1] at hf'; cases hf'
        | some _ => rfl

theorem eraseKeysFrom_foldl_pushMethod (hn : n ≤ t.size) (hc : cid < t.size) (ks : List String) :
    (ks.foldl (fun t k => t.pushMethod cid k) t).eraseKeysFrom n =
      (ks.map fun _ => "").foldl (fun t k => t.pushMethod cid k) (t.eraseKeysFrom n) := by
  induction ks generalizing t with
  | nil => rfl
  | cons k ks ih =>
    rw [List.foldl_cons, ih (by simp; omega) (by simp; omega), eraseKeysFrom_pushMethod hn hc]
    rfl

@[simp] theorem size_foldl_pushMethod (ks : List String) :
    (ks.foldl (fun t k => t.pushMethod cid k) t).size = t.size + ks.length := by
  induction ks generalizing t with
  | nil => rfl
  | cons k ks ih => rw [List.foldl_cons, ih, size_pushMethod, List.length_cons]; omega

/-- Two trees alike from node `n` on: the same once the keys from `n` on are blanked, holding
the same method keys, and with all of the first `n` nodes. -/
structure AlikeFrom (n : Nat) (t₁ t₂ : SourceTree) : Prop where
  erased : t₁.eraseKeysFrom n = t₂.eraseKeysFrom n
  methods : ∀ k, (t₁.find? .method k).isSome ↔ (t₂.find? .method k).isSome
  le_size : n ≤ t₁.size

namespace AlikeFrom

variable {t₁ t₂ t₃ : SourceTree}

theorem refl (t : SourceTree) (hn : n ≤ t.size) : AlikeFrom n t t :=
  ⟨rfl, fun _ => Iff.rfl, hn⟩

theorem size_eq (h : AlikeFrom n t₁ t₂) : t₂.size = t₁.size := by
  rw [← size_eraseKeysFrom n t₁, h.erased, size_eraseKeysFrom]

theorem symm (h : AlikeFrom n t₁ t₂) : AlikeFrom n t₂ t₁ :=
  ⟨h.erased.symm, fun k => (h.methods k).symm, h.size_eq ▸ h.le_size⟩

theorem key_eq (h : AlikeFrom n t₁ t₂) {i : Nat} (hi : i < n) :
    (t₂.node i).key = (t₁.node i).key := by
  rw [← key_eraseKeysFrom_of_lt hi, ← h.erased, key_eraseKeysFrom_of_lt hi]

/-- Adding the methods of some distinct keys below one of the first `n` nodes of alike trees
leaves alike trees when the keys are the same in any order: the keys new to either tree are
the same, so as many nodes are pushed, and they differ only in their keys. -/
theorem foldl_addChild_method (h : AlikeFrom n t₁ t₂) (hc : cid < n) {L₁ L₂ : List String}
    (hL : L₂.Perm L₁) (hnd : L₁.Nodup) :
    AlikeFrom n (L₁.foldl (fun t k => (t.addChild cid .method k).1) t₁)
      (L₂.foldl (fun t k => (t.addChild cid .method k).1) t₂) := by
  have hn := h.le_size
  have hc₁ : cid < t₁.size := by omega
  have hc₂ : cid < t₂.size := by rw [h.size_eq]; omega
  have hnew : (L₂.filter fun k => (t₂.find? .method k).isNone).Perm
      (L₁.filter fun k => (t₁.find? .method k).isNone) := by
    have hcongr : (L₂.filter fun k => (t₂.find? .method k).isNone) =
        L₂.filter fun k => (t₁.find? .method k).isNone :=
      List.filter_congr fun k _ => by
        have hk := h.methods k
        revert hk
        cases t₁.find? .method k <;> cases t₂.find? .method k <;> simp
    rw [hcongr]
    exact hL.filter _
  rw [SourceTree.foldl_addChild_method hc₁ hnd,
    SourceTree.foldl_addChild_method hc₂ (hL.nodup_iff.mpr hnd)]
  refine ⟨?_, fun k => ?_, by simp; omega⟩
  · rw [eraseKeysFrom_foldl_pushMethod hn hc₁,
      eraseKeysFrom_foldl_pushMethod (h.size_eq ▸ hn) hc₂, h.erased, List.map_const',
      List.map_const', hnew.length_eq]
  · rw [isSome_find?_foldl_pushMethod hc₁, isSome_find?_foldl_pushMethod hc₂, h.methods k,
      hnew.mem_iff]

end AlikeFrom

/-- What attaching methods to a tree of `n` nodes leaves: the nodes from `n` on are childless
methods below classes, with no measures. -/
structure FreshFrom (n : Nat) (t : SourceTree) : Prop where
  methods : t.MethodsFrom n
  le_size : n ≤ t.size
  childless : ∀ i, n ≤ i → (t.node i).children = #[]
  unmeasured : ∀ i, n ≤ i → ∀ m, t.measure? i m = none

theorem FreshFrom.pushMethod (h : t.FreshFrom n) (hc : cid < n)
    (hcls : (t.node cid).scope = .cls) : (t.pushMethod cid k).FreshFrom n := by
  have hc' : cid < t.size := by have := h.le_size; omega
  refine ⟨⟨fun i hi hs => ?_, fun p c hcp hnc => ?_⟩, by simp; have := h.le_size; omega,
    fun i hi => ?_, fun i hi m => ?_⟩
  · rw [node_pushMethod hc']
    split_ifs with h₁ h₂
    · rfl
    · omega
    · exact h.methods.scope_eq i hi (by simp at hs; omega)
  · rw [node_pushMethod hc'] at hcp ⊢
    split_ifs at hcp ⊢ with h₁ h₂
    · simp at hcp
    · exact hcls
    · exact h.methods.below_cls p c hcp hnc
  · rw [node_pushMethod hc']
    split_ifs with h₁ h₂
    · rfl
    · omega
    · exact h.childless i hi
  · unfold measure?
    rw [node_pushMethod hc']
    split_ifs with h₁ h₂
    · rfl
    · omega
    · exact h.unmeasured i hi m

theorem FreshFrom.foldl_addChild_method (h : t.FreshFrom n) (hc : cid < n)
    (hcls : (t.node cid).scope = .cls) (ks : List String) :
    (ks.foldl (fun t k => (t.addChild cid .method k).1) t).FreshFrom n := by
  induction ks generalizing t with
  | nil => exact h
  | cons k ks ih =>
    have hc' : cid < t.size := by have := h.le_size; omega
    rw [List.foldl_cons]
    cases hf : t.find? .method k with
    | some id => rw [addChild_of_find?_eq_some hf]; exact ih h hcls
    | none =>
      rw [addChild_method_of_find?_eq_none hf]
      refine ih (h.pushMethod hc hcls) ?_
      rw [node_pushMethod hc', if_neg (by omega), if_pos rfl]
      exact hcls

end SourceTree

namespace StructuralGraph

/-- The keys of the methods of a class that a source tree shows: those it declares, synthetic
ones apart, in member order. -/
def shownMethodKeys (g : StructuralGraph) (node : ClassNode) : List String :=
  node.methods.filterMap fun m => (g.methodNode? m).bind fun x =>
    if x.declared && !ClassFile.Access.has x.access ClassFile.Access.synthetic then some x.key
    else none

/-- Attaching the methods of a class adds a method node for each key it shows, below the
class. -/
theorem foldl_attach_eq (g : StructuralGraph) (node : ClassNode) (cid : Nat) (t : SourceTree) :
    node.methods.foldl (fun t m =>
        match g.methodNode? m with
        | some x =>
          if x.declared && !ClassFile.Access.has x.access ClassFile.Access.synthetic then
            (t.addChild cid .method x.key).1
          else t
        | none => t) t =
      (g.shownMethodKeys node).foldl (fun t k => (t.addChild cid .method k).1) t := by
  unfold shownMethodKeys
  generalize node.methods = ms
  induction ms generalizing t with
  | nil => rfl
  | cons m ms ih =>
    rw [List.foldl_cons, List.filterMap_cons]
    cases g.methodNode? m with
    | none => exact ih t
    | some x =>
      dsimp only [Option.bind_some]
      split
      · exact ih _
      · exact ih t

theorem WellFormed.nodup_shownMethodKeys {g : StructuralGraph} (hg : g.WellFormed) {i : Nat}
    {node : ClassNode} (hc : g.classNode? i = some node) : (g.shownMethodKeys node).Nodup := by
  have hnd : node.methods.Nodup := (hg.classShape i node hc).methods_eq ▸ nodup_ownedMethods g i
  refine hnd.filterMap fun a a' k hk hk' => ?_
  -- a shown key is the key of its method's node, and nodes have distinct keys
  have hkey : ∀ {b}, k ∈ (g.methodNode? b).bind (fun x => if x.declared &&
      !ClassFile.Access.has x.access ClassFile.Access.synthetic then some x.key else none) →
      b < g.size ∧ g.key b = k := by
    intro b hb
    obtain ⟨x, hx, hb⟩ := Option.bind_eq_some_iff.mp hb
    have hr := methodNode?_eq_some.mp hx
    refine ⟨lt_size_of_resource? hr, ?_⟩
    rw [key_of_resource? hr]
    split at hb
    · cases hb; rfl
    · cases hb
  obtain ⟨ha, hka⟩ := hkey hk
  obtain ⟨ha', hka'⟩ := hkey hk'
  exact hg.key_inj a a' ha ha' (hka.trans hka'.symm)

theorem Renumbering.shownMethodKeys_perm {σ : Nat → Nat} {g g' : StructuralGraph}
    (h : g.Renumbering σ g') (hg : g.WellFormed) {i : Nat} {node node' : ClassNode}
    (hc : g.classNode? i = some node) (hr : node.Renumbered σ node') :
    (g'.shownMethodKeys node').Perm (g.shownMethodKeys node) := by
  unfold shownMethodKeys
  refine (hr.methods.filterMap _).trans (List.Perm.of_eq ?_)
  rw [List.filterMap_map]
  refine List.filterMap_congr fun m hm => ?_
  -- the renumbered method is shown under the same key exactly when the method is
  cases hx : g.methodNode? m with
  | none => simp [h.methodNode?_eq_none (Renumbering.methods_lt hg hc m hm) hx]
  | some x =>
    obtain ⟨x', hx', hu, -⟩ := h.methodNode? hx
    simp only [Function.comp_apply, hx', Option.bind_some]
    have hE := congrArg (fun y : MethodNode => if y.declared &&
      !ClassFile.Access.has y.access ClassFile.Access.synthetic then some y.key else none) hu
    exact hE

end StructuralGraph

namespace SourceTree

variable {t t₁ t₂ : SourceTree} {n cid : Nat}

/-- Attaching the methods of one class node: those the graph's class of its key shows. -/
def attachClass (g : StructuralGraph) (t : SourceTree) (cid : Nat) : SourceTree :=
  match (g.get? (t.node cid).key).bind g.classNode? with
  | some node => (g.shownMethodKeys node).foldl (fun t k => (t.addChild cid .method k).1) t
  | none => t

theorem attachMethods_eq (t : SourceTree) (g : StructuralGraph) :
    t.attachMethods g = (t.ids .cls).foldl (attachClass g) t := by
  unfold attachMethods
  congr 1
  funext u cid
  unfold attachClass
  cases (g.get? (u.node cid).key).bind g.classNode? with
  | none => rfl
  | some node => exact g.foldl_attach_eq node cid u

/-- Attaching the methods of one class to alike trees, by graphs renumbered one into the
other, leaves alike trees: the class of the key is the renumbered class, showing the same
methods in some order. -/
theorem AlikeFrom.attachClass {σ : Nat → Nat} {G₁ G₂ : StructuralGraph}
    (h : G₁.Renumbering σ G₂) (hg : G₁.WellFormed) (hg' : G₂.WellFormed)
    (ht : AlikeFrom n t₁ t₂) (hc : cid < n) :
    AlikeFrom n (attachClass G₁ t₁ cid) (attachClass G₂ t₂ cid) := by
  unfold SourceTree.attachClass
  rw [ht.key_eq hc, h.get?_eq hg']
  cases hi : G₁.get? (t₁.node cid).key with
  | none => exact ht
  | some i =>
    have hlt : i < G₁.size := (StructuralGraph.key_of_get? hi).1
    cases hcn : G₁.classNode? i with
    | none =>
      simp only [Option.map_some, Option.bind_some, hcn, h.classNode?_eq_none hlt hcn]
      exact ht
    | some node =>
      obtain ⟨node', hcn', hr⟩ := h.classNode? hcn
      simp only [Option.map_some, Option.bind_some, hcn, hcn']
      exact ht.foldl_addChild_method hc (h.shownMethodKeys_perm hg hcn hr)
        (hg.nodup_shownMethodKeys hcn)

theorem AlikeFrom.foldl_attachClass {σ : Nat → Nat} {G₁ G₂ : StructuralGraph}
    (h : G₁.Renumbering σ G₂) (hg : G₁.WellFormed) (hg' : G₂.WellFormed)
    (ht : AlikeFrom n t₁ t₂) {l : List Nat} (hl : ∀ cid ∈ l, cid < n) :
    AlikeFrom n (l.foldl (SourceTree.attachClass G₁) t₁)
      (l.foldl (SourceTree.attachClass G₂) t₂) := by
  induction l generalizing t₁ t₂ with
  | nil => exact ht
  | cons cid l ih =>
    exact ih (ht.attachClass h hg hg' (hl cid (by simp))) fun c hc => hl c (by simp [hc])

theorem attachMethods_alike {σ : Nat → Nat} {G₁ G₂ : StructuralGraph}
    (h : G₁.Renumbering σ G₂) (hg : G₁.WellFormed) (hg' : G₂.WellFormed) (t : SourceTree) :
    AlikeFrom t.size (t.attachMethods G₁) (t.attachMethods G₂) := by
  rw [attachMethods_eq, attachMethods_eq]
  exact (AlikeFrom.refl t le_rfl).foldl_attachClass h hg hg' fun cid hc => (mem_ids.mp hc).1

theorem keeps_foldl_addChild_method (hc : cid < t.size) (ks : List String) :
    Keeps t (ks.foldl (fun t k => (t.addChild cid .method k).1) t) := by
  induction ks generalizing t with
  | nil => exact .refl t
  | cons k ks ih =>
    have hstep := (addChild_spec (s := .method) (k := k) hc).1
    exact hstep.trans (ih (by have := hstep.size_le; omega))

theorem keeps_attachClass (g : StructuralGraph) (hc : cid < t.size) :
    Keeps t (attachClass g t cid) := by
  unfold attachClass
  split
  · exact keeps_foldl_addChild_method hc _
  · exact .refl t

theorem FreshFrom.attachClass (h : t.FreshFrom n) (g : StructuralGraph) (hc : cid < n)
    (hcls : (t.node cid).scope = .cls) : (attachClass g t cid).FreshFrom n := by
  unfold SourceTree.attachClass
  split
  · exact h.foldl_addChild_method hc hcls _
  · exact h

theorem Linked.freshFrom_size (h : t.Linked) : t.FreshFrom t.size := by
  -- a child names its parent, and nodes past the last have none
  have hchild : ∀ p c, c ∈ (t.node p).children → c < t.size := fun p c hc => by
    by_contra hlt
    have hp := (h.mem_children p c).mp hc
    rw [node_eq_default (not_lt.mp hlt)] at hp
    cases hp
  refine ⟨⟨fun i hi hlt => by omega, fun p c hc hnc => ?_⟩, le_rfl, fun i hi => ?_,
    fun i hi m => measure?_of_size_le t hi m⟩
  · exact absurd (hchild p c hc) (by omega)
  · rw [node_eq_default hi]
    rfl

theorem Linked.freshFrom_attachMethods (h : t.Linked) (g : StructuralGraph) :
    (t.attachMethods g).FreshFrom t.size := by
  rw [attachMethods_eq]
  -- the run keeps the levels of the first nodes, so each step meets a class node
  suffices hrun : ∀ l : List Nat, (∀ cid ∈ l, cid ∈ t.ids .cls) → ∀ u : SourceTree,
      u.FreshFrom t.size → Keeps t u → (l.foldl (attachClass g) u).FreshFrom t.size from
    hrun _ (fun _ hc => hc) t h.freshFrom_size (.refl t)
  intro l
  induction l with
  | nil => exact fun _ u hu _ => hu
  | cons cid l ih =>
    intro hl u hu hk
    obtain ⟨hlt, hs⟩ := mem_ids.mp (hl cid (by simp))
    have hcu : cid < u.size := by have := hk.size_le; omega
    have hcls : (u.node cid).scope = .cls := (hk.scope_node cid hlt).trans hs
    exact ih (fun c hc => hl c (by simp [hc])) _ (hu.attachClass g hlt hcls)
      (hk.trans (keeps_attachClass g hcu))

end SourceTree

end ClassMetrics
