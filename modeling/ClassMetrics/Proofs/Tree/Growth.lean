import ClassMetrics.Proofs.Tree.Shape
import ClassMetrics.Tree.Json
import Mathlib.Data.List.TakeWhile

/-!
How the tree builders grow source trees. Reading a tree from JSON, making one of class names
and attaching methods each add every node below a node of the level just above its own, so
their trees are `Grown` level by level, with every law of the shape of a tree and well formed.
A class's source file determines its package, so in a tree made of class names every class
lies below the file of its name and the package of its name, whatever the order of the names
and however many share a file.
-/

namespace ClassMetrics

theorem foldlM_ok_invariant {α σ ε : Type} {f : σ → α → Except ε σ} {P : σ → Prop}
    (l : List α) (hf : ∀ x a y, a ∈ l → P x → f x a = .ok y → P y) :
    ∀ {x y : σ}, P x → l.foldlM f x = .ok y → P y := by
  induction l with
  | nil => intro x y hx h; cases h; exact hx
  | cons a l ih =>
    intro x y hx h
    rw [List.foldlM_cons] at h
    cases hfa : f x a with
    | error e => rw [hfa] at h; cases h
    | ok z =>
      rw [hfa] at h
      exact ih (fun x b y hb => hf x b y (List.mem_cons_of_mem a hb)) (hf x a z (by simp) hx hfa) h

theorem foldl_invariant {α σ : Type} {f : σ → α → σ} {P : σ → Prop} (l : List α)
    (hf : ∀ x a, a ∈ l → P x → P (f x a)) : ∀ {x : σ}, P x → P (l.foldl f x) := by
  induction l with
  | nil => exact fun hx => hx
  | cons a l ih =>
    intro x hx
    exact ih (fun x b hb => hf x b (List.mem_cons_of_mem a hb)) (hf x a (by simp) hx)

namespace Key

theorem splitLastSlash_eq_none {cls : String} (h : '/' ∉ cls.toList) :
    splitLastSlash cls = none := by
  have hd : cls.toList.reverse.dropWhile (fun x => decide (x ≠ '/')) = [] :=
    List.dropWhile_eq_nil_iff.mpr fun x hx => decide_eq_true fun hx' =>
      h (List.mem_reverse.mp (hx' ▸ hx))
  unfold splitLastSlash
  dsimp only
  rw [hd]

theorem splitLastSlash_ofList {p q : List Char} (hq : '/' ∉ q) :
    splitLastSlash (String.ofList (p ++ '/' :: q)) = some (p, q) := by
  have hq' : ∀ x ∈ q.reverse, decide (x ≠ '/') = true := fun x hx =>
    decide_eq_true fun hx' => hq (List.mem_reverse.mp (hx' ▸ hx))
  unfold splitLastSlash
  dsimp only
  rw [String.toList_ofList, List.reverse_append, List.reverse_cons, List.append_assoc,
    List.singleton_append, List.dropWhile_append, List.dropWhile_eq_nil_iff.mpr hq',
    List.takeWhile_append, List.takeWhile_eq_self_iff.mpr hq']
  simp

theorem eq_of_splitLastSlash {cls : String} {p q : List Char}
    (h : splitLastSlash cls = some (p, q)) : cls.toList = p ++ '/' :: q ∧ '/' ∉ q := by
  unfold splitLastSlash at h
  dsimp only at h
  split at h
  · cases h
  · next c before hd =>
    obtain ⟨rfl, rfl⟩ := Prod.mk.inj (Option.some.inj h)
    -- the text after the last slash, the slash, and the text before it, read backwards
    have hc : c = '/' := by
      have hw : cls.toList.reverse.dropWhile (fun x => decide (x ≠ '/')) ≠ [] := by
        rw [hd]; exact List.cons_ne_nil _ _
      have hhead : ∀ (l : List Char) (w : l ≠ []), l = c :: before → l.head w = c := by
        rintro _ _ rfl; rfl
      have := List.head_dropWhile_not (fun x => decide (x ≠ '/')) hw
      rw [hhead _ hw hd] at this
      simpa using this
    have hsplit := List.takeWhile_append_dropWhile (p := fun x => decide (x ≠ '/'))
      (l := cls.toList.reverse)
    rw [hd, hc] at hsplit
    refine ⟨?_, fun hm => ?_⟩
    · have := congrArg List.reverse hsplit
      simpa using this.symm
    · simpa using List.mem_takeWhile_imp (List.mem_reverse.mp hm)

theorem not_mem_of_splitLastSlash_eq_none {cls : String} (h : splitLastSlash cls = none) :
    '/' ∉ cls.toList := by
  unfold splitLastSlash at h
  dsimp only at h
  split at h
  · next hd =>
    intro hm
    simpa using List.dropWhile_eq_nil_iff.mp hd '/' (List.mem_reverse.mpr hm)
  · cases h

theorem not_mem_fileName {q : List Char} (hq : '/' ∉ q) :
    '/' ∉ (String.ofList (q.takeWhile (· ≠ '$')) ++ ".java").toList := by
  rw [String.toList_append, String.toList_ofList, List.mem_append, not_or]
  exact ⟨fun hm => hq ((List.takeWhile_sublist _).subset hm), by decide⟩

theorem packageOf_of_not_mem {s : String} (h : '/' ∉ s.toList) : packageOf s = "" := by
  simp [packageOf, splitLastSlash_eq_none h]

theorem packageOf_of_toList {s : String} {p q : List Char} (h : s.toList = p ++ '/' :: q)
    (hq : '/' ∉ q) : packageOf s = String.ofList p := by
  rw [packageOf, ← String.ofList_toList (s := s), h, splitLastSlash_ofList hq]

theorem fileOf_eq (cls : String) : ∃ name : String, '/' ∉ name.toList ∧
    fileOf cls = if (packageOf cls).isEmpty then name else packageOf cls ++ "/" ++ name := by
  cases h : splitLastSlash cls with
  | none =>
    refine ⟨_, not_mem_fileName (not_mem_of_splitLastSlash_eq_none h), ?_⟩
    simp [fileOf, packageOf, h]
  | some pq =>
    obtain ⟨p, q⟩ := pq
    refine ⟨_, not_mem_fileName (eq_of_splitLastSlash h).2, ?_⟩
    simp [fileOf, packageOf, h, String.append_assoc]

theorem packageOf_fileOf (cls : String) : packageOf (fileOf cls) = packageOf cls := by
  obtain ⟨name, hname, hfile⟩ := fileOf_eq cls
  rw [hfile]
  split
  · next he => rw [packageOf_of_not_mem hname, String.isEmpty_iff.mp he]
  · rw [packageOf_of_toList (p := (packageOf cls).toList) (q := name.toList) (by simp) hname,
      String.ofList_toList]

end Key

namespace SourceTree

variable {t t' t'' : SourceTree} {p : Nat} {s : Scope} {k : String}

/-- `t'` keeps the nodes of `t` at their numbers and levels, and may have more. -/
structure Keeps (t t' : SourceTree) : Prop where
  size_le : t.size ≤ t'.size
  scope_node : ∀ i < t.size, (t'.node i).scope = (t.node i).scope

namespace Keeps

theorem refl (t : SourceTree) : Keeps t t := ⟨le_refl _, fun _ _ => rfl⟩

theorem trans (h₁ : Keeps t t') (h₂ : Keeps t' t'') : Keeps t t'' :=
  ⟨h₁.size_le.trans h₂.size_le, fun i hi =>
    (h₂.scope_node i (by have := h₁.size_le; omega)).trans (h₁.scope_node i hi)⟩

end Keeps

theorem SameShape.keeps (h : t'.SameShape t) : Keeps t t' :=
  ⟨h.size_eq.ge, fun i _ => h.scope_node i⟩

theorem addChild_spec (hp : p < t.size) :
    Keeps t (t.addChild p s k).1 ∧ (t.addChild p s k).2 < (t.addChild p s k).1.size ∧
      ((t.addChild p s k).1.node (t.addChild p s k).2).scope = s ∧
      ((t.addChild p s k).1.node (t.addChild p s k).2).key = k := by
  cases hf : t.find? s k with
  | some id =>
    rw [addChild_of_find?_eq_some hf]
    exact ⟨.refl t, find?_eq_some hf⟩
  | none =>
    have hnode := node_addChild (p := p) hf hp
    have hsize := size_addChild (p := p) hf
    have hid : (t.addChild p s k).2 = t.size := by simp [addChild, hf, size]
    refine ⟨⟨by omega, fun i hi => ?_⟩, by omega, ?_⟩
    · rw [hnode, if_neg (by omega)]
      split_ifs <;> simp_all
    · rw [hid, hnode, if_pos rfl]
      exact ⟨rfl, rfl⟩

theorem node_addChild_of_lt (hp : p < t.size) {i : Nat} (hi : i < t.size) :
    ((t.addChild p s k).1.node i).key = (t.node i).key ∧
      ((t.addChild p s k).1.node i).scope = (t.node i).scope ∧
      ((t.addChild p s k).1.node i).parent = (t.node i).parent := by
  cases hf : t.find? s k with
  | some id => rw [addChild_of_find?_eq_some hf]; exact ⟨rfl, rfl, rfl⟩
  | none =>
    rw [node_addChild hf hp, if_neg (by omega)]
    split_ifs <;> simp_all

theorem Grown.scope_root (h : t.Grown Scope.Encloses) : (t.node 0).scope = .project :=
  ((isWellFormed_iff.mp h.isWellFormed 0 h.linked.size_pos).1
    ((h.linked.parent_eq_none 0 h.linked.size_pos).mpr rfl))

/-! ### Trees made of class names -/

/-- Every node of level `s` hangs below a node of level `s'` keyed by `name` of its own key. -/
def HangsBelow (t : SourceTree) (s s' : Scope) (name : String → String) : Prop :=
  ∀ i < t.size, (t.node i).scope = s → ∃ f, (t.node i).parent = some f ∧
    (t.node f).scope = s' ∧ (t.node f).key = name (t.node i).key

theorem hangsBelow_new (project : String) {s s' : Scope} (hs : s ≠ .project)
    (name : String → String) : (new project).HangsBelow s s' name := by
  intro i hi his
  have : i = 0 := by simpa [SourceTree.new, size] using hi
  subst this
  exact absurd (by simpa [SourceTree.new, node] using his.symm) hs

/-- A node added below the node its level and key ask for, or at another level, keeps every
node of the level hanging where it should. -/
theorem HangsBelow.addChild {s₀ s' : Scope} {name : String → String}
    (h : t.HangsBelow s₀ s' name) (hl : t.Linked) (hp : p < t.size)
    (hs : s = s₀ → (t.node p).scope = s' ∧ (t.node p).key = name k) :
    (t.addChild p s k).1.HangsBelow s₀ s' name := by
  cases hf : t.find? s k with
  | some id => rw [addChild_of_find?_eq_some hf]; exact h
  | none =>
    have hsize := size_addChild (p := p) hf
    have hold := fun {i} (hi : i < t.size) => node_addChild_of_lt (s := s) (k := k) hp hi
    have hnew : (t.addChild p s k).1.node t.size = { key := k, scope := s, parent := some p } := by
      rw [node_addChild hf hp, if_pos rfl]
    intro i hi his
    by_cases hit : i = t.size
    · -- the new node hangs below `p`
      subst hit
      rw [hnew] at his ⊢
      obtain ⟨hps, hpk⟩ := hs his
      exact ⟨p, rfl, (hold hp).2.1.trans hps, (hold hp).1.trans hpk⟩
    · -- an old node keeps its parent, and so does the parent its level and key
      have hi' : i < t.size := by omega
      obtain ⟨hik, his', hip⟩ := hold hi'
      rw [his'] at his
      obtain ⟨f, hpf, hfs, hfk⟩ := h i hi' his
      have hf' : f < t.size := by have := hl.parent_lt i f hpf; omega
      obtain ⟨hfk', hfs', -⟩ := hold hf'
      exact ⟨f, hip.trans hpf, hfs'.trans hfs, by rw [hfk', hik]; exact hfk⟩

/-- Adding class names one after the other keeps a grown tree grown, with every class below the
file of its name and every file below the package of its name. -/
theorem foldl_addClassName_spec (names : List String) :
    ∀ t : SourceTree, t.Grown Scope.Encloses ∧ t.HangsBelow .cls .file Key.fileOf ∧
      t.HangsBelow .file .package Key.packageOf →
      (names.foldl addClassName t).Grown Scope.Encloses ∧
      (names.foldl addClassName t).HangsBelow .cls .file Key.fileOf ∧
      (names.foldl addClassName t).HangsBelow .file .package Key.packageOf := by
  induction names with
  | nil => exact fun _ h => h
  | cons name names ih =>
    rintro t ⟨hg, hc, hf⟩
    refine ih _ ?_
    dsimp only [addClassName]
    -- the package, found or added below the root
    have h₀ : (t.node 0).scope.Encloses .package := by rw [hg.scope_root]; rfl
    obtain ⟨-, hp₁, hs₁, hk₁⟩ := addChild_spec (s := .package) (k := Key.packageOf name)
      hg.linked.size_pos
    have hg₁ := Grown.addChild .package (Key.packageOf name) hg hg.linked.size_pos h₀
    have hc₁ := hc.addChild (s := .package) (k := Key.packageOf name) hg.linked hg.linked.size_pos
      fun h => absurd h (by decide)
    have hf₁ := hf.addChild (s := .package) (k := Key.packageOf name) hg.linked hg.linked.size_pos
      fun h => absurd h (by decide)
    generalize t.addChild 0 .package (Key.packageOf name) = r₁ at hp₁ hs₁ hk₁ hg₁ hc₁ hf₁ ⊢
    obtain ⟨t₁, p₁⟩ := r₁
    dsimp only at hp₁ hs₁ hk₁ hg₁ hc₁ hf₁ ⊢
    -- the file, found or added below the package
    obtain ⟨-, hp₂, hs₂, hk₂⟩ := addChild_spec (s := .file) (k := Key.fileOf name) hp₁
    have hg₂ := Grown.addChild .file (Key.fileOf name) hg₁ hp₁ (by rw [hs₁]; rfl)
    have hc₂ := hc₁.addChild (s := .file) (k := Key.fileOf name) hg₁.linked hp₁
      fun h => absurd h (by decide)
    have hf₂ := hf₁.addChild (s := .file) hg₁.linked hp₁ fun _ =>
      ⟨hs₁, by rw [hk₁, Key.packageOf_fileOf]⟩
    generalize t₁.addChild p₁ .file (Key.fileOf name) = r₂ at hp₂ hs₂ hk₂ hg₂ hc₂ hf₂ ⊢
    obtain ⟨t₂, p₂⟩ := r₂
    dsimp only at hp₂ hs₂ hk₂ hg₂ hc₂ hf₂ ⊢
    -- the class, found or added below the file
    exact ⟨.addChild .cls name hg₂ hp₂ (by rw [hs₂]; rfl),
      hc₂.addChild hg₂.linked hp₂ fun _ => ⟨hs₂, hk₂⟩,
      hf₂.addChild hg₂.linked hp₂ fun h => absurd h (by decide)⟩

theorem ofClassNames_spec (project : String) (names : List String) :
    (ofClassNames project names).Grown Scope.Encloses ∧
      (ofClassNames project names).HangsBelow .cls .file Key.fileOf ∧
      (ofClassNames project names).HangsBelow .file .package Key.packageOf := by
  rw [ofClassNames_eq_foldl]
  exact foldl_addClassName_spec names _
    ⟨.new project, hangsBelow_new project (by decide) _, hangsBelow_new project (by decide) _⟩

/-- In a tree made of class names, every class has as file the node of its source file, and
as package the node of its package. -/
theorem ofClassNames_containers (project : String) (names : List String) {c : Nat}
    (hc : c < (ofClassNames project names).size)
    (hs : ((ofClassNames project names).node c).scope = .cls) :
    ∃ f p, (ofClassNames project names).ancestor? c .file = some f ∧
      ((ofClassNames project names).node f).key =
        Key.fileOf ((ofClassNames project names).node c).key ∧
      (ofClassNames project names).ancestor? c .package = some p ∧
      ((ofClassNames project names).node p).key =
        Key.packageOf ((ofClassNames project names).node c).key := by
  obtain ⟨hg, hcls, hfile⟩ := ofClassNames_spec project names
  generalize ofClassNames project names = t at hg hcls hfile hc hs ⊢
  have hl := hg.linked
  -- the class hangs below its file, and the file below its package
  obtain ⟨f, hcf, hfs, hfk⟩ := hcls c hc hs
  have hf : f < t.size := by have := hl.parent_lt c f hcf; omega
  obtain ⟨p, hfp, hps, hpk⟩ := hfile f hf hfs
  have hp : p < t.size := by have := hl.parent_lt f p hfp; omega
  refine ⟨f, p, ?_, hfk, ?_, by rw [hpk, hfk, Key.packageOf_fileOf]⟩
  · rw [hl.ancestor?_of_parent hc (by rw [hs]; decide) hcf, hl.ancestor?_self hf hfs]
  · rw [hl.ancestor?_of_parent hc (by rw [hs]; decide) hcf,
      hl.ancestor?_of_parent hf (by rw [hfs]; decide) hfp, hl.ancestor?_self hp hps]

/-! ### Trees read from JSON, and attached methods -/

theorem supply_sameShape {id : Nat} {ms : List (Metric × Float)} (h : t.supply id ms = .ok t') :
    t'.SameShape t := by
  refine foldlM_ok_invariant (P := fun t' => t'.SameShape t) ms ?_ (.refl t) h
  rintro x ⟨m, v⟩ y - hx hxy
  by_cases hk : m.kind = .sum
  · simp only [hk, if_true] at hxy
    cases hxy
    exact (setMeasure_sameShape _ _ _ _).trans hx
  · simp [hk] at hxy

/-- Planting the levels of a document below a node whose level encloses the first of them,
each enclosing the next, grows the tree level by level and keeps the nodes it had. -/
theorem plant_grown : ∀ (levels : List Scope) {t t' : SourceTree} {parent : Nat}
    {specs : List NodeSpec}, t.Grown Scope.Encloses → parent < t.size →
    List.IsChain Scope.Encloses ((t.node parent).scope :: levels) →
    plant levels t parent specs = .ok t' → t'.Grown Scope.Encloses ∧ Keeps t t'
  | [], t, t', _, _, hg, _, _, h => by cases h; exact ⟨hg, .refl t⟩
  | s :: rest, t₀, t', parent, specs, hg₀, hp₀, hc, h => by
    have hs : (t₀.node parent).scope.Encloses s := (List.isChain_cons_cons.mp hc).1
    have hrest : List.IsChain Scope.Encloses (s :: rest) := (List.isChain_cons_cons.mp hc).2
    simp only [plant] at h
    -- each node of the level is added below `parent`, supplied, and given its own levels
    refine foldlM_ok_invariant (P := fun t => t.Grown Scope.Encloses ∧ Keeps t₀ t) specs ?_
      ⟨hg₀, .refl t₀⟩ h
    rintro t spec t'' - ⟨hg, hk⟩ hstep
    have hp : parent < t.size := by have := hk.size_le; omega
    have hs' : (t.node parent).scope.Encloses s := by rw [hk.scope_node parent hp₀]; exact hs
    obtain ⟨hk₁, hid, hsid, -⟩ := addChild_spec (s := s) (k := spec.key) hp
    have hg₁ := Grown.addChild s spec.key hg hp hs'
    generalize t.addChild parent s spec.key = r at hk₁ hid hsid hg₁ hstep
    obtain ⟨t₁, id⟩ := r
    dsimp only at hk₁ hid hsid hg₁ hstep
    cases hsup : t₁.supply id spec.measures with
    | error e => simp [hsup, bind, Except.bind] at hstep
    | ok t₂ =>
      simp only [hsup, bind, Except.bind] at hstep
      have h₂ := supply_sameShape hsup
      have hid₂ : id < t₂.size := h₂.size_eq ▸ hid
      obtain ⟨hg₃, hk₃⟩ := plant_grown rest (hg₁.reshape h₂) hid₂
        (by rw [h₂.scope_node, hsid]; exact hrest) hstep
      exact ⟨hg₃, hk.trans (hk₁.trans (h₂.keeps.trans hk₃))⟩

theorem grown_ofSpec {spec : NodeSpec} (h : ofSpec spec = .ok t) : t.Grown Scope.Encloses := by
  unfold ofSpec at h
  cases hsup : (new spec.key).supply 0 spec.measures with
  | error e => simp [hsup, bind, Except.bind] at h
  | ok t₁ =>
    simp only [hsup, bind, Except.bind] at h
    have h₁ := supply_sameShape hsup
    refine (plant_grown NodeSpec.childScopes ((Grown.new spec.key).reshape h₁)
      (by rw [h₁.size_eq]; simp [SourceTree.new, size]) ?_ h).1
    rw [h₁.scope_node]
    simp [SourceTree.new, node, NodeSpec.childScopes, Scope.Encloses, Scope.child?]

theorem grown_ofJsonText {text : String} (h : ofJsonText text = .ok t) :
    t.Grown Scope.Encloses := by
  unfold ofJsonText ofJsonValue at h
  split at h
  · split at h
    · exact grown_ofSpec h
    · cases h
  · cases h

/-- Attaching methods adds each below a class node of the tree. -/
theorem Grown.attachMethods (h : t.Grown Scope.Encloses) (g : StructuralGraph) :
    (t.attachMethods g).Grown Scope.Encloses := by
  unfold SourceTree.attachMethods
  refine (foldl_invariant (P := fun t' => t'.Grown Scope.Encloses ∧ Keeps t t') _ ?_
    ⟨h, .refl t⟩).1
  rintro t₁ cid hcid ⟨hg₁, hk₁⟩
  obtain ⟨hlt, hsc⟩ := List.mem_filter.mp hcid
  have hc : cid < t.size := List.mem_range.mp hlt
  have hs : (t₁.node cid).scope = .cls := by rw [hk₁.scope_node cid hc]; simpa using hsc
  have hc₁ : cid < t₁.size := by have := hk₁.size_le; omega
  split
  · refine foldl_invariant (P := fun t' => t'.Grown Scope.Encloses ∧ Keeps t t') _ ?_
      ⟨hg₁, hk₁⟩
    rintro t₂ m - ⟨hg₂, hk₂⟩
    have hc₂ : cid < t₂.size := by have := hk₂.size_le; omega
    split
    · split
      · have hs₂ : (t₂.node cid).scope.Encloses .method := by
          rw [hk₂.scope_node cid hc, ← hk₁.scope_node cid hc, hs]; rfl
        exact ⟨.addChild .method _ hg₂ hc₂ hs₂, hk₂.trans (addChild_spec hc₂).1⟩
      · exact ⟨hg₂, hk₂⟩
    · exact ⟨hg₂, hk₂⟩
  · exact ⟨hg₁, hk₁⟩

/-! ### The shape of source trees -/

/-- The shape of source trees. Every run of `addChild` calls, each given a node of the tree as
parent, leaves a tree with the laws of `ShapeLaws`. A tree grown with each parent at the level
just above its child's is well formed, and the JSON reader, `ofClassNames` and
`attachMethods` grow trees so. In a tree made of class names every class has as file and as
package the nodes of the file and the package its name gives. -/
theorem shape_of_grown :
    (∀ (R : Scope → Scope → Prop) (t : SourceTree), t.Grown R → t.ShapeLaws) ∧
    (∀ t : SourceTree, t.Grown Scope.Encloses → t.isWellFormed = true) ∧
    (∀ (text : String) (t : SourceTree), ofJsonText text = .ok t → t.Grown Scope.Encloses) ∧
    (∀ project names, (ofClassNames project names).Grown Scope.Encloses) ∧
    (∀ (t : SourceTree) (g : StructuralGraph), t.Grown Scope.Encloses →
      (t.attachMethods g).Grown Scope.Encloses) ∧
    (∀ project names c, c < (ofClassNames project names).size →
      ((ofClassNames project names).node c).scope = .cls →
      ∃ f p, (ofClassNames project names).ancestor? c .file = some f ∧
        ((ofClassNames project names).node f).key =
          Key.fileOf ((ofClassNames project names).node c).key ∧
        (ofClassNames project names).ancestor? c .package = some p ∧
        ((ofClassNames project names).node p).key =
          Key.packageOf ((ofClassNames project names).node c).key) :=
  ⟨fun _ _ h => h.linked.shapeLaws, fun _ h => h.isWellFormed, fun _ _ h => grown_ofJsonText h,
    fun project names => (ofClassNames_spec project names).1, fun _ g h => h.attachMethods g,
    fun project names _ hc hs => ofClassNames_containers project names hc hs⟩

end SourceTree

end ClassMetrics
