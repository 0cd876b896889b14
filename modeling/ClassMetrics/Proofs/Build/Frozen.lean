import ClassMetrics.Proofs.Graph.Lookup
import ClassMetrics.Proofs.Loader.Commute
import Mathlib.Data.List.Find

/-! What member lookups read stays fixed while classes are loaded at the structure level.
`FrozenBelow n g g'` says that `g'` grows out of `g` without touching what a lookup from below
`n` reads: the supertypes of the classes below `n`, and whether each of their members is
declared; a member such a class gains later is not declared. A newly loaded class declares
members only under its own key, and when no class in the graph has a `#` in its name, no older
node has such a key. -/

namespace ClassMetrics

open ClassFile

theorem Key.eq_or_member_of_append_eq {K X a y : String} (hX : Key.Plain X)
    (h : K ++ "#" ++ a = X ++ "#" ++ y) : K = X ∨ ∃ w, K = X ++ "#" ++ w := by
  have hl : K.toList ++ '#' :: a.toList = X.toList ++ '#' :: y.toList := by
    simpa [String.toList_append] using congrArg String.toList h
  rcases List.append_eq_append_iff.mp hl with ⟨c, hX', hrest⟩ | ⟨c, hK, hrest⟩
  · -- `X` is `K` followed by `c`, and `c` starts with `#` unless it is empty
    cases c with
    | nil => exact .inl (String.ext (by simpa using hX'.symm))
    | cons z c =>
      have hz : z = '#' := (List.cons.inj hrest).1.symm
      exact absurd (by rw [hX', hz]; simp) hX
  · cases c with
    | nil => exact .inl (String.ext (by simpa using hK))
    | cons z w =>
      have hz : z = '#' := (List.cons.inj hrest).1.symm
      refine .inr ⟨String.ofList w, String.ext ?_⟩
      rw [hK, hz]
      simp [String.toList_append]

namespace StructuralGraph

variable {g g' g'' : StructuralGraph} {n : Nat}

/-- No class of the graph has a `#` in its name. -/
def ClassKeysPlain (g : StructuralGraph) : Prop :=
  ∀ j c, g.classNode? j = some c → Key.Plain (g.key j)

theorem ClassKeysPlain.of_extends (h : g'.ClassKeysPlain) (hext : g.Extends g') :
    g.ClassKeysPlain := by
  intro j c hc
  obtain ⟨c', hc', -⟩ := hext.classNode j c hc
  rw [← hext.key_eq (lt_size_of_resource? (classNode?_eq_some.mp hc))]
  exact h j c' hc'

/-- A plain name that is not in a graph with plain classes is in front of no key: a member key
starts with its owner's key, so a key `X#…` would lead up, owner by owner, to a node keyed
`X`. The induction is on the length of the key. -/
theorem WellFormed.key_ne_member_of_fresh (hg : g.WellFormed) (hplain : g.ClassKeysPlain)
    {X : String} (hX : Key.Plain X) (hfresh : g.get? X = none) :
    ∀ j, j < g.size → ∀ y, g.key j ≠ X ++ "#" ++ y := by
  suffices h : ∀ len j, (g.key j).length = len → j < g.size → ∀ y, g.key j ≠ X ++ "#" ++ y from
    fun j => h _ j rfl
  intro len
  induction len using Nat.strong_induction_on with
  | _ len ih =>
    intro j hlen hj y hkey
    -- a member keyed by its owner's key `K`, `#`, and the rest
    have hmember : ∀ o r, o < g.size → g.key j = g.key o ++ "#" ++ r → False := by
      intro o r ho hjo
      rcases Key.eq_or_member_of_append_eq hX (hjo.symm.trans hkey) with hK | ⟨w, hw⟩
      · exact get?_eq_none_iff.mp hfresh o ho hK
      · have hshorter : (g.key o).length < len := by
          have hsep : "#".length = 1 := rfl
          rw [← hlen, hjo, String.length_append, String.length_append, hsep]
          omega
        exact ih _ hshorter o rfl ho w hw
    obtain ⟨r, hr⟩ := Option.isSome_iff_exists.mp (resource?_isSome_iff.mpr hj)
    cases r with
    | cls c => exact Key.ne_append_of_plain (hplain j c (classNode?_eq_some.mpr hr)) X y hkey
    | method m =>
      obtain ⟨ho, hk⟩ := hg.method_key j m (methodNode?_eq_some.mpr hr)
      refine hmember m.owner (m.name ++ m.descriptor) ho ?_
      rw [key_of_resource? hr, ← Key.method_eq_append]
      exact hk
    | field f =>
      obtain ⟨ho, hk⟩ := hg.field_key j f (fieldNode?_eq_some.mpr hr)
      refine hmember f.owner f.name ho ?_
      rw [key_of_resource? hr]
      exact hk

/-! ### Members seen from a larger graph -/

section Owned

theorem Extends.methodNode?_owner (hext : g.Extends g') {j : Nat} (hj : j < g.size) :
    (g'.methodNode? j).map (·.owner) = (g.methodNode? j).map (·.owner) := by
  obtain ⟨r, hr⟩ := Option.isSome_iff_exists.mp (resource?_isSome_iff.mpr hj)
  cases r with
  | cls c =>
    obtain ⟨c', hc', -⟩ := hext.classNode j c (classNode?_eq_some.mpr hr)
    unfold methodNode?
    rw [hr, classNode?_eq_some.mp hc']
  | method m =>
    obtain ⟨m', hm', -, ho, -⟩ := hext.methodNode j m (methodNode?_eq_some.mpr hr)
    rw [hm', methodNode?_eq_some.mpr hr, Option.map_some, Option.map_some, ho]
  | field f =>
    obtain ⟨f', hf', -⟩ := hext.fieldNode j f (fieldNode?_eq_some.mpr hr)
    unfold methodNode?
    rw [hr, fieldNode?_eq_some.mp hf']

theorem Extends.fieldNode?_owner (hext : g.Extends g') {j : Nat} (hj : j < g.size) :
    (g'.fieldNode? j).map (·.owner) = (g.fieldNode? j).map (·.owner) := by
  obtain ⟨r, hr⟩ := Option.isSome_iff_exists.mp (resource?_isSome_iff.mpr hj)
  cases r with
  | cls c =>
    obtain ⟨c', hc', -⟩ := hext.classNode j c (classNode?_eq_some.mpr hr)
    unfold fieldNode?
    rw [hr, classNode?_eq_some.mp hc']
  | method m =>
    obtain ⟨m', hm', -⟩ := hext.methodNode j m (methodNode?_eq_some.mpr hr)
    unfold fieldNode?
    rw [hr, methodNode?_eq_some.mp hm']
  | field f =>
    obtain ⟨f', hf', -, ho, -⟩ := hext.fieldNode j f (fieldNode?_eq_some.mpr hr)
    rw [hf', fieldNode?_eq_some.mpr hr, Option.map_some, Option.map_some, ho]

theorem any_owner_eq {α : Type} {owner : α → Nat} {o o' : Option α}
    (h : o'.map owner = o.map owner) (k : Nat) :
    o'.any (owner · == k) = o.any (owner · == k) := by
  cases o <;> cases o' <;> simp_all

theorem Extends.ownedMethods_eq (hext : g.Extends g') (k : Nat) :
    ∃ later, g'.ownedMethods k = g.ownedMethods k ++ later ∧
      ∀ j ∈ later, g.size ≤ j ∧ ∃ m, g'.methodNode? j = some m ∧ m.owner = k := by
  obtain ⟨d, hd⟩ : ∃ d, g'.size = g.size + d := ⟨g'.size - g.size, by have := hext.size_le; omega⟩
  refine ⟨((List.range d).map (g.size + ·)).filter fun j => (g'.methodNode? j).any (·.owner == k),
    ?_, ?_⟩
  · unfold ownedMethods
    rw [hd, List.range_add, List.filter_append]
    congr 1
    apply List.filter_congr
    intro j hj
    exact any_owner_eq (hext.methodNode?_owner (List.mem_range.mp hj)) k
  · intro j hj
    obtain ⟨hmem, hown⟩ := List.mem_filter.mp hj
    obtain ⟨x, -, rfl⟩ := List.mem_map.mp hmem
    rw [Option.any_eq_true] at hown
    obtain ⟨m, hm, ho⟩ := hown
    exact ⟨Nat.le_add_right _ _, m, hm, by simpa using ho⟩

theorem Extends.ownedFields_eq (hext : g.Extends g') (k : Nat) :
    ∃ later, g'.ownedFields k = g.ownedFields k ++ later ∧
      ∀ j ∈ later, g.size ≤ j ∧ ∃ f, g'.fieldNode? j = some f ∧ f.owner = k := by
  obtain ⟨d, hd⟩ : ∃ d, g'.size = g.size + d := ⟨g'.size - g.size, by have := hext.size_le; omega⟩
  refine ⟨((List.range d).map (g.size + ·)).filter fun j => (g'.fieldNode? j).any (·.owner == k),
    ?_, ?_⟩
  · unfold ownedFields
    rw [hd, List.range_add, List.filter_append]
    congr 1
    apply List.filter_congr
    intro j hj
    exact any_owner_eq (hext.fieldNode?_owner (List.mem_range.mp hj)) k
  · intro j hj
    obtain ⟨hmem, hown⟩ := List.mem_filter.mp hj
    obtain ⟨x, -, rfl⟩ := List.mem_map.mp hmem
    rw [Option.any_eq_true] at hown
    obtain ⟨f, hf, ho⟩ := hown
    exact ⟨Nat.le_add_right _ _, f, hf, by simpa using ho⟩

end Owned

/-! ### The frozen part of a graph -/

/-- `g'` grows out of `g` and keeps what a lookup from below `n` reads: the supertypes of the
classes below `n`, and whether the members owned below `n` are declared; a member that a node
below `n` gains is not declared. -/
structure FrozenBelow (n : Nat) (g g' : StructuralGraph) : Prop where
  grows : g.Extends g'
  supertypes : ∀ c x, c < n → g.classNode? c = some x →
    ∃ x', g'.classNode? c = some x' ∧ x'.superClass = x.superClass ∧ x'.interfaces = x.interfaces
  method_declared : ∀ j m m', m.owner < n → g.methodNode? j = some m → g'.methodNode? j = some m' →
    m'.declared = m.declared
  field_declared : ∀ j f f', f.owner < n → g.fieldNode? j = some f → g'.fieldNode? j = some f' →
    f'.declared = f.declared
  new_method : ∀ j m', g.size ≤ j → g'.methodNode? j = some m' → m'.owner < n → m'.declared = false
  new_field : ∀ j f', g.size ≤ j → g'.fieldNode? j = some f' → f'.owner < n → f'.declared = false

namespace FrozenBelow

theorem refl (g : StructuralGraph) (n : Nat) : FrozenBelow n g g where
  grows := Extends.refl g
  supertypes _ x _ hx := ⟨x, hx, rfl, rfl⟩
  method_declared _ _ _ _ hm hm' := by rw [hm] at hm'; cases hm'; rfl
  field_declared _ _ _ _ hf hf' := by rw [hf] at hf'; cases hf'; rfl
  new_method _ _ hj hm _ := absurd (lt_size_of_resource? (methodNode?_eq_some.mp hm)) (by omega)
  new_field _ _ hj hf _ := absurd (lt_size_of_resource? (fieldNode?_eq_some.mp hf)) (by omega)

theorem mono {m : Nat} (h : FrozenBelow n g g') (hmn : m ≤ n) : FrozenBelow m g g' where
  grows := h.grows
  supertypes c x hc hx := h.supertypes c x (by omega) hx
  method_declared j x x' ho := h.method_declared j x x' (by omega)
  field_declared j x x' ho := h.field_declared j x x' (by omega)
  new_method j x hj hx ho := h.new_method j x hj hx (by omega)
  new_field j x hj hx ho := h.new_field j x hj hx (by omega)

theorem trans (h₁ : FrozenBelow n g g') (h₂ : FrozenBelow n g' g'') : FrozenBelow n g g'' where
  grows := h₁.grows.trans h₂.grows
  supertypes c x hc hx := by
    obtain ⟨x', hx', hs', hi'⟩ := h₁.supertypes c x hc hx
    obtain ⟨x'', hx'', hs'', hi''⟩ := h₂.supertypes c x' hc hx'
    exact ⟨x'', hx'', hs''.trans hs', hi''.trans hi'⟩
  method_declared j m m'' ho hm hm'' := by
    obtain ⟨m', hm', -, ho', -⟩ := h₁.grows.methodNode j m hm
    rw [h₂.method_declared j m' m'' (ho' ▸ ho) hm' hm'', h₁.method_declared j m m' ho hm hm']
  field_declared j f f'' ho hf hf'' := by
    obtain ⟨f', hf', -, ho', -⟩ := h₁.grows.fieldNode j f hf
    rw [h₂.field_declared j f' f'' (ho' ▸ ho) hf' hf'', h₁.field_declared j f f' ho hf hf']
  new_method j m'' hj hm'' ho := by
    by_cases hj' : j < g'.size
    · -- the member was added by the first step and kept by the second
      have hown := h₂.grows.methodNode?_owner hj'
      rw [hm''] at hown
      obtain ⟨m', hm', ho'⟩ := Option.map_eq_some_iff.mp hown.symm
      rw [h₂.method_declared j m' m'' (ho' ▸ ho) hm' hm'']
      exact h₁.new_method j m' hj hm' (ho' ▸ ho)
    · exact h₂.new_method j m'' (by omega) hm'' ho
  new_field j f'' hj hf'' ho := by
    by_cases hj' : j < g'.size
    · have hown := h₂.grows.fieldNode?_owner hj'
      rw [hf''] at hown
      obtain ⟨f', hf', ho'⟩ := Option.map_eq_some_iff.mp hown.symm
      rw [h₂.field_declared j f' f'' (ho' ▸ ho) hf' hf'']
      exact h₁.new_field j f' hj hf' (ho' ▸ ho)
    · exact h₂.new_field j f'' (by omega) hf'' ho

/-- An update that leaves the nodes alone, such as recording an edge. -/
theorem of_nodes_eq (h : g'.nodes = g.nodes) : FrozenBelow n g g' := by
  have hres : ∀ j, g'.resource? j = g.resource? j := fun j => by unfold resource?; rw [h]
  have hcls : ∀ j, g'.classNode? j = g.classNode? j := fun j => by unfold classNode?; rw [hres]
  have hmeth : ∀ j, g'.methodNode? j = g.methodNode? j := fun j => by unfold methodNode?; rw [hres]
  have hfld : ∀ j, g'.fieldNode? j = g.fieldNode? j := fun j => by unfold fieldNode?; rw [hres]
  have hsize : g'.size = g.size := by unfold size; rw [h]
  refine ⟨extends_of_nodes_eq h, fun _ x _ hx => ⟨x, by rw [hcls, hx], rfl, rfl⟩, ?_, ?_, ?_, ?_⟩
  · intro j m m' _ hm hm'
    rw [hmeth, hm] at hm'
    cases hm'
    rfl
  · intro j f f' _ hf hf'
    rw [hfld, hf] at hf'
    cases hf'
    rfl
  · intro j m' hj hm' _
    have := lt_size_of_resource? (methodNode?_eq_some.mp hm')
    omega
  · intro j f' hj hf' _
    have := lt_size_of_resource? (fieldNode?_eq_some.mp hf')
    omega

theorem methodNode?_of_size_le {j : Nat} (hj : g.size ≤ j) : g.methodNode? j = none := by
  cases hm : g.methodNode? j with
  | none => rfl
  | some m => exact absurd (lt_size_of_resource? (methodNode?_eq_some.mp hm)) (by omega)

theorem fieldNode?_of_size_le {j : Nat} (hj : g.size ≤ j) : g.fieldNode? j = none := by
  cases hf : g.fieldNode? j with
  | none => rfl
  | some f => exact absurd (lt_size_of_resource? (fieldNode?_eq_some.mp hf)) (by omega)

/-- A new node, unless it is a declared member owned below `n`. -/
theorem push {r : Resource} (hm : ∀ m, r = .method m → m.owner < n → m.declared = false)
    (hf : ∀ f, r = .field f → f.owner < n → f.declared = false) :
    FrozenBelow n g { g with nodes := g.nodes.push r } where
  grows := extends_push r
  supertypes c x _ hx := by
    have hc : c ≠ g.size := Nat.ne_of_lt (lt_size_of_resource? (classNode?_eq_some.mp hx))
    exact ⟨x, by rw [classNode?_push, if_neg hc, hx], rfl, rfl⟩
  method_declared j m m' _ hm₀ hm' := by
    have hj : j ≠ g.size := Nat.ne_of_lt (lt_size_of_resource? (methodNode?_eq_some.mp hm₀))
    rw [methodNode?_push, if_neg hj, hm₀] at hm'
    cases hm'
    rfl
  field_declared j f f' _ hf₀ hf' := by
    have hj : j ≠ g.size := Nat.ne_of_lt (lt_size_of_resource? (fieldNode?_eq_some.mp hf₀))
    rw [fieldNode?_push, if_neg hj, hf₀] at hf'
    cases hf'
    rfl
  new_method j m' hj hm' ho := by
    rw [methodNode?_push] at hm'
    by_cases hjs : j = g.size
    · rw [if_pos hjs] at hm'
      cases r with
      | method m =>
        cases hm'
        exact hm m' rfl ho
      | cls _ => cases hm'
      | field _ => cases hm'
    · rw [if_neg hjs, methodNode?_of_size_le hj] at hm'
      cases hm'
  new_field j f' hj hf' ho := by
    rw [fieldNode?_push] at hf'
    by_cases hjs : j = g.size
    · rw [if_pos hjs] at hf'
      cases r with
      | field f =>
        cases hf'
        exact hf f' rfl ho
      | cls _ => cases hf'
      | method _ => cases hf'
    · rw [if_neg hjs, fieldNode?_of_size_le hj] at hf'
      cases hf'

/-- A change of one class that keeps its key and level, and its supertypes when it is below
`n`. -/
theorem modifyClass {i : Nat} {f : ClassNode → ClassNode}
    (hf : ∀ c, g.classNode? i = some c → (f c).key = c.key ∧ LevelRises c.level (f c).level ∧
      (i < n → (f c).superClass = c.superClass ∧ (f c).interfaces = c.interfaces)) :
    FrozenBelow n g (g.modifyClass i f) where
  grows := extends_modifyClass fun c hc => ⟨(hf c hc).1, (hf c hc).2.1⟩
  supertypes c x hc hx := by
    by_cases hic : i = c
    · subst hic
      obtain ⟨hsup, hifs⟩ := (hf x hx).2.2 hc
      exact ⟨f x, by rw [classNode?_modifyClass, if_pos rfl, hx]; rfl, hsup, hifs⟩
    · exact ⟨x, by rw [classNode?_modifyClass, if_neg hic, hx], rfl, rfl⟩
  method_declared j m m' _ hm hm' := by
    rw [methodNode?_modifyClass, hm] at hm'
    cases hm'
    rfl
  field_declared j f f' _ hf₀ hf' := by
    rw [fieldNode?_modifyClass, hf₀] at hf'
    cases hf'
    rfl
  new_method j m' hj hm' _ := by
    rw [methodNode?_modifyClass, methodNode?_of_size_le hj] at hm'
    cases hm'
  new_field j f' hj hf' _ := by
    rw [fieldNode?_modifyClass, fieldNode?_of_size_le hj] at hf'
    cases hf'

theorem addResource {r : Resource} (hm : ∀ m, r = .method m → m.owner < n → m.declared = false)
    (hf : ∀ f, r = .field f → f.owner < n → f.declared = false) :
    FrozenBelow n g (g.addResource r).1 := by
  -- joining the owner's list touches neither the owner's key, level nor supertypes
  have hlist : ∀ (g₁ : StructuralGraph) (o : Nat) (upd : ClassNode → ClassNode),
      (∀ c, upd c = { c with methods := (upd c).methods, fields := (upd c).fields }) →
      FrozenBelow n g₁ (g₁.modifyClass o upd) := fun g₁ o upd hupd =>
    modifyClass fun c _ => by rw [hupd c]; exact ⟨rfl, LevelRises.refl _, fun _ => ⟨rfl, rfl⟩⟩
  cases hk : g.get? r.key with
  | some i => rw [addResource_of_get?_eq_some hk]; exact refl g n
  | none =>
    have hpush := push (g := g) hm hf
    cases r with
    | cls c => rw [addResource_cls hk]; exact hpush
    | method m => rw [addResource_method hk]; exact hpush.trans (hlist _ _ _ fun _ => rfl)
    | field f => rw [addResource_field hk]; exact hpush.trans (hlist _ _ _ fun _ => rfl)

/-- A change of one method owned at `n` or above. -/
theorem modifyMethod {i : Nat} {u : MethodNode → MethodNode}
    (hu : ∀ m, (u m).key = m.key ∧ (u m).owner = m.owner ∧ (u m).name = m.name ∧
      (u m).descriptor = m.descriptor)
    (hi : ∀ m, g.methodNode? i = some m → n ≤ m.owner) : FrozenBelow n g (g.modifyMethod i u) where
  grows := extends_modifyMethod hu
  supertypes c x _ hx := ⟨x, by rw [classNode?_modifyMethod, hx], rfl, rfl⟩
  method_declared j m m' ho hm hm' := by
    have hij : i ≠ j := fun h => absurd (hi m (h ▸ hm)) (by omega)
    rw [methodNode?_modifyMethod, if_neg hij, hm] at hm'
    cases hm'
    rfl
  field_declared j f f' _ hf hf' := by
    rw [fieldNode?_modifyMethod, hf] at hf'
    cases hf'
    rfl
  new_method j m' hj hm' _ := by
    rw [methodNode?_modifyMethod, methodNode?_of_size_le hj] at hm'
    split at hm' <;> cases hm'
  new_field j f' hj hf' _ := by
    rw [fieldNode?_modifyMethod, fieldNode?_of_size_le hj] at hf'
    cases hf'

/-- A change of one field owned at `n` or above. -/
theorem modifyField {i : Nat} {v : FieldNode → FieldNode}
    (hv : ∀ f, (v f).key = f.key ∧ (v f).owner = f.owner ∧ (v f).name = f.name)
    (hi : ∀ f, g.fieldNode? i = some f → n ≤ f.owner) : FrozenBelow n g (g.modifyField i v) where
  grows := extends_modifyField hv
  supertypes c x _ hx := ⟨x, by rw [classNode?_modifyField, hx], rfl, rfl⟩
  method_declared j m m' _ hm hm' := by
    rw [methodNode?_modifyField, hm] at hm'
    cases hm'
    rfl
  field_declared j f f' ho hf hf' := by
    have hij : i ≠ j := fun h => absurd (hi f (h ▸ hf)) (by omega)
    rw [fieldNode?_modifyField, if_neg hij, hf] at hf'
    cases hf'
    rfl
  new_method j m' hj hm' _ := by
    rw [methodNode?_modifyField, methodNode?_of_size_le hj] at hm'
    cases hm'
  new_field j f' hj hf' _ := by
    rw [fieldNode?_modifyField, fieldNode?_of_size_le hj] at hf'
    split at hf' <;> cases hf'

end FrozenBelow

/-! ### Declaring the members of a new class -/

/-- Every member keyed under `X` is owned at `n` or above. -/
def MembersAbove (n : Nat) (X : String) (g : StructuralGraph) : Prop :=
  ∀ j, j < g.size → (∃ y, g.key j = X ++ "#" ++ y) →
    (∀ m, g.methodNode? j = some m → n ≤ m.owner) ∧ (∀ f, g.fieldNode? j = some f → n ≤ f.owner)

namespace MembersAbove

variable {X : String}

theorem of_fresh (h : ∀ j, j < g.size → ∀ y, g.key j ≠ X ++ "#" ++ y) : MembersAbove n X g :=
  fun j hj ⟨y, hy⟩ => absurd hy (h j hj y)

theorem push (h : MembersAbove n X g) {r : Resource} (hm : ∀ m, r = .method m → n ≤ m.owner)
    (hf : ∀ f, r = .field f → n ≤ f.owner) : MembersAbove n X { g with nodes := g.nodes.push r } := by
  intro j hj hkey
  rw [size_push] at hj
  rw [key_push] at hkey
  by_cases hjs : j = g.size
  · -- the new node is owned as `r` says
    rw [methodNode?_push, fieldNode?_push, if_pos hjs, if_pos hjs]
    refine ⟨fun m' hm' => ?_, fun f' hf' => ?_⟩
    · cases r with
      | method m => cases hm'; exact hm _ rfl
      | cls _ => cases hm'
      | field _ => cases hm'
    · cases r with
      | field f => cases hf'; exact hf _ rfl
      | cls _ => cases hf'
      | method _ => cases hf'
  · rw [if_neg hjs] at hkey
    rw [methodNode?_push, fieldNode?_push, if_neg hjs, if_neg hjs]
    exact h j (by omega) hkey

theorem modifyClass (h : MembersAbove n X g) {i : Nat} {f : ClassNode → ClassNode}
    (hf : ∀ c, (f c).key = c.key) : MembersAbove n X (g.modifyClass i f) := by
  intro j hj hkey
  rw [size_modifyClass] at hj
  rw [key_modifyClass hf] at hkey
  rw [methodNode?_modifyClass, fieldNode?_modifyClass]
  exact h j hj hkey

theorem addResource (h : MembersAbove n X g) {r : Resource} (hm : ∀ m, r = .method m → n ≤ m.owner)
    (hf : ∀ f, r = .field f → n ≤ f.owner) : MembersAbove n X (g.addResource r).1 := by
  cases hk : g.get? r.key with
  | some i => rw [addResource_of_get?_eq_some hk]; exact h
  | none =>
    have hpush := h.push hm hf
    cases r with
    | cls c => rw [addResource_cls hk]; exact hpush
    | method m => rw [addResource_method hk]; exact hpush.modifyClass fun _ => rfl
    | field f => rw [addResource_field hk]; exact hpush.modifyClass fun _ => rfl

theorem modifyMethod (h : MembersAbove n X g) {i : Nat} {u : MethodNode → MethodNode}
    (hu : ∀ m, (u m).key = m.key ∧ (u m).owner = m.owner) : MembersAbove n X (g.modifyMethod i u) := by
  intro j hj hkey
  rw [size_modifyMethod] at hj
  rw [key_modifyMethod fun m => (hu m).1] at hkey
  obtain ⟨hm, hf⟩ := h j hj hkey
  refine ⟨fun m' hm' => ?_, fun f hf' => hf f (by rwa [fieldNode?_modifyMethod] at hf')⟩
  rw [methodNode?_modifyMethod] at hm'
  split at hm'
  · obtain ⟨m, hm₀, rfl⟩ := Option.map_eq_some_iff.mp hm'
    rw [(hu m).2]
    exact hm m hm₀
  · exact hm m' hm'

theorem modifyField (h : MembersAbove n X g) {i : Nat} {v : FieldNode → FieldNode}
    (hv : ∀ f, (v f).key = f.key ∧ (v f).owner = f.owner) : MembersAbove n X (g.modifyField i v) := by
  intro j hj hkey
  rw [size_modifyField] at hj
  rw [key_modifyField fun f => (hv f).1] at hkey
  obtain ⟨hm, hf⟩ := h j hj hkey
  refine ⟨fun m hm' => hm m (by rwa [methodNode?_modifyField] at hm'), fun f' hf' => ?_⟩
  rw [fieldNode?_modifyField] at hf'
  split at hf'
  · obtain ⟨f, hf₀, rfl⟩ := Option.map_eq_some_iff.mp hf'
    rw [(hv f).2]
    exact hf f hf₀
  · exact hf f' hf'

end MembersAbove

namespace FrozenBelow

variable {owner : Nat} {cls : String}

theorem declareField (hn : n ≤ owner) (hX : MembersAbove n cls g) (f : FieldInfo) :
    FrozenBelow n g (g.declareField owner cls f) ∧ MembersAbove n cls (g.declareField owner cls f) := by
  unfold StructuralGraph.declareField
  dsimp only
  split
  · rename_i j hj
    obtain ⟨hjs, hjk⟩ := key_of_get? hj
    exact ⟨modifyField (fun _ => ⟨rfl, rfl, rfl⟩) (hX j hjs ⟨f.name, hjk⟩).2,
      hX.modifyField fun _ => ⟨rfl, rfl⟩⟩
  · refine ⟨addResource (fun _ h => by cases h) fun x h ho => ?_,
      hX.addResource (fun _ h => by cases h) fun x h => ?_⟩
    · cases h
      exact absurd ho (by simp only; omega)
    · cases h
      exact hn

theorem declareMethod (hn : n ≤ owner) (hX : MembersAbove n cls g) (m : MethodInfo) :
    FrozenBelow n g (g.declareMethod owner cls m) ∧
      MembersAbove n cls (g.declareMethod owner cls m) := by
  unfold StructuralGraph.declareMethod
  dsimp only
  split
  · rename_i j hj
    obtain ⟨hjs, hjk⟩ := key_of_get? hj
    exact ⟨modifyMethod (fun _ => ⟨rfl, rfl, rfl, rfl⟩)
        (hX j hjs ⟨m.name ++ m.descriptor, hjk.trans (Key.method_eq_append _ _ _)⟩).1,
      hX.modifyMethod fun _ => ⟨rfl, rfl⟩⟩
  · refine ⟨addResource (fun x h ho => ?_) (fun _ h => by cases h),
      hX.addResource (fun x h => ?_) (fun _ h => by cases h)⟩
    · cases h
      exact absurd ho (by simp only; omega)
    · cases h
      exact hn

/-- Declaring the members of a class at `n` or above whose key is in front of no member owned
below `n`. -/
theorem declareMembers (hn : n ≤ owner) (hX : MembersAbove n cls g) (file : ClassInfo) :
    FrozenBelow n g (g.declareMembers owner cls file) := by
  unfold StructuralGraph.declareMembers
  have hfields : ∀ (fs : List FieldInfo) (g₁ : StructuralGraph), MembersAbove n cls g₁ →
      FrozenBelow n g₁ (fs.foldl (fun g f => g.declareField owner cls f) g₁) ∧
        MembersAbove n cls (fs.foldl (fun g f => g.declareField owner cls f) g₁) := by
    intro fs
    induction fs with
    | nil => exact fun g₁ h => ⟨refl g₁ n, h⟩
    | cons f fs ih =>
      intro g₁ h
      obtain ⟨hfr, hma⟩ := declareField hn h f
      obtain ⟨hfr', hma'⟩ := ih _ hma
      exact ⟨hfr.trans hfr', hma'⟩
  have hmethods : ∀ (ms : List MethodInfo) (g₁ : StructuralGraph), MembersAbove n cls g₁ →
      FrozenBelow n g₁ (ms.foldl (fun g m => g.declareMethod owner cls m) g₁) := by
    intro ms
    induction ms with
    | nil => exact fun g₁ _ => refl g₁ n
    | cons m ms ih =>
      intro g₁ h
      obtain ⟨hfr, hma⟩ := declareMethod hn h m
      exact hfr.trans (ih _ hma)
  obtain ⟨h₁, hX₁⟩ := hfields file.fields g hX
  exact h₁.trans (hmethods file.methods _ hX₁)

/-! ### Lookups in the frozen part -/

/-- The methods a node below `n` declares are the same: the members it owned answer alike, and
those it gained are not declared. -/
theorem declaredMethod_eq (h : FrozenBelow n g g') (hg : g.WellFormed) (hg' : g'.WellFormed)
    {k : Nat} (hk : k < n) (hks : k < g.size) (name descriptor : String) :
    g'.declaredMethod k name descriptor = g.declaredMethod k name descriptor := by
  unfold declaredMethod
  cases hc : g.classNode? k with
  | none => rw [h.grows.classNode?_eq_none hks hc]; rfl
  | some x =>
    obtain ⟨x', hx', -⟩ := h.grows.classNode k x hc
    obtain ⟨later, hlater, hnew⟩ := h.grows.ownedMethods_eq k
    rw [hx', Option.bind_some, Option.bind_some, (hg'.classShape k x' hx').methods_eq,
      (hg.classShape k x hc).methods_eq, hlater, List.find?_append]
    have hold : (g.ownedMethods k).find? (fun j => (g'.methodNode? j).any fun x =>
          x.declared && x.name == name && x.descriptor == descriptor) =
        (g.ownedMethods k).find? (fun j => (g.methodNode? j).any fun x =>
          x.declared && x.name == name && x.descriptor == descriptor) := by
      apply List.find?_congr
      intro j hj
      obtain ⟨m, hm, ho⟩ := mem_ownedMethods.mp hj
      obtain ⟨m', hm', -, -, hname, hdesc⟩ := h.grows.methodNode j m hm
      rw [hm', hm, Option.any_some, Option.any_some, h.method_declared j m m' (ho ▸ hk) hm hm',
        hname, hdesc]
    have hnone : later.find? (fun j => (g'.methodNode? j).any fun x =>
        x.declared && x.name == name && x.descriptor == descriptor) = none := by
      apply List.find?_eq_none.mpr
      intro j hj
      obtain ⟨hjs, m', hm', ho⟩ := hnew j hj
      rw [hm', Option.any_some, h.new_method j m' hjs hm' (ho ▸ hk)]
      simp
    rw [hold, hnone, Option.or_none]

theorem declaredField_eq (h : FrozenBelow n g g') (hg : g.WellFormed) (hg' : g'.WellFormed)
    {k : Nat} (hk : k < n) (hks : k < g.size) (name : String) :
    g'.declaredField k name = g.declaredField k name := by
  unfold declaredField
  cases hc : g.classNode? k with
  | none => rw [h.grows.classNode?_eq_none hks hc]; rfl
  | some x =>
    obtain ⟨x', hx', -⟩ := h.grows.classNode k x hc
    obtain ⟨later, hlater, hnew⟩ := h.grows.ownedFields_eq k
    rw [hx', Option.bind_some, Option.bind_some, (hg'.classShape k x' hx').fields_eq,
      (hg.classShape k x hc).fields_eq, hlater, List.find?_append]
    have hold : (g.ownedFields k).find? (fun j => (g'.fieldNode? j).any fun x =>
          x.declared && x.name == name) =
        (g.ownedFields k).find? (fun j => (g.fieldNode? j).any fun x =>
          x.declared && x.name == name) := by
      apply List.find?_congr
      intro j hj
      obtain ⟨f, hf, ho⟩ := mem_ownedFields.mp hj
      obtain ⟨f', hf', -, -, hname⟩ := h.grows.fieldNode j f hf
      rw [hf', hf, Option.any_some, Option.any_some, h.field_declared j f f' (ho ▸ hk) hf hf',
        hname]
    have hnone : later.find? (fun j => (g'.fieldNode? j).any fun x =>
        x.declared && x.name == name) = none := by
      apply List.find?_eq_none.mpr
      intro j hj
      obtain ⟨hjs, f', hf', ho⟩ := hnew j hj
      rw [hf', Option.any_some, h.new_field j f' hjs hf' (ho ▸ hk)]
      simp
    rw [hold, hnone, Option.or_none]

theorem hierarchyAgrees (h : FrozenBelow g.size g g') (hg : g.WellFormed) :
    HierarchyAgrees g.size g g' :=
  hg.hierarchyAgrees h.grows fun c x hx =>
    h.supertypes c x (lt_size_of_resource? (classNode?_eq_some.mp hx)) hx

theorem findMethod_eq (h : FrozenBelow g.size g g') (hg : g.WellFormed) (hg' : g'.WellFormed)
    {c : Nat} (hc : c < g.size) (name descriptor : String) :
    g'.findMethod c name descriptor = g.findMethod c name descriptor :=
  (h.hierarchyAgrees hg).findMethod_eq (fun _ hk => h.declaredMethod_eq hg hg' hk hk _ _) hc

theorem findField_eq (h : FrozenBelow g.size g g') (hg : g.WellFormed) (hg' : g'.WellFormed)
    {c : Nat} (hc : c < g.size) (name : String) : g'.findField c name = g.findField c name :=
  (h.hierarchyAgrees hg).findField_eq (fun _ hk => h.declaredField_eq hg hg' hk hk _) hc

end FrozenBelow

end StructuralGraph

end ClassMetrics
