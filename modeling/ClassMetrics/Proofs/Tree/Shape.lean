import ClassMetrics.Proofs.Dependency.Visit
import Mathlib.Logic.Relation

/-!
The shape of a source tree grown by `addChild`. Each call given a node of the tree as parent
keeps the tree `Linked`: node zero is the root and the only node without a parent, parents come
before their children, a node's children are the nodes whose parent it is, each listed once,
and no two nodes share a level and a key. From that invariant alone: look-ups by level and key
find the one node of that level and key, the post-order lists every node once and never before
a node below it, and the ancestor of a level is the nearest node of that level on the way up.
When every parent is at the level just above its child's, the tree is well formed.
-/

namespace ClassMetrics

namespace Scope

/-- A level encloses the level just below it. -/
def Encloses (p c : Scope) : Prop := p.child? = some c

end Scope

namespace TreeNode

@[simp] theorem default_parent : (default : TreeNode).parent = none := rfl

@[simp] theorem default_children : (default : TreeNode).children = #[] := rfl

end TreeNode

namespace SourceTree

variable {t t' : SourceTree} {p : Nat} {s : Scope} {k : String}

/-! ### One `addChild` call -/

theorem addChild_of_find?_eq_some {id : Nat} (h : t.find? s k = some id) :
    t.addChild p s k = (t, id) := by
  simp [addChild, h]

theorem node_addChild (h : t.find? s k = none) (hp : p < t.size) (i : Nat) :
    (t.addChild p s k).1.node i =
      if i = t.size then { key := k, scope := s, parent := some p }
      else if i = p then { t.node p with children := (t.node p).children.push t.size }
      else t.node i := by
  unfold addChild node size at *
  rw [h]
  dsimp only
  rw [Array.getElem?_modify, Array.getElem?_push]
  by_cases hi : i = t.nodes.size
  · subst hi
    simp [Nat.ne_of_lt hp]
  · by_cases hpi : p = i
    · subst hpi
      simp [hi, Array.getElem?_eq_getElem hp]
    · simp [hi, hpi, Ne.symm hpi]

theorem size_addChild (h : t.find? s k = none) : (t.addChild p s k).1.size = t.size + 1 := by
  simp [addChild, h, size]

theorem node_eq_default {i : Nat} (hi : t.size ≤ i) : t.node i = default := by
  simp [node, size] at *
  simp [hi]

theorem lt_size_of_parent {i p : Nat} (hp : (t.node i).parent = some p) : i < t.size := by
  by_contra hi
  rw [node_eq_default (by omega)] at hp
  cases hp

theorem find?_eq_none_iff :
    t.find? s k = none ↔ ∀ j < t.size, (t.node j).scope = s → (t.node j).key ≠ k := by
  rw [find?_eq_findIdx?_shape, List.findIdx?_eq_none_iff]
  constructor
  · intro hn j hj hs hk
    have hj' := hn _ (List.mem_map.mpr
      ⟨t.nodes[j], Array.mem_toList_iff.mpr (Array.getElem_mem hj), rfl⟩)
    have hs' : t.nodes[j].scope = s := by simpa [node, Array.getElem?_eq_getElem hj] using hs
    have hk' : t.nodes[j].key = k := by simpa [node, Array.getElem?_eq_getElem hj] using hk
    simp [TreeNode.shape, hs', hk'] at hj'
  · intro hn x hx
    obtain ⟨n, hn', rfl⟩ := List.mem_map.mp hx
    obtain ⟨j, hj, rfl⟩ := Array.mem_iff_getElem.mp (Array.mem_toList_iff.mp hn')
    have := hn j hj
    simp [TreeNode.shape, node, Array.getElem?_eq_getElem hj] at this ⊢
    exact fun hs => decide_eq_false (this (of_decide_eq_true hs))

/-! ### The invariant -/

/-- The links of a tree agree: node zero is the root and the only node without a parent,
every other node comes after its parent, a node's children are the nodes whose parent it is,
each listed once, and no two nodes share a level and a key. -/
structure Linked (t : SourceTree) : Prop where
  size_pos : 0 < t.size
  parent_eq_none : ∀ i < t.size, (t.node i).parent = none ↔ i = 0
  parent_lt : ∀ i p, (t.node i).parent = some p → p < i
  mem_children : ∀ p c, c ∈ (t.node p).children ↔ (t.node c).parent = some p
  nodup_children : ∀ p, (t.node p).children.toList.Nodup
  unique : ∀ i j, i < t.size → j < t.size → (t.node i).scope = (t.node j).scope →
    (t.node i).key = (t.node j).key → i = j

theorem linked_new (project : String) : (new project).Linked where
  size_pos := by simp [new, size]
  parent_eq_none i hi := by
    have : i = 0 := by simpa [new, size] using hi
    subst this
    simp [new, node]
  parent_lt i p h := by
    rcases i with _ | i <;> simp [new, node] at h
  mem_children p c := by
    rcases p with _ | p <;> rcases c with _ | c <;> simp [new, node]
  nodup_children p := by
    rcases p with _ | p <;> simp [new, node]
  unique i j hi hj _ _ := by
    simp only [new, size, List.size_toArray, List.length_singleton] at hi hj
    omega

namespace Linked

theorem addChild (h : t.Linked) (hp : p < t.size) : (t.addChild p s k).1.Linked := by
  cases hf : t.find? s k with
  | some id => rw [addChild_of_find?_eq_some hf]; exact h
  | none =>
    have hsize := size_addChild (p := p) hf
    have hnode := node_addChild hf hp
    -- the new node is the last, below `p`; of the old nodes only `p` changes, by one child
    have hout : ∀ q, t.size ∉ (t.node q).children := fun q hc => by
      have := lt_size_of_parent ((h.mem_children q _).mp hc)
      omega
    have hparent : ∀ i, ((t.addChild p s k).1.node i).parent =
        if i = t.size then some p else (t.node i).parent := by
      intro i
      rw [hnode]
      split_ifs <;> simp_all
    constructor
    · omega
    · intro i hi
      rw [hparent]
      split_ifs with he
      · simp only [false_iff]
        have := h.size_pos
        omega
      · exact h.parent_eq_none i (by omega)
    · intro i q hq
      rw [hparent] at hq
      split_ifs at hq with he
      · cases hq; omega
      · exact h.parent_lt i q hq
    · intro q c
      rw [hparent, hnode]
      by_cases hq : q = t.size
      · -- the new node has no children yet, and no node is below it
        subst hq
        simp only [if_true, Array.not_mem_empty, false_iff]
        intro hpc
        split_ifs at hpc with hc
        · cases hpc; omega
        · have := lt_size_of_parent hpc
          have := h.parent_lt c _ hpc
          omega
      · rw [if_neg hq]
        by_cases hqp : q = p
        · subst hqp
          by_cases hc : c = t.size
          · subst hc; simp
          · simp [hc, h.mem_children]
        · rw [if_neg hqp]
          by_cases hc : c = t.size
          · subst hc; simp [hout, Ne.symm hqp]
          · simp [hc, h.mem_children]
    · intro q
      rw [hnode]
      split_ifs with hq hqp
      · simp
      · subst hqp
        simp only [Array.toList_push]
        refine List.nodup_append.mpr ⟨h.nodup_children q, List.nodup_singleton _, fun a ha b hb => ?_⟩
        rintro rfl
        exact hout q (by simpa [List.mem_singleton.mp hb] using ha)
      · exact h.nodup_children q
    · -- the new node bears a level and key that no old node bears
      have hfresh := find?_eq_none_iff.mp hf
      have hks : ∀ i, ((t.addChild p s k).1.node i).scope =
          (if i = t.size then s else (t.node i).scope) ∧ ((t.addChild p s k).1.node i).key =
          (if i = t.size then k else (t.node i).key) := by
        intro i
        rw [hnode]
        split_ifs <;> simp_all
      intro i j hi hj hsc hk
      rw [(hks i).1, (hks j).1] at hsc
      rw [(hks i).2, (hks j).2] at hk
      split_ifs at hsc hk with hi' hj' hj'
      · omega
      · exact absurd hk.symm (hfresh j (by omega) hsc.symm)
      · exact absurd hk (hfresh i (by omega) hsc)
      · exact h.unique i j (by omega) (by omega) hsc hk

theorem of_sameShape (h : t.Linked) (ht : t'.SameShape t) : t'.Linked where
  size_pos := ht.size_eq ▸ h.size_pos
  parent_eq_none i hi := by rw [ht.parent_node]; exact h.parent_eq_none i (ht.size_eq ▸ hi)
  parent_lt i p hp := h.parent_lt i p (ht.parent_node i ▸ hp)
  mem_children p c := by rw [ht.children_node, ht.parent_node]; exact h.mem_children p c
  nodup_children p := ht.children_node p ▸ h.nodup_children p
  unique i j hi hj hs hk := by
    rw [ht.scope_node, ht.scope_node] at hs
    rw [ht.key_node, ht.key_node] at hk
    exact h.unique i j (ht.size_eq ▸ hi) (ht.size_eq ▸ hj) hs hk

end Linked

/-- The trees that `addChild` calls grow from a new tree, each call given a node of the tree
as parent and a level that `R` allows below the parent's; measures may change along the way. -/
inductive Grown (R : Scope → Scope → Prop) : SourceTree → Prop
  | new (project : String) : Grown R (new project)
  | addChild {t : SourceTree} {p : Nat} (s : Scope) (k : String) : Grown R t → p < t.size →
      R (t.node p).scope s → Grown R (t.addChild p s k).1
  | reshape {t t' : SourceTree} : Grown R t → t'.SameShape t → Grown R t'

theorem Grown.linked {R : Scope → Scope → Prop} (h : t.Grown R) : t.Linked := by
  induction h with
  | new project => exact linked_new project
  | addChild s k _ hp _ ih => exact ih.addChild hp
  | reshape _ hs ih => exact ih.of_sameShape hs

/-! ### Climbing parents -/

/-- `d` is `a` or lies below it: climbing parents from `d` reaches `a`. -/
def Below (t : SourceTree) (d a : Nat) : Prop :=
  Relation.ReflTransGen (fun x y => (t.node x).parent = some y) d a

/-- `d` lies strictly below `a`. -/
def StrictlyBelow (t : SourceTree) (d a : Nat) : Prop :=
  Relation.TransGen (fun x y => (t.node x).parent = some y) d a

theorem below_iff_of_parent {i p b : Nat} (hp : (t.node i).parent = some p) :
    t.Below i b ↔ b = i ∨ t.Below p b := by
  rw [Below, Relation.ReflTransGen.cases_head_iff]
  constructor
  · rintro (rfl | ⟨c, hc, hcb⟩)
    · exact .inl rfl
    · obtain rfl : c = p := Option.some.inj (hc.symm.trans hp)
      exact .inr hcb
  · rintro (rfl | hpb)
    · exact .inl rfl
    · exact .inr ⟨p, hp, hpb⟩

theorem below_iff_of_parent_eq_none {i b : Nat} (hp : (t.node i).parent = none) :
    t.Below i b ↔ b = i := by
  rw [Below, Relation.ReflTransGen.cases_head_iff]
  simp [hp, eq_comm]

/-- `a` is the nearest node of level `s` on the way up from `i`: it has that level, and no
node below it on the way has. -/
def Nearest (t : SourceTree) (s : Scope) (i a : Nat) : Prop :=
  t.Below i a ∧ (t.node a).scope = s ∧
    ∀ b, t.Below i b → t.StrictlyBelow b a → (t.node b).scope ≠ s

namespace Linked

variable (h : t.Linked)
include h

theorem le_of_below {d a : Nat} (hb : t.Below d a) : a ≤ d := by
  induction hb with
  | refl => exact le_refl _
  | tail _ hp ih => exact (h.parent_lt _ _ hp).le.trans ih

theorem lt_of_strictlyBelow {d a : Nat} (hb : t.StrictlyBelow d a) : a < d := by
  induction hb with
  | single hp => exact h.parent_lt _ _ hp
  | tail _ hp ih => exact (h.parent_lt _ _ hp).trans ih

theorem below_root {i : Nat} (hi : i < t.size) : t.Below i 0 := by
  induction i using Nat.strong_induction_on with
  | _ i ih =>
    cases hp : (t.node i).parent with
    | none =>
      rw [(h.parent_eq_none i hi).mp hp]
      exact Relation.ReflTransGen.refl
    | some q =>
      have hq := h.parent_lt i q hp
      exact Relation.ReflTransGen.head hp (ih q hq (by omega))

/-- No node lies below two different children of one node. -/
theorem not_below_siblings {a c₁ c₂ x : Nat} (h₁ : (t.node c₁).parent = some a)
    (h₂ : (t.node c₂).parent = some a) (hne : c₁ ≠ c₂) (hx₁ : t.Below x c₁)
    (hx₂ : t.Below x c₂) : False := by
  have hfun : Relator.RightUnique fun x y => (t.node x).parent = some y :=
    fun _ _ _ hb hc => Option.some.inj (hb.symm.trans hc)
  -- the way up from `x` is one chain, so one child lies on it above the other; the step up
  -- from the lower one reaches `a`, which is above both
  have hup : ∀ {c c'}, (t.node c).parent = some a → (t.node c').parent = some a → c ≠ c' →
      ¬ t.Below c c' := by
    intro c c' hc hc' hne hb
    rcases Relation.ReflTransGen.cases_head hb with rfl | ⟨b, hb, hbc⟩
    · exact hne rfl
    · obtain rfl : b = a := Option.some.inj (hb.symm.trans hc)
      have := h.le_of_below hbc
      have := h.parent_lt _ _ hc'
      omega
  rcases Relation.ReflTransGen.total_of_right_unique hfun hx₁ hx₂ with h12 | h21
  · exact hup h₁ h₂ hne h12
  · exact hup h₂ h₁ (Ne.symm hne) h21

theorem below_iff_children {x a : Nat} :
    t.Below x a ↔ x = a ∨ ∃ c ∈ (t.node a).children, t.Below x c := by
  rw [Below, Relation.ReflTransGen.cases_tail_iff]
  simp only [h.mem_children]
  constructor
  · rintro (rfl | ⟨c, hc, hp⟩)
    · exact .inl rfl
    · exact .inr ⟨c, hp, hc⟩
  · rintro (rfl | ⟨c, hp, hc⟩)
    · exact .inl rfl
    · exact .inr ⟨c, hc, hp⟩

theorem find?_eq_some_iff {s : Scope} {k : String} {i : Nat} :
    t.find? s k = some i ↔ i < t.size ∧ (t.node i).scope = s ∧ (t.node i).key = k := by
  refine ⟨find?_eq_some, fun ⟨hi, hs, hk⟩ => ?_⟩
  cases hf : t.find? s k with
  | none => exact absurd hk (find?_eq_none_iff.mp hf i hi hs)
  | some j =>
    obtain ⟨hj, hjs, hjk⟩ := find?_eq_some hf
    rw [h.unique j i hj hi (hjs.trans hs.symm) (hjk.trans hk.symm)]

theorem count_children (p c : Nat) :
    (t.node p).children.toList.count c = if (t.node c).parent = some p then 1 else 0 := by
  rw [(h.nodup_children p).count]
  simp only [Array.mem_toList_iff, h.mem_children]

/-! ### The post-order -/

/-- Below a node, its post-order lists each node below it once, and a node never before one
that lies below it, provided the fuel reaches past the last node. -/
theorem postOrderFrom_spec {f a : Nat} (ha : a < t.size) (hf : t.size ≤ a + f) :
    (∀ x, x ∈ t.postOrderFrom f a ↔ t.Below x a) ∧
      (t.postOrderFrom f a).Pairwise fun x y => x ≠ y ∧ ¬ t.StrictlyBelow y x := by
  induction f generalizing a with
  | zero => omega
  | succ f ih =>
    -- each child is a later node, so the fuel left covers the nodes below it
    have hchild : ∀ c ∈ (t.node a).children.toList,
        (∀ x, x ∈ t.postOrderFrom f c ↔ t.Below x c) ∧
          (t.postOrderFrom f c).Pairwise fun x y => x ≠ y ∧ ¬ t.StrictlyBelow y x := by
      intro c hc
      have hp := (h.mem_children a c).mp (Array.mem_toList_iff.mp hc)
      have := h.parent_lt c a hp
      exact ih (lt_size_of_parent hp) (by omega)
    have hmem : ∀ x, x ∈ (t.node a).children.toList.flatMap (t.postOrderFrom f) ↔
        ∃ c ∈ (t.node a).children, t.Below x c := by
      intro x
      simp only [List.mem_flatMap, Array.mem_toList_iff]
      exact ⟨fun ⟨c, hc, hx⟩ => ⟨c, hc, ((hchild c (by simpa using hc)).1 x).mp hx⟩,
        fun ⟨c, hc, hx⟩ => ⟨c, hc, ((hchild c (by simpa using hc)).1 x).mpr hx⟩⟩
    -- what lies below a child lies strictly below `a`, so after `a` in the numbering
    have hbelow : ∀ x, x ∈ (t.node a).children.toList.flatMap (t.postOrderFrom f) → a < x := by
      intro x hx
      obtain ⟨c, hc, hxc⟩ := (hmem x).mp hx
      have := h.parent_lt c a ((h.mem_children a c).mp hc)
      have := h.le_of_below hxc
      omega
    simp only [postOrderFrom]
    refine ⟨fun x => ?_, ?_⟩
    · rw [List.mem_append, hmem, List.mem_singleton, h.below_iff_children]
      exact Or.comm
    · refine List.pairwise_append.mpr ⟨List.pairwise_flatMap.mpr
        ⟨fun c hc => (hchild c hc).2, ?_⟩, List.pairwise_singleton _ _, fun x hx y hy => ?_⟩
      · -- nodes below two different children are apart
        refine (h.nodup_children a).imp_of_mem fun {c₁ c₂} hc₁ hc₂ hne x hx y hy => ?_
        have hp₁ := (h.mem_children a c₁).mp (Array.mem_toList_iff.mp hc₁)
        have hp₂ := (h.mem_children a c₂).mp (Array.mem_toList_iff.mp hc₂)
        have hx₁ := ((hchild c₁ hc₁).1 x).mp hx
        have hy₂ := ((hchild c₂ hc₂).1 y).mp hy
        refine ⟨fun hxy => h.not_below_siblings hp₁ hp₂ hne hx₁ (hxy ▸ hy₂), fun hyx => ?_⟩
        exact h.not_below_siblings hp₁ hp₂ hne (hyx.to_reflTransGen.trans hx₁) hy₂
      · rw [List.mem_singleton.mp hy]
        have hax := hbelow x hx
        exact ⟨by omega, fun hxa => absurd (h.lt_of_strictlyBelow hxa) (by omega)⟩

theorem mem_postOrder {x : Nat} : x ∈ t.postOrder ↔ x < t.size := by
  rw [postOrder, (h.postOrderFrom_spec h.size_pos (by omega)).1]
  refine ⟨fun hx => ?_, h.below_root⟩
  rcases Relation.ReflTransGen.cases_head hx with rfl | ⟨c, hc, -⟩
  · exact h.size_pos
  · exact lt_size_of_parent hc

theorem postOrder_perm : t.postOrder.Perm (List.range t.size) := by
  have hnd : t.postOrder.Nodup :=
    (h.postOrderFrom_spec h.size_pos (by omega)).2.imp fun hxy => hxy.1
  exact (List.perm_ext_iff_of_nodup hnd List.nodup_range).mpr fun x => by
    rw [h.mem_postOrder, List.mem_range]

theorem postOrder_pairwise : t.postOrder.Pairwise fun x y => ¬ t.StrictlyBelow y x :=
  (h.postOrderFrom_spec h.size_pos (by omega)).2.imp fun hxy => hxy.2

theorem postOrder_getLast? : t.postOrder.getLast? = some 0 := by
  obtain ⟨n, hn⟩ : ∃ n, t.size = n + 1 := ⟨t.size - 1, by have := h.size_pos; omega⟩
  simp [postOrder, hn, postOrderFrom]

/-! ### Ancestors -/

/-- Climbing at most `f` parents from a node numbered below `f` finds the nearest node of the
level on the way up, and finds none only when the way up has none. -/
theorem go_spec {s : Scope} {f i : Nat} (hi : i < f) :
    (∀ a, ancestor?.go t s f i = some a ↔ t.Nearest s i a) ∧
      (ancestor?.go t s f i = none ↔ ∀ b, t.Below i b → (t.node b).scope ≠ s) := by
  induction f generalizing i with
  | zero => omega
  | succ f ih =>
    simp only [ancestor?.go]
    by_cases hs : (t.node i).scope = s
    · -- the node itself has the level, and no node on the way up lies below it
      rw [if_pos hs]
      refine ⟨fun a => ⟨?_, fun hN => ?_⟩, ?_⟩
      · rintro ⟨⟩
        refine ⟨Relation.ReflTransGen.refl, hs, fun b hib hbi => ?_⟩
        have := h.le_of_below hib
        have := h.lt_of_strictlyBelow hbi
        omega
      · obtain ⟨hia, has, hnear⟩ := hN
        by_contra hne
        have hia' : t.StrictlyBelow i a :=
          (Relation.reflTransGen_iff_eq_or_transGen.mp hia).resolve_left
            fun hai => hne (by rw [hai])
        exact hnear i Relation.ReflTransGen.refl hia' hs
      · simp only [reduceCtorEq, false_iff, not_forall]
        exact ⟨i, Relation.ReflTransGen.refl, not_not.mpr hs⟩
    · rw [if_neg hs]
      cases hp : (t.node i).parent with
      | none =>
        simp only [below_iff_of_parent_eq_none hp, forall_eq, reduceCtorEq, false_iff, true_iff]
        refine ⟨fun a hN => ?_, hs⟩
        obtain ⟨hia, has, -⟩ := hN
        rw [below_iff_of_parent_eq_none hp] at hia
        exact hs (hia ▸ has)
      | some q =>
        -- the way up from `i` is `i` itself, which lacks the level, then the way up from `q`
        have hq := h.parent_lt i q hp
        obtain ⟨ihs, ihn⟩ := ih (i := q) (by omega)
        refine ⟨fun a => (ihs a).trans ⟨fun hN => ?_, fun hN => ?_⟩,
          ihn.trans ⟨fun hn b hib => ?_,
            fun hn b hqb => hn b ((below_iff_of_parent hp).mpr (.inr hqb))⟩⟩
        · obtain ⟨hqa, has, hnear⟩ := hN
          refine ⟨(below_iff_of_parent hp).mpr (.inr hqa), has, fun b hib hba => ?_⟩
          rcases (below_iff_of_parent hp).mp hib with rfl | hqb
          · exact hs
          · exact hnear b hqb hba
        · obtain ⟨hia, has, hnear⟩ := hN
          rcases (below_iff_of_parent hp).mp hia with rfl | hqa
          · exact absurd has hs
          · exact ⟨hqa, has, fun b hqb hba => hnear b ((below_iff_of_parent hp).mpr (.inr hqb)) hba⟩
        · rcases (below_iff_of_parent hp).mp hib with rfl | hqb
          · exact hs
          · exact hn b hqb

theorem ancestor?_eq_some_iff {i : Nat} (hi : i < t.size) (s : Scope) (a : Nat) :
    t.ancestor? i s = some a ↔ t.Nearest s i a :=
  (h.go_spec hi).1 a

theorem ancestor?_eq_none_iff {i : Nat} (hi : i < t.size) (s : Scope) :
    t.ancestor? i s = none ↔ ∀ b, t.Below i b → (t.node b).scope ≠ s :=
  (h.go_spec hi).2

theorem ancestor?_self {i : Nat} (hi : i < t.size) {s : Scope} (hs : (t.node i).scope = s) :
    t.ancestor? i s = some i :=
  (h.ancestor?_eq_some_iff hi s i).mpr ⟨.refl, hs, fun b hib hbi => by
    have := h.le_of_below hib
    have := h.lt_of_strictlyBelow hbi
    omega⟩

theorem ancestor?_of_parent {i q : Nat} (hi : i < t.size) {s : Scope}
    (hs : (t.node i).scope ≠ s) (hp : (t.node i).parent = some q) :
    t.ancestor? i s = t.ancestor? q s := by
  have hq := h.parent_lt i q hp
  obtain ⟨n, hn⟩ : ∃ n, t.size = n + 1 := ⟨t.size - 1, by omega⟩
  -- climbing one parent from `i` leaves fuel enough for the rest of the way from `q`
  have hgo : ancestor?.go t s n q = ancestor?.go t s (n + 1) q := by
    apply Option.ext
    intro a
    rw [(h.go_spec (f := n) (by omega)).1, (h.go_spec (f := n + 1) (by omega)).1]
  simp only [ancestor?, hn, ancestor?.go, if_neg hs, hp, hgo]

end Linked

/-- What the shape of a tree promises. Look-ups by level and key find the one node of that
level and key; a node's children are the nodes whose parent it is, each listed once, and only
the root has no parent; the post-order lists every node once, none before a node below it,
and the root last; and the ancestor of a level is the nearest node of that level on the way
up, if any. -/
structure ShapeLaws (t : SourceTree) : Prop where
  find?_eq_some_iff : ∀ s k i,
    t.find? s k = some i ↔ i < t.size ∧ (t.node i).scope = s ∧ (t.node i).key = k
  count_children : ∀ p c,
    (t.node p).children.toList.count c = if (t.node c).parent = some p then 1 else 0
  parent_eq_none_iff : ∀ i < t.size, (t.node i).parent = none ↔ i = 0
  postOrder_perm : t.postOrder.Perm (List.range t.size)
  postOrder_pairwise : t.postOrder.Pairwise fun x y => ¬ t.StrictlyBelow y x
  postOrder_getLast? : t.postOrder.getLast? = some 0
  ancestor?_eq_some_iff : ∀ i < t.size, ∀ s a, t.ancestor? i s = some a ↔ t.Nearest s i a
  ancestor?_eq_none_iff : ∀ i < t.size, ∀ s,
    t.ancestor? i s = none ↔ ∀ b, t.Below i b → (t.node b).scope ≠ s

theorem Linked.shapeLaws (h : t.Linked) : t.ShapeLaws where
  find?_eq_some_iff _ _ _ := h.find?_eq_some_iff
  count_children := h.count_children
  parent_eq_none_iff := h.parent_eq_none
  postOrder_perm := h.postOrder_perm
  postOrder_pairwise := h.postOrder_pairwise
  postOrder_getLast? := h.postOrder_getLast?
  ancestor?_eq_some_iff _ hi := h.ancestor?_eq_some_iff hi
  ancestor?_eq_none_iff _ hi := h.ancestor?_eq_none_iff hi

/-! ### Well-formed trees -/

theorem isWellFormed_iff : t.isWellFormed = true ↔ ∀ i < t.size,
    ((t.node i).parent = none → (t.node i).scope = .project) ∧
      ∀ q, (t.node i).parent = some q → (t.node q).scope.Encloses (t.node i).scope := by
  unfold isWellFormed
  rw [Array.all_eq_true]
  refine forall_congr' fun i => ⟨fun hi hlt => ?_, fun hi hlt => ?_⟩
  · have hn : t.node i = t.nodes[i] := by simp [node, Array.getElem?_eq_getElem hlt]
    have := hi hlt
    rw [hn]
    cases hp : t.nodes[i].parent <;> simp_all [Scope.Encloses]
  · have hn : t.node i = t.nodes[i] := by simp [node, Array.getElem?_eq_getElem hlt]
    have := hi hlt
    rw [hn] at this
    cases hp : t.nodes[i].parent <;> simp_all [Scope.Encloses]

theorem Grown.isWellFormed (h : t.Grown Scope.Encloses) : t.isWellFormed = true := by
  rw [isWellFormed_iff]
  induction h with
  | new project =>
    intro i hi
    have : i = 0 := by simpa [SourceTree.new, size] using hi
    subst this
    simp [SourceTree.new, node]
  | @addChild t p s k hg hp hR ih =>
    cases hf : t.find? s k with
    | some id => rw [addChild_of_find?_eq_some hf]; exact ih
    | none =>
      intro i hi
      rw [size_addChild hf] at hi
      -- the new node hangs below `p`; the others keep their level and parent
      have hnode := node_addChild (p := p) hf hp
      by_cases his : i = t.size
      · subst his
        simp only [hnode, if_true, reduceCtorEq, false_implies, Option.some.injEq, true_and]
        rintro q rfl
        by_cases hps : p = t.size
        · omega
        · simpa [if_neg hps] using hR
      · obtain ⟨ih₁, ih₂⟩ := ih i (by omega)
        have hi' : ((t.addChild p s k).1.node i).parent = (t.node i).parent ∧
            ((t.addChild p s k).1.node i).scope = (t.node i).scope := by
          rw [hnode]; split_ifs <;> simp_all
        rw [hi'.1, hi'.2]
        refine ⟨ih₁, fun q hq => ?_⟩
        have hqs : ((t.addChild p s k).1.node q).scope = (t.node q).scope := by
          have := (Grown.linked hg).parent_lt i q hq
          rw [hnode, if_neg (by omega)]
          split_ifs <;> simp_all
        rw [hqs]
        exact ih₂ q hq
  | reshape _ hs ih =>
    intro i hi
    rw [hs.parent_node, hs.scope_node]
    refine ⟨(ih i (hs.size_eq ▸ hi)).1, fun q hq => ?_⟩
    rw [hs.scope_node]
    exact (ih i (hs.size_eq ▸ hi)).2 q hq

end SourceTree

end ClassMetrics
