import ClassMetrics.Proofs.Graph.Nodes
import Mathlib.Order.Bounds.Basic
import Mathlib.Data.List.Perm.Subperm
import Mathlib.Data.List.Nodup

/-!
The superclass chain and the depth of inheritance. The classes above a class are read off its
superclass links one at a time. The depth of a resolved class is the longest start of its chain
made of resolved classes, no two alike: the climb that computes it keeps the classes it has
seen, so a cycle of superclass links ends it, and no start of a chain of distinct classes is
longer than the graph has class nodes, so its fuel is more than it can use. A class whose
superclass is resolved and does not lead back to it is one deeper than its superclass.
-/

namespace ClassMetrics.StructuralGraph

variable {g : StructuralGraph}

/-- The superclass of a class node. -/
def superOf? (g : StructuralGraph) (k : Nat) : Option Nat := (g.classNode? k).bind (·.superClass)

/-- The class `n` superclass links above `c`: `c` itself, its superclass, and so on while the
links last. -/
def superAt (g : StructuralGraph) (c : Nat) : Nat → Option Nat
  | 0 => some c
  | n + 1 => (g.superAt c n).bind g.superOf?

/-- Whether a node is a class read from a class file. -/
def resolvedClass (g : StructuralGraph) (k : Nat) : Bool := (g.classNode? k).any (·.isResolved)

/-- `c = c₀, c₁, …, c_k`, each the superclass of the one before, are resolved classes and no two
of them are alike. -/
def ResolvedChain (g : StructuralGraph) (c k : Nat) : Prop :=
  (∀ i ≤ k, (g.superAt c i).any g.resolvedClass) ∧ ∀ j ≤ k, ∀ i < j, g.superAt c i ≠ g.superAt c j

instance (c k : Nat) : Decidable (g.ResolvedChain c k) := by
  unfold ResolvedChain
  infer_instance

/-! ### The chain -/

@[simp] theorem superAt_zero (c : Nat) : g.superAt c 0 = some c := rfl

theorem superAt_succ (c n : Nat) : g.superAt c (n + 1) = (g.superAt c n).bind g.superOf? := rfl

theorem superAt_add (c m n : Nat) : g.superAt c (m + n) = (g.superAt c m).bind (g.superAt · n) := by
  induction n with
  | zero => cases g.superAt c m <;> rfl
  | succ n ih =>
    rw [← Nat.add_assoc, superAt_succ, ih]
    cases g.superAt c m <;> rfl

theorem superAt_succ_of_superOf? {c p : Nat} (h : g.superOf? c = some p) (n : Nat) :
    g.superAt c (n + 1) = g.superAt p n := by
  rw [Nat.add_comm, superAt_add, superAt_succ, superAt_zero, Option.bind_some, h, Option.bind_some]

theorem superAt_add_of_repeat {c i j : Nat} (h : g.superAt c i = g.superAt c j) (m : Nat) :
    g.superAt c (j + m) = g.superAt c (i + m) := by
  rw [superAt_add, superAt_add, h]

theorem lt_size_of_resolvedClass {k : Nat} (h : g.resolvedClass k = true) : k < g.size := by
  unfold resolvedClass at h
  cases hk : g.classNode? k with
  | none => rw [hk] at h; cases h
  | some x => exact lt_size_of_resource? (classNode?_eq_some.mp hk)

theorem mem_classIds_of_resolvedClass {k : Nat} (h : g.resolvedClass k = true) :
    k ∈ g.classIds := by
  unfold classIds
  rw [List.mem_filter, List.mem_range]
  refine ⟨lt_size_of_resolvedClass h, ?_⟩
  unfold resolvedClass at h
  cases hk : g.classNode? k with
  | none => rw [hk] at h; cases h
  | some x => rfl

theorem exists_superAt_eq_of_repeat {c i d : Nat} (hi : i < d) (h : g.superAt c i = g.superAt c d) :
    ∀ n, ∃ m < d, g.superAt c n = g.superAt c m := by
  intro n
  induction n using Nat.strong_induction_on with
  | _ n ih =>
    by_cases hn : n < d
    · exact ⟨n, hn, rfl⟩
    · -- a class past `d` is the one `d - i` links below it
      obtain ⟨m, hm, hnm⟩ := ih (n - (d - i)) (by omega)
      have hround := superAt_add_of_repeat h (n - d)
      rw [show d + (n - d) = n by omega, show i + (n - d) = n - (d - i) by omega] at hround
      exact ⟨m, hm, hround.trans hnm⟩

theorem superAt_eq_none_of_le {c d n : Nat} (h : g.superAt c d = none) (hn : d ≤ n) :
    g.superAt c n = none := by
  obtain ⟨m, rfl⟩ := Nat.exists_eq_add_of_le hn
  rw [superAt_add, h, Option.bind_none]

theorem superAt_succ_eq_some {c n k : Nat} (h : g.superAt c (n + 1) = some k) :
    ∃ p, g.superOf? c = some p ∧ g.superAt p n = some k := by
  rw [Nat.add_comm, superAt_add] at h
  cases hp : g.superOf? c with
  | none => rw [superAt_succ, superAt_zero, Option.bind_some, hp, Option.bind_none] at h; cases h
  | some p => exact ⟨p, rfl, by rwa [superAt_succ, superAt_zero, Option.bind_some, hp, Option.bind_some] at h⟩

theorem exists_classNode_of_superOf? {k p : Nat} (h : g.superOf? k = some p) :
    ∃ x, g.classNode? k = some x ∧ x.superClass = some p := by
  unfold superOf? at h
  cases hk : g.classNode? k with
  | none => rw [hk] at h; cases h
  | some x => rw [hk] at h; exact ⟨x, rfl, h⟩

theorem exists_classNode_of_lt {c n k i : Nat} (hk : g.superAt c n = some k) (hi : i < n) :
    ∃ y x, g.superAt c i = some y ∧ g.classNode? y = some x := by
  have hgoes : ∀ j ≤ n, g.superAt c j ≠ none := fun j hj hnone => by
    rw [superAt_eq_none_of_le hnone hj] at hk
    cases hk
  cases hy : g.superAt c i with
  | none => exact absurd hy (hgoes i (by omega))
  | some y =>
    cases hq : g.superOf? y with
    | none => exact absurd (by rw [superAt_succ, hy, Option.bind_some, hq]) (hgoes (i + 1) hi)
    | some q =>
      obtain ⟨x, hx, -⟩ := exists_classNode_of_superOf? hq
      exact ⟨y, x, rfl, hx⟩

/-- Distinct classes of a chain, all in a list, are no more than the list is long. -/
theorem le_length_of_distinct {c n : Nat} {L : List Nat}
    (hmem : ∀ i < n, ∃ x ∈ L, g.superAt c i = some x)
    (hdist : ∀ j < n, ∀ i < j, g.superAt c i ≠ g.superAt c j) : n ≤ L.length := by
  let node : Nat → Nat := fun i => (g.superAt c i).getD 0
  have hnode : ∀ i < n, g.superAt c i = some (node i) ∧ node i ∈ L := by
    intro i hi
    obtain ⟨x, hxL, hx⟩ := hmem i hi
    have hx' : node i = x := by simp [node, hx]
    rw [hx']
    exact ⟨hx, hxL⟩
  have hnodup : ((List.range n).map node).Nodup := by
    refine List.Nodup.map_on (fun i hi j hj hij => ?_) List.nodup_range
    rw [List.mem_range] at hi hj
    have hsame : g.superAt c i = g.superAt c j := by
      rw [(hnode i hi).1, (hnode j hj).1, hij]
    rcases Nat.lt_trichotomy i j with hlt | heq | hgt
    · exact absurd hsame (hdist j hj i hlt)
    · exact heq
    · exact absurd hsame.symm (hdist i hi j hgt)
  have hsub : (List.range n).map node ⊆ L := by
    intro x hx
    obtain ⟨i, hi, rfl⟩ := List.mem_map.mp hx
    exact (hnode i (List.mem_range.mp hi)).2
  have hlen := (hnodup.subperm hsub).length_le
  rwa [List.length_map, List.length_range] at hlen

/-! ### Resolved chains -/

namespace ResolvedChain

variable {c k : Nat}

theorem mono (h : g.ResolvedChain c k) {j : Nat} (hj : j ≤ k) : g.ResolvedChain c j :=
  ⟨fun i hi => h.1 i (by omega), fun j' hj' i hi => h.2 j' (by omega) i hi⟩

theorem zero_iff : g.ResolvedChain c 0 ↔ g.resolvedClass c = true := by
  constructor
  · intro h
    simpa using h.1 0 (Nat.le_refl 0)
  · intro h
    refine ⟨fun i hi => ?_, fun j hj i hi => by omega⟩
    obtain rfl : i = 0 := by omega
    simpa using h

theorem succ {p : Nat} (h : g.ResolvedChain c k) (hp : g.superAt c (k + 1) = some p)
    (hres : g.resolvedClass p = true) (hnew : ∀ i ≤ k, g.superAt c i ≠ some p) :
    g.ResolvedChain c (k + 1) := by
  refine ⟨fun i hi => ?_, fun j hj i hi => ?_⟩
  · rcases Nat.lt_or_eq_of_le hi with hi | rfl
    · exact h.1 i (by omega)
    · simpa [hp] using hres
  · rcases Nat.lt_or_eq_of_le hj with hj | rfl
    · exact h.2 j (by omega) i hi
    · rw [hp]
      exact hnew i (by omega)

theorem exists_superAt (h : g.ResolvedChain c k) {i : Nat} (hi : i ≤ k) :
    ∃ x, g.superAt c i = some x ∧ g.resolvedClass x = true := by
  have := h.1 i hi
  cases hx : g.superAt c i with
  | none => rw [hx] at this; cases this
  | some x => exact ⟨x, rfl, by simpa [hx] using this⟩

theorem lt_length_classIds (h : g.ResolvedChain c k) : k < g.classIds.length :=
  le_length_of_distinct (fun i hi => by
      obtain ⟨x, hx, hres⟩ := h.exists_superAt (Nat.le_of_lt_succ hi)
      exact ⟨x, mem_classIds_of_resolvedClass hres, hx⟩)
    fun j hj i hi => h.2 j (Nat.le_of_lt_succ hj) i hi

theorem isGreatest (h : g.ResolvedChain c k) (hmax : ¬g.ResolvedChain c (k + 1)) :
    IsGreatest {j | g.ResolvedChain c j} k :=
  ⟨h, fun _ hj => Nat.le_of_not_lt fun hlt => hmax (hj.mono hlt)⟩

end ResolvedChain

/-! ### The climb -/

theorem resolvedParent?_eq_some_iff {c p : Nat} : g.resolvedParent? c = some p ↔
    g.resolvedClass c = true ∧ g.superOf? c = some p ∧ g.resolvedClass p = true := by
  unfold resolvedParent? resolvedClass superOf?
  cases hc : g.classNode? c with
  | none => simp
  | some x =>
    cases hx : x.isResolved
    · simp [hx]
    · cases hs : x.superClass with
      | none => simp [hx, hs]
      | some q =>
        cases hq : g.classNode? q with
        | none =>
          simp [hx, hs, hq]
          rintro rfl
          simp [hq]
        | some y =>
          simp [hx, hs, hq]
          constructor
          · rintro ⟨hy, rfl⟩
            simp [hq, hy]
          · rintro ⟨rfl, h⟩
            simpa [hq] using h

/-- The climb from the `d`-th class of a resolved chain, having seen the classes up to it, ends
at the longest resolved chain; the induction is on the fuel, which with `d` stays above the
number of class nodes. -/
theorem climb_isGreatest {c : Nat} : ∀ fuel d cur seen, g.ResolvedChain c d →
    g.superAt c d = some cur → (∀ p, p ∈ seen ↔ ∃ i ≤ d, g.superAt c i = some p) →
    g.classIds.length ≤ fuel + d + 1 →
    IsGreatest {j | g.ResolvedChain c j} (g.climb fuel cur seen d) := by
  intro fuel
  induction fuel with
  | zero =>
    intro d cur seen hd _ _ hfuel
    -- a longer chain would hold more classes than the graph has
    exact hd.isGreatest fun hmore => by have := hmore.lt_length_classIds; omega
  | succ fuel ih =>
    intro d cur seen hd hcur hseen hfuel
    have hnext : g.superAt c (d + 1) = g.superOf? cur := by rw [superAt_succ, hcur, Option.bind_some]
    simp only [climb]
    cases hp : g.resolvedParent? cur with
    | none =>
      -- the class has no superclass, or an unresolved one
      refine hd.isGreatest fun hmore => ?_
      obtain ⟨p, hp', hres⟩ := hmore.exists_superAt (Nat.le_refl _)
      obtain ⟨x, hx, hcres⟩ := hd.exists_superAt (Nat.le_refl _)
      rw [hcur] at hx
      cases hx
      have : g.resolvedParent? cur = some p := resolvedParent?_eq_some_iff.mpr
        ⟨hcres, hnext ▸ hp', hres⟩
      rw [hp] at this
      cases this
    | some p =>
      obtain ⟨-, hsup, hres⟩ := resolvedParent?_eq_some_iff.mp hp
      have hpd : g.superAt c (d + 1) = some p := hnext.trans hsup
      simp only
      split
      · -- the superclass was met before: the chain runs round
        next hmem =>
        obtain ⟨i, hi, hpi⟩ := (hseen p).mp (List.contains_iff_mem.mp hmem)
        exact hd.isGreatest fun hmore => hmore.2 (d + 1) (Nat.le_refl _) i (by omega)
          (hpi.trans hpd.symm)
      · next hmem =>
        have hnew : ∀ i ≤ d, g.superAt c i ≠ some p := fun i hi hpi =>
          hmem (List.contains_iff_mem.mpr ((hseen p).mpr ⟨i, hi, hpi⟩))
        refine ih (d + 1) p (p :: seen) (hd.succ hpd hres hnew) hpd (fun q => ?_) (by omega)
        rw [List.mem_cons, hseen q]
        constructor
        · rintro (rfl | ⟨i, hi, hqi⟩)
          · exact ⟨d + 1, Nat.le_refl _, hpd⟩
          · exact ⟨i, by omega, hqi⟩
        · rintro ⟨i, hi, hqi⟩
          rcases Nat.lt_or_eq_of_le hi with hi | rfl
          · exact .inr ⟨i, by omega, hqi⟩
          · exact .inl (Option.some.inj (hqi.symm.trans hpd))

theorem depth_isGreatest {c : Nat} (hc : g.resolvedClass c = true) :
    IsGreatest {j | g.ResolvedChain c j} (g.depth c) := by
  refine climb_isGreatest g.size 0 c [c] (ResolvedChain.zero_iff.mpr hc) rfl (fun p => ?_) ?_
  · simp only [List.mem_singleton, Nat.le_zero, exists_eq_left, superAt_zero, Option.some.injEq]
    exact eq_comm
  · have : g.classIds.length ≤ g.size := by
      unfold classIds
      exact Nat.le_trans (List.length_filter_le _ _) (List.length_range ▸ Nat.le_refl _)
    omega

theorem depth_eq_zero {c : Nat} (h : g.resolvedParent? c = none) : g.depth c = 0 := by
  unfold depth
  cases g.size with
  | zero => rfl
  | succ n => simp [climb, h]

/-- Past a resolved class whose chain does not lead back to it, its chain is its superclass's,
one longer. -/
theorem resolvedChain_succ_iff {a b : Nat} (ha : g.resolvedClass a = true) (hab : g.superOf? a = some b)
    (hback : ∀ n, g.superAt b n ≠ some a) (k : Nat) :
    g.ResolvedChain a (k + 1) ↔ g.ResolvedChain b k := by
  have hshift := superAt_succ_of_superOf? hab
  constructor
  · intro h
    refine ⟨fun i hi => hshift i ▸ h.1 (i + 1) (by omega), fun j hj i hi => ?_⟩
    rw [← hshift, ← hshift]
    exact h.2 (j + 1) (by omega) (i + 1) (by omega)
  · intro h
    refine ⟨fun i hi => ?_, fun j hj i hi => ?_⟩
    · cases i with
      | zero => simpa using ha
      | succ i => exact hshift i ▸ h.1 i (by omega)
    · obtain ⟨j, rfl⟩ : ∃ j', j = j' + 1 := ⟨j - 1, by omega⟩
      rw [hshift]
      cases i with
      | zero => exact fun heq => hback j heq.symm
      | succ i =>
        rw [hshift]
        exact h.2 j (by omega) i (by omega)

theorem depth_eq_succ_of_superOf? {a b : Nat} (ha : g.resolvedClass a = true)
    (hab : g.superOf? a = some b) (hb : g.resolvedClass b = true)
    (hback : ∀ n, g.superAt b n ≠ some a) : g.depth a = g.depth b + 1 := by
  have hB := depth_isGreatest hb
  refine (depth_isGreatest ha).unique ⟨(resolvedChain_succ_iff ha hab hback _).mpr hB.1, ?_⟩
  intro k hk
  cases k with
  | zero => omega
  | succ k => exact Nat.succ_le_succ (hB.2 ((resolvedChain_succ_iff ha hab hback k).mp hk))

/-- Depth of inheritance, for every graph and every class node `c`: it is the largest `k` for
which `c` and the `k` classes above it are resolved and distinct, so it is less than the number
of class nodes; it is zero when `c` is unresolved, has no superclass, or has an unresolved one;
and a resolved class whose resolved superclass does not lead back to it is one deeper. -/
theorem depth_longestResolvedChain {c : Nat} {x : ClassNode} (hc : g.classNode? c = some x) :
    (x.isResolved = true → IsGreatest {k | g.ResolvedChain c k} (g.depth c)) ∧
    g.depth c < g.classIds.length ∧
    (x.isResolved = false ∨ x.superClass = none ∨
        (∃ p y, x.superClass = some p ∧ g.classNode? p = some y ∧ y.isResolved = false) →
      g.depth c = 0) ∧
    (∀ a b xa xb, g.classNode? a = some xa → xa.isResolved = true → xa.superClass = some b →
      g.classNode? b = some xb → xb.isResolved = true → (∀ n, g.superAt b n ≠ some a) →
      g.depth a = g.depth b + 1) := by
  have hres : g.resolvedClass c = x.isResolved := by simp [resolvedClass, hc]
  have hcid : c ∈ g.classIds := by
    unfold classIds
    rw [List.mem_filter, List.mem_range, hc]
    exact ⟨lt_size_of_resource? (classNode?_eq_some.mp hc), rfl⟩
  refine ⟨fun h => depth_isGreatest (hres ▸ h), ?_, fun hzero => depth_eq_zero ?_, ?_⟩
  · -- a resolved class counts its chain; any other has depth zero
    cases hx : x.isResolved with
    | true => exact (depth_isGreatest (hres.trans hx)).1.lt_length_classIds
    | false =>
      rw [depth_eq_zero]
      · exact List.length_pos_of_mem hcid
      · cases hp : g.resolvedParent? c with
        | none => rfl
        | some p => have := (resolvedParent?_eq_some_iff.mp hp).1; rw [hres, hx] at this; cases this
  · cases hp : g.resolvedParent? c with
    | none => rfl
    | some p =>
      obtain ⟨hcr, hsup, hpr⟩ := resolvedParent?_eq_some_iff.mp hp
      simp only [superOf?, hc, Option.bind_some] at hsup
      rcases hzero with hz | hz | ⟨q, y, hq, hy, hyr⟩
      · rw [hres, hz] at hcr; cases hcr
      · rw [hz] at hsup; cases hsup
      · rw [hq] at hsup
        cases hsup
        simp [resolvedClass, hy, hyr] at hpr
  · intro a b xa xb ha har hab hb hbr hback
    exact depth_eq_succ_of_superOf? (by simp [resolvedClass, ha, har]) (by simp [superOf?, ha, hab])
      (by simp [resolvedClass, hb, hbr]) hback

/-- `A` extends `B`, and `B` and `C` extend each other: the climb from `A` stops at the cycle. -/
theorem depth_longestResolvedChain_aboveCycle :
    let x : ClassNode := ⟨"A", 0x21, some .structureOnly, some 1, [], [], []⟩
    let g : StructuralGraph := { nodes := #[.cls x,
      .cls ⟨"B", 0x21, some .structureOnly, some 2, [], [], []⟩,
      .cls ⟨"C", 0x21, some .structureOnly, some 1, [], [], []⟩] }
    g.classNode? 0 = some x ∧ g.depth 0 = 2 ∧
    (x.isResolved = true → IsGreatest {k | g.ResolvedChain 0 k} (g.depth 0)) ∧
    g.depth 0 < g.classIds.length ∧
    (x.isResolved = false ∨ x.superClass = none ∨
        (∃ p y, x.superClass = some p ∧ g.classNode? p = some y ∧ y.isResolved = false) →
      g.depth 0 = 0) ∧
    (∀ a b xa xb, g.classNode? a = some xa → xa.isResolved = true → xa.superClass = some b →
      g.classNode? b = some xb → xb.isResolved = true → (∀ n, g.superAt b n ≠ some a) →
      g.depth a = g.depth b + 1) := by
  intro x g
  have hx : g.classNode? 0 = some x := rfl
  exact ⟨hx, rfl, depth_longestResolvedChain hx⟩

end ClassMetrics.StructuralGraph
