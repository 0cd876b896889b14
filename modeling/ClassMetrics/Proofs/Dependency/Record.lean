import ClassMetrics.Dependency
import Mathlib.Algebra.BigOperators.Group.List.Basic
import Mathlib.Data.List.Nodup

/-!
The dependency graph as the sum of the dependencies recorded into it. A graph keeps one
dependency for each level and pair of keys and none from a key to itself. Recording a
dependency bumps the one at its level and keys, so after a list of them each dependency holds
the strongest usage and the summed weight of what was recorded at its keys, and the weight of
the graph over any set of levels and keys is what was recorded there, as long as no single
dependency outgrows its 32 bits.
-/

namespace ClassMetrics

namespace Dependency

/-- Where a dependency sits: its level and its two keys. -/
def ends (e : Dependency) : Scope × String × String := (e.scope, e.source, e.target)

/-- The dependency after recording another usage and weight at the same keys. -/
def bump (e : Dependency) (u : Usage) (w : Nat) : Dependency :=
  { e with usage := e.usage.strongest u, weight := (e.weight + w) % 2 ^ 32 }

/-- What recording a dependency leaves at its keys, over what was there. -/
def onto (e : Dependency) : Option Dependency → Dependency
  | some x => x.bump e.usage e.weight
  | none => { e with weight := e.weight % 2 ^ 32 }

@[simp] theorem ends_onto (e : Dependency) (o : Option Dependency)
    (ho : ∀ x, o = some x → x.ends = e.ends) : (e.onto o).ends = e.ends := by
  cases o with
  | none => rfl
  | some x => exact ho x rfl

theorem matches_iff {e : Dependency} {s : Scope} {a b : String} :
    (decide (e.scope = s) && decide (e.source = a) && decide (e.target = b)) = true ↔
      e.ends = (s, a, b) := by
  simp [ends, and_assoc]

end Dependency

namespace Usage

@[simp] theorem uses_strongest (u : Usage) : Usage.uses.strongest u = u := by
  cases u <;> rfl

theorem rank_strongest (a b : Usage) : (a.strongest b).rank = max a.rank b.rank := by
  cases a <;> cases b <;> rfl

theorem eq_of_rank_eq {a b : Usage} (h : a.rank = b.rank) : a = b := by
  cases a <;> cases b <;> simp_all [rank]

theorem eq_uses_of_rank_le {u : Usage} (h : u.rank ≤ Usage.uses.rank) : u = .uses := by
  cases u <;> simp_all [rank]

end Usage

namespace DependencyGraph

open Dependency

/-- Records a dependency. -/
def record (d : DependencyGraph) (e : Dependency) : DependencyGraph :=
  d.add e.scope e.source e.target e.usage e.weight

/-- The weight of the dependency at a level and keys, zero when there is none. -/
def weightAt (d : DependencyGraph) (k : Scope × String × String) : Nat :=
  ((d.edge? k.1 k.2.1 k.2.2).map (·.weight)).getD 0

/-- The total weight of the dependencies whose level and keys satisfy `p`. -/
def weightWhere (d : DependencyGraph) (p : Scope × String × String → Bool) : Nat :=
  ((d.edges.toList.filter fun e => p e.ends).map (·.weight)).sum

/-- The total weight of the dependencies of a level between keys that satisfy `between`. -/
def weightBetween (d : DependencyGraph) (scope : Scope) (between : String → String → Bool) :
    Nat :=
  d.weightWhere fun k => k.1 = scope && between k.2.1 k.2.2

/-- A graph with one dependency for each level and pair of keys, and none from a key to
itself. -/
structure WellFormed (d : DependencyGraph) : Prop where
  ends_nodup : (d.edges.toList.map Dependency.ends).Nodup
  irrefl : ∀ e ∈ d.edges.toList, e.source ≠ e.target

theorem wellFormed_empty : ({} : DependencyGraph).WellFormed where
  ends_nodup := by simp
  irrefl := by simp

theorem edge?_eq_find? (d : DependencyGraph) (s : Scope) (a b : String) :
    d.edge? s a b = d.edges.toList.find? fun e => e.ends = (s, a, b) := by
  rw [edge?, ← Array.find?_toList]
  congr 1
  funext e
  exact Bool.eq_iff_iff.mpr (matches_iff.trans decide_eq_true_iff.symm)

theorem edge?_eq_none_iff {d : DependencyGraph} {s : Scope} {a b : String} :
    d.edge? s a b = none ↔ ∀ e ∈ d.edges.toList, e.ends ≠ (s, a, b) := by
  simp [edge?_eq_find?]

theorem WellFormed.edge?_eq_some_iff {d : DependencyGraph} (hd : d.WellFormed) {s : Scope}
    {a b : String} {e : Dependency} :
    d.edge? s a b = some e ↔ e ∈ d.edges.toList ∧ e.ends = (s, a, b) := by
  rw [edge?_eq_find?]
  constructor
  · intro h
    exact ⟨List.mem_of_find?_eq_some h, by simpa using List.find?_some h⟩
  · rintro ⟨he, hk⟩
    have hsome : (d.edges.toList.find? fun x => decide (x.ends = (s, a, b))).isSome :=
      List.find?_isSome.mpr ⟨e, he, decide_eq_true hk⟩
    obtain ⟨x, hx⟩ := Option.isSome_iff_exists.mp hsome
    have hxk : x.ends = (s, a, b) := by
      have hp := List.find?_some hx
      simpa using hp
    rw [hx, List.inj_on_of_nodup_map hd.ends_nodup (List.mem_of_find?_eq_some hx) he
      (hxk.trans hk.symm)]

/-- Recording a dependency: the dependencies at other keys stay where they are, and the one at
its keys, if any, is replaced by what recording leaves there, or that is added at the end. -/
theorem WellFormed.record_edges {d : DependencyGraph} (hd : d.WellFormed) {e : Dependency}
    (he : e.source ≠ e.target) :
    ∃ l₁ l₂, (∀ x ∈ l₁ ++ l₂, x.ends ≠ e.ends) ∧
      d.edges.toList = l₁ ++ (d.edge? e.scope e.source e.target).toList ++ l₂ ∧
      (d.record e).edges.toList = l₁ ++ e.onto (d.edge? e.scope e.source e.target) :: l₂ := by
  have hfind : d.edges.findIdx? (fun x => decide (x.scope = e.scope) &&
      decide (x.source = e.source) && decide (x.target = e.target)) =
      d.edges.toList.findIdx? fun x => x.ends = e.ends := by
    rw [← List.findIdx?_toArray, Array.toArray_toList]
    congr 1
    funext x
    exact Bool.eq_iff_iff.mpr (matches_iff.trans decide_eq_true_iff.symm)
  unfold record add
  rw [if_neg he, hfind]
  cases hi : d.edges.toList.findIdx? (fun x => x.ends = e.ends) with
  | none =>
    -- nothing sits at the keys: the dependency goes at the end
    have hnone := List.findIdx?_eq_none_iff.mp hi
    have hedge : d.edge? e.scope e.source e.target = none :=
      edge?_eq_none_iff.mpr fun x hx hk => by
        have := hnone x hx
        simp only [ends, Prod.mk.injEq] at hk
        simp [ends] at this
        exact this hk.1 hk.2.1 hk.2.2
    refine ⟨d.edges.toList, [], fun x hx hk => ?_, by simp [hedge], by simp [hedge, onto]⟩
    simpa [hk] using hnone x (by simpa using hx)
  | some i =>
    -- the first dependency at the keys is the only one, and it is bumped in place
    obtain ⟨hlt, hpi, -⟩ := List.findIdx?_eq_some_iff_getElem.mp hi
    obtain ⟨l₁, x, l₂, hl, hlen, hmod⟩ := List.exists_of_modify (fun y =>
      { y with usage := y.usage.strongest e.usage, weight := (y.weight + e.weight) % 2 ^ 32 }) hlt
    have hx : d.edges.toList[i] = x := by simp [hl, ← hlen]
    have hxk : x.ends = e.ends := by simpa [hx] using hpi
    have hmem : x ∈ d.edges.toList := by simp [hl]
    have hedge : d.edge? e.scope e.source e.target = some x :=
      (hd.edge?_eq_some_iff).mpr ⟨hmem, hxk⟩
    have hnd := hd.ends_nodup
    rw [hl] at hnd
    refine ⟨l₁, l₂, fun y hy hk => ?_, by simp [hl, hedge], ?_⟩
    · rw [List.map_append, List.map_cons] at hnd
      rcases List.mem_append.mp hy with hy | hy
      · exact (List.nodup_append.mp hnd).2.2 _ (List.mem_map_of_mem hy) _ (by simp) (hk.trans hxk.symm)
      · exact (List.nodup_cons.mp (List.nodup_append.mp hnd).2.1).1
          (hxk.trans hk.symm ▸ List.mem_map_of_mem hy)
    · simp only [Array.toList_modify]
      rw [hmod, hedge]
      rfl

/-- Recording a dependency bumps the look-up at its keys and no other. -/
theorem WellFormed.edge?_record {d : DependencyGraph} (hd : d.WellFormed) (e : Dependency)
    (s : Scope) (a b : String) :
    (d.record e).edge? s a b = if e.source ≠ e.target ∧ e.ends = (s, a, b)
      then some (e.onto (d.edge? e.scope e.source e.target)) else d.edge? s a b := by
  by_cases he : e.source = e.target
  · simp [he, record, add]
  obtain ⟨l₁, l₂, hl, hd₀, hd₁⟩ := hd.record_edges he
  have hO : ∀ x, d.edge? e.scope e.source e.target = some x → x.ends = e.ends :=
    fun x hx => ((hd.edge?_eq_some_iff).mp hx).2
  have honto := ends_onto e _ hO
  generalize d.edge? e.scope e.source e.target = O at hO honto hd₀ hd₁ ⊢
  rw [edge?_eq_find?, edge?_eq_find?, hd₁, hd₀]
  by_cases hk : e.ends = (s, a, b)
  · have hnone : (l₁.find? fun x => decide (x.ends = (s, a, b))) = none :=
      List.find?_eq_none.mpr fun x hx => by simpa [← hk] using hl x (by simp [hx])
    rw [if_pos ⟨he, hk⟩]
    simp [List.find?_append, hnone, honto, hk]
  · have hne : (O.toList.find? fun x => x.ends = (s, a, b)) = none := by
      cases O with
      | none => rfl
      | some x => simpa [hO x rfl] using hk
    rw [if_neg (fun h => hk h.2)]
    simp [List.find?_append, hne, honto, hk]

theorem record_wellFormed {d : DependencyGraph} (hd : d.WellFormed) (e : Dependency) :
    (d.record e).WellFormed := by
  by_cases he : e.source = e.target
  · simpa [he, DependencyGraph.record, add] using hd
  obtain ⟨l₁, l₂, hl, hd₀, hd₁⟩ := hd.record_edges he
  have honto : (e.onto (d.edge? e.scope e.source e.target)).ends = e.ends :=
    ends_onto e _ fun x hx => ((hd.edge?_eq_some_iff).mp hx).2
  have hnd := hd.ends_nodup
  have hirr := hd.irrefl
  rw [hd₀] at hnd hirr
  constructor
  · rw [hd₁]
    simp only [List.map_append, List.map_cons, honto, List.nodup_append, List.nodup_cons]
    simp only [List.map_append, List.nodup_append] at hnd
    refine ⟨hnd.1.1, ⟨fun h => ?_, hnd.2.1⟩, ?_⟩
    · obtain ⟨y, hy, hk⟩ := List.mem_map.mp h
      exact hl y (by simp [hy]) hk
    · intro x hx y hy hxy
      rcases List.mem_cons.mp hy with rfl | hy
      · obtain ⟨z, hz, rfl⟩ := List.mem_map.mp hx
        exact hl z (by simp [hz]) hxy
      · exact hnd.2.2 x (by simpa using Or.inl hx) y hy hxy
  · rw [hd₁]
    intro x hx
    rcases List.mem_append.mp hx with hx | hx
    · exact hirr x (by simp [hx])
    rcases List.mem_cons.mp hx with rfl | hx
    · have := congrArg (fun k : Scope × String × String => k.2) honto
      simp only [ends, Prod.mk.injEq] at this
      rw [this.1, this.2]
      exact he
    · exact hirr x (by simp [hx])

theorem weight_onto (d : DependencyGraph) (e : Dependency) :
    (e.onto (d.edge? e.scope e.source e.target)).weight = (d.weightAt e.ends + e.weight) % 2 ^ 32 := by
  cases h : d.edge? e.scope e.source e.target <;> simp [onto, bump, weightAt, ends, h]

theorem WellFormed.weightAt_record {d : DependencyGraph} (hd : d.WellFormed) (e : Dependency)
    (k : Scope × String × String) :
    (d.record e).weightAt k = if e.source ≠ e.target ∧ e.ends = k
      then (d.weightAt k + e.weight) % 2 ^ 32 else d.weightAt k := by
  have hw := weight_onto d e
  by_cases h : e.source ≠ e.target ∧ e.ends = k
  · rw [if_pos h, ← h.2, ← hw]
    simp only [weightAt, ends]
    rw [hd.edge?_record, if_pos ⟨h.1, rfl⟩]
    rfl
  · rw [if_neg h]
    simp only [weightAt]
    rw [hd.edge?_record, if_neg h]

/-- Recording a dependency that fits in 32 bits adds its weight to every set of keys that
holds its own. -/
theorem WellFormed.weightWhere_record {d : DependencyGraph} (hd : d.WellFormed) (e : Dependency)
    (hfit : d.weightAt e.ends + e.weight < 2 ^ 32) (p : Scope × String × String → Bool) :
    (d.record e).weightWhere p =
      d.weightWhere p + if e.source ≠ e.target ∧ p e.ends then e.weight else 0 := by
  by_cases he : e.source = e.target
  · simp [he, record, add]
  obtain ⟨l₁, l₂, -, hd₀, hd₁⟩ := hd.record_edges he
  have hw := weight_onto d e
  have hO : ∀ x, d.edge? e.scope e.source e.target = some x → x.ends = e.ends :=
    fun x hx => ((hd.edge?_eq_some_iff).mp hx).2
  have honto := ends_onto e _ hO
  unfold weightAt at hfit hw
  simp only [ends] at hfit hw
  generalize d.edge? e.scope e.source e.target = O at hO honto hd₀ hd₁ hfit hw
  unfold weightWhere
  rw [hd₀, hd₁]
  cases O with
  | none =>
    have : (e.onto none).weight = e.weight := by simp at hw; omega
    by_cases hp : p e.ends
    · simp [hp, honto, he, this]
      omega
    · simp [hp, honto, he]
  | some x =>
    have : (e.onto (some x)).weight = x.weight + e.weight := by simp at hw hfit; omega
    by_cases hp : p e.ends
    · simp [hp, honto, hO x rfl, he, this]
      omega
    · simp [hp, honto, hO x rfl, he]

theorem foldl_record_wellFormed {d : DependencyGraph} (hd : d.WellFormed)
    (es : List Dependency) : (es.foldl record d).WellFormed := by
  induction es generalizing d with
  | nil => exact hd
  | cons e es ih => exact ih (record_wellFormed hd e)

/-- Recording a list of dependencies adds to the weight over any set of keys what was
recorded there between two different keys, as long as no dependency outgrows its 32 bits. -/
theorem WellFormed.weightWhere_foldl_record {d : DependencyGraph} (hd : d.WellFormed)
    (es : List Dependency)
    (hfit : ∀ k, d.weightAt k + ((es.filter (·.ends = k)).map (·.weight)).sum < 2 ^ 32)
    (p : Scope × String × String → Bool) :
    (es.foldl record d).weightWhere p = d.weightWhere p +
      ((es.filter fun e => e.source ≠ e.target ∧ p e.ends).map (·.weight)).sum := by
  induction es generalizing d with
  | nil => simp
  | cons e es ih =>
    have hfit' : ∀ k, (d.record e).weightAt k +
        ((es.filter (·.ends = k)).map (·.weight)).sum < 2 ^ 32 := by
      intro k
      have := hfit k
      rw [hd.weightAt_record]
      split
      · next h => simp [h.2] at this; omega
      · by_cases hk : e.ends = k <;> simp [hk] at this <;> omega
    have he := hfit e.ends
    simp only [List.filter_cons, decide_true, if_true, List.map_cons, List.sum_cons] at he
    rw [List.foldl_cons, ih (record_wellFormed hd e) hfit', hd.weightWhere_record e (by omega)]
    by_cases h : e.source ≠ e.target ∧ p e.ends = true
    · rw [if_pos h, List.filter_cons_of_pos (by simpa using h), List.map_cons, List.sum_cons]
      omega
    · rw [if_neg h, List.filter_cons_of_neg (by simpa using h)]
      rfl

/-- The dependency that recording a list of dependencies at one level and keys leaves there
when nothing was: none for no dependencies, else the strongest usage and the weights summed
in 32 bits. -/
def summary (k : Scope × String × String) (es : List Dependency) : Option Dependency :=
  if es = [] then none
  else some ⟨k.1, k.2.1, k.2.2, (es.map (·.usage)).foldl Usage.strongest .uses,
    (es.map (·.weight)).sum % 2 ^ 32⟩

theorem WellFormed.edge?_foldl_record {d : DependencyGraph} (hd : d.WellFormed)
    (es : List Dependency) {s : Scope} {a b : String} (hab : a ≠ b) :
    (es.foldl record d).edge? s a b =
      (es.filter (·.ends = (s, a, b))).foldl (fun o e => some (e.onto o)) (d.edge? s a b) := by
  induction es generalizing d with
  | nil => rfl
  | cons e es ih =>
    rw [List.foldl_cons, ih (record_wellFormed hd e), hd.edge?_record]
    by_cases hk : e.ends = (s, a, b)
    · have he : e.source ≠ e.target := by
        simp only [ends, Prod.mk.injEq] at hk
        rw [hk.2.1, hk.2.2]
        exact hab
      have hsab : e.scope = s ∧ e.source = a ∧ e.target = b := by simpa [ends] using hk
      rw [if_pos ⟨he, hk⟩, List.filter_cons_of_pos (by simpa using hk), List.foldl_cons,
        hsab.1, hsab.2.1, hsab.2.2]
    · rw [if_neg fun h => hk h.2, List.filter_cons_of_neg (by simpa using hk)]

theorem foldl_onto_some (l : List Dependency) {x : Dependency} (hx : x.weight < 2 ^ 32) :
    l.foldl (fun o e => some (e.onto o)) (some x) = some { x with
      usage := (l.map (·.usage)).foldl Usage.strongest x.usage,
      weight := (x.weight + (l.map (·.weight)).sum) % 2 ^ 32 } := by
  induction l generalizing x with
  | nil =>
    simp only [List.map_nil, List.foldl_nil, List.sum_nil, Nat.add_zero, Nat.mod_eq_of_lt hx]
  | cons e l ih =>
    rw [List.foldl_cons, onto, ih (Nat.mod_lt _ (Nat.two_pow_pos 32))]
    simp only [bump, List.map_cons, List.foldl_cons, List.sum_cons]
    congr 2
    omega

theorem edge?_foldl_record_empty (es : List Dependency) {s : Scope} {a b : String}
    (hab : a ≠ b) :
    (es.foldl record {}).edge? s a b = summary (s, a, b) (es.filter (·.ends = (s, a, b))) := by
  rw [wellFormed_empty.edge?_foldl_record es hab]
  have hends : ∀ e ∈ es.filter (·.ends = (s, a, b)), e.ends = (s, a, b) := by simp
  generalize es.filter (·.ends = (s, a, b)) = l at hends
  have hnone : ({} : DependencyGraph).edge? s a b = none := rfl
  rw [hnone]
  cases l with
  | nil => rfl
  | cons e l =>
    have hk : e.scope = s ∧ e.source = a ∧ e.target = b := by simpa [ends] using hends e (by simp)
    rw [List.foldl_cons, onto, foldl_onto_some l (Nat.mod_lt _ (Nat.two_pow_pos 32))]
    simp only [summary, reduceCtorEq, if_false, List.map_cons, List.foldl_cons, List.sum_cons,
      Usage.uses_strongest, hk.1, hk.2.1, hk.2.2]
    congr 2
    omega

theorem WellFormed.nodup_map_filter {d : DependencyGraph} (hd : d.WellFormed)
    {p : Dependency → Bool} {f : Dependency → String}
    (hf : ∀ e₁ e₂, p e₁ → p e₂ → f e₁ = f e₂ → e₁.ends = e₂.ends) :
    ((d.edges.toList.filter p).map f).Nodup := by
  have hnd : d.edges.toList.Nodup := List.Nodup.of_map _ hd.ends_nodup
  refine (hnd.filter p).map_on fun e₁ h₁ e₂ h₂ hf₁₂ => ?_
  obtain ⟨h₁, hp₁⟩ := List.mem_filter.mp h₁
  obtain ⟨h₂, hp₂⟩ := List.mem_filter.mp h₂
  exact List.inj_on_of_nodup_map hd.ends_nodup h₁ h₂ (hf e₁ e₂ hp₁ hp₂ hf₁₂)

theorem WellFormed.afferent_eq_length {d : DependencyGraph} (hd : d.WellFormed) (s : Scope)
    (key : String) : ∃ xs : List String, xs.Nodup ∧ (∀ x, x ∈ xs ↔ (d.edge? s x key).isSome) ∧
      d.afferent s key = xs.length := by
  refine ⟨(d.edges.toList.filter fun e => e.scope = s && e.target = key).map (·.source),
    hd.nodup_map_filter fun e₁ e₂ h₁ h₂ h => ?_, fun x => ?_, by simp [afferent]⟩
  · simp only [Bool.and_eq_true, decide_eq_true_eq] at h₁ h₂
    simp [ends, h₁.1, h₂.1, h₁.2, h₂.2, h]
  · simp only [List.mem_map, List.mem_filter, Bool.and_eq_true, decide_eq_true_eq,
      Option.isSome_iff_exists, hd.edge?_eq_some_iff, ends, Prod.mk.injEq]
    constructor
    · rintro ⟨e, ⟨he, hs, hk⟩, rfl⟩
      exact ⟨e, he, hs, rfl, hk⟩
    · rintro ⟨e, he, hs, rfl, hk⟩
      exact ⟨e, ⟨he, hs, hk⟩, rfl⟩

theorem WellFormed.efferent_eq_length {d : DependencyGraph} (hd : d.WellFormed) (s : Scope)
    (key : String) : ∃ xs : List String, xs.Nodup ∧ (∀ x, x ∈ xs ↔ (d.edge? s key x).isSome) ∧
      d.efferent s key = xs.length := by
  refine ⟨(d.edges.toList.filter fun e => e.scope = s && e.source = key).map (·.target),
    hd.nodup_map_filter fun e₁ e₂ h₁ h₂ h => ?_, fun x => ?_, by simp [efferent]⟩
  · simp only [Bool.and_eq_true, decide_eq_true_eq] at h₁ h₂
    simp [ends, h₁.1, h₂.1, h₁.2, h₂.2, h]
  · simp only [List.mem_map, List.mem_filter, Bool.and_eq_true, decide_eq_true_eq,
      Option.isSome_iff_exists, hd.edge?_eq_some_iff, ends, Prod.mk.injEq]
    constructor
    · rintro ⟨e, ⟨he, hs, hk⟩, rfl⟩
      exact ⟨e, he, hs, hk, rfl⟩
    · rintro ⟨e, he, hs, hk, rfl⟩
      exact ⟨e, ⟨he, hs, hk⟩, rfl⟩

/-- The weight at one level and keys is that of the one dependency there. -/
theorem WellFormed.weightWhere_eq_weightAt {d : DependencyGraph} (hd : d.WellFormed)
    (k : Scope × String × String) : d.weightWhere (fun k' => k' = k) = d.weightAt k := by
  obtain ⟨s, a, b⟩ := k
  unfold weightWhere weightAt
  cases he : d.edge? s a b with
  | none =>
    have hnil : d.edges.toList.filter (fun e => decide (e.ends = (s, a, b))) = [] :=
      List.filter_eq_nil_iff.mpr fun e hm h => edge?_eq_none_iff.mp he e hm (of_decide_eq_true h)
    simp [hnil]
  | some e =>
    obtain ⟨hm, hk⟩ := hd.edge?_eq_some_iff.mp he
    -- every dependency at the keys is `e`, and the dependencies are listed once each
    have hall : ∀ x ∈ d.edges.toList.filter (fun e => decide (e.ends = (s, a, b))), x = e :=
      fun x hx => by
        obtain ⟨hx, hxk⟩ := List.mem_filter.mp hx
        exact List.inj_on_of_nodup_map hd.ends_nodup hx hm ((of_decide_eq_true hxk).trans hk.symm)
    have hnd := ((List.Nodup.of_map _ hd.ends_nodup).filter
      (fun e => decide (e.ends = (s, a, b))))
    rw [List.eq_replicate_of_mem hall] at hnd ⊢
    have hpos : 0 < (d.edges.toList.filter (fun e => decide (e.ends = (s, a, b)))).length :=
      List.length_pos_of_mem (List.mem_filter.mpr ⟨hm, decide_eq_true hk⟩)
    have hlen : (d.edges.toList.filter (fun e => decide (e.ends = (s, a, b)))).length = 1 := by
      have := List.nodup_replicate.mp hnd
      omega
    simp [hlen]

theorem foldl_strongest_uses (l : List Usage) (h : ∀ u ∈ l, u = .uses) :
    l.foldl Usage.strongest .uses = .uses := by
  induction l with
  | nil => rfl
  | cons u l ih =>
    rw [List.foldl_cons, h u (by simp), Usage.uses_strongest]
    exact ih fun v hv => h v (by simp [hv])

theorem internalWeight_eq_weightBetween (d : DependencyGraph) (s : Scope)
    (within : String → Bool) :
    d.internalWeight s within = d.weightBetween s fun x y => within x && within y := by
  simp only [internalWeight, weightBetween, weightWhere, Dependency.ends, Bool.and_assoc]
  rfl

end DependencyGraph

end ClassMetrics
