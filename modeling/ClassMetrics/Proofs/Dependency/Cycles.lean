import ClassMetrics.Proofs.Dependency.Record
import Mathlib.Logic.Relation
import Mathlib.Data.List.Perm.Subperm
import Mathlib.Data.Finset.Card
import Mathlib.Tactic.Choose

/-!
The cycle count of a level. For every key of the dependencies between keys that satisfy
`within`, `cycles` searches breadth first for what the key reaches; it then counts the keys that
reach themselves and come first among the keys they share a strongly connected set with. Between
rounds the search keeps an invariant (`Search`), and with as many rounds as there are keys it
ends with exactly the keys reached. So the count names each strongly connected set of two or
more keys once (`NamesComponents`), any two such namings are equally long, and the count is zero
exactly when the level has no cycle.
-/

namespace ClassMetrics

namespace DependencyGraph

open Relation

/-! ### Searching from a key -/

section Search

variable {edges : List (String × String)} {k : String} {frontier seen : List String}

/-- A step along the pairs of keys. -/
def Step (edges : List (String × String)) (x y : String) : Prop := (x, y) ∈ edges

/-- The keys one round of the search finds: successors of the frontier not seen yet, each once. -/
def nextRound (edges : List (String × String)) (frontier seen : List String) : List String :=
  ((edges.filter fun (s, t) => frontier.contains s && !seen.contains t).map (·.2)).eraseDups

theorem reach_succ (fuel : Nat) (frontier seen : List String) :
    reach edges (fuel + 1) frontier seen =
      if (nextRound edges frontier seen).isEmpty then seen
      else reach edges fuel (nextRound edges frontier seen)
        (seen ++ nextRound edges frontier seen) := rfl

theorem nodup_eraseDups : ∀ l : List String, l.eraseDups.Nodup
  | [] => List.nodup_nil
  | a :: as => by
    rw [List.eraseDups_cons]
    refine List.nodup_cons.mpr ⟨?_, nodup_eraseDups _⟩
    simp
termination_by l => l.length
decreasing_by exact Nat.lt_succ_of_le (List.length_filter_le _ _)

theorem mem_nextRound {y : String} :
    y ∈ nextRound edges frontier seen ↔ y ∉ seen ∧ ∃ x ∈ frontier, Step edges x y := by
  simp only [nextRound, List.mem_eraseDups, List.mem_map, List.mem_filter, Step]
  constructor
  · rintro ⟨⟨x, y⟩, ⟨hm, hc⟩, rfl⟩
    simp at hc
    exact ⟨hc.2, x, hc.1, hm⟩
  · rintro ⟨hy, x, hx, hm⟩
    exact ⟨(x, y), ⟨hm, by simp [hx, hy]⟩, rfl⟩

/-- What holds between the rounds of the search from `k`: the frontier is `k` or reached from it,
what is seen is reached from `k` in one step or more and listed once, and a key that is `k` or
seen has all its successors seen unless it is on the frontier. -/
structure Search (edges : List (String × String)) (k : String) (frontier seen : List String) :
    Prop where
  frontier_reached : ∀ x ∈ frontier, x = k ∨ TransGen (Step edges) k x
  seen_reached : ∀ x ∈ seen, TransGen (Step edges) k x
  nodup : seen.Nodup
  closed : ∀ x y, x = k ∨ x ∈ seen → Step edges x y → y ∈ seen ∨ x ∈ frontier

theorem search_start : Search edges k [k] [] where
  frontier_reached := by simp
  seen_reached := by simp
  nodup := List.nodup_nil
  closed _ _ hx _ := .inr (by simpa using hx)

theorem transGen_of_step {x y : String} (hx : x = k ∨ TransGen (Step edges) k x)
    (hxy : Step edges x y) : TransGen (Step edges) k y := by
  rcases hx with rfl | hx
  · exact .single hxy
  · exact hx.tail hxy

/-- One round keeps the invariant: the keys it finds are successors of the frontier, new, and
listed once, and every successor of the frontier is now seen. -/
theorem Search.next (hs : Search edges k frontier seen) :
    Search edges k (nextRound edges frontier seen) (seen ++ nextRound edges frontier seen) where
  frontier_reached y hy := by
    obtain ⟨-, x, hx, hxy⟩ := mem_nextRound.mp hy
    exact .inr (transGen_of_step (hs.frontier_reached x hx) hxy)
  seen_reached y hy := by
    rcases List.mem_append.mp hy with hy | hy
    · exact hs.seen_reached y hy
    · obtain ⟨-, x, hx, hxy⟩ := mem_nextRound.mp hy
      exact transGen_of_step (hs.frontier_reached x hx) hxy
  nodup := List.nodup_append.mpr ⟨hs.nodup, nodup_eraseDups _,
    fun _ ha _ hb hab => (mem_nextRound.mp hb).1 (hab ▸ ha)⟩
  closed x y hx hxy := by
    by_cases hf : x ∈ frontier
    · -- a successor of the frontier is seen already or found now
      by_cases hy : y ∈ seen
      · exact .inl (List.mem_append_left _ hy)
      · exact .inl (List.mem_append_right _ (mem_nextRound.mpr ⟨hy, x, hf, hxy⟩))
    · by_cases hn : x ∈ nextRound edges frontier seen
      · exact .inr hn
      · have hx' : x = k ∨ x ∈ seen := by simpa [hn] using hx
        exact .inl (List.mem_append_left _ ((hs.closed x y hx' hxy).resolve_right hf))

theorem Search.mem_seen (hs : Search edges k frontier seen)
    (hnil : nextRound edges frontier seen = []) {y : String} (hy : TransGen (Step edges) k y) :
    y ∈ seen := by
  have hstep : ∀ x y, x = k ∨ x ∈ seen → Step edges x y → y ∈ seen := fun x y hx hxy =>
    (hs.closed x y hx hxy).elim id fun hf => by
      by_contra hy
      simpa [hnil] using mem_nextRound.mpr ⟨hy, x, hf, hxy⟩
  induction hy with
  | single h => exact hstep _ _ (.inl rfl) h
  | tail _ h ih => exact hstep _ _ (.inr ih) h

theorem mem_of_transGen {keys : List String} (hkeys : ∀ p ∈ edges, p.2 ∈ keys) {x y : String}
    (h : TransGen (Step edges) x y) : y ∈ keys := by
  cases h with
  | single h => exact hkeys _ h
  | tail _ h => exact hkeys _ h

theorem Search.mem_reach_iff {keys : List String} (hkeys : ∀ p ∈ edges, p.2 ∈ keys)
    {fuel : Nat} (hs : Search edges k frontier seen) (hfuel : keys.length ≤ fuel + seen.length)
    {y : String} : y ∈ reach edges fuel frontier seen ↔ TransGen (Step edges) k y := by
  induction fuel generalizing frontier seen with
  | zero =>
    refine ⟨hs.seen_reached y, fun hy => ?_⟩
    -- out of rounds, every key has been seen
    have hsub : seen.Subperm keys :=
      hs.nodup.subperm fun x hx => mem_of_transGen hkeys (hs.seen_reached x hx)
    exact (hsub.perm_of_length_le (by simpa using hfuel)).mem_iff.mpr (mem_of_transGen hkeys hy)
  | succ fuel ih =>
    rw [reach_succ]
    split
    · next hnil => exact ⟨hs.seen_reached y, hs.mem_seen (List.isEmpty_iff.mp hnil)⟩
    · next hne =>
      have hpos : 0 < (nextRound edges frontier seen).length :=
        List.length_pos_iff.mpr fun h => hne (by simp [h])
      exact ih hs.next (by rw [List.length_append]; omega)

end Search

/-! ### Strongly connected sets -/

section Components

variable {α : Type} {R : α → α → Prop} {x y z : α}

/-- Two keys reach each other; a key reaches itself in no steps. -/
def Mutual (R : α → α → Prop) (x y : α) : Prop := ReflTransGen R x y ∧ ReflTransGen R y x

theorem Mutual.symm (h : Mutual R x y) : Mutual R y x := ⟨h.2, h.1⟩

theorem Mutual.trans (h₁ : Mutual R x y) (h₂ : Mutual R y z) : Mutual R x z :=
  ⟨h₁.1.trans h₂.1, h₂.2.trans h₁.2⟩

/-- A list that names each strongly connected set of two or more keys once, by one of its
keys. -/
structure NamesComponents (R : α → α → Prop) (reps : List α) : Prop where
  nodup : reps.Nodup
  large : ∀ r ∈ reps, ∃ y, y ≠ r ∧ Mutual R r y
  covers : ∀ x y, x ≠ y → Mutual R x y → ∃ r ∈ reps, Mutual R x r
  apart : ∀ r₁ ∈ reps, ∀ r₂ ∈ reps, Mutual R r₁ r₂ → r₁ = r₂

theorem transGen_of_reflTransGen (h : ReflTransGen R x y) (hne : x ≠ y) : TransGen R x y :=
  (reflTransGen_iff_eq_or_transGen.mp h).resolve_left hne.symm

theorem transGen_self_of_mutual (h : Mutual R x y) (hne : x ≠ y) : TransGen R x x :=
  (transGen_of_reflTransGen h.1 hne).trans_left h.2

theorem transGen_self_iff (hirr : ∀ x, ¬ R x x) :
    TransGen R x x ↔ ∃ y, y ≠ x ∧ Mutual R x y := by
  constructor
  · intro h
    obtain ⟨y, hxy, hyx⟩ := TransGen.head'_iff.mp h
    exact ⟨y, fun hy => hirr x (hy ▸ hxy), .single hxy, hyx⟩
  · rintro ⟨y, hne, h⟩
    exact transGen_self_of_mutual h hne.symm

variable {reps l₁ l₂ : List α}

theorem NamesComponents.eq_nil_iff (h : NamesComponents R reps) (hirr : ∀ x, ¬ R x x) :
    reps = [] ↔ ∀ x, ¬ TransGen R x x := by
  constructor
  · rintro rfl x hx
    obtain ⟨y, hne, hm⟩ := (transGen_self_iff hirr).mp hx
    obtain ⟨r, hr, -⟩ := h.covers x y hne.symm hm
    simp at hr
  · intro hacyclic
    cases reps with
    | nil => rfl
    | cons r rs =>
      obtain ⟨y, hne, hm⟩ := h.large r (by simp)
      exact absurd (transGen_self_of_mutual hm hne.symm) (hacyclic r)

theorem NamesComponents.length_le (h₁ : NamesComponents R l₁) (h₂ : NamesComponents R l₂) :
    l₁.length ≤ l₂.length := by
  classical
  -- each name of `l₁` has one in `l₂` in its set, and no two names of `l₁` share a set
  have hpartner : ∀ r ∈ l₁, ∃ r' ∈ l₂, Mutual R r r' := fun r hr => by
    obtain ⟨y, hne, hm⟩ := h₁.large r hr
    exact h₂.covers r y hne.symm hm
  choose! f hf hfm using hpartner
  rw [← List.toFinset_card_of_nodup h₁.nodup, ← List.toFinset_card_of_nodup h₂.nodup]
  refine Finset.card_le_card_of_injOn f ?_ ?_
  · intro r hr
    simpa using hf r (by simpa using hr)
  · intro a ha b hb hab
    have ha' : a ∈ l₁ := by simpa using ha
    have hb' : b ∈ l₁ := by simpa using hb
    have hfb : Mutual R (f a) b := by
      rw [hab]
      exact (hfm b hb').symm
    exact h₁.apart a ha' b hb' ((hfm a ha').trans hfb)

theorem NamesComponents.length_eq (h₁ : NamesComponents R l₁) (h₂ : NamesComponents R l₂) :
    l₁.length = l₂.length :=
  le_antisymm (h₁.length_le h₂) (h₂.length_le h₁)

/-- What a search for strongly connected sets gives, as Tarjan's does: every key in one set
only, each set holding exactly the keys mutually reachable with any key of it. -/
structure SplitsStrongly (R : α → α → Prop) (keys : List α) (sets : List (List α)) : Prop where
  nodup : sets.flatten.Nodup
  mem_iff : ∀ x, x ∈ sets.flatten ↔ x ∈ keys
  mutual_iff : ∀ s ∈ sets, ∀ x ∈ s, ∀ y, y ∈ s ↔ Mutual R x y

section Splits

variable {keys : List α} {sets : List (List α)}

theorem SplitsStrongly.eq_of_mem (h : SplitsStrongly R keys sets) {s₁ s₂ : List α}
    (h₁ : s₁ ∈ sets) (h₂ : s₂ ∈ sets) (hx₁ : x ∈ s₁) (hx₂ : x ∈ s₂) : s₁ = s₂ := by
  -- the sets are pairwise disjoint, so two that share a key are one
  have hd := (List.nodup_flatten.mp h.nodup).2
  exact List.Pairwise.forall_of_forall_of_flip (R := fun a b => ∀ z ∈ a, z ∈ b → a = b)
    (fun _ _ _ _ _ => rfl) (hd.imp fun hab _ ha hb => (hab ha hb).elim)
    (hd.imp fun hab => by intro z hb ha; exact (hab ha hb).elim) h₁ h₂ x hx₁ hx₂

theorem one_lt_length_of_mem {s : List α} (hx : x ∈ s) (hy : y ∈ s) (hne : x ≠ y) :
    1 < s.length := by
  rcases s with _ | ⟨a, _ | ⟨b, rest⟩⟩
  · simp at hx
  · simp only [List.mem_singleton] at hx hy
    exact absurd (hx.trans hy.symm) hne
  · simp

theorem headD_mem_of_one_lt {s : List α} (d : α) (hs : 1 < s.length) : s.headD d ∈ s := by
  cases s with
  | nil => simp at hs
  | cons a rest => simp

/-- The first keys of the sets of two or more keys name each strongly connected set once. -/
theorem SplitsStrongly.namesComponents [Inhabited α] (h : SplitsStrongly R keys sets)
    (hkeys : ∀ x y, R x y → x ∈ keys) :
    NamesComponents R ((sets.filter fun s => 1 < s.length).map fun s => s.headD default) where
  nodup := by
    refine List.pairwise_map.mpr (((List.nodup_flatten.mp h.nodup).2.filter _).imp_of_mem ?_)
    intro a b ha hb hab heq
    have hb' := headD_mem_of_one_lt default (of_decide_eq_true (List.mem_filter.mp hb).2)
    rw [← heq] at hb'
    exact hab (headD_mem_of_one_lt _ (of_decide_eq_true (List.mem_filter.mp ha).2)) hb'
  large r hr := by
    obtain ⟨s, hs, rfl⟩ := List.mem_map.mp hr
    obtain ⟨hs, hlen⟩ := List.mem_filter.mp hs
    obtain ⟨a, b, rest, rfl⟩ : ∃ a b rest, s = a :: b :: rest := by
      rcases s with _ | ⟨a, _ | ⟨b, rest⟩⟩ <;> simp_all
    have hab : a ≠ b := by
      have hnd := (List.nodup_flatten.mp h.nodup).1 _ hs
      simp_all
    exact ⟨b, hab.symm, (h.mutual_iff _ hs a (by simp) b).mp (by simp)⟩
  covers x y hne hm := by
    -- the set of `x` holds `y` too, so it has two keys and its first key is a name
    have hxx := transGen_self_of_mutual hm hne
    obtain ⟨s, hs, hx⟩ := List.mem_flatten.mp
      ((h.mem_iff x).mpr (hkeys x _ (TransGen.head'_iff.mp hxx).choose_spec.1))
    have hlen := one_lt_length_of_mem hx ((h.mutual_iff s hs x hx y).mpr hm) hne
    exact ⟨_, List.mem_map_of_mem (List.mem_filter.mpr ⟨hs, decide_eq_true hlen⟩),
      (h.mutual_iff s hs x hx _).mp (headD_mem_of_one_lt _ hlen)⟩
  apart r₁ hr₁ r₂ hr₂ hm := by
    obtain ⟨s₁, hs₁, rfl⟩ := List.mem_map.mp hr₁
    obtain ⟨s₂, hs₂, rfl⟩ := List.mem_map.mp hr₂
    obtain ⟨hs₁, hlen₁⟩ := List.mem_filter.mp hs₁
    obtain ⟨hs₂, hlen₂⟩ := List.mem_filter.mp hs₂
    have hr₁ := headD_mem_of_one_lt default (of_decide_eq_true hlen₁)
    have hr₂ := headD_mem_of_one_lt default (of_decide_eq_true hlen₂)
    rw [h.eq_of_mem hs₁ hs₂ ((h.mutual_iff s₁ hs₁ _ hr₁ _).mpr hm) hr₂]

open Classical in
/-- Keys that hold the ends of every step split into strongly connected sets: each key with the
keys mutually reachable with it. -/
theorem exists_splitsStrongly (hnd : keys.Nodup) (hkeys : ∀ x y, R x y → x ∈ keys ∧ y ∈ keys) :
    ∃ sets, SplitsStrongly R keys sets := by
  -- each key's set is the keys mutually reachable with it; the sets of all keys, each once
  let setOf := fun x => keys.filter fun y => Mutual R x y
  have hmem : ∀ x ∈ keys, ∀ y, y ∈ setOf x ↔ Mutual R x y := fun x hx y => by
    simp only [setOf, List.mem_filter, decide_eq_true_eq, and_iff_right_iff_imp]
    intro hm
    by_cases hxy : x = y
    · exact hxy ▸ hx
    · obtain ⟨z, -, hzy⟩ := TransGen.tail'_iff.mp (transGen_of_reflTransGen hm.1 hxy)
      exact (hkeys z y hzy).2
  have hset : ∀ x ∈ keys, ∀ y ∈ setOf x, setOf y = setOf x := fun x _ y hy =>
    List.filter_congr fun z _ => by
      have hxy := (List.mem_filter.mp hy).2
      simp only [decide_eq_true_eq] at hxy
      simp only [decide_eq_decide]
      exact ⟨hxy.trans, hxy.symm.trans⟩
  have hsets : ∀ s ∈ (keys.map setOf).dedup, ∃ k ∈ keys, s = setOf k := fun s hs => by
    obtain ⟨k, hk, rfl⟩ := List.mem_map.mp (List.mem_dedup.mp hs)
    exact ⟨k, hk, rfl⟩
  refine ⟨(keys.map setOf).dedup, ⟨?_, fun x => ?_, fun s hs x hx y => ?_⟩⟩
  · refine List.nodup_flatten.mpr ⟨fun s hs => ?_, (List.nodup_dedup _).imp_of_mem ?_⟩
    · obtain ⟨k, -, rfl⟩ := hsets s hs
      exact hnd.filter _
    · intro a b ha hb hab z hza hzb
      obtain ⟨k₁, hk₁, rfl⟩ := hsets a ha
      obtain ⟨k₂, hk₂, rfl⟩ := hsets b hb
      exact hab ((hset k₁ hk₁ z hza).symm.trans (hset k₂ hk₂ z hzb))
  · simp only [List.mem_flatten, List.mem_dedup, List.mem_map]
    constructor
    · rintro ⟨_, ⟨k, -, rfl⟩, hx⟩
      exact (List.mem_filter.mp hx).1
    · intro hx
      exact ⟨_, ⟨x, hx, rfl⟩, (hmem x hx x).mpr ⟨.refl, .refl⟩⟩
  · obtain ⟨k, hk, rfl⟩ := hsets s hs
    rw [← hset k hk x hx]
    exact hmem x (List.mem_filter.mp hx).1 y

end Splits

end Components

/-! ### Counting the first key of each set -/

section Firsts

/-- The keys that reach themselves. -/
def cyclicKeys (keys : List String) (reachable : String → List String) : List String :=
  keys.filter fun k => (reachable k).contains k

/-- The first key that reaches itself and shares a strongly connected set with `k`. -/
def firstOnCycle (keys : List String) (reachable : String → List String) (k : String) :
    Option String :=
  (cyclicKeys keys reachable).find? fun j => (reachable k).contains j && (reachable j).contains k

theorem find?_congr {α : Type} {l : List α} {p q : α → Bool} (h : ∀ x ∈ l, p x = q x) :
    l.find? p = l.find? q := by
  induction l with
  | nil => rfl
  | cons a l ih => simp only [List.find?_cons, h a (by simp), ih fun x hx => h x (by simp [hx])]

variable {R : String → String → Prop} {keys : List String} {reachable : String → List String}
  (hreach : ∀ k ∈ keys, ∀ x, (reachable k).contains x ↔ TransGen R k x)
include hreach

theorem mem_cyclicKeys {k : String} :
    k ∈ cyclicKeys keys reachable ↔ k ∈ keys ∧ TransGen R k k := by
  simp only [cyclicKeys, List.mem_filter, and_congr_right_iff]
  exact fun hk => hreach k hk k

theorem pair_iff_mutual {k j : String} (hk : k ∈ keys) (hj : j ∈ cyclicKeys keys reachable) :
    ((reachable k).contains j && (reachable j).contains k) = true ↔ Mutual R k j := by
  obtain ⟨hj, hjj⟩ := (mem_cyclicKeys hreach).mp hj
  rw [Bool.and_eq_true, hreach k hk, hreach j hj]
  constructor
  · rintro ⟨hkj, hjk⟩
    exact ⟨hkj.to_reflTransGen, hjk.to_reflTransGen⟩
  · intro h
    by_cases hne : k = j
    · subst hne
      exact ⟨hjj, hjj⟩
    · exact ⟨transGen_of_reflTransGen h.1 hne, transGen_of_reflTransGen h.2 (Ne.symm hne)⟩

theorem firstOnCycle_congr {k₁ k₂ : String} (hk₁ : k₁ ∈ keys) (hk₂ : k₂ ∈ keys)
    (h : Mutual R k₁ k₂) : firstOnCycle keys reachable k₁ = firstOnCycle keys reachable k₂ := by
  refine find?_congr fun j hj => Bool.eq_iff_iff.mpr ?_
  rw [pair_iff_mutual hreach hk₁ hj, pair_iff_mutual hreach hk₂ hj]
  exact ⟨h.symm.trans, h.trans⟩

theorem firstOnCycle_spec {k : String} (hk : k ∈ cyclicKeys keys reachable) :
    ∃ j, firstOnCycle keys reachable k = some j ∧ j ∈ cyclicKeys keys reachable ∧ Mutual R k j := by
  have hk' := ((mem_cyclicKeys hreach).mp hk).1
  have hsome : (firstOnCycle keys reachable k).isSome :=
    List.find?_isSome.mpr ⟨k, hk, (pair_iff_mutual hreach hk' hk).mpr ⟨.refl, .refl⟩⟩
  obtain ⟨j, hj⟩ := Option.isSome_iff_exists.mp hsome
  have hjc : j ∈ cyclicKeys keys reachable := List.mem_of_find?_eq_some hj
  have hp : ((reachable k).contains j && (reachable j).contains k) = true :=
    List.find?_some (p := fun j => (reachable k).contains j && (reachable j).contains k) hj
  exact ⟨j, hj, hjc, (pair_iff_mutual hreach hk' hjc).mp hp⟩

/-- The keys that reach themselves and come first in their set name each strongly connected set
of two or more keys once. -/
theorem namesComponents_firsts (hnd : keys.Nodup) (hkeys : ∀ x y, R x y → x ∈ keys)
    (hirr : ∀ x, ¬ R x x) :
    NamesComponents R ((cyclicKeys keys reachable).filter fun k =>
      firstOnCycle keys reachable k = some k) where
  nodup := (hnd.filter _).filter _
  large r hr := by
    have hr := (mem_cyclicKeys hreach).mp (List.mem_filter.mp hr).1
    exact (transGen_self_iff hirr).mp hr.2
  covers x y hne hm := by
    -- `x` lies on a cycle, and the first key of its set is a name
    have hxx := transGen_self_of_mutual hm hne
    have hx : x ∈ keys := hkeys x _ (TransGen.head'_iff.mp hxx).choose_spec.1
    obtain ⟨j, hj, hjc, hxj⟩ := firstOnCycle_spec hreach ((mem_cyclicKeys hreach).mpr ⟨hx, hxx⟩)
    have hjk := ((mem_cyclicKeys hreach).mp hjc).1
    refine ⟨j, List.mem_filter.mpr ⟨hjc, ?_⟩, hxj⟩
    rw [← firstOnCycle_congr hreach hx hjk hxj, hj]
    simp
  apart r₁ hr₁ r₂ hr₂ hm := by
    obtain ⟨hc₁, hf₁⟩ := List.mem_filter.mp hr₁
    obtain ⟨hc₂, hf₂⟩ := List.mem_filter.mp hr₂
    have h := firstOnCycle_congr hreach ((mem_cyclicKeys hreach).mp hc₁).1
      ((mem_cyclicKeys hreach).mp hc₂).1 hm
    simp only [decide_eq_true_eq] at hf₁ hf₂
    rw [hf₁, hf₂] at h
    exact Option.some.inj h

end Firsts

/-! ### The cycles of a level -/

section Level

variable {g : DependencyGraph} {scope : Scope} {within : String → Bool}

/-- The relation the cycle count follows: a dependency of the level between two keys that
satisfy `within`. -/
def Inner (g : DependencyGraph) (scope : Scope) (within : String → Bool) (x y : String) : Prop :=
  within x ∧ within y ∧ (g.edge? scope x y).isSome

/-- The dependencies of the level between keys that satisfy `within`. -/
def innerEdges (g : DependencyGraph) (scope : Scope) (within : String → Bool) : List Dependency :=
  g.edges.toList.filter fun e => e.scope = scope && within e.source && within e.target

/-- Their pairs of keys. -/
def innerPairs (g : DependencyGraph) (scope : Scope) (within : String → Bool) :
    List (String × String) :=
  (g.innerEdges scope within).map fun e => (e.source, e.target)

/-- Their keys, each once. -/
def innerKeys (g : DependencyGraph) (scope : Scope) (within : String → Bool) : List String :=
  ((g.innerEdges scope within).flatMap fun e => [e.source, e.target]).eraseDups

/-- What the count finds reached from a key. -/
def innerReach (g : DependencyGraph) (scope : Scope) (within : String → Bool) (k : String) :
    List String :=
  ((((g.innerKeys scope within).map fun k => (k, reach (g.innerPairs scope within)
    (g.innerKeys scope within).length [k] [])).find? (·.1 = k)).map (·.2)).getD []

theorem cycles_eq (g : DependencyGraph) (scope : Scope) (within : String → Bool) :
    g.cycles scope within = ((cyclicKeys (g.innerKeys scope within) (g.innerReach scope within)).filter
      fun k => firstOnCycle (g.innerKeys scope within) (g.innerReach scope within) k = some k).length :=
  rfl

theorem mem_innerEdges {e : Dependency} :
    e ∈ g.innerEdges scope within ↔
      e ∈ g.edges.toList ∧ e.scope = scope ∧ within e.source ∧ within e.target := by
  simp [innerEdges, and_assoc]

theorem step_innerPairs_iff {x y : String} :
    Step (g.innerPairs scope within) x y ↔ Inner g scope within x y := by
  simp only [Step, innerPairs, List.mem_map, mem_innerEdges, Prod.mk.injEq, Inner,
    edge?_eq_find?, List.find?_isSome, Dependency.ends, decide_eq_true_eq]
  constructor
  · rintro ⟨e, ⟨he, hs, hx, hy⟩, rfl, rfl⟩
    exact ⟨hx, hy, e, he, hs, rfl, rfl⟩
  · rintro ⟨hx, hy, e, he, hs, rfl, rfl⟩
    exact ⟨e, ⟨he, hs, hx, hy⟩, rfl, rfl⟩

theorem mem_innerKeys_of_inner {x y : String} (h : Inner g scope within x y) :
    x ∈ g.innerKeys scope within ∧ y ∈ g.innerKeys scope within := by
  obtain ⟨e, he, rfl, rfl⟩ : ∃ e ∈ g.innerEdges scope within, e.source = x ∧ e.target = y := by
    simpa [Step, innerPairs] using step_innerPairs_iff.mpr h
  constructor <;> simp only [innerKeys, List.mem_eraseDups, List.mem_flatMap] <;>
    exact ⟨e, he, by simp⟩

theorem innerReach_eq {k : String} (hk : k ∈ g.innerKeys scope within) :
    g.innerReach scope within k =
      reach (g.innerPairs scope within) (g.innerKeys scope within).length [k] [] := by
  have hsome : ((g.innerKeys scope within).find? fun j => j = k).isSome :=
    List.find?_isSome.mpr ⟨k, hk, by simp⟩
  obtain ⟨j, hj⟩ := Option.isSome_iff_exists.mp hsome
  have hjk : j = k := by simpa using List.find?_some hj
  subst hjk
  simp only [innerReach, List.find?_map, Function.comp_def, hj, Option.map_some, Option.getD_some]

theorem contains_innerReach_iff {k : String} (hk : k ∈ g.innerKeys scope within) (x : String) :
    (g.innerReach scope within k).contains x ↔ TransGen (Inner g scope within) k x := by
  have hrel : Step (g.innerPairs scope within) = Inner g scope within := by
    funext x y
    exact propext step_innerPairs_iff
  have hkeys : ∀ p ∈ g.innerPairs scope within, p.2 ∈ g.innerKeys scope within := fun p hp =>
    (mem_innerKeys_of_inner (step_innerPairs_iff.mp (show Step _ p.1 p.2 from hp))).2
  rw [innerReach_eq hk, List.contains_iff_mem, search_start.mem_reach_iff hkeys (by simp), hrel]

theorem WellFormed.edge?_self (hg : g.WellFormed) (scope : Scope) (x : String) :
    g.edge? scope x x = none := by
  refine Option.eq_none_iff_forall_ne_some.mpr fun e he => ?_
  obtain ⟨hm, hk⟩ := hg.edge?_eq_some_iff.mp he
  simp only [Dependency.ends, Prod.mk.injEq] at hk
  exact hg.irrefl e hm (hk.2.1.trans hk.2.2.symm)

theorem inner_irrefl (hg : g.WellFormed) (scope : Scope) (within : String → Bool) (x : String) :
    ¬ Inner g scope within x x := by
  rintro ⟨-, -, h⟩
  simp [hg.edge?_self] at h

theorem cycles_spec (hg : g.WellFormed) (scope : Scope) (within : String → Bool) :
    (g.cycles scope within = 0 ↔ ∀ x, ¬ TransGen (Inner g scope within) x x) ∧
    (∃ reps, NamesComponents (Inner g scope within) reps) ∧
    ∀ reps, NamesComponents (Inner g scope within) reps → g.cycles scope within = reps.length := by
  have hnames := namesComponents_firsts (fun k hk x => contains_innerReach_iff hk x)
    (nodup_eraseDups _) (fun x y h => (mem_innerKeys_of_inner h).1) (inner_irrefl hg scope within)
  rw [cycles_eq]
  refine ⟨?_, ⟨_, hnames⟩, fun reps h => hnames.length_eq h⟩
  rw [List.length_eq_zero_iff]
  exact hnames.eq_nil_iff (inner_irrefl hg scope within)

/-- The cycle count is the number of sets of two or more keys in any split of the keys into
strongly connected sets, such as Tarjan's search gives over the keys of the level. -/
theorem cycles_eq_of_splitsStrongly (hg : g.WellFormed) {keys : List String}
    {sets : List (List String)} (hkeys : ∀ x y, Inner g scope within x y → x ∈ keys)
    (h : SplitsStrongly (Inner g scope within) keys sets) :
    g.cycles scope within = (sets.filter fun s => 1 < s.length).length := by
  rw [(cycles_spec hg scope within).2.2 _ (h.namesComponents hkeys), List.length_map]

/-- The keys of a level split into strongly connected sets, and the cycle count is the number of
those of two or more keys. -/
theorem exists_splitsStrongly_inner (hg : g.WellFormed) (scope : Scope) (within : String → Bool) :
    ∃ sets, SplitsStrongly (Inner g scope within) (g.innerKeys scope within) sets ∧
      g.cycles scope within = (sets.filter fun s => 1 < s.length).length := by
  have hends := fun x y (h : Inner g scope within x y) => mem_innerKeys_of_inner h
  obtain ⟨sets, h⟩ := exists_splitsStrongly (nodup_eraseDups _) hends
  exact ⟨sets, h, cycles_eq_of_splitsStrongly hg (fun x y h => (hends x y h).1) h⟩

example : (([⟨.file, "p/A", "p/B", .uses, 2⟩, ⟨.file, "p/B", "p/A", .uses, 1⟩,
    ⟨.file, "p/B", "q/C", .uses, 5⟩] : List Dependency).foldl record {}).cycles .file
      (fun k => k.startsWith "p/") = 1 := by
  cbv

end Level

end DependencyGraph

end ClassMetrics
