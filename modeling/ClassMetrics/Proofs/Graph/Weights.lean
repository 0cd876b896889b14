import ClassMetrics.Proofs.Graph.WellFormed
import Mathlib.Data.List.Nodup
import Mathlib.Data.Nat.ModEq

/-! Edge weights. The weight of the edge from one node to another counts the references
recorded between them modulo `2 ^ 32`, zero when there is no edge. Recording a reference adds one
to the weight of its own pair, unless the edge is refused, and leaves every other pair as it was;
whether a pair has an edge is tracked apart, since a weight can wrap around to zero. The weights
are counted over all the links of a pair, which is the weight of the one edge a well-formed graph
keeps for it. -/

namespace ClassMetrics.StructuralGraph

variable {g g' : StructuralGraph}

/-- The weight of the edge from `s` to `t`, zero when there is none. -/
def weight (g : StructuralGraph) (s t : Nat) : Nat := ((g.edge? s t).map (·.weight)).getD 0

/-- The usage of the edge from `s` to `t`, if there is one. -/
def usage? (g : StructuralGraph) (s t : Nat) : Option Usage := (g.edge? s t).map (·.usage)

/-- The weights of all the links from `s` to `t`, added up. -/
def totalWeight (g : StructuralGraph) (s t : Nat) : Nat :=
  ((g.links.toList.filter fun l => l.source == s && l.target == t).map (·.weight)).sum

/-- Whether a reference from `s` to `t` is recorded: one from a node to itself or to the class
that owns it is refused. -/
def Admits (g : StructuralGraph) (s t : Nat) : Prop := s ≠ t ∧ g.ownerClass s ≠ t

instance (s t : Nat) : Decidable (g.Admits s t) := inferInstanceAs (Decidable (_ ∧ _))

theorem weight_eq_totalWeight (h : (g.links.toList.map fun l => (l.source, l.target)).Nodup)
    (s t : Nat) : g.weight s t = g.totalWeight s t := by
  unfold weight totalWeight edge?
  rw [← Array.find?_toList]
  generalize g.links.toList = ls at h ⊢
  induction ls with
  | nil => rfl
  | cons l ls ih =>
    rw [List.map_cons, List.nodup_cons] at h
    by_cases hl : (l.source == s && l.target == t) = true
    · -- the first link of the pair is its only one
      have hrest : ls.filter (fun l => l.source == s && l.target == t) = [] := by
        rw [List.filter_eq_nil_iff]
        intro l' hl' hpair
        simp only [Bool.and_eq_true, beq_iff_eq] at hl hpair
        apply h.1
        rw [List.mem_map]
        exact ⟨l', hl', by rw [hpair.1, hpair.2, hl.1, hl.2]⟩
      rw [List.find?_cons_of_pos (p := fun l : Link => l.source == s && l.target == t) hl,
        List.filter_cons_of_pos (p := fun l : Link => l.source == s && l.target == t) hl, hrest]
      simp
    · rw [List.find?_cons_of_neg (p := fun l : Link => l.source == s && l.target == t) hl,
        List.filter_cons_of_neg (p := fun l : Link => l.source == s && l.target == t) hl]
      exact ih h.2

theorem totalWeight_of_links_eq (h : g'.links = g.links) (s t : Nat) :
    g'.totalWeight s t = g.totalWeight s t := by
  unfold totalWeight
  rw [h]

/-- Adding one to the 32-bit weight of the link at `j` adds one to the sum, modulo `2 ^ 32`. -/
theorem sum_filter_modify {p : Link → Bool} {F : Link → Link} (hp : ∀ l, p (F l) = p l)
    (hw : ∀ l, (F l).weight = (l.weight + 1) % 2 ^ 32) :
    ∀ (ls : List Link) (j : Nat) (hj : j < ls.length),
      (((ls.modify j F).filter p).map (·.weight)).sum % 2 ^ 32 =
        (((ls.filter p).map (·.weight)).sum + if p ls[j] then 1 else 0) % 2 ^ 32 := by
  intro ls
  induction ls with
  | nil => intro j hj; cases hj
  | cons l ls ih =>
    intro j hj
    cases j with
    | zero =>
      rw [List.modify_zero_cons]
      by_cases hl : p l = true
      · rw [List.filter_cons_of_pos (by rw [hp]; exact hl), List.filter_cons_of_pos hl]
        simp only [List.map_cons, List.sum_cons, hw, List.getElem_cons_zero, hl, if_true]
        rw [Nat.add_mod, Nat.mod_mod, ← Nat.add_mod]
        omega
      · rw [List.filter_cons_of_neg (by rw [hp]; exact hl), List.filter_cons_of_neg hl]
        simp [hl]
    | succ j =>
      rw [List.modify_succ_cons]
      have hj' : j < ls.length := by simpa using hj
      by_cases hl : p l = true
      · rw [List.filter_cons_of_pos hl, List.filter_cons_of_pos hl]
        simp only [List.map_cons, List.sum_cons, List.getElem_cons_succ]
        rw [Nat.add_mod, ih j hj', ← Nat.add_mod]
        omega
      · rw [List.filter_cons_of_neg hl, List.filter_cons_of_neg hl]
        simpa using ih j hj'

/-- Recording a reference adds one to the weight of its pair, modulo `2 ^ 32`, when the edge is
admitted, and nothing to any other pair. -/
theorem totalWeight_addEdge (s t : Nat) (u : Usage) (a b : Nat) :
    (g.addEdge s t u).1.totalWeight a b ≡
      g.totalWeight a b + (if a = s ∧ b = t ∧ g.Admits s t then 1 else 0) [MOD 2 ^ 32] := by
  unfold Nat.ModEq addEdge
  by_cases hr : s = t ∨ g.ownerClass s = t
  · rw [if_pos hr, if_neg fun h => hr.elim h.2.2.1 h.2.2.2]
    rfl
  · have hadm : g.Admits s t := ⟨fun h => hr (.inl h), fun h => hr (.inr h)⟩
    rw [if_neg hr]
    split
    · -- the pair's link gets one more reference
      rename_i j hj
      obtain ⟨hjlt, hjp, -⟩ := Array.findIdx?_eq_some_iff_getElem.mp hj
      unfold totalWeight
      dsimp only
      rw [Array.toList_modify, sum_filter_modify
        (F := fun l => { l with usage := l.usage.strongest u, weight := (l.weight + 1) % 2 ^ 32 })
        (fun _ => rfl) (fun _ => rfl) _ j (by simpa using hjlt)]
      simp only [Bool.and_eq_true, beq_iff_eq] at hjp
      simp only [Array.getElem_toList, Bool.and_eq_true, beq_iff_eq, hjp.1, hjp.2]
      by_cases hab : a = s ∧ b = t
      · rw [if_pos ⟨hab.1.symm, hab.2.symm⟩, if_pos ⟨hab.1, hab.2, hadm⟩]
      · rw [if_neg fun h => hab ⟨h.1.symm, h.2.symm⟩, if_neg fun h => hab ⟨h.1, h.2.1⟩]
    · -- a new link for the pair
      unfold totalWeight
      dsimp only
      rw [Array.toList_push, List.filter_append, List.map_append, List.sum_append]
      by_cases hab : a = s ∧ b = t
      · rw [if_pos ⟨hab.1, hab.2, hadm⟩, List.filter_cons_of_pos (by simp [hab.1, hab.2])]
        rfl
      · rw [if_neg fun h => hab ⟨h.1, h.2.1⟩, List.filter_cons_of_neg (by simp; omega)]
        rfl

/-- Whether some link goes from `s` to `t`: its weight may have wrapped around to zero. -/
def HasLink (g : StructuralGraph) (s t : Nat) : Prop :=
  ∃ l ∈ g.links.toList, l.source = s ∧ l.target = t

theorem isSome_edge?_iff (s t : Nat) : (g.edge? s t).isSome ↔ g.HasLink s t := by
  unfold edge? HasLink
  rw [← Array.find?_toList, List.find?_isSome]
  simp only [Bool.and_eq_true, beq_iff_eq]

theorem hasLink_of_links_eq (h : g'.links = g.links) (s t : Nat) : g'.HasLink s t ↔ g.HasLink s t := by
  unfold HasLink
  rw [h]

/-- Recording a reference links its pair when the edge is admitted, and no other pair. -/
theorem hasLink_addEdge (s t : Nat) (u : Usage) (a b : Nat) :
    (g.addEdge s t u).1.HasLink a b ↔ g.HasLink a b ∨ (a = s ∧ b = t ∧ g.Admits s t) := by
  unfold addEdge
  by_cases hr : s = t ∨ g.ownerClass s = t
  · rw [if_pos hr]
    exact ⟨.inl, fun h => h.elim id fun h' => absurd (hr.elim h'.2.2.1 h'.2.2.2) id⟩
  · have hadm : g.Admits s t := ⟨fun h => hr (.inl h), fun h => hr (.inr h)⟩
    rw [if_neg hr]
    split
    · -- the pair's link is there already, and keeps its ends
      rename_i j hj
      obtain ⟨hjlt, hjp, -⟩ := Array.findIdx?_eq_some_iff_getElem.mp hj
      simp only [Bool.and_eq_true, beq_iff_eq] at hjp
      have hends : ∀ l ∈ (g.links.modify j fun l =>
          { l with usage := l.usage.strongest u, weight := (l.weight + 1) % 2 ^ 32 }).toList,
          ∃ l' ∈ g.links.toList, l'.source = l.source ∧ l'.target = l.target := by
        intro l hl
        rw [Array.toList_modify] at hl
        obtain ⟨k, hk, rfl⟩ := List.getElem_of_mem hl
        rw [List.getElem_modify]
        split
        · exact ⟨_, List.getElem_mem (by simpa using hk), rfl, rfl⟩
        · exact ⟨_, List.getElem_mem (by simpa using hk), rfl, rfl⟩
      have hback : ∀ l ∈ g.links.toList, ∃ l' ∈ (g.links.modify j fun l =>
          { l with usage := l.usage.strongest u, weight := (l.weight + 1) % 2 ^ 32 }).toList,
          l'.source = l.source ∧ l'.target = l.target := by
        intro l hl
        obtain ⟨k, hk, rfl⟩ := List.getElem_of_mem hl
        refine ⟨_, List.getElem_mem (by simpa using hk), ?_⟩
        simp only [Array.toList_modify, List.getElem_modify]
        split <;> exact ⟨rfl, rfl⟩
      constructor
      · rintro ⟨l, hl, rfl, rfl⟩
        obtain ⟨l', hl', hs, ht⟩ := hends l hl
        exact .inl ⟨l', hl', hs, ht⟩
      · rintro (⟨l, hl, rfl, rfl⟩ | ⟨rfl, rfl, -⟩)
        · obtain ⟨l', hl', hs, ht⟩ := hback l hl
          exact ⟨l', hl', hs, ht⟩
        · obtain ⟨l', hl', hs, ht⟩ := hback _ (Array.getElem_mem_toList hjlt)
          exact ⟨l', hl', hs.trans hjp.1, ht.trans hjp.2⟩
    · -- a new link for the pair
      unfold HasLink
      dsimp only
      simp only [Array.toList_push, List.mem_append, List.mem_singleton]
      constructor
      · rintro ⟨l, hl | rfl, rfl, rfl⟩
        · exact .inl ⟨l, hl, rfl, rfl⟩
        · exact .inr ⟨rfl, rfl, hadm⟩
      · rintro (⟨l, hl, rfl, rfl⟩ | ⟨rfl, rfl, -⟩)
        · exact ⟨l, .inl hl, rfl, rfl⟩
        · exact ⟨_, .inr rfl, rfl, rfl⟩

/-- Every link from `s` records uses only. -/
def UsesFrom (g : StructuralGraph) (s : Nat) : Prop :=
  ∀ l ∈ g.links.toList, l.source = s → l.usage = .uses

theorem UsesFrom.of_links_eq {s : Nat} (h : g.UsesFrom s) (hl : g'.links = g.links) :
    g'.UsesFrom s := by
  unfold UsesFrom
  rw [hl]
  exact h

/-- A reference recorded as a use, or from another node, keeps the links from `s` uses. -/
theorem UsesFrom.addEdge {s a t : Nat} {u : Usage} (h : g.UsesFrom s) (hu : a = s → u = .uses) :
    (g.addEdge a t u).1.UsesFrom s := by
  unfold StructuralGraph.addEdge
  split
  · exact h
  · split
    · rename_i j hj
      obtain ⟨hjlt, hjp, -⟩ := Array.findIdx?_eq_some_iff_getElem.mp hj
      simp only [Bool.and_eq_true, beq_iff_eq] at hjp
      intro l hl hls
      dsimp only at hl
      rw [Array.toList_modify] at hl
      obtain ⟨k, hk, rfl⟩ := List.getElem_of_mem hl
      rw [List.getElem_modify] at hls ⊢
      by_cases hkj : j = k
      · -- the pair's link: its source is `a`
        subst hkj
        rw [if_pos rfl] at hls ⊢
        have hold := h _ (List.getElem_mem _) hls
        have ha : a = s := by
          have hx : g.links[j].source = s := by simpa [Array.getElem_toList] using hls
          rw [← hjp.1]
          exact hx
        show Usage.strongest _ u = .uses
        rw [hold, hu ha]
        rfl
      · rw [if_neg hkj] at hls ⊢
        exact h _ (List.getElem_mem _) hls
    · intro l hl hls
      dsimp only at hl
      rw [Array.toList_push, List.mem_append, List.mem_singleton] at hl
      rcases hl with hl | rfl
      · exact h l hl hls
      · exact hu hls

theorem mem_of_edge?_eq_some {s t : Nat} {l : Link} (he : g.edge? s t = some l) :
    l ∈ g.links.toList ∧ l.source = s ∧ l.target = t := by
  unfold edge? at he
  rw [← Array.find?_toList] at he
  have hp := List.find?_some he
  simp only [Bool.and_eq_true, beq_iff_eq] at hp
  exact ⟨List.mem_of_find?_eq_some he, hp⟩

theorem WellFormed.edge?_of_mem (hg : g.WellFormed) {l : Link} (hl : l ∈ g.links.toList) :
    g.edge? l.source l.target = some l := by
  unfold edge?
  rw [← Array.find?_toList]
  obtain ⟨l', hl'⟩ : ∃ l', g.links.toList.find?
      (fun x => x.source == l.source && x.target == l.target) = some l' :=
    Option.isSome_iff_exists.mp (List.find?_isSome.mpr ⟨l, hl, by simp⟩)
  rw [hl']
  have hp := List.find?_some hl'
  simp only [Bool.and_eq_true, beq_iff_eq] at hp
  exact congrArg some (List.inj_on_of_nodup_map hg.links_nodup (List.mem_of_find?_eq_some hl') hl
    (by rw [hp.1, hp.2]))

/-- The edge from `s` to `t` holds `n` references: its weight is `n` modulo `2 ^ 32`, and it is
there exactly when `n` is positive. -/
def Records (g : StructuralGraph) (s t n : Nat) : Prop :=
  g.weight s t = n % 2 ^ 32 ∧ ((g.edge? s t).isSome ↔ 0 < n)

theorem WellFormed.weight_lt (hg : g.WellFormed) (s t : Nat) : g.weight s t < 2 ^ 32 := by
  unfold weight
  cases he : g.edge? s t with
  | none => simp
  | some l => simpa using (hg.link_valid l (mem_of_edge?_eq_some he).1).2.2.2.2

/-- In a well-formed graph the edge of a pair holds what the links of the pair count. -/
theorem WellFormed.records (hg : g.WellFormed) {s t n : Nat}
    (hw : g.totalWeight s t ≡ n [MOD 2 ^ 32]) (hl : g.HasLink s t ↔ 0 < n) : g.Records s t n := by
  refine ⟨?_, (isSome_edge?_iff s t).trans hl⟩
  rw [← Nat.mod_eq_of_lt (hg.weight_lt s t), weight_eq_totalWeight hg.links_nodup]
  exact hw

end ClassMetrics.StructuralGraph
