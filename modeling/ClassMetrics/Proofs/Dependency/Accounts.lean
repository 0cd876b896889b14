import ClassMetrics.Proofs.Dependency.Cycles
import Mathlib.Data.String.Basic

/-!
The accounts of a dependency graph. A graph built by recording a list of dependencies keeps, at
each level and pair of different keys, one dependency exactly when some were recorded there: its
weight is theirs summed in 32 bits and its usage the strongest of theirs. The couplings of a key
count the distinct other keys recorded against it; the listing of a level holds each of its
dependencies once, by source key and then target key; and the cycle count of a level counts its
strongly connected sets of two or more keys.
-/

namespace ClassMetrics

namespace Usage

theorem strongest_mem (a b : Usage) : a.strongest b = a ∨ a.strongest b = b := by
  unfold strongest
  split
  · exact .inr rfl
  · exact .inl rfl

/-- Merging usages keeps one of them, and none stronger than it. -/
theorem foldl_strongest_spec (l : List Usage) (u : Usage) :
    l.foldl strongest u ∈ u :: l ∧ ∀ v ∈ u :: l, v.rank ≤ (l.foldl strongest u).rank := by
  induction l generalizing u with
  | nil => simp
  | cons v l ih =>
    obtain ⟨hmem, hle⟩ := ih (u.strongest v)
    rw [List.foldl_cons]
    refine ⟨?_, fun w hw => ?_⟩
    · rcases List.mem_cons.mp hmem with h | h
      · rw [h]
        rcases strongest_mem u v with h' | h' <;> rw [h'] <;> simp
      · exact List.mem_cons_of_mem _ (List.mem_cons_of_mem _ h)
    · have hs := hle _ List.mem_cons_self
      rw [rank_strongest] at hs
      rcases List.mem_cons.mp hw with rfl | hw
      · omega
      rcases List.mem_cons.mp hw with rfl | hw
      · omega
      · exact hle w (List.mem_cons_of_mem _ hw)

theorem foldl_strongest_uses_spec {l : List Usage} (hl : l ≠ []) :
    l.foldl strongest .uses ∈ l ∧ ∀ v ∈ l, v.rank ≤ (l.foldl strongest .uses).rank := by
  obtain ⟨hmem, hle⟩ := foldl_strongest_spec l .uses
  refine ⟨?_, fun v hv => hle v (List.mem_cons_of_mem _ hv)⟩
  rcases List.mem_cons.mp hmem with h | h
  · -- only a list of uses merges to a use, and the list has one
    obtain ⟨v, hv⟩ := List.exists_mem_of_ne_nil l hl
    have hvu : v = .uses := eq_uses_of_rank_le (h ▸ hle v (List.mem_cons_of_mem _ hv))
    rw [h, ← hvu]
    exact hv
  · exact h

end Usage

namespace DependencyGraph

open Relation Dependency

variable {g : DependencyGraph}

/-! ### The listing of a level -/

theorem mem_edgesAt {s : Scope} {e : Dependency} :
    e ∈ g.edgesAt s ↔ e ∈ g.edges.toList ∧ e.scope = s := by
  simp [edgesAt, List.mem_mergeSort]

theorem WellFormed.mem_edgesAt_iff (hg : g.WellFormed) {s : Scope} {e : Dependency} :
    e ∈ g.edgesAt s ↔ e.scope = s ∧ g.edge? s e.source e.target = some e := by
  rw [mem_edgesAt, hg.edge?_eq_some_iff]
  simp [ends, and_comm]

theorem before_trans {a b c : Dependency} (hab : before a b = true) (hbc : before b c = true) :
    before a c = true := by
  simp only [before, Bool.or_eq_true, decide_eq_true_eq, Bool.and_eq_true] at hab hbc ⊢
  rcases hab with hab | ⟨hab, hab'⟩ <;> rcases hbc with hbc | ⟨hbc, hbc'⟩
  · exact .inl (lt_trans hab hbc)
  · exact .inl (hbc ▸ hab)
  · exact .inl (hab ▸ hbc)
  · exact .inr ⟨hab.trans hbc, le_trans hab' hbc'⟩

theorem before_total (a b : Dependency) : (before a b || before b a) = true := by
  simp only [before, Bool.or_eq_true, decide_eq_true_eq, Bool.and_eq_true]
  rcases lt_trichotomy a.source b.source with h | h | h
  · exact .inl (.inl h)
  · rcases le_total a.target b.target with h' | h'
    · exact .inl (.inr ⟨h, h'⟩)
    · exact .inr (.inr ⟨h.symm, h'⟩)
  · exact .inr (.inl h)

theorem WellFormed.nodup_keys_edgesAt (hg : g.WellFormed) (s : Scope) :
    ((g.edgesAt s).map fun e => (e.source, e.target)).Nodup := by
  have hperm := List.mergeSort_perm (g.edges.toList.filter (·.scope = s)) before
  refine ((hperm.map _).nodup_iff).mpr ?_
  have hnd : g.edges.toList.Nodup := List.Nodup.of_map _ hg.ends_nodup
  refine (hnd.filter _).map_on fun e₁ h₁ e₂ h₂ h => ?_
  obtain ⟨h₁, hs₁⟩ := List.mem_filter.mp h₁
  obtain ⟨h₂, hs₂⟩ := List.mem_filter.mp h₂
  simp only [decide_eq_true_eq] at hs₁ hs₂
  simp only [Prod.mk.injEq] at h
  exact List.inj_on_of_nodup_map hg.ends_nodup h₁ h₂ (by simp [ends, hs₁, hs₂, h.1, h.2])

theorem WellFormed.edgesAt_sorted (hg : g.WellFormed) (s : Scope) :
    (g.edgesAt s).Pairwise fun e₁ e₂ =>
      e₁.source < e₂.source ∨ e₁.source = e₂.source ∧ e₁.target < e₂.target := by
  have hsorted : (g.edgesAt s).Pairwise fun a b => before a b = true := by
    rw [edgesAt]
    exact @List.pairwise_mergeSort _ before (fun _ _ _ => before_trans) before_total _
  refine (hsorted.and (List.pairwise_map.mp (hg.nodup_keys_edgesAt s))).imp ?_
  rintro e₁ e₂ ⟨hb, hne⟩
  simp only [before, Bool.or_eq_true, decide_eq_true_eq, Bool.and_eq_true] at hb
  rcases hb with hlt | ⟨heq, hle⟩
  · exact .inl hlt
  · exact .inr ⟨heq, lt_of_le_of_ne hle fun ht => hne (by rw [heq, ht])⟩

/-! ### After a list of dependencies -/

theorem isSome_edge?_foldl_record (calls : List Dependency) (s : Scope) (a b : String) :
    ((calls.foldl record {}).edge? s a b).isSome ↔ a ≠ b ∧ ∃ c ∈ calls, c.ends = (s, a, b) := by
  by_cases hab : a = b
  · subst hab
    simp [(foldl_record_wellFormed wellFormed_empty calls).edge?_self]
  · rw [edge?_foldl_record_empty calls hab]
    by_cases hl : calls.filter (·.ends = (s, a, b)) = []
    · simp only [summary, hl, if_true, Option.isSome_none, Bool.false_eq_true, false_iff]
      rintro ⟨-, c, hc, hk⟩
      exact List.filter_eq_nil_iff.mp hl c hc (by simpa using hk)
    · simp only [summary, hl, if_false, Option.isSome_some, true_iff]
      obtain ⟨c, hc⟩ := List.exists_mem_of_ne_nil _ hl
      obtain ⟨hc, hk⟩ := List.mem_filter.mp hc
      exact ⟨hab, c, hc, by simpa using hk⟩

theorem edge?_foldl_record_eq_some {calls : List Dependency} {s : Scope} {a b : String}
    {e : Dependency} (h : (calls.foldl record {}).edge? s a b = some e) :
    calls.filter (·.ends = (s, a, b)) ≠ [] ∧
      e.weight = ((calls.filter (·.ends = (s, a, b))).map (·.weight)).sum % 2 ^ 32 ∧
      e.usage = ((calls.filter (·.ends = (s, a, b))).map (·.usage)).foldl Usage.strongest .uses := by
  have hab : a ≠ b := fun hab => by
    subst hab
    simp [(foldl_record_wellFormed wellFormed_empty calls).edge?_self] at h
  rw [edge?_foldl_record_empty calls hab] at h
  by_cases hl : calls.filter (·.ends = (s, a, b)) = []
  · simp [summary, hl] at h
  · simp only [summary, hl, if_false, Option.some.injEq] at h
    subst h
    exact ⟨hl, rfl, rfl⟩

theorem length_eq_card_toFinset {xs ys : List String} (hnd : xs.Nodup)
    (h : ∀ x, x ∈ xs ↔ x ∈ ys) : xs.length = ys.toFinset.card := by
  rw [← List.toFinset_card_of_nodup hnd]
  congr 1
  ext x
  simp only [List.mem_toFinset, h]

theorem afferent_foldl_record (calls : List Dependency) (s : Scope) (k : String) :
    (calls.foldl record {}).afferent s k =
      ((calls.filter fun c => c.scope = s ∧ c.target = k ∧ c.source ≠ k).map (·.source)).toFinset.card := by
  obtain ⟨xs, hnd, hmem, hlen⟩ :=
    (foldl_record_wellFormed wellFormed_empty calls).afferent_eq_length s k
  rw [hlen]
  refine length_eq_card_toFinset hnd fun x => ?_
  simp only [hmem, isSome_edge?_foldl_record, List.mem_map, List.mem_filter, decide_eq_true_eq,
    ends, Prod.mk.injEq]
  constructor
  · rintro ⟨hne, c, hc, hs, rfl, rfl⟩
    exact ⟨c, ⟨hc, hs, rfl, hne⟩, rfl⟩
  · rintro ⟨c, ⟨hc, hs, rfl, hne⟩, rfl⟩
    exact ⟨hne, c, hc, hs, rfl, rfl⟩

theorem efferent_foldl_record (calls : List Dependency) (s : Scope) (k : String) :
    (calls.foldl record {}).efferent s k =
      ((calls.filter fun c => c.scope = s ∧ c.source = k ∧ c.target ≠ k).map (·.target)).toFinset.card := by
  obtain ⟨xs, hnd, hmem, hlen⟩ :=
    (foldl_record_wellFormed wellFormed_empty calls).efferent_eq_length s k
  rw [hlen]
  refine length_eq_card_toFinset hnd fun x => ?_
  simp only [hmem, isSome_edge?_foldl_record, List.mem_map, List.mem_filter, decide_eq_true_eq,
    ends, Prod.mk.injEq]
  constructor
  · rintro ⟨hne, c, hc, hs, rfl, rfl⟩
    exact ⟨c, ⟨hc, hs, rfl, Ne.symm hne⟩, rfl⟩
  · rintro ⟨c, ⟨hc, hs, rfl, hne⟩, rfl⟩
    exact ⟨Ne.symm hne, c, hc, hs, rfl, rfl⟩

theorem usage_edge?_foldl_record {calls : List Dependency} {s : Scope} {a b : String}
    {e : Dependency} (h : (calls.foldl record {}).edge? s a b = some e) :
    e.usage ∈ (calls.filter (·.ends = (s, a, b))).map (·.usage) ∧
      ∀ c ∈ calls, c.ends = (s, a, b) → c.usage.rank ≤ e.usage.rank := by
  obtain ⟨hl, -, hu⟩ := edge?_foldl_record_eq_some h
  have hne : (calls.filter (·.ends = (s, a, b))).map (·.usage) ≠ [] := by simpa using hl
  obtain ⟨hmem, hle⟩ := Usage.foldl_strongest_uses_spec hne
  rw [hu]
  refine ⟨hmem, fun c hc hk => hle _ (List.mem_map_of_mem ?_)⟩
  exact List.mem_filter.mpr ⟨hc, by simpa using hk⟩

/-! ### The accounts of a graph -/

/-- What a graph tells of the dependencies recorded into it. It keeps one dependency at each level
and pair of keys where one was recorded between two different keys, and no other; that dependency
holds the weights recorded there summed in 32 bits, and the strongest of their usages. A key is
counted as depended on by, and as depending on, the distinct other keys recorded so. A level is
listed once each, by source key and then target key. The cycle count of a level is zero exactly
when the level has no cycle, and is otherwise the number of its strongly connected sets of two or
more keys. -/
structure Accounts (calls : List Dependency) (g : DependencyGraph) : Prop where
  wellFormed : g.WellFormed
  isSome_edge?_iff : ∀ s a b, (g.edge? s a b).isSome ↔ a ≠ b ∧ ∃ c ∈ calls, c.ends = (s, a, b)
  weight_eq : ∀ s a b e, g.edge? s a b = some e →
    e.weight = ((calls.filter (·.ends = (s, a, b))).map (·.weight)).sum % 2 ^ 32
  usage_strongest : ∀ s a b e, g.edge? s a b = some e →
    e.usage ∈ (calls.filter (·.ends = (s, a, b))).map (·.usage) ∧
      ∀ c ∈ calls, c.ends = (s, a, b) → c.usage.rank ≤ e.usage.rank
  afferent_eq : ∀ s k, g.afferent s k =
    ((calls.filter fun c => c.scope = s ∧ c.target = k ∧ c.source ≠ k).map (·.source)).toFinset.card
  efferent_eq : ∀ s k, g.efferent s k =
    ((calls.filter fun c => c.scope = s ∧ c.source = k ∧ c.target ≠ k).map (·.target)).toFinset.card
  mem_edgesAt_iff : ∀ s e, e ∈ g.edgesAt s ↔ e.scope = s ∧ g.edge? s e.source e.target = some e
  edgesAt_sorted : ∀ s, (g.edgesAt s).Pairwise fun e₁ e₂ =>
    e₁.source < e₂.source ∨ e₁.source = e₂.source ∧ e₁.target < e₂.target
  cycles_eq_zero_iff : ∀ s within, g.cycles s within = 0 ↔ ∀ x, ¬ TransGen (Inner g s within) x x
  cycles_eq_length : ∀ s within, (∃ reps, NamesComponents (Inner g s within) reps) ∧
    ∀ reps, NamesComponents (Inner g s within) reps → g.cycles s within = reps.length

/-- Recording any list of dependencies into an empty graph keeps its accounts. -/
theorem accounts_foldl_record (calls : List Dependency) :
    Accounts calls (calls.foldl record {}) := by
  have hg := foldl_record_wellFormed wellFormed_empty calls
  exact ⟨hg, isSome_edge?_foldl_record calls,
    fun _ _ _ _ h => (edge?_foldl_record_eq_some h).2.1, fun _ _ _ _ => usage_edge?_foldl_record,
    afferent_foldl_record calls, efferent_foldl_record calls, fun _ _ => hg.mem_edgesAt_iff,
    hg.edgesAt_sorted, fun s within => (cycles_spec hg s within).1,
    fun s within => (cycles_spec hg s within).2⟩

end DependencyGraph

end ClassMetrics
