import ClassMetrics.Proofs.Graph.Inheritance
import ClassMetrics.Proofs.Graph.Lookup

/-!
Member resolution through the hierarchy. A lookup from a class asks `find` of the class and of
its superclass chain, up to the first class met twice, collecting the interfaces of each; then
it asks the interfaces breadth first, passing over those already asked and queueing the
interfaces of each. It answers only from the hierarchy of the class, the chain and every
interface reached from it through interface links, and from the nearest class of the chain that
has an answer. When every superclass and interface is a class node, it finds nothing only when
no class of the hierarchy has an answer: the nodes it has asked are then closed under both kinds
of link. The fuel of each walk is more than it can use.
-/

namespace ClassMetrics.StructuralGraph

variable {g : StructuralGraph}

/-- The classes a lookup from `c` may answer from: the superclass chain of `c`, and every
interface reached from a class of it through interface links. -/
inductive InHierarchy (g : StructuralGraph) (c : Nat) : Nat → Prop
  | chain {n k : Nat} : g.superAt c n = some k → InHierarchy g c k
  | iface {k p : Nat} : InHierarchy g c k → p ∈ g.interfacesOf k → InHierarchy g c p

/-- Every superclass and interface named by a class is a class node. -/
def LinksToClasses (g : StructuralGraph) : Prop :=
  ∀ k, ∀ x ∈ g.classNode? k, (∀ p ∈ x.superClass, (g.classNode? p).isSome) ∧
    ∀ p ∈ x.interfaces, (g.classNode? p).isSome

theorem linksToClasses_iff : g.LinksToClasses ↔ ∀ k < g.size, ∀ x ∈ g.classNode? k,
    (∀ p ∈ x.superClass, (g.classNode? p).isSome) ∧ ∀ p ∈ x.interfaces, (g.classNode? p).isSome :=
  ⟨fun h k _ => h k, fun h k x hx => h k (lt_size_of_resource? (classNode?_eq_some.mp hx)) x hx⟩

instance : Decidable g.LinksToClasses :=
  decidable_of_iff _ linksToClasses_iff.symm

/-- `k` declares `m` as a method of this name and descriptor: `m` is among the methods `k`
lists, and is a declared method so named. -/
def DeclaresMethod (g : StructuralGraph) (name descriptor : String) (k m : Nat) : Prop :=
  ∃ node x, g.classNode? k = some node ∧ m ∈ node.methods ∧ g.methodNode? m = some x ∧
    x.declared = true ∧ x.name = name ∧ x.descriptor = descriptor

/-- `k` declares `f` as a field of this name: `f` is among the fields `k` lists, and is a
declared field so named. -/
def DeclaresField (g : StructuralGraph) (name : String) (k f : Nat) : Prop :=
  ∃ node x, g.classNode? k = some node ∧ f ∈ node.fields ∧ g.fieldNode? f = some x ∧
    x.declared = true ∧ x.name = name

/-- What a lookup from `c` answers, `r`, where `Declares k m` says that class `k` declares a
member `m` sought and `first k` is the one `k` declares first: a member declared in the
hierarchy of `c`; nothing only when no class of the hierarchy declares one; and, when a class of
the superclass chain declares one, the first one the nearest such class declares. -/
structure ResolvesIn (g : StructuralGraph) (c : Nat) (Declares : Nat → Nat → Prop)
    (first : Nat → Option Nat) (r : Option Nat) : Prop where
  sound : ∀ m, r = some m → ∃ k, g.InHierarchy c k ∧ Declares k m
  eq_none_iff : r = none ↔ ∀ k, g.InHierarchy c k → ∀ m, ¬Declares k m
  nearest : ∀ n k, g.superAt c n = some k → (∃ m, Declares k m) →
    (∀ j < n, ∀ k', g.superAt c j = some k' → ∀ m, ¬Declares k' m) → r = first k

variable {find : Nat → Option Nat}

/-! ### One step of each walk -/

theorem interfacesOf_of_classNode? {k : Nat} {x : ClassNode} (h : g.classNode? k = some x) :
    g.interfacesOf k = x.interfaces := by
  simp [interfacesOf, h]

theorem searchInterfaces_nil (fuel : Nat) (seen : List Nat) :
    g.searchInterfaces find fuel [] seen = none := by
  cases fuel <;> rfl

theorem searchInterfaces_cons_of_mem {fuel k : Nat} {queue seen : List Nat} (hk : k ∈ seen) :
    g.searchInterfaces find (fuel + 1) (k :: queue) seen = g.searchInterfaces find fuel queue seen := by
  simp [searchInterfaces, hk]

theorem searchInterfaces_cons_of_found {fuel k r : Nat} {queue seen : List Nat} (hk : k ∉ seen)
    (hf : find k = some r) : g.searchInterfaces find (fuel + 1) (k :: queue) seen = some r := by
  simp [searchInterfaces, hk, hf]

theorem searchInterfaces_cons_visit {fuel k : Nat} {queue seen : List Nat} (hk : k ∉ seen)
    (hf : find k = none) : g.searchInterfaces find (fuel + 1) (k :: queue) seen =
      g.searchInterfaces find fuel (queue ++ g.interfacesOf k) (k :: seen) := by
  simp [searchInterfaces, hk, hf]

theorem searchChain_handover {fuel : Nat} {start : Option Nat} {queue seen : List Nat}
    (h : fuel = 0 ∨ start = none ∨ ∃ s ∈ seen, start = some s) :
    g.searchChain find fuel start queue seen =
      g.searchInterfaces find (queue.length + g.interfaceCount + 1) queue seen := by
  rcases h with rfl | rfl | ⟨s, hs, rfl⟩
  · rfl
  · cases fuel <;> rfl
  · cases fuel with
    | zero => rfl
    | succ fuel => simp [searchChain, hs]

theorem searchChain_of_found {fuel s r : Nat} {queue seen : List Nat} (hs : s ∉ seen)
    (hf : find s = some r) : g.searchChain find (fuel + 1) (some s) queue seen = some r := by
  simp [searchChain, hs, hf]

theorem searchChain_of_not_class {fuel s : Nat} {queue seen : List Nat} (hs : s ∉ seen)
    (hf : find s = none) (hx : g.classNode? s = none) :
    g.searchChain find (fuel + 1) (some s) queue seen = none := by
  simp [searchChain, hs, hf, hx]

theorem searchChain_visit {fuel s : Nat} {x : ClassNode} {queue seen : List Nat} (hs : s ∉ seen)
    (hf : find s = none) (hx : g.classNode? s = some x) :
    g.searchChain find (fuel + 1) (some s) queue seen =
      g.searchChain find fuel x.superClass (queue ++ x.interfaces) (s :: seen) := by
  simp [searchChain, hs, hf, hx]

/-! ### Soundness: answers come from the hierarchy -/

theorem searchInterfaces_sound {P : Nat → Prop} (hP : ∀ k, P k → ∀ p ∈ g.interfacesOf k, P p) :
    ∀ fuel queue seen {r : Nat}, (∀ x ∈ queue, P x) →
      g.searchInterfaces find fuel queue seen = some r → ∃ k, P k ∧ find k = some r := by
  intro fuel
  induction fuel with
  | zero => intro _ _ _ _ h; cases h
  | succ fuel ih =>
    intro queue seen r hq h
    cases queue with
    | nil => rw [searchInterfaces_nil] at h; cases h
    | cons k queue =>
      have hrest : ∀ x ∈ queue, P x := fun x hx => hq x (List.mem_cons_of_mem k hx)
      by_cases hk : k ∈ seen
      · rw [searchInterfaces_cons_of_mem hk] at h
        exact ih queue seen hrest h
      · cases hf : find k with
        | some r' =>
          rw [searchInterfaces_cons_of_found hk hf] at h
          exact ⟨k, hq k List.mem_cons_self, hf.trans h⟩
        | none =>
          rw [searchInterfaces_cons_visit hk hf] at h
          refine ih _ _ (fun x hx => ?_) h
          rcases List.mem_append.mp hx with hx | hx
          · exact hrest x hx
          · exact hP k (hq k List.mem_cons_self) x hx

/-- The superclass walk from the `d`-th class of the chain of `c` answers from the hierarchy of
`c`, and so does the interface walk it hands over to; the induction is on its fuel. -/
theorem searchChain_sound {c : Nat} : ∀ fuel d queue seen {r : Nat},
    (∀ x ∈ queue, g.InHierarchy c x) →
    g.searchChain find fuel (g.superAt c d) queue seen = some r →
      ∃ k, g.InHierarchy c k ∧ find k = some r := by
  have hclosed : ∀ k, g.InHierarchy c k → ∀ p ∈ g.interfacesOf k, g.InHierarchy c p :=
    fun _ hk _ hp => .iface hk hp
  intro fuel
  induction fuel with
  | zero =>
    intro d queue seen r hq h
    rw [searchChain_handover (.inl rfl)] at h
    exact searchInterfaces_sound hclosed _ _ _ hq h
  | succ fuel ih =>
    intro d queue seen r hq h
    cases hs : g.superAt c d with
    | none =>
      rw [hs, searchChain_handover (.inr (.inl rfl))] at h
      exact searchInterfaces_sound hclosed _ _ _ hq h
    | some s =>
      rw [hs] at h
      by_cases hseen : s ∈ seen
      · rw [searchChain_handover (.inr (.inr ⟨s, hseen, rfl⟩))] at h
        exact searchInterfaces_sound hclosed _ _ _ hq h
      cases hf : find s with
      | some r' => exact ⟨s, .chain hs, hf.trans ((searchChain_of_found hseen hf).symm.trans h)⟩
      | none =>
        cases hx : g.classNode? s with
        | none => rw [searchChain_of_not_class hseen hf hx] at h; cases h
        | some x =>
          -- one class up: its superclass is the next class of the chain
          have hnext : g.superAt c (d + 1) = x.superClass := by
            rw [superAt_succ, hs, Option.bind_some, superOf?, hx, Option.bind_some]
          rw [searchChain_visit hseen hf hx, ← hnext] at h
          refine ih (d + 1) _ _ (fun y hy => ?_) h
          rcases List.mem_append.mp hy with hy | hy
          · exact hq y hy
          · exact .iface (.chain hs) (by rwa [interfacesOf_of_classNode? hx])

theorem lookupHierarchy_sound {c r : Nat} (h : g.lookupHierarchy c find = some r) :
    ∃ k, g.InHierarchy c k ∧ find k = some r :=
  searchChain_sound _ 0 [] [] (fun _ hx => nomatch hx) h

/-! ### Priority: the nearest class of the chain that has an answer gives it -/

/-- Walking up from `s`, with the first `n` classes of its chain distinct, unseen and without an
answer and the next one with an answer, the walk gives that answer; the induction is on `n`. -/
theorem searchChain_nearest : ∀ n fuel s queue seen {k : Nat}, n < fuel →
    g.superAt s n = some k → (find k).isSome →
    (∀ j < n, ∀ k', g.superAt s j = some k' → find k' = none) →
    (∀ j ≤ n, ∀ k', g.superAt s j = some k' → k' ∉ seen) →
    (∀ j ≤ n, ∀ i < j, g.superAt s i ≠ g.superAt s j) →
    g.searchChain find fuel (some s) queue seen = find k := by
  intro n
  induction n with
  | zero =>
    intro fuel s queue seen k hfuel hk hfk _ hunseen _
    obtain ⟨fuel, rfl⟩ : ∃ f, fuel = f + 1 := ⟨fuel - 1, by omega⟩
    cases hk
    obtain ⟨r, hr⟩ := Option.isSome_iff_exists.mp hfk
    rw [searchChain_of_found (hunseen 0 (Nat.le_refl 0) s rfl) hr, hr]
  | succ n ih =>
    intro fuel s queue seen k hfuel hk hfk hfirst hunseen hdist
    obtain ⟨fuel, rfl⟩ : ∃ f, fuel = f + 1 := ⟨fuel - 1, by omega⟩
    obtain ⟨p, hsp, hpk⟩ := superAt_succ_eq_some hk
    obtain ⟨x, hx, hxp⟩ := exists_classNode_of_superOf? hsp
    have hshift := superAt_succ_of_superOf? hsp
    rw [searchChain_visit (hunseen 0 (Nat.zero_le _) s rfl) (hfirst 0 (by omega) s rfl) hx, hxp]
    refine ih fuel p _ _ (by omega) hpk hfk (fun j hj k' hk' => ?_) (fun j hj k' hk' => ?_)
      (fun j hj i hi => ?_)
    · exact hfirst (j + 1) (by omega) k' (hshift j ▸ hk')
    · -- the class left behind is not met again before the answer
      rw [List.mem_cons, not_or]
      refine ⟨fun hks => ?_, hunseen (j + 1) (by omega) k' (hshift j ▸ hk')⟩
      subst hks
      exact hdist (j + 1) (by omega) 0 (by omega) (by rw [hshift j, hk', superAt_zero])
    · rw [← hshift, ← hshift]
      exact hdist (j + 1) (by omega) (i + 1) (by omega)

theorem superAt_distinct_of_first {c n k : Nat} (hk : g.superAt c n = some k)
    (hfk : (find k).isSome) (hfirst : ∀ j < n, ∀ k', g.superAt c j = some k' → find k' = none) :
    ∀ j ≤ n, ∀ i < j, g.superAt c i ≠ g.superAt c j := by
  intro j hj i hi hsame
  -- the chain runs round from `j`, so the answer comes round earlier too
  have hround := superAt_add_of_repeat hsame (n - j)
  rw [show j + (n - j) = n by omega, hk] at hround
  have := hfirst (i + (n - j)) (by omega) k hround.symm
  rw [this] at hfk
  cases hfk

theorem lookupHierarchy_nearest {c n k : Nat} (hk : g.superAt c n = some k) (hfk : (find k).isSome)
    (hfirst : ∀ j < n, ∀ k', g.superAt c j = some k' → find k' = none) :
    g.lookupHierarchy c find = find k := by
  have hdist := superAt_distinct_of_first hk hfk hfirst
  -- the classes below the answer have superclasses, so they are distinct nodes of the graph
  have hlen : n ≤ (List.range g.size).length := by
    refine le_length_of_distinct (fun i hi => ?_) fun j hj i hi => hdist j (by omega) i hi
    obtain ⟨y, x, hy, hx⟩ := exists_classNode_of_lt hk hi
    exact ⟨y, List.mem_range.mpr (lt_size_of_resource? (classNode?_eq_some.mp hx)), hy⟩
  exact searchChain_nearest n _ c [] [] (by rw [List.length_range] at hlen; omega) hk hfk hfirst
    (fun _ _ _ _ hm => nomatch hm) hdist

/-! ### Completeness: finding nothing, the walk has asked the whole hierarchy -/

/-- What the interface walk keeps: every node it has seen has no answer, and the interfaces of
each are seen or queued. -/
def SeenClosed (g : StructuralGraph) (find : Nat → Option Nat) (queue seen : List Nat) : Prop :=
  ∀ k ∈ seen, find k = none ∧ ∀ p ∈ g.interfacesOf k, p ∈ seen ∨ p ∈ queue

namespace SeenClosed

variable {queue seen : List Nat}

theorem cons (h : g.SeenClosed find queue seen) (k : Nat) : g.SeenClosed find (k :: queue) seen :=
  fun x hx => ⟨(h x hx).1, fun p hp => ((h x hx).2 p hp).imp_right (List.mem_cons_of_mem k)⟩

theorem pop {k : Nat} (h : g.SeenClosed find (k :: queue) seen) (hk : k ∈ seen) :
    g.SeenClosed find queue seen := by
  intro x hx
  refine ⟨(h x hx).1, fun p hp => ?_⟩
  rcases (h x hx).2 p hp with hp | hp
  · exact .inl hp
  · rcases List.mem_cons.mp hp with rfl | hp
    · exact .inl hk
    · exact .inr hp

theorem visit {k : Nat} (h : g.SeenClosed find (k :: queue) seen) (hf : find k = none) :
    g.SeenClosed find (queue ++ g.interfacesOf k) (k :: seen) := by
  intro x hx
  rcases List.mem_cons.mp hx with rfl | hx
  · exact ⟨hf, fun p hp => .inr (List.mem_append_right _ hp)⟩
  · refine ⟨(h x hx).1, fun p hp => ?_⟩
    rcases (h x hx).2 p hp with hp | hp
    · exact .inl (List.mem_cons_of_mem _ hp)
    · rcases List.mem_cons.mp hp with rfl | hp
      · exact .inl List.mem_cons_self
      · exact .inr (List.mem_append_left _ hp)

end SeenClosed

/-- The interface walk that finds nothing ends having seen, besides what it had seen, everything
it queued, closed under interface links; the induction is on its fuel. -/
theorem searchInterfaces_eq_none : ∀ fuel queue seen, g.interfaceWork queue seen < fuel →
    g.SeenClosed find queue seen → g.searchInterfaces find fuel queue seen = none →
    ∃ seen', (∀ x ∈ seen, x ∈ seen') ∧ (∀ x ∈ queue, x ∈ seen') ∧ g.SeenClosed find [] seen' := by
  intro fuel
  induction fuel with
  | zero => intro _ _ hw; omega
  | succ fuel ih =>
    intro queue seen hw hinv hnone
    cases queue with
    | nil =>
      refine ⟨seen, fun _ hx => hx, fun _ hx => absurd hx List.not_mem_nil, fun x hx => ?_⟩
      exact ⟨(hinv x hx).1, fun p hp => .inl (((hinv x hx).2 p hp).resolve_right List.not_mem_nil)⟩
    | cons k queue =>
      have hwork : g.interfaceWork (k :: queue) seen = g.interfaceWork queue seen + 1 := by
        simp [interfaceWork]
        omega
      by_cases hk : k ∈ seen
      · rw [searchInterfaces_cons_of_mem hk] at hnone
        obtain ⟨seen', hs, hq, hc⟩ := ih queue seen (by omega) (hinv.pop hk) hnone
        refine ⟨seen', hs, fun x hx => ?_, hc⟩
        rcases List.mem_cons.mp hx with rfl | hx
        · exact hs x hk
        · exact hq x hx
      · cases hf : find k with
        | some r => rw [searchInterfaces_cons_of_found hk hf] at hnone; cases hnone
        | none =>
          rw [searchInterfaces_cons_visit hk hf] at hnone
          have hv : g.interfaceWork (queue ++ g.interfacesOf k) (k :: seen) + 1 =
              g.interfaceWork (k :: queue) seen := interfaceWork_visit hk
          obtain ⟨seen', hs, hq, hc⟩ := ih _ _ (by omega) (hinv.visit hf) hnone
          refine ⟨seen', fun x hx => hs x (List.mem_cons_of_mem k hx), fun x hx => ?_, hc⟩
          rcases List.mem_cons.mp hx with rfl | hx
          · exact hs x List.mem_cons_self
          · exact hq x (List.mem_append_left _ hx)

/-- The superclass walk from the `d`-th class of the chain of `c`, having seen the classes
before it, that finds nothing has asked every class of the chain, and with the interface walk
after it a set of nodes closed under interface links; the induction is on its fuel. Every class
of the chain being a class node, the walk never stops early. -/
theorem searchChain_eq_none (hg : g.LinksToClasses) {c : Nat} : ∀ fuel d queue seen,
    g.chainWork seen < fuel → (∀ k, k ∈ seen ↔ ∃ i < d, g.superAt c i = some k) →
    g.SeenClosed find queue seen → (∀ s ∈ g.superAt c d, (g.classNode? s).isSome) →
    g.searchChain find fuel (g.superAt c d) queue seen = none →
    ∃ seen', (∀ n k, g.superAt c n = some k → k ∈ seen') ∧ g.SeenClosed find [] seen' := by
  -- once every class of the chain is seen, the interface walk keeps it seen
  have hhand : ∀ queue seen, (∀ n k, g.superAt c n = some k → k ∈ seen) →
      g.SeenClosed find queue seen →
      g.searchInterfaces find (queue.length + g.interfaceCount + 1) queue seen = none →
      ∃ seen', (∀ n k, g.superAt c n = some k → k ∈ seen') ∧ g.SeenClosed find [] seen' := by
    intro queue seen hchain hinv hnone
    obtain ⟨seen', hs, -, hc⟩ := searchInterfaces_eq_none _ queue seen (interfaceWork_lt _ _) hinv hnone
    exact ⟨seen', fun n k hk => hs k (hchain n k hk), hc⟩
  intro fuel
  induction fuel with
  | zero => intro _ _ _ hw; omega
  | succ fuel ih =>
    intro d queue seen hw hseen hinv hcls hnone
    cases hs : g.superAt c d with
    | none =>
      rw [hs, searchChain_handover (.inr (.inl rfl))] at hnone
      refine hhand queue seen (fun n k hk => ?_) hinv hnone
      -- the chain ended before `d`
      by_cases hn : n < d
      · exact (hseen k).mpr ⟨n, hn, hk⟩
      · rw [superAt_eq_none_of_le hs (by omega)] at hk
        cases hk
    | some s =>
      rw [hs] at hnone hcls
      by_cases hmem : s ∈ seen
      · rw [searchChain_handover (.inr (.inr ⟨s, hmem, rfl⟩))] at hnone
        obtain ⟨i, hi, hsi⟩ := (hseen s).mp hmem
        refine hhand queue seen (fun n k hk => ?_) hinv hnone
        -- the chain came round to a class met before `d`, so all its classes were met
        obtain ⟨m, hm, hnm⟩ := exists_superAt_eq_of_repeat hi (hsi.trans hs.symm) n
        exact (hseen k).mpr ⟨m, hm, hnm ▸ hk⟩
      · cases hf : find s with
        | some r => rw [searchChain_of_found hmem hf] at hnone; cases hnone
        | none =>
          obtain ⟨x, hx⟩ := Option.isSome_iff_exists.mp (hcls s rfl)
          have hnext : g.superAt c (d + 1) = x.superClass := by
            rw [superAt_succ, hs, Option.bind_some, superOf?, hx, Option.bind_some]
          rw [searchChain_visit hmem hf hx, ← hnext] at hnone
          have hv := chainWork_visit hmem (lt_size_of_resource? (classNode?_eq_some.mp hx))
          refine ih (d + 1) _ _ (by omega) (fun k => ?_) ?_ (fun p hp => ?_) hnone
          · rw [List.mem_cons, hseen k]
            constructor
            · rintro (rfl | ⟨i, hi, hk⟩)
              · exact ⟨d, by omega, hs⟩
              · exact ⟨i, by omega, hk⟩
            · rintro ⟨i, hi, hk⟩
              rcases Nat.lt_or_eq_of_le (Nat.le_of_lt_succ hi) with hi | rfl
              · exact .inr ⟨i, hi, hk⟩
              · exact .inl (Option.some.inj (hk.symm.trans hs))
          · rw [← interfacesOf_of_classNode? hx]
            exact (hinv.cons s).visit hf
          · rw [hnext] at hp
            exact (hg s x hx).1 p hp

theorem lookupHierarchy_eq_none (hg : g.LinksToClasses) {c : Nat} (hc : (g.classNode? c).isSome)
    (h : g.lookupHierarchy c find = none) : ∀ k, g.InHierarchy c k → find k = none := by
  obtain ⟨seen', hchain, hclosed⟩ := searchChain_eq_none hg (g.size + 1) 0 [] []
    (Nat.lt_succ_of_le chainWork_nil_le) (fun k => by simp) (fun _ hk => nomatch hk)
    (fun s hs => by obtain rfl := Option.some.inj hs; exact hc) h
  -- the nodes asked hold the chain and are closed under interface links
  have hmem : ∀ k, g.InHierarchy c k → k ∈ seen' := by
    intro k hk
    induction hk with
    | chain hk => exact hchain _ _ hk
    | iface _ hp ih => exact ((hclosed _ ih).2 _ hp).resolve_right List.not_mem_nil
  exact fun k hk => (hclosed k (hmem k hk)).1

/-- A lookup answers as `ResolvesIn` says, whatever `find` a class declares its members by. -/
theorem lookupHierarchy_resolvesIn (hg : g.LinksToClasses) {c : Nat} (hc : (g.classNode? c).isSome)
    {Declares : Nat → Nat → Prop} (hsome : ∀ k m, find k = some m → Declares k m)
    (hnone : ∀ k, find k = none ↔ ∀ m, ¬Declares k m) :
    g.ResolvesIn c Declares find (g.lookupHierarchy c find) where
  sound m h := by
    obtain ⟨k, hk, hfk⟩ := lookupHierarchy_sound h
    exact ⟨k, hk, hsome k m hfk⟩
  eq_none_iff := by
    constructor
    · intro h k hk
      exact (hnone k).mp (lookupHierarchy_eq_none hg hc h k hk)
    · intro h
      cases hr : g.lookupHierarchy c find with
      | none => rfl
      | some m =>
        obtain ⟨k, hk, hfk⟩ := lookupHierarchy_sound hr
        exact absurd (hsome k m hfk) (h k hk m)
  nearest n k hk hdecl hfirst := by
    refine lookupHierarchy_nearest hk ?_ fun j hj k' hk' => (hnone k').mpr (hfirst j hj k' hk')
    cases hfk : find k with
    | some _ => rfl
    | none =>
      obtain ⟨m, hm⟩ := hdecl
      exact absurd hm ((hnone k).mp hfk m)

/-! ### Methods and fields -/

theorem declaredMethod_eq_some {k m : Nat} {name descriptor : String}
    (h : g.declaredMethod k name descriptor = some m) : g.DeclaresMethod name descriptor k m := by
  unfold declaredMethod at h
  obtain ⟨node, hnode, hfind⟩ := Option.bind_eq_some_iff.mp h
  have hpred := List.find?_some hfind
  cases hx : g.methodNode? m with
  | none => rw [hx] at hpred; cases hpred
  | some x =>
    rw [hx] at hpred
    simp only [Option.any_some, Bool.and_eq_true, beq_iff_eq] at hpred
    exact ⟨node, x, hnode, List.mem_of_find?_eq_some hfind, hx, hpred.1.1, hpred.1.2, hpred.2⟩

theorem declaredMethod_eq_none_iff {k : Nat} {name descriptor : String} :
    g.declaredMethod k name descriptor = none ↔ ∀ m, ¬g.DeclaresMethod name descriptor k m := by
  constructor
  · rintro h m ⟨node, x, hnode, hm, hx, hd, hn, hdesc⟩
    unfold declaredMethod at h
    rw [hnode, Option.bind_some, List.find?_eq_none] at h
    exact h m hm (by simp [hx, hd, hn, hdesc])
  · intro h
    cases hm : g.declaredMethod k name descriptor with
    | none => rfl
    | some m => exact absurd (declaredMethod_eq_some hm) (h m)

theorem declaredField_eq_some {k f : Nat} {name : String} (h : g.declaredField k name = some f) :
    g.DeclaresField name k f := by
  unfold declaredField at h
  obtain ⟨node, hnode, hfind⟩ := Option.bind_eq_some_iff.mp h
  have hpred := List.find?_some hfind
  cases hx : g.fieldNode? f with
  | none => rw [hx] at hpred; cases hpred
  | some x =>
    rw [hx] at hpred
    simp only [Option.any_some, Bool.and_eq_true, beq_iff_eq] at hpred
    exact ⟨node, x, hnode, List.mem_of_find?_eq_some hfind, hx, hpred.1, hpred.2⟩

theorem declaredField_eq_none_iff {k : Nat} {name : String} :
    g.declaredField k name = none ↔ ∀ f, ¬g.DeclaresField name k f := by
  constructor
  · rintro h f ⟨node, x, hnode, hf, hx, hd, hn⟩
    unfold declaredField at h
    rw [hnode, Option.bind_some, List.find?_eq_none] at h
    exact h f hf (by simp [hx, hd, hn])
  · intro h
    cases hf : g.declaredField k name with
    | none => rfl
    | some f => exact absurd (declaredField_eq_some hf) (h f)

/-- Member resolution, for every graph whose superclasses and interfaces are class nodes and
every class node `c`, cycles and diamonds allowed: a method or field found is one declared in
the hierarchy of `c`; nothing is found only when no class of that hierarchy declares one; and
when a class of the superclass chain declares one, the nearest such class gives it. -/
theorem findMethod_findField_resolvesIn (hg : g.LinksToClasses) {c : Nat}
    (hc : (g.classNode? c).isSome) :
    (∀ name descriptor, g.ResolvesIn c (g.DeclaresMethod name descriptor)
      (g.declaredMethod · name descriptor) (g.findMethod c name descriptor)) ∧
    ∀ name, g.ResolvesIn c (g.DeclaresField name) (g.declaredField · name) (g.findField c name) :=
  ⟨fun _ _ => lookupHierarchy_resolvesIn hg hc (fun _ _ => declaredMethod_eq_some)
      fun _ => declaredMethod_eq_none_iff,
    fun _ => lookupHierarchy_resolvesIn hg hc (fun _ _ => declaredField_eq_some)
      fun _ => declaredField_eq_none_iff⟩

/-- `C` and `B` extend each other; `C` implements `J`, which extends `I`, which declares
`m()V`: the lookup of `m()V` from `C` climbs the cycle, then finds it through the interfaces. -/
theorem findMethod_findField_resolvesIn_cycleAndInterfaces :
    let g : StructuralGraph := { nodes := #[
      .cls ⟨"C", 0x21, some .structureOnly, some 1, [3], [], []⟩,
      .cls ⟨"B", 0x21, some .structureOnly, some 0, [], [], []⟩,
      .method ⟨"I#m()V", 4, "m", "()V", 0x401, true, false, none, []⟩,
      .cls ⟨"J", 0x601, some .structureOnly, none, [4], [], []⟩,
      .cls ⟨"I", 0x601, some .structureOnly, none, [], [2], []⟩] }
    g.LinksToClasses ∧ (g.classNode? 0).isSome ∧ g.findMethod 0 "m" "()V" = some 2 ∧
    (∀ name descriptor, g.ResolvesIn 0 (g.DeclaresMethod name descriptor)
      (g.declaredMethod · name descriptor) (g.findMethod 0 name descriptor)) ∧
    ∀ name, g.ResolvesIn 0 (g.DeclaresField name) (g.declaredField · name) (g.findField 0 name) := by
  intro g
  have hg : g.LinksToClasses := by decide
  have hc : (g.classNode? 0).isSome := rfl
  exact ⟨hg, hc, by decide, findMethod_findField_resolvesIn hg hc⟩

end ClassMetrics.StructuralGraph
