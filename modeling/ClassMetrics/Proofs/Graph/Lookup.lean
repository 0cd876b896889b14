import ClassMetrics.Proofs.Graph.WellFormed

/-! Member lookup reads only the part of the hierarchy it walks. The fuel of each walk is more
than the walk can use: a step of the interface walk takes a node off its queue and adds only the
interfaces of a node it had not seen, and a step of the superclass walk sees one more class. So
two graphs whose classes below `n` have the same supertypes, all of them below `n`, and whose
nodes below `n` declare the same members, give the same answer to every lookup that starts
below `n`. -/

namespace ClassMetrics.StructuralGraph

variable {g g' : StructuralGraph}

/-- The weights `w` of the nodes not in `seen`, added up: what a walk can still visit. -/
def unseen (g : StructuralGraph) (w : Nat → Nat) (seen : List Nat) : Nat :=
  ((List.range g.size).map fun x => if x ∈ seen then 0 else w x).sum

theorem sum_map_unseen_cons (w : Nat → Nat) {c : Nat} {seen : List Nat} (hc : c ∉ seen)
    (l : List Nat) (hnd : l.Nodup) :
    (l.map fun x => if x ∈ seen then 0 else w x).sum =
      (l.map fun x => if x ∈ c :: seen then 0 else w x).sum + if c ∈ l then w c else 0 := by
  induction l with
  | nil => rfl
  | cons x l ih =>
    rw [List.nodup_cons] at hnd
    simp only [List.map_cons, List.sum_cons, ih hnd.2, List.mem_cons]
    by_cases hx : x = c
    · subst hx
      simp [hc, hnd.1]
      omega
    · have hcx : c ≠ x := fun h => hx h.symm
      simp [hx, hcx]
      omega

theorem unseen_cons {w : Nat → Nat} {c : Nat} {seen : List Nat} (hc : c ∉ seen) :
    g.unseen w seen = g.unseen w (c :: seen) + if c < g.size then w c else 0 := by
  unfold unseen
  rw [sum_map_unseen_cons w hc _ List.nodup_range]
  simp only [List.mem_range]

theorem unseen_le_nil (w : Nat → Nat) : ∀ seen, g.unseen w seen ≤ g.unseen w []
  | [] => Nat.le_refl _
  | c :: seen => by
    have ih := unseen_le_nil w seen
    by_cases hc : c ∈ seen
    · have hsame : g.unseen w (c :: seen) = g.unseen w seen := by
        unfold unseen
        congr 1
        apply List.map_congr_left
        intro x _
        by_cases hx : x = c
        · subst hx; simp [hc]
        · simp [hx]
      omega
    · rw [unseen_cons (c := c) hc] at ih
      omega

theorem interfacesOf_eq_nil {c : Nat} (hc : g.size ≤ c) : g.interfacesOf c = [] := by
  unfold interfacesOf classNode? resource?
  rw [Array.getElem?_eq_none (by unfold size at hc; omega)]
  rfl

/-- The number of interfaces a node names: those of a class, none for a member. -/
def interfaceLength : Resource → Nat
  | .cls c => c.interfaces.length
  | _ => 0

theorem interfaceCount_eq : g.interfaceCount = (g.nodes.toList.map interfaceLength).sum := rfl

/-- Interfaces counted node by node are the graph's interface links. -/
theorem sum_interfacesOf : ((List.range g.size).map fun x => (g.interfacesOf x).length).sum =
    g.interfaceCount := by
  have hnode : ∀ x, (g.interfacesOf x).length =
      (g.nodes.toList[x]?.map interfaceLength).getD 0 := by
    intro x
    unfold interfacesOf classNode? resource?
    rw [Array.getElem?_toList]
    cases g.nodes[x]? with
    | none => rfl
    | some r => cases r <;> rfl
  have hlist : ∀ xs : List Resource, ((List.range xs.length).map fun x =>
      (xs[x]?.map interfaceLength).getD 0).sum = (xs.map interfaceLength).sum := by
    intro xs
    induction xs with
    | nil => rfl
    | cons r xs ih =>
      rw [List.length_cons, List.range_succ_eq_map, List.map_cons, List.map_map, List.sum_cons,
        List.map_cons, List.sum_cons, ← ih]
      rfl
  simp only [hnode]
  rw [interfaceCount_eq]
  exact hlist g.nodes.toList

/-- What the interface walk can still take: its queue, and the interfaces of every node it has
not seen. -/
def interfaceWork (g : StructuralGraph) (queue seen : List Nat) : Nat :=
  queue.length + g.unseen (fun x => (g.interfacesOf x).length) seen

theorem interfaceWork_lt (queue seen : List Nat) :
    g.interfaceWork queue seen < queue.length + g.interfaceCount + 1 := by
  have hle : g.unseen (fun x => (g.interfacesOf x).length) seen ≤ g.interfaceCount := by
    rw [← sum_interfacesOf]
    have hnil : g.unseen (fun x => (g.interfacesOf x).length) [] =
        ((List.range g.size).map fun x => (g.interfacesOf x).length).sum := by
      simp [unseen]
    exact hnil ▸ unseen_le_nil _ seen
  unfold interfaceWork
  omega

theorem interfaceWork_visit {c : Nat} {queue seen : List Nat} (hc : c ∉ seen) :
    g.interfaceWork (queue ++ g.interfacesOf c) (c :: seen) + 1 =
      g.interfaceWork (c :: queue) seen := by
  unfold interfaceWork
  rw [unseen_cons hc, List.length_append, List.length_cons]
  by_cases hlt : c < g.size
  · rw [if_pos hlt]
    omega
  · rw [if_neg hlt, interfacesOf_eq_nil (by omega)]
    simp
    omega

/-- What the superclass walk can still take: the nodes it has not seen. -/
def chainWork (g : StructuralGraph) (seen : List Nat) : Nat := g.unseen (fun _ => 1) seen

theorem chainWork_visit {c : Nat} {seen : List Nat} (hc : c ∉ seen) (hlt : c < g.size) :
    g.chainWork (c :: seen) + 1 = g.chainWork seen := by
  unfold chainWork
  rw [unseen_cons hc, if_pos hlt]

theorem chainWork_nil_le : g.chainWork [] ≤ g.size := by
  unfold chainWork unseen
  simp [List.map_const']

/-- The hierarchy below `n` reads the same in `g` and `g'`: a node below `n` is a class in both,
with the same supertypes, or in neither; and the supertypes of a class below `n` are below `n`. -/
structure HierarchyAgrees (n : Nat) (g g' : StructuralGraph) : Prop where
  classNode : ∀ c x, c < n → g.classNode? c = some x →
    ∃ x', g'.classNode? c = some x' ∧ x'.superClass = x.superClass ∧ x'.interfaces = x.interfaces
  not_class : ∀ c, c < n → g.classNode? c = none → g'.classNode? c = none
  superClass_lt : ∀ c x s, c < n → g.classNode? c = some x → x.superClass = some s → s < n
  interfaces_lt : ∀ c x s, c < n → g.classNode? c = some x → s ∈ x.interfaces → s < n

namespace HierarchyAgrees

variable {n : Nat}

theorem interfacesOf_eq (h : HierarchyAgrees n g g') {c : Nat} (hc : c < n) :
    g'.interfacesOf c = g.interfacesOf c := by
  unfold interfacesOf
  cases hx : g.classNode? c with
  | none => rw [h.not_class c hc hx]
  | some x =>
    obtain ⟨x', hx', -, hifs⟩ := h.classNode c x hc hx
    rw [hx', Option.map_some, Option.map_some, hifs]

theorem interfacesOf_lt (h : HierarchyAgrees n g g') {c s : Nat} (hc : c < n)
    (hs : s ∈ g.interfacesOf c) : s < n := by
  unfold interfacesOf at hs
  cases hx : g.classNode? c with
  | none => rw [hx] at hs; cases hs
  | some x =>
    rw [hx] at hs
    exact h.interfaces_lt c x s hc hx hs

variable {find find' : Nat → Option Nat}

/-- The interface walks agree when both have fuel enough and the queue is below `n`; the
induction is on the fuel of the walk in `g`, each step visiting the same node in both. -/
theorem searchInterfaces_eq (h : HierarchyAgrees n g g') (hfind : ∀ c, c < n → find' c = find c) :
    ∀ fuel fuel' queue seen, (∀ x ∈ queue, x < n) → g.interfaceWork queue seen < fuel →
      g'.interfaceWork queue seen < fuel' →
      g'.searchInterfaces find' fuel' queue seen = g.searchInterfaces find fuel queue seen := by
  intro fuel
  induction fuel with
  | zero => intro _ _ _ _ hw; omega
  | succ k ih =>
    intro fuel' queue seen hq hw hw'
    obtain ⟨k', rfl⟩ : ∃ k', fuel' = k' + 1 := ⟨fuel' - 1, by omega⟩
    cases queue with
    | nil => simp only [searchInterfaces]
    | cons c queue =>
      have hc : c < n := hq c (List.mem_cons_self ..)
      have hrest : ∀ x ∈ queue, x < n := fun x hx => hq x (List.mem_cons_of_mem _ hx)
      by_cases hs : seen.contains c = true
      · -- a node seen before is passed over
        simp only [searchInterfaces, hs, if_true]
        have hw₁ : g.interfaceWork queue seen + 1 = g.interfaceWork (c :: queue) seen := by
          simp [interfaceWork]; omega
        have hw₁' : g'.interfaceWork queue seen + 1 = g'.interfaceWork (c :: queue) seen := by
          simp [interfaceWork]; omega
        exact ih k' queue seen hrest (by omega) (by omega)
      · have hns : c ∉ seen := fun hm => hs (List.contains_iff_mem.mpr hm)
        simp only [searchInterfaces, hs, hfind c hc, Bool.false_eq_true, ↓reduceIte]
        cases hf : find c with
        | some found => rfl
        | none =>
          -- a node not seen adds its interfaces, the same in both graphs
          simp only
          rw [h.interfacesOf_eq hc]
          have hv : g.interfaceWork (queue ++ g.interfacesOf c) (c :: seen) + 1 =
              g.interfaceWork (c :: queue) seen := interfaceWork_visit hns
          have hv' : g'.interfaceWork (queue ++ g'.interfacesOf c) (c :: seen) + 1 =
              g'.interfaceWork (c :: queue) seen := interfaceWork_visit hns
          rw [h.interfacesOf_eq hc] at hv'
          refine ih k' _ _ ?_ (by omega) (by omega)
          intro x hx
          rcases List.mem_append.mp hx with hx | hx
          · exact hrest x hx
          · exact h.interfacesOf_lt hc hx

/-- The superclass walks agree when both have fuel enough and start below `n`. -/
theorem searchChain_eq (h : HierarchyAgrees n g g') (hfind : ∀ c, c < n → find' c = find c) :
    ∀ fuel fuel' start queue seen, (∀ s, start = some s → s < n) → (∀ x ∈ queue, x < n) →
      g.chainWork seen < fuel → g'.chainWork seen < fuel' →
      g'.searchChain find' fuel' start queue seen = g.searchChain find fuel start queue seen := by
  -- where the chain stops, the interface walk takes over with its own fuel in each graph
  have hinterfaces : ∀ queue seen, (∀ x ∈ queue, x < n) →
      g'.searchInterfaces find' (queue.length + g'.interfaceCount + 1) queue seen =
        g.searchInterfaces find (queue.length + g.interfaceCount + 1) queue seen :=
    fun queue seen hq => h.searchInterfaces_eq hfind _ _ queue seen hq (interfaceWork_lt _ _)
      (interfaceWork_lt _ _)
  intro fuel
  induction fuel with
  | zero => intro _ _ _ _ _ _ hw; omega
  | succ k ih =>
    intro fuel' start queue seen hstart hq hw hw'
    obtain ⟨k', rfl⟩ : ∃ k', fuel' = k' + 1 := ⟨fuel' - 1, by omega⟩
    cases start with
    | none =>
      simp only [searchChain]
      exact hinterfaces queue seen hq
    | some c =>
      have hc : c < n := hstart c rfl
      by_cases hs : seen.contains c = true
      · simp only [searchChain, hs, if_true]
        exact hinterfaces queue seen hq
      · have hns : c ∉ seen := fun hm => hs (List.contains_iff_mem.mpr hm)
        simp only [searchChain, hs, hfind c hc, Bool.false_eq_true, ↓reduceIte]
        cases hf : find c with
        | some found => rfl
        | none =>
          simp only
          cases hx : g.classNode? c with
          | none => rw [h.not_class c hc hx]
          | some x =>
            -- a class not seen: one step up, the same in both graphs
            obtain ⟨x', hx', hsup, hifs⟩ := h.classNode c x hc hx
            rw [hx']
            simp only
            rw [hsup, hifs]
            have hv := chainWork_visit hns (lt_size_of_resource? (classNode?_eq_some.mp hx))
            have hv' := chainWork_visit hns (lt_size_of_resource? (classNode?_eq_some.mp hx'))
            refine ih k' _ _ _ (fun s hs => h.superClass_lt c x s hc hx hs) ?_ (by omega) (by omega)
            intro y hy
            rcases List.mem_append.mp hy with hy | hy
            · exact hq y hy
            · exact h.interfaces_lt c x y hc hx hy

theorem lookupHierarchy_eq (h : HierarchyAgrees n g g') (hfind : ∀ c, c < n → find' c = find c)
    {c : Nat} (hc : c < n) : g'.lookupHierarchy c find' = g.lookupHierarchy c find :=
  h.searchChain_eq hfind _ _ _ [] [] (fun s hs => by cases hs; exact hc) (by simp)
    (Nat.lt_succ_of_le chainWork_nil_le) (Nat.lt_succ_of_le chainWork_nil_le)

theorem findMethod_eq (h : HierarchyAgrees n g g') {name descriptor : String}
    (hdecl : ∀ k, k < n → g'.declaredMethod k name descriptor = g.declaredMethod k name descriptor)
    {c : Nat} (hc : c < n) : g'.findMethod c name descriptor = g.findMethod c name descriptor :=
  h.lookupHierarchy_eq hdecl hc

theorem findField_eq (h : HierarchyAgrees n g g') {name : String}
    (hdecl : ∀ k, k < n → g'.declaredField k name = g.declaredField k name)
    {c : Nat} (hc : c < n) : g'.findField c name = g.findField c name :=
  h.lookupHierarchy_eq hdecl hc

end HierarchyAgrees

/-! ### What a lookup answers -/

section Found

variable {find : Nat → Option Nat}

theorem searchInterfaces_found : ∀ fuel queue seen {r : Nat},
    g.searchInterfaces find fuel queue seen = some r → ∃ k, find k = some r := by
  intro fuel
  induction fuel with
  | zero => intro _ _ _ h; simp [searchInterfaces] at h
  | succ k ih =>
    intro queue seen r h
    cases queue with
    | nil => simp [searchInterfaces] at h
    | cons c queue =>
      simp only [searchInterfaces] at h
      split at h
      · exact ih _ _ h
      · split at h
        · rename_i found hfound
          cases h
          exact ⟨c, hfound⟩
        · exact ih _ _ h

theorem searchChain_found : ∀ fuel start queue seen {r : Nat},
    g.searchChain find fuel start queue seen = some r → ∃ k, find k = some r := by
  intro fuel
  induction fuel with
  | zero => intro _ _ _ _ h; simp only [searchChain] at h; exact searchInterfaces_found _ _ _ h
  | succ k ih =>
    intro start queue seen r h
    cases start with
    | none => simp only [searchChain] at h; exact searchInterfaces_found _ _ _ h
    | some c =>
      simp only [searchChain] at h
      split at h
      · exact searchInterfaces_found _ _ _ h
      · split at h
        · rename_i found hfound
          cases h
          exact ⟨c, hfound⟩
        · split at h
          · exact ih _ _ _ h
          · cases h

end Found

theorem WellFormed.findMethod_lt (hg : g.WellFormed) {c : Nat} {name descriptor : String} {r : Nat}
    (h : g.findMethod c name descriptor = some r) : r < g.size := by
  obtain ⟨k, hk⟩ := searchChain_found _ _ _ _ h
  unfold declaredMethod at hk
  obtain ⟨node, hnode, hr⟩ := Option.bind_eq_some_iff.mp hk
  obtain ⟨m, hm, -⟩ := hg.mem_methods hnode (List.mem_of_find?_eq_some hr)
  exact lt_size_of_resource? (methodNode?_eq_some.mp hm)

theorem WellFormed.findField_lt (hg : g.WellFormed) {c : Nat} {name : String} {r : Nat}
    (h : g.findField c name = some r) : r < g.size := by
  obtain ⟨k, hk⟩ := searchChain_found _ _ _ _ h
  unfold declaredField at hk
  obtain ⟨node, hnode, hr⟩ := Option.bind_eq_some_iff.mp hk
  obtain ⟨f, hf, -⟩ := hg.mem_fields hnode (List.mem_of_find?_eq_some hr)
  exact lt_size_of_resource? (fieldNode?_eq_some.mp hf)

theorem Extends.classNode?_eq_none (hext : g.Extends g') {c : Nat} (hc : c < g.size)
    (hx : g.classNode? c = none) : g'.classNode? c = none := by
  obtain ⟨r, hr⟩ := Option.isSome_iff_exists.mp (resource?_isSome_iff.mpr hc)
  cases r with
  | cls x => rw [classNode?_eq_some.mpr hr] at hx; cases hx
  | method m =>
    obtain ⟨m', hm', -⟩ := hext.methodNode c m (methodNode?_eq_some.mpr hr)
    unfold classNode?
    rw [methodNode?_eq_some.mp hm']
  | field f =>
    obtain ⟨f', hf', -⟩ := hext.fieldNode c f (fieldNode?_eq_some.mpr hr)
    unfold classNode?
    rw [fieldNode?_eq_some.mp hf']

theorem WellFormed.hierarchyAgrees (hg : g.WellFormed) (hext : g.Extends g')
    (hsup : ∀ c x, g.classNode? c = some x →
      ∃ x', g'.classNode? c = some x' ∧ x'.superClass = x.superClass ∧ x'.interfaces = x.interfaces) :
    HierarchyAgrees g.size g g' where
  classNode c x _ hx := hsup c x hx
  not_class _ hc hx := hext.classNode?_eq_none hc hx
  superClass_lt c x s _ hx hs := ((hg.classShape c x hx).superClass_lt s hs).1
  interfaces_lt c x s _ hx hs := ((hg.classShape c x hx).interfaces_lt s hs).1

end ClassMetrics.StructuralGraph
