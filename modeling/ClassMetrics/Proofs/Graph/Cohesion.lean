import ClassMetrics.Proofs.Dependency.Visit
import ClassMetrics.Proofs.Graph.Nodes
import Mathlib.Logic.Relation
import Mathlib.Data.List.Perm.Basic
import Mathlib.Data.List.Sort

/-!
Cohesion blocks are connected components. Joining, link by link, the blocks that hold either end
of the link keeps a partition of the members whose blocks are joined by the links seen so far
and closed under them; so the blocks of a class are exactly the connected components of the
graph that links each measured method to the members of its class that it uses. A class with no
measured method has one block of its declared instance members, so LCOM4 is never below one.
Any two lists of the components hold the same blocks, and a block renders in one way only, so
these facts determine the blocks.
-/

namespace ClassMetrics

/-! ### Connected components -/

/-- `P` lists the connected components of the undirected graph with links `L` on the nodes `V`:
every node is in exactly one block, once, and each block is joined by links and closed under
them. -/
structure IsComponents (V : Nat → Prop) (L : Nat → Nat → Prop) (P : List (List Nat)) :
    Prop where
  nodup : P.flatten.Nodup
  mem_iff : ∀ x, x ∈ P.flatten ↔ V x
  ne_nil : ∀ b ∈ P, b ≠ []
  connected : ∀ b ∈ P, ∀ x ∈ b, ∀ y ∈ b, Relation.EqvGen L x y
  closed : ∀ b ∈ P, ∀ x ∈ b, ∀ y, L x y ∨ L y x → y ∈ b

namespace IsComponents

variable {V V' : Nat → Prop} {L L' : Nat → Nat → Prop} {P Q : List (List Nat)}

theorem congr (h : IsComponents V L P) (hV : ∀ x, V x ↔ V' x) (hL : ∀ x y, L x y ↔ L' x y) :
    IsComponents V' L' P := by
  obtain rfl : V = V' := funext fun x => propext (hV x)
  obtain rfl : L = L' := funext fun x => funext fun y => propext (hL x y)
  exact h

theorem perm (h : IsComponents V L P) {P' : List (List Nat)} (hP : P.Perm P') :
    IsComponents V L P' where
  nodup := hP.flatten.nodup_iff.mp h.nodup
  mem_iff x := hP.flatten.mem_iff.symm.trans (h.mem_iff x)
  ne_nil b hb := h.ne_nil b (hP.mem_iff.mpr hb)
  connected b hb := h.connected b (hP.mem_iff.mpr hb)
  closed b hb := h.closed b (hP.mem_iff.mpr hb)

theorem exists_block (h : IsComponents V L P) {x : Nat} (hx : V x) : ∃ b ∈ P, x ∈ b :=
  List.mem_flatten.mp ((h.mem_iff x).mpr hx)

/-- Joining the blocks of the two ends of one more link keeps the blocks the components. -/
theorem joinBlocks (h : IsComponents V L P) {a b : Nat} (ha : V a) (hb : V b) :
    IsComponents V (fun x y => L x y ∨ (x = a ∧ y = b)) (ClassMetrics.joinBlocks P (a, b)) := by
  let f : List Nat → Bool := fun blk => blk.contains a || blk.contains b
  have hjoin : ClassMetrics.joinBlocks P (a, b) = (P.filter f).flatten :: P.filter (not ∘ f) := by
    simp only [ClassMetrics.joinBlocks, List.partition_eq_filter_filter]
    rfl
  have hf : ∀ blk, f blk = true ↔ a ∈ blk ∨ b ∈ blk := fun blk => by
    simp [f]
  -- the joined block and the others hold the nodes the blocks held before
  have hperm : ((P.filter f).flatten :: P.filter (not ∘ f)).flatten.Perm P.flatten := by
    rw [List.flatten_cons, ← List.flatten_append]
    exact (List.filter_append_perm f P).flatten
  -- a block holding one end of the new link goes into the joined block
  have hjoined : ∀ y, (y = a ∨ y = b) → y ∈ (P.filter f).flatten := by
    intro y hy
    obtain ⟨blk, hblk, hyb⟩ := h.exists_block (hy.elim (· ▸ ha) (· ▸ hb))
    refine List.mem_flatten.mpr ⟨blk, List.mem_filter.mpr ⟨hblk, (hf blk).mpr ?_⟩, hyb⟩
    rcases hy with rfl | rfl
    · exact Or.inl hyb
    · exact Or.inr hyb
  let L' : Nat → Nat → Prop := fun x y => L x y ∨ (x = a ∧ y = b)
  have hmono : ∀ x y, Relation.EqvGen L x y → Relation.EqvGen L' x y :=
    fun x y => Relation.EqvGen.mono (fun _ _ h => Or.inl h) x y
  -- every node of the joined block is joined to `a`
  have hhub : ∀ x ∈ (P.filter f).flatten, Relation.EqvGen L' x a := by
    intro x hx
    obtain ⟨blk, hblk, hxb⟩ := List.mem_flatten.mp hx
    obtain ⟨hblkP, hfb⟩ := List.mem_filter.mp hblk
    rcases (hf blk).mp hfb with hab | hbb
    · exact hmono x a (h.connected blk hblkP x hxb a hab)
    · exact (hmono x b (h.connected blk hblkP x hxb b hbb)).trans _ _ _
        (Relation.EqvGen.symm _ _ (Relation.EqvGen.rel a b (Or.inr ⟨rfl, rfl⟩)))
  rw [hjoin]
  refine ⟨hperm.nodup_iff.mpr h.nodup, fun x => (hperm.mem_iff).trans (h.mem_iff x), ?_, ?_, ?_⟩
  · intro blk hblk
    rcases List.mem_cons.mp hblk with rfl | hblk
    · exact List.ne_nil_of_mem (hjoined a (Or.inl rfl))
    · exact h.ne_nil blk (List.mem_filter.mp hblk).1
  · intro blk hblk x hx y hy
    rcases List.mem_cons.mp hblk with rfl | hblk
    · exact (hhub x hx).trans _ _ _ (Relation.EqvGen.symm _ _ (hhub y hy))
    · exact hmono x y (h.connected blk (List.mem_filter.mp hblk).1 x hx y hy)
  · intro blk hblk x hx y hxy
    rcases List.mem_cons.mp hblk with rfl | hblk
    · -- the joined block: an old link stays in the old block, the new one ends at `a` or `b`
      obtain ⟨blk', hblk', hxb⟩ := List.mem_flatten.mp hx
      rcases hxy with (hl | ⟨-, rfl⟩) | (hl | ⟨rfl, -⟩)
      · exact List.mem_flatten.mpr ⟨blk', hblk',
          h.closed blk' (List.mem_filter.mp hblk').1 x hxb y (Or.inl hl)⟩
      · exact hjoined y (Or.inr rfl)
      · exact List.mem_flatten.mpr ⟨blk', hblk',
          h.closed blk' (List.mem_filter.mp hblk').1 x hxb y (Or.inr hl)⟩
      · exact hjoined y (Or.inl rfl)
    · -- another block holds neither end of the new link
      obtain ⟨hblkP, hfb⟩ := List.mem_filter.mp hblk
      have hnot : ¬ (a ∈ blk ∨ b ∈ blk) := fun h' => by
        have := (hf blk).mpr h'
        simp [this] at hfb
      rcases hxy with (hl | ⟨rfl, -⟩) | (hl | ⟨-, rfl⟩)
      · exact h.closed blk hblkP x hx y (Or.inl hl)
      · exact absurd (Or.inl hx) hnot
      · exact h.closed blk hblkP x hx y (Or.inr hl)
      · exact absurd (Or.inr hx) hnot

theorem foldl_joinBlocks (ls : List (Nat × Nat)) :
    ∀ (P : List (List Nat)) (done : List (Nat × Nat)),
      IsComponents V (fun x y => (x, y) ∈ done) P → (∀ l ∈ ls, V l.1 ∧ V l.2) →
      IsComponents V (fun x y => (x, y) ∈ done ++ ls) (ls.foldl ClassMetrics.joinBlocks P) := by
  -- by induction on the links still to fold, the links folded so far growing by one each step
  induction ls with
  | nil => intro P done h _; simpa using h
  | cons l ls ih =>
    intro P done h hls
    have h₁ : IsComponents V (fun x y => (x, y) ∈ done ++ [l]) (ClassMetrics.joinBlocks P l) :=
      (h.joinBlocks (hls l List.mem_cons_self).1 (hls l List.mem_cons_self).2).congr
        (fun _ => Iff.rfl) fun x y => by simp [Prod.ext_iff]
    have h₂ := ih _ _ h₁ fun l' hl' => hls l' (List.mem_cons_of_mem l hl')
    rw [List.foldl_cons]
    exact h₂.congr (fun _ => Iff.rfl) fun x y => by simp

theorem nodup_of_mem (h : IsComponents V L P) {b : List Nat} (hb : b ∈ P) : b.Nodup :=
  (List.nodup_flatten.mp h.nodup).1 b hb

theorem mem_iff_of_eqvGen (h : IsComponents V L P) {b : List Nat} (hb : b ∈ P) {x y : Nat}
    (hxy : Relation.EqvGen L x y) : x ∈ b ↔ y ∈ b := by
  induction hxy with
  | rel x y hl => exact ⟨fun hx => h.closed b hb x hx y (.inl hl), fun hy => h.closed b hb y hy x (.inr hl)⟩
  | refl => exact Iff.rfl
  | symm x y _ ih => exact ih.symm
  | trans x y z _ _ ih₁ ih₂ => exact ih₁.trans ih₂

theorem exists_perm (hP : IsComponents V L P) (hQ : IsComponents V L Q) {b : List Nat}
    (hb : b ∈ P) : ∃ b' ∈ Q, b.Perm b' := by
  obtain ⟨x, hx⟩ := List.exists_mem_of_ne_nil b (hP.ne_nil b hb)
  obtain ⟨b', hb', hxb'⟩ := hQ.exists_block ((hP.mem_iff x).mp (List.mem_flatten.mpr ⟨b, hb, hx⟩))
  refine ⟨b', hb', (List.perm_ext_iff_of_nodup (hP.nodup_of_mem hb) (hQ.nodup_of_mem hb')).mpr
    fun y => ⟨fun hy => ?_, fun hy => ?_⟩⟩
  · exact (hQ.mem_iff_of_eqvGen hb' (hP.connected b hb x hx y hy)).mp hxb'
  · exact (hP.mem_iff_of_eqvGen hb (hQ.connected b' hb' x hxb' y hy)).mp hx

/-- Two lists of the components hold the same blocks, so what reads a block in any order reads
them alike, in some order. -/
theorem perm_map (hP : IsComponents V L P) (hQ : IsComponents V L Q) {β : Type*}
    {f : List Nat → β} (hf : ∀ b b', b.Perm b' → f b = f b') : (P.map f).Perm (Q.map f) := by
  -- a block is named by its nodes in ascending order, which no two blocks share
  let S : List Nat → List Nat := fun b => b.mergeSort fun x y => decide (x ≤ y)
  have hS : ∀ {b b' : List Nat}, b.Perm b' → S b = S b' := fun hb =>
    ((List.mergeSort_perm _ _).trans (hb.trans (List.mergeSort_perm _ _).symm)).eq_of_pairwise'
      (List.pairwise_mergeSort' (· ≤ ·) _) (List.pairwise_mergeSort' (· ≤ ·) _)
  have hnd : ∀ {P}, IsComponents V L P → (P.map S).Nodup := fun {P} h =>
    List.pairwise_map.mpr (((List.nodup_flatten.mp h.nodup).2).imp_of_mem fun {a b} ha _ hab he => by
      obtain ⟨x, hx⟩ := List.exists_mem_of_ne_nil a (h.ne_nil a ha)
      have hxS : x ∈ S a := (List.mergeSort_perm a _).mem_iff.mpr hx
      rw [he] at hxS
      exact hab hx ((List.mergeSort_perm b _).mem_iff.mp hxS))
  have hmem : ∀ {P Q}, IsComponents V L P → IsComponents V L Q → ∀ s ∈ P.map S, s ∈ Q.map S := by
    intro P Q hP hQ s hs
    obtain ⟨b, hb, rfl⟩ := List.mem_map.mp hs
    obtain ⟨b', hb', hbb'⟩ := hP.exists_perm hQ hb
    exact List.mem_map.mpr ⟨b', hb', (hS hbb').symm⟩
  have hperm : (P.map S).Perm (Q.map S) := (List.perm_ext_iff_of_nodup (hnd hP) (hnd hQ)).mpr
    fun s => ⟨hmem hP hQ s, hmem hQ hP s⟩
  have hfS : ∀ R : List (List Nat), R.map f = (R.map S).map f := fun R => by
    rw [List.map_map]
    exact List.map_congr_left fun b _ => hf _ _ (List.mergeSort_perm _ _).symm
  rw [hfS P, hfS Q]
  exact hperm.map f

/-- Renaming the nodes one to one renames the components, the links renamed alike. -/
theorem map (h : IsComponents V L P) {σ : Nat → Nat}
    (hinj : ∀ x, V x → ∀ y, V y → σ x = σ y → x = y) (hLV : ∀ x y, L x y → V x ∧ V y)
    (hV : ∀ y, V' y ↔ ∃ x, V x ∧ σ x = y)
    (hL : ∀ x y, L' x y ↔ ∃ a b, L a b ∧ σ a = x ∧ σ b = y) :
    IsComponents V' L' (P.map (List.map σ)) where
  nodup := by
    rw [← List.map_flatten]
    exact h.nodup.map_on fun x hx y hy => hinj x ((h.mem_iff x).mp hx) y ((h.mem_iff y).mp hy)
  mem_iff y := by
    rw [← List.map_flatten, List.mem_map, hV]
    exact exists_congr fun x => and_congr_left' (h.mem_iff x)
  ne_nil b hb := by
    obtain ⟨b₀, hb₀, rfl⟩ := List.mem_map.mp hb
    exact fun he => h.ne_nil b₀ hb₀ (List.map_eq_nil_iff.mp he)
  connected b hb := by
    obtain ⟨b₀, hb₀, rfl⟩ := List.mem_map.mp hb
    intro x hx y hy
    obtain ⟨x₀, hx₀, rfl⟩ := List.mem_map.mp hx
    obtain ⟨y₀, hy₀, rfl⟩ := List.mem_map.mp hy
    have hxy := h.connected b₀ hb₀ x₀ hx₀ y₀ hy₀
    clear hx hy hx₀ hy₀
    -- each link of a path renames to a link
    induction hxy with
    | rel x y hl => exact .rel _ _ ((hL _ _).mpr ⟨x, y, hl, rfl, rfl⟩)
    | refl => exact .refl _
    | symm x y _ ih => exact .symm _ _ ih
    | trans x y z _ _ ih₁ ih₂ => exact .trans _ _ _ ih₁ ih₂
  closed b hb := by
    obtain ⟨b₀, hb₀, rfl⟩ := List.mem_map.mp hb
    intro x' hx' y hxy
    obtain ⟨x, hx, rfl⟩ := List.mem_map.mp hx'
    have hVx : V x := (h.mem_iff x).mp (List.mem_flatten.mpr ⟨b₀, hb₀, hx⟩)
    -- the renamed link starts or ends at `x` itself, as the renaming is one to one
    rcases hxy with hl | hl
    · obtain ⟨a, z, hl₀, ha, rfl⟩ := (hL _ _).mp hl
      rw [hinj a (hLV a z hl₀).1 x hVx ha] at hl₀
      exact List.mem_map_of_mem (h.closed b₀ hb₀ x hx z (.inl hl₀))
    · obtain ⟨z, a, hl₀, rfl, ha⟩ := (hL _ _).mp hl
      rw [hinj a (hLV z a hl₀).2 x hVx ha] at hl₀
      exact List.mem_map_of_mem (h.closed b₀ hb₀ x hx z (.inr hl₀))

end IsComponents

/-- The blocks `components` builds are the connected components of its links on its members. -/
theorem components_isComponents {members : List Nat} {links : List (Nat × Nat)}
    (hnd : members.Nodup) (hl : ∀ l ∈ links, l.1 ∈ members ∧ l.2 ∈ members) :
    IsComponents (· ∈ members) (fun x y => (x, y) ∈ links) (components members links) := by
  have h₀ : IsComponents (· ∈ members) (fun x y => (x, y) ∈ ([] : List (Nat × Nat)))
      (members.map fun m => [m]) := by
    have hflat : (members.map fun m => [m]).flatten = members := by
      clear hnd hl
      induction members with
      | nil => rfl
      | cons m ms ih => rw [List.map_cons, List.flatten_cons, ih]; rfl
    refine ⟨by rw [hflat]; exact hnd, fun x => by rw [hflat], fun b hb => ?_,
      fun b hb x hx y hy => ?_, ?_⟩
    · obtain ⟨m, -, rfl⟩ := List.mem_map.mp hb
      exact List.cons_ne_nil m []
    · obtain ⟨m, -, rfl⟩ := List.mem_map.mp hb
      rw [List.mem_singleton.mp hx, List.mem_singleton.mp hy]
      exact Relation.EqvGen.refl m
    · intro b _ x _ y hxy
      simp at hxy
  exact (h₀.foldl_joinBlocks links _ [] hl).congr (fun _ => Iff.rfl) fun x y => by simp

/-- What splitting members into the blocks that links join must give, as a union-find over the
members does: for members without repeats and links between them, the connected components. -/
def FindsComponents (find : List Nat → List (Nat × Nat) → List (List Nat)) : Prop :=
  ∀ ⦃members links⦄, members.Nodup → (∀ l ∈ links, l.1 ∈ members ∧ l.2 ∈ members) →
    IsComponents (· ∈ members) (fun x y => (x, y) ∈ links) (find members links)

theorem findsComponents_components : FindsComponents components :=
  fun _ _ => components_isComponents

/-! ### Sorted keys -/

theorem keysLe_trans {a b d : List String} (hab : keysLe a b = true) (hbd : keysLe b d = true) :
    keysLe a d = true := by
  induction a generalizing b d with
  | nil => rfl
  | cons x xs ih =>
    cases b with
    | nil => simp [keysLe] at hab
    | cons y ys =>
      cases d with
      | nil => simp [keysLe] at hbd
      | cons z zs =>
        simp only [keysLe, Bool.or_eq_true, Bool.and_eq_true, beq_iff_eq,
          decide_eq_true_eq] at hab hbd ⊢
        rcases hab with hxy | ⟨rfl, hxs⟩ <;> rcases hbd with hyz | ⟨rfl, hys⟩
        · exact Or.inl (lt_trans hxy hyz)
        · exact Or.inl hxy
        · exact Or.inl hyz
        · exact Or.inr ⟨rfl, ih hxs hys⟩

theorem keysLe_total (a b : List String) : (keysLe a b || keysLe b a) = true := by
  induction a generalizing b with
  | nil => simp [keysLe]
  | cons x xs ih =>
    cases b with
    | nil => simp [keysLe]
    | cons y ys =>
      simp only [keysLe, Bool.or_eq_true, Bool.and_eq_true, beq_iff_eq, decide_eq_true_eq]
      rcases lt_trichotomy x y with h | rfl | h
      · exact Or.inl (Or.inl h)
      · simpa using ih ys
      · exact Or.inr (Or.inl h)

theorem keysLe_antisymm {a b : List String} (hab : keysLe a b = true) (hba : keysLe b a = true) :
    a = b := by
  induction a generalizing b with
  | nil =>
    cases b with
    | nil => rfl
    | cons y ys => simp [keysLe] at hba
  | cons x xs ih =>
    cases b with
    | nil => simp [keysLe] at hab
    | cons y ys =>
      simp only [keysLe, Bool.or_eq_true, Bool.and_eq_true, beq_iff_eq,
        decide_eq_true_eq] at hab hba
      rcases hab with hxy | ⟨rfl, hxs⟩
      · rcases hba with hyx | ⟨rfl, -⟩
        · exact absurd (lt_trans hxy hyx) (lt_irrefl x)
        · exact absurd hxy (lt_irrefl y)
      · rcases hba with hyx | ⟨-, hys⟩
        · exact absurd hyx (lt_irrefl x)
        · rw [ih hxs hys]

theorem pairwise_mergeSort_keysLe (l : List (List String)) :
    (l.mergeSort keysLe).Pairwise fun a b => keysLe a b = true :=
  List.pairwise_mergeSort
    (fun a b d (hab : keysLe a b = true) (hbd : keysLe b d = true) => keysLe_trans hab hbd)
    keysLe_total l

theorem pairwise_mergeSort_le (l : List String) :
    (l.mergeSort fun a b => decide (a ≤ b)).Pairwise (· ≤ ·) :=
  (List.pairwise_mergeSort
    (fun a b c hab hbc => by simp only [decide_eq_true_eq] at *; exact le_trans hab hbc)
    (fun a b => by simpa using le_total a b) l).imp of_decide_eq_true

namespace StructuralGraph

variable {g : StructuralGraph} {c : EngineConfig}

/-! ### The cohesion graph of a class -/

/-- A method that LCOM4 measures: a declared instance method with a body that does more than
return, neither initialiser nor abstract, and not an accessor when accessors are left out. -/
def Measured (g : StructuralGraph) (c : EngineConfig) (m : Nat) : Prop :=
  ∃ mn, g.methodNode? m = some mn ∧ mn.declared = true ∧ mn.isStatic = false ∧
    mn.isAbstract = false ∧ mn.isConstructor = false ∧ mn.isStaticInitializer = false ∧
    mn.hasBody = true ∧ mn.isEmpty = false ∧
    (c.lcom4ExcludeAccessors = true → g.isAccessor m = false)

/-- The member that an edge to `t` links a measured method of class `cls` to: when `t` is an
instance member of `cls` other than an excluded field, `t` itself, or the field it accesses when
it is an accessor and accessors are left out; never an excluded field. -/
def LinkTarget (g : StructuralGraph) (c : EngineConfig) (cls t u : Nat) : Prop :=
  ((∃ mn, g.methodNode? t = some mn ∧ mn.owner = cls ∧ mn.isStatic = false) ∨
    (∃ fn, g.fieldNode? t = some fn ∧ fn.owner = cls ∧ fn.isStatic = false ∧
      c.isExcluded fn.name = false)) ∧
  u = (if c.lcom4ExcludeAccessors then (g.accessedField t).getD t else t) ∧
  ∀ fn, g.fieldNode? u = some fn → c.isExcluded fn.name = false

/-- The links of the cohesion graph of a class: from each measured method it lists to every
member that an edge of the method leads to. -/
def UsesMember (g : StructuralGraph) (c : EngineConfig) (cls : Nat) (node : ClassNode)
    (m u : Nat) : Prop :=
  m ∈ node.methods ∧ g.Measured c m ∧ ∃ e ∈ g.edgesFrom m, g.LinkTarget c cls e.target u

/-- The nodes of the cohesion graph of a class: its measured methods and the members they use. -/
def CohesionNode (g : StructuralGraph) (c : EngineConfig) (cls : Nat) (node : ClassNode)
    (x : Nat) : Prop :=
  (x ∈ node.methods ∧ g.Measured c x) ∨ ∃ m, g.UsesMember c cls node m x

theorem measured_iff (m : Nat) :
    ((g.methodNode? m).any (·.declared) && g.isCohesive c m) = true ↔ g.Measured c m := by
  unfold isCohesive Measured
  cases hm : g.methodNode? m with
  | none => simp
  | some mn =>
    simp only [Option.any_some, Bool.and_eq_true, Bool.not_eq_true', Option.some.injEq,
      exists_eq_left', Bool.and_eq_false_imp]
    constructor
    · rintro ⟨hd, ⟨⟨⟨⟨⟨⟨hs, ha⟩, hc⟩, hi⟩, hb⟩, he⟩, hx⟩⟩
      exact ⟨hd, hs, ha, hc, hi, hb, he, hx⟩
    · rintro ⟨hd, hs, ha, hc, hi, hb, he, hx⟩
      exact ⟨hd, ⟨⟨⟨⟨⟨⟨hs, ha⟩, hc⟩, hi⟩, hb⟩, he⟩, hx⟩⟩

theorem cohesionLink_eq_some {cls : Nat} {e : Link} {p : Nat × Nat} :
    g.cohesionLink c cls e = some p ↔ p.1 = e.source ∧ g.LinkTarget c cls e.target p.2 := by
  obtain ⟨a, u⟩ := p
  have hex : (∀ fn, g.fieldNode? u = some fn → c.isExcluded fn.name = false) ↔
      ¬ ((g.fieldNode? u).any fun f => c.isExcluded f.name) = true := by
    cases g.fieldNode? u <;> simp
  unfold cohesionLink LinkTarget
  rw [hex]
  simp only [methodNode?_eq_some, fieldNode?_eq_some]
  -- the target decides which ownership test applies
  cases hr : g.resource? e.target with
  | none => simp
  | some r =>
    cases r with
    | cls k => simp
    | method m =>
      simp [Resource.isStaticMember]
      constructor
      · rintro ⟨h₁, h₂, rfl, rfl⟩
        exact ⟨rfl, h₁, rfl, h₂⟩
      · rintro ⟨rfl, h₁, rfl, h₂⟩
        exact ⟨h₁, h₂, rfl, rfl⟩
    | field f =>
      simp [Resource.isStaticMember]
      constructor
      · rintro ⟨⟨⟨h₁, h₂⟩, h₃⟩, h₄, rfl, rfl⟩
        exact ⟨rfl, ⟨h₁, h₃, h₂⟩, rfl, h₄⟩
      · rintro ⟨rfl, ⟨h₁, h₃, h₂⟩, rfl, h₄⟩
        exact ⟨⟨⟨h₁, h₂⟩, h₃⟩, h₄, rfl, rfl⟩

/-! ### The parts of the cohesion blocks -/

/-- The measured methods of a class, in member order. -/
def measuredMethods (g : StructuralGraph) (c : EngineConfig) (node : ClassNode) : List Nat :=
  node.methods.filter fun m => (g.methodNode? m).any (·.declared) && g.isCohesive c m

/-- The links of the cohesion graph of a class, method by method and edge by edge. -/
def cohesionLinks (g : StructuralGraph) (c : EngineConfig) (cls : Nat) (node : ClassNode) :
    List (Nat × Nat) :=
  (g.measuredMethods c node).flatMap fun m => (g.edgesFrom m).filterMap (g.cohesionLink c cls)

/-- The nodes of the cohesion graph of a class: its measured methods, then the ends of its
links, each once. -/
def cohesionMembers (g : StructuralGraph) (c : EngineConfig) (cls : Nat) (node : ClassNode) :
    List Nat :=
  (g.measuredMethods c node ++ (g.cohesionLinks c cls node).flatMap fun l => [l.1, l.2]).foldl
    (fun acc m => if acc.contains m then acc else acc ++ [m]) []

/-- The declared instance members of a class, methods first. -/
def declaredInstanceMembers (g : StructuralGraph) (node : ClassNode) : List Nat :=
  (node.methods ++ node.fields).filter fun i =>
    (g.resource? i).any fun r => !r.isStaticMember && r.isDeclared

theorem cohesionBlocks_eq (cls : Nat) (node : ClassNode) :
    g.cohesionBlocks c cls node =
      if (g.measuredMethods c node).isEmpty then
        [((g.declaredInstanceMembers node).map g.key).mergeSort fun a b => decide (a ≤ b)]
      else
        ((components (g.cohesionMembers c cls node) (g.cohesionLinks c cls node)).map
          fun b => (b.map g.key).mergeSort fun a b => decide (a ≤ b)).mergeSort keysLe := rfl

theorem mem_measuredMethods {node : ClassNode} {m : Nat} :
    m ∈ g.measuredMethods c node ↔ m ∈ node.methods ∧ g.Measured c m := by
  rw [measuredMethods, List.mem_filter, measured_iff]

theorem measuredMethods_isEmpty {node : ClassNode} :
    (g.measuredMethods c node).isEmpty = true ↔ ∀ m ∈ node.methods, ¬ g.Measured c m := by
  rw [List.isEmpty_iff, List.eq_nil_iff_forall_not_mem]
  exact forall_congr' fun m => by rw [mem_measuredMethods]; exact not_and

theorem mem_cohesionLinks {cls : Nat} {node : ClassNode} {a u : Nat} :
    (a, u) ∈ g.cohesionLinks c cls node ↔ g.UsesMember c cls node a u := by
  unfold cohesionLinks UsesMember
  simp only [List.mem_flatMap, List.mem_filterMap, cohesionLink_eq_some, mem_measuredMethods]
  constructor
  · rintro ⟨m, ⟨hm, hmeas⟩, e, he, rfl, ht⟩
    rw [source_of_mem_edgesFrom he]
    exact ⟨hm, hmeas, e, he, ht⟩
  · rintro ⟨hm, hmeas, e, he, ht⟩
    exact ⟨a, ⟨hm, hmeas⟩, e, he, (source_of_mem_edgesFrom he).symm, ht⟩

theorem mem_cohesionMembers {cls : Nat} {node : ClassNode} {x : Nat} :
    x ∈ g.cohesionMembers c cls node ↔ g.CohesionNode c cls node x := by
  rw [cohesionMembers, (foldl_keepFirst _ []).1 x, CohesionNode]
  simp only [List.not_mem_nil, false_or, or_false, List.mem_append, List.mem_flatMap,
    List.mem_cons]
  constructor
  · rintro (hm | ⟨⟨a, u⟩, hl, hx⟩)
    · exact Or.inl (mem_measuredMethods.mp hm)
    · have hu := mem_cohesionLinks.mp hl
      rcases hx with rfl | rfl
      · exact Or.inl ⟨hu.1, hu.2.1⟩
      · exact Or.inr ⟨a, hu⟩
  · rintro (hm | ⟨m, hu⟩)
    · exact Or.inl (mem_measuredMethods.mpr hm)
    · exact Or.inr ⟨(m, x), mem_cohesionLinks.mpr hu, Or.inr rfl⟩

theorem nodup_cohesionMembers (cls : Nat) (node : ClassNode) :
    (g.cohesionMembers c cls node).Nodup :=
  (foldl_keepFirst _ []).2 List.nodup_nil

theorem ends_mem_cohesionMembers {cls : Nat} {node : ClassNode} {l : Nat × Nat}
    (hl : l ∈ g.cohesionLinks c cls node) :
    l.1 ∈ g.cohesionMembers c cls node ∧ l.2 ∈ g.cohesionMembers c cls node := by
  have hu := mem_cohesionLinks.mp hl
  exact ⟨mem_cohesionMembers.mpr (Or.inl ⟨hu.1, hu.2.1⟩),
    mem_cohesionMembers.mpr (Or.inr ⟨l.1, hu⟩)⟩

theorem components_cohesionMembers (cls : Nat) (node : ClassNode) :
    IsComponents (g.CohesionNode c cls node) (g.UsesMember c cls node)
      (components (g.cohesionMembers c cls node) (g.cohesionLinks c cls node)) :=
  (components_isComponents (nodup_cohesionMembers cls node)
    fun _ hl => ends_mem_cohesionMembers hl).congr (fun _ => mem_cohesionMembers)
    fun _ _ => mem_cohesionLinks

/-! ### The cohesion blocks -/

/-- A block shown as the keys of its members, sorted. -/
def RendersBlock (g : StructuralGraph) (b : List Nat) (ks : List String) : Prop :=
  ks.Perm (b.map g.key) ∧ ks.Pairwise (· ≤ ·)

theorem rendersBlock_mergeSort (b : List Nat) :
    g.RendersBlock b ((b.map g.key).mergeSort fun x y => decide (x ≤ y)) :=
  ⟨List.mergeSort_perm _ _, pairwise_mergeSort_le _⟩

theorem RendersBlock.eq {b b' : List Nat} {ks ks' : List String} (h : g.RendersBlock b ks)
    (h' : g.RendersBlock b' ks') (hb : b.Perm b') : ks = ks' :=
  (h.1.trans ((hb.map g.key).trans h'.1.symm)).eq_of_pairwise' h.2 h'.2

theorem eq_map_of_forall₂_rendersBlock {P : List (List Nat)} {B : List (List String)}
    (h : List.Forall₂ g.RendersBlock P B) :
    B = P.map fun b => (b.map g.key).mergeSort fun x y => decide (x ≤ y) := by
  induction h with
  | nil => rfl
  | cons hr _ ih => rw [List.map_cons, ← ih, hr.eq (rendersBlock_mergeSort _) (List.Perm.refl _)]

theorem exists_rendersBlock_of_isComponents {V : Nat → Prop} {L : Nat → Nat → Prop}
    {Q : List (List Nat)} (h : IsComponents V L Q) :
    ∃ P, IsComponents V L P ∧ List.Forall₂ g.RendersBlock P
      ((Q.map fun b => (b.map g.key).mergeSort fun x y => decide (x ≤ y)).mergeSort keysLe) := by
  have hF : List.Forall₂ g.RendersBlock Q
      (Q.map fun b => (b.map g.key).mergeSort fun x y => decide (x ≤ y)) :=
    List.forall₂_map_right_iff.mpr (List.forall₂_same.mpr fun b _ => rendersBlock_mergeSort b)
  have hcomp : Relation.Comp (List.Forall₂ g.RendersBlock) List.Perm Q
      ((Q.map fun b => (b.map g.key).mergeSort fun x y => decide (x ≤ y)).mergeSort keysLe) :=
    ⟨_, hF, (List.mergeSort_perm _ _).symm⟩
  rw [List.forall₂_comp_perm_eq_perm_comp_forall₂] at hcomp
  obtain ⟨P, hQP, hPB⟩ := hcomp
  exact ⟨P, h.perm hQP, hPB⟩

/-- What the cohesion blocks of a class are, each block the sorted keys of its members and the
blocks in ascending order: with a measured method, the connected components of its cohesion
graph; without one, a single block of its declared instance members. -/
structure IsCohesionBlocks (g : StructuralGraph) (c : EngineConfig) (cls : Nat) (node : ClassNode)
    (B : List (List String)) : Prop where
  sorted : B.Pairwise fun a b => keysLe a b = true
  components : (∃ m ∈ node.methods, g.Measured c m) →
    ∃ P, IsComponents (g.CohesionNode c cls node) (g.UsesMember c cls node) P ∧
      List.Forall₂ g.RendersBlock P B
  single : (∀ m ∈ node.methods, ¬ g.Measured c m) →
    ∃ ks, B = [ks] ∧ g.RendersBlock (g.declaredInstanceMembers node) ks

theorem IsCohesionBlocks.ne_nil {cls : Nat} {node : ClassNode} {B : List (List String)}
    (h : g.IsCohesionBlocks c cls node B) : B ≠ [] := by
  by_cases hm : ∃ m ∈ node.methods, g.Measured c m
  · obtain ⟨P, hP, hPB⟩ := h.components hm
    obtain ⟨m, hm, hmeas⟩ := hm
    obtain ⟨b, hb, -⟩ := hP.exists_block (Or.inl ⟨hm, hmeas⟩)
    rintro rfl
    rw [List.forall₂_nil_right_iff.mp hPB] at hb
    exact List.not_mem_nil hb
  · obtain ⟨ks, rfl, -⟩ := h.single fun m hm' hmeas => hm ⟨m, hm', hmeas⟩
    exact List.cons_ne_nil ks []

theorem isCohesionBlocks_cohesionBlocks (cls : Nat) (node : ClassNode) :
    g.IsCohesionBlocks c cls node (g.cohesionBlocks c cls node) := by
  rw [cohesionBlocks_eq]
  by_cases he : (g.measuredMethods c node).isEmpty = true
  · have hnone := measuredMethods_isEmpty.mp he
    rw [if_pos he]
    exact ⟨List.pairwise_singleton _ _, fun ⟨m, hm, hmeas⟩ => absurd hmeas (hnone m hm),
      fun _ => ⟨_, rfl, rendersBlock_mergeSort _⟩⟩
  · rw [if_neg he]
    exact ⟨pairwise_mergeSort_keysLe _,
      fun _ => exists_rendersBlock_of_isComponents (components_cohesionMembers cls node),
      fun hnone => absurd (measuredMethods_isEmpty.mpr hnone) he⟩

theorem IsCohesionBlocks.unique {cls : Nat} {node : ClassNode} {B B' : List (List String)}
    (h : g.IsCohesionBlocks c cls node B) (h' : g.IsCohesionBlocks c cls node B') : B = B' := by
  by_cases hm : ∃ m ∈ node.methods, g.Measured c m
  · obtain ⟨P, hP, hPB⟩ := h.components hm
    obtain ⟨Q, hQ, hQB⟩ := h'.components hm
    -- the same components rendered, in the one order that the sorting allows
    have hperm : B.Perm B' := by
      rw [eq_map_of_forall₂_rendersBlock hPB, eq_map_of_forall₂_rendersBlock hQB]
      exact hP.perm_map hQ fun b b' hb =>
        (rendersBlock_mergeSort b).eq (rendersBlock_mergeSort b') hb
    exact hperm.eq_of_pairwise (fun _ _ _ _ hab hba => keysLe_antisymm hab hba) h.sorted h'.sorted
  · obtain ⟨ks, rfl, hks⟩ := h.single fun m hm' hmeas => hm ⟨m, hm', hmeas⟩
    obtain ⟨ks', rfl, hks'⟩ := h'.single fun m hm' hmeas => hm ⟨m, hm', hmeas⟩
    rw [hks.eq hks' (List.Perm.refl _)]

theorem isCohesionBlocks_iff {cls : Nat} {node : ClassNode} {B : List (List String)} :
    g.IsCohesionBlocks c cls node B ↔ B = g.cohesionBlocks c cls node :=
  ⟨fun h => h.unique (isCohesionBlocks_cohesionBlocks cls node),
    fun h => h ▸ isCohesionBlocks_cohesionBlocks cls node⟩

/-- The blocks do not depend on how the components are found: any way that finds them gives the
blocks that joining blocks link by link gives. -/
theorem linkedBlocksBy_eq {find : List Nat → List (Nat × Nat) → List (List Nat)}
    (hfind : FindsComponents find) (methods : List Nat) (links : List (Nat × Nat)) :
    g.linkedBlocksBy find methods links = g.linkedBlocks methods links := by
  let members := (methods ++ links.flatMap fun l => [l.1, l.2]).foldl
    (fun acc m => if acc.contains m then acc else acc ++ [m]) []
  have hnd : members.Nodup := (foldl_keepFirst _ []).2 List.nodup_nil
  have hends : ∀ l ∈ links, l.1 ∈ members ∧ l.2 ∈ members := fun l hl => by
    simp only [members, (foldl_keepFirst _ []).1, List.mem_append, List.mem_flatMap]
    exact ⟨.inr (.inr ⟨l, hl, by simp⟩), .inr (.inr ⟨l, hl, by simp⟩)⟩
  -- the two lists of components render as the same blocks up to order, which sorting removes
  let render := fun b : List Nat => (b.map g.key).mergeSort fun x y => decide (x ≤ y)
  have hperm : ((find members links).map render).Perm ((components members links).map render) :=
    (hfind hnd hends).perm_map (findsComponents_components hnd hends)
      fun b b' hb => (rendersBlock_mergeSort b).eq (rendersBlock_mergeSort b') hb
  have hsorted : (((find members links).map render).mergeSort keysLe).Perm
      (((components members links).map render).mergeSort keysLe) :=
    (List.mergeSort_perm _ _).trans (hperm.trans (List.mergeSort_perm _ _).symm)
  exact hsorted.eq_of_pairwise (fun _ _ _ _ hab hba => keysLe_antisymm hab hba)
    (pairwise_mergeSort_keysLe _) (pairwise_mergeSort_keysLe _)

end StructuralGraph

/-- Measuring a class of the tree sets its LCOM4 blocks to the cohesion blocks of the class
and its LCOM4 to their number, which is at least one. -/
theorem measureClass_cohesionBlocks {g : StructuralGraph} {c : EngineConfig} {t : SourceTree}
    {d : DependencyGraph} {cls id : Nat} {node : ClassNode} (hn : g.classNode? cls = some node)
    (hf : t.find? .cls (g.key cls) = some id) :
    ∃ B, g.IsCohesionBlocks c cls node B ∧
      (measureClass g c (t, d) cls).1.measure? id .lcom4Blocks = some (.blocks B) ∧
      (measureClass g c (t, d) cls).1.measure? id .lcom4 = some (.int B.length) ∧
      1 ≤ B.length := by
  have hid := (SourceTree.find?_eq_some hf).1
  obtain ⟨source, hc⟩ : ∃ source, t.containers? (g.key cls) = some source := by
    simp [SourceTree.containers?, hf]
  have hsize : ∀ (t' : SourceTree) i m v, (t'.setMeasure i m v).size = t'.size :=
    fun t' i m v => (SourceTree.setMeasure_sameShape t' i m v).size_eq
  have hB := g.isCohesionBlocks_cohesionBlocks (c := c) cls node
  refine ⟨_, hB, ?_, ?_, List.length_pos_iff.mpr hB.ne_nil⟩ <;>
    simp [measureClass, hn, hf, hc, StructuralGraph.classMeasures,
      SourceTree.measure?_setMeasure, hsize, hid]

/-- A class whose one method reads its one field, measured with the default settings. -/
theorem measureClass_cohesionBlocks_reader :
    let node : ClassNode := ⟨"A", 0x21, some .structureAndCalls, none, [], [1], [2]⟩
    let g : StructuralGraph := { nodes := #[.cls node,
      .method ⟨"A#run()V", 0, "run", "()V", 1, true, true, none, []⟩,
      .field ⟨"A#f", 0, "f", "I", 2, true⟩], links := #[⟨1, 2, .uses, 1⟩] }
    let t : SourceTree := ⟨#[{ key := "p", scope := .project, parent := none },
      { key := "A", scope := .cls, parent := some 0 }]⟩
    ∃ B, g.IsCohesionBlocks {} 0 node B ∧
      (measureClass g {} (t, {}) 0).1.measure? 1 .lcom4Blocks = some (.blocks B) ∧
      (measureClass g {} (t, {}) 0).1.measure? 1 .lcom4 = some (.int B.length) ∧
      1 ≤ B.length :=
  measureClass_cohesionBlocks rfl (by decide +kernel)

end ClassMetrics
