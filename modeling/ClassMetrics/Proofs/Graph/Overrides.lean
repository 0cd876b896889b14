import ClassMetrics.Graph.Link
import ClassMetrics.Proofs.Graph.Lookup
import Mathlib.Logic.Relation
import Mathlib.Logic.Function.Iterate

/-!
Virtual dispatch links are exact. The walk down the subclass index reaches every class below a
class and only those, each once and the class itself never, whatever cycles the supertype links
make: a class is queued when it is first seen, and one step takes a class off the queue and
queues only classes not seen before, so the walk's fuel is more than it can use. Linking then
gives every declared virtual method of a resolved class, once each, the methods of its name and
descriptor that the classes below its own declare, and nothing to any other method; linking
again changes nothing.
-/

namespace ClassMetrics.StructuralGraph

variable {g g' : StructuralGraph}

/-! ### Subtypes -/

/-- `s` is a class whose superclass or one of whose interfaces is `p`. -/
def DirectSubtype (g : StructuralGraph) (p s : Nat) : Prop := g.isDirectSupertype p s = true

/-- `s` is below `c`: `c` is a supertype of `s`, directly or through other types. -/
def Below (g : StructuralGraph) (c s : Nat) : Prop := Relation.TransGen g.DirectSubtype c s

theorem DirectSubtype.lt_size {p s : Nat} (h : g.DirectSubtype p s) : s < g.size := by
  unfold DirectSubtype isDirectSupertype at h
  cases hs : g.classNode? s with
  | none => rw [hs] at h; cases h
  | some c => exact lt_size_of_resource? (classNode?_eq_some.mp hs)

theorem Below.lt_size {c s : Nat} (h : g.Below c s) : s < g.size := by
  cases h with
  | single hd => exact hd.lt_size
  | tail _ hd => exact hd.lt_size

theorem mem_directSubclasses {p s : Nat} : s ∈ g.directSubclasses p ↔ g.DirectSubtype p s := by
  unfold directSubclasses classIds DirectSubtype
  constructor
  · intro h
    exact (List.mem_filter.mp h).2
  · intro h
    have hs : s < g.size := DirectSubtype.lt_size h
    refine List.mem_filter.mpr ⟨List.mem_filter.mpr ⟨List.mem_range.mpr hs, ?_⟩, h⟩
    unfold isDirectSupertype at h
    cases hc : g.classNode? s with
    | none => rw [hc] at h; cases h
    | some c => rfl

theorem mem_supertypesOf {p s : Nat} : p ∈ g.supertypesOf s ↔ g.DirectSubtype p s := by
  unfold supertypesOf DirectSubtype isDirectSupertype
  cases g.classNode? s with
  | none => simp
  | some c => simp

theorem foldl_max_succ (l : List Nat) (b : Nat) :
    b ≤ l.foldl (fun b p => max b (p + 1)) b ∧ ∀ p ∈ l, p < l.foldl (fun b p => max b (p + 1)) b := by
  induction l generalizing b with
  | nil => simp
  | cons q l ih =>
    obtain ⟨h₁, h₂⟩ := ih (max b (q + 1))
    refine ⟨Nat.le_trans (Nat.le_max_left _ _) h₁, fun p hp => ?_⟩
    rcases List.mem_cons.mp hp with rfl | hp
    · exact Nat.lt_of_lt_of_le (Nat.lt_succ_self p) (Nat.le_trans (Nat.le_max_right _ _) h₁)
    · exact h₂ p hp

theorem lt_parentBound {p s : Nat} (h : g.DirectSubtype p s) : p < g.parentBound := by
  have hs : s ∈ g.classIds := by
    rw [← mem_directSubclasses] at h
    exact (List.mem_filter.mp h).1
  exact (foldl_max_succ _ g.size).2 p (List.mem_flatMap.mpr ⟨s, hs, mem_supertypesOf.mpr h⟩)

/-- Indexing a class leaves each type its children, then the class once if it names the type
and was not among them. -/
theorem getD_indexClass (index : Array (List Nat)) (cls p : Nat) :
    ((g.indexClass index cls)[p]?).getD [] =
      if p < index.size ∧ p ∈ g.supertypesOf cls ∧ cls ∉ (index[p]?).getD []
      then (index[p]?).getD [] ++ [cls] else (index[p]?).getD [] := by
  unfold indexClass
  induction g.supertypesOf cls generalizing index with
  | nil => simp
  | cons q parents ih =>
    rw [List.foldl_cons, ih, Array.size_modify, Array.getElem?_modify]
    by_cases hq : q = p
    · subst hq
      by_cases hp : q < index.size
      · by_cases hc : cls ∈ index[q] <;> simp [hp, hc]
      · simp [hp]
    · simp [hq, Ne.symm hq]

theorem size_indexClass (index : Array (List Nat)) (cls : Nat) :
    (g.indexClass index cls).size = index.size := by
  unfold indexClass
  induction g.supertypesOf cls generalizing index with
  | nil => rfl
  | cons q parents ih => rw [List.foldl_cons, ih, Array.size_modify]

/-- The one pass over the classes: at each type, the classes that name it, in the order of the
pass. A class is new at every type when it comes, so the check that it is already there only
matters when a class names one type twice. -/
theorem getD_foldl_indexClass (p : Nat) (ids : List Nat) (hids : ids.Nodup)
    (index : Array (List Nat)) (hfresh : ∀ s ∈ ids, s ∉ (index[p]?).getD []) :
    ((ids.foldl g.indexClass index)[p]?).getD [] = (index[p]?).getD [] ++
      if p < index.size then ids.filter fun s => p ∈ g.supertypesOf s else [] := by
  induction ids generalizing index with
  | nil => simp
  | cons s ids ih =>
    obtain ⟨hs, hids⟩ := List.nodup_cons.mp hids
    have hone := g.getD_indexClass index s p
    rw [if_congr (and_congr_right fun _ => and_iff_left (hfresh s (by simp))) rfl rfl] at hone
    rw [List.foldl_cons, ih hids, size_indexClass]
    · rw [hone]
      by_cases hp : p < index.size <;> by_cases hps : p ∈ g.supertypesOf s <;>
        simp [hp, hps]
    · intro s' hs' hmem
      rw [hone] at hmem
      have hne : s' ≠ s := fun h => hs (h ▸ hs')
      split at hmem
      · simp only [List.mem_append, List.mem_singleton] at hmem
        exact hmem.elim (hfresh s' (by simp [hs'])) hne
      · exact hfresh s' (by simp [hs']) hmem

theorem subclasses_indexHierarchy (p : Nat) : g.indexHierarchy.subclasses p = g.directSubclasses p := by
  unfold subclasses indexHierarchy
  dsimp only
  have hnodup : g.classIds.Nodup := List.nodup_range.filter _
  have hempty : ((Array.replicate g.parentBound ([] : List Nat))[p]?).getD [] = [] := by
    rw [Array.getElem?_replicate]
    split <;> rfl
  rw [getD_foldl_indexClass p g.classIds hnodup _ fun s _ => by rw [hempty]; exact List.not_mem_nil,
    hempty, List.nil_append, Array.size_replicate]
  by_cases hp : p < g.parentBound
  · rw [if_pos hp]
    exact List.filter_congr fun s _ => by
      rw [Bool.eq_iff_iff, decide_eq_true_iff, mem_supertypesOf]
      rfl
  · -- a number past the bound is nobody's parent
    have hnil : g.directSubclasses p = [] :=
      List.eq_nil_iff_forall_not_mem.mpr fun s hs => hp (lt_parentBound (mem_directSubclasses.mp hs))
    simp [hp, hnil]

@[simp] theorem classNode?_indexHierarchy (i : Nat) :
    g.indexHierarchy.classNode? i = g.classNode? i := rfl

@[simp] theorem methodNode?_indexHierarchy (i : Nat) :
    g.indexHierarchy.methodNode? i = g.methodNode? i := rfl

@[simp] theorem size_indexHierarchy : g.indexHierarchy.size = g.size := rfl

@[simp] theorem ownedMethods_indexHierarchy (c : Nat) :
    g.indexHierarchy.ownedMethods c = g.ownedMethods c := rfl

@[simp] theorem overrides_indexHierarchy (m : Nat) :
    g.indexHierarchy.overrides m = g.overrides m := rfl

@[simp] theorem declaredMethod_indexHierarchy (c : Nat) (name descriptor : String) :
    g.indexHierarchy.declaredMethod c name descriptor = g.declaredMethod c name descriptor := rfl

/-! ### The walk down the subclass index -/

/-- One step of the walk: the children not seen yet are marked seen and listed, once each, in
the order they come. -/
theorem foldl_freshChildren (children : List Nat) : ∀ (s f : List Nat), (∀ x ∈ f, x ∈ s) →
    f.Nodup →
    let r := children.foldl (fun (acc : List Nat × List Nat) c =>
      if acc.1.contains c then acc else (c :: acc.1, acc.2 ++ [c])) (s, f)
    (∀ x, x ∈ r.1 ↔ x ∈ s ∨ x ∈ children) ∧ (∀ x, x ∈ r.2 ↔ x ∈ f ∨ (x ∈ children ∧ x ∉ s)) ∧
      r.2.Nodup ∧
      ((∀ x ∈ children, x < g.size) →
        g.unseen (fun _ => 1) r.1 + r.2.length = g.unseen (fun _ => 1) s + f.length) := by
  induction children with
  | nil => intro s f _ hf; exact ⟨by simp, by simp, hf, fun _ => rfl⟩
  | cons c cs ih =>
    intro s f hfs hf
    simp only [List.foldl_cons]
    by_cases hc : c ∈ s
    · -- a child seen before changes nothing
      rw [if_pos (List.contains_iff_mem.mpr hc)]
      obtain ⟨h₁, h₂, h₃, h₄⟩ := ih s f hfs hf
      refine ⟨fun x => ?_, fun x => ?_, h₃, fun hlt => h₄ fun x hx => hlt x (List.mem_cons_of_mem c hx)⟩
      · rw [h₁ x, List.mem_cons]
        grind
      · rw [h₂ x, List.mem_cons]
        grind
    · -- a new child is marked seen and listed
      have hnc : (s.contains c) = false := by
        cases h : s.contains c with
        | false => rfl
        | true => exact absurd (List.contains_iff_mem.mp h) hc
      rw [if_neg (by rw [hnc]; decide)]
      have hf' : (f ++ [c]).Nodup :=
        List.nodup_append.mpr ⟨hf, by simp, fun a ha b hb hab => by
          rw [List.mem_singleton] at hb
          subst hab hb
          exact hc (hfs a ha)⟩
      have hfs' : ∀ x ∈ f ++ [c], x ∈ c :: s := by
        intro x hx
        rcases List.mem_append.mp hx with hx | hx
        · exact List.mem_cons_of_mem c (hfs x hx)
        · rw [List.mem_singleton.mp hx]
          exact List.mem_cons_self
      obtain ⟨h₁, h₂, h₃, h₄⟩ := ih (c :: s) (f ++ [c]) hfs' hf'
      refine ⟨fun x => ?_, fun x => ?_, h₃, fun hlt => ?_⟩
      · rw [h₁ x, List.mem_cons, List.mem_cons]
        grind
      · rw [h₂ x]
        simp only [List.mem_append, List.mem_cons]
        grind
      · have hcs := unseen_cons (g := g) (w := fun _ => 1) hc
        rw [if_pos (hlt c List.mem_cons_self)] at hcs
        have := h₄ fun x hx => hlt x (List.mem_cons_of_mem c hx)
        simp only [List.length_append, List.length_singleton] at this
        omega

theorem freshChildren_spec (children seen : List Nat) :
    (∀ x, x ∈ (freshChildren children seen).1 ↔ x ∈ seen ∨ x ∈ children) ∧
      (∀ x, x ∈ (freshChildren children seen).2 ↔ x ∈ children ∧ x ∉ seen) ∧
      (freshChildren children seen).2.Nodup ∧
      ((∀ x ∈ children, x < g.size) → g.unseen (fun _ => 1) (freshChildren children seen).1 +
        (freshChildren children seen).2.length = g.unseen (fun _ => 1) seen) := by
  obtain ⟨h₁, h₂, h₃, h₄⟩ := foldl_freshChildren (g := g) children seen [] (by simp) List.nodup_nil
  exact ⟨h₁, fun x => (h₂ x).trans (by simp), h₃, h₄⟩

/-- What the walk from `c` keeps: `seen` is the start and the classes listed so far, which are
distinct classes below the start; the queue holds only seen nodes; and every seen node that has
left the queue has all its children seen. -/
structure WalkInv (g : StructuralGraph) (c : Nat) (queue seen out : List Nat) : Prop where
  seen_iff : ∀ x, x ∈ seen ↔ x = c ∨ x ∈ out
  start_not_mem : c ∉ out
  nodup : out.Nodup
  below : ∀ x ∈ out, g.Below c x
  queue_sub : ∀ x ∈ queue, x = c ∨ x ∈ out
  closed : ∀ x, (x = c ∨ x ∈ out) → x ∉ queue → ∀ y ∈ g.subclasses x, y = c ∨ y ∈ out

section Walk

variable {c : Nat}
  (hidx : ∀ p y, y ∈ g.subclasses p → g.DirectSubtype p y)
  (hlt : ∀ p y, y ∈ g.subclasses p → y < g.size)
include hidx hlt

/-- A step of the walk keeps its invariant and takes one off what is left: the queue's length
and the nodes not seen. -/
theorem WalkInv.step {x : Nat} {queue seen out seen' fresh : List Nat}
    (h : WalkInv g c (x :: queue) seen out)
    (hfc : freshChildren (g.subclasses x) seen = (seen', fresh)) :
    WalkInv g c (queue ++ fresh) seen' (out ++ fresh) ∧
      (queue ++ fresh).length + g.unseen (fun _ => 1) seen' + 1 =
        (x :: queue).length + g.unseen (fun _ => 1) seen := by
  obtain ⟨hs₁, hs₂, hs₃, hs₄⟩ := freshChildren_spec (g := g) (g.subclasses x) seen
  rw [hfc] at hs₁ hs₂ hs₃ hs₄
  dsimp only at hs₁ hs₂ hs₃ hs₄
  have hx : x = c ∨ x ∈ out := h.queue_sub x List.mem_cons_self
  have hfresh : ∀ y ∈ fresh, y ∉ seen := fun y hy => ((hs₂ y).mp hy).2
  refine ⟨⟨fun y => ?_, ?_, ?_, ?_, ?_, ?_⟩, ?_⟩
  · rw [hs₁ y, h.seen_iff y, List.mem_append]
    constructor
    · rintro ((h' | h') | h')
      · exact Or.inl h'
      · exact Or.inr (Or.inl h')
      · by_cases hy : y ∈ seen
        · rcases (h.seen_iff y).mp hy with h'' | h''
          · exact Or.inl h''
          · exact Or.inr (Or.inl h'')
        · exact Or.inr (Or.inr ((hs₂ y).mpr ⟨h', hy⟩))
    · rintro (h' | h' | h')
      · exact Or.inl (Or.inl h')
      · exact Or.inl (Or.inr h')
      · exact Or.inr ((hs₂ y).mp h').1
  · intro hc
    rcases List.mem_append.mp hc with hc | hc
    · exact h.start_not_mem hc
    · exact hfresh c hc ((h.seen_iff c).mpr (Or.inl rfl))
  · refine List.nodup_append.mpr ⟨h.nodup, hs₃, fun a ha b hb hab => ?_⟩
    subst hab
    exact hfresh a hb ((h.seen_iff a).mpr (Or.inr ha))
  · -- a fresh child is below the start through the node it came from
    intro y hy
    rcases List.mem_append.mp hy with hy | hy
    · exact h.below y hy
    · have hd : g.DirectSubtype x y := hidx x y ((hs₂ y).mp hy).1
      rcases hx with rfl | hx
      · exact Relation.TransGen.single hd
      · exact (h.below x hx).tail hd
  · intro y hy
    rcases List.mem_append.mp hy with hy | hy
    · rcases h.queue_sub y (List.mem_cons_of_mem x hy) with h' | h'
      · exact Or.inl h'
      · exact Or.inr (List.mem_append_left _ h')
    · exact Or.inr (List.mem_append_right _ hy)
  · -- the node just taken off the queue now has all its children seen
    intro z hz hzq y hy
    have hseen : ∀ w, w ∈ seen → w = c ∨ w ∈ out ++ fresh := fun w hw =>
      ((h.seen_iff w).mp hw).imp_right (List.mem_append_left _)
    by_cases hzx : z = x
    · subst hzx
      by_cases hys : y ∈ seen
      · exact hseen y hys
      · exact Or.inr (List.mem_append_right _ ((hs₂ y).mpr ⟨hy, hys⟩))
    · have hzf : z ∉ fresh := fun h' => hzq (List.mem_append_right _ h')
      have hzo : z = c ∨ z ∈ out := by
        rcases hz with hz | hz
        · exact Or.inl hz
        · rcases List.mem_append.mp hz with hz | hz
          · exact Or.inr hz
          · exact absurd hz hzf
      have hzq' : z ∉ x :: queue := by
        intro h'
        rcases List.mem_cons.mp h' with h' | h'
        · exact hzx h'
        · exact hzq (List.mem_append_left _ h')
      rcases h.closed z hzo hzq' y hy with h' | h'
      · exact Or.inl h'
      · exact Or.inr (List.mem_append_left _ h')
  · have := hs₄ fun y hy => hlt x y hy
    simp only [List.length_append, List.length_cons]
    omega

/-- With fuel for what is left, the walk ends with every seen node closed under children. -/
theorem walkDown_spec : ∀ fuel queue seen out, WalkInv g c queue seen out →
    queue.length + g.unseen (fun _ => 1) seen ≤ fuel →
    WalkInv g c [] (c :: g.walkDown fuel queue seen out) (g.walkDown fuel queue seen out) := by
  intro fuel
  induction fuel with
  | zero =>
    intro queue seen out h hfuel
    have hq : queue = [] := List.eq_nil_of_length_eq_zero (by omega)
    subst hq
    exact ⟨fun x => List.mem_cons, h.start_not_mem, h.nodup, h.below, nofun,
      fun x hx _ => h.closed x hx (List.not_mem_nil)⟩
  | succ fuel ih =>
    intro queue seen out h hfuel
    cases queue with
    | nil =>
      exact ⟨fun x => List.mem_cons, h.start_not_mem, h.nodup, h.below, nofun,
        fun x hx _ => h.closed x hx (List.not_mem_nil)⟩
    | cons x queue =>
      cases hfc : freshChildren (g.subclasses x) seen with
      | mk seen' fresh =>
        obtain ⟨h', hdec⟩ := WalkInv.step hidx hlt h hfc
        rw [walkDown, hfc]
        exact ih _ _ _ h' (by omega)

theorem transitiveSubclasses_inv (c : Nat) :
    WalkInv g c [] (c :: g.transitiveSubclasses c) (g.transitiveSubclasses c) := by
  refine walkDown_spec hidx hlt _ [c] [c] [] ⟨fun x => by simp, nofun, List.nodup_nil, nofun,
    fun x hx => Or.inl (List.mem_singleton.mp hx), fun x hx hxq => ?_⟩ ?_
  · rcases hx with rfl | hx
    · exact absurd List.mem_cons_self hxq
    · cases hx
  · have h₁ := unseen_le_nil (g := g) (fun _ => 1) [c]
    have h₂ := chainWork_nil_le (g := g)
    unfold chainWork at h₂
    simp only [List.length_singleton]
    omega

end Walk

theorem walkInv_indexHierarchy (c : Nat) :
    WalkInv g.indexHierarchy c [] (c :: g.indexHierarchy.transitiveSubclasses c)
      (g.indexHierarchy.transitiveSubclasses c) := by
  have hidx : ∀ p y, y ∈ g.indexHierarchy.subclasses p → g.indexHierarchy.DirectSubtype p y :=
    fun p y hy => mem_directSubclasses.mp ((subclasses_indexHierarchy p).symm ▸ hy)
  exact transitiveSubclasses_inv hidx (fun p y hy => DirectSubtype.lt_size (hidx p y hy)) c

/-- The walk from a node, over the index of the hierarchy, lists exactly the classes below it
other than itself. -/
theorem mem_transitiveSubclasses (c x : Nat) :
    x ∈ g.indexHierarchy.transitiveSubclasses c ↔ x ≠ c ∧ g.Below c x := by
  have hinv := walkInv_indexHierarchy (g := g) c
  constructor
  · intro hx
    exact ⟨fun h => hinv.start_not_mem (h ▸ hx), hinv.below x hx⟩
  · rintro ⟨hne, hb⟩
    -- everything below the start is reached, since the walk ends closed under children
    have hreach : ∀ y, g.Below c y → y = c ∨ y ∈ g.indexHierarchy.transitiveSubclasses c := by
      intro y hy
      induction hy with
      | single hd =>
        refine hinv.closed c (Or.inl rfl) List.not_mem_nil _ ?_
        rw [subclasses_indexHierarchy]
        exact mem_directSubclasses.mpr hd
      | @tail p y _ hd ih =>
        refine hinv.closed p ih List.not_mem_nil y ?_
        rw [subclasses_indexHierarchy]
        exact mem_directSubclasses.mpr hd
    exact (hreach x hb).resolve_left hne.symm.symm

/-! ### Links -/

/-- Whether every class lists exactly the methods it owns, as every graph built by adding
resources does. -/
def ListsOwnMethods (g : StructuralGraph) : Prop :=
  ∀ c node, g.classNode? c = some node → node.methods = g.ownedMethods c

theorem listsOwnMethods_iff : g.ListsOwnMethods ↔
    ∀ c < g.size, ∀ node, g.classNode? c = some node → node.methods = g.ownedMethods c :=
  ⟨fun h c _ => h c, fun h c node hc => h c (lt_size_of_resource? (classNode?_eq_some.mp hc)) node hc⟩

instance : Decidable g.ListsOwnMethods :=
  decidable_of_iff _ listsOwnMethods_iff.symm

/-- Whether no method has an implementation linked yet. -/
def NoOverrides (g : StructuralGraph) : Prop := ∀ m, g.overrides m = []

theorem overrides_of_size_le {m : Nat} (hm : g.size ≤ m) : g.overrides m = [] := by
  unfold overrides methodNode? resource?
  rw [Array.getElem?_eq_none hm]
  rfl

theorem noOverrides_iff : g.NoOverrides ↔ ∀ m < g.size, g.overrides m = [] :=
  ⟨fun h m _ => h m, fun h m => if hm : m < g.size then h m hm else overrides_of_size_le (by omega)⟩

instance : Decidable g.NoOverrides :=
  decidable_of_iff _ noOverrides_iff.symm

theorem WellFormed.listsOwnMethods (hg : g.WellFormed) : g.ListsOwnMethods :=
  fun c node hc => (hg.classShape c node hc).methods_eq

theorem ListsOwnMethods.mem_methods (hown : g.ListsOwnMethods) {c m : Nat} {node : ClassNode}
    (hc : g.classNode? c = some node) :
    m ∈ node.methods ↔ ∃ mn, g.methodNode? m = some mn ∧ mn.owner = c := by
  rw [hown c node hc, ownedMethods, List.mem_filter, List.mem_range]
  constructor
  · rintro ⟨-, hm⟩
    cases hmn : g.methodNode? m with
    | none => rw [hmn] at hm; cases hm
    | some mn =>
      rw [hmn] at hm
      exact ⟨mn, rfl, beq_iff_eq.mp hm⟩
  · rintro ⟨mn, hmn, rfl⟩
    exact ⟨lt_size_of_resource? (methodNode?_eq_some.mp hmn), by simp [hmn]⟩

theorem ListsOwnMethods.declaredMethod_owner (hown : g.ListsOwnMethods) {s x : Nat}
    {name descriptor : String} (h : g.declaredMethod s name descriptor = some x) :
    ∃ xn, g.methodNode? x = some xn ∧ xn.owner = s := by
  unfold declaredMethod at h
  cases hs : g.classNode? s with
  | none => rw [hs] at h; cases h
  | some node =>
    rw [hs] at h
    exact (hown.mem_methods hs).mp (List.mem_of_find?_eq_some h)

/-- The pairs a link run finds: a declared virtual method of a resolved class, and the method of
its name and descriptor that a class the walk reaches from that class declares. -/
theorem mem_overrideLinks {m x : Nat} : (m, x) ∈ g.overrideLinks ↔
    ∃ c node mn, g.classNode? c = some node ∧ node.isResolved = true ∧ m ∈ node.methods ∧
      g.methodNode? m = some mn ∧ mn.declared = true ∧ mn.isVirtual = true ∧
      ∃ s ∈ g.transitiveSubclasses c, g.declaredMethod s mn.name mn.descriptor = some x := by
  unfold overrideLinks classIds
  simp only [List.mem_flatMap, List.mem_filter, List.mem_range]
  constructor
  · rintro ⟨c, -, hp⟩
    unfold classOverrides at hp
    cases hc : g.classNode? c with
    | none => rw [hc] at hp; cases hp
    | some node =>
      rw [hc] at hp
      dsimp only at hp
      by_cases hr : node.isResolved = true
      · rw [if_neg (by simp [hr])] at hp
        obtain ⟨m', hm', hp⟩ := List.mem_flatMap.mp hp
        cases hmn : g.methodNode? m' with
        | none => rw [hmn] at hp; cases hp
        | some mn =>
          rw [hmn] at hp
          dsimp only at hp
          by_cases hv : (mn.declared && mn.isVirtual) = true
          · rw [if_pos hv] at hp
            obtain ⟨s, hs, hx⟩ := List.mem_filterMap.mp hp
            obtain ⟨x', hx', hpair⟩ := Option.map_eq_some_iff.mp hx
            cases hpair
            rw [Bool.and_eq_true] at hv
            exact ⟨c, node, mn, hc, hr, hm', hmn, hv.1, hv.2, s, hs, hx'⟩
          · rw [if_neg hv] at hp
            cases hp
      · rw [if_pos (by simpa using hr)] at hp
        cases hp
  · rintro ⟨c, node, mn, hc, hr, hm, hmn, hd, hv, s, hs, hx⟩
    refine ⟨c, ⟨lt_size_of_resource? (classNode?_eq_some.mp hc), by simp [hc]⟩, ?_⟩
    unfold classOverrides
    rw [hc]
    dsimp only
    rw [if_neg (by simp [hr])]
    refine List.mem_flatMap.mpr ⟨m, hm, ?_⟩
    rw [hmn]
    dsimp only
    rw [if_pos (by simp [hd, hv])]
    exact List.mem_filterMap.mpr ⟨s, hs, by rw [hx]; rfl⟩

/-! ### A link run -/

/-- A method with the implementations linked to it forgotten. -/
def unlinked (m : MethodNode) : MethodNode := { m with implementations := [] }

/-- Two graphs that agree on what a link run reads: the size, the subclass index, the classes,
and the methods up to the implementations linked to them. -/
structure SameLinking (g g' : StructuralGraph) : Prop where
  size_eq : g'.size = g.size
  index_eq : g'.subclassIndex = g.subclassIndex
  classNode_eq : ∀ i, g'.classNode? i = g.classNode? i
  methodNode_eq : ∀ i, (g'.methodNode? i).map unlinked = (g.methodNode? i).map unlinked

namespace SameLinking

variable {g'' : StructuralGraph}

theorem refl (g : StructuralGraph) : SameLinking g g := ⟨rfl, rfl, fun _ => rfl, fun _ => rfl⟩

theorem trans (h₁ : SameLinking g g') (h₂ : SameLinking g' g'') : SameLinking g g'' :=
  ⟨h₂.size_eq.trans h₁.size_eq, h₂.index_eq.trans h₁.index_eq,
    fun i => (h₂.classNode_eq i).trans (h₁.classNode_eq i),
    fun i => (h₂.methodNode_eq i).trans (h₁.methodNode_eq i)⟩

theorem isSome_methodNode? (h : SameLinking g g') (i : Nat) :
    (g'.methodNode? i).isSome = (g.methodNode? i).isSome := by
  have := congrArg Option.isSome (h.methodNode_eq i)
  simpa using this

/-- What a link run reads of a method is the same in both graphs. -/
theorem methodNode_cases (h : SameLinking g g') (i : Nat) :
    (g.methodNode? i = none ∧ g'.methodNode? i = none) ∨
      ∃ x x', g.methodNode? i = some x ∧ g'.methodNode? i = some x' ∧ x'.declared = x.declared ∧
        x'.isVirtual = x.isVirtual ∧ x'.name = x.name ∧ x'.descriptor = x.descriptor := by
  have he := h.methodNode_eq i
  cases hx : g.methodNode? i with
  | none =>
    rw [hx] at he
    exact Or.inl ⟨rfl, Option.map_eq_none_iff.mp he⟩
  | some x =>
    rw [hx] at he
    obtain ⟨x', hx', hu⟩ := Option.map_eq_some_iff.mp he
    have hu : unlinked x' = unlinked x := hu
    -- forgetting the implementations keeps every field a link run reads
    have hd := congrArg MethodNode.declared hu
    have hv := congrArg MethodNode.isVirtual hu
    have hn := congrArg MethodNode.name hu
    have hdesc := congrArg MethodNode.descriptor hu
    exact Or.inr ⟨x, x', rfl, hx', hd, hv, hn, hdesc⟩

theorem walkDown_eq (h : SameLinking g g') :
    ∀ fuel queue seen out, g'.walkDown fuel queue seen out = g.walkDown fuel queue seen out := by
  have hsub : ∀ p, g'.subclasses p = g.subclasses p := fun p => by
    unfold subclasses
    rw [h.index_eq]
  intro fuel
  induction fuel with
  | zero => intro queue seen out; rfl
  | succ fuel ih =>
    intro queue seen out
    cases queue with
    | nil => rfl
    | cons x queue => simp only [walkDown, hsub, ih]

theorem transitiveSubclasses_eq (h : SameLinking g g') (c : Nat) :
    g'.transitiveSubclasses c = g.transitiveSubclasses c := by
  unfold transitiveSubclasses
  rw [h.size_eq, h.walkDown_eq]

theorem declaredMethod_eq (h : SameLinking g g') (c : Nat) (name descriptor : String) :
    g'.declaredMethod c name descriptor = g.declaredMethod c name descriptor := by
  unfold declaredMethod
  rw [h.classNode_eq]
  congr 1
  funext node
  congr 1
  funext m
  rcases h.methodNode_cases m with ⟨hx, hx'⟩ | ⟨x, x', hx, hx', hd, -, hn, hdesc⟩
  · rw [hx, hx']
  · rw [hx, hx']
    simp [hd, hn, hdesc]

/-- A link run finds the same pairs in both graphs. -/
theorem overrideLinks_eq (h : SameLinking g g') : g'.overrideLinks = g.overrideLinks := by
  have hids : g'.classIds = g.classIds := by
    unfold classIds
    rw [h.size_eq]
    simp only [h.classNode_eq]
  unfold overrideLinks
  rw [hids]
  congr 1
  funext c
  unfold classOverrides
  rw [h.classNode_eq, h.transitiveSubclasses_eq]
  split
  · dsimp only
    congr 1
    refine congrArg (List.flatMap · _) (funext fun m => ?_)
    rcases h.methodNode_cases m with ⟨hx, hx'⟩ | ⟨x, x', hx, hx', hd, hv, hn, hdesc⟩
    · rw [hx, hx']
    · rw [hx, hx']
      simp only [hd, hv, hn, hdesc, h.declaredMethod_eq]
  · rfl

end SameLinking

theorem sameLinking_addOverride (a b : Nat) : SameLinking g (g.addOverride a b) where
  size_eq := size_modifyMethod
  index_eq := rfl
  classNode_eq _ := classNode?_modifyMethod
  methodNode_eq i := by
    unfold addOverride
    rw [methodNode?_modifyMethod]
    split
    · rw [Option.map_map]
      congr 1
      funext x
      simp only [Function.comp_apply]
      split <;> rfl
    · rfl

theorem sameLinking_link (g : StructuralGraph) : SameLinking g g.link.1 := by
  unfold link
  dsimp only
  generalize g.overrideLinks = ps
  induction ps generalizing g with
  | nil => exact SameLinking.refl g
  | cons p ps ih => exact (sameLinking_addOverride p.1 p.2).trans (ih _)

/-- Linking an implementation to a method node adds it once to that method's list. -/
theorem overrides_addOverride {a b : Nat} (ha : (g.methodNode? a).isSome) (m : Nat) :
    (∀ x, x ∈ (g.addOverride a b).overrides m ↔ x ∈ g.overrides m ∨ (a = m ∧ x = b)) ∧
      ((g.overrides m).Nodup → ((g.addOverride a b).overrides m).Nodup) := by
  unfold addOverride overrides
  rw [methodNode?_modifyMethod]
  by_cases ham : a = m
  · subst ham
    obtain ⟨x, hx⟩ := Option.isSome_iff_exists.mp ha
    rw [if_pos rfl, hx]
    dsimp only [Option.map_some, Option.getD_some]
    by_cases hb : x.implementations.contains b = true
    · rw [if_pos hb]
      have hb' := List.contains_iff_mem.mp hb
      refine ⟨fun y => ?_, id⟩
      constructor
      · exact Or.inl
      · rintro (h | ⟨-, rfl⟩)
        · exact h
        · exact hb'
    · rw [if_neg hb]
      have hb' : b ∉ x.implementations := fun h => hb (List.contains_iff_mem.mpr h)
      refine ⟨fun y => by simp [List.mem_append], fun hnd => ?_⟩
      exact List.nodup_append.mpr ⟨hnd, by simp, fun u hu v hv huv => by
        rw [List.mem_singleton] at hv
        subst huv hv
        exact hb' hu⟩
  · rw [if_neg ham]
    exact ⟨fun x => by simp [ham], id⟩

/-- Adding pairs one by one links to each method exactly the implementations paired with it,
each once. -/
theorem foldl_addOverride (ps : List (Nat × Nat)) : ∀ g : StructuralGraph,
    (∀ p ∈ ps, (g.methodNode? p.1).isSome) → ∀ m,
    (∀ x, x ∈ (ps.foldl (fun g p => g.addOverride p.1 p.2) g).overrides m ↔
      x ∈ g.overrides m ∨ (m, x) ∈ ps) ∧
    ((g.overrides m).Nodup → ((ps.foldl (fun g p => g.addOverride p.1 p.2) g).overrides m).Nodup) := by
  induction ps with
  | nil => intro g _ m; exact ⟨fun x => by simp, id⟩
  | cons p ps ih =>
    intro g hps m
    have hp := hps p List.mem_cons_self
    have hps' : ∀ q ∈ ps, ((g.addOverride p.1 p.2).methodNode? q.1).isSome := fun q hq =>
      ((sameLinking_addOverride p.1 p.2).isSome_methodNode? q.1).trans
        (hps q (List.mem_cons_of_mem p hq))
    obtain ⟨h₁, h₂⟩ := overrides_addOverride (b := p.2) hp m
    obtain ⟨h₃, h₄⟩ := ih (g.addOverride p.1 p.2) hps' m
    refine ⟨fun x => ?_, fun hnd => h₄ (h₂ hnd)⟩
    rw [List.foldl_cons, h₃ x, h₁ x, List.mem_cons]
    obtain ⟨a, b⟩ := p
    simp only [Prod.mk.injEq]
    grind

theorem link_overrides (m : Nat) :
    (∀ x, x ∈ g.link.1.overrides m ↔ x ∈ g.overrides m ∨ (m, x) ∈ g.overrideLinks) ∧
      ((g.overrides m).Nodup → (g.link.1.overrides m).Nodup) := by
  refine foldl_addOverride g.overrideLinks g (fun ⟨a, b⟩ hp => ?_) m
  obtain ⟨-, -, mn, -, -, -, hmn, -⟩ := mem_overrideLinks.mp hp
  simp [hmn]

/-- Linking again finds the same pairs, so after one or more runs a method has exactly the
implementations one run pairs with it. -/
theorem overrides_iterate_link (hfresh : g.NoOverrides) (n m : Nat) :
    let linked := (fun h : StructuralGraph => h.link.1)^[n + 1] g.indexHierarchy
    (∀ x, x ∈ linked.overrides m ↔ (m, x) ∈ g.indexHierarchy.overrideLinks) ∧
      (linked.overrides m).Nodup := by
  have hsame : ∀ k, SameLinking g.indexHierarchy
      ((fun h : StructuralGraph => h.link.1)^[k] g.indexHierarchy) := by
    intro k
    induction k with
    | zero => exact SameLinking.refl _
    | succ k ih =>
      rw [Function.iterate_succ_apply']
      exact ih.trans (sameLinking_link _)
  induction n with
  | zero =>
    obtain ⟨h₁, h₂⟩ := link_overrides (g := g.indexHierarchy) m
    refine ⟨fun x => ?_, h₂ (by simp [hfresh m])⟩
    simp [h₁ x, hfresh m]
  | succ n ih =>
    dsimp only at ih ⊢
    rw [Function.iterate_succ_apply']
    obtain ⟨h₁, h₂⟩ := link_overrides
      (g := (fun h : StructuralGraph => h.link.1)^[n + 1] g.indexHierarchy) m
    rw [(hsame (n + 1)).overrideLinks_eq] at h₁
    refine ⟨fun x => ?_, h₂ ih.2⟩
    rw [h₁ x, ih.1 x, or_self]

/-! ### Linking is exact -/

/-- Virtual dispatch links are exact. Once the hierarchy is indexed and links are made, once or
more, a method is linked to no implementation twice, and to exactly the methods of its name and
descriptor that classes strictly below its own declare, when it is a declared virtual method of
a resolved class; to nothing otherwise. So a method is never linked to itself, and each
implementation is owned by a class below the method's own. -/
theorem link_overrides_exact (hown : g.ListsOwnMethods) (hfresh : g.NoOverrides) (n m : Nat) :
    let linked := (fun h : StructuralGraph => h.link.1)^[n + 1] g.indexHierarchy
    (linked.overrides m).Nodup ∧
    (∀ x, x ∈ linked.overrides m ↔ ∃ mn node, g.methodNode? m = some mn ∧ mn.declared = true ∧
      mn.isVirtual = true ∧ g.classNode? mn.owner = some node ∧ node.isResolved = true ∧
      ∃ s, s ≠ mn.owner ∧ g.Below mn.owner s ∧ g.declaredMethod s mn.name mn.descriptor = some x) ∧
    ∀ x ∈ linked.overrides m, ∃ mn xn, g.methodNode? m = some mn ∧ g.methodNode? x = some xn ∧
      xn.owner ≠ mn.owner ∧ g.Below mn.owner xn.owner := by
  intro linked
  obtain ⟨hmem, hnd⟩ := overrides_iterate_link hfresh n m
  -- the pairs of one run, read through the owners and the walk's reach
  have hspec : ∀ x, x ∈ linked.overrides m ↔ ∃ mn node, g.methodNode? m = some mn ∧
      mn.declared = true ∧ mn.isVirtual = true ∧ g.classNode? mn.owner = some node ∧
      node.isResolved = true ∧ ∃ s, s ≠ mn.owner ∧ g.Below mn.owner s ∧
      g.declaredMethod s mn.name mn.descriptor = some x := by
    intro x
    rw [hmem x, mem_overrideLinks]
    simp only [classNode?_indexHierarchy, methodNode?_indexHierarchy, declaredMethod_indexHierarchy]
    constructor
    · rintro ⟨c, node, mn, hc, hr, hm, hmn, hd, hv, s, hs, hx⟩
      obtain ⟨mn', hmn', rfl⟩ := (hown.mem_methods hc).mp hm
      rw [hmn] at hmn'
      cases hmn'
      obtain ⟨hne, hb⟩ := (mem_transitiveSubclasses mn.owner s).mp hs
      exact ⟨mn, node, hmn, hd, hv, hc, hr, s, hne, hb, hx⟩
    · rintro ⟨mn, node, hmn, hd, hv, hc, hr, s, hne, hb, hx⟩
      exact ⟨mn.owner, node, mn, hc, hr, (hown.mem_methods hc).mpr ⟨mn, hmn, rfl⟩, hmn, hd, hv,
        s, (mem_transitiveSubclasses mn.owner s).mpr ⟨hne, hb⟩, hx⟩
  refine ⟨hnd, hspec, fun x hx => ?_⟩
  obtain ⟨mn, node, hmn, -, -, -, -, s, hne, hb, hxs⟩ := (hspec x).mp hx
  obtain ⟨xn, hxn, rfl⟩ := hown.declaredMethod_owner hxs
  exact ⟨mn, xn, hmn, hxn, hne, hb⟩

/-- Three resolved classes in a cycle of superclasses, the last also implementing the first,
each declaring `m()V`: the first one's method is linked to the other two and to nothing else. -/
theorem link_overrides_superclassCycle :
    let g : StructuralGraph := { nodes := #[
      .cls ⟨"A", 0x21, some .structureAndCalls, some 2, [], [3], []⟩,
      .cls ⟨"B", 0x21, some .structureAndCalls, some 0, [], [4], []⟩,
      .cls ⟨"C", 0x21, some .structureAndCalls, some 1, [0], [5], []⟩,
      .method ⟨"A#m()V", 0, "m", "()V", 1, true, true, none, []⟩,
      .method ⟨"B#m()V", 1, "m", "()V", 1, true, true, none, []⟩,
      .method ⟨"C#m()V", 2, "m", "()V", 1, true, true, none, []⟩] }
    g.ListsOwnMethods ∧ g.NoOverrides ∧
    let linked := (fun h : StructuralGraph => h.link.1)^[0 + 1] g.indexHierarchy
    (linked.overrides 3).Nodup ∧
    (∀ x, x ∈ linked.overrides 3 ↔ ∃ mn node, g.methodNode? 3 = some mn ∧ mn.declared = true ∧
      mn.isVirtual = true ∧ g.classNode? mn.owner = some node ∧ node.isResolved = true ∧
      ∃ s, s ≠ mn.owner ∧ g.Below mn.owner s ∧ g.declaredMethod s mn.name mn.descriptor = some x) ∧
    ∀ x ∈ linked.overrides 3, ∃ mn xn, g.methodNode? 3 = some mn ∧ g.methodNode? x = some xn ∧
      xn.owner ≠ mn.owner ∧ g.Below mn.owner xn.owner :=
  ⟨by decide, by decide, link_overrides_exact (by decide) (by decide) 0 3⟩

example : ((fun h : StructuralGraph => h.link.1)^[1] ({ nodes := #[
      .cls ⟨"A", 0x21, some .structureAndCalls, some 2, [], [3], []⟩,
      .cls ⟨"B", 0x21, some .structureAndCalls, some 0, [], [4], []⟩,
      .cls ⟨"C", 0x21, some .structureAndCalls, some 1, [0], [5], []⟩,
      .method ⟨"A#m()V", 0, "m", "()V", 1, true, true, none, []⟩,
      .method ⟨"B#m()V", 1, "m", "()V", 1, true, true, none, []⟩,
      .method ⟨"C#m()V", 2, "m", "()V", 1, true, true, none, []⟩] } :
        StructuralGraph).indexHierarchy).overrides 3 = [4, 5] := by
  decide

end ClassMetrics.StructuralGraph
