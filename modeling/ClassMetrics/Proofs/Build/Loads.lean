import ClassMetrics.Proofs.Build.Frozen

/-! Loads at the structure level and the resolution of member references. Each returns the node
of its name, leaves the edges alone and keeps the files of the nodes it found; and when no class
of the graph has a `#` in its name, it leaves what member lookups read of the graph it started
from as it was. The proof follows the mutual recursion of loading, as `run_getClass` does. -/

namespace ClassMetrics

open ClassFile StructuralGraph Load

variable {p p' p'' : Loader} {n : Nat}

namespace Loader

/-- The file kept for a node, if any. -/
def fileOf (p : Loader) (j : Nat) : Option ClassInfo := (p.files.find? (·.1 == j)).map (·.2)

theorem takeFile_fst (p : Loader) (j : Nat) : (p.takeFile j).1 = p.fileOf j := rfl

theorem fileOf_filter (p : Loader) {i j : Nat} (h : j ≠ i) :
    ({ p with files := p.files.filter (·.1 != i) } : Loader).fileOf j = p.fileOf j := by
  unfold fileOf
  dsimp only
  rw [List.find?_filter]
  congr 2
  funext e
  by_cases he : e.1 = j
  · subst he
    simp [h]
  · simp [he]

theorem fileOf_takeFile (p : Loader) {i j : Nat} (h : j ≠ i) :
    (p.takeFile i).2.fileOf j = p.fileOf j :=
  p.fileOf_filter h

theorem fileOf_takeFile_self (p : Loader) (i : Nat) : (p.takeFile i).2.fileOf i = none := by
  unfold takeFile fileOf
  simp [List.find?_filter]

theorem takeFile_of_fileOf_eq_none {p : Loader} {i : Nat} (h : p.fileOf i = none) :
    (p.takeFile i).2 = p := by
  unfold fileOf at h
  unfold takeFile
  rw [Option.map_eq_none_iff, List.find?_eq_none] at h
  rw [List.filter_eq_self.mpr fun e he => by simpa using h e he]

theorem fileOf_store (p : Loader) (i j : Nat) (file : ClassInfo) :
    ({ p with files := (i, file) :: p.files.filter (·.1 != i) } : Loader).fileOf j =
      if j = i then some file else p.fileOf j := by
  by_cases h : j = i
  · subst h
    simp [fileOf]
  · rw [if_neg h, ← p.fileOf_filter h]
    unfold fileOf
    dsimp only
    rw [List.find?_cons_of_neg (by simpa using Ne.symm h)]

/-- `p'` comes after `p` and keeps the files of the nodes below `n`; and, when no class of `p'`
has a `#` in its name, what lookups read below `n` is frozen. -/
structure GrowsAbove (n : Nat) (p p' : Loader) : Prop where
  later : p.Later p'
  frozen : p'.graph.ClassKeysPlain → FrozenBelow n p.graph p'.graph
  files : ∀ j, j < n → p'.fileOf j = p.fileOf j

namespace GrowsAbove

theorem refl (hp : p.Valid) (n : Nat) : GrowsAbove n p p :=
  ⟨Later.refl hp, fun _ => FrozenBelow.refl _ n, fun _ _ => rfl⟩

theorem trans (h₁ : GrowsAbove n p p') (h₂ : GrowsAbove n p' p'') : GrowsAbove n p p'' where
  later := h₁.later.trans h₂.later
  frozen hplain := (h₁.frozen (hplain.of_extends h₂.later.graph)).trans (h₂.frozen hplain)
  files j hj := (h₂.files j hj).trans (h₁.files j hj)

theorem mono {m : Nat} (h : GrowsAbove n p p') (hmn : m ≤ n) : GrowsAbove m p p' where
  later := h.later
  frozen hplain := (h.frozen hplain).mono hmn
  files j hj := h.files j (by omega)

theorem withGraph (hp : p.Valid) {g : StructuralGraph} (hg : g.WellFormed)
    (hfr : FrozenBelow n p.graph g) : GrowsAbove n p { p with graph := g } :=
  ⟨later_withGraph hp hg hfr.grows, fun _ => hfr, fun _ _ => rfl⟩

end GrowsAbove

end Loader

open Loader

theorem links_addResource (g : StructuralGraph) (r : Resource) : (g.addResource r).1.links = g.links := by
  unfold StructuralGraph.addResource
  split
  · rfl
  · split <;> rfl

theorem links_declareMembers (g : StructuralGraph) (owner : Nat) (cls : String) (file : ClassInfo) :
    (g.declareMembers owner cls file).links = g.links := by
  have hfield : ∀ (g : StructuralGraph) (f : FieldInfo), (g.declareField owner cls f).links = g.links := by
    intro g f
    unfold StructuralGraph.declareField
    dsimp only
    split
    · rfl
    · exact links_addResource _ _
  have hmethod : ∀ (g : StructuralGraph) (m : MethodInfo),
      (g.declareMethod owner cls m).links = g.links := by
    intro g m
    unfold StructuralGraph.declareMethod
    dsimp only
    split
    · rfl
    · exact links_addResource _ _
  -- each declaration keeps the edges, and so does a fold of them
  have hfold : ∀ {α : Type} (F : StructuralGraph → α → StructuralGraph),
      (∀ g x, (F g x).links = g.links) → ∀ (xs : List α) (g : StructuralGraph),
        (xs.foldl F g).links = g.links := by
    intro α F hF xs
    induction xs with
    | nil => intro g; rfl
    | cons x xs ih => intro g; rw [List.foldl_cons, ih, hF]
  unfold StructuralGraph.declareMembers
  exact (hfold _ hmethod _ _).trans (hfold _ hfield _ _)

/-! ### Loads at the structure level -/

theorem run_storeFile_files (hp : p.Valid) (i : Nat) (file : ClassInfo) :
    (storeFile i file).Run p fun _ p' =>
      p' = { p with files := (i, file) :: p.files.filter (·.1 != i) } :=
  ⟨⟨rfl, rfl, Extends.refl _, hp.graph, hp.prefetched⟩, fun _ _ => rfl⟩

/-- Loading the supertypes of class `i` by loads that each keep a relation `R` from where they
start: the superclass found is a node, the interfaces are other nodes than `i`, each once, and
`R` holds across the whole. -/
theorem run_loadSupertypes {k i : Nat} {R : Loader → Loader → Prop}
    (hrefl : ∀ q, q.Valid → R q q) (htrans : ∀ {q₁ q₂ q₃}, R q₁ q₂ → R q₂ q₃ → R q₁ q₃)
    (file : ClassInfo)
    (hget : ∀ name q, (file.superClass = some name ∨ name ∈ file.interfaces) → q.Valid → R p q →
      (getClass k name .structureOnly).Run q fun j q' => q'.Names name j ∧ R q q')
    (hp : p.Valid) :
    (loadSupertypes k i file).Run p fun st p' => R p p' ∧
      (∀ s, st.1 = some s → s < p'.graph.size) ∧ (∀ s ∈ st.2, s < p'.graph.size ∧ s ≠ i) ∧
      st.2.Nodup := by
  unfold loadSupertypes
  -- the superclass first
  refine Run.bind (Q := fun sup q => R p q ∧ ∀ s, sup = some s → s < q.graph.size) ?_
    fun sup q h hsq => ?_
  · split
    · rename_i s hs
      exact Run.map ((hget s p (.inl hs) hp (hrefl p hp)).mono fun j q' _ hj =>
        ⟨hj.2, fun s hs => by cases hs; exact hj.1.1⟩)
    · exact Run.pure hp ⟨hrefl p hp, fun s hs => by cases hs⟩
  -- then the interfaces, collected by `interfaces_step`
  obtain ⟨hR, hsup⟩ := hsq
  refine Run.bind (Run.foldlM (I := fun acc (q' : Loader) => R p q' ∧
      (∀ s, sup = some s → s < q'.graph.size) ∧ (∀ s ∈ acc, s < q'.graph.size ∧ s ≠ i) ∧ acc.Nodup)
    _ ?_ [] q h.valid ⟨hR, hsup, by simp, List.nodup_nil⟩) fun ifaces q' h' hI => Run.pure h'.valid hI
  rintro acc q₁ hq₁ ⟨hR₁, hs₁, hacc, hnd⟩ name hname
  refine Run.bind (hget name q₁ (.inr hname) hq₁ hR₁) fun j q₂ hl hj => Run.pure hl.valid ?_
  obtain ⟨hn, hR₂⟩ := hj
  have hgrow : q₁.graph.size ≤ q₂.graph.size := hl.graph.size_le
  obtain ⟨hstep, hstepnd⟩ := interfaces_step
    (fun s h => ⟨Nat.lt_of_lt_of_le (hacc s h).1 hgrow, (hacc s h).2⟩) hnd hn.1
  exact ⟨htrans hR₁ hR₂, fun s h => Nat.lt_of_lt_of_le (hs₁ s h) hgrow, hstep, hstepnd⟩

theorem run_setSupertypes (hp : p.Valid) {i : Nat} (hi : ∃ c, p.graph.classNode? i = some c)
    {sup : Option Nat} {ifaces : List Nat} (hsup : ∀ s, sup = some s → s < p.graph.size)
    (hifs : ∀ s ∈ ifaces, s < p.graph.size ∧ s ≠ i) (hnd : ifaces.Nodup) :
    (modifyGraph (·.modifyClass i fun c =>
        { c with superClass := sup.filter (· != i), interfaces := ifaces })).Run p fun _ p' =>
      p' = { p with graph := p.graph.modifyClass i fun c =>
        { c with superClass := sup.filter (· != i), interfaces := ifaces } } := by
  have hsup' : ∀ s, sup.filter (· != i) = some s → s < p.graph.size ∧ s ≠ i := by
    intro s hs
    obtain ⟨hs, hne⟩ := Option.filter_eq_some_iff.mp hs
    exact ⟨hsup s hs, by simpa using hne⟩
  obtain ⟨c₀, -⟩ := hi
  exact run_modifyGraph hp
    (hp.graph.modifyClass (fun _ => rfl) fun c hc =>
      (hp.graph.classShape i c hc).withSupertypes hsup' hifs hnd)
    (extends_modifyClass fun c _ => ⟨rfl, LevelRises.refl _⟩)

/-- What a load at the structure level leaves: the node of its name, the same edges, and a
loader grown above the graph it started from. -/
def LoadsAbove (name : String) (p : Loader) (i : Nat) (p' : Loader) : Prop :=
  p'.Names name i ∧ p'.graph.links = p.graph.links ∧ GrowsAbove p.graph.size p p'

/-- Inserting a class not yet in the graph, given loads at the same fuel that grow above where
they start: the new class and its members come at the end, and its supertypes are loads. -/
theorem run_insert_structure {k : Nat}
    (hget : ∀ name q, Loader.Valid q → (getClass k name .structureOnly).Run q (LoadsAbove name q))
    (name : String) (file : ClassInfo) (hp : p.Valid) (hfresh : p.graph.get? name = none) :
    (insert k name file).Run p (LoadsAbove name p) := by
  rw [insert_eq]
  -- the class as it is added: bare, at the file's level
  obtain ⟨c₀, hc₀⟩ : ∃ c₀ : ClassNode, c₀ = ⟨name, file.access, some file.level, none, [], [], []⟩ :=
    ⟨_, rfl⟩
  rw [← hc₀]
  have hkey₀ : c₀.key = name := by rw [hc₀]
  refine Run.bind (run_addResource hp (by rw [hc₀]; exact ⟨rfl, rfl, rfl, rfl⟩))
    fun i p₁ h₁ ⟨hi₁, hk₁, hp₁, hidx⟩ => ?_
  have hadd : p.graph.addResource (.cls c₀) =
      ({ p.graph with nodes := p.graph.nodes.push (.cls c₀) }, p.graph.size) :=
    addResource_cls (by rw [hkey₀]; exact hfresh)
  have hi : i = p.graph.size := by rw [hidx, hadd]
  have hk₁' : p₁.graph.key i = name := hk₁.trans hkey₀
  have hc₁ : p₁.graph.classNode? i = some c₀ := by
    rw [hp₁, hidx]
    exact classNode?_addResource_cls (by rw [hkey₀]; exact hfresh)
  refine Run.bind (run_modifyGraph h₁.valid (h₁.valid.graph.declareMembers hi₁ hk₁' file)
    (extends_declareMembers i name file)) fun _ p₂ h₂ hp₂ => ?_
  -- adding the class and declaring its members touch only nodes from the old size on
  have hstart : p₂.graph.links = p.graph.links ∧ GrowsAbove p.graph.size p p₂ := by
    have hgraph : p₂.graph =
        ({ p.graph with nodes := p.graph.nodes.push (.cls c₀) } : StructuralGraph).declareMembers
          i name file := by
      rw [hp₂, hp₁, hadd]
    refine ⟨by rw [hgraph, links_declareMembers], ⟨h₁.trans h₂, fun hplain => ?_, fun j _ => ?_⟩⟩
    · have hplain₀ : p.graph.ClassKeysPlain := hplain.of_extends (h₁.trans h₂).graph
      -- the new class is keyed `name`, so the name is plain
      have hX : Key.Plain name := by
        obtain ⟨c, hc₂, -⟩ := h₂.graph.classNode i _ hc₁
        have := hplain i c hc₂
        rwa [h₂.graph.key_eq hi₁, hk₁'] at this
      rw [hgraph]
      refine (FrozenBelow.push (r := .cls c₀) (fun _ h => nomatch h) (fun _ h => nomatch h)).trans
        (FrozenBelow.declareMembers (Nat.le_of_eq hi.symm) (MembersAbove.of_fresh ?_) file)
      intro j hj y
      rw [key_push]
      split
      · rw [show (Resource.cls c₀).key = name from hkey₀]
        exact Key.ne_append_of_plain hX name y
      · exact hp.graph.key_ne_member_of_fresh hplain₀ hX hfresh j (by simp at hj; omega) y
    · rw [hp₂, hp₁]
      rfl
  have hnames : p₂.Names name i := ⟨Nat.lt_of_lt_of_le hi₁ h₂.graph.size_le,
    (h₂.graph.key_eq hi₁).trans hk₁'⟩
  -- the supertypes are loads that grow above the old size
  have hsize₂ : p.graph.size ≤ p₂.graph.size := (h₁.trans h₂).graph.size_le
  refine Run.bind (run_loadSupertypes (R := fun q q' => q'.graph.links = q.graph.links ∧
      GrowsAbove p.graph.size q q' ∧ q.graph.size ≤ q'.graph.size)
    (fun q hq => ⟨rfl, GrowsAbove.refl hq _, Nat.le_refl _⟩)
    (fun h₁₂ h₂₃ => ⟨h₂₃.1.trans h₁₂.1, h₁₂.2.1.trans h₂₃.2.1, Nat.le_trans h₁₂.2.2 h₂₃.2.2⟩)
    file (fun n q _ hq hR => (hget n q hq).mono fun j q' hl ⟨hn, hlinks, hgrow⟩ =>
      ⟨hn, hlinks, hgrow.mono (Nat.le_trans hsize₂ hR.2.2), hl.graph.size_le⟩) h₂.valid)
    fun st p₃ h₃ ⟨⟨hl₃, hg₃, _⟩, hsup, hifs, hnd⟩ => ?_
  have hcls : ∃ c, p₃.graph.classNode? i = some c := by
    obtain ⟨c, hc', -⟩ := (h₂.trans h₃).graph.classNode i _ hc₁
    exact ⟨c, hc'⟩
  refine Run.bind (run_setSupertypes h₃.valid hcls hsup hifs hnd) fun _ p₄ h₄ hp₄ => ?_
  refine Run.bind (run_storeFile_files h₄.valid i file) fun _ p₅ h₅ hp₅ => Run.pure h₅.valid ?_
  -- recording the supertypes and the file touch only the new class
  have hend : p₅.graph.links = p₃.graph.links ∧ GrowsAbove p.graph.size p₃ p₅ := by
    have hgraph : p₅.graph = p₃.graph.modifyClass i fun c =>
        { c with superClass := st.1.filter (· != i), interfaces := st.2 } := by rw [hp₅, hp₄]
    refine ⟨by rw [hgraph]; rfl, h₄.trans h₅, fun _ => ?_, fun j hj => ?_⟩
    · rw [hgraph]
      exact FrozenBelow.modifyClass fun c _ =>
        ⟨rfl, LevelRises.refl _, fun hlt => absurd hlt (by omega)⟩
    · have hj' : j ≠ i := by omega
      rw [hp₅, fileOf_store, if_neg hj', hp₄]
      rfl
  refine ⟨hnames.later (h₃.trans (h₄.trans h₅)), ?_, ?_⟩
  · rw [hend.1, hl₃, hstart.1]
  · exact hstart.2.trans (hg₃.trans hend.2)

/-- A load at the structure level, at any fuel: a name in the graph returns its node and changes
nothing, since no level is below the lowest; a new name is inserted, or becomes a placeholder. -/
theorem run_getClass_structure (k : Nat) :
    ∀ name p, Loader.Valid p → (getClass k name .structureOnly).Run p (LoadsAbove name p) := by
  -- a placeholder is a new last node with no members
  have hplaceholder : ∀ name (p : Loader), p.Valid →
      (addResource (.cls (ClassNode.unresolved name))).Run p (LoadsAbove name p) := by
    intro name p hp
    refine (run_addResource (r := .cls (ClassNode.unresolved name)) hp ⟨rfl, rfl, rfl, rfl⟩).mono
      fun i p' hl ha => ?_
    obtain ⟨hi, hk, hp', -⟩ := ha
    refine ⟨⟨hi, hk⟩, by rw [hp']; exact links_addResource _ _, hl, fun _ => ?_,
      fun j _ => by rw [hp']; rfl⟩
    rw [hp']
    exact FrozenBelow.addResource (fun _ h => by cases h) (fun _ h => by cases h)
  induction k with
  | zero =>
    intro name p hp
    rw [getClass]
    exact hplaceholder name p hp
  | succ k ih =>
    intro name p hp
    cases hget : p.graph.get? name with
    | some i =>
      -- found: nothing changes
      have hexec := @getClass_structureOnly_exec_of_get? k p name i hget
      refine ⟨by rw [hexec]; exact Later.refl hp, fun j hj => ?_⟩
      rw [hexec] at hj ⊢
      cases hj
      exact ⟨key_of_get? hget, rfl, GrowsAbove.refl hp _⟩
    | none =>
      have hexec := @getClass_exec_of_fresh k p name .structureOnly hget
      unfold Load.Run
      rw [hexec]
      refine Run.bind (run_decode hp name .structureOnly) fun r p₁ h₁ hd => ?_
      obtain ⟨hp₁, -, -⟩ := hd
      -- reading changes only what was decoded ahead
      have hgrow₁ : p₁.graph.links = p.graph.links ∧ GrowsAbove p.graph.size p p₁ := by
        subst hp₁
        exact ⟨rfl, h₁, fun _ => FrozenBelow.refl _ _, fun _ _ => rfl⟩
      have hfresh₁ : p₁.graph.get? name = none := by rw [hp₁]; exact hget
      have hsize : p₁.graph.size = p.graph.size := by rw [hp₁]
      have hcompose : ∀ i p', LoadsAbove name p₁ i p' → LoadsAbove name p i p' :=
        fun i p' h => ⟨h.1, h.2.1.trans hgrow₁.1, hgrow₁.2.trans (hsize ▸ h.2.2)⟩
      cases r with
      | some file =>
        exact (run_insert_structure ih name file h₁.valid hfresh₁).mono fun i p' _ h => hcompose i p' h
      | none =>
        exact (hplaceholder name p₁ h₁.valid).mono fun i p' _ h => hcompose i p' h

end ClassMetrics
