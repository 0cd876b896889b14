import ClassMetrics.Proofs.Build.Failures

/-! How many references a build records, and from where. Loading records none, so the references
of a build are those its wiring records. The wiring of a class records from the nodes under its
key only: from each member's node one reference for each place of the member, to the node the
place leads to, and from the class's node one for each place of its signature and one to each
supertype. The places keep leading where they led as the graph grows, so the weight of the edge
from a member of a class to a node counts the places of the members of its key that lead there in
the graph the build returns. -/

namespace ClassMetrics

open ClassFile StructuralGraph Load Loader

variable {p : Loader}

/-! ### Loading records no reference -/

theorem run_escalate_links (hp : p.Valid) {i : Nat} {name : String} {level : DetailLevel}
    (hi : i < p.graph.size) (hk : p.graph.key i = name)
    (hlevel : ∀ c, p.graph.classNode? i = some c → LevelRises c.level (some level)) :
    (escalate i name level).Run p fun _ p' => p'.graph.links = p.graph.links := by
  refine ⟨(run_escalate hp hi hk hlevel).1, fun _ _ => ?_⟩
  rw [escalate_exec]
  rcases readOutcome name (p.isAnalyzable name) (p.outcome name level) with e | _ | file
  · rfl
  · rfl
  · exact links_declareMembers _ _ _ _

/-- A load at any level records no reference. A class read is inserted, and its supertypes are
loads at the structure level, which record none. -/
theorem run_getClass_links (k : Nat) (name : String) (level : DetailLevel) (hp : p.Valid) :
    (getClass k name level).Run p fun _ p' => p'.graph.links = p.graph.links := by
  have hplaceholder : ∀ q : Loader, q.Valid →
      (addResource (.cls (ClassNode.unresolved name))).Run q fun _ q' => q'.graph.links = q.graph.links :=
    fun q hq => (run_addResource (r := .cls (ClassNode.unresolved name)) hq ⟨rfl, rfl, rfl, rfl⟩).mono
      fun _ _ _ ⟨_, _, hq', _⟩ => by rw [hq']; exact links_addResource _ _
  cases k with
  | zero =>
    rw [getClass]
    exact hplaceholder p hp
  | succ k =>
    rw [getClass]
    refine Run.get_bind ?_
    split
    · rename_i i hi
      split
      · rename_i current hcur
        obtain ⟨c₀, hc₀, hlev₀⟩ := Option.bind_eq_some_iff.mp hcur
        split
        · rename_i hlt
          have hres := classNode?_eq_some.mp hc₀
          refine Run.bind (run_escalate_links hp (lt_size_of_resource? hres) (key_of_get? hi).2
            fun c hc => ?_) fun _ p₁ h₁ hl₁ => Run.pure h₁.valid hl₁
          rw [hc₀] at hc
          cases hc
          rw [hlev₀]
          exact Nat.le_of_lt hlt
        · exact Run.pure hp rfl
      · exact Run.pure hp rfl
    · rename_i hfresh
      refine Run.bind (run_decode hp name level) fun r p₁ h₁ ⟨hp₁, _, _⟩ => ?_
      have hl₁ : p₁.graph.links = p.graph.links := by rw [hp₁]
      have hfresh₁ : p₁.graph.get? name = none := by rw [hp₁]; exact hfresh
      cases r with
      | some file =>
        exact (run_insert_structure (run_getClass_structure k) name file h₁.valid hfresh₁).mono
          fun _ _ _ h => h.2.1.trans hl₁
      | none => exact (hplaceholder p₁ h₁.valid).mono fun _ _ _ h => h.trans hl₁

theorem run_loadPass_links (hp : p.Valid) (fuel : Nat) (names : List String) :
    (Build.loadPass fuel names).Run p fun _ p' => p'.graph.links = p.graph.links :=
  (Run.mapM (Q := fun _ _ _ => True) (I := fun q => q.graph.links = p.graph.links)
    (fun _ _ _ _ h _ => h) names (fun n _ _ hq hlq =>
      (run_getClass_links fuel n .structureAndCalls hq).mono fun _ _ _ h => ⟨trivial, h.trans hlq⟩)
    p hp rfl).mono fun _ _ _ h => h.2

/-! ### The references of one class -/

/-- The references of a list of members, each from the node of its key to where its places lead
in `g`. -/
def membersRefs {α : Type} (g : StructuralGraph) (key : α → String)
    (sites : α → Except FormatError (List Site)) (xs : List α) : List (Nat × Nat) :=
  xs.flatMap fun x => memberEdges g (g.get? (key x)) (sites x)

/-- The references from a class's node to its superclass and to each of its interfaces. -/
def supertypeRefs (g : StructuralGraph) (i : Nat) : List (Nat × Nat) :=
  (((g.classNode? i).bind (·.superClass)).toList ++ ((g.classNode? i).map (·.interfaces)).getD []).map
    (i, ·)

/-- The references the wiring of a class records, at node `i` under the key `cls`, from its file,
read in `g`: from its fields, from its methods, from its node for its signature and to its
supertypes. -/
def wiredRefs (g : StructuralGraph) (cls : String) (i : Nat) (file : ClassInfo) :
    List (Nat × Nat) :=
  membersRefs g (fun f => Key.field cls f.name) (·.sites) file.fields ++
    membersRefs g (fun m => Key.method cls m.name m.descriptor) (·.sites) file.methods ++
    memberEdges g (some i) file.signatureSites ++ supertypeRefs g i

/-- Every member has a node, and its places are read, each leading to a node of `g`. -/
def MembersRead {α : Type} (g : StructuralGraph) (key : α → String)
    (sites : α → Except FormatError (List Site)) (xs : List α) : Prop :=
  ∀ x ∈ xs, (g.get? (key x)).isSome ∧ SitesRead g (sites x)

/-- The places of a class file under the key `cls` are read in `g`, and `i` is a class. -/
structure ClassRead (g : StructuralGraph) (cls : String) (i : Nat) (file : ClassInfo) : Prop where
  fields : MembersRead g (fun f => Key.field cls f.name) (·.sites) file.fields
  methods : MembersRead g (fun m => Key.method cls m.name m.descriptor) (·.sites) file.methods
  signature : SitesRead g file.signatureSites
  node : ∃ c, g.classNode? i = some c

section Refs

variable {g g' : StructuralGraph} {α : Type} {key : α → String}
  {sites : α → Except FormatError (List Site)}

theorem src_of_mem_memberEdges {src : Option Nat} {sites : Except FormatError (List Site)}
    {e : Nat × Nat} (h : e ∈ memberEdges g src sites) : src = some e.1 := by
  unfold memberEdges at h
  split at h
  · obtain ⟨t, -, rfl⟩ := List.mem_map.mp h
    rfl
  · exact absurd h List.not_mem_nil

theorem membersRefs_append (xs ys : List α) :
    membersRefs g key sites (xs ++ ys) = membersRefs g key sites xs ++ membersRefs g key sites ys :=
  List.flatMap_append

theorem src_of_mem_membersRefs {xs : List α} {e : Nat × Nat} (h : e ∈ membersRefs g key sites xs) :
    ∃ x ∈ xs, g.get? (key x) = some e.1 := by
  obtain ⟨x, hx, he⟩ := List.mem_flatMap.mp h
  exact ⟨x, hx, src_of_mem_memberEdges he⟩

theorem lt_of_mem_membersRefs {xs : List α} {e : Nat × Nat} (h : e ∈ membersRefs g key sites xs) :
    e.1 < g.size := by
  obtain ⟨_, _, hx⟩ := src_of_mem_membersRefs h
  exact (key_of_get? hx).1

theorem MembersRead.mono {xs ys : List α} (h : MembersRead g key sites xs) (hys : ∀ y ∈ ys, y ∈ xs) :
    MembersRead g key sites ys := fun y hy => h y (hys y hy)

theorem MembersRead.frozen {xs : List α} (h : MembersRead g key sites xs)
    (hfr : FrozenBelow g.size g g') (hg : g.WellFormed) (hg' : g'.WellFormed) :
    MembersRead g' key sites xs ∧ membersRefs g' key sites xs = membersRefs g key sites xs := by
  have hx : ∀ x ∈ xs, ∃ s, g.get? (key x) = some s ∧ g'.get? (key x) = some s := fun x hx => by
    obtain ⟨s, hs⟩ := Option.isSome_iff_exists.mp (h x hx).1
    exact ⟨s, hs, hfr.grows.get?_eq hs⟩
  refine ⟨fun x hxs => ?_, List.flatMap_congr fun x hxs => ?_⟩
  · obtain ⟨s, -, hs'⟩ := hx x hxs
    exact ⟨by rw [hs']; rfl, ((h x hxs).2.frozen hfr hg hg').1⟩
  · obtain ⟨s, hs, hs'⟩ := hx x hxs
    rw [hs, hs']
    exact ((h x hxs).2.frozen hfr hg hg').2 s

theorem supertypeRefs_frozen {n i : Nat} (hfr : FrozenBelow n g g') (hi : i < n)
    (hc : ∃ c, g.classNode? i = some c) : supertypeRefs g' i = supertypeRefs g i := by
  obtain ⟨c, hc⟩ := hc
  obtain ⟨c', hc', hsup, hifs⟩ := hfr.supertypes i c hi hc
  simp only [supertypeRefs, hc, hc', Option.bind_some, Option.map_some, Option.getD_some, hsup, hifs]

theorem supertypeRefs_of_nodes_eq (h : g'.nodes = g.nodes) (i : Nat) :
    supertypeRefs g' i = supertypeRefs g i := by
  unfold supertypeRefs classNode? resource?
  rw [h]

theorem src_of_mem_supertypeRefs {i : Nat} {e : Nat × Nat} (h : e ∈ supertypeRefs g i) : e.1 = i := by
  obtain ⟨t, -, rfl⟩ := List.mem_map.mp h
  rfl

theorem ClassRead.frozen {cls : String} {i : Nat} {file : ClassInfo} (h : ClassRead g cls i file)
    (hi : i < g.size) (hfr : FrozenBelow g.size g g') (hg : g.WellFormed) (hg' : g'.WellFormed) :
    ClassRead g' cls i file ∧ wiredRefs g' cls i file = wiredRefs g cls i file := by
  obtain ⟨hfields, hfields'⟩ := h.fields.frozen hfr hg hg'
  obtain ⟨hmethods, hmethods'⟩ := h.methods.frozen hfr hg hg'
  obtain ⟨hsig, hsig'⟩ := h.signature.frozen hfr hg hg'
  obtain ⟨c, hc⟩ := h.node
  obtain ⟨c', hc', -⟩ := hfr.supertypes i c hi hc
  refine ⟨⟨hfields, hmethods, hsig, c', hc'⟩, ?_⟩
  unfold wiredRefs
  rw [hfields', hmethods', hsig' i, supertypeRefs_frozen hfr hi ⟨c, hc⟩]

end Refs

/-! ### The wiring of one class -/

/-- `p'` is `p` with the references `es` from node `i` recorded: the nodes are the same, and the
links from each other node that recorded uses only still do. -/
def Loader.AddsFrom (i : Nat) (p : Loader) (es : List (Nat × Nat)) (p' : Loader) : Prop :=
  GrowsAbove p.graph.size p p' ∧ p'.graph.nodes = p.graph.nodes ∧
    (∀ s, s ≠ i → p.graph.UsesFrom s → p'.graph.UsesFrom s) ∧ p.graph.Adds p'.graph es ∧
    ∀ e ∈ es, e.1 = i

namespace Loader.AddsFrom

variable {p' p'' : Loader} {i : Nat} {es es' : List (Nat × Nat)}

theorem refl (hp : p.Valid) (i : Nat) : p.AddsFrom i [] p :=
  ⟨GrowsAbove.refl hp _, rfl, fun _ _ h => h, Adds.nil rfl, fun _ h => absurd h List.not_mem_nil⟩

theorem size_eq (h : p.AddsFrom i es p') : p'.graph.size = p.graph.size := by
  unfold StructuralGraph.size
  rw [h.2.1]

theorem trans (h₁ : p.AddsFrom i es p') (h₂ : p'.AddsFrom i es' p'') (hi : i < p.graph.size) :
    p.AddsFrom i (es ++ es') p'' := by
  obtain ⟨hg₁, hn₁, hu₁, ha₁, he₁⟩ := h₁
  obtain ⟨hg₂, hn₂, hu₂, ha₂, he₂⟩ := h₂
  have hsize : p'.graph.size = p.graph.size := size_eq ⟨hg₁, hn₁, hu₁, ha₁, he₁⟩
  refine ⟨hg₁.trans (hsize ▸ hg₂), hn₂.trans hn₁, fun s hs h => hu₂ s hs (hu₁ s hs h),
    ha₁.trans ha₂ hg₂.later.graph fun e he => (he₁ e he) ▸ hsize ▸ hi, fun e he => ?_⟩
  rcases List.mem_append.mp he with he | he
  · exact he₁ e he
  · exact he₂ e he

end Loader.AddsFrom

section Wiring

variable {fuel : Nat}

theorem run_addUse_from (hp : p.Valid) {s t : Nat} (hs : s < p.graph.size) (ht : t < p.graph.size)
    (u : Usage) : (addUse s t u).Run p fun _ p' => p.AddsFrom s [(s, t)] p' :=
  (run_addUse hp hs ht u).mono fun _ p' _ hp' => by
    subst hp'
    exact ⟨GrowsAbove.withGraph hp (hp.graph.addEdge hs ht u)
        (FrozenBelow.of_nodes_eq (nodes_addEdge _ _ _)), nodes_addEdge _ _ _,
      fun a ha h => h.addEdge fun has => absurd has.symm ha, Adds.addEdge rfl t u,
      fun e he => by rw [List.mem_singleton.mp he]⟩

theorem run_addUses {i : Nat} (u : Usage) :
    ∀ (ts : List Nat) (p : Loader), p.Valid → i < p.graph.size → (∀ t ∈ ts, t < p.graph.size) →
      (ts.forM fun t => addUse i t u).Run p fun _ p' => p.AddsFrom i (ts.map (i, ·)) p'
  | [], p, hp, _, _ => Run.pure hp (AddsFrom.refl hp i)
  | t :: ts, p, hp, hi, hts => by
    rw [List.forM_eq_forM, List.forM_cons]
    refine Run.bind (run_addUse_from hp hi (hts t (List.mem_cons_self ..)) u) fun _ p₁ h₁ hadd₁ => ?_
    have hsize := hadd₁.size_eq
    exact (run_addUses u ts p₁ h₁.valid (hsize ▸ hi) fun t' ht' =>
      hsize ▸ hts t' (List.mem_cons_of_mem _ ht')).mono fun _ _ _ hadd => hadd₁.trans hadd hi

/-- The edges from a class to its supertypes. -/
theorem run_wireSupertypes_refs (hp : p.Valid) {i : Nat} (hi : i < p.graph.size) (u : Usage) :
    (wireSupertypes i u).Run p fun _ p' => p.AddsFrom i (supertypeRefs p.graph i) p' := by
  unfold wireSupertypes
  refine Run.get_bind ?_
  dsimp only
  -- the supertypes of a class are nodes of the graph
  have hsup : ∀ t, (p.graph.classNode? i).bind (·.superClass) = some t → t < p.graph.size := by
    intro t ht
    obtain ⟨c, hc, hct⟩ := Option.bind_eq_some_iff.mp ht
    exact ((hp.graph.classShape i c hc).superClass_lt t hct).1
  have hifs : ∀ t ∈ ((p.graph.classNode? i).map (·.interfaces)).getD [], t < p.graph.size := by
    intro t ht
    cases hc : p.graph.classNode? i with
    | none => rw [hc] at ht; exact absurd ht List.not_mem_nil
    | some c =>
      rw [hc] at ht
      exact ((hp.graph.classShape i c hc).interfaces_lt t ht).1
  -- the interfaces, after the superclass's references `sup`
  have hloop : ∀ (sup : List Nat) (q : Loader), p.AddsFrom i (sup.map (i, ·)) q →
      ((forIn (((p.graph.classNode? i).map ClassNode.interfaces).getD []) PUnit.unit fun t _ => do
          addUse i t u
          pure (ForInStep.yield PUnit.unit)) >>= fun _ => pure ()).Run q fun _ q' =>
        p.AddsFrom i ((sup ++ ((p.graph.classNode? i).map ClassNode.interfaces).getD []).map (i, ·)) q' := by
    intro sup q hq
    rw [bind_pure_unit, forIn_eq_forM (g := fun t => addUse i t u) fun _ => rfl]
    have hsize := hq.size_eq
    refine (run_addUses u _ q hq.1.later.valid (hsize ▸ hi) fun t ht => hsize ▸ hifs t ht).mono
      fun _ _ _ h => ?_
    rw [List.map_append]
    exact hq.trans h hi
  unfold supertypeRefs
  split
  · rename_i t ht
    rw [ht]
    exact Run.bind (run_addUse_from hp hi (hsup t ht) .extends) fun _ q _ hq => hloop [t] q hq
  · rename_i hnone
    rw [hnone]
    exact hloop [] p (AddsFrom.refl hp i)

/-- The edges of a list of members that each have a node: one reference for each place of each,
from the member's node to where the place leads. -/
theorem run_wireMembers_refs {α : Type} (hp : p.Valid) (cls : String) (key : α → String)
    (sites : α → Except FormatError (List Site)) (xs : List α)
    (hkeys : ∀ x ∈ xs, (p.graph.get? (key x)).isSome) :
    (wireMembers fuel cls key sites xs).Run p fun _ p' => GrowsAbove p.graph.size p p' ∧
      (∀ s, p.graph.UsesFrom s → p'.graph.UsesFrom s) ∧ (p'.graph.ClassKeysPlain →
        MembersRead p'.graph key sites xs ∧ p.graph.Adds p'.graph (membersRefs p'.graph key sites xs)) := by
  unfold wireMembers
  -- the members done are read in the loader reached, and their references are recorded
  refine Run.forM_of_step (I := fun done q => GrowsAbove p.graph.size p q ∧
      (∀ s, p.graph.UsesFrom s → q.graph.UsesFrom s) ∧ (q.graph.ClassKeysPlain →
        MembersRead q.graph key sites done ∧ p.graph.Adds q.graph (membersRefs q.graph key sites done)))
    ?_ hp ⟨GrowsAbove.refl hp _, fun _ h => h,
      fun _ => ⟨fun _ h => absurd h List.not_mem_nil, Adds.nil rfl⟩⟩
  rintro done x rest hsplit q hq ⟨hgrow, huses, hrefs⟩
  have hx : x ∈ xs := hsplit ▸ List.mem_append_right _ (List.mem_cons_self ..)
  refine Run.get_bind ?_
  split
  · -- the member has its node still
    rename_i hnone
    obtain ⟨j, hj⟩ := Option.isSome_iff_exists.mp (hkeys x hx)
    rw [hgrow.later.graph.get?_eq hj] at hnone
    cases hnone
  · rename_i src hsrc
    refine Run.bind (run_liftFormat hq cls (sites x)) fun σs q₁ _ hl => ?_
    obtain ⟨hσs, hq₁⟩ := hl
    subst hq₁
    refine (run_edges hq fuel (key_of_get? hsrc).1 σs).mono fun _ q' _ he => ?_
    obtain ⟨ts, hts, hgrow', huses', hadds', -⟩ := he
    refine ⟨hgrow.trans (hgrow'.mono hgrow.later.graph.size_le), fun s h => huses' s (huses s h),
      fun hplain => ?_⟩
    obtain ⟨hread, hadds⟩ := hrefs (hplain.of_extends hgrow'.later.graph)
    obtain ⟨hread', hrefs'⟩ := hread.frozen (hgrow'.frozen hplain) hq.graph hgrow'.later.valid.graph
    have hsrc' : q'.graph.get? (key x) = some src := hgrow'.later.graph.get?_eq hsrc
    have hx' : membersRefs q'.graph key sites [x] = ts.map (src, ·) := by
      simp only [membersRefs, List.flatMap_singleton, hsrc', hσs]
      exact memberEdges_of_map_eq (hts hplain)
    refine ⟨fun y hy => ?_, ?_⟩
    · rcases List.mem_append.mp hy with hy | hy
      · exact hread' y hy
      · rw [List.mem_singleton.mp hy, hsrc', hσs]
        exact ⟨rfl, σs, ts, rfl, hts hplain⟩
    · rw [membersRefs_append, hrefs', hx']
      exact hadds.trans hadds' hgrow'.later.graph fun e he => lt_of_mem_membersRefs he

theorem run_wireSignature_refs (hp : p.Valid) (cls : String) {i : Nat} (hi : i < p.graph.size)
    (file : ClassInfo) :
    (wireSignature fuel cls i file).Run p fun _ p' => GrowsAbove p.graph.size p p' ∧
      (∀ s, p.graph.UsesFrom s → p'.graph.UsesFrom s) ∧ (p'.graph.ClassKeysPlain →
        SitesRead p'.graph file.signatureSites ∧
          p.graph.Adds p'.graph (memberEdges p'.graph (some i) file.signatureSites)) := by
  unfold wireSignature
  refine Run.bind (run_liftFormat hp cls file.signatureSites) fun σs q _ ⟨hσs, hq⟩ => ?_
  subst hq
  refine (run_edges hp fuel hi σs).mono fun _ p' _ ⟨ts, hts, hgrow, huses, hadds, _⟩ =>
    ⟨hgrow, huses, fun hplain => ?_⟩
  rw [hσs, memberEdges_of_map_eq (hts hplain)]
  exact ⟨⟨σs, ts, rfl, hts hplain⟩, hadds⟩

/-- What the wiring of the class at node `i` from `file` leaves: a loader grown above where it
started, in which the links from each other node that recorded uses only still do, and, once no
class has a `#` in its name, the file read under the class's key and its references recorded. -/
def WiresClass (i : Nat) (file : ClassInfo) (p p' : Loader) : Prop :=
  GrowsAbove p.graph.size p p' ∧ (∀ s, s ≠ i → p.graph.UsesFrom s → p'.graph.UsesFrom s) ∧
    (p'.graph.ClassKeysPlain → ClassRead p'.graph (p.graph.key i) i file ∧
      p.graph.Adds p'.graph (wiredRefs p'.graph (p.graph.key i) i file))

/-- Wiring a class whose members all have nodes under its key: its fields, its methods, its
signature and its supertypes, each part read frozen in the graph left at the end. -/
theorem run_wireClass_refs (hp : p.Valid) (cls : String) {i : Nat}
    (hc : ∃ c, p.graph.classNode? i = some c) {file : ClassInfo}
    (hdecl : p.graph.Declares (p.graph.key i) file) :
    (wireClass fuel cls i file).Run p fun _ p' => WiresClass i file p p' := by
  obtain ⟨c, hc⟩ := hc
  have hi : i < p.graph.size := lt_size_of_resource? (classNode?_eq_some.mp hc)
  rw [wireClass_eq]
  refine Run.get_bind ?_
  refine Run.bind (run_wireMembers_refs hp cls _ _ file.fields hdecl.1)
    fun _ p₁ h₁ ⟨hg₁, hu₁, hr₁⟩ => ?_
  refine Run.bind (run_wireMembers_refs h₁.valid cls _ _ file.methods (hdecl.extend h₁.graph).2)
    fun _ p₂ h₂ ⟨hg₂, hu₂, hr₂⟩ => ?_
  have hi₁ : i < p₁.graph.size := Nat.lt_of_lt_of_le hi h₁.graph.size_le
  have hi₂ : i < p₂.graph.size := Nat.lt_of_lt_of_le hi₁ h₂.graph.size_le
  refine Run.bind (run_wireSignature_refs h₂.valid cls hi₂ file) fun _ p₃ h₃ ⟨hg₃, hu₃, hr₃⟩ => ?_
  have hi₃ : i < p₃.graph.size := Nat.lt_of_lt_of_le hi₂ h₃.graph.size_le
  refine (run_wireSupertypes_refs h₃.valid hi₃ _).mono fun _ p₄ h₄ hadd₄ => ?_
  obtain ⟨hg₄, hn₄, hu₄, ha₄, he₄⟩ := hadd₄
  have hle₁ := h₁.graph.size_le
  have hle₂ := h₂.graph.size_le
  have hle₃ := h₃.graph.size_le
  -- each part grows frozen up to the end
  have hgrow₃ : GrowsAbove p₃.graph.size p₃ p₄ := hg₄
  have hgrow₂ : GrowsAbove p₂.graph.size p₂ p₄ := hg₃.trans (hgrow₃.mono hle₃)
  have hgrow₁ : GrowsAbove p₁.graph.size p₁ p₄ := hg₂.trans (hgrow₂.mono hle₂)
  refine ⟨hg₁.trans (hgrow₁.mono hle₁), fun s hs h => hu₄ s hs (hu₃ s (hu₂ s (hu₁ s h))),
    fun hplain => ?_⟩
  have hplain₃ := hplain.of_extends hgrow₃.later.graph
  have hplain₂ := hplain.of_extends hgrow₂.later.graph
  have hplain₁ := hplain.of_extends hgrow₁.later.graph
  have hwf₄ := h₄.valid.graph
  obtain ⟨hread₁, hadds₁⟩ := hr₁ hplain₁
  obtain ⟨hread₂, hadds₂⟩ := hr₂ hplain₂
  obtain ⟨hread₃, hadds₃⟩ := hr₃ hplain₃
  obtain ⟨hf, hf'⟩ := hread₁.frozen (hgrow₁.frozen hplain) h₁.valid.graph hwf₄
  obtain ⟨hm, hm'⟩ := hread₂.frozen (hgrow₂.frozen hplain) h₂.valid.graph hwf₄
  obtain ⟨hs, hs'⟩ := hread₃.frozen (hgrow₃.frozen hplain) h₃.valid.graph hwf₄
  obtain ⟨c₄, hc₄, -⟩ := (h₁.trans (h₂.trans (h₃.trans h₄))).graph.classNode i c hc
  refine ⟨⟨hf, hm, hs, c₄, hc₄⟩, ?_⟩
  unfold wiredRefs
  rw [hf', hm', hs' i, supertypeRefs_of_nodes_eq hn₄]
  -- the references of each part come from nodes there before it
  refine ((hadds₁.trans hadds₂ h₂.graph fun e he => lt_of_mem_membersRefs he).trans hadds₃ h₃.graph
    fun e he => ?_).trans ha₄ h₄.graph fun e he => ?_
  · rcases List.mem_append.mp he with he | he
    · exact Nat.lt_of_lt_of_le (lt_of_mem_membersRefs he) hle₂
    · exact lt_of_mem_membersRefs he
  · rcases List.mem_append.mp he with he | he
    · rcases List.mem_append.mp he with he | he
      · exact Nat.lt_of_lt_of_le (Nat.lt_of_lt_of_le (lt_of_mem_membersRefs he) hle₂) hle₃
      · exact Nat.lt_of_lt_of_le (lt_of_mem_membersRefs he) hle₃
    · rw [← Option.some_inj.mp (src_of_mem_memberEdges he)]
      exact hi₃

end Wiring

/-! ### The wiring pass -/

/-- The references the wiring of a loaded class records from the file `p` keeps for its node, read
in `g`; none when no file is kept. -/
def fileRefs (g : StructuralGraph) (p : Loader) (x : String × Nat) : List (Nat × Nat) :=
  match p.fileOf x.2 with
  | some file => wiredRefs g x.1 x.2 file
  | none => []

section Pass

variable {g g' : StructuralGraph}

theorem lt_of_mem_wiredRefs {cls : String} {i : Nat} {file : ClassInfo} (hi : i < g.size)
    {e : Nat × Nat} (he : e ∈ wiredRefs g cls i file) : e.1 < g.size := by
  simp only [wiredRefs, List.mem_append] at he
  rcases he with ((he | he) | he) | he
  · exact lt_of_mem_membersRefs he
  · exact lt_of_mem_membersRefs he
  · rw [← Option.some_inj.mp (src_of_mem_memberEdges he)]
    exact hi
  · rw [src_of_mem_supertypeRefs he]
    exact hi

theorem lt_of_mem_fileRefs {x : String × Nat} (hx : x.2 < g.size) {e : Nat × Nat}
    (he : e ∈ fileRefs g p x) : e.1 < g.size := by
  unfold fileRefs at he
  split at he
  · exact lt_of_mem_wiredRefs hx he
  · exact absurd he List.not_mem_nil

theorem fileRefs_frozen {x : String × Nat} (hx : x.2 < g.size)
    (hread : ∀ file, p.fileOf x.2 = some file → ClassRead g x.1 x.2 file)
    (hfr : FrozenBelow g.size g g') (hg : g.WellFormed) (hg' : g'.WellFormed) :
    (∀ file, p.fileOf x.2 = some file → ClassRead g' x.1 x.2 file) ∧
      fileRefs g' p x = fileRefs g p x := by
  unfold fileRefs
  cases hf : p.fileOf x.2 with
  | none => exact ⟨(fun _ h => nomatch h), rfl⟩
  | some file =>
    obtain ⟨hr, heq⟩ := (hread file hf).frozen hx hfr hg hg'
    exact ⟨fun _ h => Option.some_inj.mp h ▸ hr, heq⟩

end Pass

section Pass

variable {fuel : Nat}

/-- The wiring pass over classes of distinct names, each at its node, where the file kept for each
is one whose members all have nodes under its name: one more reference for each reference the
wiring of each class records, read in the graph left at the end; and the links from every node
that is not one of those classes that recorded uses only still do. -/
theorem run_wirePass_refs (hp : p.Valid) (names : List String) (loaded : List Nat)
    (hnames : ∀ x ∈ names.zip loaded, p.Names x.1 x.2)
    (hnodup : ((names.zip loaded).map Prod.fst).Nodup)
    (hfiles : ∀ x ∈ names.zip loaded, ∀ file, p.fileOf x.2 = some file →
      (∃ c, p.graph.classNode? x.2 = some c) ∧ p.graph.Declares x.1 file) :
    (Build.wirePass fuel names loaded).Run p fun _ p' =>
      (∀ s, (∀ x ∈ names.zip loaded, x.2 ≠ s) → p.graph.UsesFrom s → p'.graph.UsesFrom s) ∧
      (p'.graph.ClassKeysPlain → (∀ x ∈ names.zip loaded, ∀ file, p.fileOf x.2 = some file →
          ClassRead p'.graph x.1 x.2 file) ∧
        p.graph.Adds p'.graph ((names.zip loaded).flatMap (fileRefs p'.graph p))) := by
  rw [Build.wirePass_eq]
  -- the classes wired so far are read, and their references recorded; the others keep their files
  refine (Run.forM_of_step (I := fun done q => p.Later q ∧
      (q.graph.ClassKeysPlain → FrozenBelow p.graph.size p.graph q.graph) ∧
      (∀ x ∈ names.zip loaded, (∀ y ∈ done, y.2 ≠ x.2) → q.fileOf x.2 = p.fileOf x.2) ∧
      (∀ s, (∀ y ∈ done, y.2 ≠ s) → p.graph.UsesFrom s → q.graph.UsesFrom s) ∧
      (q.graph.ClassKeysPlain → (∀ x ∈ done, ∀ file, p.fileOf x.2 = some file →
          ClassRead q.graph x.1 x.2 file) ∧
        p.graph.Adds q.graph (done.flatMap (fileRefs q.graph p)))) ?_ hp
    ⟨Later.refl hp, fun _ => FrozenBelow.refl _ _, fun _ _ _ => rfl, fun _ _ h => h,
      fun _ => ⟨fun _ h => absurd h List.not_mem_nil, Adds.nil rfl⟩⟩).mono
    fun _ _ _ ⟨_, _, _, huses, hrefs⟩ => ⟨huses, hrefs⟩
  rintro done ⟨n, i⟩ rest hsplit q hq ⟨hlq, hfrq, hfq, huq, hrq⟩
  have hx : (n, i) ∈ names.zip loaded :=
    hsplit ▸ List.mem_append_right done (List.mem_cons_self ..)
  have hn : p.Names n i := hnames _ hx
  have hlt : ∀ x ∈ names.zip loaded, x.2 < q.graph.size := fun x hx =>
    Nat.lt_of_lt_of_le (hnames x hx).1 hlq.graph.size_le
  have hdone : ∀ y ∈ done, y ∈ names.zip loaded := fun y hy =>
    hsplit ▸ List.mem_append_left _ hy
  -- no class wired before has this node, since each name comes once
  have hfresh : ∀ y ∈ done, y.2 ≠ i := by
    intro y hy hyi
    have hne : y.1 ≠ n := by
      rw [← hsplit, List.map_append, List.map_cons] at hnodup
      exact (List.nodup_append.mp hnodup).2.2 y.1 (List.mem_map_of_mem hy) n (List.mem_cons_self ..)
    exact hne ((hnames y (hdone y hy)).2.symm.trans (hyi ▸ hn.2))
  unfold Build.wireOne
  refine Run.bind (Q := fun file (q' : Loader) => q' = (q.takeFile i).2 ∧ file = (q.takeFile i).1)
    ⟨hq.takeFile i, fun _ h => by cases h; exact ⟨rfl, rfl⟩⟩ fun file q₁ h₁ ⟨hq₁, hfile₁⟩ => ?_
  rw [takeFile_fst, hfq _ hx hfresh] at hfile₁
  subst hfile₁ hq₁
  -- the files of the classes still to wire are kept
  have hfiles₁ : ∀ x ∈ names.zip loaded, (∀ y ∈ done ++ [(n, i)], y.2 ≠ x.2) →
      (q.takeFile i).2.fileOf x.2 = p.fileOf x.2 := by
    intro x hx' hne
    rw [fileOf_takeFile q (hne (n, i) (List.mem_append_right _ (List.mem_singleton_self _))).symm]
    exact hfq x hx' fun y hy => hne y (List.mem_append_left _ hy)
  have hout : ∀ s, (∀ y ∈ done ++ [(n, i)], y.2 ≠ s) → (∀ y ∈ done, y.2 ≠ s) ∧ i ≠ s :=
    fun s h => ⟨fun y hy => h y (List.mem_append_left _ hy),
      h (n, i) (List.mem_append_right _ (List.mem_singleton_self _))⟩
  cases hF : p.fileOf i with
  | none =>
    refine Run.pure h₁.valid ⟨hlq.trans h₁, hfrq, hfiles₁, fun s hs h => huq s (hout s hs).1 h,
      fun hplain => ?_⟩
    obtain ⟨hread, hadds⟩ := hrq hplain
    refine ⟨fun x hx' => ?_, ?_⟩
    · rcases List.mem_append.mp hx' with hx' | hx'
      · exact hread x hx'
      · rw [List.mem_singleton.mp hx']
        intro file hfile
        rw [hF] at hfile
        cases hfile
    · rw [List.flatMap_append, List.flatMap_singleton]
      simp only [fileRefs, hF, List.append_nil]
      exact hadds
  | some F =>
    obtain ⟨⟨c, hc⟩, hdecl⟩ := hfiles _ hx F hF
    obtain ⟨c', hc', -⟩ := hlq.graph.classNode i c hc
    have hkey : q.graph.key i = n := (hn.later hlq).2
    have hdecl' : q.graph.Declares (q.graph.key i) F := by
      rw [hkey]
      exact hdecl.extend hlq.graph
    refine (run_wireClass_refs h₁.valid n ⟨c', hc'⟩ hdecl').mono
      fun _ q' hl ⟨hgrow, huses, hwired⟩ => ?_
    have hg₁ : (q.takeFile i).2.graph = q.graph := rfl
    rw [hg₁, hkey] at hwired
    rw [hg₁] at huses
    refine ⟨hlq.trans (h₁.trans hl), fun hplain => ?_, fun x hx' hne => ?_,
      fun s hs h => huses s (hout s hs).2.symm (huq s (hout s hs).1 h), fun hplain => ?_⟩
    · exact (hfrq (hplain.of_extends hgrow.later.graph)).trans
        ((hgrow.frozen hplain).mono hlq.graph.size_le)
    · exact (hgrow.files x.2 (hlt x hx')).trans (hfiles₁ x hx' hne)
    -- the classes wired before read alike at the end; this one adds its references
    obtain ⟨hread, hadds⟩ := hrq (hplain.of_extends hgrow.later.graph)
    obtain ⟨hreadF, haddsF⟩ := hwired hplain
    have htr : ∀ y ∈ done, (∀ file, p.fileOf y.2 = some file → ClassRead q'.graph y.1 y.2 file) ∧
        fileRefs q'.graph p y = fileRefs q.graph p y := fun y hy =>
      fileRefs_frozen (hlt y (hdone y hy)) (hread y hy) (hgrow.frozen hplain) hq.graph hl.valid.graph
    refine ⟨fun y hy => ?_, ?_⟩
    · rcases List.mem_append.mp hy with hy | hy
      · exact (htr y hy).1
      · rw [List.mem_singleton.mp hy]
        intro file hfile
        rw [hF] at hfile
        cases hfile
        exact hreadF
    · have hnew : fileRefs q'.graph p (n, i) = wiredRefs q'.graph n i F := by simp only [fileRefs, hF]
      rw [List.flatMap_append, List.flatMap_singleton, List.flatMap_congr fun y hy => (htr y hy).2, hnew]
      refine hadds.trans haddsF hgrow.later.graph fun e he => ?_
      obtain ⟨y, hy, he⟩ := List.mem_flatMap.mp he
      exact lt_of_mem_fileRefs (hlt y (hdone y hy)) he

end Pass

/-! ### Counting the references from a node -/

/-- From a graph with no link, the references a graph adds are all it holds. -/
theorem StructuralGraph.Adds.of_links_empty {g g' : StructuralGraph}
    {es : List (Nat × Nat)} (h : g.Adds g' es) (hempty : g.links = #[]) (a b : Nat) :
    g'.totalWeight a b ≡ (if g'.Admits a b then es.count (a, b) else 0) [MOD 2 ^ 32] ∧
      (g'.HasLink a b ↔ 0 < if g'.Admits a b then es.count (a, b) else 0) := by
  have h0 : g.totalWeight a b = 0 := by
    unfold totalWeight
    rw [hempty]
    rfl
  have hnone : ¬g.HasLink a b := by simp [HasLink, hempty]
  have hcount : (es.filter fun e => g'.Admits e.1 e.2).count (a, b) =
      if g'.Admits a b then es.count (a, b) else 0 := by
    by_cases hab : g'.Admits a b
    · rw [if_pos hab, List.count_filter (by simpa using hab)]
    · rw [if_neg hab, List.count_eq_zero]
      intro hmem
      exact hab (by simpa using (List.mem_filter.mp hmem).2)
  obtain ⟨hw, hl⟩ := h a b
  rw [h0, Nat.zero_add, hcount] at hw
  rw [hl, or_iff_right hnone, ← List.count_pos_iff, hcount]
  exact ⟨hw, Iff.rfl⟩

section Count

variable {g : StructuralGraph} {α : Type} {key : α → String}
  {sites : α → Except FormatError (List Site)}

theorem count_map_pair (s' s t : Nat) (ts : List Nat) :
    (ts.map (s', ·)).count (s, t) = if s' = s then ts.count t else 0 := by
  induction ts with
  | nil => simp
  | cons x ts ih => by_cases h : s' = s <;> simp_all [List.count_cons]

theorem count_filterMap_target (σs : List Site) (t : Nat) :
    (σs.filterMap (Site.target g)).count t = σs.countP (·.target g = some t) := by
  induction σs with
  | nil => rfl
  | cons σ σs ih =>
    rw [List.filterMap_cons, List.countP_cons, ← ih]
    cases σ.target g with
    | none => simp
    | some x => by_cases hx : x = t <;> simp [hx]

theorem count_memberEdges (s' : Nat) (σs : List Site) (s t : Nat) :
    (memberEdges g (some s') (.ok σs)).count (s, t) =
      if s' = s then σs.countP (·.target g = some t) else 0 := by
  show ((σs.filterMap (Site.target g)).map (s', ·)).count (s, t) = _
  rw [count_map_pair, count_filterMap_target]

/-- The references of members counted from the node of key `k`: one for each place of each member
of that key that leads to `t`. -/
theorem count_membersRefs {k : String} {s : Nat} (hs : g.get? k = some s) :
    ∀ {xs : List α}, MembersRead g key sites xs → ∃ σss,
      (xs.filter fun x => key x == k).mapM sites = .ok σss ∧ ∀ t,
        (membersRefs g key sites xs).count (s, t) = σss.flatten.countP (·.target g = some t)
  | [], _ => ⟨[], rfl, fun _ => rfl⟩
  | x :: xs, hread => by
    obtain ⟨σss, hmap, hcount⟩ :=
      count_membersRefs hs (hread.mono fun y hy => List.mem_cons_of_mem x hy)
    obtain ⟨hsx, σs, ts, hσs, -⟩ := hread x (List.mem_cons_self ..)
    obtain ⟨sx, hsx⟩ := Option.isSome_iff_exists.mp hsx
    have hsplit : membersRefs g key sites (x :: xs) =
        memberEdges g (some sx) (.ok σs) ++ membersRefs g key sites xs := by
      rw [← hsx, ← hσs]
      rfl
    by_cases hk : key x = k
    · -- a member of the key: its node is the key's
      have hsxs : sx = s := by rw [hk, hs] at hsx; exact (Option.some_inj.mp hsx).symm
      refine ⟨σs :: σss, ?_, fun t => ?_⟩
      · rw [List.filter_cons_of_pos (by simpa using hk), List.mapM_cons, hσs, hmap]
        rfl
      · rw [hsplit, List.count_append, count_memberEdges, hcount, if_pos hsxs, List.flatten_cons,
          List.countP_append]
    · have hsxs : sx ≠ s := by
        intro h
        apply hk
        rw [← (key_of_get? hsx).2, ← (key_of_get? hs).2, h]
      refine ⟨σss, ?_, fun t => ?_⟩
      · rw [List.filter_cons_of_neg (by simpa using hk)]
        exact hmap
      · rw [hsplit, List.count_append, count_memberEdges, hcount, if_neg hsxs, Nat.zero_add]

/-- The member keys of a class file under `cls`: its fields', then its methods'. -/
def ClassFile.ClassInfo.memberKeys (file : ClassInfo) (cls : String) : List String :=
  file.fields.map (fun f => Key.field cls f.name) ++
    file.methods.map fun m => Key.method cls m.name m.descriptor

theorem ClassFile.ClassInfo.eq_append_of_mem_memberKeys {file : ClassInfo} {cls k : String}
    (hk : k ∈ file.memberKeys cls) : ∃ y, k = cls ++ "#" ++ y := by
  rcases List.mem_append.mp hk with hk | hk
  · obtain ⟨f, -, rfl⟩ := List.mem_map.mp hk
    exact ⟨f.name, rfl⟩
  · obtain ⟨m, -, rfl⟩ := List.mem_map.mp hk
    exact ⟨m.name ++ m.descriptor, Key.method_eq_append _ _ _⟩

theorem key_of_mem_wiredRefs {cls : String} {i : Nat} {file : ClassInfo} {e : Nat × Nat}
    (he : e ∈ wiredRefs g cls i file) : e.1 = i ∨ ∃ y, g.key e.1 = cls ++ "#" ++ y := by
  simp only [wiredRefs, List.mem_append] at he
  rcases he with ((he | he) | he) | he
  · obtain ⟨f, -, hf⟩ := src_of_mem_membersRefs he
    exact .inr ⟨f.name, (key_of_get? hf).2⟩
  · obtain ⟨m, -, hm⟩ := src_of_mem_membersRefs he
    exact .inr ⟨m.name ++ m.descriptor, (key_of_get? hm).2.trans (Key.method_eq_append _ _ _)⟩
  · exact .inl (Option.some_inj.mp (src_of_mem_memberEdges he)).symm
  · exact .inl (src_of_mem_supertypeRefs he)

section Class

variable {cls : String} {i : Nat} {file : ClassInfo}

/-- The references a class's wiring records from the node of one of its member keys: one for each
place of the members of that key that leads to `t`. -/
theorem count_wiredRefs_member (h : ClassRead g cls i file) (hcls : g.key i = cls)
    (hplain : Key.Plain cls) {k : String} (hk : k ∈ file.memberKeys cls) {s : Nat}
    (hs : g.get? k = some s) : ∃ σs, file.memberSites cls k = .ok σs ∧ ∀ t,
      (wiredRefs g cls i file).count (s, t) = σs.countP (·.target g = some t) := by
  obtain ⟨σssf, hmapf, hcf⟩ := count_membersRefs hs h.fields
  obtain ⟨σssm, hmapm, hcm⟩ := count_membersRefs hs h.methods
  obtain ⟨σsg, tsg, hσsg, -⟩ := h.signature
  -- a member's node is not the class's, whose key holds no `#`
  have hsi : i ≠ s := by
    rintro rfl
    obtain ⟨y, rfl⟩ := ClassFile.ClassInfo.eq_append_of_mem_memberKeys hk
    exact Key.ne_append_of_plain hplain cls y (hcls.symm.trans (key_of_get? hs).2)
  refine ⟨σssf.flatten ++ σssm.flatten, ?_, fun t => ?_⟩
  · unfold ClassFile.ClassInfo.memberSites
    rw [hmapf, hmapm]
    rfl
  · unfold wiredRefs supertypeRefs
    rw [List.count_append, List.count_append, List.count_append, hcf, hcm, hσsg, count_memberEdges,
      if_neg hsi, count_map_pair, if_neg hsi, List.countP_append, Nat.add_zero]

/-- The references a class's wiring records from its own node: one for each place of its
signature that leads to `t`, and one to each of its supertypes. -/
theorem count_wiredRefs_node (h : ClassRead g cls i file) (hcls : g.key i = cls)
    (hplain : Key.Plain cls) : ∃ σs, file.signatureSites = .ok σs ∧ ∀ t,
      (wiredRefs g cls i file).count (i, t) = σs.countP (·.target g = some t) +
        (((g.classNode? i).bind (·.superClass)).toList ++
          ((g.classNode? i).map (·.interfaces)).getD []).count t := by
  obtain ⟨σsg, tsg, hσsg, -⟩ := h.signature
  -- no member's node is the class's
  have hmembers : ∀ {β : Type} {key : β → String} {sites : β → Except FormatError (List Site)}
      {xs : List β} (t : Nat), (∀ x ∈ xs, ∃ y, key x = cls ++ "#" ++ y) →
        (membersRefs g key sites xs).count (i, t) = 0 := by
    intro β key sites xs t hxs
    refine List.count_eq_zero.mpr fun he => ?_
    obtain ⟨x, hx, hsrc⟩ := src_of_mem_membersRefs he
    obtain ⟨y, hy⟩ := hxs x hx
    exact Key.ne_append_of_plain hplain cls y (hcls.symm.trans ((key_of_get? hsrc).2.trans hy))
  refine ⟨σsg, hσsg, fun t => ?_⟩
  unfold wiredRefs supertypeRefs
  rw [List.count_append, List.count_append, List.count_append,
    hmembers t fun f _ => ⟨f.name, rfl⟩,
    hmembers t fun m _ => ⟨m.name ++ m.descriptor, Key.method_eq_append _ _ _⟩,
    hσsg, count_memberEdges, if_pos rfl, count_map_pair, if_pos rfl, Nat.zero_add]

end Class

theorem count_flatMap_of_unique {β γ : Type} [BEq γ] [LawfulBEq γ] {f : β → List γ} {a : γ}
    {x₀ : β} : ∀ {xs : List β}, x₀ ∈ xs → xs.Nodup → (∀ x ∈ xs, x ≠ x₀ → a ∉ f x) →
      (xs.flatMap f).count a = (f x₀).count a
  | [], h, _, _ => absurd h List.not_mem_nil
  | x :: xs, hx₀, hnd, hother => by
    rw [List.flatMap_cons, List.count_append]
    obtain ⟨hx, hnd'⟩ := List.nodup_cons.mp hnd
    rcases List.mem_cons.mp hx₀ with rfl | hx₀'
    · have hrest : (xs.flatMap f).count a = 0 := List.count_eq_zero.mpr fun hmem => by
        obtain ⟨y, hy, hay⟩ := List.mem_flatMap.mp hmem
        exact hother y (List.mem_cons_of_mem _ hy) (fun h => hx (h ▸ hy)) hay
      rw [hrest, Nat.add_zero]
    · have hne : x ≠ x₀ := fun h => hx (h ▸ hx₀')
      rw [List.count_eq_zero.mpr (hother x (List.mem_cons_self ..) hne), Nat.zero_add]
      exact count_flatMap_of_unique hx₀' hnd' fun y hy => hother y (List.mem_cons_of_mem _ hy)

end Count

/-! ### The references of a build -/

/-- What a build leaves of class `n` at node `i`, wired from `file`: the file read under the
class's key, and the weight from the class's node or the node of one of its member keys counting
the references its wiring records. -/
structure Wired (g : StructuralGraph) (n : String) (i : Nat) (file : ClassInfo) : Prop where
  get : g.get? n = some i
  node : ∃ c, g.classNode? i = some c
  read : ClassRead g n i file
  weights : ∀ a t, (g.key a = n ∨ ∃ z, g.key a = n ++ "#" ++ z) →
    g.Records a t (if g.Admits a t then (wiredRefs g n i file).count (a, t) else 0)

theorem not_mem_fileRefs {g : StructuralGraph} {x : String × Nat} (hkey : g.key x.2 = x.1)
    (hx : Key.Plain x.1) {n : String} (hn : Key.Plain n) (hne : x.1 ≠ n) {a t : Nat}
    (ha : g.key a = n ∨ ∃ z, g.key a = n ++ "#" ++ z) : (a, t) ∉ fileRefs g p x := by
  intro he
  unfold fileRefs at he
  split at he
  · rcases key_of_mem_wiredRefs he with hax | ⟨y, hy⟩
    · -- the class's own node is keyed by its name
      have hxa : g.key a = x.1 := (congrArg g.key hax).trans hkey
      rcases ha with ha | ⟨z, hz⟩
      · exact hne (hxa.symm.trans ha)
      · exact Key.ne_append_of_plain hx n z (hxa.symm.trans hz)
    · rcases ha with ha | ⟨z, hz⟩
      · exact Key.ne_append_of_plain hn x.1 y (ha.symm.trans hy)
      · exact Key.append_ne_append hx hn hne y z (hy.symm.trans hz)
  · exact absurd he List.not_mem_nil

/-- What the load pass of a build leaves, from a sound loader with nothing resolved, no file kept
and no reference, over names to analyse that hold no `#`: each class loaded with bodies under its
name, with the file its bytes read to kept and its members declared, and no reference yet. -/
theorem run_loadPass_kept (hp : p.Valid) (hs : p.Sound) (hst : p.Stocked fun _ => False)
    (names : List String) (hA : ∀ n ∈ names, p.isAnalyzable n = true)
    (hplain : ∀ n ∈ names, Key.Plain n) :
    (Build.loadPass p.fuel names).Run p fun loaded p₁ =>
      names.length = loaded.length ∧ p₁.SoundFor p.fuel ∧ p₁.graph.links = p.graph.links ∧
      ∀ x ∈ names.zip loaded, p₁.Names x.1 x.2 ∧ ∃ c bytes F,
        p₁.graph.classNode? x.2 = some c ∧ c.level = some .structureAndCalls ∧
        p.source.resolve x.1 = some bytes ∧ ClassInfo.decode bytes .structureAndCalls = .ok F ∧
        p₁.fileOf x.2 = some F ∧ p₁.graph.Declares x.1 F := by
  refine (((run_loadPass_bodies hp hs (unloaded_succ_lt_fuel p) names hA).and
    (runExplained_loadPass hp hst p.fuel names).1).and (run_loadPass_links hp p.fuel names)).mono
    fun loaded p₁ h₁ ⟨⟨⟨hloaded, hs₁'⟩, _, hs₁⟩, hl₁⟩ =>
      ⟨hloaded.length_eq, hs₁', hl₁, fun x hx => ?_⟩
  -- each class is loaded with bodies, and the file its bytes read to is kept, members declared
  have hload := (List.forall₂_zip hloaded hx)
  obtain ⟨c, -, hc, hkey, hlev⟩ := hload.classNode h₁.valid (hplain x.1 (List.of_mem_zip hx).1)
  obtain ⟨bytes, F, hb, hd, hF⟩ := hs₁.classes x.2 c _ hc hlev
  have hfile := hF rfl id
  obtain ⟨c', -, hc', -, -, hdecl⟩ := hs₁.files x.2 F hfile
  rw [hc] at hc'
  cases hc'
  rw [hkey, h₁.source_eq] at hb
  rw [hkey] at hdecl
  exact ⟨hload.1, c, bytes, F, hc, hlev, hb, hd, hfile, hdecl⟩

/-- The passes of a build, from a sound loader with nothing resolved, no file kept and no
reference, over names to analyse that are distinct and hold no `#`: the links from every node
that is not a class record uses only, and each class is read with bodies and wired from the file
its bytes read to. -/
theorem run_build_refs (hp : p.Valid) (hs : p.Sound) (hst : p.Stocked fun _ => False)
    (hempty : p.graph.links = #[]) (names : List String)
    (hA : ∀ n ∈ names, p.isAnalyzable n = true) (hplain : ∀ n ∈ names, Key.Plain n)
    (hnodup : names.Nodup) :
    (Build.run names).Run p fun _ p' => (∀ s, p'.graph.classNode? s = none → p'.graph.UsesFrom s) ∧
      (p'.graph.ClassKeysPlain → ∀ n ∈ names, ∃ i bytes file, p.source.resolve n = some bytes ∧
        ClassInfo.decode bytes .structureAndCalls = .ok file ∧ Wired p'.graph n i file) := by
  unfold Build.run
  refine Run.get_bind ?_
  refine Run.bind (run_loadPass_kept hp hs hst names hA hplain)
    fun loaded p₁ h₁ ⟨hlen, _, hl₁, hclass⟩ => ?_
  have hfst : (names.zip loaded).map Prod.fst = names := List.map_fst_zip (Nat.le_of_eq hlen)
  have hnodup' : ((names.zip loaded).map Prod.fst).Nodup := by rw [hfst]; exact hnodup
  refine (run_wirePass_refs h₁.valid names loaded (fun x hx => (hclass x hx).1) hnodup'
    fun x hx F hF => ?_).mono fun _ p' hl ⟨huses, hrefs⟩ => ⟨fun s hs => ?_, fun hplain' n hn => ?_⟩
  · obtain ⟨-, c, -, F', hc, -, -, -, hF', hdecl⟩ := hclass x hx
    rw [hF] at hF'
    cases hF'
    exact ⟨⟨c, hc⟩, hdecl⟩
  · -- a node that is no class is none of the classes wired, and no link came before
    refine huses s (fun x hx hxs => ?_) fun l hlink => ?_
    · obtain ⟨-, c, -, -, hc, -⟩ := hclass x hx
      obtain ⟨c', hc', -⟩ := hl.graph.classNode x.2 c hc
      rw [hxs, hs] at hc'
      cases hc'
    · rw [hl₁, hempty] at hlink
      exact absurd hlink List.not_mem_nil
  · have hn' : n ∈ (names.zip loaded).map Prod.fst := by rw [hfst]; exact hn
    obtain ⟨⟨n', i⟩, hx, hn'⟩ := List.mem_map.mp hn'
    dsimp only at hn'
    subst hn'
    obtain ⟨hnames, c, bytes, F, hc, -, hb, hd, hF, -⟩ := hclass _ hx
    obtain ⟨hread, hadds⟩ := hrefs hplain'
    obtain ⟨c', hc', -⟩ := hl.graph.classNode i c hc
    refine ⟨i, bytes, F, hb, hd, hl.valid.graph.get?_eq_some_iff.mpr (hnames.later hl), ⟨c', hc'⟩,
      hread _ hx F hF, fun a t ha => ?_⟩
    obtain ⟨hw, hlink⟩ := hadds.of_links_empty (hl₁.trans hempty) a t
    -- only this class's wiring records from its nodes
    have hother : ∀ y ∈ names.zip loaded, y ≠ (n', i) → (a, t) ∉ fileRefs p'.graph p₁ y := by
      intro y hy hne
      have hyn : y.1 ≠ n' := fun h => hne (List.inj_on_of_nodup_map hnodup' hy hx h)
      exact not_mem_fileRefs ((hclass y hy).1.later hl).2 (hplain y.1 (List.of_mem_zip hy).1)
        (hplain n' hn) hyn ha
    have hown : fileRefs p'.graph p₁ (n', i) = wiredRefs p'.graph n' i F := by
      simp only [fileRefs, hF]
    rw [count_flatMap_of_unique hx (List.Nodup.of_map Prod.fst hnodup') hother, hown] at hw hlink
    exact hl.valid.graph.records hw hlink

/-! ### The edges from the nodes of a class -/

instance (g : StructuralGraph) : Decidable g.ClassKeysPlain :=
  decidable_of_iff (∀ j < g.size, ∀ c ∈ g.classNode? j, Key.Plain (g.key j))
    ⟨fun h j c hc => h j (lt_size_of_resource? (classNode?_eq_some.mp hc)) c hc,
      fun h j _ c hc => h j c hc⟩

/-- The edges a graph has from the nodes of class `cls`, read from its file: from the node of each
member key, one reference for each place of the members of that key to the node it leads to, all
uses; from the class's node, one to its superclass, one to each interface and one for each place
of its signature. A pair the graph refuses, a node to itself or to its own class, holds
nothing. -/
structure ClassEdges (g : StructuralGraph) (cls : String) (file : ClassInfo) : Prop where
  members : ∀ k ∈ file.memberKeys cls, ∃ s σs, g.get? k = some s ∧
    file.memberSites cls k = .ok σs ∧ g.UsesFrom s ∧
      ∀ t, g.Records s t (if g.Admits s t then σs.countP (·.target g = some t) else 0)
  node : ∃ i c σs, g.get? cls = some i ∧ g.classNode? i = some c ∧
    file.signatureSites = .ok σs ∧ ∀ t, g.Records i t
      ((if c.superClass = some t then 1 else 0) + (if t ∈ c.interfaces then 1 else 0) +
        if g.Admits i t then σs.countP (·.target g = some t) else 0)

section Edges

variable {g : StructuralGraph} {n : String} {i : Nat} {file : ClassInfo}

theorem count_toList {o : Option Nat} (t : Nat) : o.toList.count t = if o = some t then 1 else 0 := by
  cases o with
  | none => simp
  | some x => by_cases h : x = t <;> simp [h]

/-- The edges from the node of a class wired from its file. -/
theorem Wired.classEdges (h : Wired g n i file) (hg : g.WellFormed) (hplain : Key.Plain n)
    (hkeys : g.ClassKeysPlain) (huses : ∀ s, g.classNode? s = none → g.UsesFrom s) :
    ClassEdges g n file := by
  have hkey : g.key i = n := (key_of_get? h.get).2
  obtain ⟨c, hc⟩ := h.node
  refine ⟨fun k hk => ?_, ?_⟩
  · -- a member key has a node, which is no class
    have hsome : (g.get? k).isSome := by
      rcases List.mem_append.mp hk with hk | hk
      · obtain ⟨f, hf, rfl⟩ := List.mem_map.mp hk
        exact (h.read.fields f hf).1
      · obtain ⟨m, hm, rfl⟩ := List.mem_map.mp hk
        exact (h.read.methods m hm).1
    obtain ⟨s, hs⟩ := Option.isSome_iff_exists.mp hsome
    obtain ⟨y, rfl⟩ := ClassFile.ClassInfo.eq_append_of_mem_memberKeys hk
    have hks : g.key s = n ++ "#" ++ y := (key_of_get? hs).2
    obtain ⟨σs, hσs, hcount⟩ := count_wiredRefs_member h.read hkey hplain hk hs
    refine ⟨s, σs, hs, hσs, huses s ?_, fun t => ?_⟩
    · cases hcs : g.classNode? s with
      | none => rfl
      | some cs => exact absurd hks (Key.ne_append_of_plain (hkeys s cs hcs) n y)
    · rw [← hcount t]
      exact h.weights s t (.inr ⟨y, hks⟩)
  · obtain ⟨σs, hσs, hcount⟩ := count_wiredRefs_node h.read hkey hplain
    refine ⟨i, c, σs, h.get, hc, hσs, fun t => ?_⟩
    have hshape := hg.classShape i c hc
    have hw := h.weights i t (.inl hkey)
    rw [hcount, hc, Option.bind_some, Option.map_some, Option.getD_some, List.count_append,
      count_toList, hshape.interfaces_nodup.count] at hw
    convert hw using 1
    by_cases hadm : g.Admits i t
    · rw [if_pos hadm, if_pos hadm]
      omega
    · -- a class refuses only a reference to itself, which is none of its supertypes
      have hti : t = i := by
        have howner : g.ownerClass i = i := ownerClass_of_resource? (classNode?_eq_some.mp hc)
        by_contra hne
        exact hadm ⟨fun h => hne h.symm, by rw [howner]; exact fun h => hne h.symm⟩
      subst hti
      have hsup : c.superClass ≠ some t := fun h => (hshape.superClass_lt t h).2 rfl
      have hif : t ∉ c.interfaces := fun h => (hshape.interfaces_lt t h).2 rfl
      rw [if_neg hadm, if_neg hadm, if_neg hsup, if_neg hif]

theorem Site.target_of_nodes_eq {g' : StructuralGraph} (h : g'.nodes = g.nodes) (hg : g.WellFormed)
    (hg' : g'.WellFormed) (σ : Site) : σ.target g' = σ.target g := by
  cases ht : σ.target g with
  | some t => exact Site.target_frozen (FrozenBelow.of_nodes_eq h) hg hg' ht
  | none =>
    cases ht' : σ.target g' with
    | none => rfl
    | some t =>
      rw [Site.target_frozen (FrozenBelow.of_nodes_eq h.symm) hg' hg ht'] at ht
      cases ht

theorem ClassEdges.indexHierarchy (h : ClassEdges g n file) (hg : g.WellFormed) :
    ClassEdges g.indexHierarchy n file := by
  have htarget : ∀ σ : Site, σ.target g.indexHierarchy = σ.target g :=
    Site.target_of_nodes_eq rfl hg hg.indexHierarchy
  obtain ⟨i, c, σs, hi, hc, hσs, hw⟩ := h.node
  refine ⟨fun k hk => ?_, i, c, σs, hi, hc, hσs, fun t => ?_⟩
  · obtain ⟨s, σs', hs, hσs', hu, hw'⟩ := h.members k hk
    refine ⟨s, σs', hs, hσs', hu, fun t => ?_⟩
    simp only [htarget]
    exact hw' t
  · simp only [htarget]
    exact hw t

end Edges

/-- **The edges of a build count the places of each class analysed.** For names to analyse that
hold no `#`, a build that succeeds with a graph in which no class has a `#` in its name has read,
for each class to analyse, the file its bytes read to with bodies; and from the class's nodes the
graph has, to each node, an edge whose weight counts the places of that file: from the node of
each member key, one for each place of the members of that key that leads there, all uses; from
the class's node, one for its superclass, one for each interface and one for each place of its
signature that leads there. A pair the graph refuses weighs nothing. -/
theorem buildGraph_classEdges {source : ClassSource} {analyzable : List String}
    {g : StructuralGraph} (h : buildGraph source analyzable = .ok g)
    (hplain : ∀ n ∈ analyzable, Key.Plain n) (hkeys : g.ClassKeysPlain) :
    ∀ n ∈ analyzable, ∃ bytes file, source.resolve n = some bytes ∧
      ClassInfo.decode bytes .structureAndCalls = .ok file ∧ ClassEdges g n file := by
  obtain ⟨p, hrun, rfl⟩ := buildGraph_eq_ok h
  have hmem := sortedDistinct_spec analyzable
  have hstart := Build.start_later source (sortedDistinct analyzable)
  have hA : ∀ n ∈ sortedDistinct analyzable,
      (Build.start source (sortedDistinct analyzable)).isAnalyzable n = true := fun n hn => by
    rw [Build.isAnalyzable_start]
    exact List.contains_iff_mem.mpr hn
  have hempty : (Build.start source (sortedDistinct analyzable)).graph.links = #[] := by
    unfold Build.start
    rw [(Loader.prefetch_spec _ _ _).2.1]
  obtain ⟨hl, hrefs⟩ := run_build_refs hstart.valid (Build.start_sound source _)
    (Build.start_stocked source _ _) hempty _ hA (fun n hn => hplain n ((hmem.1 n).mp hn)) hmem.2
  rw [hrun] at hl hrefs
  obtain ⟨huses, hclasses⟩ := hrefs () rfl
  intro n hn
  obtain ⟨i, bytes, file, hb, hd, hw⟩ := hclasses hkeys n ((hmem.1 n).mpr hn)
  rw [hstart.source_eq] at hb
  exact ⟨bytes, file, hb, hd,
    (hw.classEdges hl.valid.graph (hplain n hn) hkeys huses).indexHierarchy hl.valid.graph⟩

/-- A class `C` declaring two fields named `a`, of types `X` and `Y`, analysed alone. -/
theorem classEdges_fieldsOfOneName :
    let bytes : List UInt8 :=
      [0xca, 0xfe, 0xba, 0xbe, 0x00, 0x00, 0x00, 0x34, 0x00, 0x06, 0x01, 0x00, 0x01, 0x43,
       0x07, 0x00, 0x01, 0x01, 0x00, 0x01, 0x61, 0x01, 0x00, 0x03, 0x4c, 0x58, 0x3b, 0x01,
       0x00, 0x03, 0x4c, 0x59, 0x3b, 0x00, 0x21, 0x00, 0x02, 0x00, 0x00, 0x00, 0x00, 0x00,
       0x02, 0x00, 0x01, 0x00, 0x03, 0x00, 0x04, 0x00, 0x00, 0x00, 0x01, 0x00, 0x03, 0x00,
       0x05, 0x00, 0x00, 0x00, 0x00, 0x00, 0x00]
    let classes : ClassSource := [.table [("C", bytes)]]
    (∀ n ∈ ["C"], Key.Plain n) ∧ ∃ g, buildGraph classes ["C"] = .ok g ∧ g.ClassKeysPlain ∧
      ∀ n ∈ ["C"], ∃ bytes file, classes.resolve n = some bytes ∧
        ClassInfo.decode bytes .structureAndCalls = .ok file ∧ ClassEdges g n file := by
  intro bytes classes
  have hplain : ∀ n ∈ ["C"], Key.Plain n := by decide
  have hok : ((buildGraph classes ["C"]).toOption.map fun g => decide g.ClassKeysPlain) =
      some true := by cbv
  cases hb : buildGraph classes ["C"] with
  | error e => rw [hb] at hok; cases hok
  | ok g =>
    have hkeys : g.ClassKeysPlain := by simpa [hb, Except.toOption] using hok
    exact ⟨hplain, g, rfl, hkeys, buildGraph_classEdges hb hplain hkeys⟩

/-- The same class: the two fields share the node `C#a`, which keeps the last descriptor, naming
`Y` only; yet the node has an edge of weight one to `X`, from the first field. -/
theorem fieldsOfOneName_edgeToEach :
    let bytes : List UInt8 :=
      [0xca, 0xfe, 0xba, 0xbe, 0x00, 0x00, 0x00, 0x34, 0x00, 0x06, 0x01, 0x00, 0x01, 0x43,
       0x07, 0x00, 0x01, 0x01, 0x00, 0x01, 0x61, 0x01, 0x00, 0x03, 0x4c, 0x58, 0x3b, 0x01,
       0x00, 0x03, 0x4c, 0x59, 0x3b, 0x00, 0x21, 0x00, 0x02, 0x00, 0x00, 0x00, 0x00, 0x00,
       0x02, 0x00, 0x01, 0x00, 0x03, 0x00, 0x04, 0x00, 0x00, 0x00, 0x01, 0x00, 0x03, 0x00,
       0x05, 0x00, 0x00, 0x00, 0x00, 0x00, 0x00]
    let classes : ClassSource := [.table [("C", bytes)]]
    ∃ g s f x, buildGraph classes ["C"] = .ok g ∧ g.get? "C#a" = some s ∧
      g.fieldNode? s = some f ∧ f.descriptor = "LY;" ∧ g.get? "X" = some x ∧ g.weight s x = 1 := by
  intro bytes classes
  have hok : ((buildGraph classes ["C"]).toOption.map fun g =>
      (g.get? "C#a", (g.get? "C#a").bind g.fieldNode? |>.map (·.descriptor), g.get? "X",
        g.weight 1 2)) = some (some 1, some "LY;", some 2, 1) := by cbv
  cases hb : buildGraph classes ["C"] with
  | error e => rw [hb] at hok; cases hok
  | ok g =>
    simp only [hb, Except.toOption, Option.map_some, Option.some.injEq, Prod.mk.injEq] at hok
    obtain ⟨hs, hf, hx, hw⟩ := hok
    rw [hs, Option.bind_some] at hf
    obtain ⟨f, hf, hd⟩ := Option.map_eq_some_iff.mp hf
    exact ⟨g, 1, f, 2, rfl, hs, hf, hd, hx, hw⟩

end ClassMetrics
