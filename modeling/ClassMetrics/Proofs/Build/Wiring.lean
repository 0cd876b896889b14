import ClassMetrics.Proofs.Build.Sites

/-! The wiring of one class file. Its fields, then its methods, record a use from the member's
node to where each of their places leads; the class records one from its own node for each place
of its signature, then one to its superclass and one to each interface. Counted together, the
wiring adds one reference for each of these pairs that the graph admits, and every source is the
class or a member under its key. When every member already has its node, the pairs are exactly
those the file's places lead to in the graph left at the end. -/

namespace ClassMetrics

open ClassFile StructuralGraph Load Loader

/-! ### The wiring in three parts -/

/-- The edges of the places of a list of members, each from its member's node under `key`; a
member with no node records nothing. -/
def wireMembers {α : Type} (fuel : Nat) (cls : String) (key : α → String)
    (sites : α → Except FormatError (List Site)) (xs : List α) : Load Unit :=
  xs.forM fun x => do
    match (← get).graph.get? (key x) with
    | none => pure ()
    | some src => (← liftFormat cls (sites x)).forM (Site.edge fuel src)

/-- The edges of the places of a class's own signature, from its node. -/
def wireSignature (fuel : Nat) (cls : String) (i : Nat) (file : ClassInfo) : Load Unit := do
  (← liftFormat cls file.signatureSites).forM (Site.edge fuel i)

theorem liftFormat_map {α β γ : Type} (cls : String) (x : Except FormatError α) (f : α → β)
    (k : β → Load γ) : (liftFormat cls (x.map f) >>= k) = (liftFormat cls x >>= fun a => k (f a)) := by
  cases x with
  | error e => rfl
  | ok a => rfl

theorem forIn_eq_forM {α : Type} {xs : List α} {f : α → PUnit → Load (ForInStep PUnit)}
    {g : α → Load PUnit} (h : ∀ x, f x ⟨⟩ = g x >>= fun _ => pure (.yield ⟨⟩)) :
    forIn xs ⟨⟩ f = xs.forM g := by
  induction xs with
  | nil => rfl
  | cons x xs ih => simp [List.forIn_cons, h, ih]

/-- The wiring of a class file: its members under the class's key, its signature, its
supertypes. -/
theorem wireClass_eq (fuel : Nat) (cls : String) (i : Nat) (file : ClassInfo) :
    wireClass fuel cls i file = (do
      let key := (← get).graph.key i
      wireMembers fuel cls (fun f => Key.field key f.name) (·.sites) file.fields
      wireMembers fuel cls (fun m => Key.method key m.name m.descriptor) (·.sites) file.methods
      wireSignature fuel cls i file
      wireSupertypes i (if Access.has file.access Access.interface then Usage.extends else .implements)) := by
  unfold wireClass
  congr 1
  funext q
  dsimp only
  congr 1
  · -- a field's declaration types are its places
    unfold wireMembers
    apply forIn_eq_forM
    intro f
    simp only [bind_assoc]
    congr 1
    funext q'
    cases q'.graph.get? (Key.field (q.graph.key i) f.name) with
    | none => simp
    | some src =>
      dsimp only
      rw [typesOf_eq, FieldInfo.sites, liftFormat_map]
      simp only [bind_assoc, typeEdges_eq]
  funext u
  congr 1
  · -- a method's places: declaration types, exceptions, and what its body names
    unfold wireMembers
    apply forIn_eq_forM
    intro m
    simp only [bind_assoc]
    congr 1
    funext q'
    cases q'.graph.get? (Key.method (q.graph.key i) m.name m.descriptor) with
    | none => simp
    | some src =>
      dsimp only
      rw [typesOf_eq, MethodInfo.sites, liftFormat_map]
      simp only [bind_assoc]
      congr 1
      funext types
      cases m.code with
      | none => simp [typeEdges_eq, List.forM_append]
      | some code => simp [typeEdges_eq, forM_codeEdge_eq, List.forM_append]
  funext u
  unfold wireSignature ClassInfo.signatureSites
  cases file.signature with
  | none => rfl
  | some s =>
    dsimp only
    rw [liftFormat_map]
    simp only [bind_assoc, typeEdges_eq]

/-! ### The references of a member -/

/-- The places read, each leading to a node of `g`. -/
def SitesRead (g : StructuralGraph) (sites : Except FormatError (List Site)) : Prop :=
  ∃ (σs : List Site) (ts : List Nat), sites = .ok σs ∧ σs.map (Site.target g) = ts.map some

/-- The references of one member's places: from its node, when it has one and its places can be
read, to each node a place leads to. -/
def memberEdges (g : StructuralGraph) (src : Option Nat) (sites : Except FormatError (List Site)) :
    List (Nat × Nat) :=
  match src, sites with
  | some s, .ok σs => (σs.filterMap (Site.target g)).map (s, ·)
  | _, _ => []

theorem filterMap_eq_of_map_eq {α β : Type} {f : α → Option β} {xs : List α} {ys : List β}
    (h : xs.map f = ys.map some) : xs.filterMap f = ys := by
  calc xs.filterMap f = (xs.map f).filterMap id := by rw [List.filterMap_map]; rfl
    _ = (ys.map some).filterMap id := by rw [h]
    _ = ys := by rw [List.filterMap_map]; exact List.filterMap_some

theorem memberEdges_of_map_eq {g : StructuralGraph} {src : Nat} {σs : List Site} {ts : List Nat}
    (h : σs.map (Site.target g) = ts.map some) : memberEdges g (some src) (.ok σs) = ts.map (src, ·) := by
  show (σs.filterMap (Site.target g)).map (src, ·) = _
  rw [filterMap_eq_of_map_eq h]

variable {g g' : StructuralGraph}

theorem SitesRead.frozen {sites : Except FormatError (List Site)} (h : SitesRead g sites)
    (hfr : FrozenBelow g.size g g') (hg : g.WellFormed) (hg' : g'.WellFormed) :
    SitesRead g' sites ∧ ∀ src, memberEdges g' (some src) sites = memberEdges g (some src) sites := by
  obtain ⟨σs, ts, rfl, hts⟩ := h
  have hts' := Site.targets_frozen hfr hg hg' hts
  refine ⟨⟨σs, ts, rfl, hts'⟩, fun src => ?_⟩
  rw [memberEdges_of_map_eq hts, memberEdges_of_map_eq hts']

end ClassMetrics
