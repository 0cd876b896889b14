import ClassMetrics.Proofs.Build.Loads
import ClassMetrics.Proofs.Graph.Weights
import ClassMetrics.Loader.Build

/-! The places of a class file that name a class or a member, and the node each leads to. A type
leads to the class of its name; a method or field reference to the declared member its owner's
hierarchy has, or else to the member of that key made on the owner on demand. Recording the
edge of a place loads what it names at the structure level and adds one reference from the
source to that node, unless the pair is refused; the node it leads to stays the one it leads to
in every later graph. -/

namespace ClassMetrics

open ClassFile StructuralGraph Load Loader

/-- A place in a class file that names a class or a member. -/
inductive Site
  | type (name : String)
  | method (m : MemberRef) (isStatic : Bool)
  | field (m : MemberRef) (isStatic : Bool)
  deriving DecidableEq, Repr

namespace Site

/-- The node a place leads to: the class of a type's name; for a member, the declared member its
owner's hierarchy has, or else the member of that key made on demand. -/
def target (g : StructuralGraph) : Site → Option Nat
  | .type n => g.get? n
  | .method m _ => (g.get? m.owner).bind fun o =>
      (g.findMethod o m.name m.descriptor).or (g.get? (Key.method m.owner m.name m.descriptor))
  | .field m _ => (g.get? m.owner).bind fun o =>
      (g.findField o m.name).or (g.get? (Key.field m.owner m.name))

/-- The place a reference in a method body stands for: a call on an array is a use of its
element class, and of nothing for an array of a primitive type. -/
def ofCodeRef : CodeRef → Option Site
  | .type n => some (.type n)
  | .method m isStatic =>
    if m.owner.startsWith "[" then (Descriptor.elementClass m.owner).map .type
    else some (.method m isStatic)
  | .field m _ isStatic => some (.field m isStatic)

/-- The edge of a place: from `src` to the node it leads to, as a use. -/
def edge (fuel src : Nat) : Site → Load Unit
  | .type n => do addUse src (← getClass fuel n .structureOnly) .uses
  | .method m isStatic => do addUse src (← resolveMethod fuel m isStatic) .uses
  | .field m isStatic => do addUse src (← resolveField fuel m isStatic) .uses

end Site

/-! ### The places of a class file -/

/-- The classes a descriptor and an optional signature name, the first of each. -/
def declarationTypes (descriptor : String) (signature : Option String) :
    Except FormatError (List String) := do
  let types ← Descriptor.referencedClasses descriptor
  let more ← match signature with
    | some s => Signature.referencedClasses s
    | none => pure []
  pure (firstOfEach (types ++ more))

/-- The places of a field: the classes its declaration names. -/
def ClassFile.FieldInfo.sites (f : FieldInfo) : Except FormatError (List Site) :=
  (declarationTypes f.descriptor f.signature).map (·.map .type)

/-- The places of a method: the classes its declaration names, each exception it declares, and,
when its body was read, each reference of the body, each caught type and each type of a local
variable. -/
def ClassFile.MethodInfo.sites (m : MethodInfo) : Except FormatError (List Site) :=
  (declarationTypes m.descriptor m.signature).map fun types =>
    types.map .type ++ m.exceptions.map .type ++ match m.code with
      | none => []
      | some code => code.references.filterMap Site.ofCodeRef ++ code.catchTypes.map .type ++
          code.localVariableTypes.map .type

/-- The places of the members of a class file that a key names: the fields, then the methods,
whose member key under `cls` is `k`. -/
def ClassFile.ClassInfo.memberSites (file : ClassInfo) (cls k : String) : Except FormatError (List Site) := do
  let fs ← (file.fields.filter fun f => Key.field cls f.name == k).mapM (·.sites)
  let ms ← (file.methods.filter fun m => Key.method cls m.name m.descriptor == k).mapM (·.sites)
  pure (fs.flatten ++ ms.flatten)

/-- The places of a class's own signature: the classes it names that are not a supertype of the
class, the first of each. -/
def ClassFile.ClassInfo.signatureSites (file : ClassInfo) : Except FormatError (List Site) :=
  match file.signature with
  | none => pure []
  | some s => (Signature.referencedClasses s).map fun types =>
      (firstOfEach (types.filter fun t => file.superClass != some t && !file.interfaces.contains t)).map
        .type

/-! ### The builder's edges as places -/

theorem typesOf_eq (cls descriptor : String) (signature : Option String) :
    typesOf cls descriptor signature = liftFormat cls (declarationTypes descriptor signature) := by
  unfold typesOf declarationTypes
  cases Descriptor.referencedClasses descriptor with
  | error e => rfl
  | ok types =>
    cases signature with
    | none => rfl
    | some s =>
      dsimp only
      cases Signature.referencedClasses s with
      | error e => rfl
      | ok more => rfl

theorem typeEdges_eq (fuel src : Nat) (names : List String) :
    typeEdges fuel src names = (names.map Site.type).forM (Site.edge fuel src) := by
  unfold typeEdges
  simp only [List.forM_eq_forM]
  rw [List.forM_map]
  rfl

theorem codeEdge_eq (fuel src : Nat) (r : CodeRef) :
    codeEdge fuel src r = match Site.ofCodeRef r with
      | some σ => σ.edge fuel src
      | none => pure () := by
  cases r with
  | type n => rfl
  | field m w isStatic => rfl
  | method m isStatic =>
    unfold codeEdge Site.ofCodeRef
    dsimp only
    by_cases h : m.owner.startsWith "[" = true
    · rw [if_pos h, if_pos h]
      cases Descriptor.elementClass m.owner <;> rfl
    · rw [if_neg h, if_neg h]
      rfl

theorem forM_codeEdge_eq (fuel src : Nat) (refs : List CodeRef) :
    refs.forM (codeEdge fuel src) = (refs.filterMap Site.ofCodeRef).forM (Site.edge fuel src) := by
  simp only [List.forM_eq_forM] at *
  induction refs with
  | nil => rfl
  | cons r refs ih =>
    rw [List.forM_cons, codeEdge_eq, List.filterMap_cons]
    cases Site.ofCodeRef r with
    | none => simp [ih]
    | some σ => rw [List.forM_cons, ih]

/-! ### Runs of loops -/

namespace Load.Run

variable {α : Type} {p : Loader}

theorem forM_of_step {xs : List α} {f : α → Load PUnit} {I : List α → Loader → Prop}
    (hstep : ∀ done a rest, done ++ a :: rest = xs → ∀ p, p.Valid → I done p →
      (f a).Run p fun _ p' => I (done ++ [a]) p') (hp : p.Valid) (hI : I [] p) :
    (xs.forM f).Run p fun _ p' => I xs p' := by
  suffices h : ∀ rest done p, done ++ rest = xs → p.Valid → I done p →
      (rest.forM f).Run p fun _ p' => I xs p' by
    simpa using h xs [] p rfl hp hI
  intro rest
  induction rest with
  | nil => intro done p hdone hp hI; simp at hdone; subst hdone; exact pure hp hI
  | cons a rest ih =>
    intro done p hdone hp hI
    rw [List.forM_eq_forM, List.forM_cons]
    exact bind (hstep done a rest hdone p hp hI) fun _ p' hl hI' =>
      ih (done ++ [a]) p' (by simpa using hdone) hl.valid hI'

theorem forIn_of_step {xs : List α} {f : α → PUnit → Load (ForInStep PUnit)}
    {I : List α → Loader → Prop}
    (hstep : ∀ done a rest, done ++ a :: rest = xs → ∀ p, p.Valid → I done p →
      (f a ⟨⟩).Run p fun r p' => r = .yield ⟨⟩ ∧ I (done ++ [a]) p') (hp : p.Valid) (hI : I [] p) :
    (forIn xs ⟨⟩ f).Run p fun _ p' => I xs p' := by
  suffices h : ∀ rest done p, done ++ rest = xs → p.Valid → I done p →
      (forIn rest ⟨⟩ f).Run p fun _ p' => I xs p' by
    simpa using h xs [] p rfl hp hI
  intro rest
  induction rest with
  | nil => intro done p hdone hp hI; simp at hdone; subst hdone; exact pure hp hI
  | cons a rest ih =>
    intro done p hdone hp hI
    rw [List.forIn_cons]
    refine bind (hstep done a rest hdone p hp hI) fun r p' hl ⟨hr, hI'⟩ => ?_
    subst hr
    exact ih (done ++ [a]) p' (by simpa using hdone) hl.valid hI'

end Load.Run

/-! ### Counting the references recorded -/

namespace StructuralGraph

variable {g g' g'' : StructuralGraph}

/-- `g'` has the references of `g` and one more, modulo `2 ^ 32`, for each pair of `es` that it
admits; a pair has a link in `g'` when it had one in `g` or is such a pair of `es`. -/
def Adds (g g' : StructuralGraph) (es : List (Nat × Nat)) : Prop :=
  ∀ a b, g'.totalWeight a b ≡
      g.totalWeight a b + (es.filter fun e => g'.Admits e.1 e.2).count (a, b) [MOD 2 ^ 32] ∧
    (g'.HasLink a b ↔ g.HasLink a b ∨ (a, b) ∈ es.filter fun e => g'.Admits e.1 e.2)

theorem Extends.admits_iff (h : g.Extends g') {s : Nat} (hs : s < g.size) (t : Nat) :
    g'.Admits s t ↔ g.Admits s t := by
  unfold Admits
  rw [h.ownerClass_eq hs]

theorem Adds.nil (hl : g'.links = g.links) : Adds g g' [] := by
  intro a b
  rw [totalWeight_of_links_eq hl, hasLink_of_links_eq hl]
  exact ⟨Nat.ModEq.refl _, by simp⟩

theorem Adds.trans {es es' : List (Nat × Nat)} (h₁ : Adds g g' es) (h₂ : Adds g' g'' es')
    (hext : g'.Extends g'') (hsrc : ∀ e ∈ es, e.1 < g'.size) : Adds g g'' (es ++ es') := by
  intro a b
  have hfilter : (es.filter fun e => g''.Admits e.1 e.2) = es.filter fun e => g'.Admits e.1 e.2 := by
    apply List.filter_congr
    intro e he
    simp only [decide_eq_decide]
    exact hext.admits_iff (hsrc e he) e.2
  obtain ⟨hw₁, hl₁⟩ := h₁ a b
  obtain ⟨hw₂, hl₂⟩ := h₂ a b
  rw [List.filter_append, hfilter, List.count_append, List.mem_append, hl₂, hl₁, or_assoc,
    ← Nat.add_assoc]
  exact ⟨hw₂.trans (hw₁.add_right _), Iff.rfl⟩

theorem Adds.addEdge {g₁ : StructuralGraph} (hl : g₁.links = g.links) (t : Nat) (u : Usage) :
    Adds g (g₁.addEdge s t u).1 [(s, t)] := by
  intro a b
  have hadm : (g₁.addEdge s t u).1.Admits s t ↔ g₁.Admits s t := by
    unfold Admits ownerClass resource?
    rw [nodes_addEdge]
  have hcount : ([(s, t)].filter fun e => (g₁.addEdge s t u).1.Admits e.1 e.2).count (a, b) =
      if a = s ∧ b = t ∧ g₁.Admits s t then 1 else 0 := by
    by_cases hst : g₁.Admits s t
    · rw [List.filter_cons_of_pos (by simpa [hadm] using hst), List.filter_nil, List.count_singleton]
      simp only [beq_iff_eq, Prod.mk.injEq, hst, and_true]
      split_ifs <;> omega
    · rw [List.filter_cons_of_neg (by simpa [hadm] using hst), List.filter_nil, List.count_nil,
        if_neg fun h => hst h.2.2]
  have hmem : ((a, b) ∈ [(s, t)].filter fun e => (g₁.addEdge s t u).1.Admits e.1 e.2) ↔
      a = s ∧ b = t ∧ g₁.Admits s t := by
    rw [← List.count_pos_iff, hcount]
    split_ifs with h <;> simp [h]
  rw [hcount, hmem, ← totalWeight_of_links_eq hl, ← hasLink_of_links_eq hl]
  exact ⟨totalWeight_addEdge s t u a b, hasLink_addEdge s t u a b⟩

end StructuralGraph

/-! ### Where a place leads -/

/-- The node a place leads to stays the same as the graph grows frozen over it. -/
theorem Site.target_frozen {g g' : StructuralGraph} (h : FrozenBelow g.size g g')
    (hg : g.WellFormed) (hg' : g'.WellFormed) {σ : Site} {t : Nat} (ht : σ.target g = some t) :
    σ.target g' = some t := by
  cases σ with
  | type n => exact h.grows.get?_eq ht
  | method m isStatic =>
    simp only [Site.target] at ht ⊢
    obtain ⟨o, ho, hfind⟩ := Option.bind_eq_some_iff.mp ht
    rw [h.grows.get?_eq ho, Option.bind_some, h.findMethod_eq hg hg' (key_of_get? ho).1]
    cases hf : g.findMethod o m.name m.descriptor with
    | some x => rw [hf] at hfind; exact hfind
    | none =>
      rw [hf, Option.none_or] at hfind
      rw [Option.none_or]
      exact h.grows.get?_eq hfind
  | field m isStatic =>
    simp only [Site.target] at ht ⊢
    obtain ⟨o, ho, hfind⟩ := Option.bind_eq_some_iff.mp ht
    rw [h.grows.get?_eq ho, Option.bind_some, h.findField_eq hg hg' (key_of_get? ho).1]
    cases hf : g.findField o m.name with
    | some x => rw [hf] at hfind; exact hfind
    | none =>
      rw [hf, Option.none_or] at hfind
      rw [Option.none_or]
      exact h.grows.get?_eq hfind

variable {p : Loader}

/-- What a resolution leaves: the same edges, a loader grown above where it started, and a node
of the graph that the place leads to. -/
def Resolves (σ : Site) (p : Loader) (t : Nat) (p' : Loader) : Prop :=
  p'.graph.links = p.graph.links ∧ GrowsAbove p.graph.size p p' ∧ t < p'.graph.size ∧
    (p'.graph.ClassKeysPlain → σ.target p'.graph = some t)

theorem run_getClass_resolves (hp : p.Valid) (fuel : Nat) (n : String) :
    (getClass fuel n .structureOnly).Run p (Resolves (.type n) p) :=
  (run_getClass_structure fuel n p hp).mono fun _ _ hl ⟨hn, hlinks, hg⟩ =>
    ⟨hlinks, hg, hn.1, fun _ => hl.valid.graph.get?_eq_some_iff.mpr hn⟩

/-- Resolving a method reference: the declared method the owner's hierarchy has, or else a
method made on the owner, not declared, which leaves every lookup as it was. -/
theorem run_resolveMethod_resolves (hp : p.Valid) (fuel : Nat) (m : MemberRef) (isStatic : Bool) :
    (resolveMethod fuel m isStatic).Run p (Resolves (.method m isStatic) p) := by
  unfold resolveMethod
  refine Run.bind (run_getClass_structure fuel m.owner p hp) fun o p₁ h₁ hpost => ?_
  obtain ⟨ho, hl₁, hg₁⟩ := hpost
  refine Run.bind (Run.get h₁.valid) ?_
  rintro x y - ⟨hx, hy⟩
  subst x y
  have hget : p₁.graph.get? m.owner = some o := h₁.valid.graph.get?_eq_some_iff.mpr ho
  split
  · rename_i found hfound
    refine Run.pure h₁.valid ⟨hl₁, hg₁, h₁.valid.graph.findMethod_lt hfound, fun _ => ?_⟩
    simp only [Site.target, hget, Option.bind_some, hfound, Option.some_or]
  · rename_i hnone
    refine (run_addResource h₁.valid ?hadm).mono fun r p₃ h₃ hadd => ?_
    case hadm => exact ⟨ho.1, by rw [ho.2]⟩
    obtain ⟨hr, hk, hp₃, -⟩ := hadd
    -- the method made on demand is not declared, so the lookups are as they were
    have hfr : FrozenBelow p₁.graph.size p₁.graph p₃.graph := by
      rw [hp₃]
      exact FrozenBelow.addResource (fun _ h _ => by cases h; rfl) (fun _ h => by cases h)
    have hg₃ : GrowsAbove p₁.graph.size p₁ p₃ := ⟨h₃, fun _ => hfr, fun j _ => by rw [hp₃]; rfl⟩
    refine ⟨by rw [hp₃, links_addResource, hl₁], hg₁.trans (hg₃.mono h₁.graph.size_le), hr,
      fun _ => ?_⟩
    have hfind : p₃.graph.findMethod o m.name m.descriptor = none := by
      rw [hfr.findMethod_eq h₁.valid.graph h₃.valid.graph ho.1]
      exact hnone
    simp only [Site.target, h₃.graph.get?_eq hget, Option.bind_some, hfind, Option.none_or]
    exact h₃.valid.graph.get?_eq_some_iff.mpr ⟨hr, hk⟩

/-- Resolving a field reference, as for a method. -/
theorem run_resolveField_resolves (hp : p.Valid) (fuel : Nat) (m : MemberRef) (isStatic : Bool) :
    (resolveField fuel m isStatic).Run p (Resolves (.field m isStatic) p) := by
  unfold resolveField
  refine Run.bind (run_getClass_structure fuel m.owner p hp) fun o p₁ h₁ hpost => ?_
  obtain ⟨ho, hl₁, hg₁⟩ := hpost
  refine Run.bind (Run.get h₁.valid) ?_
  rintro x y - ⟨hx, hy⟩
  subst x y
  have hget : p₁.graph.get? m.owner = some o := h₁.valid.graph.get?_eq_some_iff.mpr ho
  split
  · rename_i found hfound
    refine Run.pure h₁.valid ⟨hl₁, hg₁, h₁.valid.graph.findField_lt hfound, fun _ => ?_⟩
    simp only [Site.target, hget, Option.bind_some, hfound, Option.some_or]
  · rename_i hnone
    refine (run_addResource h₁.valid ?hadm).mono fun r p₃ h₃ hadd => ?_
    case hadm => exact ⟨ho.1, by rw [ho.2]⟩
    obtain ⟨hr, hk, hp₃, -⟩ := hadd
    have hfr : FrozenBelow p₁.graph.size p₁.graph p₃.graph := by
      rw [hp₃]
      exact FrozenBelow.addResource (fun _ h => by cases h) (fun _ h _ => by cases h; rfl)
    have hg₃ : GrowsAbove p₁.graph.size p₁ p₃ := ⟨h₃, fun _ => hfr, fun j _ => by rw [hp₃]; rfl⟩
    refine ⟨by rw [hp₃, links_addResource, hl₁], hg₁.trans (hg₃.mono h₁.graph.size_le), hr,
      fun _ => ?_⟩
    have hfind : p₃.graph.findField o m.name = none := by
      rw [hfr.findField_eq h₁.valid.graph h₃.valid.graph ho.1]
      exact hnone
    simp only [Site.target, h₃.graph.get?_eq hget, Option.bind_some, hfind, Option.none_or]
    exact h₃.valid.graph.get?_eq_some_iff.mpr ⟨hr, hk⟩

/-- What recording uses from `src` leaves: a loader grown above where it started, in which every
node whose links all record uses still has such links only, with one more reference for each of
the pairs `es`, all from `src`. -/
def Records (src : Nat) (p : Loader) (es : List (Nat × Nat)) (p' : Loader) : Prop :=
  GrowsAbove p.graph.size p p' ∧ (∀ s, p.graph.UsesFrom s → p'.graph.UsesFrom s) ∧
    p.graph.Adds p'.graph es ∧ ∀ e ∈ es, e.1 = src

theorem Records.trans {src : Nat} {p' p'' : Loader} {es es' : List (Nat × Nat)}
    (h₁ : Records src p es p') (h₂ : Records src p' es' p'') (hsrc : src < p.graph.size) :
    Records src p (es ++ es') p'' := by
  obtain ⟨hg₁, hu₁, ha₁, he₁⟩ := h₁
  obtain ⟨hg₂, hu₂, ha₂, he₂⟩ := h₂
  refine ⟨hg₁.trans (hg₂.mono hg₁.later.graph.size_le), fun s hs => hu₂ s (hu₁ s hs),
    ha₁.trans ha₂ hg₂.later.graph fun e he => (he₁ e he) ▸ Nat.lt_of_lt_of_le hsrc hg₁.later.graph.size_le,
    ?_⟩
  intro e he
  rcases List.mem_append.mp he with he | he
  · exact he₁ e he
  · exact he₂ e he

theorem Site.targets_frozen {g g' : StructuralGraph} (h : FrozenBelow g.size g g')
    (hg : g.WellFormed) (hg' : g'.WellFormed) :
    ∀ {sites : List Site} {ts : List Nat}, sites.map (Site.target g) = ts.map some →
      sites.map (Site.target g') = ts.map some
  | [], [], _ => rfl
  | σ :: sites, t :: ts, hts => by
    simp only [List.map_cons, List.cons.injEq] at hts ⊢
    exact ⟨Site.target_frozen h hg hg' hts.1, Site.targets_frozen h hg hg' hts.2⟩
  | [], _ :: _, hts => by simp at hts
  | _ :: _, [], hts => by simp at hts

/-- What a place leads to: the class it names, or what its member reference resolves to. -/
def Site.resolve (fuel : Nat) : Site → Load Nat
  | .type n => getClass fuel n .structureOnly
  | .method m isStatic => resolveMethod fuel m isStatic
  | .field m isStatic => resolveField fuel m isStatic

theorem Site.edge_eq (fuel src : Nat) (σ : Site) :
    σ.edge fuel src = σ.resolve fuel >>= fun t => addUse src t .uses := by
  cases σ <;> rfl

theorem run_resolve_resolves (hp : p.Valid) (fuel : Nat) (σ : Site) :
    (σ.resolve fuel).Run p (Resolves σ p) := by
  cases σ with
  | type n => exact run_getClass_resolves hp fuel n
  | method m isStatic => exact run_resolveMethod_resolves hp fuel m isStatic
  | field m isStatic => exact run_resolveField_resolves hp fuel m isStatic

/-- A resolution followed by a use from `src` to the node it found. -/
theorem run_use {σ : Site} {x : Load Nat} (hx : x.Run p (Resolves σ p)) {src : Nat}
    (hsrc : src < p.graph.size) :
    (x >>= fun t => addUse src t .uses).Run p fun _ p' =>
      ∃ t, (p'.graph.ClassKeysPlain → σ.target p'.graph = some t) ∧ Records src p [(src, t)] p' := by
  refine Run.bind hx fun t p₁ h₁ ⟨hl₁, hg₁, ht, htarget⟩ => ?_
  have hsrc₁ : src < p₁.graph.size := Nat.lt_of_lt_of_le hsrc h₁.graph.size_le
  refine (run_modifyGraph h₁.valid (h₁.valid.graph.addEdge hsrc₁ ht .uses) (extends_addEdge _ _ _)).mono
    fun _ p₂ h₂ hp₂ => ⟨t, fun hplain => ?_, ?_, ?_, ?_, ?_⟩
  · -- recording an edge leaves the nodes, so the place still leads to `t`
    have hfr : FrozenBelow p₁.graph.size p₁.graph p₂.graph := by
      rw [hp₂]
      exact FrozenBelow.of_nodes_eq (nodes_addEdge _ _ _)
    exact Site.target_frozen hfr h₁.valid.graph h₂.valid.graph (htarget (hplain.of_extends h₂.graph))
  · refine hg₁.trans ⟨h₂, fun _ => ?_, fun j _ => by rw [hp₂]; rfl⟩
    rw [hp₂]
    exact FrozenBelow.of_nodes_eq (nodes_addEdge _ _ _)
  · intro s hs
    rw [hp₂]
    exact (hs.of_links_eq hl₁).addEdge fun _ => rfl
  · rw [hp₂]
    exact Adds.addEdge hl₁ t .uses
  · intro e he
    rw [List.mem_singleton.mp he]

theorem run_edge (hp : p.Valid) (fuel : Nat) {src : Nat} (hsrc : src < p.graph.size) (σ : Site) :
    (σ.edge fuel src).Run p fun _ p' =>
      ∃ t, (p'.graph.ClassKeysPlain → σ.target p'.graph = some t) ∧ Records src p [(src, t)] p' := by
  rw [Site.edge_eq]
  exact run_use (run_resolve_resolves hp fuel σ) hsrc

/-- Recording the edges of a list of places from `src`: one reference for each place, to the node
it leads to in the loader left at the end. -/
theorem run_edges (hp : p.Valid) (fuel : Nat) {src : Nat} (hsrc : src < p.graph.size)
    (sites : List Site) :
    (sites.forM (Site.edge fuel src)).Run p fun _ p' => ∃ ts : List Nat,
      (p'.graph.ClassKeysPlain → sites.map (Site.target p'.graph) = ts.map some) ∧
        Records src p (ts.map (src, ·)) p' := by
  refine Run.forM_of_step (I := fun done q => ∃ ts : List Nat,
      (q.graph.ClassKeysPlain → done.map (Site.target q.graph) = ts.map some) ∧
        Records src p (ts.map (src, ·)) q) ?_ hp
    ⟨[], fun _ => rfl, GrowsAbove.refl hp _, fun _ h => h, Adds.nil rfl, by simp⟩
  rintro done σ - - q hq ⟨ts, hts, hrec⟩
  have hsrc' : src < q.graph.size := Nat.lt_of_lt_of_le hsrc hrec.1.later.graph.size_le
  refine (run_edge hq fuel hsrc' σ).mono fun _ q' _ ⟨t, ht, hrec'⟩ => ⟨ts ++ [t], fun hplain => ?_, ?_⟩
  · -- the places done before still lead where they led
    have hfr := hrec'.1.frozen hplain
    rw [List.map_append, List.map_append, Site.targets_frozen hfr hq.graph hrec'.1.later.valid.graph
      (hts (hplain.of_extends hrec'.1.later.graph))]
    simp [ht hplain]
  · rw [List.map_append]
    exact hrec.trans hrec' hsrc

end ClassMetrics
