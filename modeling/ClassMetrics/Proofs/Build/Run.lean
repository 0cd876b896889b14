import ClassMetrics.Proofs.Build.Wiring
import Mathlib.Data.List.Forall2

/-! A build as a run of loading steps: the classes to analyse are decoded ahead, then loaded with
their bodies in sorted order, then wired from the files kept for them; the graph left at the end
is indexed. Every pass keeps the loader valid, so the graph of a build is well formed. -/

namespace ClassMetrics

open ClassFile StructuralGraph Load Loader

namespace Build

/-- The loader a build starts from: the classes to analyse, each decoded ahead at the highest
level. -/
def start (source : ClassSource) (names : List String) : Loader :=
  ({ source, analyzable := names } : Loader).prefetch names .structureAndCalls

/-- The second pass: each class to analyse loaded with its bodies. -/
def loadPass (fuel : Nat) (names : List String) : Load (List Nat) :=
  names.mapM fun n => getClass fuel n .structureAndCalls

/-- Wiring one loaded class from the file kept for its node, if one is kept. -/
def wireOne (fuel : Nat) (n : String) (i : Nat) : Load Unit := do
  let file ← modifyGet fun p => p.takeFile i
  match file with
  | some file => wireClass fuel n i file
  | none => pure ()

/-- The third pass: every loaded class wired, in the order of the names. -/
def wirePass (fuel : Nat) (names : List String) (loaded : List Nat) : Load Unit := do
  for (n, i) in names.zip loaded do
    let file ← modifyGet fun p => p.takeFile i
    match file with
    | some file => wireClass fuel n i file
    | none => pure ()

/-- The second and third passes, with the fuel of the loader they start from. -/
def run (names : List String) : Load Unit := do
  let fuel := (← get).fuel
  let loaded ← loadPass fuel names
  wirePass fuel names loaded

end Build

theorem buildGraph_eq (source : ClassSource) (analyzable : List String) :
    buildGraph source analyzable =
      match (Build.run (sortedDistinct analyzable)).exec
          (Build.start source (sortedDistinct analyzable)) with
      | (.ok (), p) => .ok p.graph.indexHierarchy
      | (.error e, _) => .error e := rfl

theorem Build.wirePass_eq (fuel : Nat) (names : List String) (loaded : List Nat) :
    wirePass fuel names loaded = (names.zip loaded).forM fun x => wireOne fuel x.1 x.2 := by
  unfold wirePass
  rw [bind_pure_unit]
  apply forIn_eq_forM
  rintro ⟨n, i⟩
  simp only [wireOne, bind_assoc]
  congr 1
  funext file
  cases file <;> simp

theorem buildGraph_eq_ok {source : ClassSource} {analyzable : List String} {g : StructuralGraph}
    (h : buildGraph source analyzable = .ok g) :
    ∃ p, (Build.run (sortedDistinct analyzable)).exec
        (Build.start source (sortedDistinct analyzable)) = (.ok (), p) ∧
      g = p.graph.indexHierarchy := by
  rw [buildGraph_eq] at h
  split at h
  · rename_i p hrun
    cases h
    exact ⟨p, hrun, rfl⟩
  · cases h

theorem buildGraph_eq_error {source : ClassSource} {analyzable : List String} {e : AnalysisError}
    (h : buildGraph source analyzable = .error e) :
    ∃ p, (Build.run (sortedDistinct analyzable)).exec
        (Build.start source (sortedDistinct analyzable)) = (.error e, p) := by
  rw [buildGraph_eq] at h
  split at h
  · cases h
  · rename_i e' p hrun
    cases h
    exact ⟨p, hrun⟩

/-! ### Runs of the passes -/

namespace Load.Run

variable {α β : Type} {p : Loader}

theorem mapM {f : α → Load β} {Q : α → β → Loader → Prop} {I : Loader → Prop}
    (hkeep : ∀ a b q q', Q a b q → q.Later q' → Q a b q') :
    ∀ (xs : List α), (∀ a ∈ xs, ∀ q, q.Valid → I q → (f a).Run q fun b q' => Q a b q' ∧ I q') →
      ∀ p, p.Valid → I p →
        (xs.mapM f).Run p fun ys p' => List.Forall₂ (fun a b => Q a b p') xs ys ∧ I p'
  | [], _, p, hp, hI => by
    rw [List.mapM_nil]
    exact pure hp ⟨.nil, hI⟩
  | a :: xs, hstep, p, hp, hI => by
    rw [List.mapM_cons]
    refine bind (hstep a (List.mem_cons_self ..) p hp hI) fun b p₁ h₁ ⟨hb, hI₁⟩ => ?_
    refine bind (mapM hkeep xs (fun a' ha' => hstep a' (List.mem_cons_of_mem _ ha')) p₁ h₁.valid hI₁)
      fun bs p₂ h₂ ⟨hbs, hI₂⟩ => pure h₂.valid ⟨.cons (hkeep a b p₁ p₂ hb h₂) hbs, hI₂⟩

theorem get_bind {f : Loader → Load β} {Q : β → Loader → Prop} (h : (f p).Run p Q) :
    (MonadState.get >>= f).Run p Q := by
  unfold Run at h ⊢
  rw [exec_bind, exec_get]
  exact h

end Load.Run

variable {p : Loader}

theorem run_liftFormat {α : Type} (hp : p.Valid) (cls : String) (x : Except FormatError α) :
    (liftFormat cls x).Run p fun a p' => x = .ok a ∧ p' = p := by
  cases x with
  | error e => exact ⟨Later.refl hp, fun _ h => nomatch h⟩
  | ok a => exact Run.pure hp ⟨rfl, rfl⟩

theorem run_addUse (hp : p.Valid) {s t : Nat} (hs : s < p.graph.size) (ht : t < p.graph.size)
    (u : Usage) :
    (addUse s t u).Run p fun _ p' => p' = { p with graph := (p.graph.addEdge s t u).1 } :=
  run_modifyGraph hp (hp.graph.addEdge hs ht u) (extends_addEdge _ _ _)

/-- What an invariant of loaders needs to last through the wiring of one class: the edge of any
place from a node and any use recorded between two nodes keep it. -/
structure EdgesKeep (fuel : Nat) (I : Loader → Prop) : Prop where
  edge : ∀ q src σ, q.Valid → I q → src < q.graph.size →
    (Site.edge fuel src σ).Run q fun _ q' => I q'
  use : ∀ q s t u, q.Valid → I q → s < q.graph.size → t < q.graph.size →
    I { q with graph := (q.graph.addEdge s t u).1 }

/-- What an invariant of loaders needs to last through the edges of places that satisfy `Ok`:
the edge of such a place from any node keeps it. -/
structure SitesKeepOn (fuel : Nat) (Ok : Site → Prop) (I : Loader → Prop) : Prop where
  edge : ∀ q src σ, Ok σ → q.Valid → I q → src < q.graph.size →
    (Site.edge fuel src σ).Run q fun _ q' => I q'

/-- What an invariant of loaders needs to last through the wiring of a class whose places all
satisfy `Ok`: the edge of such a place from any node, and any use recorded between two nodes,
keep it. -/
structure EdgesKeepOn (fuel : Nat) (Ok : Site → Prop) (I : Loader → Prop) : Prop
    extends SitesKeepOn fuel Ok I where
  use : ∀ q s t u, q.Valid → I q → s < q.graph.size → t < q.graph.size →
    I { q with graph := (q.graph.addEdge s t u).1 }

theorem EdgesKeep.on {fuel : Nat} {I : Loader → Prop} (hw : EdgesKeep fuel I) (Ok : Site → Prop) :
    EdgesKeepOn fuel Ok I :=
  ⟨⟨fun q src σ _ => hw.edge q src σ⟩, hw.use⟩

/-- What an invariant of loaders needs to last through wiring: the edges keep it, and so does
taking a file. -/
structure WiringKeeps (fuel : Nat) (I : Loader → Prop) : Prop extends EdgesKeep fuel I where
  take : ∀ q i, I q → I (q.takeFile i).2

theorem wiringKeeps_true (fuel : Nat) : WiringKeeps fuel fun _ => True where
  edge _ _ σ hq _ hsrc := (run_edge hq fuel hsrc σ).mono fun _ _ _ _ => trivial
  use _ _ _ _ _ _ _ _ := trivial
  take _ _ _ := trivial

section Wiring

variable {fuel : Nat} {I : Loader → Prop}

section Sites

variable {Ok : Site → Prop} (hw : SitesKeepOn fuel Ok I)
include hw

theorem SitesKeepOn.run_edges (hp : p.Valid) (hI : I p) {src : Nat} (hsrc : src < p.graph.size)
    {sites : List Site} (hok : ∀ σ ∈ sites, Ok σ) :
    (sites.forM (Site.edge fuel src)).Run p fun _ p' => I p' := by
  refine (Run.forM_of_step (I := fun _ q => I q ∧ src < q.graph.size) ?_ hp ⟨hI, hsrc⟩).mono
    fun _ _ _ h => h.1
  rintro done σ rest hsplit q hq ⟨hIq, hsq⟩
  have hσ : σ ∈ sites := hsplit ▸ List.mem_append_right done (List.mem_cons_self ..)
  exact (hw.edge q src σ (hok σ hσ) hq hIq hsq).mono fun _ q' hl hI' =>
    ⟨hI', Nat.lt_of_lt_of_le hsq hl.graph.size_le⟩

theorem SitesKeepOn.run_wireMembers {α : Type} (hp : p.Valid) (hI : I p) (cls : String)
    (key : α → String) (sites : α → Except FormatError (List Site)) {xs : List α}
    (hok : ∀ x ∈ xs, ∀ σs, sites x = .ok σs → ∀ σ ∈ σs, Ok σ) :
    (wireMembers fuel cls key sites xs).Run p fun _ p' => I p' := by
  unfold wireMembers
  refine Run.forM_of_step (I := fun _ q => I q) ?_ hp hI
  rintro done x rest hsplit q hq hIq
  have hx : x ∈ xs := hsplit ▸ List.mem_append_right done (List.mem_cons_self ..)
  refine Run.get_bind ?_
  split
  · exact Run.pure hq hIq
  · rename_i src hsrc
    refine Run.bind (run_liftFormat hq cls (sites x)) fun σs q₁ _ hl => ?_
    obtain ⟨hσs, hq₁⟩ := hl
    subst hq₁
    exact hw.run_edges hq hIq (key_of_get? hsrc).1 (hok x hx σs hσs)

/-- Wiring a class whose places all satisfy `Ok`: its members and its signature keep the
invariant, so the wiring leaves what the edges to its supertypes leave from a later loader that
keeps it. -/
theorem SitesKeepOn.run_wireClass_with (hp : p.Valid) (hI : I p) (cls : String) {i : Nat}
    (hi : i < p.graph.size) {file : ClassInfo}
    (hok : ∀ σ, ((∃ f ∈ file.fields, ∃ σs, f.sites = .ok σs ∧ σ ∈ σs) ∨
      (∃ m ∈ file.methods, ∃ σs, m.sites = .ok σs ∧ σ ∈ σs) ∨
      ∃ σs, file.signatureSites = .ok σs ∧ σ ∈ σs) → Ok σ) {Q : Loader → Prop}
    (hsup : ∀ q, p.Later q → I q → i < q.graph.size →
      (wireSupertypes i (if Access.has file.access Access.interface then Usage.extends
        else .implements)).Run q fun _ q' => Q q') :
    (wireClass fuel cls i file).Run p fun _ p' => Q p' := by
  rw [wireClass_eq]
  refine Run.get_bind ?_
  refine Run.bind (hw.run_wireMembers hp hI cls _ _
    fun f hf σs hσs σ hσ => hok σ (.inl ⟨f, hf, σs, hσs, hσ⟩)) fun _ p₁ h₁ hI₁ => ?_
  have hi₁ : i < p₁.graph.size := Nat.lt_of_lt_of_le hi h₁.graph.size_le
  refine Run.bind (hw.run_wireMembers h₁.valid hI₁ cls _ _
    fun m hm σs hσs σ hσ => hok σ (.inr (.inl ⟨m, hm, σs, hσs, hσ⟩))) fun _ p₂ h₂ hI₂ => ?_
  have hi₂ : i < p₂.graph.size := Nat.lt_of_lt_of_le hi₁ h₂.graph.size_le
  refine Run.bind (Q := fun _ (q : Loader) => p.Later q ∧ I q ∧ i < q.graph.size) ?_
    fun _ p₃ _ ⟨hl₃, hI₃, hi₃⟩ => hsup p₃ hl₃ hI₃ hi₃
  unfold wireSignature
  refine Run.bind (run_liftFormat h₂.valid cls file.signatureSites) fun σs q _ ⟨hσs, hq⟩ => ?_
  subst hq
  exact (hw.run_edges h₂.valid hI₂ hi₂ fun σ hσ => hok σ (.inr (.inr ⟨σs, hσs, hσ⟩))).mono
    fun _ q' hl hI' => ⟨(h₁.trans h₂).trans hl, hI', Nat.lt_of_lt_of_le hi₂ hl.graph.size_le⟩

end Sites

section Edges

variable {Ok : Site → Prop} (hw : EdgesKeepOn fuel Ok I)
include hw

theorem EdgesKeepOn.run_addUse (hp : p.Valid) (hI : I p) {s t : Nat} (hs : s < p.graph.size)
    (ht : t < p.graph.size) (u : Usage) : (addUse s t u).Run p fun _ p' => I p' :=
  (ClassMetrics.run_addUse hp hs ht u).mono fun _ _ _ hp' => hp' ▸ hw.use p s t u hp hI hs ht

/-- The edges from a class to its supertypes. -/
theorem EdgesKeepOn.run_wireSupertypes (hp : p.Valid) (hI : I p) {i : Nat} (hi : i < p.graph.size)
    (u : Usage) : (wireSupertypes i u).Run p fun _ p' => I p' := by
  unfold wireSupertypes
  refine Run.get_bind ?_
  dsimp only
  -- the supertypes of a class are nodes of the graph, and edges keep the nodes
  have hsup : ∀ t, (p.graph.classNode? i).bind (·.superClass) = some t → t < p.graph.size := by
    intro t ht
    obtain ⟨c, hc, hct⟩ := Option.bind_eq_some_iff.mp ht
    exact ((hp.graph.classShape i c hc).superClass_lt t hct).1
  have hifs : ∀ t ∈ ((p.graph.classNode? i).map (·.interfaces)).getD [], t < p.graph.size := by
    intro t ht
    cases hc : p.graph.classNode? i with
    | none => rw [hc] at ht; exact absurd ht (List.not_mem_nil)
    | some c =>
      rw [hc] at ht
      exact ((hp.graph.classShape i c hc).interfaces_lt t ht).1
  -- the loop over the interfaces, from any later loader
  have hloop : ∀ q : Loader, q.Valid → I q → p.graph.size ≤ q.graph.size →
      ((forIn (((p.graph.classNode? i).map ClassNode.interfaces).getD []) PUnit.unit fun t _ => do
          addUse i t u
          pure (ForInStep.yield PUnit.unit)) >>= fun _ => pure ()).Run q fun _ q' => I q' := by
    intro q hq hIq hsize
    rw [bind_pure_unit]
    refine (Run.forIn_of_step (I := fun _ (q' : Loader) => I q' ∧ p.graph.size ≤ q'.graph.size) ?_
      hq ⟨hIq, hsize⟩).mono fun _ _ _ h => h.1
    rintro done t rest hmem q' hq' ⟨hIq', hle⟩
    have ht : t ∈ ((p.graph.classNode? i).map (·.interfaces)).getD [] := by
      rw [← hmem]
      exact List.mem_append_right _ (List.mem_cons_self ..)
    refine Run.bind (hw.run_addUse hq' hIq' (Nat.lt_of_lt_of_le hi hle)
      (Nat.lt_of_lt_of_le (hifs t ht) hle) u) fun _ q'' hl hI'' =>
      Run.pure hl.valid ⟨rfl, hI'', Nat.le_trans hle hl.graph.size_le⟩
  split
  · rename_i t ht
    exact Run.bind (hw.run_addUse hp hI hi (hsup t ht) .extends) fun _ q hl hIq =>
      hloop q hl.valid hIq hl.graph.size_le
  · exact hloop p hp hI (Nat.le_refl _)

theorem EdgesKeepOn.run_wireClass (hp : p.Valid) (hI : I p) (cls : String) {i : Nat}
    (hi : i < p.graph.size) {file : ClassInfo}
    (hok : ∀ σ, ((∃ f ∈ file.fields, ∃ σs, f.sites = .ok σs ∧ σ ∈ σs) ∨
      (∃ m ∈ file.methods, ∃ σs, m.sites = .ok σs ∧ σ ∈ σs) ∨
      ∃ σs, file.signatureSites = .ok σs ∧ σ ∈ σs) → Ok σ) :
    (wireClass fuel cls i file).Run p fun _ p' => I p' :=
  hw.toSitesKeepOn.run_wireClass_with hp hI cls hi hok fun _ hl hIq hiq =>
    hw.run_wireSupertypes hl.valid hIq hiq _

end Edges

section Every

variable (hw : EdgesKeep fuel I)
include hw

theorem EdgesKeep.run_wireSupertypes (hp : p.Valid) (hI : I p) {i : Nat} (hi : i < p.graph.size)
    (u : Usage) : (wireSupertypes i u).Run p fun _ p' => I p' :=
  (hw.on fun _ => True).run_wireSupertypes hp hI hi u

theorem EdgesKeep.run_wireClass (hp : p.Valid) (hI : I p) (cls : String) {i : Nat}
    (hi : i < p.graph.size) (file : ClassInfo) :
    (wireClass fuel cls i file).Run p fun _ p' => I p' :=
  (hw.on fun _ => True).run_wireClass hp hI cls hi fun _ _ => trivial

end Every

/-- Wiring the loaded classes, each from the file kept for its node. -/
theorem WiringKeeps.run_wirePass (hw : WiringKeeps fuel I) (hp : p.Valid) (hI : I p)
    (names : List String) (loaded : List Nat) (hloaded : ∀ x ∈ names.zip loaded, x.2 < p.graph.size) :
    (Build.wirePass fuel names loaded).Run p fun _ p' => I p' := by
  rw [Build.wirePass_eq]
  refine (Run.forM_of_step (I := fun _ (q : Loader) => I q ∧
    ∀ x ∈ names.zip loaded, x.2 < q.graph.size) ?_ hp ⟨hI, hloaded⟩).mono fun _ _ _ h => h.1
  rintro done ⟨n, i⟩ rest hsplit q hq ⟨hIq, hlt⟩
  have hi : (n, i) ∈ names.zip loaded := hsplit ▸ List.mem_append_right done (List.mem_cons_self ..)
  have hkeep : ∀ q', q.Later q' → ∀ x ∈ names.zip loaded, x.2 < q'.graph.size :=
    fun q' hl x hx => Nat.lt_of_lt_of_le (hlt x hx) hl.graph.size_le
  unfold Build.wireOne
  refine Run.bind (Q := fun file (q' : Loader) => q' = (q.takeFile i).2 ∧ file = (q.takeFile i).1)
    ⟨hq.takeFile i, fun _ h => by cases h; exact ⟨rfl, rfl⟩⟩ fun file q₁ h₁ ⟨hq₁, _⟩ => ?_
  have hsize : q₁.graph.size = q.graph.size := by rw [hq₁]; rfl
  have hI₁ : I q₁ := hq₁ ▸ hw.take q i hIq
  split
  · exact (hw.run_wireClass h₁.valid hI₁ n (hsize ▸ hlt (n, i) hi) _).mono fun _ q' hl hI' =>
      ⟨hI', hkeep q' (h₁.trans hl)⟩
  · exact Run.pure h₁.valid ⟨hI₁, hkeep q₁ h₁⟩

theorem edgesKeep_files (fuel n : Nat) (p₀ : Loader) :
    EdgesKeep fuel fun q => n ≤ q.graph.size ∧ ∀ j < n, q.fileOf j = p₀.fileOf j where
  edge q src σ hq hI hsrc := (run_edge hq fuel hsrc σ).mono fun _ _ _ ⟨_, _, hrec⟩ =>
    ⟨Nat.le_trans hI.1 hrec.1.later.graph.size_le,
      fun j hj => (hrec.1.files j (Nat.lt_of_lt_of_le hj hI.1)).trans (hI.2 j hj)⟩
  use q s t u _ hI _ _ := by
    have hsize : (q.graph.addEdge s t u).1.size = q.graph.size := by
      unfold StructuralGraph.size
      rw [nodes_addEdge]
    exact ⟨hsize ▸ hI.1, hI.2⟩

/-- Wiring the loaded classes, at distinct nodes, each from the file kept for its node: an
invariant lasts when wiring a class from its file, once taken, keeps it. In the end every loaded
class has had its file taken. -/
theorem run_wirePass_with (hp : p.Valid) (hI : I p) (names : List String) (loaded : List Nat)
    (hloaded : ∀ x ∈ names.zip loaded, x.2 < p.graph.size)
    (hnodup : ((names.zip loaded).map Prod.snd).Nodup)
    (hone : ∀ q x file, x ∈ names.zip loaded → q.Valid → I q → x.2 < q.graph.size →
      q.fileOf x.2 = some file → p.fileOf x.2 = some file →
      (wireClass fuel x.1 x.2 file).Run (q.takeFile x.2).2 fun _ q' => I q') :
    (Build.wirePass fuel names loaded).Run p fun _ p' => I p' ∧
      ∀ x ∈ names.zip loaded, p'.fileOf x.2 = none := by
  rw [Build.wirePass_eq]
  -- the classes not wired yet keep their files, since wiring grows the graph above them, and
  -- those wired keep none
  refine (Run.forM_of_step (I := fun done (q : Loader) => I q ∧
    (∀ x ∈ names.zip loaded, x.2 < q.graph.size) ∧
    (∀ x ∈ names.zip loaded, (∀ y ∈ done, y.2 ≠ x.2) → q.fileOf x.2 = p.fileOf x.2) ∧
    ∀ y ∈ done, q.fileOf y.2 = none) ?_ hp
    ⟨hI, hloaded, fun _ _ _ => rfl, fun _ h => absurd h List.not_mem_nil⟩).mono
    fun _ _ _ h => ⟨h.1, h.2.2.2⟩
  rintro done ⟨n, i⟩ rest hsplit q hq ⟨hIq, hlt, hfq, hdone⟩
  have hi : (n, i) ∈ names.zip loaded := hsplit ▸ List.mem_append_right done (List.mem_cons_self ..)
  have hfresh : ∀ y ∈ done, y.2 ≠ i := by
    intro y hy
    rw [← hsplit, List.map_append, List.map_cons] at hnodup
    exact (List.nodup_append.mp hnodup).2.2 y.2 (List.mem_map_of_mem hy) i (List.mem_cons_self ..)
  unfold Build.wireOne
  refine Run.bind (Q := fun file (q' : Loader) => q' = (q.takeFile i).2 ∧ file = (q.takeFile i).1)
    ⟨hq.takeFile i, fun _ h => by cases h; exact ⟨rfl, rfl⟩⟩ fun file q₁ h₁ hf => ?_
  obtain ⟨hq₁, hfile⟩ := hf
  rw [takeFile_fst] at hfile
  subst hq₁
  have hlt₁ : ∀ x ∈ names.zip loaded, x.2 < (q.takeFile i).2.graph.size := hlt
  -- the file taken is gone, the others are kept
  have hfiles₁ : ∀ x ∈ names.zip loaded, (∀ y ∈ done ++ [(n, i)], y.2 ≠ x.2) →
      (q.takeFile i).2.fileOf x.2 = p.fileOf x.2 := by
    intro x hx hne
    rw [fileOf_takeFile q (hne (n, i) (List.mem_append_right _ (List.mem_singleton_self _))).symm]
    exact hfq x hx fun y hy => hne y (List.mem_append_left _ hy)
  have hdone₁ : ∀ y ∈ done ++ [(n, i)], (q.takeFile i).2.fileOf y.2 = none := by
    intro y hy
    rcases List.mem_append.mp hy with hy | hy
    · rw [fileOf_takeFile q (hfresh y hy)]
      exact hdone y hy
    · rw [List.mem_singleton.mp hy]
      exact fileOf_takeFile_self q i
  subst hfile
  split
  · rename_i F hF
    have hkept : ∀ j < (q.takeFile i).2.graph.size,
        (q.takeFile i).2.fileOf j = (q.takeFile i).2.fileOf j := fun _ _ => rfl
    refine ((hone q (n, i) F hi hq hIq (hlt (n, i) hi) hF (hfq _ hi hfresh ▸ hF)).and
      ((edgesKeep_files fuel _ _).run_wireClass h₁.valid ⟨Nat.le_refl _, hkept⟩ n
        (hlt₁ (n, i) hi) F)).mono fun _ q' _ hw => ?_
    obtain ⟨hI', hsize', hfiles'⟩ := hw
    refine ⟨hI', fun x hx => Nat.lt_of_lt_of_le (hlt₁ x hx) hsize', fun x hx hne =>
      (hfiles' x.2 (hlt₁ x hx)).trans (hfiles₁ x hx hne), fun y hy =>
      (hfiles' y.2 (hlt₁ y ?_)).trans (hdone₁ y hy)⟩
    rcases List.mem_append.mp hy with hy | hy
    · exact hsplit ▸ List.mem_append_left _ hy
    · exact List.mem_singleton.mp hy ▸ hi
  · rename_i hnone
    rw [takeFile_of_fileOf_eq_none hnone] at h₁ hlt₁ hfiles₁ hdone₁ ⊢
    exact Run.pure h₁.valid ⟨hIq, hlt₁, hfiles₁, hdone₁⟩

end Wiring

theorem run_loadPass (hp : p.Valid) (fuel : Nat) (names : List String) :
    (Build.loadPass fuel names).Run p fun is p' => List.Forall₂ (fun n i => p'.Names n i) names is :=
  (Run.mapM (Q := fun n i p' => p'.Names n i) (I := fun _ => True) (fun _ _ _ _ hn hl => hn.later hl)
    names (fun n _ q hq _ => (run_getClass fuel n .structureAndCalls q hq).mono fun _ _ _ h =>
      ⟨h.1, trivial⟩) p hp trivial).mono fun _ _ _ h => h.1

theorem run_build (hp : p.Valid) (names : List String) : (Build.run names).Run p fun _ _ => True := by
  unfold Build.run
  refine Run.get_bind ?_
  refine Run.bind (run_loadPass hp p.fuel names) fun loaded p₁ h₁ hloaded => ?_
  exact (wiringKeeps_true p.fuel).run_wirePass h₁.valid trivial names loaded
    fun x hx => (List.forall₂_zip hloaded hx).1

theorem StructuralGraph.WellFormed.indexHierarchy {g : StructuralGraph} (hg : g.WellFormed) :
    g.indexHierarchy.WellFormed :=
  ⟨hg.key_inj, hg.method_key, hg.field_key, fun i c hc =>
    let hs := hg.classShape i c hc
    ⟨hs.methods_eq, hs.fields_eq, hs.superClass_lt, hs.interfaces_lt, hs.interfaces_nodup⟩,
    hg.link_valid, hg.links_nodup⟩

theorem Build.start_later (source : ClassSource) (names : List String) :
    ({ source, analyzable := names } : Loader).Later (Build.start source names) :=
  Loader.Valid.prefetch ⟨wellFormed_empty, fun _ h => by simp at h⟩ names .structureAndCalls

theorem Build.start_valid (source : ClassSource) (names : List String) : (Build.start source names).Valid :=
  (Build.start_later source names).valid

theorem Build.isAnalyzable_start (source : ClassSource) (names : List String) :
    (Build.start source names).isAnalyzable = names.contains := by
  funext n
  unfold isAnalyzable
  rw [(Build.start_later source names).analyzable_eq]

theorem buildGraph_wellFormed {source : ClassSource} {analyzable : List String} {g : StructuralGraph}
    (h : buildGraph source analyzable = .ok g) : g.WellFormed := by
  obtain ⟨p, hrun, rfl⟩ := buildGraph_eq_ok h
  have hlater := (run_build (Build.start_valid source (sortedDistinct analyzable))
    (sortedDistinct analyzable)).1
  rw [hrun] at hlater
  exact hlater.valid.graph.indexHierarchy

end ClassMetrics
