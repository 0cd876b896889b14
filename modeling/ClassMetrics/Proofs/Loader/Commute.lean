import ClassMetrics.Proofs.Loader.Escalation
import ClassMetrics.Proofs.Graph.Redeclare

/-! Loads at the structure level keep clear of a class that is already in the graph. Change the
node of a class `n` and its members' nodes by a node map that leaves every other key alone:
run from the changed graph, a load at the structure level gives the same outcome, and the graph
it leaves is the one the plain load leaves, changed alike. Such a load touches the keys of the
classes it loads and of their members; when class names hold no `#`, the separator of member
keys, none of these is `n`'s or a member's of `n`, and a load of `n` itself finds its node and
stops there. -/

namespace ClassMetrics

open ClassFile StructuralGraph Load

/-- A name holds no `#`, the separator of member keys. -/
def Key.Plain (s : String) : Prop := '#' ∉ s.toList

instance (s : String) : Decidable (Key.Plain s) := inferInstanceAs (Decidable ('#' ∉ s.toList))

/-- The names a class file gives its superclass and interfaces are plain. -/
def ClassFile.ClassInfo.PlainSupertypes (file : ClassInfo) : Prop :=
  (∀ s, file.superClass = some s → Key.Plain s) ∧ ∀ s ∈ file.interfaces, Key.Plain s

/-- Every class file of the source, read at any level, names plain supertypes. -/
def ClassSource.PlainSupertypes (src : ClassSource) : Prop :=
  ∀ name bytes, src.resolve name = some bytes →
    ∀ level file, ClassInfo.decode bytes level = .ok file → file.PlainSupertypes

theorem Key.append_ne_append {s n : String} (hs : Key.Plain s) (hn : Key.Plain n) (hne : s ≠ n)
    (x y : String) : s ++ "#" ++ x ≠ n ++ "#" ++ y := by
  intro h
  apply hne
  have hprefix : ∀ t z : String, Key.Plain t → (t ++ "#" ++ z).toList.takeWhile (· != '#') = t.toList := by
    intro t z ht
    have hhash : "#".toList = ['#'] := rfl
    rw [String.toList_append, String.toList_append, hhash, List.append_assoc,
      List.takeWhile_append_of_pos]
    · simp
    · intro a ha
      have hne : a ≠ '#' := fun e => ht (e ▸ ha)
      simpa using hne
  apply String.ext
  rw [← hprefix s x hs, ← hprefix n y hn, h]

theorem Key.ne_append_of_plain {s : String} (hs : Key.Plain s) (n x : String) :
    s ≠ n ++ "#" ++ x := by
  intro h
  apply hs
  rw [h, String.toList_append, String.toList_append]
  simp

theorem Key.method_eq_append (cls name descriptor : String) :
    Key.method cls name descriptor = cls ++ "#" ++ (name ++ descriptor) := by
  rw [Key.method, String.append_assoc]

/-- `τ` changes nothing under a key that is neither `n` nor a member key of `n`. -/
def NodeMap.Confined (τ : NodeMap) (n : String) : Prop :=
  ∀ k, k ≠ n → (∀ x, k ≠ n ++ "#" ++ x) → τ.Fixes k

theorem NodeMap.escalation_confined (n : String) (file : ClassInfo) :
    (NodeMap.escalation n file).Confined n :=
  fun _ hk hmem => NodeMap.escalation_fixes hk hmem

theorem NodeMap.raise_confined (n : String) (level : DetailLevel) :
    (NodeMap.raise n level).Confined n :=
  fun _ hk _ => NodeMap.raise_fixes hk

section Confined

variable {τ : NodeMap} {n s : String}

theorem NodeMap.Confined.fixes_class (hτ : τ.Confined n) (hs : Key.Plain s) (hsn : s ≠ n) :
    τ.Fixes s :=
  hτ s hsn (Key.ne_append_of_plain hs n)

theorem NodeMap.Confined.fixes_member (hτ : τ.Confined n) (hs : Key.Plain s) (hn : Key.Plain n)
    (hsn : s ≠ n) (x : String) : τ.Fixes (s ++ "#" ++ x) := by
  refine hτ _ (fun h => ?_) fun y => Key.append_ne_append hs hn hsn x y
  apply hn
  rw [← h, String.toList_append, String.toList_append]
  simp

end Confined

/-! ### The loaders the loads run from -/

/-- What loads other than `n`'s need in order to keep clear of `n`: `n` is in the graph, nothing
is decoded ahead for it, what is decoded ahead is what the source's bytes decode to, and the
source's classes name plain supertypes. -/
structure Loader.Apart (n : String) (p : Loader) : Prop where
  present : (p.graph.get? n).isSome
  prefetched_ne : ∀ e ∈ p.prefetched, e.1 ≠ n
  prefetched : ∀ e ∈ p.prefetched, ∃ bytes, p.source.resolve e.1 = some bytes ∧
    e.2.2 = ClassInfo.decode bytes e.2.1
  plain : p.source.PlainSupertypes

namespace Loader.Apart

variable {n : String} {p : Loader}

theorem filter (hp : p.Apart n) (name : String) :
    ({ p with prefetched := p.prefetched.filter (·.1 != name) } : Loader).Apart n :=
  ⟨hp.present, fun e he => hp.prefetched_ne e (List.mem_filter.mp he).1,
    fun e he => hp.prefetched e (List.mem_filter.mp he).1, hp.plain⟩

theorem withGraph (hp : p.Apart n) {g : StructuralGraph} (hext : p.graph.Extends g) :
    ({ p with graph := g } : Loader).Apart n := by
  obtain ⟨i, hi⟩ := Option.isSome_iff_exists.mp hp.present
  refine ⟨?_, hp.prefetched_ne, hp.prefetched, hp.plain⟩
  show (g.get? n).isSome
  rw [hext.get?_eq hi]
  rfl

theorem withFiles (hp : p.Apart n) (files : List (Nat × ClassInfo)) :
    ({ p with files := files } : Loader).Apart n :=
  ⟨hp.present, hp.prefetched_ne, hp.prefetched, hp.plain⟩

theorem plain_of_outcome (hp : p.Apart n) {name : String} {level : DetailLevel}
    {file : ClassInfo} (h : p.outcome name level = some (.ok file)) : file.PlainSupertypes := by
  have hfresh : (p.source.resolve name).map (ClassInfo.decode · level) = some (.ok file) →
      file.PlainSupertypes := by
    intro hf
    obtain ⟨bytes, hb, hd⟩ := Option.map_eq_some_iff.mp hf
    exact hp.plain name bytes hb level file hd
  unfold Loader.outcome at h
  split at h
  · rename_i n' l r hfind
    split at h
    · cases h
      obtain ⟨bytes, hb, hr⟩ := hp.prefetched _ (List.mem_of_find?_eq_some hfind)
      have hn' : n' = name := by simpa using List.find?_some hfind
      subst hn'
      exact hp.plain _ bytes hb l file hr.symm
    · exact hfresh h
  · exact hfresh h

end Loader.Apart

/-- The loader with its graph changed by `τ`. -/
def Loader.mapGraph (p : Loader) (τ : NodeMap) : Loader := { p with graph := p.graph.mapNodes τ }

/-- Run from a loader whose graph `τ` changed, `x` gives the outcome of the plain run and leaves
its loader with the graph changed by `τ`; the plain run keeps clear of `n` and only grows the
graph. -/
def Load.Commutes {α : Type} (τ : NodeMap) (n : String) (x : Load α) : Prop :=
  ∀ p : Loader, p.Apart n →
    x.exec (p.mapGraph τ) = ((x.exec p).1, (x.exec p).2.mapGraph τ) ∧
      (x.exec p).2.Apart n ∧ p.graph.Extends (x.exec p).2.graph

namespace Load.Commutes

variable {α β γ : Type} {τ : NodeMap} {n : String}

theorem pure (a : α) : (Pure.pure a : Load α).Commutes τ n :=
  fun _ hp => ⟨rfl, hp, Extends.refl _⟩

theorem bind {x : Load α} {f : α → Load β} (hx : x.Commutes τ n) (hf : ∀ a, (f a).Commutes τ n) :
    (x >>= f).Commutes τ n := by
  intro p hp
  obtain ⟨heq, hp', hext⟩ := hx p hp
  rw [exec_bind, exec_bind, heq]
  rcases h : x.exec p with ⟨r, p'⟩
  rw [h] at hp' hext
  cases r with
  | error e => exact ⟨rfl, hp', hext⟩
  | ok a =>
    obtain ⟨heq', hp'', hext'⟩ := hf a p' hp'
    exact ⟨heq', hp'', hext.trans hext'⟩

theorem map {x : Load α} (f : α → β) (hx : x.Commutes τ n) : (f <$> x).Commutes τ n := by
  rw [map_eq_pure_bind]
  exact bind hx fun a => pure (f a)

theorem foldlM {step : γ → β → Load γ} (bs : List β)
    (hstep : ∀ acc, ∀ b ∈ bs, (step acc b).Commutes τ n) :
    ∀ acc, (bs.foldlM step acc).Commutes τ n := by
  induction bs with
  | nil => exact fun acc => pure acc
  | cons b bs ih =>
    intro acc
    rw [List.foldlM_cons]
    exact bind (hstep acc b (List.mem_cons_self ..)) fun acc' =>
      ih (fun acc b hb => hstep acc b (List.mem_cons_of_mem _ hb)) acc'

theorem decode (name : String) (level : DetailLevel) :
    (ClassMetrics.decode name level).Commutes τ n := by
  intro p hp
  rw [decode_exec, decode_exec]
  exact ⟨rfl, hp.filter name, Extends.refl _⟩

theorem addResource {r : Resource} (hr : τ.Fixes r.key ∨ r.key = n) :
    (ClassMetrics.addResource r).Commutes τ n := by
  intro p hp
  simp only [ClassMetrics.addResource, exec_modifyGet]
  refine ⟨?_, hp.withGraph (extends_addResource r), extends_addResource r⟩
  rcases hr with hfix | hkn
  · obtain ⟨hg, hi⟩ := mapNodes_addResource (g := p.graph) (τ := τ) r
    rw [hfix r rfl] at hg hi
    simp only [Loader.mapGraph, hg, hi]
  · obtain ⟨i, hi⟩ := Option.isSome_iff_exists.mp hp.present
    rw [← hkn] at hi
    have hi' : (p.graph.mapNodes τ).get? r.key = some i := by rw [get?_mapNodes, hi]
    simp only [Loader.mapGraph, addResource_of_get?_eq_some hi, addResource_of_get?_eq_some hi']

theorem modifyGraph {f : StructuralGraph → StructuralGraph}
    (hf : ∀ g : StructuralGraph, f (g.mapNodes τ) = (f g).mapNodes τ)
    (hext : ∀ g : StructuralGraph, g.Extends (f g)) :
    (ClassMetrics.modifyGraph f).Commutes τ n := by
  intro p hp
  simp only [ClassMetrics.modifyGraph, exec_modify]
  exact ⟨by simp only [Loader.mapGraph, hf], hp.withGraph (hext _), hext _⟩

theorem storeFile (i : Nat) (file : ClassInfo) : (ClassMetrics.storeFile i file).Commutes τ n := by
  intro p hp
  simp only [ClassMetrics.storeFile, exec_modify]
  exact ⟨rfl, hp.withFiles _, Extends.refl _⟩

end Load.Commutes

/-! ### Loads at the structure level -/

/-- The supertypes an insertion loads, at the structure level: the superclass, then the
interfaces, each node once and never the class's own. -/
def loadSupertypes (fuel i : Nat) (file : ClassInfo) : Load (Option Nat × List Nat) :=
  (match file.superClass with
    | some s => some <$> getClass fuel s .structureOnly
    | none => pure none) >>= fun sup =>
  file.interfaces.foldlM (fun acc n => do
    let q ← getClass fuel n .structureOnly
    pure (if q == i || acc.contains q then acc else acc ++ [q])) [] >>= fun ifaces =>
  pure (sup, ifaces)

theorem insert_eq (fuel : Nat) (name : String) (file : ClassInfo) :
    insert fuel name file = (do
      let i ← addResource (.cls ⟨name, file.access, some file.level, none, [], [], []⟩)
      modifyGraph (·.declareMembers i name file)
      let st ← loadSupertypes fuel i file
      modifyGraph (·.modifyClass i fun c =>
        { c with superClass := st.1.filter (· != i), interfaces := st.2 })
      storeFile i file
      pure i) := by
  rw [insert]
  cases hsup : file.superClass <;> simp [loadSupertypes, hsup, bind_assoc]

theorem getClass_exec_of_get? {fuel : Nat} {p : Loader} {name : String} {level : DetailLevel}
    {i : Nat} (h : p.graph.get? name = some i)
    (hlev : ∀ current, (p.graph.classNode? i).bind (·.level) = some current → ¬ current < level) :
    (getClass (fuel + 1) name level).exec p = (.ok i, p) := by
  rw [getClass, exec_bind, exec_get]
  dsimp only
  rw [h]
  dsimp only
  split
  · rename_i current hcur
    rw [if_neg (hlev current hcur)]
    rfl
  · rfl

theorem getClass_structureOnly_exec_of_get? {fuel : Nat} {p : Loader} {name : String} {i : Nat}
    (h : p.graph.get? name = some i) :
    (getClass (fuel + 1) name .structureOnly).exec p = (.ok i, p) :=
  getClass_exec_of_get? h fun _ _ hlt => by cases DetailLevel.eq_structureAndCalls_of_lt hlt

theorem getClass_exec_of_fresh {fuel : Nat} {p : Loader} {name : String} {level : DetailLevel}
    (h : p.graph.get? name = none) :
    (getClass (fuel + 1) name level).exec p =
      (decode name level >>= fun r => match r with
        | some file => insert fuel name file
        | none => addResource (.cls (ClassNode.unresolved name))).exec p := by
  rw [getClass, exec_bind, exec_get]
  dsimp only
  exact h ▸ rfl

theorem commutes_loadSupertypes {τ : NodeMap} {n : String} {fuel : Nat}
    (hget : ∀ s, Key.Plain s → (getClass fuel s .structureOnly).Commutes τ n) {file : ClassInfo}
    (hfile : file.PlainSupertypes) (i : Nat) : (loadSupertypes fuel i file).Commutes τ n := by
  unfold loadSupertypes
  refine .bind ?_ fun sup => .bind (.foldlM _ (fun acc b hb => .bind (hget b (hfile.2 b hb))
    fun q => .pure _) _) fun ifaces => .pure _
  -- the superclass, if the file names one
  split
  · rename_i s hs
    exact .map _ (hget s (hfile.1 s hs))
  · exact .pure none

section Commutation

variable {τ : NodeMap} {n : String} (hτ : τ.Confined n) (hn : Key.Plain n)
include hτ hn

theorem commutes_insert_of {fuel : Nat}
    (hget : ∀ s, Key.Plain s → (getClass fuel s .structureOnly).Commutes τ n) {s : String}
    (hs : Key.Plain s) (hsn : s ≠ n) {file : ClassInfo} (hfile : file.PlainSupertypes) :
    (insert fuel s file).Commutes τ n := by
  have hmembers : ∀ x, τ.Fixes (s ++ "#" ++ x) := hτ.fixes_member hs hn hsn
  rw [insert_eq]
  refine .bind (.addResource (.inl (hτ.fixes_class hs hsn))) fun i => ?_
  refine .bind (.modifyGraph (fun g => (mapNodes_declareMembers (fun fi _ => hmembers fi.name)
    (fun mi _ => by rw [Key.method_eq_append]; exact hmembers _)).symm)
    (fun g => extends_declareMembers i s file)) fun _ => ?_
  refine .bind (commutes_loadSupertypes hget hfile i) fun st => ?_
  refine .bind (.modifyGraph (fun g => (mapNodes_modifyClass (f := fun c =>
    { c with superClass := st.1.filter (· != i), interfaces := st.2 }) (fun _ => rfl)
    (fun _ _ => rfl)).symm)
    (fun g => extends_modifyClass fun c _ => ⟨rfl, LevelRises.refl _⟩)) fun _ => ?_
  exact .bind (.storeFile i file) fun _ => .pure i

/-- A load at the structure level of a plain name commutes with `τ`: a load of `n` finds its node,
and any other load touches only keys that `τ` leaves alone. -/
theorem commutes_getClass (fuel : Nat) :
    ∀ s, Key.Plain s → (getClass fuel s .structureOnly).Commutes τ n := by
  induction fuel with
  | zero =>
    intro s hs
    rw [getClass]
    by_cases hsn : s = n
    · exact .addResource (.inr hsn)
    · exact .addResource (.inl (hτ.fixes_class hs hsn))
  | succ fuel ih =>
    intro s hs p hp
    cases hk : p.graph.get? s with
    | some i =>
      have hk' : (p.mapGraph τ).graph.get? s = some i := by
        simp only [Loader.mapGraph, get?_mapNodes, hk]
      rw [getClass_structureOnly_exec_of_get? hk, getClass_structureOnly_exec_of_get? hk']
      exact ⟨rfl, hp, Extends.refl _⟩
    | none =>
      -- a name not in the graph is not `n`, which is
      have hsn : s ≠ n := by
        intro hsn
        subst hsn
        have hpres := hp.present
        rw [hk] at hpres
        cases hpres
      have hk' : (p.mapGraph τ).graph.get? s = none := by
        simp only [Loader.mapGraph, get?_mapNodes, hk]
      rw [getClass_exec_of_fresh hk, getClass_exec_of_fresh hk',
        exec_bind, exec_bind, decode_exec, decode_exec]
      -- the read finds the same outcome in both loaders
      have hout : (p.mapGraph τ).outcome s .structureOnly = p.outcome s .structureOnly := rfl
      have han : (p.mapGraph τ).isAnalyzable s = p.isAnalyzable s := rfl
      rw [hout, han]
      have hp₁ := hp.filter s
      cases hr : readOutcome s (p.isAnalyzable s) (p.outcome s .structureOnly) with
      | error e => exact ⟨rfl, hp₁, Extends.refl _⟩
      | ok r =>
        cases r with
        | some file =>
          exact commutes_insert_of hτ hn ih hs hsn
            (hp.plain_of_outcome (readOutcome_eq_ok_some hr)) _ hp₁
        | none =>
          exact Load.Commutes.addResource (r := .cls (ClassNode.unresolved s))
            (.inl (hτ.fixes_class hs hsn)) _ hp₁

end Commutation

end ClassMetrics
