import ClassMetrics.Proofs.Build.Accounting

/-! The references a class provider records. Loading, resolving and decoding ahead never touch
the links of the graph, whether they succeed or fail: a load adds nodes, declares members and
sets supertypes, and nothing else. So the only links of a reachable graph are those its recorded
references made, and the edge of each pair holds the references recorded on it that the graph
admits: its weight counts them modulo `2 ^ 32`, and it is there exactly when there is one. -/

namespace ClassMetrics

open ClassFile StructuralGraph Load

/-- A load that leaves the links of the graph as they were, whether it succeeds or fails. -/
def Load.KeepsLinks {α : Type} (x : Load α) : Prop :=
  ∀ p : Loader, (x.exec p).2.graph.links = p.graph.links

namespace Load.KeepsLinks

variable {α β γ : Type}

theorem pure (a : α) : (Pure.pure a : Load α).KeepsLinks := fun _ => rfl

theorem get : (MonadState.get : Load Loader).KeepsLinks := fun _ => rfl

theorem bind {x : Load α} {f : α → Load β} (hx : x.KeepsLinks) (hf : ∀ a, (f a).KeepsLinks) :
    (x >>= f).KeepsLinks := by
  intro p
  rw [exec_bind]
  rcases h : x.exec p with ⟨r, p'⟩
  have hp' : p'.graph.links = p.graph.links := by rw [← hx p, h]
  cases r with
  | error e => exact hp'
  | ok a => exact (hf a p').trans hp'

theorem map {x : Load α} (f : α → β) (hx : x.KeepsLinks) : (f <$> x).KeepsLinks := by
  rw [map_eq_pure_bind]
  exact bind hx fun a => pure (f a)

theorem foldlM {step : γ → β → Load γ} (bs : List β) (hstep : ∀ acc b, (step acc b).KeepsLinks) :
    ∀ acc, (bs.foldlM step acc).KeepsLinks := by
  induction bs with
  | nil => exact fun acc => pure acc
  | cons b bs ih =>
    intro acc
    rw [List.foldlM_cons]
    exact bind (hstep acc b) ih

theorem addResource (r : Resource) : (ClassMetrics.addResource r).KeepsLinks := fun p =>
  links_addResource p.graph r

theorem modifyGraph {f : StructuralGraph → StructuralGraph} (hf : ∀ g, (f g).links = g.links) :
    (ClassMetrics.modifyGraph f).KeepsLinks := fun p => hf p.graph

theorem storeFile (i : Nat) (file : ClassInfo) : (ClassMetrics.storeFile i file).KeepsLinks :=
  fun _ => rfl

theorem decode (name : String) (level : DetailLevel) : (ClassMetrics.decode name level).KeepsLinks :=
  fun p => by rw [decode_exec]

end Load.KeepsLinks

/-! ### Loads keep the links -/

theorem keepsLinks_escalate (i : Nat) (name : String) (level : DetailLevel) :
    (escalate i name level).KeepsLinks := by
  unfold escalate
  refine .bind (.decode name level) fun r => ?_
  split
  · exact .pure _
  · exact .bind (.modifyGraph fun g => by rw [links_declareMembers, links_modifyClass])
      fun _ => .storeFile _ _

theorem keepsLinks_insert {fuel : Nat}
    (hget : ∀ name level, (getClass fuel name level).KeepsLinks) (name : String) (file : ClassInfo) :
    (insert fuel name file).KeepsLinks := by
  rw [insert_eq]
  refine .bind (.addResource _) fun i => .bind (.modifyGraph fun g => links_declareMembers g i name file)
    fun _ => .bind ?_ fun st => .bind (.modifyGraph fun g => links_modifyClass)
      fun _ => .bind (.storeFile i file) fun _ => .pure i
  -- the supertypes, each a load at the structure level
  unfold loadSupertypes
  refine .bind ?_ fun sup => .bind (.foldlM _ (fun acc b => .bind (hget b .structureOnly)
    fun q => .pure _) _) fun ifaces => .pure _
  split
  · exact .map _ (hget _ _)
  · exact .pure none

/-- A load at any level keeps the links, also when it fails. The induction is on the fuel, which
bounds the chain of supertypes an insertion loads. -/
theorem keepsLinks_getClass (fuel : Nat) :
    ∀ name level, (getClass fuel name level).KeepsLinks := by
  induction fuel with
  | zero =>
    intro name level
    rw [getClass]
    exact .addResource _
  | succ fuel ih =>
    intro name level
    rw [getClass]
    refine .bind .get fun p => ?_
    split
    · -- a node of that name: raised, or left as it is
      split
      · split
        · exact .bind (keepsLinks_escalate _ _ _) fun _ => .pure _
        · exact .pure _
      · exact .pure _
    · refine .bind (.decode name level) fun r => ?_
      split
      · exact keepsLinks_insert ih _ _
      · exact .addResource _

theorem keepsLinks_loadClass (name : String) (level : DetailLevel) :
    (loadClass name level).KeepsLinks :=
  .bind .get fun _ => keepsLinks_getClass _ name level

theorem keepsLinks_resolveMethod (fuel : Nat) (m : MemberRef) (isStatic : Bool) :
    (resolveMethod fuel m isStatic).KeepsLinks := by
  unfold resolveMethod
  refine .bind (keepsLinks_getClass fuel _ _) fun o => .bind .get fun q => ?_
  split
  · exact .pure _
  · exact .addResource _

theorem keepsLinks_resolveField (fuel : Nat) (m : MemberRef) (isStatic : Bool) :
    (resolveField fuel m isStatic).KeepsLinks := by
  unfold resolveField
  refine .bind (keepsLinks_getClass fuel _ _) fun o => .bind .get fun q => ?_
  split
  · exact .pure _
  · exact .addResource _

/-- Every operation of a provider but the recording of an edge keeps the links. -/
theorem LoadStep.links_eq {p p' : Loader} : LoadStep p p' → p'.graph.links = p.graph.links
  | .prefetch names level => by rw [(Loader.prefetch_spec p names level).2.1]
  | .getClass name level => keepsLinks_loadClass name level p
  | .resolveMethod m isStatic => keepsLinks_resolveMethod _ m isStatic p
  | .resolveField m isStatic => keepsLinks_resolveField _ m isStatic p
  | .takeFile _ => rfl

/-! ### Runs with their references -/

/-- The loaders a class provider over `source`, with the classes to analyse `analyzable`, reaches
from an empty graph, each with the references recorded on the way, in order. -/
inductive ReachedWith (source : ClassSource) (analyzable : List String) :
    Loader → List (Nat × Nat) → Prop
  | start : ReachedWith source analyzable { source, analyzable } []
  | load {p p' : Loader} {rs : List (Nat × Nat)} : ReachedWith source analyzable p rs →
      LoadStep p p' → ReachedWith source analyzable p' rs
  | addEdge {p : Loader} {rs : List (Nat × Nat)} (s t : Nat) (u : Usage) :
      ReachedWith source analyzable p rs → s < p.graph.size → t < p.graph.size →
      ReachedWith source analyzable { p with graph := (p.graph.addEdge s t u).1 } (rs ++ [(s, t)])

section ReachedWith

variable {source : ClassSource} {analyzable : List String} {p : Loader} {rs : List (Nat × Nat)}

theorem ReachedWith.reachable (h : ReachedWith source analyzable p rs) : Reachable source analyzable p := by
  induction h with
  | start => exact .start
  | load _ hstep ih => exact ih.step (.load hstep)
  | addEdge s t u _ hs ht ih => exact ih.step (.addEdge s t u hs ht)

/-- Along a run the graph holds the references recorded, from nodes it has. -/
theorem ReachedWith.adds (h : ReachedWith source analyzable p rs) :
    ({} : StructuralGraph).Adds p.graph rs ∧ ∀ e ∈ rs, e.1 < p.graph.size := by
  induction h with
  | start => exact ⟨Adds.nil rfl, fun _ he => absurd he List.not_mem_nil⟩
  | load h hstep ih =>
    obtain ⟨hadds, hsrc⟩ := ih
    have hlater := hstep.later h.reachable.valid
    refine ⟨?_, fun e he => Nat.lt_of_lt_of_le (hsrc e he) hlater.graph.size_le⟩
    simpa using hadds.trans (Adds.nil hstep.links_eq) hlater.graph hsrc
  | @addEdge q _ s t u _ hs _ ih =>
    obtain ⟨hadds, hsrc⟩ := ih
    have hext := extends_addEdge (g := q.graph) s t u
    refine ⟨hadds.trans (Adds.addEdge rfl t u) hext hsrc, fun e he => ?_⟩
    rcases List.mem_append.mp he with he | he
    · exact Nat.lt_of_lt_of_le (hsrc e he) hext.size_le
    · rw [List.mem_singleton.mp he]
      exact Nat.lt_of_lt_of_le hs hext.size_le

/-- **The invariant of the structural graph, with its weights.** Every loader a class provider
reaches, also one a failed operation left behind, has the graph `Loader.GraphInvariant`
describes; and the edge from `a` to `b` holds the references recorded on that pair, none when
the graph refuses it: its weight is their number modulo `2 ^ 32`, and it is there exactly when
there is one. -/
theorem recorded_graphInvariant (h : ReachedWith source analyzable p rs) :
    p.GraphInvariant ∧
      ∀ a b, p.graph.Records a b (if p.graph.Admits a b then rs.count (a, b) else 0) := by
  refine ⟨reachable_graphInvariant h.reachable, fun a b => ?_⟩
  obtain ⟨hw, hl⟩ := h.adds.1.of_links_empty rfl a b
  exact h.reachable.valid.graph.records hw hl

/-- Two references recorded from one placeholder to another: the edge holds both. -/
theorem recorded_twoReferences :
    let p₀ : Loader := { source := [], analyzable := [] }
    let p₁ := ((loadClass "A" .structureOnly).exec p₀).2
    let p₂ := ((loadClass "B" .structureOnly).exec p₁).2
    let p₃ : Loader := { p₂ with graph := (p₂.graph.addEdge 0 1 .uses).1 }
    let p₄ : Loader := { p₃ with graph := (p₃.graph.addEdge 0 1 .uses).1 }
    ReachedWith [] [] p₄ [(0, 1), (0, 1)] ∧ p₄.GraphInvariant ∧ p₄.graph.Records 0 1 2 := by
  intro p₀ p₁ p₂ p₃ p₄
  -- two placeholders, the first of which admits a reference to the second
  have h₂ : p₂.graph.size = 2 ∧ p₂.graph.Admits 0 1 := by
    simp only [p₂, p₁, loadClass, Loader.fuel, getClass, ClassMetrics.addResource,
      StructuralGraph.addResource, get?_eq_findIdx?]
    decide
  have hext : p₂.graph.Extends p₄.graph := (extends_addEdge 0 1 .uses).trans (extends_addEdge 0 1 .uses)
  have h₃ : p₂.graph.size ≤ p₃.graph.size := (extends_addEdge 0 1 .uses).size_le
  have hs₂ : 0 < p₂.graph.size ∧ 1 < p₂.graph.size := by omega
  have hs₃ : 0 < p₃.graph.size ∧ 1 < p₃.graph.size := by omega
  have hrec : ReachedWith [] [] p₄ [(0, 1), (0, 1)] :=
    .addEdge 0 1 .uses (.addEdge 0 1 .uses (.load (.load .start (.getClass "A" .structureOnly))
      (.getClass "B" .structureOnly)) hs₂.1 hs₂.2) hs₃.1 hs₃.2
  obtain ⟨hinv, hrecords⟩ := recorded_graphInvariant hrec
  refine ⟨hrec, hinv, ?_⟩
  simpa [(hext.admits_iff (by omega) 1).mpr h₂.2] using hrecords 0 1

/-- With `#` in a class name, a member can stand where a class is expected: resolving the
field `f` of `A` and then a method `m` of the class `A#f` makes the method on the field node
keyed `A#f`, and no class owns it. -/
theorem method_owned_by_field :
    let p₀ : Loader := { source := [], analyzable := [] }
    let p₁ := ((resolveField p₀.fuel ⟨"A", "f", "()V"⟩ false).exec p₀).2
    let p₂ := ((resolveMethod p₁.fuel ⟨"A#f", "m", "()V"⟩ false).exec p₁).2
    ReachedWith [] [] p₂ [] ∧ (p₂.graph.methodNode? 2).map (·.owner) = some 1 ∧
      (p₂.graph.fieldNode? 1).map (·.key) = some "A#f" ∧ p₂.graph.classNode? 1 = none := by
  intro p₀ p₁ p₂
  refine ⟨.load (.load .start (.resolveField _ _)) (.resolveMethod _ _), ?_⟩
  simp only [p₂, p₁, resolveField, resolveMethod, Loader.fuel, getClass, ClassMetrics.addResource,
    StructuralGraph.addResource, get?_eq_findIdx?]
  decide

end ReachedWith

end ClassMetrics
