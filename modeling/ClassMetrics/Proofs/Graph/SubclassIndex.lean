import ClassMetrics.Proofs.Graph.Overrides
import ClassMetrics.Proofs.Dependency.Dispatch
import Mathlib.Data.Set.Card

/-!
The subclass index inverts the supertype links. After indexing, the children listed for any
number are exactly the classes that name it as their superclass or as an interface, each once
and in node order, so the count of children measured for a class is the number of its direct
subtypes, whichever way each names it. Indexing reads only the nodes, so indexing again changes
nothing. The walk down the index from a node lists every class below it once and never the node
itself, however the supertypes cycle.
-/

namespace ClassMetrics

theorem ncard_eq_length {S : Set Nat} {l : List Nat} (hl : l.Nodup) (hS : ∀ x, x ∈ l ↔ x ∈ S) :
    S.ncard = l.length := by
  have hset : S = ↑l.toFinset := by
    ext x
    rw [Finset.mem_coe, List.mem_toFinset, hS]
  rw [hset, Set.ncard_coe_finset, List.toFinset_card_of_nodup hl]

theorem measure?_measureClass {g : StructuralGraph} {c : EngineConfig} {t : SourceTree}
    {d : DependencyGraph} {cls id : Nat} {node : ClassNode} (hn : g.classNode? cls = some node)
    (hf : t.find? .cls (g.key cls) = some id) (m : Metric) :
    (measureClass g c (t, d) cls).1.measure? id m =
      (((g.classMeasures c cls node).find? (·.1 = m)).map (·.2)).or (t.measure? id m) :=
  measure?_foldl_measureClass_of_mem g c t d (l := [cls]) (List.nodup_singleton _)
    (List.mem_singleton_self _) hn hf m

namespace StructuralGraph

variable {g : StructuralGraph}

/-- The class at `c` names `p` as its superclass or as one of its interfaces. -/
def NamesSupertype (g : StructuralGraph) (c p : Nat) : Prop :=
  ∃ node, g.classNode? c = some node ∧ (node.superClass = some p ∨ p ∈ node.interfaces)

theorem directSubtype_iff {p c : Nat} : g.DirectSubtype p c ↔ g.NamesSupertype c p := by
  unfold DirectSubtype isDirectSupertype NamesSupertype
  cases g.classNode? c with
  | none => simp
  | some node => simp

theorem below_iff {p x : Nat} :
    g.Below p x ↔ Relation.TransGen (fun a b => g.NamesSupertype b a) p x := by
  have hrel : g.DirectSubtype = fun a b => g.NamesSupertype b a :=
    funext fun _ => funext fun _ => propext directSubtype_iff
  rw [Below, hrel]

theorem pairwise_lt_directSubclasses (p : Nat) : (g.directSubclasses p).Pairwise (· < ·) :=
  (List.pairwise_lt_range.filter _).filter _

theorem indexHierarchy_idem : g.indexHierarchy.indexHierarchy = g.indexHierarchy := rfl

theorem subclasses_indexHierarchy_spec (p : Nat) :
    (g.indexHierarchy.subclasses p).Pairwise (· < ·) ∧
      ∀ c, c ∈ g.indexHierarchy.subclasses p ↔ g.NamesSupertype c p := by
  rw [subclasses_indexHierarchy]
  exact ⟨pairwise_lt_directSubclasses p, fun c => mem_directSubclasses.trans directSubtype_iff⟩

theorem length_subclasses_indexHierarchy (p : Nat) :
    (g.indexHierarchy.subclasses p).length = {c | g.NamesSupertype c p}.ncard := by
  obtain ⟨hsorted, hmem⟩ := subclasses_indexHierarchy_spec (g := g) p
  exact (ncard_eq_length (List.Pairwise.imp Nat.ne_of_lt hsorted) hmem).symm

end StructuralGraph

open StructuralGraph

theorem measureClass_noc {g : StructuralGraph} {c : EngineConfig} {t : SourceTree}
    {d : DependencyGraph} {p id : Nat} {node : ClassNode}
    (hn : g.indexHierarchy.classNode? p = some node)
    (hf : t.find? .cls (g.indexHierarchy.key p) = some id) :
    (measureClass g.indexHierarchy c (t, d) p).1.measure? id .noc =
      some (.int {x | g.NamesSupertype x p}.ncard) := by
  rw [measure?_measureClass hn hf, ← length_subclasses_indexHierarchy]
  simp [classMeasures]

/-- The subclass index is the inverse of the direct-supertype relation. For every number `p`,
the indexed children of `p` are, in node order and without repeats, the classes that name `p`
as superclass or interface, so a class measures as many children as there are such classes;
indexing again changes nothing; and the walk down the index from `p` lists, once each, every
class reached from `p` by one or more such steps, and never `p`. -/
theorem indexHierarchy_invertsSupertypes (g : StructuralGraph) (p : Nat) :
    let g' := g.indexHierarchy
    (g'.subclasses p).Pairwise (· < ·) ∧
      (∀ c, c ∈ g'.subclasses p ↔ g.NamesSupertype c p) ∧
      (g'.subclasses p).length = {c | g.NamesSupertype c p}.ncard ∧
      (∀ (cfg : EngineConfig) (t : SourceTree) (d : DependencyGraph) (id : Nat) (node : ClassNode),
        g'.classNode? p = some node → t.find? .cls (g'.key p) = some id →
        (measureClass g' cfg (t, d) p).1.measure? id .noc =
          some (.int {c | g.NamesSupertype c p}.ncard)) ∧
      g'.indexHierarchy = g' ∧
      (g'.transitiveSubclasses p).Nodup ∧
      ∀ x, x ∈ g'.transitiveSubclasses p ↔
        x ≠ p ∧ Relation.TransGen (fun a b => g.NamesSupertype b a) p x := by
  intro g'
  obtain ⟨hsorted, hmem⟩ := subclasses_indexHierarchy_spec (g := g) p
  refine ⟨hsorted, hmem, length_subclasses_indexHierarchy p,
    fun cfg t d id node hn hf => measureClass_noc hn hf, indexHierarchy_idem,
    (walkInv_indexHierarchy p).nodup, fun x => ?_⟩
  rw [mem_transitiveSubclasses, below_iff]

/-- A class that extends `A` and also implements it, beside one that only extends it, and a
third below both: `A` counts two children in a tree that holds it. -/
theorem indexHierarchy_invertsSupertypes_diamond :
    let g : StructuralGraph := { nodes := #[
      .cls ⟨"A", 0x21, some .structureOnly, none, [], [], []⟩,
      .cls ⟨"B", 0x21, some .structureOnly, some 0, [], [], []⟩,
      .cls ⟨"C", 0x21, some .structureOnly, some 0, [0], [], []⟩,
      .cls ⟨"D", 0x21, some .structureOnly, some 1, [2], [], []⟩] }
    let t : SourceTree := ⟨#[{ key := "p", scope := .project, parent := none },
      { key := "A", scope := .cls, parent := some 0 }]⟩
    g.indexHierarchy.classNode? 0 = some ⟨"A", 0x21, some .structureOnly, none, [], [], []⟩ ∧
      t.find? .cls (g.indexHierarchy.key 0) = some 1 ∧
      (measureClass g.indexHierarchy {} (t, {}) 0).1.measure? 1 .noc =
        some (.int {c | g.NamesSupertype c 0}.ncard) :=
  ⟨rfl, by decide +kernel,
    (indexHierarchy_invertsSupertypes _ 0).2.2.2.1 {} _ {} 1 _ rfl (by decide +kernel)⟩

end ClassMetrics
