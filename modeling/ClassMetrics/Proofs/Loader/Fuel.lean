import Mathlib.Data.Finset.Card
import ClassMetrics.Proofs.ClassFile.Contents
import ClassMetrics.Proofs.Loader.Classes

/-!
Why a loader's fuel never runs out. A chain of loads reads a new class at each link, and every
class after the first is named as a supertype by the file read before it, so by a text of that
file's constant pool. The texts of all pools of a source are at most a third as many as its
bytes. The texts not yet in the graph therefore count the loads a chain can still make: each
load of one of them leaves one fewer, and the loader's fuel is more than all of them.
-/

namespace ClassMetrics

open ClassFile StructuralGraph Load Loader

/-! ### The files a source can read -/

namespace ClassStore

/-- Every byte string a store can read a class from. -/
def files : ClassStore → List (List UInt8)
  | .table cs => cs.map (·.2)
  | .directory t _ => t.files.map (·.2)
  | .archive es => es.filterMap (·.2)

theorem bytes_eq_sum_files (s : ClassStore) : s.bytes = (s.files.map List.length).sum := by
  cases s with
  | table cs => simp [bytes, files, Function.comp_def]
  | directory t place => simp [bytes, files, Function.comp_def]
  | archive es =>
    simp only [bytes, files]
    induction es with
    | nil => rfl
    | cons e es ih =>
      obtain ⟨name, b⟩ := e
      cases b <;> simp [ih]

theorem resolve_mem_files {s : ClassStore} {name : String} {b : List UInt8}
    (h : s.resolve name = some b) : b ∈ s.files := by
  cases s with
  | table cs =>
    obtain ⟨e, he, rfl⟩ := Option.map_eq_some_iff.mp h
    exact List.mem_map.mpr ⟨e, List.mem_of_find?_eq_some he, rfl⟩
  | directory t place =>
    obtain ⟨parts, -, hfile⟩ := Option.bind_eq_some_iff.mp h
    obtain ⟨e, he, rfl⟩ := Option.map_eq_some_iff.mp hfile
    -- a file of the tree is stored under the parts of its path
    obtain ⟨⟨path, b'⟩, hmem, hparts⟩ := List.mem_filterMap.mp (List.mem_of_find?_eq_some he)
    obtain ⟨ps, -, rfl⟩ := Option.map_eq_some_iff.mp hparts
    exact List.mem_map.mpr ⟨_, hmem, rfl⟩
  | archive es =>
    obtain ⟨e, he, hb⟩ := Option.bind_eq_some_iff.mp h
    exact List.mem_filterMap.mpr ⟨e, List.mem_of_find?_eq_some he, hb⟩

end ClassStore

theorem length_flatMap_poolTexts (bs : List (List UInt8)) :
    3 * (bs.flatMap poolTexts).length ≤ (bs.map List.length).sum := by
  induction bs with
  | nil => simp
  | cons b bs ih =>
    have hb := length_poolTexts b
    simp only [List.flatMap_cons, List.length_append, List.map_cons, List.sum_cons]
    omega

namespace ClassSource

/-- Every text of the pool of every file a source can read. -/
def poolNames (s : ClassSource) : List String :=
  s.flatMap fun st => st.files.flatMap poolTexts

theorem length_poolNames (s : ClassSource) :
    3 * s.poolNames.length ≤ (s.map ClassStore.bytes).sum := by
  induction s with
  | nil => simp [poolNames]
  | cons st s ih =>
    have hst := length_flatMap_poolTexts st.files
    rw [← ClassStore.bytes_eq_sum_files] at hst
    simp only [poolNames, List.flatMap_cons, List.length_append, List.map_cons,
      List.sum_cons] at ih ⊢
    omega

theorem length_poolNames_lt_size (s : ClassSource) : s.poolNames.length < s.size := by
  have h := s.length_poolNames
  unfold size
  omega

theorem supertype_mem_poolNames {s : ClassSource} {name t : String} {bytes : List UInt8}
    {level : DetailLevel} {file : ClassInfo} (hr : s.resolve name = some bytes)
    (hd : ClassInfo.decode bytes level = .ok file)
    (ht : file.superClass = some t ∨ t ∈ file.interfaces) : t ∈ s.poolNames := by
  obtain ⟨st, hst, hres⟩ := List.exists_of_findSome?_eq_some hr
  exact List.mem_flatMap.mpr ⟨st, hst, List.mem_flatMap.mpr
    ⟨bytes, ClassStore.resolve_mem_files hres, ClassInfo.supertype_mem_poolTexts hd ht⟩⟩

end ClassSource

/-! ### The loads left -/

namespace Loader

/-- The pool texts of the source that are not yet keys of the graph. -/
def unloaded (p : Loader) : Nat :=
  (p.source.poolNames.toFinset.filter fun n => p.graph.get? n = none).card

variable {p p' : Loader}

theorem unloaded_lt_size (p : Loader) : p.unloaded < p.source.size :=
  calc p.unloaded ≤ p.source.poolNames.toFinset.card := Finset.card_filter_le _ _
    _ ≤ p.source.poolNames.length := List.toFinset_card_le _
    _ < p.source.size := p.source.length_poolNames_lt_size

theorem Later.unloaded_subset (h : p.Later p') :
    (p'.source.poolNames.toFinset.filter fun n => p'.graph.get? n = none) ⊆
      p.source.poolNames.toFinset.filter fun n => p.graph.get? n = none := by
  intro n hn
  rw [Finset.mem_filter, h.source_eq] at hn
  refine Finset.mem_filter.mpr ⟨hn.1, ?_⟩
  cases hk : p.graph.get? n with
  | none => rfl
  | some i => rw [h.graph.get?_eq hk] at hn; cases hn.2

theorem Later.unloaded_le (h : p.Later p') : p'.unloaded ≤ p.unloaded :=
  Finset.card_le_card h.unloaded_subset

theorem Later.unloaded_lt (h : p.Later p') {n : String} (hn : n ∈ p.source.poolNames)
    (hfresh : p.graph.get? n = none) (hin : p'.graph.get? n ≠ none) : p'.unloaded < p.unloaded := by
  apply Finset.card_lt_card
  refine Finset.ssubset_iff_subset_ne.mpr ⟨h.unloaded_subset, fun he => hin ?_⟩
  have hmem : n ∈ p.source.poolNames.toFinset.filter fun n => p.graph.get? n = none :=
    Finset.mem_filter.mpr ⟨List.mem_toFinset.mpr hn, hfresh⟩
  rw [← he] at hmem
  exact (Finset.mem_filter.mp hmem).2

/-- Enough fuel to load `name`: more than the texts left, and one more when `name` is none of
them. -/
def FuelFor (k : Nat) (name : String) (p : Loader) : Prop :=
  p.unloaded < k ∧ (name ∉ p.source.poolNames → p.unloaded + 1 < k)

theorem FuelFor.later {k : Nat} {name : String} (h : p.FuelFor k name) (hl : p.Later p') :
    p'.FuelFor k name := by
  have hle := hl.unloaded_le
  refine ⟨by have := h.1; omega, fun hn => ?_⟩
  rw [hl.source_eq] at hn
  have := h.2 hn
  omega

theorem FuelFor.pos {k : Nat} {name : String} (h : p.FuelFor k name) : 0 < k :=
  Nat.lt_of_le_of_lt (Nat.zero_le _) h.1

theorem fuelFor_of_succ_lt {k : Nat} (h : p.unloaded + 1 < k) (name : String) : p.FuelFor k name :=
  ⟨by omega, fun _ => h⟩

theorem unloaded_succ_lt_fuel (p : Loader) : p.unloaded + 1 < p.fuel := by
  have h := p.unloaded_lt_size
  unfold fuel
  omega

theorem FuelFor.supertype {k : Nat} {name t : String} (h : p.FuelFor (k + 1) name)
    (hfresh : p.graph.get? name = none) {p₁ : Loader} (hl : p.Later p₁)
    (hin : p₁.graph.get? name ≠ none) (ht : t ∈ p.source.poolNames) (hl' : p₁.Later p') :
    p'.FuelFor k t := by
  have hle := hl'.unloaded_le
  have hlt : p₁.unloaded < k := by
    by_cases hn : name ∈ p.source.poolNames
    · have := hl.unloaded_lt hn hfresh hin
      have := h.1
      omega
    · have := hl.unloaded_le
      have := h.2 hn
      omega
  refine ⟨by omega, fun hn => absurd ?_ hn⟩
  rw [hl'.source_eq, hl.source_eq]
  exact ht

end Loader

end ClassMetrics
