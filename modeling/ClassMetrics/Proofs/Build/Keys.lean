import ClassMetrics.Proofs.Order.Sources
import ClassMetrics.Proofs.Graph.Resolution

/-!
A built graph read key by key. Every class a build loads has a class node under its name, at the
level the build gives it: with bodies when it is to be analysed, at the structure level when its
bytes read, and a placeholder otherwise. A class read keeps the access of its file and names its
supertypes by key as the file does, and every place of a file analysed leads to a node. These are
the facts, stated of the source alone, that fix a built graph up to the numbering of its nodes.
-/

namespace ClassMetrics

open ClassFile StructuralGraph

theorem mem_firstOfEach {x : String} (xs : List String) : x ∈ firstOfEach xs ↔ x ∈ xs := by
  induction xs using List.reverseRecOn with
  | nil => simp [firstOfEach]
  | append_singleton xs n ih =>
    rw [firstOfEach_append_singleton]
    split
    · rename_i hn
      rw [ih, List.mem_append, List.mem_singleton]
      constructor
      · exact Or.inl
      · rintro (hx | rfl)
        · exact hx
        · exact ih.mp (List.contains_iff_mem.mp hn)
    · rw [List.mem_append, ih, List.mem_append]

theorem ClassSource.reads_iff_readAt {S : ClassSource} {n : String} {l : DetailLevel}
    {file : ClassInfo} : S.Reads n l file ↔ S.readAt n l = some (.ok file) := by
  unfold Reads readAt
  constructor
  · rintro ⟨bytes, hb, hd⟩
    rw [hb, Option.map_some, hd]
  · intro h
    obtain ⟨bytes, hb, hd⟩ := Option.map_eq_some_iff.mp h
    exact ⟨bytes, hb, hd⟩

/-- The level a build leaves a class at: with bodies when it is to be analysed, at the structure
level when its bytes read, and none, a placeholder, when they do not. -/
def ClassSource.loadedLevel (S : ClassSource) (A : String → Bool) (n : String) :
    Option DetailLevel :=
  if A n then some .structureAndCalls
  else match S.readAt n .structureOnly with
    | some (.ok _) => some .structureOnly
    | _ => none

theorem ClassSource.MembersPermuted.loadedLevel_eq {S S' : ClassSource}
    (h : S.MembersPermuted S') (A : String → Bool) (n : String) :
    S'.loadedLevel A n = S.loadedLevel A n := by
  unfold loadedLevel
  split
  · rfl
  · have halike := h n .structureOnly
    revert halike
    rcases S.readAt n .structureOnly with _ | _ | _ <;> rcases S'.readAt n .structureOnly with _ | _ | _ <;>
      simp [ReadsAlike]

/-! ### Places lead to nodes -/

section Places

variable {g : StructuralGraph}

theorem SitesRead.target_isSome {sites : Except FormatError (List Site)} (h : SitesRead g sites)
    {σs : List Site} (hs : sites = .ok σs) {σ : Site} (hσ : σ ∈ σs) : (Site.target g σ).isSome := by
  obtain ⟨σs', ts, hs', hmap⟩ := h
  rw [hs] at hs'
  cases hs'
  obtain ⟨t, -, ht⟩ := List.mem_map.mp (hmap ▸ List.mem_map_of_mem hσ : Site.target g σ ∈ ts.map some)
  rw [← ht]
  rfl

theorem ClassRead.target_isSome {n : String} {i : Nat} {file : ClassInfo} (h : ClassRead g n i file)
    {σ : Site} (hσ : file.HasSite σ) : (Site.target g σ).isSome := by
  rcases hσ with ⟨f, hf, σs, hs, hσ⟩ | ⟨m, hm, σs, hs, hσ⟩ | ⟨σs, hs, hσ⟩
  · exact (h.fields f hf).2.target_isSome hs hσ
  · exact (h.methods m hm).2.target_isSome hs hσ
  · exact h.signature.target_isSome hs hσ

end Places

namespace StructuralGraph

variable {g : StructuralGraph}

theorem Site.get?_className_isSome {σ : Site} (h : (Site.target g σ).isSome) :
    (g.get? σ.className).isSome := by
  cases σ with
  | type n => exact h
  | method r s =>
    cases ho : g.get? r.owner with
    | none => simp [Site.target, ho] at h
    | some o => simp [Site.className, ho]
  | field r s =>
    cases ho : g.get? r.owner with
    | none => simp [Site.target, ho] at h
    | some o => simp [Site.className, ho]

/-! ### A built graph, key by key -/

namespace Built

variable {S : ClassSource} {names : List String} (h : g.Built S names)
include h

theorem get?_key {i : Nat} {c : ClassNode} (hc : g.classNode? i = some c) : g.get? c.key = some i :=
  h.wellFormed.get?_eq_some_iff.mpr ⟨lt_size_of_resource? (classNode?_eq_some.mp hc),
    key_of_resource? (classNode?_eq_some.mp hc)⟩

theorem target_isSome {σ : Site} (hσ : S.AnalysedSite names.contains σ) :
    (Site.target g σ).isSome := by
  obtain ⟨n, file, hn, hr, hs⟩ := hσ
  obtain ⟨i, c, file', -, -, -, hr', hread⟩ := h.analysed n (List.contains_iff_mem.mp hn)
  cases hr.unique hr'
  exact hread.target_isSome hs

theorem supertypesOf {i : Nat} {c : ClassNode} (hc : g.classNode? i = some c) {l : DetailLevel}
    {file : ClassInfo} (hr : S.Reads c.key l file) : c.SupertypesOf g file := by
  obtain ⟨-, hnone, hsome⟩ := h.faithful.classes i c hc
  cases hl : c.level with
  | none => exact absurd hr.toStructure.choose_spec.1 ((hnone hl).2.2.2 _)
  | some l' =>
    obtain ⟨file', hr', -, hsup, -⟩ := hsome l' hl
    obtain ⟨hs, hi⟩ := hr'.supertypes_eq hr
    have hsup := hsup not_false
    unfold ClassNode.SupertypesOf at hsup ⊢
    rw [hs, hi]
    exact hsup

theorem placeholder {i : Nat} {c : ClassNode} (hc : g.classNode? i = some c)
    (hl : c.level = none) : c.access = 0 ∧ c.superClass = none ∧ c.interfaces = [] :=
  let h := ((h.faithful.classes i c hc).2.1 hl)
  ⟨h.1, h.2.1, h.2.2.1⟩

theorem access_eq {i : Nat} {c : ClassNode} (hc : g.classNode? i = some c) {l : DetailLevel}
    {file : ClassInfo} (hr : S.Reads c.key l file) : c.access = file.access := by
  obtain ⟨-, hnone, hsome⟩ := h.faithful.classes i c hc
  cases hl : c.level with
  | none => exact absurd hr.toStructure.choose_spec.1 ((hnone hl).2.2.2 _)
  | some l' =>
    obtain ⟨file', hr', hacc, -⟩ := hsome l' hl
    obtain ⟨f₀, h₀, ha₀, -⟩ := hr.toStructure
    obtain ⟨f₁, h₁, ha₁, -⟩ := hr'.toStructure
    cases h₀.unique h₁
    rw [hacc, ← ha₁, ha₀]

/-- A class of a built graph is at the level the build gives it. -/
theorem level_eq {i : Nat} {c : ClassNode} (hc : g.classNode? i = some c) :
    c.level = S.loadedLevel names.contains c.key := by
  obtain ⟨-, hnone, hsome⟩ := h.faithful.classes i c hc
  have hallowed := h.levels.classes i c hc
  unfold ClassSource.loadedLevel
  split
  · -- a class to analyse is read with bodies, at the one node of its key
    rename_i hA
    obtain ⟨i', c', -, hi', hc', hlev, -⟩ := h.analysed c.key (List.contains_iff_mem.mp hA)
    rw [h.get?_key hc] at hi'
    cases hi'
    rw [hc] at hc'
    cases hc'
    exact hlev
  · rename_i hA
    have hA : names.contains c.key = false := by simpa using hA
    cases hl : c.level with
    | none =>
      -- a placeholder's bytes do not read
      cases hr : S.readAt c.key .structureOnly with
      | none => rfl
      | some r =>
        cases r with
        | error e => rfl
        | ok file => exact absurd (ClassSource.reads_iff_readAt.mpr hr) ((hnone hl).2.2.2 file)
    | some l =>
      obtain ⟨file, hr, -⟩ := hsome l hl
      obtain ⟨f₀, h₀, -⟩ := hr.toStructure
      rw [ClassSource.reads_iff_readAt.mp h₀]
      cases l with
      | structureOnly => rfl
      | structureAndCalls => exact absurd hl (hallowed.2 hA)

/-- Every class a build loads has a class node under its name. -/
theorem classNode_of_loads (hK : S.Keyable names.contains) {k : String}
    (hk : S.Loads names.contains k) : ∃ i c, g.get? k = some i ∧ g.classNode? i = some c := by
  -- a node under the plain name of a class loaded is a class
  have hcls : ∀ {k i}, S.Loads names.contains k → g.get? k = some i → ∃ c, g.classNode? i = some c :=
    fun hk hi => by
      obtain ⟨hlt, hkey⟩ := key_of_get? hi
      exact h.wellFormed.classNode_of_key hlt (hkey ▸ hK.plain _ hk)
  induction hk with
  | analysed hn =>
    obtain ⟨i, c, -, hi, hc, -⟩ := h.analysed _ (List.contains_iff_mem.mp hn)
    exact ⟨i, c, hi, hc⟩
  | named hσ =>
    obtain ⟨i, hi⟩ := Option.isSome_iff_exists.mp (Site.get?_className_isSome (h.target_isSome hσ))
    obtain ⟨c, hc⟩ := hcls (.named hσ) hi
    exact ⟨i, c, hi, hc⟩
  | @supertype n t file hn hr ht ih =>
    obtain ⟨i, c, hi, hc⟩ := ih
    have hkey : c.key = n :=
      (key_of_resource? (classNode?_eq_some.mp hc)).symm.trans (key_of_get? hi).2
    by_cases htn : t = n
    · exact ⟨i, c, htn ▸ hi, hc⟩
    -- a supertype other than the class is among those its node names, by key
    have hsup := h.supertypesOf hc (hkey ▸ hr)
    have hshape := h.wellFormed.classShape i c hc
    have hnode : ∃ s, g.key s = t ∧ s < g.size := by
      rcases ht with ht | ht
      · have hmap := hsup.1
        rw [ht, hkey] at hmap
        simp only [Option.filter_some, bne_iff_ne, ne_eq, htn, not_false_eq_true] at hmap
        obtain ⟨s, hs, hks⟩ := Option.map_eq_some_iff.mp hmap
        exact ⟨s, hks, (hshape.superClass_lt s hs).1⟩
      · have hmem : t ∈ c.interfaces.map g.key := by
          rw [hsup.2, mem_firstOfEach, List.mem_filter, hkey]
          exact ⟨ht, by simpa using htn⟩
        obtain ⟨s, hs, hks⟩ := List.mem_map.mp hmem
        exact ⟨s, hks, (hshape.interfaces_lt s hs).1⟩
    obtain ⟨s, hks, hs⟩ := hnode
    have hget : g.get? t = some s := h.wellFormed.get?_eq_some_iff.mpr ⟨hs, hks⟩
    obtain ⟨c', hc'⟩ := hcls (.supertype hn hr ht) hget
    exact ⟨s, c', hget, hc'⟩

/-- A supertype a class names is a class the build loads. -/
theorem loads_key_of_supertype {i : Nat} {c : ClassNode} (hc : g.classNode? i = some c) {s : Nat}
    (hs : c.superClass = some s ∨ s ∈ c.interfaces) : S.Loads names.contains (g.key s) := by
  obtain ⟨hloads, hnone, hsome⟩ := h.faithful.classes i c hc
  cases hl : c.level with
  | none =>
    obtain ⟨-, hsup, hifs, -⟩ := hnone hl
    rw [hsup, hifs] at hs
    rcases hs with hs | hs
    · cases hs
    · cases hs
  | some l =>
    obtain ⟨file, hr, -, hsup, -⟩ := hsome l hl
    obtain ⟨file₀, hr₀, -, hs₀, hi₀⟩ := hr.toStructure
    have hsup := hsup not_false
    refine .supertype hloads hr₀ ?_
    rw [hs₀, hi₀]
    rcases hs with hs | hs
    · -- the superclass named by key is the file's, unless the class names itself
      have hmap := hsup.1
      rw [hs, Option.map_some] at hmap
      exact .inl (Option.filter_eq_some_iff.mp hmap.symm).1
    · have hmem : g.key s ∈ c.interfaces.map g.key := List.mem_map_of_mem hs
      rw [hsup.2, mem_firstOfEach] at hmem
      exact .inr (List.mem_filter.mp hmem).1

theorem linksToClasses (hK : S.Keyable names.contains) : g.LinksToClasses := by
  intro k c hc
  have hclass : ∀ s, (c.superClass = some s ∨ s ∈ c.interfaces) → (g.classNode? s).isSome := by
    intro s hs
    have hshape := h.wellFormed.classShape k c hc
    have hlt : s < g.size := by
      rcases hs with hs | hs
      · exact (hshape.superClass_lt s hs).1
      · exact (hshape.interfaces_lt s hs).1
    obtain ⟨c', hc'⟩ := h.wellFormed.classNode_of_key hlt (hK.plain _ (h.loads_key_of_supertype hc hs))
    rw [hc']
    rfl
  exact ⟨fun s hs => hclass s (.inl hs), fun s hs => hclass s (.inr hs)⟩

theorem made {j : Nat} {r : Resource} (hr : g.resource? j = some r) (hd : r.isDeclared = false)
    (hcls : ∀ c, r ≠ .cls c) : ∃ σ o, S.AnalysedSite names.contains σ ∧ σ.used o = some r := by
  cases r with
  | cls c => exact absurd rfl (hcls c)
  | method m =>
    obtain ⟨ρ, s, hσ, hm⟩ := h.faithful.usedMethods j m (methodNode?_eq_some.mpr hr) hd
    exact ⟨.method ρ s, m.owner, hσ, by rw [Site.used, ← hm]⟩
  | field f =>
    obtain ⟨ρ, s, hσ, hf⟩ := h.faithful.usedFields j f (fieldNode?_eq_some.mpr hr) hd
    exact ⟨.field ρ s, f.owner, hσ, by rw [Site.used, ← hf]⟩

end Built

end StructuralGraph

end ClassMetrics
