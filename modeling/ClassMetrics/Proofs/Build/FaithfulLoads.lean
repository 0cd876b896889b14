import ClassMetrics.Proofs.Build.Faithful

/-!
The loads of a build keep its graph faithful to the source. A load of a class reads it, adds it
with its members, loads its supertypes and records them by key; or raises it to its file read with
bodies; or adds a placeholder for bytes that do not read. With fuel for every text of the source
left, no load ends in a placeholder for a class that reads, so each step is one of the changes of
`Faithful.lean`, and the load as a whole keeps a faithful graph faithful. A class being inserted
is pending while its supertypes load; a class is raised only from outside every insertion.
-/

namespace ClassMetrics

open ClassFile StructuralGraph Load Loader

/-- What faithfulness asks of a source: the classes a build loads have names with no `#`, and
each file that reads has distinct member keys. -/
structure ClassSource.Keyable (S : ClassSource) (A : String → Bool) : Prop where
  plain : ∀ n, S.Loads A n → Key.Plain n
  memberKeys : ∀ n l file, S.Reads n l file → (file.memberKeys n).Nodup

variable {p : Loader}

/-- A fold whose step keeps an invariant of the elements already folded. -/
theorem Load.Run.foldlM_of_step {β γ : Type} {step : γ → β → Load γ} {bs : List β}
    {I : List β → γ → Loader → Prop}
    (hstep : ∀ done b rest, done ++ b :: rest = bs → ∀ acc q, q.Valid → I done acc q →
      (step acc b).Run q (I (done ++ [b]))) {acc : γ} (hp : p.Valid) (hI : I [] acc p) :
    (bs.foldlM step acc).Run p (I bs) := by
  suffices h : ∀ rest done acc (q : Loader), done ++ rest = bs → q.Valid → I done acc q →
      (rest.foldlM step acc).Run q (I bs) from h bs [] acc p rfl hp hI
  intro rest
  induction rest with
  | nil =>
    intro done acc q hdone hq hI
    rw [List.append_nil] at hdone
    subst hdone
    exact Load.Run.pure hq hI
  | cons b rest ih =>
    intro done acc q hdone hq hI
    rw [List.foldlM_cons]
    exact Load.Run.bind (hstep done b rest hdone acc q hq hI) fun acc' q' hl hI' =>
      ih (done ++ [b]) acc' q' (by rw [List.append_assoc]; exact hdone) hl.valid hI'

/-! ### The supertypes of a class, by key -/

theorem firstOfEach_append_singleton (xs : List String) (n : String) :
    firstOfEach (xs ++ [n]) =
      if (firstOfEach xs).contains n then firstOfEach xs else firstOfEach xs ++ [n] := by
  unfold firstOfEach
  rw [List.foldl_append]
  rfl

/-- The step that collects a class's interfaces, read by keys: the class itself and a repeat are
dropped, so the keys are the first of each name but the class's own. -/
theorem interfaces_step_keys {g : StructuralGraph} (hg : g.WellFormed) {i q : Nat}
    {name n : String} (hi : i < g.size) (hki : g.key i = name) (hq : q < g.size)
    (hkq : g.key q = n) {acc : List Nat} (hacc : ∀ s ∈ acc, s < g.size) {done : List String}
    (hkeys : acc.map g.key = firstOfEach (done.filter (· != name))) :
    (if q == i || acc.contains q then acc else acc ++ [q]).map g.key =
      firstOfEach ((done ++ [n]).filter (· != name)) := by
  have hinj : ∀ a b, a < g.size → b < g.size → g.key a = g.key b → a = b := hg.key_inj
  rw [List.filter_append]
  by_cases hn : n = name
  · -- the class itself
    have hqi : q = i := hinj q i hq hi (hkq.trans (hn.trans hki.symm))
    simp [hqi, hn, hkeys]
  · have hqi : q ≠ i := fun h => hn (hkq.symm.trans (h ▸ hki))
    have hmem : (acc.map g.key).contains n = acc.contains q := by
      rw [Bool.eq_iff_iff, List.contains_iff_mem, List.contains_iff_mem]
      constructor
      · intro hn'
        obtain ⟨s, hs, hsk⟩ := List.mem_map.mp hn'
        exact hinj s q (hacc s hs) hq (hsk.trans hkq.symm) ▸ hs
      · intro hq'
        exact hkq ▸ List.mem_map_of_mem hq'
    have hfilter : [n].filter (· != name) = [n] := by simp [hn]
    have hqi' : (q == i) = false := by simp [hqi]
    rw [hfilter, firstOfEach_append_singleton, ← hkeys, hmem, hqi', Bool.false_or]
    split <;> simp [hkq]

/-- Loading the supertypes of class `i`, named `name`, by loads that return the node of the name
asked and keep a relation `R`: the superclass found is keyed as the file's, and the interfaces
are keyed as the file's but the class itself, the first of each. -/
theorem run_loadSupertypes_keys {k i : Nat} {name : String} {R : Loader → Loader → Prop}
    (hrefl : ∀ q, q.Valid → R q q) (htrans : ∀ {q₁ q₂ q₃}, R q₁ q₂ → R q₂ q₃ → R q₁ q₃)
    (file : ClassInfo)
    (hget : ∀ n q, (file.superClass = some n ∨ n ∈ file.interfaces) → q.Valid → R p q →
      (getClass k n .structureOnly).Run q fun j q' => q'.Names n j ∧ R q q')
    (hp : p.Valid) (hi : p.Names name i) :
    (loadSupertypes k i file).Run p fun st p' => R p p' ∧
      st.1.map p'.graph.key = file.superClass ∧
      st.2.map p'.graph.key = firstOfEach (file.interfaces.filter (· != name)) := by
  unfold loadSupertypes
  -- the superclass first
  refine Run.bind (Q := fun sup (q : Loader) => R p q ∧ (∀ s, sup = some s → s < q.graph.size) ∧
    sup.map q.graph.key = file.superClass) ?_ fun sup q h hsq => ?_
  · split
    · rename_i s hs
      exact Run.map ((hget s p (.inl hs) hp (hrefl p hp)).mono fun j q' _ hj =>
        ⟨hj.2, fun s' hs' => (by cases hs'; exact hj.1.1), by rw [hs, Option.map_some, hj.1.2]⟩)
    · rename_i hs
      exact Run.pure hp ⟨hrefl p hp, fun s hs' => (by cases hs'), by rw [hs]; rfl⟩
  -- then the interfaces, keyed as the names folded so far
  obtain ⟨hR, hsup, hskey⟩ := hsq
  refine Run.bind (Run.foldlM_of_step (I := fun done acc (q' : Loader) => p.Later q' ∧ q.Later q' ∧
      R p q' ∧ (∀ s ∈ acc, s < q'.graph.size) ∧
      acc.map q'.graph.key = firstOfEach (done.filter (· != name))) ?_ h.valid
    ⟨h, Later.refl h.valid, hR, by simp, rfl⟩)
    fun ifaces q' h' hfold => Run.pure h'.valid ⟨hfold.2.2.1, ?_, hfold.2.2.2.2⟩
  · rintro done n rest hsplit acc q₁ hq₁ ⟨hp₁, hq₁', hR₁, hacc₁, hkeys₁⟩
    have hn : n ∈ file.interfaces := hsplit ▸ List.mem_append_right _ (List.mem_cons_self ..)
    refine Run.bind (hget n q₁ (.inr hn) hq₁ hR₁) fun j q₂ hl hj => Run.pure hl.valid ?_
    obtain ⟨hnj, hR₂⟩ := hj
    have hacc₂ : ∀ s ∈ acc, s < q₂.graph.size :=
      fun s hs => Nat.lt_of_lt_of_le (hacc₁ s hs) hl.graph.size_le
    have hkeys₂ : acc.map q₂.graph.key = firstOfEach (done.filter (· != name)) := by
      rw [← hkeys₁]
      exact List.map_congr_left fun s hs => hl.graph.key_eq (hacc₁ s hs)
    have hi₂ := hi.later (hp₁.trans hl)
    refine ⟨hp₁.trans hl, hq₁'.trans hl, htrans hR₁ hR₂, fun s hs => ?_,
      interfaces_step_keys hl.valid.graph hi₂.1 hi₂.2 hnj.1 hnj.2 hacc₂ hkeys₂⟩
    split at hs
    · exact hacc₂ s hs
    · rcases List.mem_append.mp hs with hs | hs
      · exact hacc₂ s hs
      · rw [List.mem_singleton.mp hs]
        exact hnj.1
  · -- the superclass keeps its key
    cases sup with
    | none => exact hskey
    | some s => rw [← hskey, Option.map_some, Option.map_some, hfold.2.1.graph.key_eq (hsup s rfl)]

theorem ClassSource.Reads.supertypes_eq {S : ClassSource} {n : String} {l l' : DetailLevel}
    {file file' : ClassInfo} (h : S.Reads n l file) (h' : S.Reads n l' file') :
    file'.superClass = file.superClass ∧ file'.interfaces = file.interfaces := by
  obtain ⟨f₀, h₀, -, hs₀, hi₀⟩ := h.toStructure
  obtain ⟨f₁, h₁, -, hs₁, hi₁⟩ := h'.toStructure
  cases h₀.unique h₁
  exact ⟨hs₁.symm.trans hs₀, hi₁.symm.trans hi₀⟩

theorem map_key_filter {g : StructuralGraph} (hg : g.WellFormed) {i : Nat} (hi : i < g.size)
    {o : Option Nat} (ho : ∀ s, o = some s → s < g.size) :
    (o.filter (· != i)).map g.key = (o.map g.key).filter (· != g.key i) := by
  cases o with
  | none => rfl
  | some s =>
    by_cases hsi : s = i
    · subst hsi
      simp [Option.filter]
    · have hk : g.key s ≠ g.key i := fun h => hsi (hg.key_inj s i (ho s rfl) hi h)
      simp [Option.filter, hsi, hk]

/-! ### A load keeps the graph faithful -/

section Loads

variable {U : Nat → Site → Prop}

/-- Inserting a class read from its file keeps the graph faithful, given loads of its supertypes
that keep it with the class pending. -/
theorem run_insert_faithful {k : Nat} {P : Nat → Prop}
    (hget : ∀ t (q : Loader) (P' : Nat → Prop), q.Valid → q.Sound →
      q.source.Keyable q.isAnalyzable → q.FuelFor k t →
      q.source.Loads q.isAnalyzable t → q.graph.Faithful q.source q.isAnalyzable U P' →
      (getClass k t .structureOnly).Run q fun _ q' =>
        q'.Sound ∧ q'.graph.Faithful q'.source q'.isAnalyzable U P')
    (hp : p.Valid) (hs : p.Sound) (hK : p.source.Keyable p.isAnalyzable)
    (hF : p.graph.Faithful p.source p.isAnalyzable U P) {name : String} {file : ClassInfo}
    (hfresh : p.graph.get? name = none) (hloads : p.source.Loads p.isAnalyzable name)
    (hread : p.source.Reads name file.level file) (hf : FileAllowed p.isAnalyzable p.source name file)
    (hsup : ∀ t, (file.superClass = some t ∨ t ∈ file.interfaces) → t ∈ p.source.poolNames)
    (hfuel : ∀ q q', p.Later q → q.graph.get? name ≠ none → q.Later q' →
      ∀ t ∈ p.source.poolNames, q'.FuelFor k t) :
    (insert k name file).Run p fun _ p' => p'.Sound ∧ p'.graph.Faithful p'.source p'.isAnalyzable U P := by
  rw [insert_eq]
  refine Run.bind (run_addResource hp ⟨rfl, rfl, rfl, rfl⟩) fun i p₁ h₁ ⟨hi₁, hk₁, hp₁, hidx⟩ => ?_
  refine Run.bind (run_modifyGraph h₁.valid (h₁.valid.graph.declareMembers hi₁ hk₁ file)
    (extends_declareMembers i name file)) fun _ p₂ h₂ hp₂ => ?_
  have hi : i = p.graph.size := by rw [hidx, addResource_cls hfresh]
  -- the class and its members, pending until the supertypes are set
  set P' : Nat → Prop := fun j => P j ∨ j = p.graph.size
  have hs₂ : p₂.Sound := by
    rw [hp₂, hp₁, hidx]
    exact hs.withGraph (hs.graph.insert hfresh hf)
  have hF₂ : p₂.graph.Faithful p₂.source p₂.isAnalyzable U P' := by
    rw [hp₂, hp₁, hi, addResource_cls hfresh]
    exact hF.insert hp.graph (hF.classKeysPlain hK.plain) (hK.plain name hloads) hfresh hloads hread
      (hK.memberKeys name _ file hread)
  have hnames : p₂.Names name i := ⟨Nat.lt_of_lt_of_le hi₁ h₂.graph.size_le, (h₂.graph.key_eq hi₁).trans hk₁⟩
  have hin : p₂.graph.get? name ≠ none := by
    rw [h₂.valid.graph.get?_eq_some_iff.mpr hnames]
    exact Option.some_ne_none i
  have hsrc₂ : p₂.source = p.source := (h₁.trans h₂).source_eq
  have hA₂ : p₂.isAnalyzable = p.isAnalyzable := (h₁.trans h₂).isAnalyzable_eq
  -- the supertypes are loads with the fuel left, each keeping the graph faithful
  set R : Loader → Loader → Prop := fun q q' => q.Later q' ∧ (q.Sound → q'.Sound) ∧
    (q.graph.Faithful q.source q.isAnalyzable U P' → q'.graph.Faithful q'.source q'.isAnalyzable U P')
  have hrefl : ∀ q, q.Valid → R q q := fun q hq => ⟨Later.refl hq, id, id⟩
  have htrans : ∀ {q₁ q₂ q₃}, R q₁ q₂ → R q₂ q₃ → R q₁ q₃ :=
    fun h₁₂ h₂₃ => ⟨h₁₂.1.trans h₂₃.1, h₂₃.2.1 ∘ h₁₂.2.1, h₂₃.2.2 ∘ h₁₂.2.2⟩
  have hget' : ∀ t q, (file.superClass = some t ∨ t ∈ file.interfaces) → q.Valid → R p₂ q →
      (getClass k t .structureOnly).Run q fun j q' => q'.Names t j ∧ R q q' := by
    intro t q ht hq hR
    have hsrc : q.source = p.source := hR.1.source_eq.trans hsrc₂
    have hA : q.isAnalyzable = p.isAnalyzable := hR.1.isAnalyzable_eq.trans hA₂
    -- a supertype of a class loaded, read at the structure level
    obtain ⟨file', hread', -, hsup', hifs'⟩ := hread.toStructure
    have hloads' : q.source.Loads q.isAnalyzable t := by
      rw [hsrc, hA]
      exact .supertype hloads hread' (by rw [hsup', hifs']; exact ht)
    have hK' : q.source.Keyable q.isAnalyzable := by rw [hsrc, hA]; exact hK
    exact ((run_getClass k t .structureOnly q hq).and (hget t q P' hq (hR.2.1 hs₂) hK'
      (hfuel p₂ q (h₁.trans h₂) hin hR.1 t (hsup t ht)) hloads' (hR.2.2 hF₂))).mono
      fun j q' hl ⟨⟨hn, _⟩, hs', hF'⟩ => ⟨hn, hl, fun _ => hs', fun _ => hF'⟩
  refine Run.bind ((run_loadSupertypes_keys hrefl htrans file hget' h₂.valid hnames).and
    (run_loadSupertypes hrefl htrans file hget' h₂.valid))
    fun st p₃ h₃ ⟨⟨hR₃, hkeysup, hkeyifs⟩, _, hsup₃, hifs₃, hnd₃⟩ => ?_
  have hs₃ := hR₃.2.1 hs₂
  have hF₃ := hR₃.2.2 hF₂
  -- the class's node, as added
  have hc₁ : p₁.graph.classNode? i = some ⟨name, file.access, some file.level, none, [], [], []⟩ := by
    rw [hp₁, hidx]
    exact classNode?_addResource_cls hfresh
  obtain ⟨c, hc, hck, hrise⟩ := (h₂.trans h₃).graph.classNode i _ hc₁
  have hi₃ : i < p₃.graph.size := (hnames.later h₃).1
  refine Run.bind (run_setSupertypes h₃.valid ⟨c, hc⟩ hsup₃ hifs₃ hnd₃) fun _ p₄ h₄ hp₄ => ?_
  refine Run.bind (run_storeFile_files h₄.valid i file) fun _ p₅ h₅ hp₅ => Run.pure h₅.valid ?_
  rw [hp₅, hp₄]
  refine ⟨⟨hs₃.prefetched, hs₃.graph.modifyClass_level fun _ => ⟨rfl, rfl⟩⟩, ?_⟩
  -- the class is read at some level, to a file naming the supertypes of the file inserted
  obtain ⟨-, -, hsome⟩ := hF₃.classes i c hc
  obtain ⟨l, hl⟩ : ∃ l, c.level = some l := by
    cases hcl : c.level with
    | some l => exact ⟨l, rfl⟩
    | none => rw [hcl] at hrise; exact absurd hrise id
  refine (hF₃.setSupertypes hc hl fun file' hread' => ?_).mono (fun _ _ h => h) fun j hj => ?_
  · have hname : c.key = name := hck
    have hread₃ : p₃.source.Reads c.key file.level file :=
      hname ▸ (h₁.trans (h₂.trans h₃)).source_eq ▸ hread
    obtain ⟨hsupeq, hifseq⟩ := hread₃.supertypes_eq hread'
    refine ⟨?_, ?_⟩
    · show (st.1.filter (· != i)).map p₃.graph.key = file'.superClass.filter (· != c.key)
      rw [map_key_filter h₃.valid.graph hi₃ hsup₃, hkeysup, hsupeq, hname, (hnames.later h₃).2]
    · show st.2.map p₃.graph.key = firstOfEach (file'.interfaces.filter (· != c.key))
      rw [hkeyifs, hifseq, hname]
  · rcases hj.1 with hj' | hj'
    · exact hj'
    · exact absurd (hj'.trans hi.symm) hj.2

/-- Raising a class read at the structure level, from outside its insertion, keeps the graph
faithful. -/
theorem run_escalate_faithful {P : Nat → Prop} (hp : p.Valid) (hK : p.source.Keyable p.isAnalyzable)
    (hF : p.graph.Faithful p.source p.isAnalyzable U P) {i : Nat} {c : ClassNode} {name : String}
    (hc : p.graph.classNode? i = some c) (hkey : c.key = name) (hP : ¬ P i)
    (hlev : c.level = some .structureOnly) :
    (escalate i name .structureAndCalls).Run p fun _ p' =>
      p'.graph.Faithful p'.source p'.isAnalyzable U P := by
  have hci := classNode?_eq_some.mp hc
  have hk : p.graph.key i = name := (key_of_resource? hci).trans hkey
  refine ⟨(run_escalate hp (lt_size_of_resource? hci) hk fun c' hc' => ?_).1, fun _ hok => ?_⟩
  · rw [hc] at hc'
    cases hc'
    rw [hlev]
    show DetailLevel.rank .structureOnly ≤ DetailLevel.rank .structureAndCalls
    decide
  rw [escalate_exec] at hok ⊢
  cases hr : readOutcome name (p.isAnalyzable name) (p.outcome name .structureAndCalls) with
  | error e => rw [hr] at hok; cases hok
  | ok r =>
    cases r with
    | none => exact hF
    | some file =>
      -- the file read with bodies, and the class raised to it
      have hout := readOutcome_eq_ok_some hr
      have hread : p.source.Reads name file.level file := hp.read_of_outcome hout
      have hlevel : file.level = .structureAndCalls := by
        have hle := hp.outcome_level hout
        cases hfl : file.level with
        | structureAndCalls => rfl
        | structureOnly => rw [hfl] at hle; exact absurd hle (by decide)
      subst hkey
      have hF' := hF.escalate hp.graph (hF.classKeysPlain hK.plain) hc hP hlev (hlevel ▸ hread)
        (hK.memberKeys _ _ file hread)
      exact hF'

/-- With fuel for the texts left, a load of a class the build loads keeps the graph faithful,
when bodies are asked for only of a class to analyse and from outside every insertion. -/
theorem run_getClass_faithful (k : Nat) : ∀ name level (p : Loader) (P : Nat → Prop), p.Valid →
    p.Sound → p.source.Keyable p.isAnalyzable → p.FuelFor k name →
    p.source.Loads p.isAnalyzable name →
    (level = .structureAndCalls → p.isAnalyzable name = true ∧ ∀ j, ¬ P j) →
    p.graph.Faithful p.source p.isAnalyzable U P →
    (getClass k name level).Run p fun _ p' =>
      p'.Sound ∧ p'.graph.Faithful p'.source p'.isAnalyzable U P := by
  induction k with
  | zero => exact fun _ _ _ _ _ _ _ hfuel => absurd hfuel.pos (Nat.lt_irrefl 0)
  | succ k ih =>
    intro name level p P hp hs hK hfuel hloads hA hF
    rw [getClass]
    refine Run.get_bind ?_
    split
    · -- a node with the name: raised when it is a class read below the level
      rename_i i hi
      have hn : p.Names name i := key_of_get? hi
      split
      · rename_i current hcur
        obtain ⟨c₀, hc₀, hlev₀⟩ := Option.bind_eq_some_iff.mp hcur
        split
        · rename_i hlt
          have hlevel : level = .structureAndCalls := by
            cases level with
            | structureAndCalls => rfl
            | structureOnly => exact absurd hlt (by cases current <;> decide)
          subst hlevel
          have hcur' : current = .structureOnly := by
            cases current with
            | structureOnly => rfl
            | structureAndCalls => exact absurd hlt (by decide)
          subst hcur'
          have hkey : c₀.key = name :=
            (key_of_resource? (classNode?_eq_some.mp hc₀)).symm.trans hn.2
          refine Run.bind ((run_escalate_faithful hp hK hF hc₀ hkey ((hA rfl).2 i) hlev₀).and
            (run_escalate_sound hp hs hn.1 hn.2 (fun c hc => ?_) fun _ => (hA rfl).1))
            fun _ p₁ h₁ ⟨hF₁, hs₁⟩ => Run.pure h₁.valid ⟨hs₁, hF₁⟩
          rw [hc₀] at hc
          cases hc
          rw [hlev₀]
          show DetailLevel.rank .structureOnly ≤ DetailLevel.rank .structureAndCalls
          decide
        · exact Run.pure hp ⟨hs, hF⟩
      · exact Run.pure hp ⟨hs, hF⟩
    · -- a new name: read, then inserted with the fuel left, or a placeholder for bytes that do
      -- not read, which with fuel left is the only placeholder a load makes
      rename_i hfresh
      have hA' : level = .structureAndCalls → p.isAnalyzable name = true := fun h => (hA h).1
      refine Run.bind ((run_decode hp name level).and (run_decode_sound hp hs hA'))
        fun r p₁ h₁ ⟨⟨hp₁, hout, _⟩, hs₁, hfile, hnone⟩ => ?_
      have hfuel₁ : p₁.FuelFor (k + 1) name := hfuel.later h₁
      subst hp₁
      cases r with
      | some file =>
        obtain ⟨hf, hsup⟩ := hfile file rfl
        have hread : p.source.Reads name file.level file :=
          hp.read_of_outcome (readOutcome_eq_ok_some hout)
        exact run_insert_faithful
          (fun t q P' hq hsq hKq hft hlt hFt => ih t .structureOnly q P' hq hsq hKq hft hlt nofun hFt)
          h₁.valid hs₁ hK hF hfresh hloads hread hf hsup
          fun q q' hq hin hq' t ht => hfuel₁.supertype hfresh hq hin ht hq'
      | none =>
        have hAn : p.isAnalyzable name = false := hnone rfl
        have hlevel : level = .structureOnly := by
          cases level with
          | structureOnly => rfl
          | structureAndCalls => rw [(hA rfl).1] at hAn; cases hAn
        subst hlevel
        -- bytes that read at the structure level would not have made a placeholder
        have hno : ∀ file, ¬ p.source.Reads name .structureOnly file := by
          rintro file ⟨bytes, hb, hd⟩
          rw [hs.outcome_of_not_analyzable hAn, hb, Option.map_some, hd] at hout
          cases hout
        refine (run_addResource (r := .cls (ClassNode.unresolved name)) h₁.valid
          ⟨rfl, rfl, rfl, rfl⟩).mono fun i p' _ ⟨_, _, hp', _⟩ => ?_
        rw [hp']
        exact ⟨hs₁.withGraph (hs₁.graph.addResource_settled (levelAllowed_none hAn)
          fun c hc => by cases hc; simp [ClassNode.unresolved]), hF.addPlaceholder hp.graph hloads hno⟩

end Loads

end ClassMetrics
