import ClassMetrics.Proofs.Build.Stock
import ClassMetrics.Proofs.Build.Levels

/-!
Which builds fail, and why. A build fails only for a class to analyse: one that no source has,
or whose bytes cannot be analysed, because they do not read with bodies or the file they read
to carries a signature that does not parse. A library class never fails a build. When no name to
analyse holds a `#`, every class to analyse that cannot be analysed fails the build, and a
library class whose bytes are missing or do not read is left a placeholder.
-/

namespace ClassMetrics

open ClassFile StructuralGraph Load Loader

/-! ### Classes that cannot be analysed -/

/-- The signatures a class file carries: the class's own, then each field's, then each
method's. -/
def ClassFile.ClassInfo.signatures (file : ClassInfo) : List String :=
  file.signature.toList ++ file.fields.filterMap (·.signature) ++ file.methods.filterMap (·.signature)

/-- The bytes of class `name` cannot be analysed: they do not read at the level with bodies, or
the file they read to carries a signature that does not parse. -/
def ClassSource.Rejects (source : ClassSource) (name : String) : Prop :=
  ∃ bytes, source.resolve name = some bytes ∧ ∀ file,
    ClassInfo.decode bytes .structureAndCalls = .ok file →
      ∃ s ∈ file.signatures, ∃ e, Signature.referencedClasses s = .error e

/-- A failure explained by a class to analyse: missing from the source, or with bytes that
cannot be analysed. -/
def AnalysisError.Explained (source : ClassSource) (analyzable : List String) :
    AnalysisError → Prop
  | .missingClass c => c ∈ analyzable ∧ source.resolve c = none
  | .parse c _ => c ∈ analyzable ∧ source.Rejects c

theorem ClassFile.ClassInfo.signatures_withoutCode (c : ClassInfo) :
    c.withoutCode.signatures = c.signatures := by
  simp [ClassInfo.signatures, ClassInfo.withoutCode, MethodInfo.withoutCode, List.filterMap_map,
    Function.comp_def]

namespace ClassSource

variable {source : ClassSource} {name : String} {bytes : List UInt8}

theorem rejects_of_decode_error {l : DetailLevel} {e : FormatError}
    (hb : source.resolve name = some bytes) (hd : ClassInfo.decode bytes l = .error e) :
    source.Rejects name := by
  refine ⟨bytes, hb, fun file hfile => ?_⟩
  cases l with
  | structureOnly => rw [ClassInfo.decode_withoutCode hfile] at hd; cases hd
  | structureAndCalls => rw [hfile] at hd; cases hd

theorem rejects_of_signature {file : ClassInfo} (hb : source.resolve name = some bytes)
    (hd : ClassInfo.decode bytes file.level = .ok file)
    (hs : ∃ s ∈ file.signatures, ∃ e, Signature.referencedClasses s = .error e) :
    source.Rejects name := by
  refine ⟨bytes, hb, fun file' hfile' => ?_⟩
  cases hl : file.level with
  | structureOnly =>
    rw [hl, ClassInfo.decode_withoutCode hfile'] at hd
    cases hd
    rwa [ClassInfo.signatures_withoutCode] at hs
  | structureAndCalls =>
    rw [hl, hfile'] at hd
    cases hd
    exact hs

end ClassSource

/-! ### Decoded descriptors are read -/

/-- The descriptors of a file are well formed: each field's is a field type, each method's a
method descriptor. -/
def ClassFile.ClassInfo.DescriptorsRead (file : ClassInfo) : Prop :=
  (∀ f ∈ file.fields, ∃ t, Descriptor.parseField f.descriptor = .ok t) ∧
    ∀ m ∈ file.methods, ∃ t, Descriptor.parseMethod m.descriptor = .ok t

open Decoder in
theorem yields_readFieldInfo_descriptor (pool : ConstantPool) :
    Yields (fun f => ∃ t, Descriptor.parseField f.descriptor = .ok t) (readFieldInfo pool) := by
  unfold readFieldInfo
  refine Yields.bind fun _ => Yields.bind fun _ => Yields.bind fun _ => Yields.bind fun _ =>
    Yields.bind fun descriptor => ?_
  refine Yields.bind_of (Yields.lift (P := fun _ => ∃ t, Descriptor.parseField descriptor = .ok t)
    fun t ht => ⟨t, ht⟩) fun _ ht => ?_
  exact Yields.bind fun _ => Yields.pure ht

open Decoder in
theorem yields_readMethodInfo_descriptor (pool : ConstantPool) (level : DetailLevel) :
    Yields (fun m => ∃ t, Descriptor.parseMethod m.descriptor = .ok t) (readMethodInfo pool level) := by
  unfold readMethodInfo
  refine Yields.bind fun _ => Yields.bind fun _ => Yields.bind fun _ => Yields.bind fun _ =>
    Yields.bind fun descriptor => ?_
  refine Yields.bind_of (Yields.lift (P := fun _ => ∃ t, Descriptor.parseMethod descriptor = .ok t)
    fun t ht => ⟨t, ht⟩) fun _ ht => ?_
  exact Yields.bind fun _ => Yields.pure ht

theorem ClassFile.ClassInfo.descriptorsRead_of_decode {bytes : List UInt8} {level : DetailLevel}
    {file : ClassInfo} (h : ClassInfo.decode bytes level = .ok file) : file.DescriptorsRead := by
  obtain ⟨pool, c, c', -, hb⟩ := ClassInfo.decode_eq_ok h
  have hy := yields_readBody_members (C := fun _ => True) (fun _ _ _ _ _ => trivial)
    (yields_readFieldInfo_descriptor pool) (yields_readMethodInfo_descriptor pool level) c file c' hb
  exact ⟨hy.2.2.1, hy.2.2.2⟩

theorem Descriptor.referencedClasses_of_parseField {d : String} {t : FieldType}
    (h : Descriptor.parseField d = .ok t) : ∃ ns, Descriptor.referencedClasses d = .ok ns := by
  unfold Descriptor.referencedClasses
  split
  · -- no field type opens with a parenthesis
    rename_i hhead
    unfold Descriptor.parseField at h
    cases hd : d.toList with
    | nil => rw [hd] at hhead; cases hhead
    | cons c rest =>
      rw [hd] at hhead
      cases hhead
      rw [hd] at h
      simp [Descriptor.readField, Descriptor.BaseType.ofLetter?] at h
  · rw [h]
    exact ⟨_, rfl⟩

theorem Descriptor.referencedClasses_of_parseMethod {d : String} {t : MethodType}
    (h : Descriptor.parseMethod d = .ok t) : ∃ ns, Descriptor.referencedClasses d = .ok ns := by
  unfold Descriptor.referencedClasses
  split
  · rw [h]
    exact ⟨_, rfl⟩
  · -- a method descriptor opens with a parenthesis
    rename_i hhead
    unfold Descriptor.parseMethod at h
    cases hd : d.toList with
    | nil => rw [hd] at h; cases h
    | cons c rest =>
      rw [hd] at hhead h
      by_cases hc : c = '('
      · exact absurd (by rw [hc]; rfl) hhead
      · simp [Descriptor.readMethod, hc] at h

/-! ### The places of a decoded file are read unless a signature is not -/

/-- Every signature of a file parses. -/
def ClassFile.ClassInfo.SignaturesRead (file : ClassInfo) : Prop :=
  ∀ s ∈ file.signatures, ∃ ts, Signature.referencedClasses s = .ok ts

variable {e : FormatError}

theorem declarationTypes_eq_error {d : String} {sig : Option String}
    (hd : ∃ ns, Descriptor.referencedClasses d = .ok ns) (h : declarationTypes d sig = .error e) :
    ∃ s, sig = some s ∧ Signature.referencedClasses s = .error e := by
  obtain ⟨ns, hns⟩ := hd
  cases sig with
  | none => simp [declarationTypes, hns, bind, Except.bind, pure, Except.pure] at h
  | some s =>
    refine ⟨s, rfl, ?_⟩
    cases hs : Signature.referencedClasses s with
    | ok _ => simp [declarationTypes, hns, hs, bind, Except.bind, pure, Except.pure] at h
    | error e' =>
      simp only [declarationTypes, hns, hs, bind, Except.bind, Except.error.injEq] at h
      rw [h]

theorem signature_of_declarationTypes {d s : String} {ts : List String}
    (h : declarationTypes d (some s) = .ok ts) : ∃ ts', Signature.referencedClasses s = .ok ts' := by
  cases hs : Signature.referencedClasses s with
  | ok ts' => exact ⟨ts', rfl⟩
  | error _ =>
    cases hd : Descriptor.referencedClasses d <;>
      simp [declarationTypes, hd, hs, bind, Except.bind] at h

theorem ClassFile.FieldInfo.sites_eq_error {f : FieldInfo}
    (hd : ∃ t, Descriptor.parseField f.descriptor = .ok t) (h : f.sites = .error e) :
    ∃ s, f.signature = some s ∧ Signature.referencedClasses s = .error e := by
  unfold FieldInfo.sites at h
  cases hdt : declarationTypes f.descriptor f.signature with
  | ok _ => rw [hdt] at h; cases h
  | error e' =>
    rw [hdt] at h
    cases h
    obtain ⟨t, ht⟩ := hd
    exact declarationTypes_eq_error (Descriptor.referencedClasses_of_parseField ht) hdt

theorem ClassFile.MethodInfo.sites_eq_error {m : MethodInfo}
    (hd : ∃ t, Descriptor.parseMethod m.descriptor = .ok t) (h : m.sites = .error e) :
    ∃ s, m.signature = some s ∧ Signature.referencedClasses s = .error e := by
  unfold MethodInfo.sites at h
  cases hdt : declarationTypes m.descriptor m.signature with
  | ok _ => rw [hdt] at h; cases h
  | error e' =>
    rw [hdt] at h
    cases h
    obtain ⟨t, ht⟩ := hd
    exact declarationTypes_eq_error (Descriptor.referencedClasses_of_parseMethod ht) hdt

theorem ClassFile.ClassInfo.signatureSites_eq_error {file : ClassInfo}
    (h : file.signatureSites = .error e) :
    ∃ s, file.signature = some s ∧ Signature.referencedClasses s = .error e := by
  cases hsig : file.signature with
  | none => simp [ClassInfo.signatureSites, hsig, pure, Except.pure] at h
  | some s =>
    refine ⟨s, rfl, ?_⟩
    cases hs : Signature.referencedClasses s with
    | ok _ => simp [ClassInfo.signatureSites, hsig, hs, Except.map] at h
    | error e' =>
      simp only [ClassInfo.signatureSites, hsig, hs, Except.map, Except.error.injEq] at h
      rw [h]

namespace ClassFile.ClassInfo

variable {file : ClassInfo}

theorem signature_of_field_sites (hd : file.DescriptorsRead) {f : FieldInfo} (hf : f ∈ file.fields)
    (h : f.sites = .error e) : ∃ s ∈ file.signatures, Signature.referencedClasses s = .error e := by
  obtain ⟨s, hs, he⟩ := FieldInfo.sites_eq_error (hd.1 f hf) h
  exact ⟨s, by simp only [signatures, List.mem_append, List.mem_filterMap]; exact .inl (.inr ⟨f, hf, hs⟩), he⟩

theorem signature_of_method_sites (hd : file.DescriptorsRead) {m : MethodInfo}
    (hm : m ∈ file.methods) (h : m.sites = .error e) :
    ∃ s ∈ file.signatures, Signature.referencedClasses s = .error e := by
  obtain ⟨s, hs, he⟩ := MethodInfo.sites_eq_error (hd.2 m hm) h
  exact ⟨s, by simp only [signatures, List.mem_append, List.mem_filterMap]; exact .inr ⟨m, hm, hs⟩, he⟩

theorem signature_of_signatureSites (h : file.signatureSites = .error e) :
    ∃ s ∈ file.signatures, Signature.referencedClasses s = .error e := by
  obtain ⟨s, hs, he⟩ := signatureSites_eq_error h
  exact ⟨s, by simp [signatures, hs], he⟩

/-- A file whose every place is read has every signature read. -/
theorem signaturesRead_of_sites (hf : ∀ f ∈ file.fields, ∃ σs, f.sites = .ok σs)
    (hm : ∀ m ∈ file.methods, ∃ σs, m.sites = .ok σs) (hc : ∃ σs, file.signatureSites = .ok σs) :
    file.SignaturesRead := by
  intro s hs
  simp only [signatures, List.mem_append, List.mem_filterMap, Option.mem_toList] at hs
  rcases hs with (hs | ⟨f, hf', hfs⟩) | ⟨m, hm', hms⟩
  · -- the class's own signature
    obtain ⟨σs, hσs⟩ := hc
    cases hr : Signature.referencedClasses s with
    | error _ => simp [signatureSites, hs, hr, Except.map] at hσs
    | ok ts => exact ⟨ts, rfl⟩
  · obtain ⟨σs, hσs⟩ := hf f hf'
    unfold FieldInfo.sites at hσs
    rw [hfs] at hσs
    cases hdt : declarationTypes f.descriptor (some s) with
    | error _ => rw [hdt] at hσs; cases hσs
    | ok ts => exact signature_of_declarationTypes hdt
  · obtain ⟨σs, hσs⟩ := hm m hm'
    unfold MethodInfo.sites at hσs
    rw [hms] at hσs
    cases hdt : declarationTypes m.descriptor (some s) with
    | error _ => rw [hdt] at hσs; cases hσs
    | ok ts => exact signature_of_declarationTypes hdt

end ClassFile.ClassInfo

/-! ### Runs whose failures are explained -/

section Runs

variable {α β γ : Type} {p : Loader}

/-- A run of `x` from `p` as `Load.Run` says, every failure of which is explained by a class of
`p` to analyse. -/
def Load.RunExplained (x : Load α) (p : Loader) (Q : α → Loader → Prop) : Prop :=
  x.Run p Q ∧ ∀ e, (x.exec p).1 = .error e → e.Explained p.source p.analyzable

namespace Load.RunExplained

variable {Q Q' : α → Loader → Prop}

theorem of_ok {x : Load α} (h : x.Run p Q) {a : α} (ha : (x.exec p).1 = .ok a) :
    x.RunExplained p Q :=
  ⟨h, fun e he => by rw [ha] at he; cases he⟩

theorem pure (hp : p.Valid) {a : α} (h : Q a p) : (Pure.pure a : Load α).RunExplained p Q :=
  of_ok (Run.pure hp h) rfl

theorem of_exec_eq {x y : Load α} (h : x.exec p = y.exec p) (hy : y.RunExplained p Q) :
    x.RunExplained p Q :=
  ⟨Run.of_exec_eq h hy.1, fun e he => hy.2 e (h ▸ he)⟩

theorem mono {x : Load α} (h : x.RunExplained p Q) (hQ : ∀ a p', p.Later p' → Q a p' → Q' a p') :
    x.RunExplained p Q' :=
  ⟨h.1.mono hQ, h.2⟩

theorem bind {x : Load α} {f : α → Load β} {Q' : β → Loader → Prop} (hx : x.RunExplained p Q)
    (hf : ∀ a p', p.Later p' → Q a p' → (f a).RunExplained p' Q') :
    (x >>= f).RunExplained p Q' := by
  refine ⟨Run.bind hx.1 fun a p' hl hq => (hf a p' hl hq).1, fun e he => ?_⟩
  rw [exec_bind] at he
  rcases h : x.exec p with ⟨r, p'⟩
  rw [h] at he
  cases r with
  | error e' =>
    cases he
    exact hx.2 e (by rw [h])
  | ok a =>
    -- a failure of the continuation, from a later loader of the same source
    have hl : p.Later p' := by simpa [h] using hx.1.1
    have hq : Q a p' := by simpa [h] using hx.1.2 a (by rw [h])
    have := (hf a p' hl hq).2 e he
    rwa [hl.source_eq, hl.analyzable_eq] at this

theorem get_bind {f : Loader → Load β} {Q : β → Loader → Prop} (h : (f p).RunExplained p Q) :
    (MonadState.get >>= f).RunExplained p Q :=
  of_exec_eq (by rw [exec_bind, exec_get]) h

theorem map {x : Load α} {f : α → β} {Q : β → Loader → Prop}
    (hx : x.RunExplained p fun a => Q (f a)) : (f <$> x).RunExplained p Q := by
  rw [map_eq_pure_bind]
  exact bind hx fun _ _ hl hq => pure hl.valid hq

theorem forM_of_step {xs : List γ} {f : γ → Load PUnit} {I : List γ → Loader → Prop}
    (hstep : ∀ done a rest, done ++ a :: rest = xs → ∀ p, p.Valid → I done p →
      (f a).RunExplained p fun _ p' => I (done ++ [a]) p') (hp : p.Valid) (hI : I [] p) :
    (xs.forM f).RunExplained p fun _ p' => I xs p' := by
  suffices h : ∀ rest done p, done ++ rest = xs → p.Valid → I done p →
      (rest.forM f).RunExplained p fun _ p' => I xs p' by
    simpa using h xs [] p rfl hp hI
  intro rest
  induction rest with
  | nil => intro done p hdone hp hI; simp at hdone; subst hdone; exact pure hp hI
  | cons a rest ih =>
    intro done p hdone hp hI
    rw [List.forM_eq_forM, List.forM_cons]
    exact bind (hstep done a rest hdone p hp hI) fun _ p' hl hI' =>
      ih (done ++ [a]) p' (by simpa using hdone) hl.valid hI'

theorem forIn_of_step {xs : List γ} {f : γ → PUnit → Load (ForInStep PUnit)}
    {I : List γ → Loader → Prop}
    (hstep : ∀ done a rest, done ++ a :: rest = xs → ∀ p, p.Valid → I done p →
      (f a ⟨⟩).RunExplained p fun r p' => r = .yield ⟨⟩ ∧ I (done ++ [a]) p')
    (hp : p.Valid) (hI : I [] p) : (forIn xs ⟨⟩ f).RunExplained p fun _ p' => I xs p' := by
  suffices h : ∀ rest done p, done ++ rest = xs → p.Valid → I done p →
      (forIn rest ⟨⟩ f).RunExplained p fun _ p' => I xs p' by
    simpa using h xs [] p rfl hp hI
  intro rest
  induction rest with
  | nil => intro done p hdone hp hI; simp at hdone; subst hdone; exact pure hp hI
  | cons a rest ih =>
    intro done p hdone hp hI
    rw [List.forIn_cons]
    refine bind (hstep done a rest hdone p hp hI) fun r p' hl ⟨hr, hI'⟩ => ?_
    subst hr
    exact ih (done ++ [a]) p' (by simpa using hdone) hl.valid hI'

theorem foldlM {step : γ → β → Load γ} {I : γ → Loader → Prop} (bs : List β)
    (hstep : ∀ acc p, p.Valid → I acc p → ∀ b ∈ bs, (step acc b).RunExplained p I) :
    ∀ acc p, p.Valid → I acc p → (bs.foldlM step acc).RunExplained p I := by
  induction bs with
  | nil => exact fun acc p hp hi => pure hp hi
  | cons b bs ih =>
    intro acc p hp hi
    rw [List.foldlM_cons]
    refine bind (hstep acc p hp hi b (List.mem_cons_self ..)) fun acc' p' hl hi' => ?_
    exact ih (fun acc p hp hi b hb => hstep acc p hp hi b (List.mem_cons_of_mem _ hb)) acc' p'
      hl.valid hi'

theorem mapM {f : γ → Load β} {R : γ → β → Loader → Prop} {I : Loader → Prop}
    (hkeep : ∀ a b q q', R a b q → q.Later q' → R a b q') :
    ∀ (xs : List γ), (∀ a ∈ xs, ∀ q, q.Valid → I q →
      (f a).RunExplained q fun b q' => R a b q' ∧ I q') →
      ∀ p, p.Valid → I p →
        (xs.mapM f).RunExplained p fun ys p' => List.Forall₂ (fun a b => R a b p') xs ys ∧ I p'
  | [], _, p, hp, hI => by
    rw [List.mapM_nil]
    exact pure hp ⟨.nil, hI⟩
  | a :: xs, hstep, p, hp, hI => by
    rw [List.mapM_cons]
    refine bind (hstep a (List.mem_cons_self ..) p hp hI) fun b p₁ h₁ ⟨hb, hI₁⟩ => ?_
    refine bind (mapM hkeep xs (fun a' ha' => hstep a' (List.mem_cons_of_mem _ ha')) p₁ h₁.valid hI₁)
      fun bs p₂ h₂ ⟨hbs, hI₂⟩ => pure h₂.valid ⟨.cons (hkeep a b p₁ p₂ hb h₂) hbs, hI₂⟩

end Load.RunExplained

end Runs

/-! ### Loads fail only for classes to analyse -/

section Loads

variable {p : Loader}

theorem Load.RunExplained.of_run {α : Type} {x : Load α} {Q R : α → Loader → Prop}
    (h : x.Run p Q) (h' : x.RunExplained p R) : x.RunExplained p Q :=
  ⟨h, h'.2⟩

theorem readOutcome_eq_error {name : String} {analyzable : Bool}
    {r : Option (Except FormatError ClassInfo)} {e : AnalysisError}
    (h : readOutcome name analyzable r = .error e) : analyzable = true ∧
      (r = none ∧ e = .missingClass name ∨ ∃ fe, r = some (.error fe) ∧ e = .parse name fe) := by
  unfold readOutcome at h
  split at h
  · cases h
  · split at h
    · cases h
      exact ⟨‹_›, .inr ⟨_, rfl, rfl⟩⟩
    · cases h
  · split at h
    · cases h
      exact ⟨‹_›, .inl ⟨rfl, rfl⟩⟩
    · cases h

theorem Loader.Valid.explained_of_readOutcome (hp : p.Valid) {name : String} {level : DetailLevel}
    {e : AnalysisError} (h : readOutcome name (p.isAnalyzable name) (p.outcome name level) = .error e) :
    e.Explained p.source p.analyzable := by
  obtain ⟨l, -, hout⟩ := hp.outcome_eq_decode name level
  obtain ⟨hA, ⟨hr, rfl⟩ | ⟨fe, hr, rfl⟩⟩ := readOutcome_eq_error h
  · rw [hout] at hr
    exact ⟨List.contains_iff_mem.mp hA, Option.map_eq_none_iff.mp hr⟩
  · rw [hout] at hr
    obtain ⟨bytes, hb, hd⟩ := Option.map_eq_some_iff.mp hr
    exact ⟨List.contains_iff_mem.mp hA, ClassSource.rejects_of_decode_error hb hd⟩

theorem runExplained_decode (hp : p.Valid) (name : String) (level : DetailLevel) :
    (decode name level).RunExplained p fun r p' =>
      p' = { p with prefetched := p.prefetched.filter (·.1 != name) } ∧
      readOutcome name (p.isAnalyzable name) (p.outcome name level) = .ok r ∧
      ∀ file, r = some file → level ≤ file.level :=
  ⟨run_decode hp name level, fun _ he => by
    rw [decode_exec] at he
    exact hp.explained_of_readOutcome he⟩

theorem runExplained_escalate (hp : p.Valid) {i : Nat} {name : String} {level : DetailLevel}
    (hi : i < p.graph.size) (hk : p.graph.key i = name)
    (hlevel : ∀ c, p.graph.classNode? i = some c → LevelRises c.level (some level)) :
    (escalate i name level).RunExplained p fun _ _ => True := by
  refine ⟨(run_escalate hp hi hk hlevel).mono fun _ _ _ _ => trivial, fun e he => ?_⟩
  rw [escalate_exec] at he
  cases hr : readOutcome name (p.isAnalyzable name) (p.outcome name level) with
  | error e' =>
    rw [hr] at he
    cases he
    exact hp.explained_of_readOutcome hr
  | ok r => cases r <;> (rw [hr] at he; cases he)

theorem runExplained_addResource (hp : p.Valid) {r : Resource} (hr : p.graph.Admissible r) :
    (addResource r).RunExplained p fun _ _ => True :=
  .of_ok ((run_addResource hp hr).mono fun _ _ _ _ => trivial) rfl

theorem runExplained_loadSupertypes {k i : Nat}
    (hget : ∀ name q, q.Valid → (getClass k name .structureOnly).RunExplained q fun _ _ => True)
    (hp : p.Valid) (file : ClassInfo) :
    (loadSupertypes k i file).RunExplained p fun _ _ => True := by
  unfold loadSupertypes
  refine RunExplained.bind (Q := fun _ _ => True) ?_ fun sup q h _ => ?_
  · split
    · exact RunExplained.map (hget _ p hp)
    · exact RunExplained.pure hp trivial
  refine RunExplained.bind (RunExplained.foldlM (I := fun _ _ => True) _
    (fun acc q hq _ n _ => RunExplained.bind (hget n q hq) fun _ _ hl _ =>
      RunExplained.pure hl.valid trivial) [] q h.valid trivial) fun _ _ h' _ =>
    RunExplained.pure h'.valid trivial

/-- Inserting a class fails only as the loads of its supertypes do. -/
theorem runExplained_insert {k : Nat}
    (hget : ∀ name q, q.Valid → (getClass k name .structureOnly).RunExplained q fun _ _ => True)
    (hp : p.Valid) {name : String} (hfresh : p.graph.get? name = none) (file : ClassInfo) :
    (insert k name file).RunExplained p fun _ _ => True := by
  rw [insert_eq]
  refine RunExplained.bind (RunExplained.of_run (run_addResource hp ⟨rfl, rfl, rfl, rfl⟩)
    (runExplained_addResource hp ⟨rfl, rfl, rfl, rfl⟩)) fun i p₁ h₁ ⟨hi₁, hk₁, hp₁, hidx⟩ => ?_
  have hc₁ : ∃ c, p₁.graph.classNode? i = some c := by
    rw [hp₁, hidx]
    exact ⟨_, classNode?_addResource_cls hfresh⟩
  refine RunExplained.bind (.of_ok (run_modifyGraph h₁.valid
    (h₁.valid.graph.declareMembers hi₁ hk₁ file) (extends_declareMembers i name file)) rfl)
    fun _ p₂ h₂ _ => ?_
  -- the supertypes are loads; recording them and keeping the file do not fail
  refine RunExplained.bind (RunExplained.of_run (run_loadSupertypes (R := fun _ _ => True)
      (fun _ _ => trivial) (fun _ _ => trivial) file
      (fun t q _ hq _ => (run_getClass k t .structureOnly q hq).mono fun _ _ _ ⟨hn, _⟩ =>
        ⟨hn, trivial⟩) h₂.valid)
    (runExplained_loadSupertypes hget h₂.valid file)) fun st p₃ h₃ ⟨_, hsup, hifs, hnd⟩ => ?_
  have hcls : ∃ c, p₃.graph.classNode? i = some c := by
    obtain ⟨c, hc⟩ := hc₁
    obtain ⟨c', hc', -⟩ := (h₂.trans h₃).graph.classNode i c hc
    exact ⟨c', hc'⟩
  refine RunExplained.bind (.of_ok (run_setSupertypes h₃.valid hcls hsup hifs hnd) rfl)
    fun _ p₄ h₄ _ => ?_
  exact RunExplained.bind (.of_ok (run_storeFile_files h₄.valid i file) rfl) fun _ _ h₅ _ =>
    RunExplained.pure h₅.valid trivial

/-- A load fails only as a read of a class to analyse does, at any fuel. -/
theorem runExplained_getClass (k : Nat) : ∀ name level p, Loader.Valid p →
    (getClass k name level).RunExplained p fun _ _ => True := by
  induction k with
  | zero =>
    intro name level p hp
    rw [getClass]
    exact runExplained_addResource (r := .cls (ClassNode.unresolved name)) hp ⟨rfl, rfl, rfl, rfl⟩
  | succ k ih =>
    intro name level p hp
    rw [getClass]
    refine RunExplained.bind (.of_ok (Run.get hp) rfl) ?_
    rintro _ _ hl ⟨rfl, rfl⟩
    split
    · -- a node with the name: raised when it is a resolved class below the level
      rename_i i hi
      have hn : Loader.Names name i _ := key_of_get? hi
      split
      · rename_i current hcur
        obtain ⟨c₀, hc₀, hlev₀⟩ := Option.bind_eq_some_iff.mp hcur
        split
        · rename_i hlt
          refine RunExplained.bind (runExplained_escalate hl.valid hn.1 hn.2 fun c hc => ?_)
            fun _ _ h₁ _ => RunExplained.pure h₁.valid trivial
          rw [hc₀] at hc
          cases hc
          rw [hlev₀]
          exact Nat.le_of_lt hlt
        · exact RunExplained.pure hl.valid trivial
      · exact RunExplained.pure hl.valid trivial
    · -- a new name: read, then inserted, or a placeholder
      rename_i hfresh
      refine RunExplained.bind (runExplained_decode hl.valid name level) fun r p₁ h₁ ⟨hp₁, _, _⟩ => ?_
      have hfresh₁ : p₁.graph.get? name = none := by rw [hp₁]; exact hfresh
      cases r with
      | some file => exact runExplained_insert (fun n q hq => ih n .structureOnly q hq) h₁.valid hfresh₁ file
      | none =>
        exact runExplained_addResource (r := .cls (ClassNode.unresolved name)) h₁.valid
          ⟨rfl, rfl, rfl, rfl⟩

theorem runExplained_resolveMethod (hp : p.Valid) (fuel : Nat) (m : MemberRef) (isStatic : Bool) :
    (resolveMethod fuel m isStatic).RunExplained p (Resolves (.method m isStatic) p) := by
  refine .of_run (run_resolveMethod_resolves hp fuel m isStatic) (R := fun _ _ => True) ?_
  unfold resolveMethod
  refine RunExplained.bind (RunExplained.of_run (run_getClass fuel m.owner .structureOnly p hp)
    (runExplained_getClass fuel m.owner .structureOnly p hp)) fun o p₁ h₁ ⟨ho, _⟩ => ?_
  refine RunExplained.get_bind ?_
  split
  · exact RunExplained.pure h₁.valid trivial
  · exact runExplained_addResource h₁.valid ⟨ho.1, by rw [ho.2]⟩

theorem runExplained_resolveField (hp : p.Valid) (fuel : Nat) (m : MemberRef) (isStatic : Bool) :
    (resolveField fuel m isStatic).RunExplained p (Resolves (.field m isStatic) p) := by
  refine .of_run (run_resolveField_resolves hp fuel m isStatic) (R := fun _ _ => True) ?_
  unfold resolveField
  refine RunExplained.bind (RunExplained.of_run (run_getClass fuel m.owner .structureOnly p hp)
    (runExplained_getClass fuel m.owner .structureOnly p hp)) fun o p₁ h₁ ⟨ho, _⟩ => ?_
  refine RunExplained.get_bind ?_
  split
  · exact RunExplained.pure h₁.valid trivial
  · exact runExplained_addResource h₁.valid ⟨ho.1, by rw [ho.2]⟩

theorem runExplained_use {σ : Site} {x : Load Nat} (hx : x.RunExplained p (Resolves σ p))
    {src : Nat} (hsrc : src < p.graph.size) :
    (x >>= fun t => addUse src t .uses).RunExplained p fun _ _ => True :=
  RunExplained.bind hx fun _ _ h₁ ⟨_, _, ht, _⟩ =>
    .of_ok ((run_addUse h₁.valid (Nat.lt_of_lt_of_le hsrc h₁.graph.size_le) ht .uses).mono
      fun _ _ _ _ => trivial) rfl

theorem runExplained_edge (hp : p.Valid) (fuel : Nat) {src : Nat} (hsrc : src < p.graph.size)
    (σ : Site) : (σ.edge fuel src).RunExplained p fun _ _ => True := by
  cases σ with
  | type n =>
    exact runExplained_use (.of_run (run_getClass_resolves hp fuel n)
      (runExplained_getClass fuel n .structureOnly p hp)) hsrc
  | method m isStatic => exact runExplained_use (runExplained_resolveMethod hp fuel m isStatic) hsrc
  | field m isStatic => exact runExplained_use (runExplained_resolveField hp fuel m isStatic) hsrc

theorem runExplained_edges (hp : p.Valid) (fuel : Nat) {src : Nat} (hsrc : src < p.graph.size)
    (sites : List Site) : (sites.forM (Site.edge fuel src)).RunExplained p fun _ _ => True :=
  (RunExplained.forM_of_step (I := fun _ q => src < q.graph.size) (fun _ σ _ _ _ hq hsq =>
    (runExplained_edge hq fuel hsq σ).mono fun _ _ hl _ => Nat.lt_of_lt_of_le hsq hl.graph.size_le)
    hp hsrc).mono fun _ _ _ _ => trivial

theorem runExplained_liftFormat {α : Type} (hp : p.Valid) (cls : String) (x : Except FormatError α)
    (hx : ∀ e, x = .error e → (AnalysisError.parse cls e).Explained p.source p.analyzable) :
    (liftFormat cls x).RunExplained p fun a p' => x = .ok a ∧ p' = p := by
  refine ⟨run_liftFormat hp cls x, fun e he => ?_⟩
  cases x with
  | ok a => cases he
  | error e' =>
    cases he
    exact hx e' rfl

end Loads

/-! ### Wiring fails only for a signature that does not parse -/

section Wiring

variable {p : Loader} {fuel : Nat}

/-- The edges of a list of members fail only for a member whose places cannot be read. -/
theorem runExplained_wireMembers {α : Type} (hp : p.Valid) (cls : String) (key : α → String)
    (sites : α → Except FormatError (List Site)) (xs : List α)
    (hsites : ∀ x ∈ xs, ∀ e, sites x = .error e →
      (AnalysisError.parse cls e).Explained p.source p.analyzable) :
    (wireMembers fuel cls key sites xs).RunExplained p fun _ _ => True := by
  unfold wireMembers
  refine (RunExplained.forM_of_step (I := fun _ q => p.Later q) ?_ hp (Later.refl hp)).mono
    fun _ _ _ _ => trivial
  rintro done x rest hsplit q hq hlq
  have hx : x ∈ xs := hsplit ▸ List.mem_append_right _ (List.mem_cons_self ..)
  refine RunExplained.get_bind ?_
  split
  · exact RunExplained.pure hq hlq
  · rename_i src hsrc
    refine RunExplained.bind (runExplained_liftFormat hq cls (sites x) fun e he => ?_)
      fun σs q₁ _ hl => ?_
    · rw [hlq.source_eq, hlq.analyzable_eq]
      exact hsites x hx e he
    · obtain ⟨-, hq₁⟩ := hl
      subst hq₁
      exact (runExplained_edges hq fuel (key_of_get? hsrc).1 σs).mono fun _ _ hl _ => hlq.trans hl

theorem runExplained_wireSignature (hp : p.Valid) (cls : String) {i : Nat} (hi : i < p.graph.size)
    (file : ClassInfo) (hsig : ∀ e, file.signatureSites = .error e →
      (AnalysisError.parse cls e).Explained p.source p.analyzable) :
    (wireSignature fuel cls i file).RunExplained p fun _ _ => True := by
  unfold wireSignature
  exact RunExplained.bind (runExplained_liftFormat hp cls _ hsig) fun σs _ _ ⟨_, hq⟩ =>
    hq ▸ runExplained_edges hp fuel hi σs

/-- The edges to the supertypes do not fail. -/
theorem runExplained_wireSupertypes (hp : p.Valid) {i : Nat} (hi : i < p.graph.size) (u : Usage) :
    (wireSupertypes i u).RunExplained p fun _ _ => True := by
  unfold wireSupertypes
  refine RunExplained.get_bind ?_
  dsimp only
  have hsup : ∀ t, (p.graph.classNode? i).bind (·.superClass) = some t → t < p.graph.size := by
    intro t ht
    obtain ⟨c, hc, hct⟩ := Option.bind_eq_some_iff.mp ht
    exact ((hp.graph.classShape i c hc).superClass_lt t hct).1
  have hifs : ∀ t ∈ ((p.graph.classNode? i).map (·.interfaces)).getD [], t < p.graph.size := by
    intro t ht
    cases hc : p.graph.classNode? i with
    | none => rw [hc] at ht; exact absurd ht List.not_mem_nil
    | some c =>
      rw [hc] at ht
      exact ((hp.graph.classShape i c hc).interfaces_lt t ht).1
  -- each use recorded is between nodes of the graph, which only grows
  have huse : ∀ q : Loader, q.Valid → p.graph.size ≤ q.graph.size → ∀ t u', t < p.graph.size →
      (addUse i t u').RunExplained q fun _ q' => p.graph.size ≤ q'.graph.size := fun q hq hle t u' ht =>
    .of_ok ((run_addUse hq (Nat.lt_of_lt_of_le hi hle) (Nat.lt_of_lt_of_le ht hle) u').mono
      fun _ _ hl _ => Nat.le_trans hle hl.graph.size_le) rfl
  have hloop : ∀ q : Loader, q.Valid → p.graph.size ≤ q.graph.size →
      ((forIn (((p.graph.classNode? i).map ClassNode.interfaces).getD []) PUnit.unit fun t _ => do
          addUse i t u
          pure (ForInStep.yield PUnit.unit)) >>= fun _ => pure ()).RunExplained q fun _ _ => True := by
    intro q hq hsize
    rw [bind_pure_unit]
    refine (RunExplained.forIn_of_step (I := fun _ (q' : Loader) => p.graph.size ≤ q'.graph.size)
      ?_ hq hsize).mono fun _ _ _ _ => trivial
    rintro done t rest hmem q' hq' hle
    have ht : t ∈ ((p.graph.classNode? i).map (·.interfaces)).getD [] := by
      rw [← hmem]
      exact List.mem_append_right _ (List.mem_cons_self ..)
    exact RunExplained.bind (huse q' hq' hle t u (hifs t ht)) fun _ _ hl hle' =>
      RunExplained.pure hl.valid ⟨rfl, hle'⟩
  split
  · rename_i t ht
    exact RunExplained.bind (huse p hp (Nat.le_refl _) t .extends (hsup t ht)) fun _ q hl hle =>
      hloop q hl.valid hle
  · exact hloop p hp (Nat.le_refl _)

/-- Wiring a class from a file read from the bytes of a class to analyse fails only when a
signature of the file does not parse: then the class cannot be analysed. -/
theorem runExplained_wireClass (hp : p.Valid) {cls : String} {i : Nat} (hi : i < p.graph.size)
    {file : ClassInfo} (hcls : cls ∈ p.analyzable) {bytes : List UInt8}
    (hb : p.source.resolve cls = some bytes) (hd : ClassInfo.decode bytes file.level = .ok file) :
    (wireClass fuel cls i file).RunExplained p fun _ _ => True := by
  have hdesc := ClassInfo.descriptorsRead_of_decode hd
  -- a place of the file that cannot be read comes from a signature that does not parse
  have hexp : ∀ q : Loader, p.Later q → ∀ e,
      (∃ s ∈ file.signatures, Signature.referencedClasses s = .error e) →
        (AnalysisError.parse cls e).Explained q.source q.analyzable := by
    intro q hl e ⟨s, hs, he⟩
    rw [hl.source_eq, hl.analyzable_eq]
    exact ⟨hcls, ClassSource.rejects_of_signature hb hd ⟨s, hs, e, he⟩⟩
  rw [wireClass_eq]
  refine RunExplained.get_bind ?_
  refine RunExplained.bind (runExplained_wireMembers hp cls _ _ file.fields fun f hf e he =>
    hexp p (Later.refl hp) e (ClassInfo.signature_of_field_sites hdesc hf he)) fun _ p₁ h₁ _ => ?_
  refine RunExplained.bind (runExplained_wireMembers h₁.valid cls _ _ file.methods fun m hm e he =>
    hexp p₁ h₁ e (ClassInfo.signature_of_method_sites hdesc hm he)) fun _ p₂ h₂ _ => ?_
  have hi₂ : i < p₂.graph.size := Nat.lt_of_lt_of_le hi (h₁.trans h₂).graph.size_le
  refine RunExplained.bind (runExplained_wireSignature h₂.valid cls hi₂ file fun e he =>
    hexp p₂ (h₁.trans h₂) e (ClassInfo.signature_of_signatureSites he)) fun _ p₃ h₃ _ => ?_
  exact runExplained_wireSupertypes h₃.valid (Nat.lt_of_lt_of_le hi₂ h₃.graph.size_le) _

/-- The wiring pass fails only for a class to analyse, when every file kept is one its class
reads to. -/
theorem runExplained_wirePass {P : Nat → Prop} (hp : p.Valid) (hs : p.Stocked P)
    (names : List String) (loaded : List Nat)
    (hnames : ∀ x ∈ names.zip loaded, p.Names x.1 x.2 ∧ x.1 ∈ p.analyzable) :
    (Build.wirePass fuel names loaded).RunExplained p fun _ _ => True := by
  rw [Build.wirePass_eq]
  refine (RunExplained.forM_of_step (I := fun _ q => p.Later q ∧ ∃ P, q.Stocked P) ?_ hp
    ⟨Later.refl hp, P, hs⟩).mono fun _ _ _ _ => trivial
  rintro done ⟨n, i⟩ rest hsplit q hq ⟨hlq, P', hsq⟩
  have hx : (n, i) ∈ names.zip loaded := hsplit ▸ List.mem_append_right done (List.mem_cons_self ..)
  obtain ⟨hn, hA⟩ := hnames _ hx
  have hnq : q.Names n i := hn.later hlq
  unfold Build.wireOne
  refine RunExplained.bind (Q := fun file (q' : Loader) => q' = (q.takeFile i).2 ∧
    file = (q.takeFile i).1) (.of_ok ⟨hq.takeFile i, fun _ h => by cases h; exact ⟨rfl, rfl⟩⟩ rfl)
    fun file q₁ h₁ ⟨hq₁, hfile⟩ => ?_
  have hs₁ : q₁.Stocked fun j => P' j ∨ j = i := hq₁ ▸ hsq.takeFile i
  cases file with
  | some F =>
    -- the file taken is what the bytes of the class's name read to
    obtain ⟨c, bytes, hc, hb, hd, -⟩ := hsq.files i F (by rw [← takeFile_fst]; exact hfile.symm)
    have hkey : c.key = n := by
      rw [← hnq.2, key_of_resource? (classNode?_eq_some.mp hc)]
      rfl
    have hb₁ : q₁.source.resolve n = some bytes := by rw [h₁.source_eq, ← hkey]; exact hb
    have hA₁ : n ∈ q₁.analyzable := by rw [h₁.analyzable_eq, hlq.analyzable_eq]; exact hA
    have hi₁ := (hnq.later h₁).1
    exact (RunExplained.of_run ((edgesKeep_stocked fuel _).run_wireClass h₁.valid hs₁ n hi₁ F)
      (runExplained_wireClass h₁.valid hi₁ hA₁ hb₁ hd)).mono fun _ _ hl hs' =>
        ⟨(hlq.trans h₁).trans hl, _, hs'⟩
  | none => exact RunExplained.pure h₁.valid ⟨hlq.trans h₁, _, hs₁⟩

end Wiring


/-! ### A build fails only for a class to analyse -/

section Build

variable {p : Loader} {P : Nat → Prop}

theorem Loader.prefetch_files (p : Loader) (names : List String) (level : DetailLevel) :
    (p.prefetch names level).files = p.files := by
  unfold Loader.prefetch
  refine List.foldlRecOn (motive := fun q : Loader => q.files = p.files) names _ rfl ?_
  intro q hq n _
  split
  · exact hq
  · exact hq

theorem Build.start_stocked (source : ClassSource) (names : List String) (P : Nat → Prop) :
    (Build.start source names).Stocked P := by
  unfold Build.start
  obtain ⟨-, hg, -⟩ :=
    Loader.prefetch_spec ({ source, analyzable := names } : Loader) names .structureAndCalls
  have hf := Loader.prefetch_files ({ source, analyzable := names } : Loader) names .structureAndCalls
  refine ⟨fun j c l hc _ => ?_, fun j file hfile => ?_⟩
  · rw [hg] at hc
    simp [classNode?, resource?] at hc
  · simp [fileOf, hf] at hfile

theorem runExplained_loadPass (hp : p.Valid) (hs : p.Stocked P) (fuel : Nat)
    (names : List String) :
    (Build.loadPass fuel names).RunExplained p fun is p' =>
      List.Forall₂ (fun n i => p'.Names n i) names is ∧ p'.Stocked P :=
  RunExplained.mapM (R := fun n i q => q.Names n i) (I := fun q => q.Stocked P)
    (fun _ _ _ _ hn hl => hn.later hl) names (fun n _ q hq hsq =>
      (RunExplained.of_run ((run_getClass fuel n .structureAndCalls q hq).and
        (run_getClass_stocked fuel n .structureAndCalls P q hq hsq))
        (runExplained_getClass fuel n .structureAndCalls q hq)).mono
        fun _ _ _ ⟨⟨hn, _⟩, hs'⟩ => ⟨hn, hs'⟩) p hp hs

theorem runExplained_run (hp : p.Valid) (hs : p.Stocked P) (names : List String)
    (hA : ∀ n ∈ names, n ∈ p.analyzable) : (Build.run names).RunExplained p fun _ _ => True := by
  unfold Build.run
  refine RunExplained.get_bind ?_
  refine RunExplained.bind (runExplained_loadPass hp hs p.fuel names)
    fun loaded p₁ h₁ ⟨hloaded, hs₁⟩ => ?_
  refine runExplained_wirePass h₁.valid hs₁ names loaded fun x hx =>
    ⟨List.forall₂_zip hloaded hx, ?_⟩
  rw [h₁.analyzable_eq]
  exact hA x.1 (List.of_mem_zip hx).1

theorem buildGraph_error_explained {source : ClassSource} {analyzable : List String}
    {e : AnalysisError} (h : buildGraph source analyzable = .error e) :
    e.Explained source analyzable := by
  obtain ⟨p, hrun⟩ := buildGraph_eq_error h
  have hmem := (sortedDistinct_spec analyzable).1
  have hstart := Build.start_later source (sortedDistinct analyzable)
  have hexp := (runExplained_run hstart.valid (Build.start_stocked source _ fun _ => False)
    (sortedDistinct analyzable) fun n hn => by rw [hstart.analyzable_eq]; exact hn).2 e
    (by rw [hrun])
  rw [hstart.source_eq, hstart.analyzable_eq] at hexp
  cases e with
  | missingClass c => exact ⟨(hmem c).mp hexp.1, hexp.2⟩
  | parse c fe => exact ⟨(hmem c).mp hexp.1, hexp.2⟩

end Build

/-! ### A build that succeeds has analysed every class to analyse -/

/-- The bytes of class `name` can be analysed: they read with bodies to a file whose signatures
all parse. -/
def ClassSource.Accepts (source : ClassSource) (name : String) : Prop :=
  ∃ bytes file, source.resolve name = some bytes ∧
    ClassInfo.decode bytes .structureAndCalls = .ok file ∧ file.SignaturesRead

theorem ClassSource.Accepts.not_fails {source : ClassSource} {name : String}
    (h : source.Accepts name) : ¬ (source.resolve name = none ∨ source.Rejects name) := by
  obtain ⟨bytes, file, hb, hd, hread⟩ := h
  rintro (hnone | ⟨bytes', hb', hrej⟩)
  · rw [hb] at hnone
    cases hnone
  · rw [hb] at hb'
    cases hb'
    obtain ⟨s, hs, e, he⟩ := hrej file hd
    obtain ⟨ts, hts⟩ := hread s hs
    rw [hts] at he
    cases he

section Complete

variable {p : Loader} {fuel : Nat}

/-- The edges of a list of members that each have a node read the places of every member. -/
theorem run_wireMembers_read {α : Type} (hp : p.Valid) (cls : String) (key : α → String)
    (sites : α → Except FormatError (List Site)) (xs : List α)
    (hkeys : ∀ x ∈ xs, (p.graph.get? (key x)).isSome) :
    (wireMembers fuel cls key sites xs).Run p fun _ _ => ∀ x ∈ xs, ∃ σs, sites x = .ok σs := by
  unfold wireMembers
  refine (Run.forM_of_step (I := fun done q => p.Later q ∧ ∀ x ∈ done, ∃ σs, sites x = .ok σs)
    ?_ hp ⟨Later.refl hp, fun _ h => absurd h List.not_mem_nil⟩).mono fun _ _ _ h => h.2
  rintro done x rest hsplit q hq ⟨hlq, hdone⟩
  have hx : x ∈ xs := hsplit ▸ List.mem_append_right _ (List.mem_cons_self ..)
  refine Run.get_bind ?_
  split
  · -- the member has its node still
    rename_i hnone
    obtain ⟨j, hj⟩ := Option.isSome_iff_exists.mp (hkeys x hx)
    rw [hlq.graph.get?_eq hj] at hnone
    cases hnone
  · rename_i src hsrc
    refine Run.bind (run_liftFormat hq cls (sites x)) fun σs q₁ _ hl => ?_
    obtain ⟨hσs, hq₁⟩ := hl
    subst hq₁
    refine (run_edges hq fuel (key_of_get? hsrc).1 σs).mono fun _ _ hl _ =>
      ⟨hlq.trans hl, fun y hy => ?_⟩
    rcases List.mem_append.mp hy with hy | hy
    · exact hdone y hy
    · rw [List.mem_singleton.mp hy]
      exact ⟨σs, hσs⟩

theorem run_wireClass_read (hp : p.Valid) (cls : String) {i : Nat} (hi : i < p.graph.size)
    {file : ClassInfo} (hdecl : p.graph.Declares (p.graph.key i) file) :
    (wireClass fuel cls i file).Run p fun _ _ => file.SignaturesRead := by
  rw [wireClass_eq]
  refine Run.get_bind ?_
  refine Run.bind (run_wireMembers_read hp cls _ _ file.fields hdecl.1) fun _ p₁ h₁ hf => ?_
  refine Run.bind (run_wireMembers_read h₁.valid cls _ _ file.methods (hdecl.extend h₁.graph).2)
    fun _ p₂ h₂ hm => ?_
  have hi₂ : i < p₂.graph.size := Nat.lt_of_lt_of_le hi (h₁.trans h₂).graph.size_le
  unfold wireSignature
  rw [bind_assoc]
  refine Run.bind (run_liftFormat h₂.valid cls file.signatureSites) fun σs _ _ ⟨hσs, hq⟩ => ?_
  subst hq
  refine Run.bind (run_edges h₂.valid fuel hi₂ σs) fun _ p₃ h₃ _ => ?_
  exact ((wiringKeeps_true fuel).run_wireSupertypes h₃.valid trivial
    (Nat.lt_of_lt_of_le hi₂ h₃.graph.size_le) _).mono fun _ _ _ _ =>
      ClassInfo.signaturesRead_of_sites hf hm ⟨σs, hσs⟩

/-- The wiring pass reads every place of the file of each class it wires, when each is a class
read with bodies, no two under one name, and nothing is pending. -/
theorem run_wirePass_accepts (hp : p.Valid) (hs : p.Stocked fun _ => False) (names : List String)
    (loaded : List Nat)
    (hnames : ∀ x ∈ names.zip loaded, p.Names x.1 x.2 ∧ p.ClassAtLeast (some .structureAndCalls) x.2)
    (hnodup : ((names.zip loaded).map Prod.fst).Nodup) :
    (Build.wirePass fuel names loaded).Run p fun _ _ =>
      ∀ x ∈ names.zip loaded, p.source.Accepts x.1 := by
  rw [Build.wirePass_eq]
  -- the nodes of the classes wired so far are pending, and each of those classes is accepted
  refine (Run.forM_of_step (I := fun done q => p.Later q ∧
      q.Stocked (fun j => ∃ x ∈ done, x.2 = j) ∧ ∀ x ∈ done, p.source.Accepts x.1) ?_ hp
    ⟨Later.refl hp, hs.mono fun _ h => h.elim, fun _ h => absurd h List.not_mem_nil⟩).mono
    fun _ _ _ h => h.2.2
  rintro done ⟨n, i⟩ rest hsplit q hq ⟨hlq, hsq, hdone⟩
  have hx : (n, i) ∈ names.zip loaded := hsplit ▸ List.mem_append_right done (List.mem_cons_self ..)
  obtain ⟨hn, hcls⟩ : p.Names n i ∧ p.ClassAtLeast (some .structureAndCalls) i := hnames _ hx
  have hnq := hn.later hlq
  obtain ⟨c, hc, hlev⟩ := hcls.later hlq
  have hkey : c.key = n := by
    rw [← hnq.2, key_of_resource? (classNode?_eq_some.mp hc)]
    rfl
  -- no class wired before has this node, since each name comes once
  have hfresh : ¬ ∃ x ∈ done, x.2 = i := by
    rintro ⟨x, hxd, hxi⟩
    have hxz : x ∈ names.zip loaded := hsplit ▸ List.mem_append_left _ hxd
    have hne : x.1 ≠ n := by
      rw [← hsplit, List.map_append, List.map_cons] at hnodup
      exact (List.nodup_append.mp hnodup).2.2 x.1 (List.mem_map_of_mem hxd) n (List.mem_cons_self ..)
    exact hne ((hnames x hxz).1.2.symm.trans (hxi ▸ hn.2))
  -- so the file read with bodies is still kept, with its members declared
  obtain ⟨bytes, F, hb, hd, hF⟩ := hsq.classes i c _ hc (LevelRises.eq_structureAndCalls hlev)
  have hfile := hF rfl hfresh
  obtain ⟨c', -, hc', -, -, hdecl⟩ := hsq.files i F hfile
  rw [hc] at hc'
  cases hc'
  unfold Build.wireOne
  refine Run.bind (Q := fun file (q' : Loader) => q' = (q.takeFile i).2 ∧ file = (q.takeFile i).1)
    ⟨hq.takeFile i, fun _ h => by cases h; exact ⟨rfl, rfl⟩⟩ fun file q₁ h₁ ⟨hq₁, hfile₁⟩ => ?_
  rw [takeFile_fst, hfile] at hfile₁
  subst hfile₁
  have hs₁ := hq₁ ▸ hsq.takeFile i
  have hi₁ := (hnq.later h₁).1
  have hdecl₁ : q₁.graph.Declares (q₁.graph.key i) F := by
    rw [h₁.graph.key_eq hnq.1, hnq.2, ← hkey]
    exact hdecl.extend h₁.graph
  refine (((edgesKeep_stocked fuel _).run_wireClass h₁.valid hs₁ n hi₁ F).and
    (run_wireClass_read h₁.valid n hi₁ hdecl₁)).mono fun _ _ hl ⟨hs', hread⟩ =>
      ⟨(hlq.trans h₁).trans hl, hs'.mono fun j hj => ?_, fun x hx => ?_⟩
  · rcases hj with ⟨x, hx, hxj⟩ | hji
    · exact ⟨x, List.mem_append_left _ hx, hxj⟩
    · exact ⟨(n, i), List.mem_append_right _ (List.mem_singleton_self _), hji.symm⟩
  · rcases List.mem_append.mp hx with hx | hx
    · exact hdone x hx
    · rw [List.mem_singleton.mp hx]
      exact ⟨bytes, F, by rw [← hlq.source_eq, ← hkey]; exact hb, hd, hread⟩

theorem run_build_accepts (hp : p.Valid) (hs : p.Sound) (hst : p.Stocked fun _ => False)
    (names : List String) (hA : ∀ n ∈ names, p.isAnalyzable n = true)
    (hplain : ∀ n ∈ names, Key.Plain n) (hnodup : names.Nodup) :
    (Build.run names).Run p fun _ _ => ∀ n ∈ names, p.source.Accepts n := by
  unfold Build.run
  refine Run.get_bind ?_
  refine Run.bind ((run_loadPass_bodies hp hs (unloaded_succ_lt_fuel p) names hA).and
    (runExplained_loadPass hp hst p.fuel names).1) fun loaded p₁ h₁ ⟨⟨hloaded, _⟩, _, hs₁⟩ => ?_
  have hfst : (names.zip loaded).map Prod.fst = names :=
    List.map_fst_zip (Nat.le_of_eq hloaded.length_eq)
  refine (run_wirePass_accepts h₁.valid hs₁ names loaded (fun x hx => ?_) (by rw [hfst]; exact hnodup)).mono
    fun _ _ _ hacc n hn => ?_
  · obtain ⟨hnames, hcls⟩ := List.forall₂_zip hloaded hx
    exact ⟨hnames, hcls (hplain x.1 (List.of_mem_zip hx).1)⟩
  · -- every name is wired
    obtain ⟨x, hx, rfl⟩ := List.mem_map.mp (by rw [hfst]; exact hn : n ∈ (names.zip loaded).map Prod.fst)
    rw [h₁.source_eq] at hacc
    exact hacc x hx

theorem run_build_stocked {P : Nat → Prop} (hp : p.Valid) (hs : p.Stocked P) (names : List String) :
    (Build.run names).Run p fun _ p' => ∃ P, p'.Stocked P := by
  unfold Build.run
  refine Run.get_bind ?_
  refine Run.bind (runExplained_loadPass hp hs p.fuel names).1 fun loaded p₁ h₁ ⟨hloaded, hs₁⟩ => ?_
  exact (wiringKeeps_stocked p.fuel).run_wirePass h₁.valid ⟨P, hs₁⟩ names loaded fun x hx =>
    (List.forall₂_zip hloaded hx).1

end Complete

/-! ### The failures of a build -/

section Graph

variable {source : ClassSource} {analyzable : List String} {g : StructuralGraph}

theorem buildGraph_accepts (h : buildGraph source analyzable = .ok g)
    (hplain : ∀ n ∈ analyzable, Key.Plain n) : ∀ n ∈ analyzable, source.Accepts n := by
  obtain ⟨p, hrun, rfl⟩ := buildGraph_eq_ok h
  have hmem := sortedDistinct_spec analyzable
  have hstart := Build.start_later source (sortedDistinct analyzable)
  have hA : ∀ n ∈ sortedDistinct analyzable,
      (Build.start source (sortedDistinct analyzable)).isAnalyzable n = true := fun n hn => by
    rw [Build.isAnalyzable_start]
    exact List.contains_iff_mem.mpr hn
  have hacc := (run_build_accepts hstart.valid (Build.start_sound source _)
    (Build.start_stocked source _ _) _ hA (fun n hn => hplain n ((hmem.1 n).mp hn)) hmem.2).2 ()
    (by rw [hrun])
  rw [hstart.source_eq] at hacc
  exact fun n hn => hacc n ((hmem.1 n).mpr hn)

/-- After a build, a class whose bytes are missing or do not read is a placeholder. -/
theorem buildGraph_placeholders (h : buildGraph source analyzable = .ok g) {i : Nat}
    {c : ClassNode} (hc : g.classNode? i = some c)
    (hbad : source.resolve c.key = none ∨ ∃ bytes e, source.resolve c.key = some bytes ∧
      ClassInfo.decode bytes .structureOnly = .error e) : c.level = none := by
  obtain ⟨p, hrun, rfl⟩ := buildGraph_eq_ok h
  have hstart := Build.start_later source (sortedDistinct analyzable)
  obtain ⟨hl, hq⟩ := run_build_stocked hstart.valid (Build.start_stocked source _ fun _ => False)
    (sortedDistinct analyzable)
  rw [hrun] at hl hq
  obtain ⟨P, hs⟩ := hq () rfl
  have hsrc : p.source = source := hl.source_eq.trans hstart.source_eq
  cases hl : c.level with
  | none => rfl
  | some l =>
    -- a resolved class was read from its bytes at its level, so also at the structure level
    obtain ⟨bytes, file, hb, hd, -⟩ := hs.classes i c l hc hl
    rw [hsrc] at hb
    rcases hbad with hnone | ⟨bytes', e, hb', hd'⟩
    · rw [hb] at hnone
      cases hnone
    · rw [hb] at hb'
      cases hb'
      cases l with
      | structureOnly => rw [hd] at hd'; cases hd'
      | structureAndCalls => rw [ClassInfo.decode_withoutCode hd] at hd'; cases hd'

end Graph

/-- How a build for the classes `analyzable` of `source` fails: only for a class to analyse that
is missing or whose bytes cannot be analysed, and, when no name to analyse holds a `#`, for every
such class; a class whose bytes are missing or do not read is left a placeholder. -/
structure FailuresOfBuild (source : ClassSource) (analyzable : List String) : Prop where
  explained : ∀ e, buildGraph source analyzable = .error e → e.Explained source analyzable
  fails_iff : (∀ n ∈ analyzable, Key.Plain n) → ((∃ e, buildGraph source analyzable = .error e) ↔
    ∃ c ∈ analyzable, source.resolve c = none ∨ source.Rejects c)
  placeholders : ∀ g, buildGraph source analyzable = .ok g → ∀ i c, g.classNode? i = some c →
    (source.resolve c.key = none ∨ ∃ bytes e, source.resolve c.key = some bytes ∧
      ClassInfo.decode bytes .structureOnly = .error e) → c.level = none

/-- **The failures of a build.** A failed build names a class to analyse that is missing or
cannot be analysed; library classes never fail it and are left placeholders when they cannot be
read. For names to analyse that hold no `#`, a build fails exactly when such a class exists. -/
theorem buildGraph_failures {source : ClassSource} {analyzable : List String} :
    FailuresOfBuild source analyzable where
  explained _ h := buildGraph_error_explained h
  fails_iff hplain := by
    constructor
    · rintro ⟨e, he⟩
      have hexp := buildGraph_error_explained he
      cases e with
      | missingClass c => exact ⟨c, hexp.1, .inl hexp.2⟩
      | parse c _ => exact ⟨c, hexp.1, .inr hexp.2⟩
    · rintro ⟨c, hc, hfail⟩
      cases hb : buildGraph source analyzable with
      | error e => exact ⟨e, rfl⟩
      | ok g => exact absurd hfail (buildGraph_accepts hb hplain c hc).not_fails
  placeholders _ h _ _ hc hbad := buildGraph_placeholders h hc hbad

/-- A class `A` with an `int` field `f`, analysed beside a class `B` that no source has. -/
theorem failuresOfBuild_missingClass :
    let bytesA : List UInt8 :=
      [0xca, 0xfe, 0xba, 0xbe, 0x00, 0x00, 0x00, 0x34, 0x00, 0x05, 0x01, 0x00, 0x01, 0x41,
       0x07, 0x00, 0x01, 0x01, 0x00, 0x01, 0x66, 0x01, 0x00, 0x01, 0x49, 0x00, 0x21, 0x00,
       0x02, 0x00, 0x00, 0x00, 0x00, 0x00, 0x01, 0x00, 0x02, 0x00, 0x03, 0x00, 0x04, 0x00,
       0x00, 0x00, 0x00, 0x00, 0x00]
    let classes : ClassSource := [.table [("A", bytesA)]]
    FailuresOfBuild classes ["A", "B"] ∧ ∃ e, buildGraph classes ["A", "B"] = .error e :=
  ⟨buildGraph_failures, (buildGraph_failures.fails_iff (by decide)).mpr
    ⟨"B", List.mem_cons_of_mem _ (List.mem_singleton_self _), .inl (by decide)⟩⟩

/-- A class `A` with a field `f`, and a name `A#f` to analyse that no source has: the name finds
the field, so the build succeeds although a class to analyse is missing. -/
theorem missingClassNamedLikeField_builds :
    let bytesA : List UInt8 :=
      [0xca, 0xfe, 0xba, 0xbe, 0x00, 0x00, 0x00, 0x34, 0x00, 0x05, 0x01, 0x00, 0x01, 0x41,
       0x07, 0x00, 0x01, 0x01, 0x00, 0x01, 0x66, 0x01, 0x00, 0x01, 0x49, 0x00, 0x21, 0x00,
       0x02, 0x00, 0x00, 0x00, 0x00, 0x00, 0x01, 0x00, 0x02, 0x00, 0x03, 0x00, 0x04, 0x00,
       0x00, 0x00, 0x00, 0x00, 0x00]
    let classes : ClassSource := [.table [("A", bytesA)]]
    classes.resolve "A#f" = none ∧ ∃ g, buildGraph classes ["A", "A#f"] = .ok g := by
  intro bytesA classes
  have hok : (buildGraph classes ["A", "A#f"]).toOption.isSome = true := by cbv
  refine ⟨by cbv, ?_⟩
  cases hb : buildGraph classes ["A", "A#f"] with
  | error e => rw [hb] at hok; cases hok
  | ok g => exact ⟨g, rfl⟩

end ClassMetrics
