import ClassMetrics.Proofs.Build.Built

/-!
Class sources alike but for the order of members. Two class files are alike so when they list
the same fields and the same methods, each in some order, and agree on everything else; two
sources are, when a name has bytes in both or in neither and, at each level, its bytes read in
both to files alike so or fail to read in both. What a build reads of a source apart from that
order is then the same: the places of the files analysed, the classes it loads, and the classes
to analyse that cannot be analysed.

The last part states what the analysis asks of a source for the order of members not to matter:
class names hold no `#`, each file keys its members apart, and the places of the files analysed
that name a member under one key name it alike.
-/

namespace ClassMetrics

open ClassFile StructuralGraph

/-! ### Files alike but for the order of members -/

namespace ClassFile.ClassInfo

/-- Two class files alike but for the order of their fields and of their methods. -/
structure MembersPermuted (file file' : ClassInfo) : Prop where
  name : file'.name = file.name
  access : file'.access = file.access
  superClass : file'.superClass = file.superClass
  interfaces : file'.interfaces = file.interfaces
  signature : file'.signature = file.signature
  level : file'.level = file.level
  fields : file'.fields.Perm file.fields
  methods : file'.methods.Perm file.methods

namespace MembersPermuted

variable {file file' : ClassInfo}

theorem symm (h : file.MembersPermuted file') : file'.MembersPermuted file :=
  ⟨h.name.symm, h.access.symm, h.superClass.symm, h.interfaces.symm, h.signature.symm,
    h.level.symm, h.fields.symm, h.methods.symm⟩

theorem reverseMethods (file : ClassInfo) :
    file.MembersPermuted { file with methods := file.methods.reverse } :=
  ⟨rfl, rfl, rfl, rfl, rfl, rfl, .refl _, List.reverse_perm _⟩

theorem signatureSites_eq (h : file.MembersPermuted file') :
    file'.signatureSites = file.signatureSites := by
  unfold signatureSites
  rw [h.signature, h.superClass, h.interfaces]

theorem hasSite_iff (h : file.MembersPermuted file') {σ : Site} :
    file'.HasSite σ ↔ file.HasSite σ := by
  unfold HasSite
  simp only [h.signatureSites_eq, h.fields.mem_iff, h.methods.mem_iff]

theorem memberKeys_perm (h : file.MembersPermuted file') (cls : String) :
    (file'.memberKeys cls).Perm (file.memberKeys cls) :=
  (h.fields.map _).append (h.methods.map _)

theorem signatures_perm (h : file.MembersPermuted file') :
    file'.signatures.Perm file.signatures := by
  unfold signatures
  rw [h.signature]
  exact ((List.Perm.refl _).append (h.fields.filterMap _)).append (h.methods.filterMap _)

end MembersPermuted

/-- A class file names plain classes: its supertypes and the class of each of its places hold
no `#`. -/
def NamesPlain (file : ClassInfo) : Prop :=
  file.PlainSupertypes ∧ ∀ σ, file.HasSite σ → Key.Plain σ.className

theorem MembersPermuted.namesPlain {file file' : ClassInfo} (h : file.MembersPermuted file')
    (hp : file.NamesPlain) : file'.NamesPlain :=
  ⟨⟨fun s hs => hp.1.1 s (h.superClass ▸ hs), fun s hs => hp.1.2 s (h.interfaces ▸ hs)⟩,
    fun σ hσ => hp.2 σ (h.hasSite_iff.mp hσ)⟩

/-- The places read, joined in order; a failure when one read failed. -/
def joinSites (rs : List (Except FormatError (List Site))) : Except FormatError (List Site) :=
  rs.foldr (fun r acc => do pure ((← r) ++ (← acc))) (pure [])

theorem subset_of_joinSites {rs : List (Except FormatError (List Site))} {σs τs : List Site}
    (h : joinSites rs = .ok σs) {r : Except FormatError (List Site)} (hr : r ∈ rs)
    (hok : r = .ok τs) : τs ⊆ σs := by
  induction rs generalizing σs with
  | nil => exact absurd hr List.not_mem_nil
  | cons r' rs ih =>
    -- the first read, then the rest
    have hcons : joinSites (r' :: rs) = (do pure ((← r') ++ (← joinSites rs))) := rfl
    rw [hcons] at h
    cases hr' : r' with
    | error e => rw [hr'] at h; cases h
    | ok a =>
      cases hrest : joinSites rs with
      | error e => rw [hr', hrest] at h; cases h
      | ok b =>
        rw [hr', hrest] at h
        cases h
        rcases List.mem_cons.mp hr with rfl | hr
        · rw [hok] at hr'
          cases hr'
          exact List.subset_append_left _ _
        · exact List.Subset.trans (ih hrest hr) (List.subset_append_right _ _)

/-- The places of a class file, listed: of its fields, of its methods, then of its signature. -/
def siteList (file : ClassInfo) : Except FormatError (List Site) :=
  joinSites (file.fields.map (·.sites) ++ file.methods.map (·.sites) ++ [file.signatureSites])

/-- When the places of a file are listed, every place of it is in the list. -/
theorem HasSite.mem_siteList {file : ClassInfo} {σs : List Site} (h : file.siteList = .ok σs)
    {σ : Site} (hσ : file.HasSite σ) : σ ∈ σs := by
  obtain ⟨f, hf, τs, hs, hστ⟩ | ⟨m, hm, τs, hs, hστ⟩ | ⟨τs, hs, hστ⟩ := hσ
  · exact subset_of_joinSites h (by simp only [List.mem_append, List.mem_map]; exact .inl (.inl ⟨f, hf, rfl⟩)) hs hστ
  · exact subset_of_joinSites h (by simp only [List.mem_append, List.mem_map]; exact .inl (.inr ⟨m, hm, rfl⟩)) hs hστ
  · exact subset_of_joinSites h (by simp) hs hστ

end ClassFile.ClassInfo

/-! ### Sources alike but for the order of members -/

/-- What the bytes of a class read to at a level: nothing when no store has them. -/
def ClassSource.readAt (S : ClassSource) (n : String) (l : DetailLevel) :
    Option (Except FormatError ClassInfo) :=
  (S.resolve n).map (ClassInfo.decode · l)

/-- Two outcomes of reading alike but for the order of members: nothing in both, a failure in
both, or two files alike but for that order. -/
def ReadsAlike : Option (Except FormatError ClassInfo) → Option (Except FormatError ClassInfo) → Prop
  | none, none => True
  | some (.error _), some (.error _) => True
  | some (.ok file), some (.ok file') => file.MembersPermuted file'
  | _, _ => False

theorem ReadsAlike.symm : ∀ {r r' : Option (Except FormatError ClassInfo)}, ReadsAlike r r' →
    ReadsAlike r' r
  | none, none, _ => trivial
  | some (.error _), some (.error _), _ => trivial
  | some (.ok _), some (.ok _), h => ClassInfo.MembersPermuted.symm h

/-- Two class sources alike but for the order in which their class files list fields and
methods. -/
def ClassSource.MembersPermuted (S S' : ClassSource) : Prop :=
  ∀ n l, ReadsAlike (S.readAt n l) (S'.readAt n l)

namespace ClassSource.MembersPermuted

variable {S S' : ClassSource} (h : S.MembersPermuted S')
include h

theorem symm : S'.MembersPermuted S := fun n l => (h n l).symm

theorem resolve_eq_none_iff (n : String) : S'.resolve n = none ↔ S.resolve n = none := by
  have halike := h n .structureOnly
  unfold readAt at halike
  cases hb : S.resolve n with
  | none =>
    cases hb' : S'.resolve n with
    | none => exact iff_of_true rfl rfl
    | some b' => rw [hb, hb'] at halike; exact absurd halike id
  | some b =>
    cases hb' : S'.resolve n with
    | none =>
      rw [hb, hb'] at halike
      cases hd : ClassInfo.decode b .structureOnly <;> rw [Option.map_some, hd] at halike <;>
        exact absurd halike id
    | some b' => exact iff_of_false (fun h => by cases h) fun h => by cases h

theorem reads {n : String} {l : DetailLevel} {file : ClassInfo} (hr : S.Reads n l file) :
    ∃ file', S'.Reads n l file' ∧ file.MembersPermuted file' := by
  obtain ⟨bytes, hb, hd⟩ := hr
  have halike := h n l
  unfold readAt at halike
  rw [hb, Option.map_some, hd] at halike
  cases hb' : S'.resolve n with
  | none => rw [hb'] at halike; exact absurd halike id
  | some b' =>
    rw [hb', Option.map_some] at halike
    cases hd' : ClassInfo.decode b' l with
    | error e => rw [hd'] at halike; exact absurd halike id
    | ok file' =>
      rw [hd'] at halike
      exact ⟨file', ⟨b', hb', hd'⟩, halike⟩

theorem analysedSite {A : String → Bool} {σ : Site} (hσ : S.AnalysedSite A σ) :
    S'.AnalysedSite A σ := by
  obtain ⟨n, file, hA, hr, hs⟩ := hσ
  obtain ⟨file', hr', hp⟩ := h.reads hr
  exact ⟨n, file', hA, hr', hp.hasSite_iff.mpr hs⟩

theorem loads {A : String → Bool} {n : String} (hn : S.Loads A n) : S'.Loads A n := by
  induction hn with
  | analysed hA => exact .analysed hA
  | named hσ => exact .named (h.analysedSite hσ)
  | supertype _ hr ht ih =>
    obtain ⟨file', hr', hp⟩ := h.reads hr
    exact .supertype ih hr' (by rw [hp.superClass, hp.interfaces]; exact ht)

theorem rejects {n : String} (hn : S.Rejects n) : S'.Rejects n := by
  obtain ⟨bytes, hb, hsig⟩ := hn
  cases hb' : S'.resolve n with
  | none => exact absurd ((h.resolve_eq_none_iff n).mp hb') (by rw [hb]; exact fun h => by cases h)
  | some b' =>
    refine ⟨b', hb', fun file' hd' => ?_⟩
    obtain ⟨file, ⟨b, hb₀, hd⟩, hp⟩ := h.symm.reads ⟨b', hb', hd'⟩
    rw [hb] at hb₀
    cases hb₀
    obtain ⟨s, hs, e, he⟩ := hsig file hd
    exact ⟨s, hp.signatures_perm.mem_iff.mp hs, e, he⟩

theorem fileWithBodies_some {n : String} {file : ClassInfo} (hf : S.fileWithBodies n = some file) :
    ∃ file', S'.fileWithBodies n = some file' ∧ file.MembersPermuted file' := by
  obtain ⟨file', hr', hfile⟩ := h.reads (ClassSource.fileWithBodies_eq_some.mp hf)
  exact ⟨file', ClassSource.fileWithBodies_eq_some.mpr hr', hfile⟩

theorem fileWithBodies_none {n : String} (hf : S.fileWithBodies n = none) :
    S'.fileWithBodies n = none := by
  cases hf' : S'.fileWithBodies n with
  | none => rfl
  | some file' =>
    obtain ⟨file, hfile, -⟩ := h.symm.fileWithBodies_some hf'
    rw [hf] at hfile
    cases hfile

end ClassSource.MembersPermuted

/-! ### What member order asks of a source -/

/-- The key of the member a place names; none for a type. -/
def Site.memberKey : Site → Option String
  | .type _ => none
  | .method r _ => some (Key.method r.owner r.name r.descriptor)
  | .field r _ => some (Key.field r.owner r.name)

theorem Key.method_inj_left {a b name descriptor : String} :
    Key.method a name descriptor = Key.method b name descriptor ↔ a = b := by
  simp [Key.method]

theorem Key.field_inj_left {a b name : String} : Key.field a name = Key.field b name ↔ a = b := by
  simp [Key.field]

theorem Site.not_plain_of_memberKey {σ : Site} {k : String} (h : σ.memberKey = some k) :
    ¬Key.Plain k := by
  intro hk
  cases σ with
  | type n => cases h
  | method r s =>
    cases h
    exact Key.ne_append_of_plain hk _ _ (Key.method_eq_append _ _ _)
  | field r s =>
    cases h
    exact Key.ne_append_of_plain hk _ _ rfl

/-- The member a place makes on node `o` of its owner, when the owner's hierarchy declares
nothing of its name; none for a type. -/
def Site.used : Site → Nat → Option Resource
  | .type _, _ => none
  | .method r s, o => some (.method (r.usedMethod o s))
  | .field r s, o => some (.field (r.usedField o s))

theorem Site.memberKey_of_used {σ : Site} {o : Nat} {r : Resource} (h : σ.used o = some r) :
    σ.memberKey = some r.key := by
  cases σ with
  | type n => cases h
  | method r s => cases h; rfl
  | field r s => cases h; rfl

/-- Two places name one member alike: a method of one name and descriptor, or a field of one
name, called or read as static by both or by neither. -/
def Site.NamesAlike : Site → Site → Prop
  | .method r s, .method r' s' => r.name = r'.name ∧ r.descriptor = r'.descriptor ∧ s = s'
  | .field r s, .field r' s' => r.name = r'.name ∧ s = s'
  | _, _ => False

/-- What the analysis of the classes `A` asks of a source for the order of members not to
matter: every file it reads names plain classes and keys its members apart, and the places of
the files analysed that name a member under one key name it alike. -/
structure ClassSource.MembersKeyed (S : ClassSource) (A : String → Bool) : Prop where
  namesPlain : ∀ n l file, S.Reads n l file → file.NamesPlain
  memberKeys : ∀ n l file, S.Reads n l file → (file.memberKeys n).Nodup
  sitesAlike : ∀ σ σ', S.AnalysedSite A σ → S.AnalysedSite A σ' → σ.memberKey.isSome →
    σ.memberKey = σ'.memberKey → σ.NamesAlike σ'

namespace ClassSource.MembersKeyed

variable {S S' : ClassSource} {A : String → Bool}

theorem keyable (h : S.MembersKeyed A) (hA : ∀ n, A n = true → Key.Plain n) : S.Keyable A where
  plain n hn := by
    induction hn with
    | analysed hn => exact hA _ hn
    | named hσ =>
      obtain ⟨n, file, -, hr, hs⟩ := hσ
      exact (h.namesPlain n _ file hr).2 _ hs
    | supertype _ hr ht _ =>
      rcases ht with ht | ht
      · exact (h.namesPlain _ _ _ hr).1.1 _ ht
      · exact (h.namesPlain _ _ _ hr).1.2 _ ht
  memberKeys := h.memberKeys

theorem keyable_of_plain {names : List String} (h : S.MembersKeyed names.contains)
    (hA : ∀ n ∈ names, Key.Plain n) : S.Keyable names.contains :=
  h.keyable fun n hn => hA n (List.contains_iff_mem.mp hn)

theorem of_membersPermuted (h : S.MembersKeyed A) (hp : S.MembersPermuted S') :
    S'.MembersKeyed A where
  namesPlain n l file' hr := by
    obtain ⟨file, hr₀, hfile⟩ := hp.symm.reads hr
    exact hfile.symm.namesPlain (h.namesPlain n l file hr₀)
  memberKeys n l file' hr := by
    obtain ⟨file, hr₀, hfile⟩ := hp.symm.reads hr
    exact (hfile.memberKeys_perm n).nodup_iff.mp (h.memberKeys n l file hr₀)
  sitesAlike σ σ' hσ hσ' := h.sitesAlike σ σ' (hp.symm.analysedSite hσ) (hp.symm.analysedSite hσ')

end ClassSource.MembersKeyed

/-! ### Sources of one class -/

namespace ClassSource

variable {c n : String} {bytes bytes' : List UInt8}

theorem resolve_single (c : String) (bytes : List UInt8) (n : String) :
    ClassSource.resolve [.table [(c, bytes)]] n = if n = c then some bytes else none := by
  by_cases h : n = c
  · subst h
    simp [resolve, ClassStore.resolve]
  · simp [resolve, ClassStore.resolve, h, Ne.symm h]

theorem reads_single {l : DetailLevel} {file : ClassInfo}
    (h : ClassSource.Reads [.table [(c, bytes)]] n l file) :
    n = c ∧ ClassInfo.decode bytes l = .ok file := by
  obtain ⟨bs, hb, hd⟩ := h
  rw [resolve_single] at hb
  split at hb
  · cases hb
    exact ⟨‹_›, hd⟩
  · cases hb

/-- Two sources of one class are alike but for member order when, at each level, the second's
bytes read to what the first's read to, changed by a map that only reorders members. -/
theorem membersPermuted_single {g : ClassInfo → ClassInfo}
    (hg : ∀ file : ClassInfo, file.MembersPermuted (g file))
    (h : ∀ l, ClassInfo.decode bytes' l = (ClassInfo.decode bytes l).map g) :
    ClassSource.MembersPermuted [.table [(c, bytes)]] [.table [(c, bytes')]] := by
  intro n l
  unfold readAt
  rw [resolve_single, resolve_single]
  split
  · rw [Option.map_some, Option.map_some, h l]
    cases ClassInfo.decode bytes l with
    | error e => trivial
    | ok file => exact hg file
  · trivial

/-- A source of one class keys its members when the class's file, at each level, names plain
classes, keys its members apart, and names alike the members it names under one key. -/
theorem membersKeyed_single {A : String → Bool}
    (h : ∀ l (file : ClassInfo), ClassInfo.decode bytes l = .ok file → file.NamesPlain ∧
      (file.memberKeys c).Nodup ∧ ∀ σ σ', file.HasSite σ → file.HasSite σ' →
        σ.memberKey.isSome → σ.memberKey = σ'.memberKey → σ.NamesAlike σ') :
    ClassSource.MembersKeyed [.table [(c, bytes)]] A where
  namesPlain _ l file hr := (h l file (reads_single hr).2).1
  memberKeys n l file hr := by
    obtain ⟨rfl, hd⟩ := reads_single hr
    exact (h l file hd).2.1
  sitesAlike σ σ' hσ hσ' := by
    obtain ⟨_, file, -, hr, hs⟩ := hσ
    obtain ⟨_, file', -, hr', hs'⟩ := hσ'
    have hd := (reads_single hr).2
    -- both places are of the one file the class reads to with bodies
    have hfile : file' = file := by
      have hd' := (reads_single hr').2
      rw [hd] at hd'
      cases hd'
      rfl
    rw [hfile] at hs'
    exact (h _ file hd).2.2 σ σ' hs hs'

end ClassSource

end ClassMetrics
