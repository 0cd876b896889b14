import ClassMetrics.Proofs.ClassFile.Levels

/-!
What a decoded class file holds. The classes it names as its superclass and interfaces are texts
of its constant pool, and a pool holds at most a third as many texts as the file has bytes: every
constant is written as a tag byte and at least two more. So a file names no more supertypes than
a third of its bytes, whatever the level it is read at. A method keeps its body only when the
file is read with bodies, and then exactly when it has a `Code` attribute.
-/

namespace ClassMetrics.ClassFile

open Decoder

variable {α β : Type}

/-- The texts among pool slots, in order. -/
def textsOf (slots : List (Option Constant)) : List String :=
  slots.filterMap fun
    | some (.utf8 s) => some s
    | _ => none

/-- The texts of a pool, in slot order. -/
def ConstantPool.texts (p : ConstantPool) : List String := textsOf p.slots.toList

@[simp] theorem textsOf_append (l l' : List (Option Constant)) :
    textsOf (l ++ l') = textsOf l ++ textsOf l' := List.filterMap_append

theorem ConstantPool.utf8_mem_texts {p : ConstantPool} {i : Nat} {s : String}
    (h : p.utf8 i = .ok s) : s ∈ p.texts := by
  unfold ConstantPool.utf8 ConstantPool.get at h
  cases hs : p.slots[i]? with
  | none => simp [hs] at h; cases h
  | some o =>
    cases o with
    | none => simp [hs] at h; cases h
    | some c =>
      cases c <;> simp [hs] at h <;> try cases h
      -- the slot holds the text itself
      exact List.mem_filterMap.mpr ⟨some (.utf8 _), List.mem_of_getElem? (by simpa using hs), rfl⟩

theorem ConstantPool.className_mem_texts {p : ConstantPool} {i : Nat} {s : String}
    (h : p.className i = .ok s) : s ∈ p.texts := by
  unfold ConstantPool.className at h
  cases hc : p.get i with
  | error e => simp [hc] at h; cases h
  | ok c =>
    cases c <;> simp [hc] at h <;> try cases h
    exact ConstantPool.utf8_mem_texts h

/-! ### What a reader yields and how much it takes -/

/-- `d` reads at least `w a` bytes to read `a`. -/
def Decoder.Takes (d : Decoder α) (w : α → Nat) : Prop :=
  ∀ c a c', d c = .ok (a, c') → w a + c'.rest.length ≤ c.rest.length

namespace Decoder.Yields

theorem bind_of {d : Decoder α} {k : α → Decoder β} {P : α → Prop} {Q : β → Prop}
    (hd : Yields P d) (hk : ∀ a, P a → Yields Q (k a)) : Yields Q (d >>= k) := by
  intro c b c'' h
  rw [bind_apply] at h
  cases hc : d c with
  | error e => rw [hc] at h; cases h
  | ok r =>
    obtain ⟨a, c'⟩ := r
    rw [hc] at h
    exact hk a (hd c a c' hc) c' b c'' h

theorem mono {d : Decoder α} {P Q : α → Prop} (hd : Yields P d) (h : ∀ a, P a → Q a) :
    Yields Q d :=
  fun c a c' hc => h a (hd c a c' hc)

theorem lift {r : Except FormatError α} {P : α → Prop} (h : ∀ a, r = .ok a → P a) :
    Yields P (Decoder.lift r) := by
  intro c a c' hc
  cases hr : r with
  | error e => simp [Decoder.lift, hr, Except.map] at hc
  | ok x =>
    simp only [Decoder.lift, hr, Except.map, Except.ok.injEq, Prod.mk.injEq] at hc
    exact hc.1 ▸ h x hr

theorem times {d : Decoder α} {P : α → Prop} (hd : Yields P d) :
    ∀ n, Yields (fun l => ∀ x ∈ l, P x) (Decoder.times n d)
  | 0 => pure (by simp)
  | n + 1 => bind_of hd fun a ha => bind_of (times hd n) fun l hl => pure fun x hx => by
      rcases List.mem_cons.mp hx with rfl | hx
      · exact ha
      · exact hl x hx

theorem map {d : Decoder α} {f : α → β} {P : β → Prop} (hd : Yields (fun a => P (f a)) d) :
    Yields P (f <$> d) := by
  intro c b c' h
  change (d c).map (fun p => (f p.1, p.2)) = .ok (b, c') at h
  cases hc : d c with
  | error e => rw [hc] at h; cases h
  | ok r =>
    rw [hc] at h
    simp only [Except.map, Except.ok.injEq, Prod.mk.injEq] at h
    rw [← h.1]
    exact hd c r.1 r.2 hc

theorem attributes {σ : Type} {pool : ConstantPool}
    {step : σ → String → List UInt8 → Except FormatError σ} {P : σ → Prop}
    (hstep : ∀ s name body s', P s → step s name body = .ok s' → P s') {init : σ}
    (hinit : P init) : Yields P (ClassFile.attributes pool step init) := by
  have hgo : ∀ n s, P s → Yields P (ClassFile.attributes.go pool step n s) := by
    intro n
    induction n with
    | zero => intro s hs; exact pure hs
    | succ n ih =>
      intro s hs
      simp only [ClassFile.attributes.go]
      refine bind fun _ => bind fun name => bind fun _ => bind fun body => ?_
      exact bind_of (lift fun s' h => hstep s name body s' hs h) fun s' hs' => ih s' hs'
  exact bind fun n => hgo n init hinit

end Decoder.Yields

namespace Decoder.Takes

theorem bind {d : Decoder α} {k : α → Decoder β} {n : Nat} {w : β → Nat}
    (hd : Takes d fun _ => n) (hk : ∀ a, Takes (k a) w) : Takes (d >>= k) fun b => n + w b := by
  intro c b c'' h
  rw [bind_apply] at h
  cases hc : d c with
  | error e => rw [hc] at h; cases h
  | ok r =>
    obtain ⟨a, c'⟩ := r
    rw [hc] at h
    have h₁ := hd c a c' hc
    have h₂ := hk a c' b c'' h
    dsimp only at h₁ ⊢
    omega

theorem mono {d : Decoder α} {w w' : α → Nat} (hd : Takes d w) (h : ∀ a, w' a ≤ w a) :
    Takes d w' :=
  fun c a c' hc => Nat.le_trans (Nat.add_le_add_right (h a) _) (hd c a c' hc)

theorem pure (a : α) : Takes (Pure.pure a : Decoder α) fun _ => 0 := by
  intro c a' c' hc
  cases hc
  simp

theorem lift (r : Except FormatError α) : Takes (Decoder.lift r) fun _ => 0 := by
  intro c a c' hc
  cases r with
  | error e => simp [Decoder.lift, Except.map] at hc
  | ok x =>
    simp only [Decoder.lift, Except.map, Except.ok.injEq, Prod.mk.injEq] at hc
    simp [hc.2]

theorem take (n : Nat) : Takes (Decoder.take n) fun _ => n := by
  intro c bs c' hc
  unfold Decoder.take at hc
  dsimp only at hc ⊢
  split at hc
  · next hlen =>
    cases hc
    have hle := List.length_take_le' n c.rest
    simp only [List.length_drop]
    omega
  · cases hc

theorem skip (n : Nat) : Takes (Decoder.skip n) fun _ => n := by
  intro c u c' hc
  unfold Decoder.skip at hc
  cases ht : Decoder.take n c with
  | error e => rw [ht] at hc; cases hc
  | ok r =>
    rw [ht] at hc
    simp only [Except.map, Except.ok.injEq, Prod.mk.injEq] at hc
    rw [← hc.2]
    exact take n c r.1 r.2 ht

theorem u1 : Takes Decoder.u1 fun _ => 1 := by
  intro c a c' hc
  unfold Decoder.u1 at hc
  split at hc
  · cases hc
  · next b r hr =>
    cases hc
    simp only [hr, List.length_cons]
    omega

theorem u2 : Takes Decoder.u2 fun _ => 2 := by
  intro c a c' hc
  unfold Decoder.u2 at hc
  cases ht : Decoder.take 2 c with
  | error e => rw [ht] at hc; cases hc
  | ok r =>
    rw [ht] at hc
    simp only [Except.map, Except.ok.injEq, Prod.mk.injEq] at hc
    rw [← hc.2]
    exact take 2 c r.1 r.2 ht

theorem u4 : Takes Decoder.u4 fun _ => 4 := by
  intro c a c' hc
  unfold Decoder.u4 at hc
  cases ht : Decoder.take 4 c with
  | error e => rw [ht] at hc; cases hc
  | ok r =>
    rw [ht] at hc
    simp only [Except.map, Except.ok.injEq, Prod.mk.injEq] at hc
    rw [← hc.2]
    exact take 4 c r.1 r.2 ht

theorem throw_bind (e : FormatError) (k : α → Decoder β) (w : β → Nat) :
    Takes (MonadExcept.throw e >>= k) w := by
  intro c b c' hc
  cases hc

theorem position : Takes Decoder.position fun _ => 0 := by
  intro c a c' hc
  cases hc
  simp

end Decoder.Takes

/-! ### The constant pool -/

namespace ConstantPool

theorem takes_readConstant (offset tag : Nat) : Takes (readConstant offset tag) fun _ => 2 := by
  unfold readConstant
  split
  · -- the length of a text, then as many bytes as it says
    exact (Takes.u2.bind fun _ => ((Takes.take _).bind fun _ =>
      (Takes.lift _).bind fun _ => Takes.pure _).mono fun _ => Nat.zero_le _).mono
        fun _ => by omega
  all_goals first
    | exact ((Takes.skip _).bind fun _ => Takes.pure _).mono fun _ => by omega
    | exact ((Takes.u2.bind fun _ => Takes.pure _)).mono fun _ => by omega
    | exact (Takes.u2.bind fun _ => Takes.u2.bind fun _ => Takes.pure _).mono fun _ => by omega
    | exact (Takes.u1.bind fun _ => Takes.u2.bind fun _ => Takes.pure _).mono fun _ => by omega
    | exact fun c a c' hc => by simp [Decoder.lift, Except.map] at hc

theorem yields_readConstant (offset tag : Nat) :
    Yields (fun slots => (textsOf slots).length ≤ 1) (readConstant offset tag) := by
  unfold readConstant
  split
  · exact Yields.bind fun _ => Yields.bind fun _ => Yields.bind fun _ =>
      Yields.pure (by simp [textsOf])
  all_goals first
    | exact Yields.bind fun _ => Yields.pure (by simp [textsOf])
    | exact Yields.bind fun _ => Yields.bind fun _ => Yields.pure (by simp [textsOf])
    | exact Yields.lift fun _ h => by cases h

/-- Reading slots takes three bytes for each text it adds. -/
theorem readSlots_texts (count : Nat) :
    ∀ fuel (acc : Array (Option Constant)) c res c', readSlots count fuel acc c = .ok (res, c') →
      3 * (textsOf res.toList).length + c'.rest.length ≤
        3 * (textsOf acc.toList).length + c.rest.length := by
  intro fuel
  induction fuel with
  | zero =>
    intro acc c res c' h
    cases h
    exact Nat.le_refl _
  | succ fuel ih =>
    intro acc c res c' h
    unfold readSlots at h
    split at h
    · simp only [bind_apply] at h
      -- the tag, then the constant, then the slots after it
      cases hpos : Decoder.position c with
      | error e => rw [hpos] at h; cases h
      | ok r₀ =>
        obtain ⟨offset, c₀⟩ := r₀
        have h₀ := Takes.position c offset c₀ hpos
        rw [hpos] at h
        dsimp only at h
        cases htag : Decoder.u1 c₀ with
        | error e => rw [htag] at h; cases h
        | ok r₁ =>
          obtain ⟨tag, c₁⟩ := r₁
          have h₁ := Takes.u1 c₀ tag c₁ htag
          rw [htag] at h
          dsimp only at h
          cases hcon : readConstant offset tag c₁ with
          | error e => rw [hcon] at h; cases h
          | ok r₂ =>
            obtain ⟨slots, c₂⟩ := r₂
            have h₂ := takes_readConstant offset tag c₁ slots c₂ hcon
            have h₃ := yields_readConstant offset tag c₁ slots c₂ hcon
            rw [hcon] at h
            have h₄ := ih _ c₂ res c' h
            simp only [Array.toList_append, textsOf_append, List.length_append] at h₄
            dsimp only at h₀ h₁ h₂
            omega
    · cases h
      exact Nat.le_refl _

theorem length_textsOf_extract (a : Array (Option Constant)) (j : Nat) :
    (textsOf (a.extract 0 j).toList).length ≤ (textsOf a.toList).length := by
  rw [Array.toList_extract, List.extract_eq_take_drop, List.drop_zero]
  exact ((List.take_sublist _ _).filterMap _).length_le

/-- A pool holds at most a third as many texts as the bytes it is read from. -/
theorem takes_read : Takes read fun pool => 3 * pool.texts.length := by
  intro c pool c' h
  unfold read at h
  simp only [bind_apply] at h
  cases hcount : Decoder.u2 c with
  | error e => rw [hcount] at h; cases h
  | ok r₀ =>
    obtain ⟨count, c₀⟩ := r₀
    have h₀ := Takes.u2 c count c₀ hcount
    rw [hcount] at h
    dsimp only at h
    cases hs : readSlots count count #[none] c₀ with
    | error e => rw [hs] at h; cases h
    | ok r₁ =>
      obtain ⟨slots, c₁⟩ := r₁
      have h₁ := readSlots_texts count count #[none] c₀ slots c₁ hs
      rw [hs] at h
      cases h
      have h₂ := length_textsOf_extract slots (max count 1)
      have hnone : textsOf (#[none] : Array (Option Constant)).toList = [] := rfl
      rw [hnone, List.length_nil] at h₁
      dsimp only [ConstantPool.texts] at h₀ ⊢
      omega

end ConstantPool

/-! ### A class file as its pool and the rest -/

/-- The start of a class file: the magic number, the version and the constant pool. -/
def readHeader : Decoder ConstantPool := do
  let m ← u4
  if m ≠ magic then throw (FormatError.badMagic m)
  let _minor ← u2
  let _major ← u2
  ConstantPool.read

/-- What follows the pool of a class file. -/
def readBody (level : DetailLevel) (pool : ConstantPool) : Decoder ClassInfo := do
  let access ← u2
  let name ← lift (pool.className (← u2))
  let superIndex ← u2
  let superClass ← if superIndex = 0 then pure none else some <$> lift (pool.className superIndex)
  let interfaces ← times (← u2) (do lift (pool.className (← u2)))
  let fields ← times (← u2) (readFieldInfo pool)
  let methods ← times (← u2) (readMethodInfo pool level)
  let signature ← attributes pool (lastSignature pool) none
  pure ⟨name, access, superClass, interfaces, signature, fields, methods, level⟩

theorem readClass_eq (level : DetailLevel) : readClass level = readHeader >>= readBody level := by
  unfold readClass readHeader readBody
  simp only [bind_assoc]
  congr 1
  funext m
  by_cases hm : m ≠ magic
  · -- both sides fail on the magic number
    rw [if_pos hm, if_pos hm]
    funext c
    rfl
  · rw [if_neg hm, if_neg hm]
    simp only [bind_assoc]

/-- The texts of the pool of a file's bytes; none when its start cannot be read. -/
def poolTexts (bytes : List UInt8) : List String :=
  match readHeader ⟨bytes, 0⟩ with
  | .ok (pool, _) => pool.texts
  | .error _ => []

theorem takes_readHeader : Takes readHeader fun pool => 3 * pool.texts.length := by
  unfold readHeader
  refine (Takes.u4.bind fun m => ?_).mono fun _ => Nat.le_add_left _ _
  -- past the magic number come the version and the pool
  dsimp only
  split
  · exact Takes.throw_bind _ _ _
  · exact (Takes.u2.bind fun _ => Takes.u2.bind fun _ => ConstantPool.takes_read).mono
      fun _ => by omega

theorem length_poolTexts (bytes : List UInt8) : 3 * (poolTexts bytes).length ≤ bytes.length := by
  unfold poolTexts
  split
  · next pool c' h => exact Nat.le_trans (Nat.le_add_right _ _) (takes_readHeader _ pool c' h)
  · simp

/-- What the rest of a class file is read into: every class it names as a supertype is one the
pool's class constants yield, every field one the field reader yields, and every method one the
method reader yields. -/
theorem yields_readBody_members {level : DetailLevel} {pool : ConstantPool} {C : String → Prop}
    {F : FieldInfo → Prop} {M : MethodInfo → Prop} (hclass : ∀ i, Yields C (lift (pool.className i)))
    (hfield : Yields F (readFieldInfo pool)) (hmethod : Yields M (readMethodInfo pool level)) :
    Yields (fun file => (∀ s, file.superClass = some s → C s) ∧ (∀ s ∈ file.interfaces, C s) ∧
      (∀ f ∈ file.fields, F f) ∧ ∀ m ∈ file.methods, M m) (readBody level pool) := by
  unfold readBody
  refine Yields.bind fun _ => Yields.bind fun _ => Yields.bind fun _ => Yields.bind fun superIndex => ?_
  dsimp only
  -- the superclass is read in one of two ways, and the rest of the file after it in both
  split
  case' isTrue =>
    refine Yields.bind_of (P := fun o : Option String => ∀ s, o = some s → C s)
      (Yields.pure fun s hs => by cases hs) fun superClass hsup => ?_
  case' isFalse =>
    refine Yields.bind_of (P := fun o : Option String => ∀ s, o = some s → C s)
      (Yields.map ((hclass superIndex).mono fun s hs s' h => by cases h; exact hs))
      fun superClass hsup => ?_
  all_goals
    refine Yields.bind fun n => Yields.bind_of (Yields.times (Yields.bind fun i => hclass i) n)
      fun interfaces hifs => ?_
    refine Yields.bind fun n => Yields.bind_of (Yields.times hfield n) fun fields hfs => ?_
    refine Yields.bind fun n => Yields.bind_of (Yields.times hmethod n) fun methods hms => ?_
    exact Yields.bind fun _ => Yields.pure ⟨hsup, hifs, hfs, hms⟩

theorem yields_readBody {level : DetailLevel} {pool : ConstantPool} {C : String → Prop}
    {M : MethodInfo → Prop} (hclass : ∀ i, Yields C (lift (pool.className i)))
    (hmethod : Yields M (readMethodInfo pool level)) :
    Yields (fun file => (∀ s, file.superClass = some s → C s) ∧ (∀ s ∈ file.interfaces, C s) ∧
      ∀ m ∈ file.methods, M m) (readBody level pool) :=
  (yields_readBody_members (F := fun _ => True) hclass (fun _ _ _ _ => trivial) hmethod).mono
    fun _ h => ⟨h.1, h.2.1, h.2.2.2⟩

/-- A decoded file is its pool read first, then the rest of the file read with that pool. -/
theorem ClassInfo.decode_eq_ok {bytes : List UInt8} {level : DetailLevel} {file : ClassInfo}
    (h : ClassInfo.decode bytes level = .ok file) :
    ∃ pool c c', readHeader ⟨bytes, 0⟩ = .ok (pool, c) ∧ readBody level pool c = .ok (file, c') := by
  unfold ClassInfo.decode runValue run at h
  rw [readClass_eq] at h
  change (((readHeader >>= readBody level) ⟨bytes, 0⟩).map Prod.fst) = .ok file at h
  rw [bind_apply] at h
  cases hh : readHeader ⟨bytes, 0⟩ with
  | error e => rw [hh] at h; cases h
  | ok r =>
    obtain ⟨pool, c₁⟩ := r
    rw [hh] at h
    dsimp only at h
    cases hb : readBody level pool c₁ with
    | error e => rw [hb] at h; cases h
    | ok r' =>
      obtain ⟨file', c₂⟩ := r'
      rw [hb] at h
      cases h
      exact ⟨pool, c₁, c₂, rfl, hb⟩

theorem ClassInfo.supertype_mem_poolTexts {bytes : List UInt8} {level : DetailLevel}
    {file : ClassInfo} (h : ClassInfo.decode bytes level = .ok file) {s : String}
    (hs : file.superClass = some s ∨ s ∈ file.interfaces) : s ∈ poolTexts bytes := by
  obtain ⟨pool, c, c', hh, hb⟩ := ClassInfo.decode_eq_ok h
  have hy := yields_readBody (C := (· ∈ pool.texts)) (M := fun _ => True)
    (fun i => Yields.lift fun s hs => ConstantPool.className_mem_texts hs)
    (fun _ _ _ _ => trivial) c file c' hb
  unfold poolTexts
  rw [hh]
  rcases hs with hs | hs
  · exact hy.1 s hs
  · exact hy.2.1 s hs

/-! ### Method bodies by level -/

@[simp] theorem DetailLevel.structureOnly_beq_structureAndCalls :
    (DetailLevel.structureOnly == .structureAndCalls) = false := rfl

theorem exists_of_map_eq_ok {ε α β : Type} {f : α → β} {x : Except ε α} {b : β}
    (h : f <$> x = .ok b) : ∃ a, x = .ok a ∧ f a = b := by
  cases x with
  | error e => cases h
  | ok a => cases h; exact ⟨a, rfl, rfl⟩

/-- A method's body is kept exactly when the full level reads a `Code` attribute for it. -/
theorem MethodAttributes.add_code_isSome {pool : ConstantPool} {level : DetailLevel}
    {a a' : MethodAttributes} {name : String} {body : List UInt8}
    (ha : a.code.isSome = (level == .structureAndCalls && a.hasCode))
    (h : MethodAttributes.add pool level a name body = .ok a') :
    a'.code.isSome = (level == .structureAndCalls && a'.hasCode) := by
  unfold MethodAttributes.add at h
  split at h
  · obtain ⟨s, -, rfl⟩ := exists_of_map_eq_ok h
    exact ha
  split at h
  · obtain ⟨es, -, rfl⟩ := exists_of_map_eq_ok h
    exact ha
  split at h
  · -- a `Code` attribute: read only at the full level, marked at both
    split at h
    · rename_i hlevel
      obtain ⟨c, -, rfl⟩ := exists_of_map_eq_ok h
      simp [hlevel]
    · rename_i hlevel
      cases h
      cases level
      · simpa using ha
      · exact absurd rfl hlevel
  · cases h
    exact ha

theorem yields_readMethodInfo (pool : ConstantPool) (level : DetailLevel) :
    Yields (fun m => m.code.isSome = (level == .structureAndCalls && m.hasCode))
      (readMethodInfo pool level) := by
  unfold readMethodInfo
  refine Yields.bind fun _ => Yields.bind fun _ => Yields.bind fun _ => Yields.bind fun _ =>
    Yields.bind fun _ => Yields.bind fun _ => ?_
  refine Yields.bind_of (Yields.attributes (P := fun a : MethodAttributes =>
    a.code.isSome = (level == .structureAndCalls && a.hasCode))
    (fun _ _ _ _ ha h => MethodAttributes.add_code_isSome ha h) (by simp)) fun a ha => ?_
  exact Yields.pure ha

theorem ClassInfo.decode_structureAndCalls_code {bytes : List UInt8} {file : ClassInfo}
    (h : ClassInfo.decode bytes .structureAndCalls = .ok file) :
    ∀ m ∈ file.methods, m.code.isSome = m.hasCode := by
  obtain ⟨pool, c, c', -, hb⟩ := ClassInfo.decode_eq_ok h
  intro m hm
  simpa using (yields_readBody (C := fun _ => True) (fun _ _ _ _ _ => trivial)
    (yields_readMethodInfo pool .structureAndCalls) c file c' hb).2.2 m hm

theorem ClassInfo.decode_structureOnly_code {bytes : List UInt8} {file : ClassInfo}
    (h : ClassInfo.decode bytes .structureOnly = .ok file) : ∀ m ∈ file.methods, m.code = none := by
  obtain ⟨pool, c, c', -, hb⟩ := ClassInfo.decode_eq_ok h
  intro m hm
  have hm := (yields_readBody (C := fun _ => True) (fun _ _ _ _ _ => trivial)
    (yields_readMethodInfo pool .structureOnly) c file c' hb).2.2 m hm
  simpa using hm

end ClassMetrics.ClassFile
