import ClassMetrics.ClassFile.Decode
import Mathlib

/-! The two detail levels of the decoder agree on structure. A method body is read inside the
buffer of its `Code` attribute, so the structure level, which passes the body over, stops
where the higher level stops and reads every declaration the same way. -/

namespace ClassMetrics.ClassFile

open Decoder

variable {α β γ δ σ τ : Type}

/-- `d'` follows `d` through `f`: wherever `d` reads a value, `d'` reads its image and stops at
the same offset. -/
def Decoder.Follows (f : α → β) (d : Decoder α) (d' : Decoder β) : Prop :=
  ∀ c a c', d c = .ok (a, c') → d' c = .ok (f a, c')

theorem Decoder.bind_apply (d : Decoder α) (k : α → Decoder β) (c : Cursor) :
    (d >>= k) c = match d c with
      | .ok (a, c') => k a c'
      | .error e => .error e := by
  show StateT.bind d k c = _
  simp only [StateT.bind]
  cases d c <;> rfl

namespace Decoder.Follows

theorem bind {f : α → β} {g : γ → δ} {d : Decoder α} {d' : Decoder β}
    {k : α → Decoder γ} {k' : β → Decoder δ}
    (hd : Follows f d d') (hk : ∀ a, Follows g (k a) (k' (f a))) :
    Follows g (d >>= k) (d' >>= k') := by
  intro c b c'' h
  rw [bind_apply] at h ⊢
  cases hc : d c with
  | error e => simp [hc] at h
  | ok r =>
    obtain ⟨a, c'⟩ := r
    rw [hc] at h
    rw [hd c a c' hc]
    exact hk a c' b c'' h

theorem bind_same {g : γ → δ} {d : Decoder α} {k : α → Decoder γ} {k' : α → Decoder δ}
    (hk : ∀ a, Follows g (k a) (k' a)) : Follows g (d >>= k) (d >>= k') :=
  bind (f := id) (fun _ _ _ h => h) hk

theorem throw_bind {g : γ → δ} {e : FormatError} {k : α → Decoder γ} {d' : Decoder δ} :
    Follows g (throw e >>= k) d' := by
  intro c b c' h
  rw [bind_apply] at h
  cases h

theorem pure {g : α → β} {a : α} {b : β} (h : g a = b) :
    Follows g (Pure.pure a : Decoder α) (Pure.pure b) := by
  intro c a' c' hc
  cases hc
  subst h
  rfl

theorem lift {f : α → β} {r : Except FormatError α} {r' : Except FormatError β}
    (h : ∀ a, r = .ok a → r' = .ok (f a)) : Follows f (Decoder.lift r) (Decoder.lift r') := by
  intro c a c' hc
  cases hr : r with
  | error e => simp [Decoder.lift, hr, Except.map] at hc
  | ok x =>
    simp only [Decoder.lift, hr, Except.map, Except.ok.injEq, Prod.mk.injEq] at hc
    obtain ⟨rfl, rfl⟩ := hc
    simp [Decoder.lift, h x hr, Except.map]

theorem times {f : α → β} {d : Decoder α} {d' : Decoder β} (hd : Follows f d d') :
    ∀ n, Follows (List.map f) (Decoder.times n d) (Decoder.times n d')
  | 0 => pure rfl
  | n + 1 => bind hd fun _ => bind (times hd n) fun _ => pure rfl

end Decoder.Follows

open Decoder.Follows in
theorem attributes_follows (pool : ConstantPool) (f : σ → τ)
    {step : σ → String → List UInt8 → Except FormatError σ}
    {step' : τ → String → List UInt8 → Except FormatError τ}
    (hstep : ∀ s name body s', step s name body = .ok s' → step' (f s) name body = .ok (f s'))
    (init : σ) : Decoder.Follows f (attributes pool step init) (attributes pool step' (f init)) := by
  have hgo : ∀ n s, Decoder.Follows f (attributes.go pool step n s)
      (attributes.go pool step' n (f s)) := by
    intro n
    induction n with
    | zero => intro s; exact pure rfl
    | succ n ih =>
      intro s
      simp only [attributes.go]
      refine bind_same fun _ => bind_same fun name => bind_same fun _ => bind_same fun body => ?_
      exact bind (lift fun s' h => hstep s name body s' h) fun s' => ih s'
  exact bind_same fun n => hgo n init

/-- A method as the structure level reads it: the same declaration, with no body. -/
def MethodInfo.withoutCode (m : MethodInfo) : MethodInfo := { m with code := none }

/-- The attributes of a method as the structure level gathers them. -/
def MethodAttributes.withoutCode (a : MethodAttributes) : MethodAttributes := { a with code := none }

theorem MethodAttributes.add_withoutCode (pool : ConstantPool) (a : MethodAttributes)
    (name : String) (body : List UInt8) (a' : MethodAttributes)
    (h : MethodAttributes.add pool .structureAndCalls a name body = .ok a') :
    MethodAttributes.add pool .structureOnly a.withoutCode name body = .ok a'.withoutCode := by
  unfold MethodAttributes.add at h ⊢
  by_cases hs : name = "Signature"
  · rw [if_pos hs] at h ⊢
    cases hsig : signatureOf pool body with
    | error e => rw [hsig] at h; cases h
    | ok s => rw [hsig] at h; cases h; rfl
  rw [if_neg hs] at h ⊢
  by_cases he : name = "Exceptions"
  · rw [if_pos he] at h ⊢
    cases hex : exceptionsOf pool body with
    | error e => rw [hex] at h; cases h
    | ok es => rw [hex] at h; cases h; rfl
  rw [if_neg he] at h ⊢
  by_cases hc : name = "Code"
  · -- the only attribute the levels read apart: the body is read, or passed over
    rw [if_pos hc] at h ⊢
    cases hcode : (readCode pool).runValue body with
    | error e => rw [hcode] at h; cases h
    | ok code => rw [hcode] at h; cases h; rfl
  rw [if_neg hc] at h ⊢
  cases h
  rfl

open Decoder.Follows in
theorem readMethodInfo_follows (pool : ConstantPool) :
    Decoder.Follows MethodInfo.withoutCode (readMethodInfo pool .structureAndCalls)
      (readMethodInfo pool .structureOnly) := by
  unfold readMethodInfo
  refine bind_same fun _ => bind_same fun _ => bind_same fun _ => bind_same fun _ =>
    bind_same fun _ => bind_same fun _ => ?_
  refine bind (attributes_follows pool MethodAttributes.withoutCode
    (MethodAttributes.add_withoutCode pool) {}) fun a => pure rfl

/-- A class as the structure level reads it: the same class at the lower level, every method
without its body. -/
def ClassInfo.withoutCode (c : ClassInfo) : ClassInfo :=
  { c with level := .structureOnly, methods := c.methods.map MethodInfo.withoutCode }

open Decoder.Follows in
theorem readClass_follows :
    Decoder.Follows ClassInfo.withoutCode (readClass .structureAndCalls)
      (readClass .structureOnly) := by
  unfold readClass
  refine bind_same fun m => ?_
  dsimp only
  split
  · exact throw_bind
  refine bind_same fun _ => bind_same fun _ => bind_same fun pool => bind_same fun _ =>
    bind_same fun _ => bind_same fun _ => bind_same fun superIndex => ?_
  split
  all_goals
    refine bind_same fun _ => ?_
    refine bind_same fun _ => bind_same fun _ => bind_same fun _ => bind_same fun _ =>
      bind_same fun _ => ?_
    exact bind (times (readMethodInfo_follows pool) _) fun ms =>
      bind_same fun _ => pure rfl

theorem ClassInfo.decode_withoutCode {bytes : List UInt8} {c : ClassInfo}
    (h : ClassInfo.decode bytes .structureAndCalls = .ok c) :
    ClassInfo.decode bytes .structureOnly = .ok c.withoutCode := by
  unfold ClassInfo.decode runValue run at h ⊢
  cases hr : StateT.run (readClass .structureAndCalls) (⟨bytes, 0⟩ : Cursor) with
  | error e => rw [hr] at h; cases h
  | ok r =>
    obtain ⟨c', cur⟩ := r
    rw [hr] at h
    cases h
    rw [StateT.run, readClass_follows _ c' cur hr]
    rfl

/-- Whatever the decoder reads with method bodies it also reads without them: the same class,
flags, supertypes, signature and declarations, only every body left out. -/
theorem ClassInfo.decode_structureOnly_of_structureAndCalls {bytes : List UInt8} {c : ClassInfo}
    (h : ClassInfo.decode bytes .structureAndCalls = .ok c) :
    ClassInfo.decode bytes .structureOnly =
      .ok { c with level := .structureOnly, methods := c.methods.map fun m => { m with code := none } } :=
  ClassInfo.decode_withoutCode h

/-- Every value `d` reads satisfies `P`. -/
def Decoder.Yields (P : α → Prop) (d : Decoder α) : Prop :=
  ∀ c a c', d c = .ok (a, c') → P a

namespace Decoder.Yields

theorem bind {P : β → Prop} {d : Decoder α} {k : α → Decoder β} (hk : ∀ a, Yields P (k a)) :
    Yields P (d >>= k) := by
  intro c b c'' h
  rw [bind_apply] at h
  cases hc : d c with
  | error e => rw [hc] at h; cases h
  | ok r =>
    obtain ⟨a, c'⟩ := r
    rw [hc] at h
    exact hk a c' b c'' h

theorem throw_bind {P : β → Prop} {e : FormatError} {k : α → Decoder β} :
    Yields P (throw e >>= k) := by
  intro c b c' h
  rw [bind_apply] at h
  cases h

theorem pure {P : α → Prop} {a : α} (h : P a) : Yields P (Pure.pure a : Decoder α) := by
  intro c a' c' hc
  cases hc
  exact h

end Decoder.Yields

open Decoder.Yields in
theorem readClass_level (level : DetailLevel) :
    Decoder.Yields (·.level = level) (readClass level) := by
  unfold readClass
  refine bind fun m => ?_
  dsimp only
  split
  · exact throw_bind
  refine bind fun _ => bind fun _ => bind fun _ => bind fun _ => bind fun _ => bind fun _ =>
    bind fun _ => ?_
  split
  all_goals
    refine bind fun _ => bind fun _ => bind fun _ => bind fun _ => bind fun _ => bind fun _ => ?_
    exact bind fun _ => bind fun _ => pure rfl

theorem ClassInfo.decode_level {bytes : List UInt8} {level : DetailLevel} {c : ClassInfo}
    (h : ClassInfo.decode bytes level = .ok c) : c.level = level := by
  unfold ClassInfo.decode runValue run at h
  cases hr : StateT.run (readClass level) (⟨bytes, 0⟩ : Cursor) with
  | error e => rw [hr] at h; cases h
  | ok r =>
    obtain ⟨c', cur⟩ := r
    rw [hr] at h
    cases h
    exact readClass_level level _ c' cur hr

/-- A class `A` extending `java/lang/Object` with one method `m()V` whose body is `return`. -/
theorem ClassInfo.decode_levels_minimalClass :
    let bytes : List UInt8 :=
      [0xCA, 0xFE, 0xBA, 0xBE, 0, 0, 0, 0x34, 0, 8,
       1, 0, 1, 0x41, 7, 0, 1,
       1, 0, 16, 0x6a, 0x61, 0x76, 0x61, 0x2f, 0x6c, 0x61, 0x6e, 0x67, 0x2f, 0x4f, 0x62, 0x6a,
       0x65, 0x63, 0x74, 7, 0, 3,
       1, 0, 1, 0x6d, 1, 0, 3, 0x28, 0x29, 0x56, 1, 0, 4, 0x43, 0x6f, 0x64, 0x65,
       0, 0x21, 0, 2, 0, 4, 0, 0, 0, 0, 0, 1,
       0, 1, 0, 5, 0, 6, 0, 1, 0, 7, 0, 0, 0, 13, 0, 0, 0, 1, 0, 0, 0, 1, 0xb1, 0, 0, 0, 0,
       0, 0]
    let c : ClassInfo := ⟨"A", 0x21, some "java/lang/Object", [], none, [],
      [⟨1, "m", "()V", none, [], true, some ⟨[], [], [], .empty⟩⟩], .structureAndCalls⟩
    ClassInfo.decode bytes .structureAndCalls = .ok c ∧
      ClassInfo.decode bytes .structureOnly =
        .ok { c with level := .structureOnly,
                     methods := c.methods.map fun m => { m with code := none } } := by
  intro bytes c
  have h : ClassInfo.decode bytes .structureAndCalls = .ok c := by cbv
  exact ⟨h, ClassInfo.decode_structureOnly_of_structureAndCalls h⟩

end ClassMetrics.ClassFile
