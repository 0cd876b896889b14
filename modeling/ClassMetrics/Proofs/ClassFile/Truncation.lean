import ClassMetrics.Proofs.ClassFile.Contents

/-!
Truncation. Every read of the decoder takes bytes from the front of what is left, every check it
makes looks only at bytes already read, and an attribute body is taken whole before it is looked
into. So a class file is read from a front part of its bytes, whatever follows it, and a part of
that front is refused as truncated, at the offset where the read that the cut falls in started,
never with another cause.
-/

namespace ClassMetrics.ClassFile


variable {α β σ : Type}

/-- `d` reads from the front of its bytes and looks at nothing past what it reads. Having read
`a` from `pre` with `x` after it, it reads `a` from `pre` with anything after it; and given only
the first `k` bytes of `pre`, it fails with a truncation at an offset `o ≤ k` where a read
started that the cut falls in, so that every cut from `o` up to `k` fails there too. -/
structure ReadsFront (d : Decoder α) : Prop where
  consumes : ∀ rest pos a c', d ⟨rest, pos⟩ = .ok (a, c') →
    ∃ pre, rest = pre ++ c'.rest ∧ c'.pos = pos + pre.length
  extend : ∀ pre x y pos a, d ⟨pre ++ x, pos⟩ = .ok (a, ⟨x, pos + pre.length⟩) →
    d ⟨pre ++ y, pos⟩ = .ok (a, ⟨y, pos + pre.length⟩)
  cut : ∀ pre x pos a, d ⟨pre ++ x, pos⟩ = .ok (a, ⟨x, pos + pre.length⟩) →
    ∀ k < pre.length, ∃ o ≤ k, ∀ j, o ≤ j → j ≤ k →
      d ⟨pre.take j, pos⟩ = .error (.truncated (pos + o))

namespace ReadsFront

theorem of_reads_nothing {d : Decoder α} (f : Nat → α) (h : ∀ c, d c = .ok (f c.pos, c)) :
    ReadsFront d where
  consumes rest pos a c' hd := by
    rw [h] at hd
    cases hd
    exact ⟨[], rfl, rfl⟩
  extend pre x y pos a hd := by
    rw [h] at hd ⊢
    simp only [Except.ok.injEq, Prod.mk.injEq, Cursor.mk.injEq] at hd
    obtain ⟨rfl, hx, -⟩ := hd
    have hpre : pre = [] := List.append_left_eq_self.mp hx
    subst hpre
    rfl
  cut pre x pos a hd k hk := by
    rw [h] at hd
    simp only [Except.ok.injEq, Prod.mk.injEq, Cursor.mk.injEq] at hd
    have hpre : pre = [] := List.append_left_eq_self.mp hd.2.1
    subst hpre
    exact absurd hk (Nat.not_lt_zero k)

theorem of_never {d : Decoder α} (h : ∀ c a c', d c ≠ .ok (a, c')) : ReadsFront d where
  consumes _ _ a c' hd := absurd hd (h _ a c')
  extend _ _ _ _ a hd := absurd hd (h _ a _)
  cut _ _ _ a hd := absurd hd (h _ a _)

theorem pure (a : α) : ReadsFront (Pure.pure a : Decoder α) :=
  of_reads_nothing (fun _ => a) fun _ => rfl

theorem position : ReadsFront Decoder.position :=
  of_reads_nothing id fun _ => rfl

theorem throw (e : FormatError) : ReadsFront (MonadExcept.throw e : Decoder α) :=
  of_never fun _ _ _ h => by cases h

theorem lift (r : Except FormatError α) : ReadsFront (Decoder.lift r) := by
  cases r with
  | error e => exact of_never fun _ _ _ h => by cases h
  | ok a => exact of_reads_nothing (fun _ => a) fun _ => rfl

theorem take (n : Nat) : ReadsFront (Decoder.take n) where
  consumes rest pos a c' hd := by
    unfold Decoder.take at hd
    dsimp only at hd
    split at hd
    · next hlen =>
      cases hd
      exact ⟨rest.take n, (List.take_append_drop n rest).symm, by rw [hlen]⟩
    · cases hd
  extend pre x y pos a hd := by
    unfold Decoder.take at hd ⊢
    dsimp only at hd ⊢
    split at hd
    · next hlen =>
      simp only [Except.ok.injEq, Prod.mk.injEq, Cursor.mk.injEq] at hd
      obtain ⟨rfl, -, hn⟩ := hd
      obtain rfl : n = pre.length := by omega
      simp
    · cases hd
  cut pre x pos a hd k hk := by
    unfold Decoder.take at hd
    dsimp only at hd
    split at hd
    · simp only [Except.ok.injEq, Prod.mk.injEq, Cursor.mk.injEq] at hd
      obtain ⟨-, -, hn⟩ := hd
      obtain rfl : n = pre.length := by omega
      refine ⟨0, Nat.zero_le k, fun j _ hj => ?_⟩
      unfold Decoder.take
      dsimp only
      rw [if_neg (by simp; omega)]
      rfl
    · cases hd

theorem map_apply_eq_ok {d : Decoder α} {f : α → β} {c c' : Cursor} {b : β} :
    ((d c).map fun (a, c') => (f a, c')) = .ok (b, c') ↔ ∃ a, d c = .ok (a, c') ∧ f a = b := by
  cases d c with
  | error e => simp [Except.map]
  | ok r =>
    obtain ⟨a, c''⟩ := r
    simp only [Except.map, Except.ok.injEq, Prod.mk.injEq]
    constructor
    · rintro ⟨rfl, rfl⟩
      exact ⟨a, ⟨rfl, rfl⟩, rfl⟩
    · rintro ⟨a', ⟨rfl, rfl⟩, rfl⟩
      exact ⟨rfl, rfl⟩

theorem map {d : Decoder α} (f : α → β) (hd : ReadsFront d) :
    ReadsFront (fun c => (d c).map fun (a, c') => (f a, c')) where
  consumes rest pos b c' h := by
    obtain ⟨a, ha, -⟩ := map_apply_eq_ok.mp h
    exact hd.consumes rest pos a c' ha
  extend pre x y pos b h := by
    obtain ⟨a, ha, rfl⟩ := map_apply_eq_ok.mp h
    exact map_apply_eq_ok.mpr ⟨a, hd.extend pre x y pos a ha, rfl⟩
  cut pre x pos b h k hk := by
    obtain ⟨a, ha, -⟩ := map_apply_eq_ok.mp h
    obtain ⟨o, ho, hcut⟩ := hd.cut pre x pos a ha k hk
    refine ⟨o, ho, fun j hoj hjk => ?_⟩
    dsimp only
    rw [hcut j hoj hjk]
    rfl

theorem u1_eq :
    Decoder.u1 = fun c => (Decoder.take 1 c).map fun (bs, c') => (bigEndian bs, c') := by
  funext c
  obtain ⟨rest, pos⟩ := c
  cases rest with
  | nil => rfl
  | cons b r => simp [Decoder.u1, Decoder.take, bigEndian, Except.map]

theorem u1 : ReadsFront Decoder.u1 := u1_eq ▸ (take 1).map bigEndian

theorem u2 : ReadsFront Decoder.u2 := (take 2).map bigEndian

theorem u4 : ReadsFront Decoder.u4 := (take 4).map bigEndian

theorem skip (n : Nat) : ReadsFront (Decoder.skip n) := (take n).map fun _ => ()

/-- The two reads of a sequence split the bytes it reads between them. -/
theorem bind_split {d : Decoder α} {k : α → Decoder β} (hd : ReadsFront d)
    (hk : ∀ a, ReadsFront (k a)) {pre x : List UInt8} {pos : Nat} {b : β}
    (h : (d >>= k) ⟨pre ++ x, pos⟩ = .ok (b, ⟨x, pos + pre.length⟩)) :
    ∃ p₁ p₂ a, pre = p₁ ++ p₂ ∧ d ⟨p₁ ++ (p₂ ++ x), pos⟩ = .ok (a, ⟨p₂ ++ x, pos + p₁.length⟩) ∧
      k a ⟨p₂ ++ x, pos + p₁.length⟩ = .ok (b, ⟨x, pos + p₁.length + p₂.length⟩) := by
  rw [Decoder.bind_apply] at h
  cases hc : d ⟨pre ++ x, pos⟩ with
  | error e => rw [hc] at h; cases h
  | ok r =>
    obtain ⟨a, ⟨rest₁, pos₁⟩⟩ := r
    rw [hc] at h
    obtain ⟨p₁, h₁, hpos₁⟩ := hd.consumes _ _ _ _ hc
    obtain ⟨p₂, h₂, hpos₂⟩ := (hk a).consumes _ _ _ _ h
    dsimp only at h₁ hpos₁ h₂ hpos₂
    subst hpos₁ h₂
    have hpre : pre = p₁ ++ p₂ := by
      rw [← List.append_assoc] at h₁
      exact List.append_cancel_right h₁
    refine ⟨p₁, p₂, a, hpre, ?_, ?_⟩
    · rw [← List.append_assoc, ← hpre]
      exact hc
    · rw [← hpos₂]
      exact h

theorem bind {d : Decoder α} {k : α → Decoder β} (hd : ReadsFront d) (hk : ∀ a, ReadsFront (k a)) :
    ReadsFront (d >>= k) where
  consumes rest pos b c' h := by
    rw [Decoder.bind_apply] at h
    cases hc : d ⟨rest, pos⟩ with
    | error e => rw [hc] at h; cases h
    | ok r =>
      obtain ⟨a, ⟨rest₁, pos₁⟩⟩ := r
      rw [hc] at h
      obtain ⟨p₁, h₁, hpos₁⟩ := hd.consumes _ _ _ _ hc
      obtain ⟨p₂, h₂, hpos₂⟩ := (hk a).consumes _ _ _ _ h
      dsimp only at h₁ hpos₁ h₂ hpos₂
      refine ⟨p₁ ++ p₂, by rw [h₁, h₂, List.append_assoc], ?_⟩
      rw [hpos₂, hpos₁, List.length_append, Nat.add_assoc]
  extend pre x y pos b h := by
    obtain ⟨p₁, p₂, a, rfl, h₁, h₂⟩ := bind_split hd hk h
    rw [Decoder.bind_apply, List.append_assoc, hd.extend p₁ (p₂ ++ x) (p₂ ++ y) pos a h₁]
    dsimp only
    rw [(hk a).extend p₂ x y _ b h₂, List.length_append, Nat.add_assoc]
  cut pre x pos b h k hk' := by
    obtain ⟨p₁, p₂, a, rfl, h₁, h₂⟩ := bind_split hd hk h
    by_cases hk₁ : k < p₁.length
    · -- the cut falls in what the first reader reads
      obtain ⟨o, ho, hcut⟩ := hd.cut p₁ (p₂ ++ x) pos a h₁ k hk₁
      refine ⟨o, ho, fun j hoj hjk => ?_⟩
      rw [List.take_append_of_le_length (by omega), Decoder.bind_apply, hcut j hoj hjk]
    · -- past it, the first reader reads all it read before and the second one is cut
      rw [List.length_append] at hk'
      obtain ⟨o, ho, hcut⟩ := (hk a).cut p₂ x _ b h₂ (k - p₁.length) (by omega)
      refine ⟨p₁.length + o, by omega, fun j hoj hjk => ?_⟩
      have hj : (p₁ ++ p₂).take j = p₁ ++ p₂.take (j - p₁.length) := by
        rw [List.take_append, List.take_of_length_le (by omega)]
      rw [hj, Decoder.bind_apply, hd.extend p₁ (p₂ ++ x) _ pos a h₁]
      dsimp only
      rw [hcut (j - p₁.length) (by omega) (by omega), Nat.add_assoc]

theorem times {d : Decoder α} (hd : ReadsFront d) : ∀ n, ReadsFront (Decoder.times n d)
  | 0 => pure []
  | n + 1 => hd.bind fun _ => (times hd n).bind fun _ => pure _

theorem ite {p : Prop} [Decidable p] {d₁ d₂ : Decoder α} (h₁ : ReadsFront d₁)
    (h₂ : ReadsFront d₂) : ReadsFront (if p then d₁ else d₂) := by
  split
  · exact h₁
  · exact h₂

theorem fmap {d : Decoder α} (f : α → β) (hd : ReadsFront d) : ReadsFront (f <$> d) := by
  rw [map_eq_pure_bind]
  exact hd.bind fun _ => pure _

end ReadsFront

open ReadsFront

namespace ConstantPool

theorem readsFront_readConstant (offset tag : Nat) : ReadsFront (readConstant offset tag) := by
  unfold readConstant
  dsimp only
  split
  · exact u2.bind fun _ => (take _).bind fun _ => (lift _).bind fun _ => pure _
  all_goals first
    | exact (skip _).bind fun _ => pure _
    | exact u2.bind fun _ => pure _
    | exact u2.bind fun _ => u2.bind fun _ => pure _
    | exact u1.bind fun _ => u2.bind fun _ => pure _
    | exact lift _

theorem readsFront_readSlots (count : Nat) :
    ∀ fuel acc, ReadsFront (readSlots count fuel acc)
  | 0, acc => pure acc
  | fuel + 1, acc => by
    unfold readSlots
    exact ite (position.bind fun offset => u1.bind fun tag =>
      (readsFront_readConstant offset tag).bind fun _ => readsFront_readSlots count fuel _)
      (pure acc)

theorem readsFront_read : ReadsFront read :=
  u2.bind fun count => (readsFront_readSlots count count _).bind fun _ => pure _

end ConstantPool

theorem readsFront_attributes (pool : ConstantPool)
    (step : σ → String → List UInt8 → Except FormatError σ) (init : σ) :
    ReadsFront (attributes pool step init) := by
  have hgo : ∀ n s, ReadsFront (attributes.go pool step n s) := by
    intro n
    induction n with
    | zero => intro s; exact pure s
    | succ n ih =>
      intro s
      simp only [attributes.go]
      exact u2.bind fun _ => (lift _).bind fun _ => u4.bind fun _ => (take _).bind fun _ =>
        (lift _).bind fun s' => ih s'
  exact u2.bind fun n => hgo n init

theorem readsFront_readFieldInfo (pool : ConstantPool) : ReadsFront (readFieldInfo pool) :=
  u2.bind fun _ => u2.bind fun _ => (lift _).bind fun _ => u2.bind fun _ => (lift _).bind fun _ =>
    (lift _).bind fun _ => (readsFront_attributes _ _ _).bind fun _ => pure _

theorem readsFront_readMethodInfo (pool : ConstantPool) (level : DetailLevel) :
    ReadsFront (readMethodInfo pool level) :=
  u2.bind fun _ => u2.bind fun _ => (lift _).bind fun _ => u2.bind fun _ => (lift _).bind fun _ =>
    (lift _).bind fun _ => (readsFront_attributes _ _ _).bind fun _ => pure _

theorem readsFront_readHeader : ReadsFront readHeader := by
  unfold readHeader
  refine u4.bind fun m => ?_
  dsimp only
  split
  · exact (throw _).bind fun _ => u2.bind fun _ => u2.bind fun _ => ConstantPool.readsFront_read
  · exact u2.bind fun _ => u2.bind fun _ => ConstantPool.readsFront_read

theorem readsFront_readBody (level : DetailLevel) (pool : ConstantPool) :
    ReadsFront (readBody level pool) := by
  unfold readBody
  refine u2.bind fun _ => u2.bind fun _ => (lift _).bind fun _ => u2.bind fun superIndex => ?_
  dsimp only
  -- the superclass is read in one of two ways, and the rest of the file after it in both
  split
  case' isTrue => refine (pure _).bind fun _ => ?_
  case' isFalse => refine ((lift _).fmap some).bind fun _ => ?_
  all_goals
    exact u2.bind fun n => (times (u2.bind fun _ => lift _) n).bind fun _ =>
      u2.bind fun n => (times (readsFront_readFieldInfo _) n).bind fun _ =>
      u2.bind fun n => (times (readsFront_readMethodInfo _ _) n).bind fun _ =>
      (readsFront_attributes _ _ _).bind fun _ => pure _

theorem readsFront_readClass (level : DetailLevel) : ReadsFront (readClass level) :=
  readClass_eq level ▸ readsFront_readHeader.bind (readsFront_readBody level)

/-- A decoded class file ends at an offset `m`, just after its attribute table. The bytes after
it are never read, so any others may follow; and cut short anywhere before `m`, the file is
refused as truncated, at the offset where the read that the cut falls in started. -/
theorem ClassInfo.decode_truncation {bytes : List UInt8} {level : DetailLevel} {file : ClassInfo}
    (h : ClassInfo.decode bytes level = .ok file) :
    ∃ m, (readClass level).run bytes = .ok (file, ⟨bytes.drop m, m⟩) ∧
      (∀ x, ClassInfo.decode (bytes.take m ++ x) level = .ok file) ∧
      ∀ k < m, ∃ o ≤ k, ∀ j, o ≤ j → j ≤ k →
        ClassInfo.decode (bytes.take j) level = .error (.truncated o) := by
  have hr := readsFront_readClass level
  unfold ClassInfo.decode Decoder.runValue at h
  cases hrun : (readClass level).run bytes with
  | error e => rw [hrun] at h; cases h
  | ok r =>
    obtain ⟨file', ⟨rest, pos⟩⟩ := r
    rw [hrun] at h
    cases h
    -- the run reads a front part `pre` of the bytes and stops after it
    obtain ⟨pre, hbytes, hpos⟩ := hr.consumes bytes 0 file' ⟨rest, pos⟩ hrun
    dsimp only at hbytes hpos
    rw [Nat.zero_add] at hpos
    subst hbytes hpos
    have hfull : readClass level ⟨pre ++ rest, 0⟩ = .ok (file', ⟨rest, 0 + pre.length⟩) := by
      rw [Nat.zero_add]
      exact hrun
    refine ⟨pre.length, by rw [List.drop_left], fun x => ?_, fun k hk => ?_⟩
    · rw [List.take_left]
      show ((readClass level) ⟨pre ++ x, 0⟩).map Prod.fst = _
      rw [hr.extend pre rest x 0 file' hfull]
      rfl
    · obtain ⟨o, ho, hcut⟩ := hr.cut pre rest 0 file' hfull k hk
      refine ⟨o, ho, fun j hoj hjk => ?_⟩
      rw [List.take_append_of_le_length (by omega)]
      show ((readClass level) ⟨pre.take j, 0⟩).map Prod.fst = _
      rw [hcut j hoj hjk, Nat.zero_add]
      rfl

/-- A class `A` extending `java/lang/Object`, with nothing declared, followed by one byte. -/
theorem ClassInfo.decode_truncation_trailingByte :
    let bytes : List UInt8 :=
      [0xCA, 0xFE, 0xBA, 0xBE, 0, 0, 0, 0x34, 0, 5,
       1, 0, 1, 0x41, 7, 0, 1,
       1, 0, 16, 0x6a, 0x61, 0x76, 0x61, 0x2f, 0x6c, 0x61, 0x6e, 0x67, 0x2f, 0x4f, 0x62, 0x6a,
       0x65, 0x63, 0x74, 7, 0, 3,
       0, 0x21, 0, 2, 0, 4, 0, 0, 0, 0, 0, 0, 0, 0,
       0xFF]
    let file : ClassInfo := ⟨"A", 0x21, some "java/lang/Object", [], none, [], [], .structureOnly⟩
    ClassInfo.decode bytes .structureOnly = .ok file ∧
    ∃ m, (readClass .structureOnly).run bytes = .ok (file, ⟨bytes.drop m, m⟩) ∧
      (∀ x, ClassInfo.decode (bytes.take m ++ x) .structureOnly = .ok file) ∧
      ∀ k < m, ∃ o ≤ k, ∀ j, o ≤ j → j ≤ k →
        ClassInfo.decode (bytes.take j) .structureOnly = .error (.truncated o) := by
  intro bytes file
  have h : ClassInfo.decode bytes .structureOnly = .ok file := by cbv
  exact ⟨h, ClassInfo.decode_truncation h⟩

end ClassMetrics.ClassFile
