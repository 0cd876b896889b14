import ClassMetrics.Proofs.ClassFile.Layout
import ClassMetrics.Proofs.ClassFile.Contents
import ClassMetrics.Proofs.Text.ModifiedUtf8

/-!
Decoding inverts writing. `ReadsAs d bs v` says that a decoder reads exactly the bytes `bs`, as
`v`, whatever follows them, so that it composes along `>>=` by concatenating bytes. Each reader of
the class-file format reads back what a layout writes: a constant, the pool, an attribute table
as the fold of what the reader keeps of each attribute, a field, a method and at last a whole
class file. Texts of the pool are written as the modified UTF-8 encodings of strings; bytes that
encode an unpaired surrogate are refused instead.
-/

namespace ClassMetrics.ClassFile

variable {α β σ : Type}

/-- `d` reads `v` from the bytes `bs`, at any offset and whatever follows them. -/
def ReadsAs (d : Decoder α) (bs : List UInt8) (v : α) : Prop :=
  ∀ rest pos, d ⟨bs ++ rest, pos⟩ = .ok (v, ⟨rest, pos + bs.length⟩)

namespace ReadsAs

theorem congr_bytes {d : Decoder α} {bs bs' : List UInt8} {v : α} (h : ReadsAs d bs v)
    (hb : bs = bs') : ReadsAs d bs' v := hb ▸ h

theorem bind {d : Decoder α} {k : α → Decoder β} {b₁ b₂ : List UInt8} {a : α} {v : β}
    (hd : ReadsAs d b₁ a) (hk : ReadsAs (k a) b₂ v) : ReadsAs (d >>= k) (b₁ ++ b₂) v := by
  intro rest pos
  rw [Decoder.bind_apply, List.append_assoc, hd]
  dsimp only
  rw [hk, List.length_append, Nat.add_assoc]

theorem pure (v : α) : ReadsAs (Pure.pure v : Decoder α) [] v := fun _ _ => rfl

theorem bind_pure {d : Decoder α} {bs : List UInt8} {a : α} (f : α → β) (hd : ReadsAs d bs a) :
    ReadsAs (d >>= fun a => Pure.pure (f a)) bs (f a) :=
  (hd.bind (pure (f a))).congr_bytes (List.append_nil bs)

theorem lift {r : Except FormatError α} {v : α} (h : r = .ok v) : ReadsAs (Decoder.lift r) [] v := by
  subst h
  exact fun _ _ => rfl

theorem take (bs : List UInt8) : ReadsAs (Decoder.take bs.length) bs bs := by
  intro rest pos
  simp [Decoder.take]

theorem u1 (b : UInt8) : ReadsAs Decoder.u1 [b] b.toNat := fun _ _ => rfl

theorem bigEndian_u2Bytes {n : Nat} (hn : n < 0x10000) : bigEndian (u2Bytes n) = n := by
  simp only [bigEndian, u2Bytes, List.foldl_cons, List.foldl_nil, Nat.toUInt8, UInt8.toNat_ofNat']
  omega

theorem bigEndian_u4Bytes {n : Nat} (hn : n < 0x100000000) : bigEndian (u4Bytes n) = n := by
  simp only [bigEndian, u4Bytes, List.foldl_cons, List.foldl_nil, Nat.toUInt8, UInt8.toNat_ofNat']
  omega

theorem u2 {n : Nat} (hn : n < 0x10000) : ReadsAs Decoder.u2 (u2Bytes n) n := by
  intro rest pos
  show ((Decoder.take (u2Bytes n).length) ⟨u2Bytes n ++ rest, pos⟩).map _ = _
  rw [take (u2Bytes n) rest pos]
  simp only [Except.map, bigEndian_u2Bytes hn]

theorem u4 {n : Nat} (hn : n < 0x100000000) : ReadsAs Decoder.u4 (u4Bytes n) n := by
  intro rest pos
  show ((Decoder.take (u4Bytes n).length) ⟨u4Bytes n ++ rest, pos⟩).map _ = _
  rw [take (u4Bytes n) rest pos]
  simp only [Except.map, bigEndian_u4Bytes hn]

theorem fmap {d : Decoder α} {bs : List UInt8} {a : α} (f : α → β) (hd : ReadsAs d bs a) :
    ReadsAs (f <$> d) bs (f a) := by
  rw [map_eq_pure_bind]
  exact hd.bind_pure f

theorem position_bind {k : Nat → Decoder α} {bs : List UInt8} {v : α}
    (hk : ∀ o, ReadsAs (k o) bs v) : ReadsAs (Decoder.position >>= k) bs v := by
  intro rest pos
  rw [Decoder.bind_apply]
  exact hk pos rest pos

theorem times {d : Decoder α} {enc : β → List UInt8} :
    ∀ {xs : List β} {vs : List α}, List.Forall₂ (fun x v => ReadsAs d (enc x) v) xs vs →
      ReadsAs (Decoder.times xs.length d) (xs.flatMap enc) vs
  | [], [], .nil => pure []
  | _ :: _, v :: _, .cons h hs =>
    (h.bind ((times hs).bind_pure (v :: ·))).congr_bytes (List.flatMap_cons).symm

theorem times_map {d : Decoder α} {enc : β → List UInt8} {val : β → α} {xs : List β}
    (h : ∀ x ∈ xs, ReadsAs d (enc x) (val x)) :
    ReadsAs (Decoder.times xs.length d) (xs.flatMap enc) (xs.map val) :=
  times (List.forall₂_map_right_iff.mpr (List.forall₂_same.mpr h))

theorem skip (bs : List UInt8) : ReadsAs (Decoder.skip bs.length) bs () := by
  intro rest pos
  show ((Decoder.take bs.length) ⟨bs ++ rest, pos⟩).map _ = _
  rw [take bs rest pos]
  rfl

theorem u1_of_lt {k : Nat} (hk : k < 0x100) : ReadsAs Decoder.u1 [k.toUInt8] k := by
  intro rest pos
  show Except.ok (k.toUInt8.toNat, _) = _
  rw [ModifiedUtf8.toNat_toUInt8_of_lt hk]
  rfl

theorem congr_value {d : Decoder α} {bs : List UInt8} {v v' : α} (h : ReadsAs d bs v)
    (hv : v = v') : ReadsAs d bs v' := hv ▸ h

theorem runValue_self {d : Decoder α} {bs : List UInt8} {v : α} (h : ReadsAs d bs v) :
    d.runValue bs = .ok v := by
  show (d ⟨bs, 0⟩).map Prod.fst = _
  rw [← List.append_nil bs, h [] 0]
  rfl

theorem runValue {d : Decoder α} {bs : List UInt8} {v : α} (h : ReadsAs d bs v)
    (rest : List UInt8) : d.runValue (bs ++ rest) = .ok v := by
  show (d ⟨bs ++ rest, 0⟩).map Prod.fst = _
  rw [h rest 0]
  rfl

end ReadsAs

/-! ### The pool -/

namespace PoolEntry

theorem readsAs_readConstant {e : PoolEntry} (he : e.Writable) (offset : Nat) :
    ReadsAs (ConstantPool.readConstant offset e.tag.toNat) e.body e.slots := by
  obtain ⟨c, p⟩ := e
  cases c <;> simp only [Writable] at he <;>
    simp only [tag, body, slots, ConstantPool.readConstant, UInt8.reduceToNat]
  · -- a text: its length, then its bytes, which decode to it
    exact ((ReadsAs.u2 he).bind ((ReadsAs.take _).bind ((ReadsAs.lift
      (by rw [decodeText, ModifiedUtf8.decode_encode])).bind_pure _))).congr_bytes (by simp)
  all_goals first
    | exact (ReadsAs.u2 he).bind_pure _
    | exact (ReadsAs.u2 he.1).bind ((ReadsAs.u2 he.2).bind_pure _)
    | exact (ReadsAs.u1_of_lt he.1).bind ((ReadsAs.u2 he.2).bind_pure _)
    | (rw [← he]; exact (ReadsAs.skip p).bind_pure fun _ => _)

theorem slots_ne_nil (e : PoolEntry) : e.slots ≠ [] := by
  obtain ⟨c, p⟩ := e
  cases c <;> simp [slots]

end PoolEntry

namespace ConstantPool

theorem length_le_length_flatMap_slots :
    ∀ es : List PoolEntry, es.length ≤ (es.flatMap PoolEntry.slots).length
  | [] => Nat.le_refl 0
  | e :: es => by
    have := List.length_pos_iff.mpr e.slots_ne_nil
    have := length_le_length_flatMap_slots es
    simp only [List.length_cons, List.flatMap_cons, List.length_append]
    omega

/-- Reading constants while slots are missing reads a run of entries as the slots they fill,
as long as the count is what the entries fill and there is a step of fuel for each. -/
theorem readsAs_readSlots {count : Nat} :
    ∀ (es : List PoolEntry) (fuel : Nat) (acc : Array (Option Constant)),
      (∀ e ∈ es, e.Writable) → count = acc.size + (es.flatMap PoolEntry.slots).length →
      es.length ≤ fuel →
      ReadsAs (readSlots count fuel acc) (es.flatMap PoolEntry.bytes)
        (acc ++ (es.flatMap PoolEntry.slots).toArray)
  | [], 0, acc, _, _, _ => by
    rw [readSlots]
    simpa using ReadsAs.pure acc
  | [], fuel + 1, acc, _, hc, _ => by
    rw [readSlots, if_neg (by simp [hc])]
    simpa using ReadsAs.pure acc
  | e :: es, fuel + 1, acc, hw, hc, hf => by
    have hw' : ∀ e' ∈ es, e'.Writable := fun e' he' => hw e' (List.mem_cons_of_mem e he')
    have hlt : acc.size < count := by
      have := List.length_pos_iff.mpr e.slots_ne_nil
      simp only [hc, List.flatMap_cons, List.length_append]
      omega
    have hc' : count = (acc ++ e.slots.toArray).size + (es.flatMap PoolEntry.slots).length := by
      simp only [hc, List.flatMap_cons, List.length_append, Array.size_append, List.size_toArray]
      omega
    rw [readSlots, if_pos hlt]
    refine ReadsAs.position_bind fun offset => ?_
    have rest := readsAs_readSlots es fuel _ hw' hc' (by simpa using hf)
    refine (((ReadsAs.u1 e.tag).bind ((e.readsAs_readConstant (hw e List.mem_cons_self)
      offset).bind rest)).congr_bytes ?_).congr_value ?_
    · simp [PoolEntry.bytes]
    · simp [Array.append_assoc]

end ConstantPool

namespace ClassLayout

variable (L : ClassLayout)

/-- The pool that a layout's entries make. -/
def constantPool : ConstantPool := ⟨L.slots.toArray⟩

theorem readsAs_read (hw : ∀ e ∈ L.pool, e.Writable) (hlt : L.slots.length < 0x10000) :
    ReadsAs ConstantPool.read (u2Bytes L.slots.length ++ L.pool.flatMap PoolEntry.bytes)
      L.constantPool := by
  have hc : L.slots.length = (#[none] : Array (Option Constant)).size + (L.pool.flatMap PoolEntry.slots).length := by
    simp [slots, Nat.add_comm]
  have hf : L.pool.length ≤ L.slots.length := by
    have := ConstantPool.length_le_length_flatMap_slots L.pool
    simp only [slots, List.length_cons]
    omega
  refine ((ReadsAs.u2 hlt).bind ((ConstantPool.readsAs_readSlots L.pool _ #[none] hw hc
    hf).bind_pure _)).congr_value ?_
  have hs : (#[none] ++ (L.pool.flatMap PoolEntry.slots).toArray) = L.slots.toArray := by simp [slots]
  rw [constantPool, hs, Array.extract_eq_self_of_le (by simp)]

variable {L}

theorem lt_of_text?_eq_some {i : Nat} {s : String} (h : L.text? i = some s) :
    i < L.slots.length := by
  unfold text? at h
  by_contra hi
  rw [List.getElem?_eq_none (by omega)] at h
  simp at h

theorem utf8_of_text?_eq_some {i : Nat} {s : String} (h : L.text? i = some s) :
    L.constantPool.utf8 i = .ok s := by
  unfold text? at h
  split at h
  · next hs =>
    cases h
    simp only [ConstantPool.utf8, ConstantPool.get, constantPool, List.getElem?_toArray, hs]
    rfl
  · simp at h

theorem lt_of_className?_eq_some {i : Nat} {s : String} (h : L.className? i = some s) :
    i < L.slots.length := by
  unfold className? at h
  by_contra hi
  rw [List.getElem?_eq_none (by omega)] at h
  simp at h

theorem className_of_className?_eq_some {i : Nat} {s : String} (h : L.className? i = some s) :
    L.constantPool.className i = .ok s := by
  unfold className? at h
  split at h
  · next hn =>
    simp only [ConstantPool.className, ConstantPool.get, constantPool, List.getElem?_toArray, hn]
    exact utf8_of_text?_eq_some h
  · simp at h

end ClassLayout

/-! ### Attribute tables -/

section Attributes

variable {pool : ConstantPool} {step : σ → String → List UInt8 → Except FormatError σ}
  {f : σ → AttributeLayout → σ}

/-- The reader of an attribute table reads the attribute `a` and moves its state `s` to
`f s a`: its name index and length fit their widths, and its name is a text that `step`
takes with its body to `f s a`. -/
def AttributeLayout.StepsAs (pool : ConstantPool) (step : σ → String → List UInt8 → Except FormatError σ)
    (f : σ → AttributeLayout → σ) (a : AttributeLayout) : Prop :=
  a.nameIndex < 0x10000 ∧ a.body.length < 0x100000000 ∧
    ∃ n, pool.utf8 a.nameIndex = .ok n ∧ ∀ s, step s n a.body = .ok (f s a)

theorem readsAs_attributes_go :
    ∀ (as : List AttributeLayout) (s : σ), (∀ a ∈ as, a.StepsAs pool step f) →
      ReadsAs (attributes.go pool step as.length s) (as.flatMap AttributeLayout.bytes)
        (as.foldl f s)
  | [], s, _ => ReadsAs.pure s
  | a :: as, s, h => by
    obtain ⟨hi, hl, n, hn, hs⟩ := h a List.mem_cons_self
    have rest := readsAs_attributes_go as (f s a) fun b hb => h b (List.mem_cons_of_mem a hb)
    rw [List.length_cons, attributes.go]
    refine ((ReadsAs.u2 hi).bind ((ReadsAs.lift hn).bind ((ReadsAs.u4 hl).bind
      ((ReadsAs.take a.body).bind ((ReadsAs.lift (hs s)).bind rest))))).congr_bytes ?_
    simp [AttributeLayout.bytes]

theorem readsAs_attributes {as : List AttributeLayout} (h : ∀ a ∈ as, a.StepsAs pool step f)
    (hlen : as.length < 0x10000) (init : σ) :
    ReadsAs (attributes pool step init) (attributeTableBytes as) (as.foldl f init) :=
  (ReadsAs.u2 hlen).bind (readsAs_attributes_go as init h)

end Attributes

namespace ClassLayout

variable (L : ClassLayout)

/-- How an attribute moves the signature read so far: a `Signature` attribute replaces it. -/
def signatureStep (sig : Option String) : AttributeLayout → Option String
  | .signature _ i => (L.text? i).or sig
  | _ => sig

/-- How an attribute moves what is read of a method without its body. -/
def methodStep (m : MethodAttributes) : AttributeLayout → MethodAttributes
  | .signature _ i => { m with signature := (L.text? i).or m.signature }
  | .exceptions _ is => { m with exceptions := m.exceptions ++ is.filterMap L.className? }
  | .code _ _ => { m with hasCode := true }
  | .other _ _ => m

variable {L}

theorem signatureOf_cons (a : AttributeLayout) (as : List AttributeLayout) (sig : Option String) :
    (L.signatureOf as).or (L.signatureStep sig a) = (L.signatureOf (a :: as)).or sig := by
  cases a <;> simp only [signatureStep, signatureOf, List.filterMap_cons]
  case signature n i =>
    cases L.text? i <;> simp only [Option.none_or, Option.some_or, Option.or_some, List.getLast?_cons]

theorem foldl_signatureStep :
    ∀ (as : List AttributeLayout) (sig : Option String),
      as.foldl L.signatureStep sig = (L.signatureOf as).or sig
  | [], _ => rfl
  | a :: as, sig => by
    rw [List.foldl_cons, foldl_signatureStep as, signatureOf_cons]

theorem foldl_methodStep :
    ∀ (as : List AttributeLayout) (m : MethodAttributes),
      as.foldl L.methodStep m =
        { signature := (L.signatureOf as).or m.signature
          exceptions := m.exceptions ++ L.exceptionsOf as
          hasCode := m.hasCode || as.any AttributeLayout.isCode
          code := m.code }
  | [], m => by simp [signatureOf, exceptionsOf]
  | a :: as, m => by
    rw [List.foldl_cons, foldl_methodStep as, ← signatureOf_cons]
    cases a <;> simp [methodStep, signatureStep, exceptionsOf, AttributeLayout.isCode]

section Readable

variable (hslots : L.slots.length < 0x10000)
include hslots

theorem stepsAs_of_text? {step : σ → String → List UInt8 → Except FormatError σ}
    {f : σ → AttributeLayout → σ} {a : AttributeLayout} {name : String}
    (hl : a.body.length < 0x100000000) (hn : L.text? a.nameIndex = some name)
    (hs : ∀ s, step s name a.body = .ok (f s a)) : a.StepsAs L.constantPool step f :=
  ⟨Nat.lt_trans (lt_of_text?_eq_some hn) hslots, hl, name, utf8_of_text?_eq_some hn, hs⟩

theorem signatureOf_u2Bytes {i : Nat} {t : String} (ht : L.text? i = some t) :
    ClassFile.signatureOf L.constantPool (u2Bytes i) = .ok t :=
  (((ReadsAs.u2 (Nat.lt_trans (lt_of_text?_eq_some ht) hslots)).bind
    (ReadsAs.lift (utf8_of_text?_eq_some ht))).congr_bytes (List.append_nil _)).runValue_self

theorem readsAs_text_bind {i : Nat} {s : String} {k : String → Decoder β} {bs : List UInt8} {v : β}
    (h : L.text? i = some s) (hk : ReadsAs (k s) bs v) :
    ReadsAs (Decoder.u2 >>= fun x => Decoder.lift (L.constantPool.utf8 x) >>= k)
      (u2Bytes i ++ bs) v :=
  (ReadsAs.u2 (Nat.lt_trans (lt_of_text?_eq_some h) hslots)).bind
    ((ReadsAs.lift (utf8_of_text?_eq_some h)).bind hk)

theorem readsAs_className {i : Nat} {s : String} (h : L.className? i = some s) :
    ReadsAs (do Decoder.lift (L.constantPool.className (← Decoder.u2))) (u2Bytes i) s :=
  ((ReadsAs.u2 (Nat.lt_trans (lt_of_className?_eq_some h) hslots)).bind
    (ReadsAs.lift (className_of_className?_eq_some h))).congr_bytes (List.append_nil _)

theorem readsAs_className_bind {i : Nat} {s : String} {k : String → Decoder β} {bs : List UInt8}
    {v : β} (h : L.className? i = some s) (hk : ReadsAs (k s) bs v) :
    ReadsAs (Decoder.u2 >>= fun x => Decoder.lift (L.constantPool.className x) >>= k)
      (u2Bytes i ++ bs) v :=
  (ReadsAs.u2 (Nat.lt_trans (lt_of_className?_eq_some h) hslots)).bind
    ((ReadsAs.lift (className_of_className?_eq_some h)).bind hk)

theorem readsAs_classNames {is : List Nat} {ns : List String} (h : is.map L.className? = ns.map some) :
    ReadsAs (Decoder.times is.length (do Decoder.lift (L.constantPool.className (← Decoder.u2))))
      (is.flatMap u2Bytes) ns := by
  have h2 : List.Forall₂ (· = ·) (is.map L.className?) (ns.map some) :=
    h ▸ List.forall₂_same.mpr fun _ _ => rfl
  rw [List.forall₂_map_left_iff, List.forall₂_map_right_iff] at h2
  exact ReadsAs.times (h2.imp fun _ _ hin => readsAs_className hslots hin)

/-- The superclass index is read as no class when it is zero, and otherwise as the class it
points to. -/
theorem readsAs_superClass_bind {c : ClassInfo} {k : Option String → Decoder β} {bs : List UInt8}
    {v : β} (h : if L.superIndex = 0 then c.superClass = none
      else L.className? L.superIndex = c.superClass ∧ c.superClass.isSome)
    (hk : ReadsAs (k c.superClass) bs v) :
    ReadsAs (Decoder.u2 >>= fun i => if i = 0 then Pure.pure none >>= k
      else some <$> Decoder.lift (L.constantPool.className i) >>= k)
      (u2Bytes L.superIndex ++ bs) v := by
  split at h
  · next h0 =>
    refine (ReadsAs.u2 (by omega)).bind ?_
    rw [if_pos h0]
    rw [h] at hk
    exact (ReadsAs.pure none).bind hk
  · next h0 =>
    obtain ⟨hc, hs⟩ := h
    obtain ⟨s, hs⟩ := Option.isSome_iff_exists.mp hs
    rw [hs] at hc hk
    refine (ReadsAs.u2 (Nat.lt_trans (lt_of_className?_eq_some hc) hslots)).bind ?_
    rw [if_neg h0]
    exact ((ReadsAs.lift (className_of_className?_eq_some hc)).fmap some).bind hk

theorem exceptionsOf_bytes {is : List Nat} (hlen : is.length < 0x10000)
    (hc : ∀ i ∈ is, (L.className? i).isSome) :
    ClassFile.exceptionsOf L.constantPool (u2Bytes is.length ++ is.flatMap u2Bytes) =
      .ok (is.filterMap L.className?) := by
  -- each index is read as the class it names; `getD` only fixes a value for the types
  have hread : ∀ i ∈ is, ReadsAs (do Decoder.lift (L.constantPool.className (← Decoder.u2)))
      (u2Bytes i) ((L.className? i).getD "") := by
    intro i hi
    obtain ⟨s, hs⟩ := Option.isSome_iff_exists.mp (hc i hi)
    rw [hs]
    exact readsAs_className hslots hs
  have hmap : is.filterMap L.className? = is.map fun i => (L.className? i).getD "" := by
    rw [List.filterMap_eq_map_iff_forall_eq_some]
    intro i hi
    obtain ⟨s, hs⟩ := Option.isSome_iff_exists.mp (hc i hi)
    simp [hs]
  rw [hmap]
  exact ((ReadsAs.u2 hlen).bind (ReadsAs.times_map hread)).runValue_self

theorem stepsAs_lastSignature {a : AttributeLayout} (ha : L.AttributeReadable a) :
    a.StepsAs L.constantPool (lastSignature L.constantPool) L.signatureStep := by
  obtain ⟨hl, hm⟩ := ha
  cases a with
  | signature n i =>
    obtain ⟨hn, hi⟩ := hm
    obtain ⟨t, ht⟩ := Option.isSome_iff_exists.mp hi
    refine stepsAs_of_text? hslots hl hn fun s => ?_
    simp [lastSignature, AttributeLayout.body, signatureOf_u2Bytes hslots ht, signatureStep, ht]
  | exceptions n is =>
    exact stepsAs_of_text? hslots hl hm.1 fun s => by simp [lastSignature, signatureStep]; rfl
  | code n b =>
    exact stepsAs_of_text? hslots hl hm fun s => by simp [lastSignature, signatureStep]; rfl
  | other n b =>
    obtain ⟨name, hn, hs, -, -⟩ := hm
    exact stepsAs_of_text? hslots hl hn fun s => by simp [lastSignature, signatureStep, hs]; rfl

theorem stepsAs_methodAdd {a : AttributeLayout} (ha : L.AttributeReadable a) :
    a.StepsAs L.constantPool (MethodAttributes.add L.constantPool .structureOnly) L.methodStep := by
  obtain ⟨hl, hm⟩ := ha
  cases a with
  | signature n i =>
    obtain ⟨hn, hi⟩ := hm
    obtain ⟨t, ht⟩ := Option.isSome_iff_exists.mp hi
    refine stepsAs_of_text? hslots hl hn fun s => ?_
    simp [MethodAttributes.add, AttributeLayout.body, signatureOf_u2Bytes hslots ht, methodStep, ht]
  | exceptions n is =>
    obtain ⟨hn, hlen, hc⟩ := hm
    refine stepsAs_of_text? hslots hl hn fun s => ?_
    simp [MethodAttributes.add, AttributeLayout.body, exceptionsOf_bytes hslots hlen hc, methodStep]
  | code n b =>
    exact stepsAs_of_text? hslots hl hm fun s => by simp [MethodAttributes.add, methodStep]; rfl
  | other n b =>
    obtain ⟨name, hn, hs, he, hc⟩ := hm
    exact stepsAs_of_text? hslots hl hn fun s => by simp [MethodAttributes.add, methodStep, hs, he, hc]; rfl

theorem readsAs_readFieldInfo {fl : FieldLayout} {f : FieldInfo} (h : L.FieldSerializes fl f) :
    ReadsAs (readFieldInfo L.constantPool) fl.bytes f := by
  obtain ⟨t, ht, hd⟩ := h.spells
  have hparse : Descriptor.parseField f.descriptor = .ok t := by
    rw [hd]
    exact Descriptor.parseField_render ht
  have hattrs := readsAs_attributes (fun a ha => stepsAs_lastSignature hslots (h.readable a ha))
    h.count none
  rw [foldl_signatureStep, Option.or_none, ← h.signature] at hattrs
  have hacc : fl.access < 0x10000 := h.access ▸ h.access_lt
  refine (((ReadsAs.u2 hacc).bind (readsAs_text_bind hslots h.name
    (readsAs_text_bind hslots h.descriptor ((ReadsAs.lift hparse).bind
      (hattrs.bind_pure _))))).congr_bytes ?_).congr_value ?_
  · simp [FieldLayout.bytes]
  · rw [h.access]

theorem readsAs_readMethodInfo {ml : MethodLayout} {m : MethodInfo} (h : L.MethodSerializes ml m) :
    ReadsAs (readMethodInfo L.constantPool .structureOnly) ml.bytes m := by
  obtain ⟨t, ht, hd⟩ := h.spells
  have hparse : Descriptor.parseMethod m.descriptor = .ok t := by
    rw [hd]
    exact Descriptor.parseMethod_render ht
  have hattrs := readsAs_attributes (fun a ha => stepsAs_methodAdd hslots (h.readable a ha))
    h.count {}
  rw [foldl_methodStep] at hattrs
  have hacc : ml.access < 0x10000 := h.access ▸ h.access_lt
  refine (((ReadsAs.u2 hacc).bind (readsAs_text_bind hslots h.name
    (readsAs_text_bind hslots h.descriptor ((ReadsAs.lift hparse).bind
      (hattrs.bind_pure _))))).congr_bytes ?_).congr_value ?_
  · simp [MethodLayout.bytes]
  · simp [h.access, ← h.signature, ← h.exceptions, ← h.hasCode, ← h.code]

end Readable

/-- What follows the pool is read back as the class a layout writes. -/
theorem readsAs_readBody {c : ClassInfo} (h : L.Serializes c) :
    ReadsAs (readBody .structureOnly L.constantPool)
      (u2Bytes L.access ++ u2Bytes L.thisIndex ++ u2Bytes L.superIndex ++
        u2Bytes L.interfaceIndices.length ++ L.interfaceIndices.flatMap u2Bytes ++
        u2Bytes L.fields.length ++ L.fields.flatMap FieldLayout.bytes ++
        u2Bytes L.methods.length ++ L.methods.flatMap MethodLayout.bytes ++
        attributeTableBytes L.attributes) c := by
  have hslots := h.slots_lt
  obtain ⟨hi, hf, hm, ha⟩ := h.counts
  have hsig := readsAs_attributes (fun a ha => stepsAs_lastSignature hslots (h.readable a ha)) ha none
  rw [foldl_signatureStep, Option.or_none, ← h.signature] at hsig
  simp only [List.append_assoc]
  unfold readBody
  refine (ReadsAs.u2 (h.access ▸ h.access_lt)).bind (readsAs_className_bind hslots h.name ?_)
  dsimp only
  refine readsAs_superClass_bind hslots h.superClass ?_
  refine (ReadsAs.u2 hi).bind ((readsAs_classNames hslots h.interfaces).bind ?_)
  refine (ReadsAs.u2 hf).bind ((ReadsAs.times (h.fields.imp fun _ _ hfs =>
    readsAs_readFieldInfo hslots hfs)).bind ?_)
  refine (ReadsAs.u2 hm).bind ((ReadsAs.times (h.methods.imp fun _ _ hms =>
    readsAs_readMethodInfo hslots hms)).bind ?_)
  refine (hsig.bind_pure _).congr_value ?_
  rw [h.access, ← h.level]

theorem readsAs_readHeader (hw : ∀ e ∈ L.pool, e.Writable) (hslots : L.slots.length < 0x10000)
    (hv : L.minor < 0x10000 ∧ L.major < 0x10000) :
    ReadsAs readHeader (u4Bytes magic ++ u2Bytes L.minor ++ u2Bytes L.major ++
      u2Bytes L.slots.length ++ L.pool.flatMap PoolEntry.bytes) L.constantPool := by
  simp only [List.append_assoc]
  unfold readHeader
  refine (ReadsAs.u4 (by decide)).bind ?_
  rw [if_neg (not_not_intro rfl)]
  exact (ReadsAs.u2 hv.1).bind ((ReadsAs.u2 hv.2).bind (L.readsAs_read hw hslots))

/-- The decoder reads back, without method bodies, every class from any layout that writes it:
whatever the version, the order and extra entries of the pool, the attributes it passes over and
the bytes after the class. -/
theorem decode_bytes_of_serializes {L : ClassLayout} {c : ClassInfo} (h : L.Serializes c) :
    ClassInfo.decode L.bytes .structureOnly = .ok c := by
  have hread := (L.readsAs_readHeader h.writable h.slots_lt h.version_lt).bind (L.readsAs_readBody h)
  rw [← readClass_eq] at hread
  have := hread.runValue L.trailing
  simpa only [ClassInfo.decode, bytes, List.append_assoc] using this

/-- A pool text whose bytes encode an unpaired surrogate makes the class unreadable, although
nothing refers to it. -/
theorem decode_loneSurrogate :
    ClassInfo.decode [0xCA, 0xFE, 0xBA, 0xBE, 0, 0, 0, 0x34, 0, 6,
      1, 0, 1, 0x41, 7, 0, 1,
      1, 0, 16, 0x6A, 0x61, 0x76, 0x61, 0x2F, 0x6C, 0x61, 0x6E, 0x67, 0x2F, 0x4F, 0x62, 0x6A,
      0x65, 0x63, 0x74, 7, 0, 3, 1, 0, 3, 0xED, 0xA0, 0x80,
      0, 0x21, 0, 2, 0, 4, 0, 0, 0, 0, 0, 0, 0, 0] .structureOnly = .error .badUtf8 := by
  cbv

/-- A class with a field, and a method with a body, a thrown class and an attribute the reader
passes over; its pool holds a long, and a byte follows the class. -/
def sample : ClassLayout where
  minor := 0
  major := 52
  pool := [{ constant := .utf8 "A" }, { constant := .classRef 1 },
    { constant := .utf8 "java/lang/Object" }, { constant := .classRef 3 },
    { constant := .utf8 "count" }, { constant := .utf8 "I" }, { constant := .utf8 "run" },
    { constant := .utf8 "()V" }, { constant := .utf8 "Code" }, { constant := .utf8 "Exceptions" },
    { constant := .utf8 "java/io/IOException" }, { constant := .classRef 11 },
    { constant := .long, payload := [0, 0, 0, 0, 0, 0, 0, 7] }, { constant := .utf8 "Deprecated" }]
  access := 0x21
  thisIndex := 2
  superIndex := 4
  interfaceIndices := []
  fields := [⟨2, 5, 6, []⟩]
  methods := [⟨1, 7, 8, [.code 9 [0, 1, 0, 1, 0, 0, 0, 1, 0xB1, 0, 0, 0, 0], .exceptions 10 [12],
    .other 15 []]⟩]
  attributes := []
  trailing := [0xFF]

/-- The class that `sample` writes. -/
def sampleClass : ClassInfo :=
  ⟨"A", 0x21, some "java/lang/Object", [], none, [⟨2, "count", "I", none⟩],
    [⟨1, "run", "()V", none, ["java/io/IOException"], true, none⟩], .structureOnly⟩

theorem decode_sample :
    sample.Serializes sampleClass ∧ ClassInfo.decode sample.bytes .structureOnly = .ok sampleClass := by
  have hs : sample.Serializes sampleClass := by
    constructor
    case writable =>
      intro e he
      simp only [sample, List.mem_cons, List.not_mem_nil, or_false] at he
      rcases he with rfl | rfl | rfl | rfl | rfl | rfl | rfl | rfl | rfl | rfl | rfl | rfl | rfl |
        rfl <;> (unfold PoolEntry.Writable; decide)
    case fields =>
      refine .cons ⟨rfl, by decide, rfl, rfl, ⟨.base .int, trivial, rfl⟩, by simp, by decide, rfl⟩ .nil
    case methods =>
      refine .cons ⟨rfl, by decide, rfl, rfl, ⟨⟨[], none⟩, by simp [Descriptor.MethodType.Spellable],
        rfl⟩, ?_, by decide, rfl, rfl, rfl, rfl⟩ .nil
      intro a ha
      simp only [List.mem_cons, List.not_mem_nil, or_false] at ha
      rcases ha with rfl | rfl | rfl
      · exact ⟨by decide, rfl⟩
      · exact ⟨by decide, rfl, by decide, by decide⟩
      · exact ⟨by decide, "Deprecated", rfl, by decide⟩
    case readable => simp [sample]
    all_goals first | rfl | decide
  exact ⟨hs, decode_bytes_of_serializes hs⟩

end ClassLayout

end ClassMetrics.ClassFile
