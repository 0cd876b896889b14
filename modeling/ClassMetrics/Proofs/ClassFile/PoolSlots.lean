import ClassMetrics.Proofs.ClassFile.Levels

/-!
The slot law of the constant pool. A pool is read as a two-byte count and then one constant after
another, each a tag byte and a payload whose size the tag fixes, a text giving its own length in
the first two bytes of it. A constant fills one slot, a long or a double two of which the second
is unusable, and reading stops once the count is reached, so the unusable half of a long or a
double that overshoots the count is cut off again. Hence a pool read from bytes has `max count 1`
slots, the read takes exactly the count and the constants, and a constant is found at an index
exactly when the index is past slot zero, inside the pool and not just after a long or a double.
A look-up by kind reports a constant of another kind at the index asked for, and only then, and
passes on what the look-ups of the indices a constant holds report.

`Decoder.Spends d P` says which bytes a reader takes off the front of its input; it composes
along `bind`, with one lemma for each primitive read.
-/

namespace ClassMetrics.ClassFile

open Decoder

variable {α β : Type}

/-- `d` reads from the front of its bytes: having read `a`, it has taken some bytes `pre` off the
front and moved the offset past them, and `P pre a` holds. -/
def Decoder.Spends (d : Decoder α) (P : List UInt8 → α → Prop) : Prop :=
  ∀ c a c', d c = .ok (a, c') →
    ∃ pre, c.rest = pre ++ c'.rest ∧ c'.pos = c.pos + pre.length ∧ P pre a

namespace Decoder.Spends

theorem mono {d : Decoder α} {P Q : List UInt8 → α → Prop} (hd : Spends d P)
    (h : ∀ pre a, P pre a → Q pre a) : Spends d Q := by
  intro c a c' hc
  obtain ⟨pre, hr, hp, hP⟩ := hd c a c' hc
  exact ⟨pre, hr, hp, h pre a hP⟩

theorem pure (a : α) : Spends (Pure.pure a : Decoder α) fun pre b => pre = [] ∧ b = a := by
  intro c b c' hc
  cases hc
  exact ⟨[], rfl, rfl, rfl, rfl⟩

theorem lift (r : Except FormatError α) : Spends (Decoder.lift r) fun pre a => pre = [] ∧ r = .ok a := by
  intro c a c' hc
  cases hr : r with
  | error e => simp [Decoder.lift, hr, Except.map] at hc
  | ok x =>
    simp only [Decoder.lift, hr, Except.map, Except.ok.injEq, Prod.mk.injEq] at hc
    obtain ⟨rfl, rfl⟩ := hc
    exact ⟨[], rfl, rfl, rfl, rfl⟩

theorem take (n : Nat) : Spends (Decoder.take n) fun pre a => pre.length = n ∧ a = pre := by
  intro c a c' hc
  unfold Decoder.take at hc
  dsimp only at hc
  split at hc
  · next hlen =>
    cases hc
    exact ⟨c.rest.take n, (List.take_append_drop n c.rest).symm, by rw [hlen], hlen, rfl⟩
  · cases hc

theorem skip (n : Nat) : Spends (Decoder.skip n) fun pre _ => pre.length = n := by
  intro c a c' hc
  unfold Decoder.skip at hc
  cases ht : Decoder.take n c with
  | error e => rw [ht] at hc; cases hc
  | ok r =>
    rw [ht] at hc
    cases hc
    obtain ⟨pre, hr, hp, hlen, -⟩ := take n c r.1 r.2 ht
    exact ⟨pre, hr, hp, hlen⟩

theorem u1 : Spends Decoder.u1 fun pre a => pre.length = 1 ∧ a = bigEndian pre := by
  intro c a c' hc
  unfold Decoder.u1 at hc
  split at hc
  · cases hc
  · next b r hrest =>
    cases hc
    exact ⟨[b], by simp [hrest], rfl, rfl, by simp [bigEndian]⟩

theorem u2 : Spends Decoder.u2 fun pre a => pre.length = 2 ∧ a = bigEndian pre := by
  intro c a c' hc
  unfold Decoder.u2 at hc
  cases ht : Decoder.take 2 c with
  | error e => rw [ht] at hc; cases hc
  | ok r =>
    rw [ht] at hc
    cases hc
    obtain ⟨pre, hr, hp, hlen, hpre⟩ := take 2 c r.1 r.2 ht
    exact ⟨pre, hr, hp, hlen, by rw [hpre]⟩

theorem position : Spends Decoder.position fun pre _ => pre = [] := by
  intro c a c' hc
  cases hc
  exact ⟨[], rfl, rfl, rfl⟩

theorem bind {d : Decoder α} {k : α → Decoder β} {P : List UInt8 → α → Prop}
    {Q : α → List UInt8 → β → Prop} (hd : Spends d P) (hk : ∀ a, Spends (k a) (Q a)) :
    Spends (d >>= k) fun pre b => ∃ p₁ p₂ a, pre = p₁ ++ p₂ ∧ P p₁ a ∧ Q a p₂ b := by
  intro c b c'' h
  rw [bind_apply] at h
  cases hc : d c with
  | error e => rw [hc] at h; cases h
  | ok r =>
    obtain ⟨a, c'⟩ := r
    rw [hc] at h
    obtain ⟨p₁, hr₁, hp₁, hP⟩ := hd c a c' hc
    obtain ⟨p₂, hr₂, hp₂, hQ⟩ := hk a c' b c'' h
    refine ⟨p₁ ++ p₂, by rw [hr₁, hr₂, List.append_assoc], ?_, p₁, p₂, a, rfl, hP, hQ⟩
    rw [hp₂, hp₁, List.length_append, Nat.add_assoc]

end Decoder.Spends

/-- Whether a constant is of the kind that a look-up expects. -/
def ConstantKind.Admits : ConstantKind → Constant → Prop
  | .utf8, .utf8 _ => True
  | .classRef, .classRef _ => True
  | .nameAndType, .nameAndType _ _ => True
  | .memberRef, .fieldRef _ _ => True
  | .memberRef, .methodRef _ _ => True
  | .memberRef, .interfaceMethodRef _ _ => True
  | _, _ => False

namespace ConstantPool

/-- The number of bytes that follow the tag of a constant: two and the length `len` for a text,
eight for a long or a double, four for an integer, a float, a field, method or interface-method
reference, a name and type or a dynamic constant, three for a method handle, two for a class, a
string, a method type, a module or a package. -/
def payloadSize (tag len : Nat) : Nat :=
  match tag with
  | 1 => 2 + len
  | 5 | 6 => 8
  | 3 | 4 | 9 | 10 | 11 | 12 | 17 | 18 => 4
  | 15 => 3
  | 7 | 8 | 16 | 19 | 20 => 2
  | _ => 0

/-- The pool slots a constant with a tag fills: a long (tag 5) or a double (tag 6) fills two, the
second unusable, and any other constant one. -/
inductive Fills : Nat → List (Option Constant) → Prop
  | narrow {t : Nat} {c : Constant} (ht : t ≠ 5 ∧ t ≠ 6) (hc : c ≠ .long ∧ c ≠ .double) :
      Fills t [some c]
  | long : Fills 5 [some .long, none]
  | double : Fills 6 [some .double, none]

/-- A constant is its tag's payload: the reader takes exactly `payloadSize` bytes after the tag,
the length of a text being the first two of them, and fills the slots its tag says. -/
theorem spends_readConstant (offset tag : Nat) :
    Spends (readConstant offset tag) fun pre slots =>
      pre.length = payloadSize tag (bigEndian (pre.take 2)) ∧ Fills tag slots := by
  unfold readConstant
  dsimp only
  split
  · -- a text: its two-byte length, then that many bytes
    refine (Spends.u2.bind fun _ => (Spends.take _).bind fun _ =>
      (Spends.lift _).bind fun _ => Spends.pure _).mono ?_
    rintro pre slots ⟨p₁, _, len, rfl, ⟨h₁, rfl⟩, q₁, _, _, rfl, ⟨h₂, rfl⟩, _, _, s, rfl,
      ⟨rfl, -⟩, rfl, rfl⟩
    refine ⟨?_, .narrow (by decide) (by simp)⟩
    rw [List.take_left' h₁]
    simp [payloadSize, h₁, h₂]
  -- the other constants: a fixed number of bytes, read as numbers or passed over
  all_goals first
    | refine ((Spends.skip _).bind fun _ => Spends.pure _).mono ?_
      rintro pre slots ⟨p₁, _, _, rfl, h₁, rfl, rfl⟩
      refine ⟨by simp [payloadSize, h₁], ?_⟩
      first | exact .long | exact .double | exact .narrow (by decide) (by simp)
    | refine (Spends.u2.bind fun _ => Spends.pure _).mono ?_
      rintro pre slots ⟨p₁, _, _, rfl, ⟨h₁, rfl⟩, rfl, rfl⟩
      exact ⟨by simp [payloadSize, h₁], .narrow (by decide) (by simp)⟩
    | refine (Spends.u2.bind fun _ => Spends.u2.bind fun _ => Spends.pure _).mono ?_
      rintro pre slots ⟨p₁, _, _, rfl, ⟨h₁, rfl⟩, p₂, _, _, rfl, ⟨h₂, rfl⟩, rfl, rfl⟩
      exact ⟨by simp [payloadSize, h₁, h₂], .narrow (by decide) (by simp)⟩
    | refine (Spends.u1.bind fun _ => Spends.u2.bind fun _ => Spends.pure _).mono ?_
      rintro pre slots ⟨p₁, _, _, rfl, ⟨h₁, rfl⟩, p₂, _, _, rfl, ⟨h₂, rfl⟩, rfl, rfl⟩
      exact ⟨by simp [payloadSize, h₁, h₂], .narrow (by decide) (by simp)⟩
    | refine (Spends.lift _).mono ?_
      rintro pre slots ⟨-, h⟩
      cases h

/-- A constant as the reader met it: its tag byte, the bytes after the tag, the slots it filled. -/
structure Entry where
  tag : UInt8
  payload : List UInt8
  slots : List (Option Constant)

/-- The bytes of an entry: its tag, then its payload. -/
def Entry.bytes (e : Entry) : List UInt8 := e.tag :: e.payload

/-- An entry as the reader makes it: its payload has its tag's size, and it fills its tag's
slots. -/
structure Entry.Valid (e : Entry) : Prop where
  size : e.payload.length = payloadSize e.tag.toNat (bigEndian (e.payload.take 2))
  fills : Fills e.tag.toNat e.slots

theorem Fills.length_pos {t : Nat} {s : List (Option Constant)} (h : Fills t s) :
    0 < s.length := by
  cases h <;> simp

/-- Reading constants while slots are missing reads a run of entries and appends their slots;
it stops with at least `count` slots unless the fuel runs out first, one entry a step. -/
theorem spends_readSlots (count : Nat) : ∀ fuel acc,
    Spends (readSlots count fuel acc) fun pre acc' => ∃ es : List Entry,
      (∀ e ∈ es, e.Valid) ∧ pre = es.flatMap Entry.bytes ∧
      acc'.toList = acc.toList ++ es.flatMap Entry.slots ∧ min count (acc.size + fuel) ≤ acc'.size
  | 0, acc => by
    refine (Spends.pure acc).mono ?_
    rintro pre acc' ⟨rfl, rfl⟩
    exact ⟨[], by simp, rfl, by simp, by omega⟩
  | fuel + 1, acc => by
    unfold readSlots
    split
    · next hlt =>
      refine (Spends.position.bind fun offset => Spends.u1.bind fun tag =>
        (spends_readConstant offset tag).bind fun slots =>
          spends_readSlots count fuel _).mono ?_
      rintro pre acc' ⟨_, _, _, rfl, rfl, p₁, _, tag, rfl, ⟨h₁, rfl⟩, p₂, p₃, slots, rfl,
        ⟨h₂, hfills⟩, es, hes, rfl, hacc, hsize⟩
      obtain ⟨b, rfl⟩ : ∃ b, p₁ = [b] := List.length_eq_one_iff.mp h₁
      have hb : bigEndian [b] = b.toNat := by simp [bigEndian]
      rw [hb] at h₂ hfills
      refine ⟨⟨b, p₂, slots⟩ :: es, ?_, by simp [Entry.bytes], ?_, ?_⟩
      · intro e he
        rcases List.mem_cons.mp he with rfl | he
        · exact ⟨h₂, hfills⟩
        · exact hes e he
      · simp [hacc]
      · have := hfills.length_pos
        simp only [Array.size_append, List.size_toArray] at hsize
        omega
    · next hge =>
      refine (Spends.pure acc).mono ?_
      rintro pre acc' ⟨rfl, rfl⟩
      exact ⟨[], by simp, rfl, by simp, by omega⟩

theorem spends_read : Spends read fun pre p => ∃ hd, ∃ es : List Entry, hd.length = 2 ∧
    (∀ e ∈ es, e.Valid) ∧ pre = hd ++ es.flatMap Entry.bytes ∧
    p.slots.toList = (none :: es.flatMap Entry.slots).take (max (bigEndian hd) 1) ∧
    p.size = max (bigEndian hd) 1 := by
  refine (Spends.u2.bind fun count => (spends_readSlots count count #[none]).bind fun slots =>
    Spends.pure _).mono ?_
  rintro pre p ⟨p₁, _, count, rfl, ⟨h₁, rfl⟩, _, _, acc, rfl, ⟨es, hes, rfl, hacc, hsize⟩,
    rfl, rfl⟩
  -- the slots read cover the count, so cutting them to it leaves exactly that many
  have hge : max (bigEndian p₁) 1 ≤ acc.size := by
    have : 0 < acc.size := by
      rw [← Array.length_toList, hacc]
      simp
    simp only [List.size_toArray, List.length_singleton] at hsize
    omega
  refine ⟨p₁, es, h₁, hes, by simp, ?_, ?_⟩
  · simp [hacc]
  · simp [size, hge]

/-! ### Which slots are usable -/

/-- Whether a slot holds a long or a double. -/
def IsWide (o : Option (Option Constant)) : Prop :=
  o = some (some .long) ∨ o = some (some .double)

/-- Slots laid out as the reader lays them: slot zero is unusable, and past it a slot is unusable
exactly when the slot before it holds a long or a double, which the last slot does not. -/
structure SlotsLaid (l : List (Option Constant)) : Prop where
  head : l[0]? = some none
  unusable : ∀ i, 0 < i → i < l.length → (l[i]? = some none ↔ IsWide l[i - 1]?)
  last : ¬ IsWide l.getLast?

theorem SlotsLaid.ne_nil {l : List (Option Constant)} (h : SlotsLaid l) : l ≠ [] := by
  rintro rfl
  cases h.head

/-- Appending the slots of one more constant keeps them laid out. -/
theorem SlotsLaid.append {l s : List (Option Constant)} {t : Nat} (hl : SlotsLaid l)
    (hs : Fills t s) : SlotsLaid (l ++ s) := by
  have hne := hl.ne_nil
  have hlast : l[l.length - 1]? = l.getLast? := by
    rw [List.getLast?_eq_getElem?]
  refine ⟨by rw [List.getElem?_append_left (List.length_pos_iff.mpr hne)]; exact hl.head, ?_, ?_⟩
  · intro i hi0 hi
    rcases Nat.lt_or_ge i l.length with hil | hil
    · -- a slot of the old part, with the one before it
      rw [List.getElem?_append_left hil, List.getElem?_append_left (by omega)]
      exact hl.unusable i hi0 hil
    · -- a slot of the new constant: the one before it is the last old slot or its first slot
      rw [List.getElem?_append_right hil]
      have hs0 : ∃ c, s[0]? = some (some c) := by cases hs <;> simp
      rcases Nat.lt_or_ge (i - 1) l.length with hil' | hil'
      · obtain rfl : i = l.length := by omega
        rw [List.getElem?_append_left hil', hlast, Nat.sub_self]
        obtain ⟨c, hc⟩ := hs0
        rw [hc]
        simp only [Option.some.injEq, reduceCtorEq, false_iff]
        exact hl.last
      · obtain rfl : i = l.length + 1 := by
          cases hs <;> simp at hi <;> omega
        rw [List.getElem?_append_right hil', Nat.add_sub_cancel_left, Nat.add_sub_cancel]
        cases hs with
        | narrow => simp at hi
        | long => simp [IsWide]
        | double => simp [IsWide]
  · rw [List.getLast?_append]
    cases hs with
    | narrow _ hc => simpa [IsWide] using hc
    | long => simp [IsWide]
    | double => simp [IsWide]

theorem slotsLaid_single : SlotsLaid [none] where
  head := rfl
  unusable i hi0 hi := absurd hi (by simp; omega)
  last := by simp [IsWide]

theorem slotsLaid_entries {es : List Entry} (hes : ∀ e ∈ es, e.Valid) :
    SlotsLaid (none :: es.flatMap Entry.slots) := by
  -- by induction on the entries, each appended after the ones before it
  suffices h : ∀ l, SlotsLaid l → SlotsLaid (l ++ es.flatMap Entry.slots) from
    h [none] slotsLaid_single
  induction es with
  | nil => simp
  | cons e es ih =>
    intro l hl
    rw [List.flatMap_cons, ← List.append_assoc]
    exact ih (fun e' he' => hes e' (List.mem_cons_of_mem e he')) _
      (hl.append (hes e List.mem_cons_self).fills)

/-- In a pool whose slots are a front part of laid-out slots, the constant at an index is found
exactly when the index is past slot zero, inside the pool, and not just after a long or a
double. -/
theorem get_isOk_iff {p : ConstantPool} {l : List (Option Constant)} {n : Nat}
    (hl : SlotsLaid l) (hp : p.slots.toList = l.take n) (i : Nat) :
    (∃ c, p.get i = .ok c) ↔ 0 < i ∧ i < p.size ∧ ¬ IsWide p.slots[i - 1]? := by
  have hslot : ∀ j, j < p.size → p.slots[j]? = l[j]? := by
    intro j hj
    have hj' : j < (l.take n).length := by rw [← hp]; exact hj
    rw [← Array.getElem?_toList, hp, List.getElem?_take_of_lt (by simp at hj'; omega)]
  have hget : (∃ c, p.get i = .ok c) ↔ ∃ c, p.slots[i]? = some (some c) := by
    unfold get
    split <;> simp_all
  rw [hget]
  rcases Nat.lt_or_ge i p.size with hi | hi
  · have hil : i < l.length := by
      have : p.size ≤ l.length := by
        rw [size, ← Array.length_toList, hp, List.length_take]
        exact Nat.min_le_right _ _
      omega
    rw [hslot i hi]
    obtain ⟨x, hx⟩ : ∃ x, l[i]? = some x := Option.isSome_iff_exists.mp (by simp [hil])
    rw [hx]
    rcases Nat.eq_zero_or_pos i with rfl | hi0
    · -- slot zero is unusable
      have := hl.head
      rw [hx] at this
      cases this
      simp
    · rw [hslot (i - 1) (by omega), ← not_congr (hl.unusable i hi0 hil), hx]
      cases x <;> simp [hi0, hi]
  · have : p.slots[i]? = none := by simp [size] at hi ⊢; omega
    simp [this]
    omega

theorem get_error {p : ConstantPool} {i : Nat} {e : FormatError} (h : p.get i = .error e) :
    e = .badConstantIndex i := by
  unfold get at h
  split at h <;> cases h
  rfl

/-! ### Look-ups by kind -/


variable {p : ConstantPool} {i : Nat}

theorem utf8_unexpected {j : Nat} {K : ConstantKind}
    (h : p.utf8 i = .error (.unexpectedConstant j K)) : K = .utf8 := by
  unfold utf8 at h
  cases hg : p.get i with
  | error e => simp [hg, get_error hg, bind, Except.bind] at h
  | ok c =>
    cases c <;> simp [hg, bind, Except.bind, throw, throwThe, MonadExceptOf.throw, pure,
      Except.pure] at h
    all_goals exact h.2.symm

theorem className_unexpected {j : Nat} {K : ConstantKind}
    (h : p.className i = .error (.unexpectedConstant j K)) : K = .classRef ∨ K = .utf8 := by
  unfold className at h
  cases hg : p.get i with
  | error e => simp [hg, get_error hg, bind, Except.bind] at h
  | ok c =>
    cases c <;> simp [hg, bind, Except.bind, throw, throwThe, MonadExceptOf.throw] at h
    case classRef n => exact .inr (utf8_unexpected h)
    all_goals exact .inl h.2.symm

/-- A name-and-type look-up complains only about names and types and texts. -/
theorem nameAndType_unexpected {j : Nat} {K : ConstantKind}
    (h : p.nameAndType i = .error (.unexpectedConstant j K)) : K = .nameAndType ∨ K = .utf8 := by
  unfold nameAndType at h
  cases hg : p.get i with
  | error e => simp [hg, get_error hg, bind, Except.bind] at h
  | ok c =>
    cases c <;> simp [hg, bind, Except.bind, throw, throwThe, MonadExceptOf.throw] at h
    case nameAndType n d =>
      cases hn : p.utf8 n with
      | error e =>
        simp [hn] at h
        subst h
        exact .inr (utf8_unexpected hn)
      | ok s =>
        cases hd : p.utf8 d with
        | error e =>
          simp [hn, hd] at h
          subst h
          exact .inr (utf8_unexpected hd)
        | ok s' => simp [hn, hd, pure, Except.pure] at h
    all_goals exact .inl h.2.symm

theorem utf8_eq_unexpected_iff : p.utf8 i = .error (.unexpectedConstant i .utf8) ↔
    ∃ c, p.get i = .ok c ∧ ¬ ConstantKind.utf8.Admits c := by
  unfold utf8
  cases hg : p.get i with
  | error e => simp [get_error hg, bind, Except.bind]
  | ok c =>
    cases c <;> simp [ConstantKind.Admits, bind, Except.bind, throw, throwThe,
      MonadExceptOf.throw, pure, Except.pure]

theorem className_eq_unexpected_iff : p.className i = .error (.unexpectedConstant i .classRef) ↔
    ∃ c, p.get i = .ok c ∧ ¬ ConstantKind.classRef.Admits c := by
  unfold className
  cases hg : p.get i with
  | error e => simp [get_error hg, bind, Except.bind]
  | ok c =>
    cases c <;> simp [ConstantKind.Admits, bind, Except.bind, throw, throwThe, MonadExceptOf.throw]
    case classRef n => exact fun h => nomatch utf8_unexpected h

theorem nameAndType_eq_unexpected_iff :
    p.nameAndType i = .error (.unexpectedConstant i .nameAndType) ↔
      ∃ c, p.get i = .ok c ∧ ¬ ConstantKind.nameAndType.Admits c := by
  unfold nameAndType
  cases hg : p.get i with
  | error e => simp [get_error hg, bind, Except.bind]
  | ok c =>
    cases c <;> simp [ConstantKind.Admits, bind, Except.bind, throw, throwThe, MonadExceptOf.throw]
    case nameAndType n d =>
      cases hn : p.utf8 n with
      | error e => intro h; cases h; exact nomatch utf8_unexpected hn
      | ok s =>
        cases hd : p.utf8 d with
        | error e => intro h; cases h; exact nomatch utf8_unexpected hd
        | ok s' => simp [pure, Except.pure]

theorem memberRef_of_get {c : Constant} {cls nt : Nat} (hg : p.get i = .ok c)
    (hc : c = .fieldRef cls nt ∨ c = .methodRef cls nt ∨ c = .interfaceMethodRef cls nt) :
    p.memberRef i = (do
      let (name, descriptor) ← p.nameAndType nt
      let owner ← p.className cls
      pure ⟨owner, name, descriptor⟩) := by
  rcases hc with rfl | rfl | rfl <;> simp only [memberRef, hg] <;> rfl

/-- A member look-up complains about its own index as no member reference exactly when the
constant there is usable but not a field, method or interface-method reference. -/
theorem memberRef_eq_unexpected_iff :
    p.memberRef i = .error (.unexpectedConstant i .memberRef) ↔
      ∃ c, p.get i = .ok c ∧ ¬ ConstantKind.memberRef.Admits c := by
  -- a reference's name and type, then its class, are looked up, and neither complains about
  -- member references
  have hrest : ∀ cls nt, (do
      let (name, descriptor) ← p.nameAndType nt
      let owner ← p.className cls
      pure (⟨owner, name, descriptor⟩ : MemberRef)) ≠
        Except.error (.unexpectedConstant i .memberRef) := by
    intro cls nt h
    cases hn : p.nameAndType nt with
    | error e =>
      rw [hn] at h
      cases h
      rcases nameAndType_unexpected hn with h | h <;> cases h
    | ok r =>
      cases hc : p.className cls with
      | error e =>
        simp [hn, hc, bind, Except.bind] at h
        subst h
        rcases className_unexpected hc with h | h <;> cases h
      | ok o => simp [hn, hc, bind, Except.bind, pure, Except.pure] at h
  cases hg : p.get i with
  | error e =>
    unfold memberRef
    simp [hg, get_error hg, bind, Except.bind]
  | ok c =>
    cases c
    case fieldRef cls nt =>
      simpa [memberRef_of_get hg (.inl rfl), ConstantKind.Admits] using hrest cls nt
    case methodRef cls nt =>
      simpa [memberRef_of_get hg (.inr (.inl rfl)), ConstantKind.Admits] using hrest cls nt
    case interfaceMethodRef cls nt =>
      simpa [memberRef_of_get hg (.inr (.inr rfl)), ConstantKind.Admits] using hrest cls nt
    all_goals simp [memberRef, hg, ConstantKind.Admits, bind, Except.bind, throw, throwThe,
      MonadExceptOf.throw]

theorem get_error_propagates {e : FormatError} (hg : p.get i = .error e) :
    p.utf8 i = .error e ∧ p.className i = .error e ∧ p.nameAndType i = .error e ∧
      p.memberRef i = .error e := by
  simp [utf8, className, nameAndType, memberRef, hg, bind, Except.bind]

theorem utf8_of_get {s : String} (hg : p.get i = .ok (.utf8 s)) : p.utf8 i = .ok s := by
  simp only [utf8, hg]
  rfl

theorem className_of_get {n : Nat} (hg : p.get i = .ok (.classRef n)) :
    p.className i = p.utf8 n := by
  simp only [className, hg]
  rfl

theorem nameAndType_of_get {n d : Nat} (hg : p.get i = .ok (.nameAndType n d)) :
    p.nameAndType i = (do
      let name ← p.utf8 n
      let descriptor ← p.utf8 d
      pure (name, descriptor)) := by
  simp only [nameAndType, hg]
  rfl

/-- How the look-ups of a pool answer at an index: a bad index is reported as it is; a usable
constant of another kind than the look-up expects is reported at that index, and only then;
and a constant of the expected kind is looked up through the indices it holds, whose failures
are reported as they are. -/
structure Lookups (p : ConstantPool) : Prop where
  utf8_unexpected_iff : ∀ i, p.utf8 i = .error (.unexpectedConstant i .utf8) ↔
    ∃ c, p.get i = .ok c ∧ ¬ ConstantKind.utf8.Admits c
  className_unexpected_iff : ∀ i, p.className i = .error (.unexpectedConstant i .classRef) ↔
    ∃ c, p.get i = .ok c ∧ ¬ ConstantKind.classRef.Admits c
  nameAndType_unexpected_iff : ∀ i,
    p.nameAndType i = .error (.unexpectedConstant i .nameAndType) ↔
      ∃ c, p.get i = .ok c ∧ ¬ ConstantKind.nameAndType.Admits c
  memberRef_unexpected_iff : ∀ i,
    p.memberRef i = .error (.unexpectedConstant i .memberRef) ↔
      ∃ c, p.get i = .ok c ∧ ¬ ConstantKind.memberRef.Admits c
  bad_index : ∀ i e, p.get i = .error e →
    p.utf8 i = .error e ∧ p.className i = .error e ∧ p.nameAndType i = .error e ∧
      p.memberRef i = .error e
  utf8_text : ∀ i s, p.get i = .ok (.utf8 s) → p.utf8 i = .ok s
  className_class : ∀ i n, p.get i = .ok (.classRef n) → p.className i = p.utf8 n
  nameAndType_pair : ∀ i n d, p.get i = .ok (.nameAndType n d) →
    p.nameAndType i = (do
      let name ← p.utf8 n
      let descriptor ← p.utf8 d
      pure (name, descriptor))
  memberRef_ref : ∀ i c cls nt, p.get i = .ok c →
    (c = .fieldRef cls nt ∨ c = .methodRef cls nt ∨ c = .interfaceMethodRef cls nt) →
    p.memberRef i = (do
      let (name, descriptor) ← p.nameAndType nt
      let owner ← p.className cls
      pure ⟨owner, name, descriptor⟩)

theorem lookups (p : ConstantPool) : Lookups p where
  utf8_unexpected_iff _ := utf8_eq_unexpected_iff
  className_unexpected_iff _ := className_eq_unexpected_iff
  nameAndType_unexpected_iff _ := nameAndType_eq_unexpected_iff
  memberRef_unexpected_iff _ := memberRef_eq_unexpected_iff
  bad_index _ _ := get_error_propagates
  utf8_text _ _ := utf8_of_get
  className_class _ _ := className_of_get
  nameAndType_pair _ _ _ := nameAndType_of_get
  memberRef_ref _ _ _ _ := memberRef_of_get

/-! ### The slot law of a pool read -/

theorem length_flatMap_bytes {es : List Entry} (hes : ∀ e ∈ es, e.Valid) :
    (es.flatMap Entry.bytes).length =
      (es.map fun e => 1 + payloadSize e.tag.toNat (bigEndian (e.payload.take 2))).sum := by
  induction es with
  | nil => rfl
  | cons e es ih =>
    have he := (hes e List.mem_cons_self).size
    rw [List.flatMap_cons, List.length_append, ih fun e' h' => hes e' (List.mem_cons_of_mem e h')]
    simp [Entry.bytes, he, Nat.add_comm]

/-- What a pool read from bytes is: the bytes hold a two-byte count and then one entry per
constant, a tag and its payload; the pool has the count's number of slots, one at least; it
holds the slots the entries fill after slot zero, cut to that number; a constant is found at an
index exactly when the index is past slot zero, inside the pool and not just after a long or a
double, and a bad index is reported as such; and the look-ups answer by the kinds they expect. -/
structure PoolRead (bytes : List UInt8) (pos : Nat) (p : ConstantPool) (after : Cursor) :
    Prop where
  size_eq : p.size = max (bigEndian (bytes.take 2)) 1
  entries : ∃ es : List Entry, (∀ e ∈ es, e.Valid) ∧
    bytes = bytes.take 2 ++ es.flatMap Entry.bytes ++ after.rest ∧
    after.pos =
      pos + 2 + (es.map fun e => 1 + payloadSize e.tag.toNat (bigEndian (e.payload.take 2))).sum ∧
    p.slots.toList = (none :: es.flatMap Entry.slots).take (max (bigEndian (bytes.take 2)) 1)
  get_isOk_iff : ∀ i, (∃ c, p.get i = .ok c) ↔ 0 < i ∧ i < p.size ∧ ¬ IsWide p.slots[i - 1]?
  get_error : ∀ i e, p.get i = .error e → e = .badConstantIndex i
  lookups : Lookups p

/-- The slot law of the constant pool: whatever bytes a pool is read from, the read takes the
count and one tag and payload per constant, the pool has `max count 1` slots, and its look-ups
behave as `PoolRead` says. -/
theorem read_poolRead {bytes : List UInt8} {pos : Nat} {p : ConstantPool} {after : Cursor}
    (h : read ⟨bytes, pos⟩ = .ok (p, after)) : PoolRead bytes pos p after := by
  obtain ⟨pre, hbytes, hpos, hd, es, hhd, hes, rfl, hslots, hsize⟩ :=
    spends_read ⟨bytes, pos⟩ p after h
  dsimp only at hbytes hpos
  have htake : bytes.take 2 = hd := by
    rw [hbytes, List.append_assoc, List.take_left' hhd]
  refine ⟨htake ▸ hsize, ⟨es, hes, htake ▸ hbytes, ?_, htake ▸ hslots⟩,
    get_isOk_iff (slotsLaid_entries hes) hslots, fun _ _ => get_error, lookups p⟩
  rw [hpos, List.length_append, hhd, length_flatMap_bytes hes, Nat.add_assoc]

/-- A pool of two slots whose only constant is a long: the long's unusable second slot falls past
the count and is cut, while the read takes all eight bytes of the long. -/
theorem read_poolRead_trailingLong :
    let bytes : List UInt8 := [0, 2, 5, 0, 0, 0, 0, 0, 0, 0, 1]
    let p : ConstantPool := ⟨#[none, some .long]⟩
    read ⟨bytes, 0⟩ = .ok (p, ⟨[], 11⟩) ∧ PoolRead bytes 0 p ⟨[], 11⟩ := by
  intro bytes p
  have h : read ⟨bytes, 0⟩ = .ok (p, ⟨[], 11⟩) := by cbv
  exact ⟨h, read_poolRead h⟩

end ConstantPool

end ClassMetrics.ClassFile
