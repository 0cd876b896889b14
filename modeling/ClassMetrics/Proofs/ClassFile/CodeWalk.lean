import ClassMetrics.Proofs.ClassFile.Truncation

/-!
The instruction walker reads a code array one instruction at a time. Each instruction is read
from the front of what is left and looks at nothing after it, so the instructions of a code
array read the same with anything after it. And an instruction read a multiple of four bytes
further on reads the same, its switch padding counted from the start of the array unchanged, with
every offset it reports moved as far. So decoding two code arrays joined where the first ends, at
a multiple of four bytes, gives the instructions of both, or the second's failure with its
truncation or unknown-opcode offset moved by the first's length.
-/

namespace ClassMetrics.ClassFile

variable {α β : Type}

/-- The cause with its offset moved `n` bytes on, for a truncation or an unknown opcode; every
other cause is kept. -/
def FormatError.shift (n : Nat) : FormatError → FormatError
  | .truncated o => .truncated (o + n)
  | .badOpcode op o => .badOpcode op (o + n)
  | e => e

/-- A cause that a look-up in the constant pool reports: it names an index, not an offset. -/
def FormatError.IsLookup : FormatError → Prop
  | .badConstantIndex _ => True
  | .unexpectedConstant _ _ => True
  | _ => False

theorem FormatError.shift_of_isLookup {e : FormatError} (h : e.IsLookup) (n : Nat) :
    e.shift n = e := by
  cases e with
  | badConstantIndex => rfl
  | unexpectedConstant => rfl
  | _ => exact (h : False).elim

/-- Every failure of `r` is a look-up's. -/
def LookupErrors (r : Except FormatError α) : Prop := ∀ e, r = .error e → e.IsLookup

namespace LookupErrors

theorem pure (a : α) : LookupErrors (Except.ok a : Except FormatError α) := fun _ h => by cases h

theorem bind {r : Except FormatError α} {k : α → Except FormatError β} (hr : LookupErrors r)
    (hk : ∀ a, LookupErrors (k a)) : LookupErrors (r >>= k) := by
  intro e h
  cases hr' : r with
  | error e' =>
    rw [hr'] at h
    cases h
    exact hr _ hr'
  | ok a =>
    rw [hr'] at h
    exact hk a e h

theorem map {r : Except FormatError α} (f : α → β) (hr : LookupErrors r) :
    LookupErrors (f <$> r) := by
  intro e h
  cases hr' : r with
  | error e' =>
    rw [hr'] at h
    cases h
    exact hr _ hr'
  | ok a => rw [hr'] at h; cases h

theorem unexpected (i : Nat) (k : ConstantKind) :
    LookupErrors (throw (.unexpectedConstant i k) : Except FormatError α) := by
  intro e h
  cases h
  trivial

end LookupErrors

namespace ConstantPool

open LookupErrors

variable (p : ConstantPool) (i : Nat)

theorem lookupErrors_get : LookupErrors (p.get i) := by
  intro e h
  unfold get at h
  split at h
  · cases h
  · cases h
    trivial

theorem lookupErrors_utf8 : LookupErrors (p.utf8 i) := by
  unfold utf8
  refine (lookupErrors_get p i).bind fun c => ?_
  cases c
  case utf8 => exact pure _
  all_goals exact unexpected _ _

theorem lookupErrors_className : LookupErrors (p.className i) := by
  unfold className
  refine (lookupErrors_get p i).bind fun c => ?_
  cases c
  case classRef n => exact lookupErrors_utf8 p n
  all_goals exact unexpected _ _

theorem lookupErrors_nameAndType : LookupErrors (p.nameAndType i) := by
  unfold nameAndType
  refine (lookupErrors_get p i).bind fun c => ?_
  cases c
  case nameAndType n d =>
    exact (lookupErrors_utf8 p n).bind fun _ => (lookupErrors_utf8 p d).bind fun _ => pure _
  all_goals exact unexpected _ _

theorem lookupErrors_memberRef : LookupErrors (p.memberRef i) := by
  unfold memberRef
  refine (lookupErrors_get p i).bind fun c => ?_
  dsimp only
  -- each kind of member constant goes on to the look-ups of its name, type and class
  split
  all_goals refine LookupErrors.bind ?_ fun x => (lookupErrors_nameAndType p x.2).bind fun _ =>
    (lookupErrors_className p x.1).bind fun _ => pure _
  · exact pure _
  · exact pure _
  · exact pure _
  · exact unexpected _ _

theorem lookupErrors_loadableClass : LookupErrors (p.loadableClass i) := by
  unfold loadableClass
  refine (lookupErrors_get p i).bind fun c => ?_
  cases c
  case classRef n => exact (lookupErrors_utf8 p n).map _
  all_goals exact pure _

end ConstantPool

namespace Decoder

/-- An outcome of a read with its cursor and any offset it reports moved `n` bytes on. -/
def shiftOutcome (n : Nat) : Except FormatError (α × Cursor) → Except FormatError (α × Cursor)
  | .ok (a, c) => .ok (a, ⟨c.rest, c.pos + n⟩)
  | .error e => .error (e.shift n)

/-- `d'` reads what `d` reads, `n` bytes further on: at offset `pos + n` it has the outcome `d`
has at `pos`, moved `n` bytes on. -/
def Relocates (n : Nat) (d d' : Decoder α) : Prop :=
  ∀ rest pos, d' ⟨rest, pos + n⟩ = shiftOutcome n (d ⟨rest, pos⟩)

namespace Relocates

variable {n : Nat}

theorem pure (a : α) : Relocates n (Pure.pure a : Decoder α) (Pure.pure a) := fun _ _ => rfl

theorem bind {d d' : Decoder α} {k k' : α → Decoder β} (hd : Relocates n d d')
    (hk : ∀ a, Relocates n (k a) (k' a)) : Relocates n (d >>= k) (d' >>= k') := by
  intro rest pos
  rw [bind_apply, bind_apply, hd]
  cases d ⟨rest, pos⟩ with
  | error e => rfl
  | ok r =>
    obtain ⟨a, ⟨rest', pos'⟩⟩ := r
    exact hk a rest' pos'

theorem map {d : Decoder α} (f : α → β) (hd : Relocates n d d) :
    Relocates n (fun c => (d c).map fun (a, c') => (f a, c'))
      (fun c => (d c).map fun (a, c') => (f a, c')) := by
  intro rest pos
  dsimp only
  rw [hd]
  cases d ⟨rest, pos⟩ with
  | error e => rfl
  | ok r => rfl

theorem take (k : Nat) : Relocates n (Decoder.take k) (Decoder.take k) := by
  intro rest pos
  unfold Decoder.take
  dsimp only
  split
  · simp only [shiftOutcome, Nat.add_right_comm]
  · rfl

theorem u1 : Relocates n Decoder.u1 Decoder.u1 := by
  intro rest pos
  cases rest with
  | nil => rfl
  | cons b r => simp only [Decoder.u1, shiftOutcome, Nat.add_right_comm]

theorem u2 : Relocates n Decoder.u2 Decoder.u2 := (take 2).map bigEndian

theorem u4 : Relocates n Decoder.u4 Decoder.u4 := (take 4).map bigEndian

theorem i4 : Relocates n Decoder.i4 Decoder.i4 := by
  intro rest pos
  unfold Decoder.i4
  rw [u4 rest pos]
  cases Decoder.u4 ⟨rest, pos⟩ with
  | error e => rfl
  | ok r => rfl

theorem skip (k : Nat) : Relocates n (Decoder.skip k) (Decoder.skip k) := (take k).map fun _ => ()

theorem atEnd : Relocates n Decoder.atEnd Decoder.atEnd := fun _ _ => rfl

theorem lift {r : Except FormatError α} (hr : LookupErrors r) :
    Relocates n (Decoder.lift r) (Decoder.lift r) := by
  intro rest pos
  cases hr' : r with
  | error e =>
    simp only [Decoder.lift, Except.map, shiftOutcome]
    rw [FormatError.shift_of_isLookup (hr e hr')]
  | ok a => rfl

theorem ite {p : Prop} [Decidable p] {d₁ d₂ d₁' d₂' : Decoder α} (h₁ : Relocates n d₁ d₁')
    (h₂ : Relocates n d₂ d₂') : Relocates n (if p then d₁ else d₂) (if p then d₁' else d₂') := by
  split
  · exact h₁
  · exact h₂

theorem lift_error (e : FormatError) :
    Relocates n (Decoder.lift (.error e) : Decoder α) (Decoder.lift (.error (e.shift n))) :=
  fun _ _ => rfl

end Relocates

end Decoder

namespace Instruction

open Decoder

theorem padding_add_of_dvd {pc n : Nat} (h : 4 ∣ n) : padding (pc + n) = padding pc := by
  obtain ⟨m, rfl⟩ := h
  unfold padding
  rw [show pc + 4 * m + 1 = pc + 1 + 4 * m by omega, Nat.add_mul_mod_self_left]

theorem classOperand_lookupErrors (pool : ConstantPool) (i : Nat) :
    LookupErrors (classOperand pool i) :=
  (pool.lookupErrors_className i).map _

theorem classLiteral_lookupErrors (pool : ConstantPool) (i : Nat) :
    LookupErrors (classLiteral pool i) :=
  (pool.lookupErrors_loadableClass i).map _

open Relocates in
/-- The operands of an opcode read a multiple of four bytes on read alike. -/
theorem operands_relocates (pool : ConstantPool) {n : Nat} (h : 4 ∣ n) (pc op : Nat) :
    Relocates n (operands pool pc op) (operands pool (pc + n) op) := by
  unfold operands
  rw [padding_add_of_dvd h]
  -- one goal per branch of the opcode chain; the name is qualified, as an overloaded one would
  -- be tried both ways at every level
  refine Relocates.ite ?_ <| Relocates.ite ?_ <| Relocates.ite ?_ <| Relocates.ite ?_ <|
    Relocates.ite ?_ <| Relocates.ite ?_ <| Relocates.ite ?_ <| Relocates.ite ?_ <|
    Relocates.ite ?_ <| Relocates.ite ?_ <| Relocates.ite ?_ ?_
  · exact u2.bind fun _ => (lift (pool.lookupErrors_memberRef _)).bind fun _ => pure _
  · exact u2.bind fun _ => (lift (pool.lookupErrors_memberRef _)).bind fun _ => pure _
  · exact u2.bind fun _ => (lift (pool.lookupErrors_memberRef _)).bind fun _ =>
      (Relocates.skip 2).bind fun _ => pure _
  · exact (Relocates.skip 4).bind fun _ => pure _
  · exact u2.bind fun _ => lift (classOperand_lookupErrors _ _)
  · exact u2.bind fun _ => (Relocates.skip 1).bind fun _ => lift (classOperand_lookupErrors _ _)
  · exact u1.bind fun _ => lift (classLiteral_lookupErrors _ _)
  · exact u2.bind fun _ => lift (classLiteral_lookupErrors _ _)
  · exact (Relocates.skip _).bind fun _ => (Relocates.skip 4).bind fun _ => i4.bind fun _ => i4.bind fun _ =>
      (Relocates.skip _).bind fun _ => pure _
  · exact (Relocates.skip _).bind fun _ => (Relocates.skip 4).bind fun _ => i4.bind fun _ =>
      (Relocates.skip _).bind fun _ => pure _
  · exact u1.bind fun _ => (Relocates.skip _).bind fun _ => pure _
  · -- the opcodes of fixed length, and the unknown ones, reported where they stand
    split
    · exact (Relocates.skip _).bind fun _ => pure _
    · exact lift_error _

theorem read_eq_bind (pool : ConstantPool) (rest : List UInt8) (pos : Nat) :
    read pool ⟨rest, pos⟩ =
      (Decoder.u1 >>= fun op => operands pool pos op >>= fun ref => Pure.pure ⟨op, ref⟩) ⟨rest, pos⟩ := by
  unfold read
  rw [bind_apply]
  rfl

theorem read_relocates (pool : ConstantPool) {n : Nat} (h : 4 ∣ n) :
    Relocates n (read pool) (read pool) := by
  intro rest pos
  rw [read_eq_bind, read_eq_bind]
  exact (Relocates.u1.bind fun op => (operands_relocates pool h pos op).bind fun _ =>
    Relocates.pure _) rest pos

theorem readsFront_i4 : ReadsFront Decoder.i4 := by
  have h := ReadsFront.u4.map fun v : Nat => if v < 2 ^ 31 then (v : Int) else (v : Int) - 2 ^ 32
  exact h

/-- The operands of an opcode are read from the front of what is left. -/
theorem readsFront_operands (pool : ConstantPool) (pc op : Nat) :
    ReadsFront (operands pool pc op) := by
  unfold operands
  refine .ite ?_ <| .ite ?_ <| .ite ?_ <| .ite ?_ <| .ite ?_ <| .ite ?_ <| .ite ?_ <| .ite ?_ <|
    .ite ?_ <| .ite ?_ <| .ite ?_ ?_
  · exact ReadsFront.u2.bind fun _ => (ReadsFront.lift _).bind fun _ => ReadsFront.pure _
  · exact ReadsFront.u2.bind fun _ => (ReadsFront.lift _).bind fun _ => ReadsFront.pure _
  · exact ReadsFront.u2.bind fun _ => (ReadsFront.lift _).bind fun _ =>
      (ReadsFront.skip 2).bind fun _ => ReadsFront.pure _
  · exact (ReadsFront.skip 4).bind fun _ => ReadsFront.pure _
  · exact ReadsFront.u2.bind fun _ => ReadsFront.lift _
  · exact ReadsFront.u2.bind fun _ => (ReadsFront.skip 1).bind fun _ => ReadsFront.lift _
  · exact ReadsFront.u1.bind fun _ => ReadsFront.lift _
  · exact ReadsFront.u2.bind fun _ => ReadsFront.lift _
  · exact (ReadsFront.skip _).bind fun _ => (ReadsFront.skip 4).bind fun _ =>
      readsFront_i4.bind fun _ => readsFront_i4.bind fun _ =>
      (ReadsFront.skip _).bind fun _ => ReadsFront.pure _
  · exact (ReadsFront.skip _).bind fun _ => (ReadsFront.skip 4).bind fun _ =>
      readsFront_i4.bind fun _ => (ReadsFront.skip _).bind fun _ => ReadsFront.pure _
  · exact ReadsFront.u1.bind fun _ => (ReadsFront.skip _).bind fun _ => ReadsFront.pure _
  · split
    · exact (ReadsFront.skip _).bind fun _ => ReadsFront.pure _
    · exact ReadsFront.lift _

theorem readsFront_read (pool : ConstantPool) : ReadsFront (read pool) :=
  ReadsFront.position.bind fun pc => ReadsFront.u1.bind fun op =>
    (readsFront_operands pool pc op).bind fun _ => ReadsFront.pure _

theorem readAll_nil (pool : ConstantPool) (fuel pos : Nat) :
    readAll pool fuel ⟨[], pos⟩ = .ok ([], ⟨[], pos⟩) := by
  cases fuel <;> rfl

theorem readAll_cons (pool : ConstantPool) (fuel : Nat) (b : UInt8) (r : List UInt8) (pos : Nat) :
    readAll pool (fuel + 1) ⟨b :: r, pos⟩ = match read pool ⟨b :: r, pos⟩ with
      | .ok (i, c) => (readAll pool fuel c).map fun (is, c') => (i :: is, c')
      | .error e => .error e := by
  simp only [readAll]
  rw [bind_apply, show atEnd ⟨b :: r, pos⟩ = .ok (false, ⟨b :: r, pos⟩) from rfl]
  dsimp only
  rw [if_neg Bool.false_ne_true, bind_apply]
  cases read pool ⟨b :: r, pos⟩ with
  | error e => rfl
  | ok x =>
    obtain ⟨i, c⟩ := x
    dsimp only
    rw [bind_apply]
    cases readAll pool fuel c <;> rfl

theorem read_shortens (pool : ConstantPool) {rest : List UInt8} {pos : Nat} {i : Instruction}
    {c : Cursor} (h : read pool ⟨rest, pos⟩ = .ok (i, c)) : c.rest.length < rest.length := by
  rw [read_eq_bind, bind_apply] at h
  cases rest with
  | nil => cases h
  | cons b r =>
    change (operands pool pos b.toNat >>= fun ref => Pure.pure ⟨b.toNat, ref⟩) ⟨r, pos + 1⟩ =
      .ok (i, c) at h
    obtain ⟨pre, hpre, -⟩ :=
      ((readsFront_operands pool pos b.toNat).bind fun _ => ReadsFront.pure _).consumes r _ i c h
    rw [List.length_cons, hpre, List.length_append]
    omega

/-- With fuel for every byte left, the walk reads the same whatever its fuel; the induction is on
the fuel, each instruction taking a byte or more. -/
theorem readAll_fuel (pool : ConstantPool) : ∀ f f' (c : Cursor), c.rest.length ≤ f →
    c.rest.length ≤ f' → readAll pool f c = readAll pool f' c := by
  intro f
  induction f with
  | zero =>
    intro f' c hf _
    obtain ⟨rest, pos⟩ := c
    obtain rfl : rest = [] := List.eq_nil_of_length_eq_zero (by simpa using hf)
    rw [readAll_nil, readAll_nil]
  | succ k ih =>
    intro f' c hf hf'
    obtain ⟨rest, pos⟩ := c
    cases rest with
    | nil => rw [readAll_nil, readAll_nil]
    | cons b r =>
      obtain ⟨k', rfl⟩ : ∃ k', f' = k' + 1 := ⟨f' - 1, by simp at hf'; omega⟩
      rw [readAll_cons, readAll_cons]
      cases hr : read pool ⟨b :: r, pos⟩ with
      | error e => rfl
      | ok x =>
        obtain ⟨i, c⟩ := x
        have hlt := read_shortens pool hr
        simp only [List.length_cons] at hf hf' hlt
        dsimp only
        rw [ih k' c (by omega) (by omega)]

theorem readAll_relocates (pool : ConstantPool) {n : Nat} (h : 4 ∣ n) :
    ∀ fuel, Relocates n (readAll pool fuel) (readAll pool fuel)
  | 0 => Relocates.pure []
  | fuel + 1 => by
    simp only [readAll]
    exact Relocates.atEnd.bind fun _ => Relocates.ite (Relocates.pure [])
      ((read_relocates pool h).bind fun _ => (readAll_relocates pool h fuel).bind fun _ =>
        Relocates.pure _)

/-- A code array that the walk reads whole reads the same with more bytes after it, which are
then read from where it ends; the induction is on the fuel, one instruction a step. -/
theorem readAll_append (pool : ConstantPool) : ∀ f c₁ pos xs c', c₁.length ≤ f →
    readAll pool f ⟨c₁, pos⟩ = .ok (xs, c') → ∀ c₂ f₁ f₂, c₁.length + c₂.length ≤ f₁ →
    c₂.length ≤ f₂ → readAll pool f₁ ⟨c₁ ++ c₂, pos⟩ =
      (readAll pool f₂ ⟨c₂, pos + c₁.length⟩).map fun (ys, c) => (xs ++ ys, c) := by
  -- an empty array reads nothing, and what follows it reads as it does alone
  have hnil : ∀ f pos xs c', readAll pool f ⟨[], pos⟩ = .ok (xs, c') → ∀ c₂ f₁ f₂,
      c₂.length ≤ f₁ → c₂.length ≤ f₂ → readAll pool f₁ ⟨[] ++ c₂, pos⟩ =
        (readAll pool f₂ ⟨c₂, pos + ([] : List UInt8).length⟩).map fun (ys, c) => (xs ++ ys, c) := by
    intro f pos xs c' h c₂ f₁ f₂ h₁ h₂
    rw [readAll_nil] at h
    cases h
    rw [List.nil_append, List.length_nil, Nat.add_zero, readAll_fuel pool f₁ f₂ _ h₁ h₂]
    cases readAll pool f₂ ⟨c₂, pos⟩ <;> rfl
  intro f
  induction f with
  | zero =>
    intro c₁ pos xs c' hf h c₂ f₁ f₂ h₁ h₂
    cases c₁ with
    | nil => exact hnil 0 pos xs c' h c₂ f₁ f₂ (by simpa using h₁) h₂
    | cons b r => simp at hf
  | succ k ih =>
    intro c₁ pos xs c' hf h c₂ f₁ f₂ h₁ h₂
    cases c₁ with
    | nil => exact hnil _ pos xs c' h c₂ f₁ f₂ (by simpa using h₁) h₂
    | cons b r =>
      rw [readAll_cons] at h
      cases hr : read pool ⟨b :: r, pos⟩ with
      | error e => rw [hr] at h; cases h
      | ok x =>
        obtain ⟨i, ⟨rest₁, pos₁⟩⟩ := x
        rw [hr] at h
        have hlt := read_shortens pool hr
        dsimp only at h hlt
        -- the rest of the first array, read from where the instruction ends
        cases hrest : readAll pool k ⟨rest₁, pos₁⟩ with
        | error e => rw [hrest] at h; cases h
        | ok y =>
          obtain ⟨xs', c''⟩ := y
          rw [hrest] at h
          simp only [Except.map, Except.ok.injEq, Prod.mk.injEq] at h
          obtain ⟨rfl, rfl⟩ := h
          obtain ⟨pre, hpre, hpos⟩ := (readsFront_read pool).consumes _ _ _ _ hr
          dsimp only at hpre hpos
          subst hpos
          -- the instruction reads the same with the second array after the first
          have hread : read pool ⟨pre ++ (rest₁ ++ c₂), pos⟩ =
              .ok (i, ⟨rest₁ ++ c₂, pos + pre.length⟩) :=
            (readsFront_read pool).extend pre rest₁ (rest₁ ++ c₂) pos i (hpre ▸ hr)
          obtain ⟨m, rfl⟩ : ∃ m, f₁ = m + 1 := ⟨f₁ - 1, by simp at h₁; omega⟩
          have hsplit : b :: (r ++ c₂) = pre ++ (rest₁ ++ c₂) := by
            rw [← List.cons_append, hpre, List.append_assoc]
          have hlen : pos + pre.length + rest₁.length = pos + (b :: r).length := by
            rw [hpre, List.length_append]
            omega
          simp only [List.length_cons] at hf h₁ hlt
          rw [List.cons_append, readAll_cons, hsplit, hread]
          dsimp only
          rw [ih rest₁ (pos + pre.length) xs' _ (by omega) hrest c₂ m f₂ (by omega) h₂, hlen]
          cases readAll pool f₂ ⟨c₂, pos + (b :: r).length⟩ <;> rfl

theorem decodeAll_eq (pool : ConstantPool) (code : List UInt8) :
    decodeAll pool code = (readAll pool code.length ⟨code, 0⟩).map Prod.fst := rfl

/-- Decoding two code arrays joined where the first ends, a multiple of four bytes in, gives the
instructions of the first followed by those of the second, or the second's failure with its
truncation or unknown-opcode offset moved by the first's length and any other failure as it
is. -/
theorem decodeAll_append {pool : ConstantPool} {c₁ c₂ : List UInt8} {xs : List Instruction}
    (h₁ : decodeAll pool c₁ = .ok xs) (h4 : 4 ∣ c₁.length) :
    (∀ ys, decodeAll pool c₂ = .ok ys → decodeAll pool (c₁ ++ c₂) = .ok (xs ++ ys)) ∧
    ∀ e, decodeAll pool c₂ = .error e → decodeAll pool (c₁ ++ c₂) = .error (e.shift c₁.length) := by
  rw [decodeAll_eq] at h₁
  obtain ⟨c', hc'⟩ : ∃ c', readAll pool c₁.length ⟨c₁, 0⟩ = .ok (xs, c') := by
    cases hr : readAll pool c₁.length ⟨c₁, 0⟩ with
    | error e => rw [hr] at h₁; cases h₁
    | ok x =>
      rw [hr] at h₁
      cases h₁
      exact ⟨x.2, rfl⟩
  -- the first array is read whole, then the second from where the first ends
  have hjoin : decodeAll pool (c₁ ++ c₂) =
      ((Decoder.shiftOutcome c₁.length (readAll pool c₂.length ⟨c₂, 0⟩)).map
        fun (ys, c) => (xs ++ ys, c)).map Prod.fst := by
    rw [decodeAll_eq, readAll_append pool c₁.length c₁ 0 xs c' (Nat.le_refl _) hc' c₂ _ c₂.length
      (by simp) (Nat.le_refl _), readAll_relocates pool h4]
  rw [decodeAll_eq]
  constructor
  · intro ys h₂
    rw [hjoin]
    cases hr : readAll pool c₂.length ⟨c₂, 0⟩ with
    | error e => rw [hr] at h₂; cases h₂
    | ok y => rw [hr] at h₂; cases h₂; rfl
  · intro e h₂
    rw [hjoin]
    cases hr : readAll pool c₂.length ⟨c₂, 0⟩ with
    | error e' => rw [hr] at h₂; cases h₂; rfl
    | ok y => rw [hr] at h₂; cases h₂

/-- Four one-byte instructions, then a `tableswitch` whose padding is counted from where it
stands in the joined array. -/
theorem decodeAll_append_tableswitch :
    let pool : ConstantPool := ⟨#[none]⟩
    let c₁ : List UInt8 := [0x2a, 0x2b, 0x57, 0x00]
    let c₂ : List UInt8 := [0xaa, 0, 0, 0, 0, 0, 0, 0, 0, 0, 0, 0, 0, 0, 0, 0, 0, 0, 0, 0, 0xb1]
    let xs : List Instruction := [⟨0x2a, none⟩, ⟨0x2b, none⟩, ⟨0x57, none⟩, ⟨0x00, none⟩]
    decodeAll pool c₁ = .ok xs ∧ 4 ∣ c₁.length ∧
    ((∀ ys, decodeAll pool c₂ = .ok ys → decodeAll pool (c₁ ++ c₂) = .ok (xs ++ ys)) ∧
      ∀ e, decodeAll pool c₂ = .error e → decodeAll pool (c₁ ++ c₂) = .error (e.shift c₁.length)) := by
  intro pool c₁ c₂ xs
  have h₁ : decodeAll pool c₁ = .ok xs := rfl
  have h4 : 4 ∣ c₁.length := ⟨1, rfl⟩
  exact ⟨h₁, h4, decodeAll_append h₁ h4⟩

end Instruction

end ClassMetrics.ClassFile
