import ClassMetrics.ClassFile.ConstantPool

/-!
Modified UTF-8 reads back what it writes. Each UTF-16 unit is written as one, two or three
bytes whose lead byte tells their number, and the bits of the unit are split between them
without loss; a character outside the basic plane is written as a surrogate pair that reading
joins again. So decoding the encoding of any text gives the text.
-/

namespace ClassMetrics.ModifiedUtf8

/-! ### The bit fields of the lead and continuation bytes -/

theorem lead1_facts : ∀ u, u < 0x80 → u &&& 0x80 = 0 := by decide

theorem lead2_facts : ∀ q, q < 0x20 →
    (0xC0 ||| q) &&& 0x80 ≠ 0 ∧ (0xC0 ||| q) &&& 0xE0 = 0xC0 ∧ (0xC0 ||| q) &&& 0x1F = q ∧
      0xC0 ||| q < 0x100 := by decide

theorem lead3_facts : ∀ q, q < 0x10 →
    (0xE0 ||| q) &&& 0x80 ≠ 0 ∧ (0xE0 ||| q) &&& 0xE0 ≠ 0xC0 ∧ (0xE0 ||| q) &&& 0xF0 = 0xE0 ∧
      (0xE0 ||| q) &&& 0x0F = q ∧ 0xE0 ||| q < 0x100 := by decide

theorem continuation_facts : ∀ r, r < 0x40 → (0x80 ||| r) &&& 0x3F = r ∧ 0x80 ||| r < 0x100 := by
  decide

theorem toNat_toUInt8_of_lt {n : Nat} (h : n < 0x100) : n.toUInt8.toNat = n := by
  simp [Nat.mod_eq_of_lt h]

theorem and_0x3F (x : Nat) : x &&& 0x3F = x % 64 :=
  Nat.and_two_pow_sub_one_eq_mod x 6

theorem shiftLeft_or_eq_add {b : Nat} (i : Nat) (hb : b < 2 ^ i) (a : Nat) :
    a <<< i ||| b = a * 2 ^ i + b := by
  rw [← Nat.shiftLeft_add_eq_or_of_lt hb, Nat.shiftLeft_eq]

theorem or_eq_add_of_dvd {x c : Nat} (i : Nat) (hx : 2 ^ i ∣ x) (hc : c < 2 ^ i) :
    x ||| c = x + c := by
  obtain ⟨a, rfl⟩ := hx
  rw [Nat.mul_comm, ← Nat.shiftLeft_eq, ← Nat.shiftLeft_add_eq_or_of_lt hc]

/-- One unit written and read back. -/
theorem units_encodeUnit {u : Nat} (hu : u < 0x10000) (rest : List UInt8) :
    units (encodeUnit u ++ rest) = (units rest).map (u :: ·) := by
  have h6 : u >>> 6 = u / 64 := Nat.shiftRight_eq_div_pow u 6
  have h12 : u >>> 12 = u / 4096 := Nat.shiftRight_eq_div_pow u 12
  unfold encodeUnit
  split
  · -- one byte, below 0x80
    next h₁ =>
    show units (u.toUInt8 :: rest) = _
    rw [units.eq_def]
    dsimp only
    rw [toNat_toUInt8_of_lt (by omega), if_pos (lead1_facts u (by omega))]
  · split
    · -- two bytes: five bits in the lead byte, six in the other
      next h₁ h₂ =>
      obtain ⟨l₁, l₂, l₃, l₄⟩ := lead2_facts (u >>> 6) (by omega)
      obtain ⟨c₁, c₂⟩ := continuation_facts (u &&& 0x3F) (by rw [and_0x3F]; omega)
      show units ((0xC0 ||| u >>> 6).toUInt8 :: (0x80 ||| u &&& 0x3F).toUInt8 :: rest) = _
      rw [units, toNat_toUInt8_of_lt l₄, toNat_toUInt8_of_lt c₂, if_neg l₁, if_pos l₂, l₃, c₁,
        shiftLeft_or_eq_add 6 (by rw [and_0x3F]; omega), and_0x3F, h6,
        show (2 : Nat) ^ 6 = 64 from rfl, show u / 64 * 64 + u % 64 = u by omega]
    · -- three bytes: four bits in the lead byte, six in each of the others
      next h₁ h₂ =>
      obtain ⟨l₁, l₂, l₃, l₄, l₅⟩ := lead3_facts (u >>> 12) (by omega)
      obtain ⟨c₁, c₂⟩ := continuation_facts ((u >>> 6) &&& 0x3F) (by rw [and_0x3F]; omega)
      obtain ⟨d₁, d₂⟩ := continuation_facts (u &&& 0x3F) (by rw [and_0x3F]; omega)
      show units ((0xE0 ||| u >>> 12).toUInt8 :: (0x80 ||| (u >>> 6) &&& 0x3F).toUInt8 ::
        (0x80 ||| u &&& 0x3F).toUInt8 :: rest) = _
      rw [units, toNat_toUInt8_of_lt l₅, if_neg l₁, if_neg l₂, if_pos l₃]
      dsimp only
      rw [toNat_toUInt8_of_lt c₂, toNat_toUInt8_of_lt d₂, l₄, c₁, d₁,
        shiftLeft_or_eq_add 12 (by rw [and_0x3F, Nat.shiftLeft_eq]; omega),
        or_eq_add_of_dvd 6 ?_ (by rw [and_0x3F]; omega)]
      · rw [and_0x3F, and_0x3F, h6, h12, Nat.shiftLeft_eq, show (2 : Nat) ^ 6 = 64 from rfl,
          show (2 : Nat) ^ 12 = 4096 from rfl,
          show u / 4096 * 4096 + u / 64 % 64 * 64 + u % 64 = u by omega]
      · rw [and_0x3F, Nat.shiftLeft_eq, show (2 : Nat) ^ 6 = 64 from rfl,
          show (2 : Nat) ^ 12 = 4096 from rfl]
        exact Nat.dvd_of_mod_eq_zero (by omega)

theorem units_flatMap_encodeUnit (us : List Nat) (hus : ∀ u ∈ us, u < 0x10000) :
    units (us.flatMap encodeUnit) = some us := by
  induction us with
  | nil => rfl
  | cons u us ih =>
    rw [List.flatMap_cons, units_encodeUnit (hus u List.mem_cons_self),
      ih fun v hv => hus v (List.mem_cons_of_mem u hv)]
    rfl

theorem charUnits_lt (c : Char) : ∀ u ∈ charUnits c, u < 0x10000 := by
  have hv : c.toNat < 0xD800 ∨ (0xDFFF < c.toNat ∧ c.toNat < 0x110000) := c.valid
  unfold charUnits
  split
  · simpa using ‹c.toNat < 0x10000›
  · intro u hu
    simp only [List.mem_cons, List.not_mem_nil, or_false] at hu
    omega

/-- The units of a text join back into its characters: a character of the basic plane is no
surrogate, and a pair holds the ten high and ten low bits of what lies above it. -/
theorem joinUnits_flatMap_charUnits (cs : List Char) : joinUnits (cs.flatMap charUnits) = some cs := by
  induction cs with
  | nil => rfl
  | cons c cs ih =>
    have hv : c.toNat < 0xD800 ∨ (0xDFFF < c.toNat ∧ c.toNat < 0x110000) := c.valid
    rw [List.flatMap_cons, charUnits]
    split
    · next hc =>
      rw [List.singleton_append, joinUnits.eq_def]
      dsimp only
      rw [if_neg (by simp [isHighSurrogate]; omega), if_neg (by simp [isLowSurrogate]; omega), ih,
        Option.map_some, Char.ofNat_toNat]
    · next hc =>
      rw [List.cons_append, List.singleton_append, joinUnits.eq_def]
      dsimp only
      have hval : 0x10000 + (0xD800 + (c.toNat - 0x10000) / 0x400 - 0xD800) * 0x400 +
          (0xDC00 + (c.toNat - 0x10000) % 0x400 - 0xDC00) = c.toNat := by omega
      rw [if_pos (by simp [isHighSurrogate]; omega), if_pos (by simp [isLowSurrogate]; omega), ih,
        Option.map_some, hval, Char.ofNat_toNat]

theorem decode_encode (s : String) : decode (encode s) = some s := by
  unfold decode encode
  rw [units_flatMap_encodeUnit _ fun u hu => ?_, Option.bind_some,
    joinUnits_flatMap_charUnits, Option.map_some, String.ofList_toList]
  obtain ⟨c, -, hc⟩ := List.mem_flatMap.mp hu
  exact charUnits_lt c u hc

/-- Reading the modified UTF-8 of any text, the character zero and characters outside the basic
plane included, gives the text back, never a refusal. -/
theorem decodeText_encode (s : String) : ClassFile.decodeText (encode s) = .ok s := by
  rw [ClassFile.decodeText, decode_encode]

example : encode "😀" = [0xED, 0xA0, 0xBD, 0xED, 0xB8, 0x80] ∧
    ClassFile.decodeText [0x61, 0xC0, 0x80, 0x62] = .ok "a\x00b" :=
  ⟨by decide, rfl⟩

end ClassMetrics.ModifiedUtf8
