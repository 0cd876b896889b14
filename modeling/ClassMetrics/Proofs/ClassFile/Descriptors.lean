import ClassMetrics.ClassFile.Descriptor
import Mathlib.Data.List.TakeWhile

/-!
Descriptors read back what `render` writes. A class name inside a descriptor runs to the next
semicolon, so a type can be written and read again exactly when every class it names is a
non-empty name without a semicolon; for such field and method types, parsing the rendered text
gives the type. Conversely whatever parses is such a rendering, so the descriptor texts are in
one-to-one correspondence with the spellable types, and a refusal always reports the whole text.
-/

namespace ClassMetrics.Descriptor

/-- A field type whose rendering reads back: every class it names is non-empty and holds no
semicolon. -/
def FieldType.Spellable : FieldType → Prop
  | .base _ => True
  | .object n => n ≠ "" ∧ ';' ∉ n.toList
  | .array t => t.Spellable

/-- A method type whose parameter and result types are all spellable. -/
def MethodType.Spellable (m : MethodType) : Prop :=
  (∀ t ∈ m.params, t.Spellable) ∧ ∀ t ∈ m.result, t.Spellable

theorem BaseType.ofLetter?_letter (t : BaseType) : BaseType.ofLetter? t.letter = some t := by
  cases t <;> rfl

theorem readField_render {t : FieldType} (ht : t.Spellable) (rest : List Char) :
    readField (t.render ++ rest) = some (t, rest) := by
  induction t generalizing rest with
  | base b => simp [FieldType.render, readField, BaseType.ofLetter?_letter]
  | object n =>
    obtain ⟨hne, hsemi⟩ := ht
    have hp : ∀ a ∈ n.toList, (!decide (a = ';')) = true := fun a ha => by
      simp only [Bool.not_eq_true', decide_eq_false_iff_not]
      rintro rfl
      exact hsemi ha
    -- the name runs up to its closing semicolon
    have hdrop : (n.toList ++ ';' :: rest).dropWhile (fun x => !decide (x = ';')) = ';' :: rest := by
      rw [List.dropWhile_append_of_pos hp]
      simp
    have htake : (n.toList ++ ';' :: rest).takeWhile (fun x => !decide (x = ';')) = n.toList := by
      rw [List.takeWhile_append_of_pos hp]
      simp
    simp only [FieldType.render, List.cons_append, List.append_assoc, readField,
      show BaseType.ofLetter? 'L' = none from rfl, if_true]
    simp [hdrop, htake, hne]
  | array t ih =>
    simp only [FieldType.render, List.cons_append, readField, show BaseType.ofLetter? '[' = none from rfl]
    simp [ih ht]

theorem parseField_render {t : FieldType} (ht : t.Spellable) :
    parseField (String.ofList t.render) = .ok t := by
  unfold parseField
  rw [String.toList_ofList, ← List.append_nil t.render, readField_render ht]

theorem head?_render_append (t : FieldType) (rest : List Char) :
    (t.render ++ rest).head? ≠ some ')' := by
  cases t with
  | base b => cases b <;> simp [FieldType.render, BaseType.letter]
  | object n => simp [FieldType.render]
  | array t => simp [FieldType.render]

theorem readParams_render {ps : List FieldType} (hps : ∀ t ∈ ps, t.Spellable) (rest : List Char) :
    readParams (ps.flatMap FieldType.render ++ ')' :: rest) = some (ps, rest) := by
  induction ps with
  | nil => rw [readParams]; simp
  | cons t ps ih =>
    rw [readParams, List.flatMap_cons, List.append_assoc, if_neg (head?_render_append t _)]
    split
    · next t' rest' h =>
      rw [readField_render (hps t List.mem_cons_self)] at h
      cases h
      rw [ih fun t ht => hps t (List.mem_cons_of_mem _ ht)]
      rfl
    · next h =>
      rw [readField_render (hps t List.mem_cons_self)] at h
      cases h

theorem render_ne_void (t : FieldType) : t.render ≠ ['V'] := by
  cases t with
  | base b => cases b <;> simp [FieldType.render, BaseType.letter]
  | object n => simp [FieldType.render]
  | array t => simp [FieldType.render]

theorem readMethod_render {m : MethodType} (hm : m.Spellable) : readMethod m.render = some m := by
  obtain ⟨params, result⟩ := m
  obtain ⟨hps, hres⟩ := hm
  rw [MethodType.render, readMethod.eq_1]
  dsimp only at hps hres ⊢
  rw [readParams_render hps]
  cases result with
  | none => rfl
  | some t =>
    simp only [Option.map_some, Option.getD_some]
    -- the rest after the parameters is the result's rendering, never `V`
    split
    · rename_i h
      simp only [Option.some.injEq, Prod.mk.injEq] at h
      exact absurd h.2 (render_ne_void t)
    · rename_i h
      simp only [Option.some.injEq, Prod.mk.injEq] at h
      obtain ⟨rfl, rfl⟩ := h
      rw [← List.append_nil t.render, readField_render (hres t rfl)]
    · rename_i h
      cases h

theorem parseMethod_render {m : MethodType} (hm : m.Spellable) :
    parseMethod (String.ofList m.render) = .ok m := by
  unfold parseMethod
  rw [String.toList_ofList, readMethod_render hm]

/-! ### Only renderings parse -/

theorem BaseType.letter_of_ofLetter? {c : Char} {b : BaseType}
    (h : BaseType.ofLetter? c = some b) : b.letter = c := by
  unfold BaseType.ofLetter? at h
  split at h <;> cases h <;> rfl

theorem not_of_dropWhile_eq_cons {p : Char → Bool} {l after : List Char} {x : Char}
    (h : l.dropWhile p = x :: after) : p x = false := by
  induction l with
  | nil => cases h
  | cons a l ih =>
    rw [List.dropWhile_cons] at h
    split at h
    · exact ih h
    · next ha =>
      cases h
      simpa using ha

theorem eq_takeWhile_append_of_dropWhile {cs after : List Char} {x : Char}
    (hd : cs.dropWhile (fun c => decide (c ≠ ';')) = x :: after) :
    cs = cs.takeWhile (fun c => decide (c ≠ ';')) ++ ';' :: after ∧
      ';' ∉ cs.takeWhile (fun c => decide (c ≠ ';')) := by
  have hx : x = ';' := by
    simpa using not_of_dropWhile_eq_cons hd
  constructor
  · have := List.takeWhile_append_dropWhile (p := fun c => decide (c ≠ ';')) (l := cs)
    rw [hd, hx] at this
    exact this.symm
  · intro hm
    simpa using List.mem_takeWhile_imp hm

/-- A type read from the front of a text is spellable, and the text starts with its
rendering. -/
theorem readField_sound {cs rest : List Char} {t : FieldType}
    (h : readField cs = some (t, rest)) : t.Spellable ∧ cs = t.render ++ rest := by
  induction cs generalizing t rest with
  | nil => simp [readField] at h
  | cons c cs ih =>
    simp only [readField] at h
    split at h
    · -- a primitive letter
      next b hb =>
      obtain ⟨rfl, rfl⟩ := Prod.mk.inj (Option.some.inj h).symm
      exact ⟨trivial, by simp [FieldType.render, BaseType.letter_of_ofLetter? hb]⟩
    · split at h
      · -- an object type runs to the first semicolon
        next hL =>
        split at h
        · next x after hd =>
          obtain ⟨hcs, hsemi⟩ := eq_takeWhile_append_of_dropWhile hd
          split at h
          · cases h
          · next hne =>
            obtain ⟨rfl, rfl⟩ := Prod.mk.inj (Option.some.inj h).symm
            refine ⟨⟨?_, by simpa using hsemi⟩, ?_⟩
            · simpa [String.ofList_eq_empty_iff] using hne
            · simpa [FieldType.render, hL] using hcs
        · cases h
      · split at h
        · -- an array type reads its element type
          next hL hA =>
          obtain ⟨⟨t', after⟩, h₁, h₂⟩ := Option.map_eq_some_iff.mp h
          obtain ⟨rfl, rfl⟩ := Prod.mk.inj h₂.symm
          obtain ⟨hs, hcs⟩ := ih h₁
          exact ⟨hs, by simp [FieldType.render, hA, hcs]⟩
        · cases h

/-- Parameters read up to the closing parenthesis are spellable, and the text is their
renderings, the parenthesis and what follows. -/
theorem readParams_sound {cs after : List Char} {ps : List FieldType}
    (h : readParams cs = some (ps, after)) :
    (∀ t ∈ ps, t.Spellable) ∧ cs = ps.flatMap FieldType.render ++ ')' :: after := by
  fun_induction readParams cs generalizing ps after with
  | case1 cs hc =>
    obtain ⟨rfl, rfl⟩ := Prod.mk.inj (Option.some.inj h).symm
    cases cs with
    | nil => cases hc
    | cons c cs =>
      cases hc
      simp
  | case2 cs _ t rest hr _ ih =>
    obtain ⟨⟨ts, after'⟩, h₁, h₂⟩ := Option.map_eq_some_iff.mp h
    obtain ⟨rfl, rfl⟩ := Prod.mk.inj h₂.symm
    obtain ⟨hts, hrest⟩ := ih h₁
    obtain ⟨ht, hcs⟩ := readField_sound hr
    refine ⟨?_, by rw [hcs, hrest]; simp⟩
    intro x hx
    rcases List.mem_cons.mp hx with rfl | hx
    · exact ht
    · exact hts x hx
  | case3 => cases h

/-- A method type read from a text is spellable, and the text is its rendering. -/
theorem readMethod_sound {cs : List Char} {m : MethodType} (h : readMethod cs = some m) :
    m.Spellable ∧ cs = m.render := by
  unfold readMethod at h
  split at h
  · -- after the parenthesis: parameters, then `V` or one field type
    split at h
    · next params hp =>
      cases h
      obtain ⟨hps, hrest⟩ := readParams_sound hp
      exact ⟨⟨hps, by simp⟩, by simp [MethodType.render, hrest]⟩
    · next params after _ hp =>
      split at h
      · next t ht =>
        cases h
        obtain ⟨hps, hrest⟩ := readParams_sound hp
        obtain ⟨hts, hafter⟩ := readField_sound ht
        refine ⟨⟨hps, by simpa using hts⟩, ?_⟩
        simp [MethodType.render, hrest, hafter]
      · cases h
    · cases h
  · cases h

theorem parseField_eq_ok_iff {d : String} {t : FieldType} :
    parseField d = .ok t ↔ t.Spellable ∧ d.toList = t.render := by
  constructor
  · intro h
    unfold parseField at h
    split at h
    · next t' hr =>
      cases h
      simpa using readField_sound hr
    · cases h
  · rintro ⟨ht, hd⟩
    rw [← String.ofList_toList (s := d), hd]
    exact parseField_render ht

theorem parseMethod_eq_ok_iff {d : String} {m : MethodType} :
    parseMethod d = .ok m ↔ m.Spellable ∧ d.toList = m.render := by
  constructor
  · intro h
    unfold parseMethod at h
    split at h
    · next m' hr =>
      cases h
      exact readMethod_sound hr
    · cases h
  · rintro ⟨hm, hd⟩
    rw [← String.ofList_toList (s := d), hd]
    exact parseMethod_render hm

theorem map_eq_ok_iff {ε α β : Type} {f : α → β} {x : Except ε α} {b : β} :
    x.map f = .ok b ↔ ∃ a, x = .ok a ∧ f a = b := by
  cases x with
  | error e => simp [Except.map]
  | ok a => simp [Except.map]

theorem map_eq_error_iff {ε α β : Type} {f : α → β} {x : Except ε α} {e : ε} :
    x.map f = .error e ↔ x = .error e := by
  cases x <;> simp [Except.map]

theorem head?_render (t : FieldType) : t.render.head? ≠ some '(' := by
  cases t with
  | base b => cases b <;> simp [FieldType.render, BaseType.letter]
  | object n => simp [FieldType.render]
  | array t => simp [FieldType.render]

/-- The classes a descriptor names: it is the rendering of a spellable field type, whose class
is listed if it names one, or of a spellable method type, whose parameters' classes and then
its result's are listed. -/
theorem referencedClasses_eq_ok_iff {d : String} {ns : List String} :
    referencedClasses d = .ok ns ↔
      (∃ t : FieldType, t.Spellable ∧ d.toList = t.render ∧ ns = t.className?.toList) ∨
      ∃ m : MethodType, m.Spellable ∧ d.toList = m.render ∧
        ns = (m.params ++ m.result.toList).filterMap FieldType.className? := by
  unfold referencedClasses
  split
  · -- a method descriptor opens with a parenthesis, a field type never does
    next hd =>
    rw [map_eq_ok_iff]
    constructor
    · rintro ⟨m, hm, rfl⟩
      exact .inr ⟨m, (parseMethod_eq_ok_iff.mp hm).1, (parseMethod_eq_ok_iff.mp hm).2, rfl⟩
    · rintro (⟨t, -, ht, -⟩ | ⟨m, hm, hdm, rfl⟩)
      · exact absurd (ht ▸ hd) (head?_render t)
      · exact ⟨m, parseMethod_eq_ok_iff.mpr ⟨hm, hdm⟩, rfl⟩
  · next hd =>
    rw [map_eq_ok_iff]
    constructor
    · rintro ⟨t, ht, rfl⟩
      refine .inl ⟨t, (parseField_eq_ok_iff.mp ht).1, (parseField_eq_ok_iff.mp ht).2, ?_⟩
      cases hc : t.className? <;> simp [hc]
    · rintro (⟨t, ht, hdt, rfl⟩ | ⟨m, -, hdm, -⟩)
      · refine ⟨t, parseField_eq_ok_iff.mpr ⟨ht, hdt⟩, ?_⟩
        cases hc : t.className? <;> simp [hc]
      · exact absurd (by simp [hdm, MethodType.render]) hd

theorem parseField_error {d : String} {e : ClassFile.FormatError} (h : parseField d = .error e) :
    e = .badDescriptor d := by
  unfold parseField at h
  split at h <;> cases h
  rfl

theorem parseMethod_error {d : String} {e : ClassFile.FormatError} (h : parseMethod d = .error e) :
    e = .badDescriptor d := by
  unfold parseMethod at h
  split at h <;> cases h
  rfl

theorem referencedClasses_error {d : String} {e : ClassFile.FormatError}
    (h : referencedClasses d = .error e) : e = .badDescriptor d := by
  unfold referencedClasses at h
  split at h
  · exact parseMethod_error (map_eq_error_iff.mp h)
  · exact parseField_error (map_eq_error_iff.mp h)

/-- Descriptors are read exactly by their grammar. A text parses as a field type, or as a
method type, exactly when it is that type's rendering and the type is spellable; the classes a
descriptor names are those of its parameters and then of its result, looking through arrays;
and every refusal is a bad descriptor that carries the whole text. -/
theorem parse_iff_rendering (d : String) :
    (∀ t, parseField d = .ok t ↔ t.Spellable ∧ d.toList = t.render) ∧
    (∀ m, parseMethod d = .ok m ↔ m.Spellable ∧ d.toList = m.render) ∧
    (∀ ns, referencedClasses d = .ok ns ↔
      (∃ t : FieldType, t.Spellable ∧ d.toList = t.render ∧ ns = t.className?.toList) ∨
      ∃ m : MethodType, m.Spellable ∧ d.toList = m.render ∧
        ns = (m.params ++ m.result.toList).filterMap FieldType.className?) ∧
    ∀ e, parseField d = .error e ∨ parseMethod d = .error e ∨
      referencedClasses d = .error e → e = .badDescriptor d := by
  refine ⟨fun _ => parseField_eq_ok_iff, fun _ => parseMethod_eq_ok_iff,
    fun _ => referencedClasses_eq_ok_iff, ?_⟩
  rintro e (h | h | h)
  · exact parseField_error h
  · exact parseMethod_error h
  · exact referencedClasses_error h

end ClassMetrics.Descriptor
