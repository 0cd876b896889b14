import ClassMetrics.Proofs.ClassFile.Descriptors
import ClassMetrics.ClassFile.Signature
import Mathlib.Data.List.Basic

/-!
Descriptors read as generic signatures. The signature scanner shares no code with the descriptor
reader: it walks the signature grammar and stops a class name at `<`, `.` or `;`. A descriptor is
a signature without type parameters, type arguments, type variables or thrown types, so as long
as its class names hold no `<` and no `.`, the scanner reads each field type of it back, names the
same classes in the same order, and ends where the descriptor ends. The one descriptor it refuses
is a lone primitive letter, which is no reference type.

Each scanning step returns its rest together with a proof that it is shorter; the lemmas state
the rest and leave the proof to an existential, and they take the scanned text as a variable
with an equation, so that no rewrite has to move that proof.
-/

namespace ClassMetrics.Signature

open Descriptor

theorem identifier_append {stops name : List Char} {s : Char} (rest : List Char) (hne : name ≠ [])
    (hname : ∀ c ∈ name, c ∉ stops) (hs : s ∈ stops) :
    ∃ h, identifier stops (name ++ s :: rest) =
      some (String.ofList name, ⟨s :: rest, h⟩) := by
  have hkeep : ∀ c ∈ name, (!stops.contains c) = true := fun c hc => by
    simpa using hname c hc
  have htake : (name ++ s :: rest).takeWhile (fun c => !stops.contains c) = name := by
    rw [List.takeWhile_append_of_pos hkeep, List.takeWhile_cons_of_neg (by simpa using hs),
      List.append_nil]
  have hdrop : (name ++ s :: rest).dropWhile (fun c => !stops.contains c) = s :: rest := by
    rw [List.dropWhile_append_of_pos hkeep, List.dropWhile_cons_of_neg (by simpa using hs)]
  unfold identifier
  rw [dif_pos ⟨by rw [htake]; exact hne, by rw [hdrop]; exact List.cons_ne_nil _ _⟩]
  have hlt : (s :: rest).length < (name ++ s :: rest).length := by
    simpa using List.length_pos_iff.mpr hne
  exact ⟨hlt, by simp only [htake, hdrop]⟩

theorem classTail_semicolon (name : String) (rest : List Char) :
    ∃ h, classTail name (';' :: rest) = some ([name], ⟨rest, h⟩) := by
  rw [classTail.eq_1]
  exact ⟨_, rfl⟩

theorem classType_name {n : String} (hne : n ≠ "")
    (hstops : ∀ c ∈ n.toList, c ∉ segmentStops) (rest : List Char) :
    ∃ h, classType (n.toList ++ ';' :: rest) = some ([n], ⟨rest, h⟩) := by
  obtain ⟨h₁, e₁⟩ := identifier_append rest (by simpa using hne) hstops
    (show ';' ∈ segmentStops by decide)
  obtain ⟨h₂, e₂⟩ := classTail_semicolon n rest
  rw [classType.eq_1, e₁]
  simp only [String.ofList_toList]
  rw [e₂]
  exact ⟨by simp only [List.length_append, List.length_cons]; omega, rfl⟩

theorem isBaseLetter_letter (b : BaseType) : isBaseLetter b.letter = true := by
  cases b <;> rfl

/-- A class name that the scanner reads as one segment: no `<` or `.` in it. -/
def OneSegment (n : String) : Prop := '<' ∉ n.toList ∧ '.' ∉ n.toList

instance : DecidablePred OneSegment := fun _ => inferInstanceAs (Decidable (_ ∧ _))

/-- A field type whose descriptor the scanner reads back: spellable, with a one-segment class. -/
def Readable (t : FieldType) : Prop :=
  t.Spellable ∧ ∀ n, t.className? = some n → OneSegment n

/-- The scanner reads a field type's descriptor as the class the type names, if any. -/
theorem javaType_render {t : FieldType} (ht : Readable t) {cs : List Char} (rest : List Char)
    (hcs : cs = t.render ++ rest) :
    ∃ h, javaType cs = some (t.className?.toList, ⟨rest, h⟩) := by
  obtain ⟨ht, hseg⟩ := ht
  induction t generalizing cs rest with
  | base b =>
    rw [hcs, FieldType.render, List.singleton_append, javaType.eq_1,
      if_pos (isBaseLetter_letter b)]
    exact ⟨by simp, rfl⟩
  | object n =>
    obtain ⟨hne, hsemi⟩ := ht
    obtain ⟨hlt, hdot⟩ := hseg n rfl
    have hstops : ∀ c ∈ n.toList, c ∉ segmentStops := by
      intro c hc hs
      simp only [segmentStops, List.mem_cons, List.not_mem_nil, or_false] at hs
      rcases hs with rfl | rfl | rfl
      · exact hlt hc
      · exact hdot hc
      · exact hsemi hc
    obtain ⟨h, e⟩ := classType_name hne hstops rest
    obtain rfl : cs = 'L' :: (n.toList ++ ';' :: rest) := by simp [hcs, FieldType.render]
    rw [javaType.eq_1, if_neg (by decide), referenceType.eq_1, e]
    exact ⟨by simp only [List.length_cons, List.length_append]; omega, rfl⟩
  | array t ih =>
    obtain ⟨h, e⟩ := ih rest rfl ht hseg
    obtain rfl : cs = '[' :: (t.render ++ rest) := hcs
    rw [javaType.eq_1, if_neg (by decide), referenceType.eq_3, e]
    exact ⟨by simp only [List.length_cons, List.length_append]; omega, rfl⟩

theorem javaType_cons_of_not_base {c : Char} (r : List Char) (hc : isBaseLetter c = false) :
    javaType (c :: r) = referenceType (c :: r) := by
  rw [javaType.eq_1, if_neg (by simp [hc])]

theorem referenceType_render {t : FieldType} (hb : ∀ b, t ≠ .base b) (ht : Readable t)
    {cs : List Char} (rest : List Char) (hcs : cs = t.render ++ rest) :
    ∃ h, referenceType cs = some (t.className?.toList, ⟨rest, h⟩) := by
  obtain ⟨h, e⟩ := javaType_render ht rest hcs
  subst hcs
  cases t with
  | base b => exact absurd rfl (hb b)
  | object n => exact ⟨h, (javaType_cons_of_not_base _ rfl).symm.trans e⟩
  | array t => exact ⟨h, (javaType_cons_of_not_base _ rfl).symm.trans e⟩

/-- The parameters of a method descriptor, scanned up to the closing parenthesis. -/
theorem parameterTypes_render {ps : List FieldType} (hps : ∀ t ∈ ps, Readable t)
    {cs : List Char} (rest : List Char)
    (hcs : cs = ps.flatMap FieldType.render ++ ')' :: rest) :
    ∃ h, parameterTypes cs = some (ps.flatMap (·.className?.toList), ⟨rest, h⟩) := by
  induction ps generalizing cs with
  | nil =>
    obtain rfl : cs = ')' :: rest := by simp [hcs]
    rw [parameterTypes.eq_1, dif_pos (show (')' :: rest).head? = some ')' from rfl)]
    exact ⟨by simp, rfl⟩
  | cons t ps ih =>
    obtain ⟨h₁, e₁⟩ := javaType_render (hps t List.mem_cons_self)
      (ps.flatMap FieldType.render ++ ')' :: rest)
      (hcs.trans (by rw [List.flatMap_cons, List.append_assoc]))
    obtain ⟨h₂, e₂⟩ := ih (fun t' h' => hps t' (List.mem_cons_of_mem t h')) rfl
    have hhead : cs.head? ≠ some ')' := by
      rw [hcs, List.flatMap_cons, List.append_assoc]
      exact Descriptor.head?_render_append t _
    rw [parameterTypes.eq_1, dif_neg hhead, e₁]
    simp only
    rw [e₂]
    exact ⟨by simp only [List.length_append, List.length_cons] at h₁ h₂ ⊢; omega, by simp⟩

theorem render_eq_cons (t : FieldType) : ∃ c r, t.render = c :: r ∧ c ≠ 'V' := by
  cases t with
  | base b => exact ⟨b.letter, [], rfl, by cases b <;> decide⟩
  | object n => exact ⟨'L', _, rfl, by decide⟩
  | array t => exact ⟨'[', _, rfl, by decide⟩

/-- A method descriptor scans to the classes of its parameters, then of its result. -/
theorem scan_method {m : MethodType} (hm : ∀ t ∈ m.params ++ m.result.toList, Readable t) :
    scan m.render = some ((m.params ++ m.result.toList).flatMap (·.className?.toList)) := by
  obtain ⟨params, result⟩ := m
  have hps : ∀ t ∈ params, Readable t := fun t ht => hm t (List.mem_append_left _ ht)
  cases result with
  | none =>
    obtain ⟨h₁, e₁⟩ := parameterTypes_render hps ['V'] rfl
    simp [MethodType.render, scan, e₁, thrownTypes]
  | some t =>
    obtain ⟨c, r, hr, hc⟩ := render_eq_cons t
    obtain ⟨h₁, e₁⟩ := parameterTypes_render hps (c :: r) rfl
    obtain ⟨h₂, e₂⟩ := javaType_render (hm t (by simp)) []
      (show c :: r = t.render ++ [] by simp [hr])
    have hmr : (MethodType.mk params (some t)).render =
        '(' :: (params.flatMap FieldType.render ++ ')' :: c :: r) := by
      simp [MethodType.render, hr]
    rw [hmr]
    simp only [scan, ↓Char.isValue, List.cons.injEq, Char.reduceEq, false_and, imp_self,
      implies_true, List.isEmpty_iff, List.append_assoc, Option.bind_eq_bind, Option.bind_some,
      List.nil_append, e₁, List.length_cons, Option.toList_some, List.flatMap_append,
      List.flatMap_cons, List.flatMap_nil, List.append_nil]
    -- the result opens with a letter other than `V`, so it is read as a field type
    split
    · next heq => cases heq; exact absurd rfl hc
    · simp [e₂, thrownTypes]

/-- A field descriptor that is not primitive scans to the class it names. -/
theorem scan_field {t : FieldType} (hb : ∀ b, t ≠ .base b) (ht : Readable t) :
    scan t.render = some t.className?.toList := by
  obtain ⟨h, e⟩ := referenceType_render hb ht [] (List.append_nil _).symm
  obtain ⟨c, r, hcr, hlt, hpar⟩ : ∃ c r, t.render = c :: r ∧ c ≠ '<' ∧ c ≠ '(' := by
    cases t with
    | base b => exact absurd rfl (hb b)
    | object n => exact ⟨'L', _, rfl, by decide, by decide⟩
    | array t => exact ⟨'[', _, rfl, by decide, by decide⟩
  have hr : referenceTypes (c :: r) = some t.className?.toList := by
    rw [referenceTypes.eq_1, if_neg (by simp), ← hcr, e]
    simp [referenceTypes]
  rw [hcr]
  unfold scan
  split
  · next heq => cases heq; exact absurd rfl hlt
  · simp only [Option.bind_eq_bind, Option.bind_some]
    split
    · next heq => cases heq; exact absurd rfl hpar
    · simp [hr]

/-- The generic-signature scanner agrees with the descriptor reader on descriptors: a text that
the descriptor reader accepts, that is not a lone primitive letter and whose classes hold no `<`
or `.`, names the same classes, in the same order, to both. -/
theorem referencedClasses_of_descriptor {d : String} {ns : List String}
    (hd : Descriptor.referencedClasses d = .ok ns)
    (hprim : ∀ b : BaseType, d.toList ≠ [b.letter]) (hseg : ∀ n ∈ ns, OneSegment n) :
    referencedClasses d = .ok ns := by
  suffices hs : scan d.toList = some ns by
    simp [referencedClasses, hs]
  rcases Descriptor.referencedClasses_eq_ok_iff.mp hd with
    ⟨t, ht, hdt, rfl⟩ | ⟨m, hm, hdm, rfl⟩
  · -- a field descriptor: a reference type, alone
    have hb : ∀ b, t ≠ .base b := by
      rintro b rfl
      exact hprim b hdt
    rw [hdt]
    exact scan_field hb ⟨ht, fun n hn => hseg n (by simp [hn])⟩
  · -- a method descriptor: its parameters, then its result
    have hread : ∀ t ∈ m.params ++ m.result.toList, Readable t := by
      intro t hmem
      refine ⟨?_, fun n hn => hseg n (List.mem_filterMap.mpr ⟨t, hmem, hn⟩)⟩
      rcases List.mem_append.mp hmem with hp | hr
      · exact hm.1 t hp
      · exact hm.2 t (by simpa using hr)
    rw [hdm, scan_method hread, List.filterMap_eq_flatMap_toList]

/-- A method descriptor with a primitive, an array of objects, a wide primitive and an object
result is scanned alike by both readers. -/
theorem referencedClasses_of_descriptor_method :
    let d := "(I[Ljava/lang/String;J)Ltags/Tag;"
    let ns := ["java/lang/String", "tags/Tag"]
    Descriptor.referencedClasses d = .ok ns ∧ (∀ b : BaseType, d.toList ≠ [b.letter]) ∧
      (∀ n ∈ ns, OneSegment n) ∧ referencedClasses d = .ok ns := by
  intro d ns
  have hd : Descriptor.referencedClasses d = .ok ns := by
    let m : MethodType := ⟨[.base .int, .array (.object "java/lang/String"), .base .long],
      some (.object "tags/Tag")⟩
    refine Descriptor.referencedClasses_eq_ok_iff.mpr (.inr ⟨m, ?_, by decide, by decide⟩)
    simp [m, MethodType.Spellable, FieldType.Spellable]
  have hprim : ∀ b : BaseType, d.toList ≠ [b.letter] := by
    intro b
    cases b <;> decide
  have hseg : ∀ n ∈ ns, OneSegment n := by decide
  exact ⟨hd, hprim, hseg, referencedClasses_of_descriptor hd hprim hseg⟩

end ClassMetrics.Signature
