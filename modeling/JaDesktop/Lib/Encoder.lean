import JaDesktop.Lib.Utf8

/-!
# The encoder of Java

`String.getBytes` writes the scalar values of a string in UTF-8, and a question mark in the place of
a surrogate that has no partner.  So a string is determined by its bytes exactly when no question
mark is written (`eq_of_encodedChars`, `exists_ne_of_questionMark`).
-/

namespace JaDesktop

variable {s t : JavaString}

/-- The scalar value of a high and a low surrogate. -/
def pairedChar (high low : UInt16) : Char :=
  Char.ofNat (0x10000 + (high.toNat - 0xD800) * 0x400 + (low.toNat - 0xDC00))

/-- What is written for a unit without a partner. -/
def singleChar (u : UInt16) : Char :=
  if isHighSurrogate u || isLowSurrogate u then '?' else Char.ofNat u.toNat

/-- The characters that are written for a string. -/
def encodedChars : JavaString → List Char
  | [] => []
  | [u] => [singleChar u]
  | u :: l :: rest =>
    if isHighSurrogate u && isLowSurrogate l then pairedChar u l :: encodedChars rest
    else singleChar u :: encodedChars (l :: rest)

/-- `String.getBytes(StandardCharsets.UTF_8)`. -/
def getBytes (s : JavaString) : List UInt8 := utf8 (encodedChars s)

lemma getBytes_eq_iff : getBytes s = getBytes t ↔ encodedChars s = encodedChars t :=
  utf8_injective.eq_iff

lemma encodedChars_cons {u : UInt16}
    (h : isHighSurrogate u = true → ∀ l ∈ s.head?, isLowSurrogate l = false) :
    encodedChars (u :: s) = singleChar u :: encodedChars s := by
  cases s with
  | nil => rfl
  | cons l rest =>
    rw [encodedChars, if_neg]
    rintro hpair
    obtain ⟨hhigh, hlow⟩ := Bool.and_eq_true_iff.mp hpair
    rw [h hhigh l rfl] at hlow
    cases hlow

/-- A string that does not begin with a low surrogate is written after any other one. -/
lemma encodedChars_append (h : ∀ l ∈ t.head?, isLowSurrogate l = false) :
    encodedChars (s ++ t) = encodedChars s ++ encodedChars t := by
  induction s using encodedChars.induct with
  | case1 => rfl
  | case2 u => exact encodedChars_cons fun _ => h
  | case3 u l rest hpair ih =>
    rw [List.cons_append, List.cons_append, encodedChars, if_pos hpair, encodedChars, if_pos hpair,
      ih, List.cons_append]
  | case4 u l rest hpair ih =>
    rw [List.cons_append, List.cons_append, encodedChars, if_neg hpair, encodedChars, if_neg hpair,
      List.cons_append, ← ih, List.cons_append]

lemma head?_flatMap_utf16Char (cs : List Char) :
    ∀ l ∈ (cs.flatMap utf16Char).head?, isLowSurrogate l = false := by
  intro l hl
  cases cs with
  | nil => cases hl
  | cons c cs =>
    rw [List.flatMap_cons] at hl
    rcases utf16Char_cases c with ⟨u, hchar, -, -, -, hlow⟩ | ⟨u, v, hchar, -, hhigh, -⟩
    · rw [hchar] at hl
      obtain rfl := Option.some.inj hl
      exact hlow
    · rw [hchar] at hl
      obtain rfl := Option.some.inj hl
      simp only [isHighSurrogate, Bool.and_eq_true, decide_eq_true_eq] at hhigh
      simp only [isLowSurrogate, Bool.and_eq_false_iff, decide_eq_false_iff_not]
      omega

@[simp] lemma encodedChars_flatMap (cs : List Char) :
    encodedChars (cs.flatMap utf16Char) = cs := by
  induction cs with
  | nil => rfl
  | cons c cs ih =>
    rw [List.flatMap_cons, encodedChars_append (head?_flatMap_utf16Char cs), ih]
    suffices hchar : encodedChars (utf16Char c) = [c] by rw [hchar, List.singleton_append]
    rcases utf16Char_cases c with ⟨u, hchar, hu, -, hhigh, hlow⟩ | ⟨u, v, hchar, -, hhigh, hlow⟩
    · rw [hchar, encodedChars, singleChar, hhigh, hlow, hu, Char.ofNat_toNat]
      rfl
    · -- the pair is read as the character that it was made of
      have hread := utf16Chars_append_utf16Char c []
      rw [hchar] at hread
      simp only [List.cons_append, List.nil_append, utf16Chars, hhigh, hlow, if_true,
        Option.map_some, Option.some.injEq] at hread
      rw [hchar, encodedChars, hhigh, hlow, Bool.and_self, if_pos rfl]
      exact hread

lemma utf16Chars_of_encodedChars (h : '?' ∉ encodedChars s) :
    utf16Chars s = some (encodedChars s) := by
  induction s using encodedChars.induct with
  | case1 => rfl
  | case2 u =>
    rw [encodedChars, List.mem_singleton, singleChar] at h
    split_ifs at h with hsurrogate
    · exact absurd rfl h
    · obtain ⟨hhigh, hlow⟩ := Bool.or_eq_false_iff.mp (Bool.not_eq_true _ ▸ hsurrogate)
      simp [encodedChars, singleChar, utf16Chars, hhigh, hlow]
  | case3 u l rest hpair ih =>
    obtain ⟨hhigh, hlow⟩ := Bool.and_eq_true_iff.mp hpair
    rw [encodedChars, if_pos hpair] at h ⊢
    rw [utf16Chars, if_pos hhigh]
    simp only [hlow, if_true, ih fun hmem => h (List.mem_cons_of_mem _ hmem)]
    rfl
  | case4 u l rest hpair ih =>
    rw [encodedChars, if_neg hpair] at h ⊢
    have hrest := ih fun hmem => h (List.mem_cons_of_mem _ hmem)
    have hsingle : '?' ≠ singleChar u := fun heq => h (heq ▸ List.mem_cons_self)
    rw [singleChar] at hsingle ⊢
    split_ifs at hsingle with hsurrogate
    · exact absurd rfl hsingle
    · obtain ⟨hhigh, hlow⟩ := Bool.or_eq_false_iff.mp (Bool.not_eq_true _ ▸ hsurrogate)
      rw [if_neg hsurrogate, utf16Chars.eq_def]
      simp only [hhigh, hlow, Bool.false_eq_true, if_false, hrest]
      rfl

lemma flatMap_encodedChars (h : '?' ∉ encodedChars s) :
    (encodedChars s).flatMap utf16Char = s :=
  flatMap_utf16Char_of_utf16Chars (utf16Chars_of_encodedChars h)

/-- A string of paired surrogates without a question mark. -/
def Faithful (s : JavaString) : Prop := 0x3F ∉ s ∧ (utf16Decode s).isSome = true

instance : DecidablePred Faithful := fun _ => inferInstanceAs (Decidable (_ ∧ _))

lemma mem_utf16Char_iff {c : Char} : 0x3F ∈ utf16Char c ↔ c = '?' := by
  have hmark : (0x3F : UInt16).toNat = '?'.toNat := rfl
  constructor
  · intro h
    rcases utf16Char_cases c with ⟨u, hchar, hu, -, -, -⟩ | ⟨u, v, hchar, -, hhigh, hlow⟩
    · rw [hchar, List.mem_singleton] at h
      rw [← h, hmark] at hu
      exact Char.toNat_inj.mp hu.symm
    · rw [hchar, List.mem_pair] at h
      rcases h with rfl | rfl
      · exact absurd hhigh (by decide)
      · exact absurd hlow (by decide)
  · rintro rfl
    decide

/-- No question mark is written for the faithful strings and for no others. -/
lemma faithful_iff : Faithful s ↔ '?' ∉ encodedChars s := by
  constructor
  · rintro ⟨hmark, hpaired⟩ hmem
    rw [utf16Decode, Option.isSome_map] at hpaired
    obtain ⟨cs, hcs⟩ := Option.isSome_iff_exists.mp hpaired
    have hs := flatMap_utf16Char_of_utf16Chars hcs
    rw [← hs, encodedChars_flatMap] at hmem
    refine hmark ?_
    rw [← hs]
    exact List.mem_flatMap.mpr ⟨'?', hmem, mem_utf16Char_iff.mpr rfl⟩
  · intro h
    refine ⟨fun hmem => h ?_, ?_⟩
    · rw [← flatMap_encodedChars h] at hmem
      obtain ⟨c, hc, hmark⟩ := List.mem_flatMap.mp hmem
      rwa [← mem_utf16Char_iff.mp hmark]
    · rw [utf16Decode, utf16Chars_of_encodedChars h]
      rfl

/-- A string that is written without a question mark has its bytes for itself. -/
lemma eq_of_encodedChars (h : '?' ∉ encodedChars s) (heq : encodedChars t = encodedChars s) :
    t = s := by
  have ht : '?' ∉ encodedChars t := by rwa [heq]
  exact (flatMap_encodedChars ht).symm.trans (heq ▸ flatMap_encodedChars h)

/-- A string that is written with a question mark shares its bytes with another one, which has a
question mark or a surrogate of its own. -/
lemma exists_ne_of_questionMark (h : '?' ∈ encodedChars s) :
    ∃ t ≠ s, encodedChars t = encodedChars s ∧ (0x3F ∈ t ∨ 0xD800 ∈ t) := by
  obtain ⟨before, after, hsplit⟩ := List.append_of_mem h
  have hmark : utf16Char '?' = [0x3F] := by decide
  -- the one with a question mark, and the one with a surrogate in its place
  have htext : encodedChars ((before ++ '?' :: after).flatMap utf16Char) = encodedChars s := by
    rw [encodedChars_flatMap, hsplit]
  have hlone : encodedChars (before.flatMap utf16Char ++ 0xD800 :: after.flatMap utf16Char) =
      encodedChars s := by
    have hhead : ∀ l ∈ (0xD800 :: after.flatMap utf16Char : JavaString).head?,
        isLowSurrogate l = false := by
      intro l hl
      obtain rfl := Option.some.inj hl
      decide
    rw [encodedChars_append hhead, encodedChars_flatMap,
      encodedChars_cons fun _ => head?_flatMap_utf16Char after, encodedChars_flatMap, hsplit]
    congr 1
  by_cases hs : (before ++ '?' :: after).flatMap utf16Char = s
  · refine ⟨_, ?_, hlone, Or.inr (by simp)⟩
    intro heq
    rw [← hs, List.flatMap_append, List.flatMap_cons, hmark, List.append_cancel_left_eq,
      List.singleton_append, List.cons.injEq] at heq
    exact absurd heq.1 (by decide)
  · refine ⟨_, hs, htext, Or.inl ?_⟩
    rw [List.flatMap_append, List.flatMap_cons, hmark]
    simp

lemma encodedChars_of_ascii (h : ∀ u ∈ s, u.toNat < 0x80) :
    encodedChars s = s.map fun u => Char.ofNat u.toNat := by
  induction s with
  | nil => rfl
  | cons u s ih =>
    have hu := h u List.mem_cons_self
    have hhigh : isHighSurrogate u = false := by
      simp only [isHighSurrogate, Bool.and_eq_false_iff, decide_eq_false_iff_not]
      omega
    have hlow : isLowSurrogate u = false := by
      simp only [isLowSurrogate, Bool.and_eq_false_iff, decide_eq_false_iff_not]
      omega
    rw [encodedChars_cons fun h => absurd h (by rw [hhigh]; exact Bool.false_ne_true),
      ih fun v hv => h v (List.mem_cons_of_mem _ hv), singleChar, hhigh, hlow]
    rfl

lemma flatMap_encodedChars_of_ascii (h : ∀ u ∈ s, u.toNat < 0x80) :
    (encodedChars s).flatMap utf16Char = s := by
  rw [encodedChars_of_ascii h, List.flatMap_map]
  refine (List.flatMap_congr fun u hu => ?_).trans (List.flatMap_singleton' s)
  have hu := h u hu
  have hn := toNat_charOfNat (n := u.toNat) (Or.inl (by omega))
  rw [utf16Char, hn, if_pos (by omega), UInt16.ofNat_toNat]

lemma eq_of_encodedChars_ascii (hs : ∀ u ∈ s, u.toNat < 0x80) (ht : ∀ u ∈ t, u.toNat < 0x80)
    (heq : encodedChars s = encodedChars t) : s = t := by
  rw [← flatMap_encodedChars_of_ascii hs, ← flatMap_encodedChars_of_ascii ht, heq]

end JaDesktop
