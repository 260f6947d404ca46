import JaDesktop.Lib.LongestPrefix
import JaDesktop.Prompt.Compiler

/-!
# The prefix of a text that fits

`fitPrefix` walks over the UTF-16 units of a text and counts the bytes of its code points.  On the
units of characters it takes whole characters while both budgets hold, and no computation on the way
leaves the range of an `int`.
-/

namespace JaDesktop.Prompt

open JaDesktop.Sidecar

/-! ## Units and characters -/

/-- The units of characters. -/
def units (cs : List Char) : JavaString := cs.flatMap utf16Char

/-- The string consists of characters. -/
def IsText (s : JavaString) : Prop := ∃ cs, s = units cs

/-- The bytes of a character. -/
def width (c : Char) : ℕ := (String.utf8EncodeChar c).length

lemma units_append (cs ds : List Char) : units (cs ++ ds) = units cs ++ units ds :=
  List.flatMap_append

lemma units_cons (c : Char) (cs : List Char) : units (c :: cs) = utf16Char c ++ units cs :=
  List.flatMap_cons

lemma width_pos (c : Char) : 0 < width c := List.length_pos_of_ne_nil (utf8EncodeChar_ne_nil c)

lemma length_utf16Char_le (c : Char) : (utf16Char c).length ≤ width c := by
  rcases utf16Char_cases c with ⟨u, hu, -⟩ | ⟨h, l, hl, hlarge, -⟩
  · rw [hu]
    exact width_pos c
  · rw [hl, width, length_utf8_of_large hlarge, List.length_cons, List.length_singleton]
    omega

lemma utf8Bytes_units (cs : List Char) : utf8Bytes (units cs) = (cs.map width).sum := by
  rw [utf8Bytes, getBytes, units, encodedChars_flatMap, utf8, List.length_flatMap]
  rfl

lemma units_eq_nil_iff {cs : List Char} : units cs = [] ↔ cs = [] := by
  constructor
  · intro h
    cases cs with
    | nil => rfl
    | cons c cs =>
      rw [units_cons, List.append_eq_nil_iff] at h
      rcases utf16Char_cases c with ⟨u, hu, -⟩ | ⟨u, l, hu, -⟩
      · rw [hu] at h
        cases h.1
      · rw [hu] at h
        cases h.1
  · rintro rfl
    rfl

lemma units_injective : Function.Injective units := by
  intro cs ds h
  have := congrArg encodedChars h
  rwa [units, units, encodedChars_flatMap, encodedChars_flatMap] at this

lemma utf8Bytes_append {s t : JavaString} (hs : IsText s) (ht : IsText t) :
    utf8Bytes (s ++ t) = utf8Bytes s + utf8Bytes t := by
  obtain ⟨cs, rfl⟩ := hs
  obtain ⟨ds, rfl⟩ := ht
  rw [← units_append, utf8Bytes_units, utf8Bytes_units, utf8Bytes_units, List.map_append,
    List.sum_append]

lemma IsText.append {s t : JavaString} (hs : IsText s) (ht : IsText t) : IsText (s ++ t) := by
  obtain ⟨cs, rfl⟩ := hs
  obtain ⟨ds, rfl⟩ := ht
  exact ⟨cs ++ ds, (units_append cs ds).symm⟩

lemma isText_nil : IsText [] := ⟨[], rfl⟩

lemma isText_separator : IsText separator := ⟨['\n'], by decide⟩

lemma isText_of_paired {s : JavaString} (h : hasUnpairedSurrogate s = false) : IsText s := by
  suffices hchars : ∃ cs, utf16Chars s = some cs by
    obtain ⟨cs, hcs⟩ := hchars
    exact ⟨cs, (flatMap_utf16Char_of_utf16Chars hcs).symm⟩
  induction s using hasUnpairedSurrogate.induct with
  | case1 => exact ⟨[], rfl⟩
  | case2 u =>
    obtain ⟨hhigh, hlow⟩ := Bool.or_eq_false_iff.mp h
    simp [utf16Chars, hhigh, hlow]
  | case3 u l rest hhigh ih =>
    rw [hasUnpairedSurrogate, if_pos hhigh] at h
    obtain ⟨hlow, hrest⟩ := Bool.or_eq_false_iff.mp h
    obtain ⟨cs, hcs⟩ := ih hrest
    rw [Bool.not_eq_false'] at hlow
    simp [utf16Chars, hhigh, hlow, hcs]
  | case4 u l rest hhigh ih =>
    rw [hasUnpairedSurrogate, if_neg hhigh] at h
    obtain ⟨hlow, hrest⟩ := Bool.or_eq_false_iff.mp h
    obtain ⟨cs, hcs⟩ := ih hrest
    rw [utf16Chars.eq_def]
    simp [hhigh, hlow, hcs]

lemma PromptFragment.isText (fragment : PromptFragment) : IsText fragment.text :=
  isText_of_paired (requireText_eq_ok fragment.text_ok).2.1

lemma PromptFragment.utf8Bytes_le (fragment : PromptFragment) :
    utf8Bytes fragment.text ≤ maxFragmentUtf8Bytes :=
  (requireText_eq_ok fragment.text_ok).2.2

lemma utf8Width_toNat (c : Char) : utf8Width c.toNat = width c := by
  rw [width, length_utf8EncodeChar, utf8Width]

lemma pairedChar_eq {c : Char} {h l : UInt16} (hc : utf16Char c = [h, l])
    (hhigh : isHighSurrogate h = true) (hlow : isLowSurrogate l = true) : pairedChar h l = c := by
  have hread := encodedChars_flatMap [c]
  rw [List.flatMap_singleton, hc, encodedChars, hhigh, hlow, Bool.and_self, if_pos rfl] at hread
  exact List.head_eq_of_cons_eq hread

/-! ## The loop -/

/-- A number of bytes fits behind `baseBytes` others. -/
def FitsBehind (availableBytes baseBytes maxTokens : ℤ) (bytes : ℕ) : Prop :=
  (bytes : ℤ) ≤ availableBytes ∧ estimateTokensForBytes (baseBytes + bytes) ≤ maxTokens

instance (availableBytes baseBytes maxTokens : ℤ) :
    DecidablePred (FitsBehind availableBytes baseBytes maxTokens) :=
  fun _ => inferInstanceAs (Decidable (_ ∧ _))

variable {availableBytes baseBytes maxTokens : ℤ}

lemma estimateTokensForBytes_mono {a b : ℤ} (h : a ≤ b) :
    estimateTokensForBytes a ≤ estimateTokensForBytes b := by
  rw [estimateTokensForBytes, estimateTokensForBytes]
  split_ifs <;> omega

lemma FitsBehind.mono {m n : ℕ} (hmn : m ≤ n) (h : FitsBehind availableBytes baseBytes maxTokens n) :
    FitsBehind availableBytes baseBytes maxTokens m :=
  ⟨(Int.ofNat_le.mpr hmn).trans h.1,
    (estimateTokensForBytes_mono (Int.add_le_add_left (Int.ofNat_le.mpr hmn) _)).trans h.2⟩

lemma fitNext_eq {bytes codePoint : ℕ} (hbytes : bytes + utf8Width codePoint ≤ intMax) :
    fitNext availableBytes baseBytes maxTokens bytes codePoint =
      .ok (if FitsBehind availableBytes baseBytes maxTokens (bytes + utf8Width codePoint) then
        some ((bytes + utf8Width codePoint : ℕ) : ℤ) else none) := by
  have hint : int ((bytes : ℤ) + utf8Width codePoint) =
      .ok ((bytes + utf8Width codePoint : ℕ) : ℤ) := by
    rw [int_of_le (by omega) (by omega)]
    rfl
  rw [fitNext, hint, ok_bind]
  by_cases hfits : FitsBehind availableBytes baseBytes maxTokens (bytes + utf8Width codePoint)
  · rw [if_neg (by rw [not_or]; exact ⟨not_lt.mpr hfits.1, not_lt.mpr hfits.2⟩), if_pos hfits]
  · rw [if_pos, if_neg hfits]
    rw [FitsBehind, not_and_or, not_le, not_le] at hfits
    exact hfits

lemma fitLoop_char (c : Char) (rest : JavaString) {ending bytes : ℕ} (hending : ending ≤ bytes)
    (hbytes : bytes + width c ≤ intMax) :
    fitLoop availableBytes baseBytes maxTokens (utf16Char c ++ rest) ending bytes =
      if FitsBehind availableBytes baseBytes maxTokens (bytes + width c) then
        fitLoop availableBytes baseBytes maxTokens rest ((ending + (utf16Char c).length : ℕ) : ℤ)
          ((bytes + width c : ℕ) : ℤ)
      else .ok ending := by
  have hnext := @fitNext_eq availableBytes baseBytes maxTokens bytes c.toNat
    (by rwa [utf8Width_toNat])
  rw [utf8Width_toNat] at hnext
  have hlength := length_utf16Char_le c
  have hint : int ((ending : ℤ) + (utf16Char c).length) =
      .ok ((ending + (utf16Char c).length : ℕ) : ℤ) := by
    rw [int_of_le (by omega) (by omega)]
    rfl
  rcases utf16Char_cases c with ⟨u, hu, hnat, -, hhigh, -⟩ | ⟨h, l, hpair, -, hhigh, hlow⟩
  · rw [hu, List.length_singleton] at hint ⊢
    rw [Nat.cast_one] at hint
    rw [← hnat] at hnext
    cases rest with
    | nil =>
      rw [List.append_nil, fitLoop, fitLoop, hnext, ok_bind]
      by_cases hfits : FitsBehind availableBytes baseBytes maxTokens (bytes + width c)
      · rw [if_pos hfits, if_pos hfits]
        exact hint
      · rw [if_neg hfits, if_neg hfits]
    | cons l rest =>
      rw [List.singleton_append, fitLoop, hhigh, Bool.false_and, if_neg Bool.false_ne_true, hnext,
        ok_bind]
      by_cases hfits : FitsBehind availableBytes baseBytes maxTokens (bytes + width c)
      · simp only [if_pos hfits, hint, ok_bind]
      · rw [if_neg hfits, if_neg hfits]
  · have htwo : (utf16Char c).length = 2 := by rw [hpair]; rfl
    rw [htwo, Nat.cast_ofNat] at hint
    rw [htwo, hpair]
    rw [← pairedChar_eq hpair hhigh hlow] at hnext
    rw [List.cons_append, List.singleton_append, fitLoop, hhigh, hlow, Bool.and_self, if_pos rfl,
      hnext, ok_bind, pairedChar_eq hpair hhigh hlow]
    by_cases hfits : FitsBehind availableBytes baseBytes maxTokens (bytes + width c)
    · simp only [if_pos hfits, hint, ok_bind]
    · rw [if_neg hfits, if_neg hfits]

/-- The characters that the loop takes. -/
def fitting (availableBytes baseBytes maxTokens : ℤ) (cs : List Char) : List Char :=
  takeFitting width (FitsBehind availableBytes baseBytes maxTokens) 0 cs

lemma fitLoop_units (cs : List Char) {ending bytes : ℕ} (hending : ending ≤ bytes)
    (hbytes : bytes + (cs.map width).sum ≤ intMax) :
    fitLoop availableBytes baseBytes maxTokens (units cs) ending bytes =
      .ok ((ending + (units (takeFitting width (FitsBehind availableBytes baseBytes maxTokens)
        bytes cs)).length : ℕ) : ℤ) := by
  induction cs generalizing ending bytes with
  | nil => rfl
  | cons c cs ih =>
    rw [List.map_cons, List.sum_cons] at hbytes
    rw [units_cons, fitLoop_char c _ hending (by omega), takeFitting]
    by_cases hfits : FitsBehind availableBytes baseBytes maxTokens (bytes + width c)
    · have hlength := length_utf16Char_le c
      rw [if_pos hfits, if_pos hfits, ih (by omega) (by omega), units_cons, List.length_append,
        Nat.add_assoc]
    · rw [if_neg hfits, if_neg hfits]
      rfl

lemma fitting_eq_nil {cs : List Char}
    (h : availableBytes ≤ 0 ∨ estimateTokensForBytes baseBytes > maxTokens) :
    fitting availableBytes baseBytes maxTokens cs = [] := by
  cases cs with
  | nil => rfl
  | cons c cs =>
    rw [fitting, takeFitting, if_neg]
    rintro ⟨hbytes, htokens⟩
    have hpos := width_pos c
    rcases h with hsmall | hlarge
    · omega
    · have := @estimateTokensForBytes_mono baseBytes (baseBytes + ((0 + width c : ℕ) : ℤ)) (by omega)
      omega

lemma fitting_isPrefix (cs : List Char) : fitting availableBytes baseBytes maxTokens cs <+: cs :=
  takeFitting_prefix 0 cs

lemma fitsBehind_fitting {cs : List Char}
    (h : fitting availableBytes baseBytes maxTokens cs ≠ []) :
    FitsBehind availableBytes baseBytes maxTokens
      ((fitting availableBytes baseBytes maxTokens cs).map width).sum := by
  have hfits := fits_takeFitting h
  rwa [Nat.zero_add] at hfits

lemma prefix_fitting {cs p : List Char} (hp : p <+: cs)
    (hfits : FitsBehind availableBytes baseBytes maxTokens (p.map width).sum) :
    p <+: fitting availableBytes baseBytes maxTokens cs :=
  prefix_takeFitting FitsBehind.mono hp (by rwa [Nat.zero_add])

/-- **The prefix that fits** is the characters that the loop takes. -/
theorem fitPrefix_units (cs : List Char) (hbytes : (cs.map width).sum ≤ intMax) :
    fitPrefix (units cs) availableBytes baseBytes maxTokens =
      .ok (units (fitting availableBytes baseBytes maxTokens cs)) := by
  rw [fitPrefix]
  by_cases hnone : availableBytes ≤ 0 ∨ estimateTokensForBytes baseBytes > maxTokens
  · rw [if_pos hnone, fitting_eq_nil hnone]
    rfl
  · have hloop := @fitLoop_units availableBytes baseBytes maxTokens cs 0 0 le_rfl (by omega)
    obtain ⟨rest, hrest⟩ := @fitting_isPrefix availableBytes baseBytes maxTokens cs
    have hunits : units cs = units (fitting availableBytes baseBytes maxTokens cs) ++ units rest := by
      rw [← units_append, hrest]
    rw [Nat.cast_zero, Nat.zero_add] at hloop
    rw [if_neg hnone, hloop, ok_bind, Int.toNat_natCast]
    show Except.ok ((units cs).take (units (fitting availableBytes baseBytes maxTokens cs)).length) = _
    rw [hunits, List.take_left]

end JaDesktop.Prompt
