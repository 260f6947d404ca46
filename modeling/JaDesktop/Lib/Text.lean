import Mathlib.Data.Char
import Mathlib.Tactic.SplitIfs
import Mathlib.Data.List.Basic

/-!
# Two encodings of text

A Rust string is a sequence of Unicode scalar values held as UTF-8, which is what Lean's
`String` is; `asBytes` and `fromUtf8` are the passage between a string and its bytes.

A Java string is a sequence of UTF-16 code units in which a surrogate may stand alone.  Such a
string denotes a Unicode text only when its surrogates are paired, and then `utf16Decode`
recovers that text; on texts it is inverse to `utf16Encode`.
-/

namespace JaDesktop

lemma forall_mem_of_all {α : Type*} {l : List α} {p : α → Prop} [DecidablePred p]
    (h : l.all (fun a => decide (p a)) = true) : ∀ a ∈ l, p a := by
  intro a ha
  exact of_decide_eq_true (List.all_eq_true.mp h a ha)

/-! ## UTF-8 -/

/-- The UTF-8 bytes of a string. -/
def asBytes (s : String) : List UInt8 := s.toByteArray.data.toList

/-- The string with the given UTF-8 bytes, if they are well formed. -/
def fromUtf8 (bs : List UInt8) : Option String := String.fromUTF8? ⟨bs.toArray⟩

@[simp] lemma fromUtf8_asBytes (s : String) : fromUtf8 (asBytes s) = some s := by
  have hba : (⟨(asBytes s).toArray⟩ : ByteArray) = s.toByteArray := by simp [asBytes]
  rw [fromUtf8, hba, String.fromUTF8?, dif_pos s.isValidUTF8]
  rfl

lemma asBytes_eq_flatMap (s : String) : asBytes s = s.toList.flatMap String.utf8EncodeChar := by
  rw [asBytes, ← String.utf8Encode_toList, List.utf8Encode]
  simp

variable {c : Char} {s : String} {u : JavaString}

/-- A byte below `0x80` in the encoding of a scalar value is that scalar value. -/
lemma toNat_of_mem_utf8EncodeChar {b : UInt8} (h : b ∈ String.utf8EncodeChar c)
    (hb : b.toNat < 0x80) : c.toNat = b.toNat := by
  have hc : c.val.toNat = c.toNat := rfl
  rw [String.utf8EncodeChar, hc] at h
  -- every byte of a longer encoding has its top bit set
  split_ifs at h with h₁ h₂ h₃ <;>
    simp only [List.mem_cons, List.not_mem_nil, or_false] at h
  · subst h
    simp only [UInt8.toNat_ofNat']
    omega
  · rcases h with rfl | rfl <;> simp only [UInt8.toNat_ofNat'] at hb <;> omega
  · rcases h with rfl | rfl | rfl <;> simp only [UInt8.toNat_ofNat'] at hb <;> omega
  · rcases h with rfl | rfl | rfl | rfl <;> simp only [UInt8.toNat_ofNat'] at hb <;> omega

lemma utf8EncodeChar_of_ascii (h : c.toNat < 0x80) :
    String.utf8EncodeChar c = [UInt8.ofNat c.toNat] := by
  have hc : c.val.toNat = c.toNat := rfl
  rw [String.utf8EncodeChar, hc, if_pos (by omega)]

lemma utf8EncodeChar_ne_nil (c : Char) : String.utf8EncodeChar c ≠ [] := by
  rw [String.utf8EncodeChar]
  split_ifs <;> simp

lemma asBytes_of_ascii (h : ∀ c ∈ s.toList, c.toNat < 0x80) :
    asBytes s = s.toList.map fun c => UInt8.ofNat c.toNat := by
  rw [asBytes_eq_flatMap, List.map_eq_flatMap]
  exact List.flatMap_congr fun c hc => utf8EncodeChar_of_ascii (h c hc)

lemma ascii_of_asBytes (h : ∀ b ∈ asBytes s, b.toNat < 0x80) :
    ∀ c ∈ s.toList, c.toNat < 0x80 := by
  intro c hc
  obtain ⟨b, hb⟩ := List.exists_mem_of_ne_nil _ (utf8EncodeChar_ne_nil c)
  have hmem : b ∈ asBytes s := by
    rw [asBytes_eq_flatMap]
    exact List.mem_flatMap.mpr ⟨c, hc, hb⟩
  rw [toNat_of_mem_utf8EncodeChar hb (h b hmem)]
  exact h b hmem

lemma toList_of_ascii (h : ∀ b ∈ asBytes s, b.toNat < 0x80) :
    s.toList = (asBytes s).map fun b => Char.ofNat b.toNat := by
  have hchars := ascii_of_asBytes h
  rw [asBytes_of_ascii hchars, List.map_map]
  refine ((List.map_congr_left fun c hc => ?_).trans (List.map_id _)).symm
  have hlt := hchars c hc
  simp [Nat.mod_eq_of_lt (show c.toNat < 256 by omega)]

/-- A property of ASCII bytes holds of all bytes exactly when it holds of all characters. -/
lemma forall_asBytes_iff {P : UInt8 → Prop} (hP : ∀ b, P b → b.toNat < 0x80) :
    (∀ b ∈ asBytes s, P b) ↔ ∀ c ∈ s.toList, c.toNat < 0x80 ∧ P (UInt8.ofNat c.toNat) := by
  constructor
  · intro h c hc
    have hascii := ascii_of_asBytes fun b hb => hP b (h b hb)
    refine ⟨hascii c hc, h _ ?_⟩
    rw [asBytes_of_ascii hascii]
    exact List.mem_map.mpr ⟨c, hc, rfl⟩
  · intro h b hb
    rw [asBytes_of_ascii fun c hc => (h c hc).1] at hb
    obtain ⟨c, hc, rfl⟩ := List.mem_map.mp hb
    exact (h c hc).2

/-! ### Classes of ASCII bytes -/

variable (b : UInt8)

/-- `u8::is_ascii_digit`. -/
def isAsciiDigit : Bool := 0x30 ≤ b && b ≤ 0x39

/-- `u8::is_ascii_uppercase`. -/
def isAsciiUppercase : Bool := 0x41 ≤ b && b ≤ 0x5A

/-- `u8::is_ascii_lowercase`. -/
def isAsciiLowercase : Bool := 0x61 ≤ b && b ≤ 0x7A

/-- `u8::is_ascii_alphabetic`. -/
def isAsciiAlphabetic : Bool := isAsciiUppercase b || isAsciiLowercase b

/-- `u8::is_ascii_alphanumeric`. -/
def isAsciiAlphanumeric : Bool := isAsciiAlphabetic b || isAsciiDigit b

/-- `u8::is_ascii_hexdigit`. -/
def isAsciiHexdigit : Bool :=
  isAsciiDigit b || (0x41 ≤ b && b ≤ 0x46) || (0x61 ≤ b && b ≤ 0x66)

/-- `u8::is_ascii_whitespace`: space, tab, LF, form feed and CR. -/
def isAsciiWhitespace : Bool :=
  b == 0x20 || b == 0x09 || b == 0x0A || b == 0x0C || b == 0x0D

/-- `u8::to_ascii_lowercase`. -/
def toAsciiLowercase : UInt8 := if isAsciiUppercase b then b + 0x20 else b

/-! ## UTF-16 -/

/-- A Java string: a sequence of UTF-16 code units, surrogates not necessarily paired. -/
abbrev JavaString := List UInt16

/-- The code units of one scalar value. -/
def utf16Char (c : Char) : JavaString :=
  if c.toNat < 0x10000 then [UInt16.ofNat c.toNat]
  else [UInt16.ofNat (0xD800 + (c.toNat - 0x10000) / 0x400),
    UInt16.ofNat (0xDC00 + (c.toNat - 0x10000) % 0x400)]

/-- The code units of a text. -/
def utf16Encode (s : String) : JavaString := s.toList.flatMap utf16Char

/-- `Character.isHighSurrogate`. -/
def isHighSurrogate (u : UInt16) : Bool := 0xD800 ≤ u.toNat && u.toNat ≤ 0xDBFF

/-- `Character.isLowSurrogate`. -/
def isLowSurrogate (u : UInt16) : Bool := 0xDC00 ≤ u.toNat && u.toNat ≤ 0xDFFF

/-- The bytes of UTF-8 for a unit that is no surrogate. -/
def unitBytes (u : UInt16) : ℕ := if u ≤ 0x7F then 1 else if u ≤ 0x7FF then 2 else 3

/-- The scalar values of a string whose surrogates are paired. -/
def utf16Chars : JavaString → Option (List Char)
  | [] => some []
  | u :: rest =>
    if isHighSurrogate u then
      match rest with
      | [] => none
      | l :: rest =>
        if isLowSurrogate l then
          (utf16Chars rest).map
            (Char.ofNat (0x10000 + (u.toNat - 0xD800) * 0x400 + (l.toNat - 0xDC00)) :: ·)
        else none
    else if isLowSurrogate u then none
    else (utf16Chars rest).map (Char.ofNat u.toNat :: ·)

/-- The text of a string whose surrogates are paired. -/
def utf16Decode (u : JavaString) : Option String := (utf16Chars u).map String.ofList

lemma toNat_charOfNat {n : ℕ} (h : n < 0xD800 ∨ 0xDFFF < n ∧ n < 0x110000) :
    (Char.ofNat n).toNat = n := by
  have hv : n.isValidChar := h
  rw [Char.ofNat, dif_pos hv]
  exact UInt32.toNat_ofNatLT ..

lemma flatMap_utf16Char_of_utf16Chars {cs : List Char} (h : utf16Chars u = some cs) :
    cs.flatMap utf16Char = u := by
  fun_induction utf16Chars u generalizing cs with
  | case1 => simp_all
  | case2 => simp at h
  | case3 u hu l rest hl ih =>
    obtain ⟨cs', hcs', rfl⟩ := Option.map_eq_some_iff.mp h
    simp only [isHighSurrogate, isLowSurrogate, Bool.and_eq_true, decide_eq_true_eq] at hu hl
    have hn := toNat_charOfNat
      (n := 0x10000 + (u.toNat - 0xD800) * 0x400 + (l.toNat - 0xDC00)) (by omega)
    have hchar : utf16Char (Char.ofNat
        (0x10000 + (u.toNat - 0xD800) * 0x400 + (l.toNat - 0xDC00))) = [u, l] := by
      rw [utf16Char, hn, if_neg (by omega)]
      have h₁ : 0xD800 + (0x10000 + (u.toNat - 0xD800) * 0x400 + (l.toNat - 0xDC00) - 0x10000)
          / 0x400 = u.toNat := by omega
      have h₂ : 0xDC00 + (0x10000 + (u.toNat - 0xD800) * 0x400 + (l.toNat - 0xDC00) - 0x10000)
          % 0x400 = l.toNat := by omega
      rw [h₁, h₂, UInt16.ofNat_toNat, UInt16.ofNat_toNat]
    rw [List.flatMap_cons, hchar, ih hcs']
    rfl
  | case4 => simp at h
  | case5 => simp at h
  | case6 u rest hu hl ih =>
    obtain ⟨cs', hcs', rfl⟩ := Option.map_eq_some_iff.mp h
    simp only [isHighSurrogate, isLowSurrogate, Bool.and_eq_true, decide_eq_true_eq] at hu hl
    have hlt := u.toNat_lt
    have hn := toNat_charOfNat (n := u.toNat) (by omega)
    have hchar : utf16Char (Char.ofNat u.toNat) = [u] := by
      rw [utf16Char, hn, if_pos (by omega), UInt16.ofNat_toNat]
    rw [List.flatMap_cons, hchar, ih hcs']
    rfl

lemma utf16Encode_of_utf16Decode (h : utf16Decode u = some s) :
    utf16Encode s = u := by
  obtain ⟨cs, hcs, rfl⟩ := Option.map_eq_some_iff.mp h
  simpa [utf16Encode] using flatMap_utf16Char_of_utf16Chars hcs

lemma utf16Chars_append_utf16Char (c : Char) (u : JavaString) :
    utf16Chars (utf16Char c ++ u) = (utf16Chars u).map (c :: ·) := by
  have hv : c.toNat < 0xD800 ∨ 0xDFFF < c.toNat ∧ c.toNat < 0x110000 := c.valid
  by_cases hc : c.toNat < 0x10000
  · have hn : (UInt16.ofNat c.toNat).toNat = c.toNat := UInt16.toNat_ofNat_of_lt hc
    have hhi : isHighSurrogate (UInt16.ofNat c.toNat) = false := by
      simp only [isHighSurrogate, hn, Bool.and_eq_false_iff, decide_eq_false_iff_not]
      omega
    have hlo : isLowSurrogate (UInt16.ofNat c.toNat) = false := by
      simp only [isLowSurrogate, hn, Bool.and_eq_false_iff, decide_eq_false_iff_not]
      omega
    rw [utf16Char, if_pos hc, List.singleton_append, utf16Chars.eq_def]
    simp [hhi, hlo, hn]
  · have hn₁ : (UInt16.ofNat (0xD800 + (c.toNat - 0x10000) / 0x400)).toNat
        = 0xD800 + (c.toNat - 0x10000) / 0x400 := UInt16.toNat_ofNat_of_lt (by rw [UInt16.size]; omega)
    have hn₂ : (UInt16.ofNat (0xDC00 + (c.toNat - 0x10000) % 0x400)).toNat
        = 0xDC00 + (c.toNat - 0x10000) % 0x400 := UInt16.toNat_ofNat_of_lt (by rw [UInt16.size]; omega)
    have hhi : isHighSurrogate (UInt16.ofNat (0xD800 + (c.toNat - 0x10000) / 0x400)) = true := by
      simp only [isHighSurrogate, hn₁, Bool.and_eq_true, decide_eq_true_eq]
      omega
    have hlo : isLowSurrogate (UInt16.ofNat (0xDC00 + (c.toNat - 0x10000) % 0x400)) = true := by
      simp only [isLowSurrogate, hn₂, Bool.and_eq_true, decide_eq_true_eq]
      omega
    have hsum : 0x10000 + (0xD800 + (c.toNat - 0x10000) / 0x400 - 0xD800) * 0x400
        + (0xDC00 + (c.toNat - 0x10000) % 0x400 - 0xDC00) = c.toNat := by omega
    simp only [utf16Char, hc, if_false, List.cons_append, List.nil_append, utf16Chars, hhi, hlo,
      if_true, hn₁, hn₂, hsum, Char.ofNat_toNat]

/-- A scalar value is one unit that is no surrogate, or a high and a low one. -/
lemma utf16Char_cases (c : Char) :
    (∃ u, utf16Char c = [u] ∧ u.toNat = c.toNat ∧ c.toNat < 0x10000 ∧
      isHighSurrogate u = false ∧ isLowSurrogate u = false) ∨
    ∃ h l, utf16Char c = [h, l] ∧ 0x10000 ≤ c.toNat ∧ isHighSurrogate h = true ∧
      isLowSurrogate l = true := by
  have hv : c.toNat < 0xD800 ∨ 0xDFFF < c.toNat ∧ c.toNat < 0x110000 := c.valid
  by_cases hc : c.toNat < 0x10000
  · left
    have hn : (UInt16.ofNat c.toNat).toNat = c.toNat := UInt16.toNat_ofNat_of_lt hc
    refine ⟨UInt16.ofNat c.toNat, by rw [utf16Char, if_pos hc], hn, hc, ?_, ?_⟩
    · simp only [isHighSurrogate, hn, Bool.and_eq_false_iff, decide_eq_false_iff_not]
      omega
    · simp only [isLowSurrogate, hn, Bool.and_eq_false_iff, decide_eq_false_iff_not]
      omega
  · right
    have hn₁ : (UInt16.ofNat (0xD800 + (c.toNat - 0x10000) / 0x400)).toNat =
        0xD800 + (c.toNat - 0x10000) / 0x400 := UInt16.toNat_ofNat_of_lt (by rw [UInt16.size]; omega)
    have hn₂ : (UInt16.ofNat (0xDC00 + (c.toNat - 0x10000) % 0x400)).toNat =
        0xDC00 + (c.toNat - 0x10000) % 0x400 := UInt16.toNat_ofNat_of_lt (by rw [UInt16.size]; omega)
    refine ⟨_, _, by rw [utf16Char, if_neg hc], by omega, ?_, ?_⟩
    · simp only [isHighSurrogate, hn₁, Bool.and_eq_true, decide_eq_true_eq]
      omega
    · simp only [isLowSurrogate, hn₂, Bool.and_eq_true, decide_eq_true_eq]
      omega

lemma length_utf8EncodeChar (c : Char) : (String.utf8EncodeChar c).length =
    if c.toNat ≤ 0x7F then 1 else if c.toNat ≤ 0x7FF then 2 else if c.toNat ≤ 0xFFFF then 3
    else 4 := by
  have hc : c.val.toNat = c.toNat := rfl
  rw [String.utf8EncodeChar, hc]
  split_ifs <;> simp only [List.length_cons, List.length_nil]

lemma unitBytes_of_char {u : UInt16} (h : utf16Char c = [u]) :
    unitBytes u = (String.utf8EncodeChar c).length := by
  rcases utf16Char_cases c with ⟨v, hv, hnat, hsmall, -⟩ | ⟨v, l, hv, -⟩
  · obtain rfl := List.singleton_inj.mp (h.symm.trans hv)
    have h7F : (0x7F : UInt16).toNat = 0x7F := rfl
    have h7FF : (0x7FF : UInt16).toNat = 0x7FF := rfl
    simp only [unitBytes, UInt16.le_iff_toNat_le, h7F, h7FF, hnat, length_utf8EncodeChar]
    split_ifs <;> omega
  · rw [h] at hv
    cases hv

lemma length_utf8_of_large (h : 0x10000 ≤ c.toNat) :
    (String.utf8EncodeChar c).length = 4 := by
  rw [length_utf8EncodeChar]
  split_ifs <;> omega

lemma utf16Encode_append (s t : String) : utf16Encode (s ++ t) = utf16Encode s ++ utf16Encode t := by
  rw [utf16Encode, String.toList_append, List.flatMap_append]
  rfl

lemma asBytes_append (s t : String) : asBytes (s ++ t) = asBytes s ++ asBytes t := by
  simp only [asBytes_eq_flatMap, String.toList_append, List.flatMap_append]

@[simp] lemma utf16Decode_utf16Encode (s : String) : utf16Decode (utf16Encode s) = some s := by
  have h : ∀ cs : List Char, utf16Chars (cs.flatMap utf16Char) = some cs := by
    intro cs
    induction cs with
    | nil => rfl
    | cons c cs ih => rw [List.flatMap_cons, utf16Chars_append_utf16Char, ih]; rfl
  simp [utf16Decode, utf16Encode, h]

lemma utf16Encode_injective : Function.Injective utf16Encode := by
  intro s t h
  have hs := utf16Decode_utf16Encode s
  rw [h, utf16Decode_utf16Encode] at hs
  exact (Option.some_inj.mp hs).symm

lemma utf16Chars_of_ascii (h : ∀ x ∈ u, x.toNat < 0x80) :
    utf16Chars u = some (u.map fun x => Char.ofNat x.toNat) := by
  induction u with
  | nil => rfl
  | cons x u ih =>
    have hx : x.toNat < 0x80 := h x (by simp)
    have hhigh : isHighSurrogate x = false := by
      rw [isHighSurrogate, Bool.and_eq_false_iff]
      exact Or.inl (by simpa using by omega)
    have hlow : isLowSurrogate x = false := by
      rw [isLowSurrogate, Bool.and_eq_false_iff]
      exact Or.inl (by simpa using by omega)
    rw [utf16Chars.eq_def]
    simp [hhigh, hlow, ih fun y hy => h y (by simp [hy])]

lemma asBytes_of_asciiUnits (hu : ∀ x ∈ u, x.toNat < 0x80) (h : utf16Decode u = some s) :
    asBytes s = u.map fun x => UInt8.ofNat x.toNat := by
  rw [utf16Decode, utf16Chars_of_ascii hu] at h
  obtain rfl := Option.some_inj.mp h
  have hchar : ∀ x ∈ u, (Char.ofNat x.toNat).toNat = x.toNat := fun x hx =>
    toNat_charOfNat (Or.inl (by have := hu x hx; omega))
  rw [asBytes_of_ascii, String.toList_ofList, List.map_map]
  · exact List.map_congr_left fun x hx => by simp [hchar x hx]
  · rw [String.toList_ofList]
    simp only [List.mem_map]
    rintro _ ⟨x, hx, rfl⟩
    rw [hchar x hx]
    exact hu x hx

lemma length_utf16Encode_le (s : String) : (utf16Encode s).length ≤ (asBytes s).length := by
  have hchar : ∀ c : Char, (utf16Char c).length ≤ (String.utf8EncodeChar c).length := by
    intro c
    have hc : c.val.toNat = c.toNat := rfl
    rw [utf16Char, String.utf8EncodeChar, hc]
    split_ifs <;> simp only [List.length_cons, List.length_nil] <;> omega
  rw [utf16Encode, asBytes_eq_flatMap]
  induction s.toList with
  | nil => exact le_rfl
  | cons c cs ih =>
    simp only [List.flatMap_cons, List.length_append]
    exact Nat.add_le_add (hchar c) ih

lemma mem_of_mem_utf16Encode {u : UInt16} (h : u ∈ utf16Encode s) (hu : u.toNat < 0x80) :
    ∃ c ∈ s.toList, c.toNat = u.toNat := by
  obtain ⟨c, hc, hmem⟩ := List.mem_flatMap.mp h
  refine ⟨c, hc, ?_⟩
  have hv : c.toNat < 0xD800 ∨ 0xDFFF < c.toNat ∧ c.toNat < 0x110000 := c.valid
  rw [utf16Char] at hmem
  split_ifs at hmem with hsmall
  · rw [List.mem_singleton] at hmem
    subst hmem
    exact (UInt16.toNat_ofNat_of_lt hsmall).symm
  · -- the two surrogates of a larger scalar value are no ASCII units
    have h₁ : (UInt16.ofNat (0xD800 + (c.toNat - 0x10000) / 0x400)).toNat =
        0xD800 + (c.toNat - 0x10000) / 0x400 :=
      UInt16.toNat_ofNat_of_lt (by rw [UInt16.size]; omega)
    have h₂ : (UInt16.ofNat (0xDC00 + (c.toNat - 0x10000) % 0x400)).toNat =
        0xDC00 + (c.toNat - 0x10000) % 0x400 :=
      UInt16.toNat_ofNat_of_lt (by rw [UInt16.size]; omega)
    simp only [List.mem_cons, List.not_mem_nil, or_false] at hmem
    rcases hmem with rfl | rfl <;> omega

lemma utf16Encode_of_ascii (h : ∀ b ∈ asBytes s, b.toNat < 0x80) :
    utf16Encode s = (asBytes s).map fun b => UInt16.ofNat b.toNat := by
  rw [utf16Encode, toList_of_ascii h, List.flatMap_map, List.map_eq_flatMap]
  refine List.flatMap_congr fun b hb => ?_
  have hlt := h b hb
  have hchar : (Char.ofNat b.toNat).toNat = b.toNat := toNat_charOfNat (Or.inl (by omega))
  rw [utf16Char, hchar, if_pos (by omega)]

end JaDesktop
