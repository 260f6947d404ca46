import JaDesktop.Lib.Text

/-!
# Texts inside byte strings

A text is a list of Unicode scalar values and `utf8` its bytes.  No encoding of a character has
the first byte of another one inside, so an occurrence of one text in the bytes of another is an
occurrence in that text (`exists_of_utf8_eq_append`).  `decodeReplacing` reads any bytes, with
U+FFFD in the place of what is no character; how many bytes such a place takes is a parameter, and
`decodeUtf8` is the instance of Java.
-/

namespace JaDesktop

variable {c : Char} {cs xs ys : List Char} {bs p q : List UInt8}

/-- The bytes of a text. -/
def utf8 (cs : List Char) : List UInt8 := cs.flatMap String.utf8EncodeChar

@[simp] lemma utf8_nil : utf8 [] = [] := rfl

lemma utf8_cons : utf8 (c :: cs) = String.utf8EncodeChar c ++ utf8 cs := List.flatMap_cons

lemma utf8_append : utf8 (xs ++ ys) = utf8 xs ++ utf8 ys := List.flatMap_append

/-- The bytes are those of a text. -/
def IsUtf8 (bs : List UInt8) : Prop := ∃ cs, bs = utf8 cs

lemma utf8_eq_nil_iff : utf8 cs = [] ↔ cs = [] := by
  constructor
  · intro h
    cases cs with
    | nil => rfl
    | cons c cs =>
      rw [utf8_cons, List.append_eq_nil_iff] at h
      exact absurd h.1 (utf8EncodeChar_ne_nil c)
  · rintro rfl
    rfl

/-! ## The first character -/

/-- The character at the head of some bytes. -/
def firstChar (bs : List UInt8) : Option Char := ByteArray.utf8DecodeChar? ⟨bs.toArray⟩ 0

@[simp] lemma firstChar_append : firstChar (String.utf8EncodeChar c ++ bs) = some c := by
  have hbytes : (⟨(String.utf8EncodeChar c ++ bs).toArray⟩ : ByteArray) =
      (String.utf8EncodeChar c).toByteArray ++ bs.toByteArray := by
    rw [← List.toByteArray_append]
    apply ByteArray.ext
    simp
  rw [firstChar, hbytes]
  exact ByteArray.utf8DecodeChar?_utf8EncodeChar_append

lemma utf8EncodeChar_append_inj {d : Char}
    (h : String.utf8EncodeChar c ++ p = String.utf8EncodeChar d ++ q) : c = d ∧ p = q := by
  have hfirst := congrArg firstChar h
  rw [firstChar_append, firstChar_append, Option.some_inj] at hfirst
  subst hfirst
  exact ⟨rfl, List.append_cancel_left h⟩

/-- Where the bytes of a text start with those of another, so does the text. -/
lemma exists_of_utf8_append_eq (h : utf8 xs ++ q = utf8 cs) : ∃ ys, cs = xs ++ ys ∧ q = utf8 ys := by
  induction xs generalizing cs with
  | nil => exact ⟨cs, rfl, h⟩
  | cons x xs ih =>
    cases cs with
    | nil =>
      rw [utf8_cons, List.append_assoc, utf8_nil, List.append_eq_nil_iff] at h
      exact absurd h.1 (utf8EncodeChar_ne_nil x)
    | cons c cs =>
      rw [utf8_cons, utf8_cons, List.append_assoc] at h
      obtain ⟨rfl, hrest⟩ := utf8EncodeChar_append_inj h
      obtain ⟨ys, rfl, hq⟩ := ih hrest
      exact ⟨ys, rfl, hq⟩

lemma utf8_injective : Function.Injective utf8 := by
  intro xs ys h
  have happend : utf8 xs ++ [] = utf8 ys := by rw [List.append_nil, h]
  obtain ⟨zs, rfl, hzs⟩ := exists_of_utf8_append_eq happend
  rw [utf8_eq_nil_iff.mp hzs.symm, List.append_nil]

/-- The bytes of a character begin where the bytes of a text before it end. -/
lemma length_le_of_utf8EncodeChar_append {d : Char} (hp : p ≠ [])
    (h : String.utf8EncodeChar c ++ bs = p ++ (String.utf8EncodeChar d ++ q)) :
    (String.utf8EncodeChar c).length ≤ p.length := by
  by_contra hlt
  have hfirst : ∀ hd : 0 < (String.utf8EncodeChar d).length,
      (getElem (String.utf8EncodeChar d) 0 hd).IsUTF8FirstByte := fun hd =>
    UInt8.isUTF8FirstByte_getElem_utf8EncodeChar.mpr rfl
  have hpos : 0 < (String.utf8EncodeChar d).length :=
    List.length_pos_of_ne_nil (utf8EncodeChar_ne_nil d)
  -- the byte at `p.length` is the first one of `d` and a later one of `c`
  have hbyte : (String.utf8EncodeChar c)[p.length]? =
      some (getElem (String.utf8EncodeChar d) 0 hpos) := by
    have hat := congrArg (fun l => l[p.length]?) h
    rw [List.getElem?_append_left (by omega), List.getElem?_append_right (Nat.le_refl _),
      Nat.sub_self, List.getElem?_append_left hpos, List.getElem?_eq_getElem hpos] at hat
    exact hat
  obtain ⟨hlen, hget⟩ := List.getElem?_eq_some_iff.mp hbyte
  have hlater := hfirst hpos
  rw [← hget, UInt8.isUTF8FirstByte_getElem_utf8EncodeChar] at hlater
  exact hp (List.eq_nil_of_length_eq_zero hlater)

/-- **An occurrence in the bytes of a text is an occurrence in the text**: what stands before and
after the bytes of a text that is not empty are the bytes of texts. -/
theorem exists_of_utf8_eq_append (hxs : xs ≠ []) (h : utf8 cs = p ++ (utf8 xs ++ q)) :
    ∃ before after, cs = before ++ (xs ++ after) ∧ p = utf8 before ∧ q = utf8 after := by
  induction cs generalizing p with
  | nil =>
    have hnil := List.append_eq_nil_iff.mp h.symm
    exact absurd (utf8_eq_nil_iff.mp (List.append_eq_nil_iff.mp hnil.2).1) hxs
  | cons c cs ih =>
    by_cases hp : p = []
    · subst hp
      obtain ⟨ys, hys, hq⟩ := exists_of_utf8_append_eq h.symm
      exact ⟨[], ys, hys, rfl, hq⟩
    · obtain ⟨x, xs', rfl⟩ := List.exists_cons_of_ne_nil hxs
      have hlength : (String.utf8EncodeChar c).length ≤ p.length := by
        rw [utf8_cons, utf8_cons, List.append_assoc] at h
        exact length_le_of_utf8EncodeChar_append hp h
      -- the first character belongs to what stands before
      obtain ⟨p', rfl⟩ : ∃ p', p = String.utf8EncodeChar c ++ p' := by
        have hprefix : String.utf8EncodeChar c <+: p := by
          have hc : String.utf8EncodeChar c <+: utf8 (c :: cs) := by
            rw [utf8_cons]
            exact List.prefix_append _ _
          have hpre : p <+: utf8 (c :: cs) := by
            rw [h]
            exact List.prefix_append _ _
          exact List.prefix_of_prefix_length_le hc hpre hlength
        exact hprefix.imp fun p' hp' => hp'.symm
      rw [utf8_cons, List.append_assoc, List.append_cancel_left_eq] at h
      obtain ⟨before, after, rfl, rfl, hq⟩ := ih h
      exact ⟨c :: before, after, rfl, rfl, hq⟩

lemma IsUtf8.of_append (hxs : xs ≠ []) (h : IsUtf8 (p ++ (utf8 xs ++ q))) : IsUtf8 p ∧ IsUtf8 q := by
  obtain ⟨cs, hcs⟩ := h
  obtain ⟨before, after, -, hp, hq⟩ := exists_of_utf8_eq_append hxs hcs.symm
  exact ⟨⟨before, hp⟩, ⟨after, hq⟩⟩

lemma IsUtf8.append (hp : IsUtf8 p) (hq : IsUtf8 q) : IsUtf8 (p ++ q) := by
  obtain ⟨xs, rfl⟩ := hp
  obtain ⟨ys, rfl⟩ := hq
  exact ⟨xs ++ ys, utf8_append.symm⟩

/-! ## Reading any bytes -/

/-- The characters of at most `fuel` steps through some bytes: a step takes a character, or as many
bytes as `malformed` says and gives U+FFFD for them. -/
def decodeSteps (malformed : List UInt8 → ℕ) : ℕ → List UInt8 → List Char
  | 0, _ => []
  | _ + 1, [] => []
  | fuel + 1, bs =>
    match firstChar bs with
    | some c => c :: decodeSteps malformed fuel (bs.drop (String.utf8EncodeChar c).length)
    | none => '\uFFFD' :: decodeSteps malformed fuel (bs.drop (malformed bs))

/-- The text that is read from some bytes; each step takes at least one byte of them. -/
def decodeReplacing (malformed : List UInt8 → ℕ) (bs : List UInt8) : List Char :=
  decodeSteps malformed bs.length bs

variable {malformed : List UInt8 → ℕ}

lemma decodeSteps_utf8 {fuel : ℕ} (h : (utf8 cs).length ≤ fuel) :
    decodeSteps malformed fuel (utf8 cs) = cs := by
  induction cs generalizing fuel with
  | nil => cases fuel <;> rfl
  | cons c cs ih =>
    rw [utf8_cons, List.length_append] at h
    have hpos := List.length_pos_of_ne_nil (utf8EncodeChar_ne_nil c)
    obtain ⟨fuel, rfl⟩ : ∃ k, fuel = k + 1 := ⟨fuel - 1, by omega⟩
    obtain ⟨b, rest, hbytes⟩ : ∃ b rest, utf8 (c :: cs) = b :: rest :=
      List.exists_cons_of_ne_nil (by rw [Ne, utf8_eq_nil_iff]; simp)
    have hfirst : firstChar (b :: rest) = some c := by
      rw [← hbytes, utf8_cons, firstChar_append]
    rw [hbytes, decodeSteps.eq_3 _ _ _ (List.cons_ne_nil b rest), hfirst, ← hbytes, utf8_cons]
    dsimp only
    rw [List.drop_left, ih (by omega)]

@[simp] lemma decodeReplacing_utf8 : decodeReplacing malformed (utf8 cs) = cs :=
  decodeSteps_utf8 (Nat.le_refl _)

/-! ## The decoder of Java -/

/-- A byte that does not continue a character. -/
def isNotContinuation (b : UInt8) : Bool := b &&& 0xC0 != 0x80

/-- A lead byte of three whose second byte is missing from the encoding. -/
def isMalformed3_2 (b₁ b₂ : UInt8) : Bool :=
  (b₁ == 0xE0 && b₂ &&& 0xE0 == 0x80) || isNotContinuation b₂

/-- A lead byte of four whose second byte is missing from the encoding. -/
def isMalformed4_2 (b₁ b₂ : UInt8) : Bool :=
  0xF4 < b₁ || (b₁ == 0xF0 && (b₂ < 0x90 || 0xBF < b₂)) || (b₁ == 0xF4 && b₂ &&& 0xF0 != 0x80) ||
    isNotContinuation b₂

/-- How many bytes the decoder of Java takes for one U+FFFD where no character begins: the lead byte
with the continuation bytes that it may have, up to three bytes. -/
def malformedLength : List UInt8 → ℕ
  | b₁ :: b₂ :: rest =>
    if (b₁ >>> 4 == 0xE && !isMalformed3_2 b₁ b₂) || (b₁ >>> 3 == 0x1E && !isMalformed4_2 b₁ b₂) then
      match rest with
      | [] => 2
      | b₃ :: _ => if isNotContinuation b₃ then 2 else 3
    else 1
  | _ => 1

/-- `new String(bytes, StandardCharsets.UTF_8)`. -/
def decodeUtf8 (bytes : List UInt8) : List Char := decodeReplacing malformedLength bytes

@[simp] lemma decodeUtf8_utf8 : decodeUtf8 (utf8 cs) = cs := decodeReplacing_utf8

lemma utf8_decodeUtf8 (h : IsUtf8 bs) : utf8 (decodeUtf8 bs) = bs := by
  obtain ⟨cs, rfl⟩ := h
  rw [decodeUtf8_utf8]

end JaDesktop
