import JaDesktop.Lib.JsonText

/-!
# Indented JSON text

The same trees written over several lines, two blanks for each level.  `squeeze` drops the white
space outside quoted texts; what is left of an indented text is the compact text of its tree, so
that a reader of compact text serves for both.
-/

namespace JaDesktop.JsonText

/-! ## Writing -/

/-- The start of a line at a level. -/
def newline (level : ℕ) : List Char := '\n' :: List.replicate (2 * level) ' '

mutual

/-- The indented text of a tree that stands at a level. -/
def renderPretty (level : ℕ) : Json String ℤ → List Char
  | .array (c :: items) => ['['] ++ newline (level + 1) ++ renderPretty (level + 1) c ++
      renderPrettyItems level items
  | .object ((k, c) :: members) => ['{'] ++ newline (level + 1) ++ ('"' :: quoteBody k.toList) ++
      [':', ' '] ++ renderPretty (level + 1) c ++ renderPrettyMembers level members
  | .array [] => ['[', ']']
  | .object [] => ['{', '}']
  | .null => render .null
  | .bool b => render (.bool b)
  | .number n => render (.number n)
  | .string s => render (.string s)

def renderPrettyItems (level : ℕ) : List (Json String ℤ) → List Char
  | [] => newline level ++ [']']
  | c :: items => [','] ++ newline (level + 1) ++ renderPretty (level + 1) c ++
      renderPrettyItems level items

def renderPrettyMembers (level : ℕ) : List (String × Json String ℤ) → List Char
  | [] => newline level ++ ['}']
  | (k, c) :: members => [','] ++ newline (level + 1) ++ ('"' :: quoteBody k.toList) ++
      [':', ' '] ++ renderPretty (level + 1) c ++ renderPrettyMembers level members

end

/-! ## Dropping white space -/

/-- Where a scanner of JSON text stands: between tokens, in a quoted text, after a backslash. -/
inductive Place
  | between
  | quoted
  | escaped

/-- The white space of JSON. -/
def isBlankChar (c : Char) : Bool := c == ' ' || c == '\n' || c == '\r' || c == '\t'

/-- Drop the white space outside quoted texts. -/
def squeeze : Place → List Char → List Char
  | _, [] => []
  | .between, c :: r =>
    if isBlankChar c then squeeze .between r
    else c :: squeeze (if c = '"' then .quoted else .between) r
  | .quoted, c :: r =>
    c :: squeeze (if c = '\\' then .escaped else if c = '"' then .between else .quoted) r
  | .escaped, c :: r => c :: squeeze .quoted r

/-- The scanner turns `cs` into `ds` and stands between tokens again. -/
def Squeezes (cs ds : List Char) : Prop :=
  ∀ r, squeeze .between (cs ++ r) = ds ++ squeeze .between r

lemma Squeezes.append {cs cs' ds ds' : List Char} (h : Squeezes cs ds) (h' : Squeezes cs' ds') :
    Squeezes (cs ++ cs') (ds ++ ds') := by
  intro r
  rw [List.append_assoc, h, h', List.append_assoc]

lemma squeezes_plain {cs : List Char} (h : ∀ c ∈ cs, isBlankChar c = false ∧ c ≠ '"') :
    Squeezes cs cs := by
  intro r
  induction cs with
  | nil => rfl
  | cons c cs ih =>
    obtain ⟨hblank, hquote⟩ := h c (by simp)
    have hrest := ih fun d hd => h d (by simp [hd])
    simp [squeeze, hblank, hquote, hrest]

lemma squeezes_blank {cs : List Char} (h : ∀ c ∈ cs, isBlankChar c = true) : Squeezes cs [] := by
  intro r
  induction cs with
  | nil => rfl
  | cons c cs ih =>
    have hrest := ih fun d hd => h d (by simp [hd])
    simpa [squeeze, h c (by simp)] using hrest

lemma squeezes_newline (level : ℕ) : Squeezes (newline level) [] := by
  refine squeezes_blank fun c hc => ?_
  simp only [newline, List.mem_cons, List.mem_replicate] at hc
  rcases hc with rfl | ⟨-, rfl⟩ <;> decide

lemma squeeze_quoteChar (c : Char) (r : List Char) :
    squeeze .quoted (quoteChar c ++ r) = quoteChar c ++ squeeze .quoted r := by
  have hhex : ∀ n < 16, hexDigit n ≠ '\\' ∧ hexDigit n ≠ '"' := by decide
  unfold quoteChar
  split_ifs with h₁ h₂ h₃ h₄ h₅ h₆
  iterate 5 simp [squeeze]
  · obtain ⟨ha, ha'⟩ := hhex (c.toNat / 16) (by omega)
    obtain ⟨hb, hb'⟩ := hhex (c.toNat % 16) (by omega)
    simp [squeeze, ha, ha', hb, hb']
  · simp [squeeze, h₁, h₂]

lemma squeezes_quoted (s : List Char) : Squeezes ('"' :: quoteBody s) ('"' :: quoteBody s) := by
  intro r
  have hbody : squeeze .quoted (quoteBody s ++ r) = quoteBody s ++ squeeze .between r := by
    induction s with
    | nil => simp [quoteBody, squeeze]
    | cons c s ih =>
      simp only [quoteBody, List.flatMap_cons, List.append_assoc] at ih ⊢
      rw [squeeze_quoteChar, ih]
  have hquote : isBlankChar '"' = false := by decide
  simp only [List.cons_append, squeeze, hquote, Bool.false_eq_true, if_false, if_true, hbody]

lemma squeezes_renderInt (i : ℤ) : Squeezes (renderInt i) (renderInt i) := by
  have hdigits : ∀ n : ℕ, ∀ c ∈ Nat.toDigits 10 n, isBlankChar c = false ∧ c ≠ '"' := by
    intro n c hc
    have hd := Nat.isDigit_of_mem_toDigits (by decide) (by decide) hc
    constructor
    · rw [Bool.eq_false_iff]
      intro hblank
      simp only [isBlankChar, Bool.or_eq_true, beq_iff_eq] at hblank
      rcases hblank with ((rfl | rfl) | rfl) | rfl <;> exact absurd hd (by decide)
    · rintro rfl
      exact absurd hd (by decide)
  refine squeezes_plain ?_
  cases i with
  | ofNat n => exact hdigits n
  | negSucc n => exact List.forall_mem_cons.mpr ⟨by decide, hdigits _⟩

lemma squeezes_renderPrettyItems {level : ℕ} {items : List (Json String ℤ)}
    (h : ∀ c ∈ items, Squeezes (renderPretty (level + 1) c) (render c)) :
    Squeezes (renderPrettyItems level items) (renderItems items) := by
  induction items with
  | nil => exact (squeezes_newline level).append (squeezes_plain (forall_mem_of_all (by decide)))
  | cons c items ih =>
    have hcomma : Squeezes [','] [','] := squeezes_plain (forall_mem_of_all (by decide))
    have hrest := ih fun d hd => h d (by simp [hd])
    simpa [renderPrettyItems, renderItems] using
      ((hcomma.append (squeezes_newline (level + 1))).append (h c (by simp))).append hrest

lemma squeezes_member {level : ℕ} {k : String} {c : Json String ℤ}
    (h : Squeezes (renderPretty level c) (render c)) :
    Squeezes (('"' :: quoteBody k.toList) ++ [':', ' '] ++ renderPretty level c)
      (('"' :: quoteBody k.toList) ++ [':'] ++ render c) := by
  have hcolon : Squeezes [':', ' '] [':'] := by
    intro r
    simp [squeeze, isBlankChar]
  exact ((squeezes_quoted _).append hcolon).append h

lemma squeezes_renderPrettyMembers {level : ℕ} {members : List (String × Json String ℤ)}
    (h : ∀ m ∈ members, Squeezes (renderPretty (level + 1) m.2) (render m.2)) :
    Squeezes (renderPrettyMembers level members) (renderMembers members) := by
  induction members with
  | nil => exact (squeezes_newline level).append (squeezes_plain (forall_mem_of_all (by decide)))
  | cons m members ih =>
    obtain ⟨k, c⟩ := m
    have hcomma : Squeezes [','] [','] := squeezes_plain (forall_mem_of_all (by decide))
    have hmember := squeezes_member (k := k) (h (k, c) (by simp))
    have hrest := ih fun d hd => h d (by simp [hd])
    simpa [renderPrettyMembers, renderMembers] using
      ((hcomma.append (squeezes_newline (level + 1))).append hmember).append hrest

lemma squeezes_renderPretty (v : Json String ℤ) (level : ℕ) :
    Squeezes (renderPretty level v) (render v) := by
  induction v using Json.ind generalizing level with
  | null =>
    show Squeezes (render .null) (render .null)
    exact squeezes_plain (forall_mem_of_all (by decide))
  | bool b =>
    show Squeezes (render (.bool b)) (render (.bool b))
    cases b <;> exact squeezes_plain (forall_mem_of_all (by decide))
  | number n => exact squeezes_renderInt n
  | string s => exact squeezes_quoted s.toList
  | array items ih =>
    cases items with
    | nil =>
      show Squeezes ['[', ']'] ['[', ']']
      exact squeezes_plain (forall_mem_of_all (by decide))
    | cons c items =>
      have hopen : Squeezes ['['] ['['] := squeezes_plain (forall_mem_of_all (by decide))
      have hitems : Squeezes (renderPrettyItems level items) (renderItems items) :=
        squeezes_renderPrettyItems fun d hd => ih d (by simp [hd]) (level + 1)
      simpa [renderPretty, render] using
        ((hopen.append (squeezes_newline (level + 1))).append (ih c (by simp) _)).append hitems
  | object members ih =>
    cases members with
    | nil =>
      show Squeezes ['{', '}'] ['{', '}']
      exact squeezes_plain (forall_mem_of_all (by decide))
    | cons m members =>
      obtain ⟨k, c⟩ := m
      have hopen : Squeezes ['{'] ['{'] := squeezes_plain (forall_mem_of_all (by decide))
      have hmember := squeezes_member (k := k) (ih (k, c) (by simp) (level + 1))
      have hmembers : Squeezes (renderPrettyMembers level members) (renderMembers members) :=
        squeezes_renderPrettyMembers fun d hd => ih d (by simp [hd]) (level + 1)
      simpa [renderPretty, render] using
        ((hopen.append (squeezes_newline (level + 1))).append hmember).append hmembers

/-- **The round trip of indented text**: squeezed, it reads as the tree and nothing else. -/
theorem read_squeeze_renderPretty (v : Json String ℤ) :
    read (squeeze .between (renderPretty 0 v)) = (Doc.ofJson v, true) := by
  have h := squeezes_renderPretty v 0 []
  simp only [List.append_nil, squeeze] at h
  rw [h, read_render]

end JaDesktop.JsonText
