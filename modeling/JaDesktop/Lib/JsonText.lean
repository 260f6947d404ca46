import JaDesktop.Lib.Text
import JaDesktop.Lib.JsonTree

/-!
# JSON text

A streaming JSON reader drives a visitor: it reports scalars, and it opens arrays and objects
whose children the visitor then asks for one by one.  `Doc` is the tree of these reports; a
place where the reader would fail is part of the tree, because a visitor that stops earlier
never sees it.

The second part is a small text format for trees with integer numbers: `render` writes the
compact form without blanks, `read` reads it, and `read_render` is the round trip.
-/

namespace JaDesktop

/-! ## What a reader reports -/

/-- The reports of a streaming reader for one value.  The flag of a container says whether its
closing bracket is reached after the listed children, or whether the reader fails there. -/
inductive Doc (ν : Type)
  | null
  | bool (b : Bool)
  | number (n : ν)
  | string (s : String)
  | seq (items : List (Doc ν)) (closed : Bool)
  | map (entries : List (String × Doc ν)) (closed : Bool)
  | malformed
deriving Repr

namespace Doc

variable {ν : Type}

mutual

/-- The reports for a complete tree. -/
def ofJson : Json String ν → Doc ν
  | .null => .null
  | .bool b => .bool b
  | .number n => .number n
  | .string s => .string s
  | .array items => .seq (ofItems items) true
  | .object members => .map (ofMembers members) true

def ofItems : List (Json String ν) → List (Doc ν)
  | [] => []
  | c :: items => ofJson c :: ofItems items

def ofMembers : List (String × Json String ν) → List (String × Doc ν)
  | [] => []
  | (k, c) :: members => (k, ofJson c) :: ofMembers members

end

mutual

/-- Replace every reported number, or report a failure where `f` has no value. -/
def mapNumbers {μ : Type} (f : ν → Option μ) : Doc ν → Doc μ
  | .null => .null
  | .bool b => .bool b
  | .number n => (f n).elim .malformed .number
  | .string s => .string s
  | .seq items closed => .seq (mapNumbersItems f items) closed
  | .map entries closed => .map (mapNumbersEntries f entries) closed
  | .malformed => .malformed

def mapNumbersItems {μ : Type} (f : ν → Option μ) : List (Doc ν) → List (Doc μ)
  | [] => []
  | d :: items => mapNumbers f d :: mapNumbersItems f items

def mapNumbersEntries {μ : Type} (f : ν → Option μ) : List (String × Doc ν) → List (String × Doc μ)
  | [] => []
  | (k, d) :: entries => (k, mapNumbers f d) :: mapNumbersEntries f entries

end

/-- Reading back numbers that were replaced on the way out gives the original reports. -/
theorem mapNumbers_ofJson {μ : Type} {f : ν → μ} {g : μ → Option ν} {v : Json String ν}
    (h : v.EachNumber fun n => g (f n) = some n) :
    (ofJson (v.mapNumbers f)).mapNumbers g = ofJson v := by
  have hitems : ∀ items : List (Json String ν),
      (∀ c ∈ items, (ofJson (c.mapNumbers f)).mapNumbers g = ofJson c) →
      mapNumbersItems g (ofItems (Json.mapNumbersItems f items)) = ofItems items := by
    intro items hc
    induction items with
    | nil => rfl
    | cons c items ih =>
      have hrest := ih fun d hd => hc d (by simp [hd])
      simp [Json.mapNumbersItems, ofItems, mapNumbersItems, hc c (by simp), hrest]
  have hmembers : ∀ members : List (String × Json String ν),
      (∀ m ∈ members, (ofJson (m.2.mapNumbers f)).mapNumbers g = ofJson m.2) →
      mapNumbersEntries g (ofMembers (Json.mapNumbersMembers f members)) = ofMembers members := by
    intro members hm
    induction members with
    | nil => rfl
    | cons m members ih =>
      obtain ⟨k, c⟩ := m
      have hrest := ih fun d hd => hm d (by simp [hd])
      simp [Json.mapNumbersMembers, ofMembers, mapNumbersEntries, hm (k, c) (by simp), hrest]
  induction v using Json.ind with
  | null | bool | string => rfl
  | number n =>
    cases h with
    | number hn => simp [Json.mapNumbers, ofJson, mapNumbers, hn]
  | array items ih =>
    cases h with
    | array hc =>
      simp [Json.mapNumbers, ofJson, mapNumbers, hitems items fun c hmem => ih c hmem (hc c hmem)]
  | object members ih =>
    cases h with
    | object hm =>
      simp [Json.mapNumbers, ofJson, mapNumbers,
        hmembers members fun m hmem => ih m hmem (hm m hmem)]

/-- Where replaced reports are those of a tree, the tree has the shape of the reports. -/
theorem shape_of_mapNumbers_ofJson {μ : Type} {g : ν → Option μ} {v : Json String ν} {raw : Json String μ}
    (h : (ofJson v).mapNumbers g = ofJson raw) : raw.shape = v.shape := by
  have hitems : ∀ (items : List (Json String ν)) (raws : List (Json String μ)),
      (∀ c ∈ items, ∀ r : Json String μ, (ofJson c).mapNumbers g = ofJson r → r.shape = c.shape) →
      mapNumbersItems g (ofItems items) = ofItems raws →
      raws.map Json.shape = items.map Json.shape := by
    intro items
    induction items with
    | nil =>
      intro raws _ h
      cases raws with
      | nil => rfl
      | cons => simp [ofItems, mapNumbersItems] at h
    | cons c items ih =>
      intro raws hc h
      cases raws with
      | nil => simp [ofItems, mapNumbersItems] at h
      | cons r raws =>
        simp only [ofItems, mapNumbersItems, List.cons.injEq] at h
        rw [List.map_cons, List.map_cons, hc c (by simp) r h.1,
          ih raws (fun d hd => hc d (by simp [hd])) h.2]
  have hmembers : ∀ (members : List (String × Json String ν)) (raws : List (String × Json String μ)),
      (∀ m ∈ members, ∀ r : Json String μ, (ofJson m.2).mapNumbers g = ofJson r →
        r.shape = m.2.shape) →
      mapNumbersEntries g (ofMembers members) = ofMembers raws →
      raws.map (fun m => (m.1, m.2.shape)) = members.map fun m => (m.1, m.2.shape) := by
    intro members
    induction members with
    | nil =>
      intro raws _ h
      cases raws with
      | nil => rfl
      | cons => simp [ofMembers, mapNumbersEntries] at h
    | cons m members ih =>
      intro raws hm h
      cases raws with
      | nil => simp [ofMembers, mapNumbersEntries] at h
      | cons r raws =>
        simp only [ofMembers, mapNumbersEntries, List.cons.injEq, Prod.mk.injEq] at h
        rw [List.map_cons, List.map_cons, hm m (by simp) r.2 h.1.2, h.1.1,
          ih raws (fun d hd => hm d (by simp [hd])) h.2]
  induction v using Json.ind generalizing raw with
  | null =>
    cases raw with
    | null => rfl
    | _ => simp [ofJson, mapNumbers] at h
  | bool b =>
    cases raw with
    | bool b' =>
      obtain rfl : b = b' := by simpa [ofJson, mapNumbers] using h
      rfl
    | _ => simp [ofJson, mapNumbers] at h
  | string t =>
    cases raw with
    | string t' =>
      obtain rfl : t = t' := by simpa [ofJson, mapNumbers] using h
      rfl
    | _ => simp [ofJson, mapNumbers] at h
  | number n =>
    rw [ofJson, mapNumbers] at h
    cases hg : g n with
    | none =>
      rw [hg] at h
      cases raw <;> cases h
    | some m =>
      rw [hg] at h
      cases raw with
      | number m' => rfl
      | _ => cases h
  | array items ih =>
    cases raw with
    | array raws =>
      simp only [ofJson, mapNumbers, seq.injEq, and_true] at h
      simp only [Json.shape, Json.mapNumbers, Json.mapNumbersItems_eq_map]
      exact congrArg Json.array (hitems items raws (fun c hc r => ih c hc) h)
    | _ => simp [ofJson, mapNumbers] at h
  | object members ih =>
    cases raw with
    | object raws =>
      simp only [ofJson, mapNumbers, map.injEq, and_true] at h
      simp only [Json.shape, Json.mapNumbers, Json.mapNumbersMembers_eq_map]
      exact congrArg Json.object (hmembers members raws (fun m hm r => ih m hm) h)
    | _ => simp [ofJson, mapNumbers] at h

end Doc

namespace JsonText

/-! ## Writing -/

/-- The digit of a number below sixteen. -/
def hexDigit (n : ℕ) : Char := if n < 10 then Char.ofNat (0x30 + n) else Char.ofNat (0x57 + n)

/-- A character inside a quoted text. -/
def quoteChar (c : Char) : List Char :=
  if c = '"' then ['\\', '"']
  else if c = '\\' then ['\\', '\\']
  else if c = '\n' then ['\\', 'n']
  else if c = '\r' then ['\\', 'r']
  else if c = '\t' then ['\\', 't']
  else if c.toNat < 0x20 then
    ['\\', 'u', '0', '0', hexDigit (c.toNat / 16), hexDigit (c.toNat % 16)]
  else [c]

/-- The part of a quoted text after its opening quote. -/
def quoteBody (s : List Char) : List Char := s.flatMap quoteChar ++ ['"']

def renderInt : ℤ → List Char
  | .ofNat n => Nat.toDigits 10 n
  | .negSucc n => '-' :: Nat.toDigits 10 (n + 1)

mutual

/-- The compact text of a tree. -/
def render : Json String ℤ → List Char
  | .null => ['n', 'u', 'l', 'l']
  | .bool true => ['t', 'r', 'u', 'e']
  | .bool false => ['f', 'a', 'l', 's', 'e']
  | .number n => renderInt n
  | .string s => '"' :: quoteBody s.toList
  | .array [] => ['[', ']']
  | .array (c :: items) => '[' :: (render c ++ renderItems items)
  | .object [] => ['{', '}']
  | .object ((k, c) :: members) =>
    '{' :: '"' :: (quoteBody k.toList ++ ':' :: (render c ++ renderMembers members))

/-- The text after an array item, up to the closing bracket. -/
def renderItems : List (Json String ℤ) → List Char
  | [] => [']']
  | c :: items => ',' :: (render c ++ renderItems items)

/-- The text after an object member, up to the closing bracket. -/
def renderMembers : List (String × Json String ℤ) → List Char
  | [] => ['}']
  | (k, c) :: members =>
    ',' :: '"' :: (quoteBody k.toList ++ ':' :: (render c ++ renderMembers members))

end

/-! ## Reading -/

def hexValue (c : Char) : Option ℕ :=
  if '0' ≤ c ∧ c ≤ '9' then some (c.toNat - 0x30)
  else if 'a' ≤ c ∧ c ≤ 'f' then some (c.toNat - 0x57)
  else if 'A' ≤ c ∧ c ≤ 'F' then some (c.toNat - 0x37)
  else none

/-- Read a quoted text after its opening quote. -/
def readText : List Char → Option (List Char × List Char)
  | [] => none
  | '"' :: r => some ([], r)
  | '\\' :: 'u' :: '0' :: '0' :: a :: b :: r =>
    match hexValue a, hexValue b with
    | some x, some y => (readText r).map fun p => (Char.ofNat (16 * x + y) :: p.1, p.2)
    | _, _ => none
  | '\\' :: e :: r =>
    if e = '"' ∨ e = '\\' ∨ e = '/' then (readText r).map fun p => (e :: p.1, p.2)
    else if e = 'n' then (readText r).map fun p => ('\n' :: p.1, p.2)
    else if e = 'r' then (readText r).map fun p => ('\r' :: p.1, p.2)
    else if e = 't' then (readText r).map fun p => ('\t' :: p.1, p.2)
    else if e = 'b' then (readText r).map fun p => ('\x08' :: p.1, p.2)
    else if e = 'f' then (readText r).map fun p => ('\x0c' :: p.1, p.2)
    else none
  | c :: r => if c.toNat < 0x20 ∨ c = '\\' then none
    else (readText r).map fun p => (c :: p.1, p.2)

/-- Read the digits of a number. -/
def readNat (cs : List Char) : Option (ℕ × List Char) :=
  if cs.takeWhile Char.isDigit = [] then none
  else some (Nat.ofDigitChars 10 (cs.takeWhile Char.isDigit) 0, cs.dropWhile Char.isDigit)

mutual

/-- Read one value and return what follows it; the first argument bounds the recursion. -/
def readValue : ℕ → List Char → Option (Doc ℤ × List Char)
  | 0, _ => none
  | _, [] => none
  | n + 1, c :: r =>
    if c = 'n' then if r.take 3 = ['u', 'l', 'l'] then some (.null, r.drop 3) else none
    else if c = 't' then
      if r.take 3 = ['r', 'u', 'e'] then some (.bool true, r.drop 3) else none
    else if c = 'f' then
      if r.take 4 = ['a', 'l', 's', 'e'] then some (.bool false, r.drop 4) else none
    else if c = '"' then (readText r).map fun p => (.string (String.ofList p.1), p.2)
    else if c = '[' then
      if r.head? = some ']' then some (.seq [] true, r.tail)
      else (readValue n r).bind fun p =>
        (readItems n p.2).map fun q => (.seq (p.1 :: q.1) true, q.2)
    else if c = '{' then
      if r.head? = some '}' then some (.map [] true, r.tail)
      else (readMember n r).bind fun p =>
        (readMembers n p.2).map fun q => (.map (p.1 :: q.1) true, q.2)
    else if c = '-' then (readNat r).map fun p => (.number (-(p.1 : ℤ)), p.2)
    else (readNat (c :: r)).map fun p => (.number p.1, p.2)

def readItems : ℕ → List Char → Option (List (Doc ℤ) × List Char)
  | 0, _ => none
  | _, [] => none
  | n + 1, c :: r =>
    if c = ']' then some ([], r)
    else if c = ',' then
      (readValue n r).bind fun p => (readItems n p.2).map fun q => (p.1 :: q.1, q.2)
    else none

/-- Read a member: a quoted key, a colon and a value. -/
def readMember : ℕ → List Char → Option ((String × Doc ℤ) × List Char)
  | 0, _ => none
  | n + 1, cs =>
    if cs.head? = some '"' then
      (readText cs.tail).bind fun k =>
        if k.2.head? = some ':' then
          (readValue n k.2.tail).map fun p => ((String.ofList k.1, p.1), p.2)
        else none
    else none

def readMembers : ℕ → List Char → Option (List (String × Doc ℤ) × List Char)
  | 0, _ => none
  | _, [] => none
  | n + 1, c :: r =>
    if c = '}' then some ([], r)
    else if c = ',' then
      (readMember n r).bind fun p => (readMembers n p.2).map fun q => (p.1 :: q.1, q.2)
    else none

end

/-- Read a whole text: the reports for its first value, and whether nothing follows it. -/
def read (cs : List Char) : Doc ℤ × Bool :=
  match readValue cs.length cs with
  | some (d, r) => (d, r.isEmpty)
  | none => (.malformed, true)

/-! ## The round trip -/

/-- What may follow a number without being taken for one of its digits. -/
def Delimited (r : List Char) : Prop := ∀ c ∈ r.head?, c.isDigit = false

lemma delimited_nil : Delimited [] := by simp [Delimited]

lemma delimited_cons {c : Char} {r : List Char} (h : c.isDigit = false) : Delimited (c :: r) := by
  simp [Delimited, h]

lemma hexValue_hexDigit : ∀ n < 16, hexValue (hexDigit n) = some n := by decide

lemma readText_quoteChar (c : Char) (r : List Char) :
    readText (quoteChar c ++ r) = (readText r).map fun p => (c :: p.1, p.2) := by
  unfold quoteChar
  split_ifs with h₁ h₂ h₃ h₄ h₅ h₆
  · subst h₁; simp [readText]
  · subst h₂; simp [readText]
  · subst h₃; simp [readText]
  · subst h₄; simp [readText]
  · subst h₅; simp [readText]
  · have hhi := hexValue_hexDigit (c.toNat / 16) (by omega)
    have hlo := hexValue_hexDigit (c.toNat % 16) (by omega)
    have hc : 16 * (c.toNat / 16) + c.toNat % 16 = c.toNat := by omega
    simp only [List.cons_append, List.nil_append, readText, hhi, hlo, hc, Char.ofNat_toNat]
  · -- a character that stands for itself is none of those that begin an escape
    rw [List.singleton_append, readText.eq_def]
    split
    · rename_i heq
      cases heq
    · rename_i heq
      exact absurd (List.cons.inj heq).1 h₁
    · rename_i heq
      exact absurd (List.cons.inj heq).1 h₂
    · rename_i heq
      exact absurd (List.cons.inj heq).1 h₂
    · rename_i heq
      obtain ⟨rfl, rfl⟩ := List.cons.inj heq
      rw [if_neg]
      exact fun hc => hc.elim h₆ h₂

lemma readText_quoteBody (s r : List Char) :
    readText (quoteBody s ++ r) = some (s, r) := by
  induction s with
  | nil => simp [quoteBody, readText]
  | cons c s ih =>
    have hbody : quoteBody (c :: s) ++ r = quoteChar c ++ (quoteBody s ++ r) := by
      simp [quoteBody]
    rw [hbody, readText_quoteChar, ih]
    rfl

lemma readNat_toDigits (n : ℕ) {r : List Char} (hr : Delimited r) :
    readNat (Nat.toDigits 10 n ++ r) = some (n, r) := by
  have hdigits : ∀ c ∈ Nat.toDigits 10 n, c.isDigit = true :=
    fun c hc => Nat.isDigit_of_mem_toDigits (by decide) (by decide) hc
  have htake : (Nat.toDigits 10 n ++ r).takeWhile Char.isDigit = Nat.toDigits 10 n := by
    rw [List.takeWhile_append_of_pos hdigits]
    cases r with
    | nil => simp
    | cons c r => simp [hr c (by simp)]
  have hdrop : (Nat.toDigits 10 n ++ r).dropWhile Char.isDigit = r := by
    rw [List.dropWhile_append_of_pos hdigits]
    cases r with
    | nil => simp
    | cons c r => simp [hr c (by simp)]
  rw [readNat, htake, hdrop, if_neg Nat.toDigits_ne_nil, Nat.ofDigitChars_ten_toDigits]

/-- The round trip for one value, with fuel for its text and any continuation. -/
def Reads (c : Json String ℤ) : Prop :=
  ∀ (n : ℕ) (r : List Char), (render c).length ≤ n → Delimited r →
    readValue n (render c ++ r) = some (Doc.ofJson c, r)

lemma delimited_renderItems (items : List (Json String ℤ)) (r : List Char) :
    Delimited (renderItems items ++ r) := by
  cases items <;> exact delimited_cons (by decide)

lemma delimited_renderMembers (members : List (String × Json String ℤ)) (r : List Char) :
    Delimited (renderMembers members ++ r) := by
  cases members <;> exact delimited_cons (by decide)

lemma readItems_renderItems {items : List (Json String ℤ)} (h : ∀ c ∈ items, Reads c) :
    ∀ (n : ℕ) (r : List Char), (renderItems items).length ≤ n →
      readItems n (renderItems items ++ r) = some (Doc.ofItems items, r) := by
  induction items with
  | nil =>
    intro n r hn
    cases n with
    | zero => simp [renderItems] at hn
    | succ n => simp [renderItems, readItems, Doc.ofItems]
  | cons c items ih =>
    intro n r hn
    cases n with
    | zero => simp [renderItems] at hn
    | succ n =>
      simp only [renderItems, List.length_cons, List.length_append] at hn
      have hc := h c (by simp) n (renderItems items ++ r) (by omega) (delimited_renderItems _ _)
      have hrest := ih (fun d hd => h d (by simp [hd])) n r (by omega)
      simp [renderItems, readItems, hc, hrest, Doc.ofItems]

lemma readMember_render {k : String} {c : Json String ℤ} (h : Reads c) {n : ℕ} {r : List Char}
    (hn : (render c).length < n) (hr : Delimited r) :
    readMember n ('"' :: (quoteBody k.toList ++ ':' :: (render c ++ r)))
      = some ((k, Doc.ofJson c), r) := by
  cases n with
  | zero => simp at hn
  | succ n =>
    have hc := h n r (by omega) hr
    simp [readMember, readText_quoteBody, hc]

lemma readMembers_renderMembers {members : List (String × Json String ℤ)}
    (h : ∀ m ∈ members, Reads m.2) :
    ∀ (n : ℕ) (r : List Char), (renderMembers members).length ≤ n →
      readMembers n (renderMembers members ++ r) = some (Doc.ofMembers members, r) := by
  induction members with
  | nil =>
    intro n r hn
    cases n with
    | zero => simp [renderMembers] at hn
    | succ n => simp [renderMembers, readMembers, Doc.ofMembers]
  | cons m members ih =>
    obtain ⟨k, c⟩ := m
    intro n r hn
    cases n with
    | zero => simp [renderMembers] at hn
    | succ n =>
      simp only [renderMembers, List.length_cons, List.length_append] at hn
      have hm := readMember_render (k := k) (h (k, c) (by simp)) (n := n)
        (r := renderMembers members ++ r) (by simp only; omega) (delimited_renderMembers _ _)
      have hrest := ih (fun d hd => h d (by simp [hd])) n r (by omega)
      simp [renderMembers, readMembers, hm, hrest, Doc.ofMembers]

lemma head_ne_of_readValue {n : ℕ} {cs : List Char} {p : Doc ℤ × List Char}
    (h : readValue n cs = some p) : cs.head? ≠ some ']' := by
  intro hhead
  obtain ⟨r, rfl⟩ := List.head?_eq_some_iff.mp hhead
  cases n with
  | zero => simp [readValue] at h
  | succ n => simp [readValue, readNat] at h

lemma reads_renderInt (i : ℤ) : Reads (.number i) := by
  intro n r hn hr
  cases n with
  | zero => cases i <;> simp [render, renderInt, Nat.toDigits_ne_nil] at hn
  | succ n =>
    cases i with
    | ofNat m =>
      -- a digit is none of the characters that open another kind of value
      cases hd : Nat.toDigits 10 m with
      | nil => exact absurd hd Nat.toDigits_ne_nil
      | cons d ds =>
        have hdig : d.isDigit = true :=
          Nat.isDigit_of_mem_toDigits (b := 10) (n := m) (by decide) (by decide) (by simp [hd])
        have hne : ∀ c : Char, c.isDigit = false → d ≠ c := by
          rintro c hc rfl
          simp [hdig] at hc
        have hread := readNat_toDigits m hr
        rw [hd, List.cons_append] at hread
        simp only [render, renderInt, hd, List.cons_append, readValue,
          hne 'n' (by decide), hne 't' (by decide), hne 'f' (by decide), hne '"' (by decide),
          hne '[' (by decide), hne '{' (by decide), hne '-' (by decide), if_false, hread,
          Option.map_some, Doc.ofJson]
        rfl
    | negSucc m =>
      have hread := readNat_toDigits (m + 1) hr
      simp [render, renderInt, readValue, hread, Doc.ofJson, Int.negSucc_eq]

/-- Reading the text of a tree reports exactly that tree. -/
theorem reads_render (v : Json String ℤ) : Reads v := by
  induction v using Json.ind with
  | null =>
    intro n r hn _
    cases n with
    | zero => simp [render] at hn
    | succ n => simp [render, readValue, Doc.ofJson]
  | bool b =>
    intro n r hn _
    cases n with
    | zero => cases b <;> simp [render] at hn
    | succ n => cases b <;> simp [render, readValue, Doc.ofJson]
  | number i => exact reads_renderInt i
  | string s =>
    intro n r hn _
    cases n with
    | zero => simp [render] at hn
    | succ n => simp [render, readValue, readText_quoteBody, Doc.ofJson]
  | array items ih =>
    intro n r hn _
    cases n with
    | zero => cases items <;> simp [render] at hn
    | succ n =>
      cases items with
      | nil => simp [render, readValue, Doc.ofJson, Doc.ofItems]
      | cons c items =>
        simp only [render, List.length_cons, List.length_append] at hn
        have hc := ih c (by simp) n (renderItems items ++ r) (by omega)
          (delimited_renderItems _ _)
        have hitems : ∀ d ∈ items, Reads d := fun d hd => ih d (by simp [hd])
        have hrest := readItems_renderItems hitems n r (by omega)
        have hhead := head_ne_of_readValue hc
        simp only [render, List.cons_append, List.append_assoc, readValue, hhead, Char.reduceEq,
          if_false, if_true, hc, Option.bind_some, hrest, Option.map_some, Doc.ofJson,
          Doc.ofItems]
  | object members ih =>
    intro n r hn _
    cases n with
    | zero => cases members <;> simp [render] at hn
    | succ n =>
      cases members with
      | nil => simp [render, readValue, Doc.ofJson, Doc.ofMembers]
      | cons m members =>
        obtain ⟨k, c⟩ := m
        simp only [render, List.length_cons, List.length_append] at hn
        have hm := readMember_render (k := k) (ih (k, c) (by simp)) (n := n)
          (r := renderMembers members ++ r) (by simp only; omega) (delimited_renderMembers _ _)
        have hmembers : ∀ d ∈ members, Reads d.2 := fun d hd => ih d (by simp [hd])
        have hrest := readMembers_renderMembers hmembers n r (by omega)
        simp [render, readValue, hm, hrest, Doc.ofJson, Doc.ofMembers]

/-- **The round trip**: reading the compact text of a tree reports the tree and nothing else. -/
theorem read_render (v : Json String ℤ) : read (render v) = (Doc.ofJson v, true) := by
  have h := reads_render v (render v).length [] le_rfl delimited_nil
  rw [List.append_nil] at h
  simp [read, h]

/-! ## The characters of a text -/

lemma render_ne_nil (v : Json String ℤ) : render v ≠ [] := by
  intro h
  have hread := read_render v
  rw [h] at hread
  cases v <;> simp [read, readValue, Doc.ofJson] at hread

/-- A text without control characters, hence without line breaks. -/
def Printable (cs : List Char) : Prop := ∀ d ∈ cs, 0x20 ≤ d.toNat

lemma Printable.cons {c : Char} {cs : List Char} (hc : 0x20 ≤ c.toNat) (h : Printable cs) :
    Printable (c :: cs) :=
  List.forall_mem_cons.mpr ⟨hc, h⟩

lemma Printable.append {cs ds : List Char} (h : Printable cs) (h' : Printable ds) :
    Printable (cs ++ ds) :=
  List.forall_mem_append.mpr ⟨h, h'⟩

lemma le_toNat_hexDigit : ∀ n < 16, 0x20 ≤ (hexDigit n).toNat := by decide

lemma printable_quoteChar (c : Char) : Printable (quoteChar c) := by
  intro d h
  unfold quoteChar at h
  split_ifs at h with h₁ h₂ h₃ h₄ h₅ h₆ <;>
    simp only [List.mem_cons, List.not_mem_nil, or_false] at h
  iterate 5 rcases h with rfl | rfl <;> decide
  · rcases h with rfl | rfl | rfl | rfl | rfl | rfl
    iterate 4 decide
    · exact le_toNat_hexDigit _ (by omega)
    · exact le_toNat_hexDigit _ (by omega)
  · subst h
    omega

lemma printable_quoteBody (s : List Char) : Printable (quoteBody s) := by
  refine Printable.append (fun d h => ?_) (by simp [Printable])
  obtain ⟨c, -, hc⟩ := List.mem_flatMap.mp h
  exact printable_quoteChar c d hc

lemma printable_renderInt (i : ℤ) : Printable (renderInt i) := by
  have hdigits : ∀ n, Printable (Nat.toDigits 10 n) := by
    intro n d hn
    have hd := Nat.isDigit_of_mem_toDigits (by decide) (by decide) hn
    simp only [Char.isDigit, Bool.and_eq_true, decide_eq_true_eq, ge_iff_le] at hd
    have h48 : (48 : UInt32).toNat ≤ d.val.toNat := UInt32.le_iff_toNat_le.mp hd.1
    exact le_trans (by decide) h48
  cases i with
  | ofNat n => exact hdigits n
  | negSucc n => exact .cons (by decide) (hdigits _)

lemma printable_renderItems {items : List (Json String ℤ)}
    (h : ∀ c ∈ items, Printable (render c)) : Printable (renderItems items) := by
  induction items with
  | nil => simp [renderItems, Printable]
  | cons c items ih =>
    refine .cons (by decide) (.append (h c (by simp)) (ih fun d hd => h d (by simp [hd])))

lemma printable_renderMembers {members : List (String × Json String ℤ)}
    (h : ∀ m ∈ members, Printable (render m.2)) : Printable (renderMembers members) := by
  induction members with
  | nil => simp [renderMembers, Printable]
  | cons m members ih =>
    obtain ⟨k, c⟩ := m
    refine .cons (by decide) (.cons (by decide) (.append (printable_quoteBody _) ?_))
    exact .cons (by decide) (.append (h (k, c) (by simp)) (ih fun d hd => h d (by simp [hd])))

theorem printable_render (v : Json String ℤ) : Printable (render v) := by
  induction v using Json.ind with
  | null => simp [render, Printable]
  | bool b => cases b <;> simp [render, Printable]
  | number i => exact printable_renderInt i
  | string s => exact .cons (by decide) (printable_quoteBody _)
  | array items ih =>
    cases items with
    | nil => simp [render, Printable]
    | cons c items =>
      have hitems := printable_renderItems (fun d (hd : d ∈ items) => ih d (by simp [hd]))
      exact .cons (by decide) (.append (ih c (by simp)) hitems)
  | object members ih =>
    cases members with
    | nil => simp [render, Printable]
    | cons m members =>
      obtain ⟨k, c⟩ := m
      have hmembers := printable_renderMembers (fun d (hd : d ∈ members) => ih d (by simp [hd]))
      refine .cons (by decide) (.cons (by decide) (.append (printable_quoteBody _) ?_))
      exact .cons (by decide) (.append (ih (k, c) (by simp)) hmembers)

end JsonText

end JaDesktop
