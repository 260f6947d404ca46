import Mathlib.Data.List.Basic

/-!
# JSON trees

The trees that JSON text denotes, over an arbitrary type `κ` of texts and an arbitrary type
`ν` of numbers.  An object keeps its members in the order in which its owner iterates over
them; whether that order is sorted, or only free of duplicates, is a property of the owner
(`EachObject`), not of the tree.

A *position* in a tree is a path of member keys and array indices.  Searches that a program
performs by recursion are characterised here by the positions they inspect, so that a
statement about "anywhere in the tree" is a statement about `At`.
-/

namespace JaDesktop

/-- A JSON tree with texts in `κ` and numbers in `ν`. -/
inductive Json (κ ν : Type)
  | null
  | bool (b : Bool)
  | number (n : ν)
  | string (s : κ)
  | array (items : List (Json κ ν))
  | object (members : List (κ × Json κ ν))
deriving Repr

namespace Json

variable {κ ν : Type}

/-! ## Induction and equality -/

/-- Induction over a tree: the hypothesis for a container covers each of its children. -/
@[elab_as_elim]
theorem ind {motive : Json κ ν → Prop} (null : motive .null) (bool : ∀ b, motive (.bool b))
    (number : ∀ n, motive (.number n)) (string : ∀ s, motive (.string s))
    (array : ∀ items : List (Json κ ν), (∀ c ∈ items, motive c) → motive (.array items))
    (object : ∀ members : List (κ × Json κ ν), (∀ m ∈ members, motive m.2) →
      motive (.object members)) (v : Json κ ν) : motive v := by
  -- the recursor also passes through lists of children, lists of members, and single members
  refine @Json.rec κ ν motive (fun items => ∀ c ∈ items, motive c)
    (fun members => ∀ m ∈ members, motive m.2) (fun m => motive m.2)
    null bool number string array object ?_ ?_ ?_ ?_ ?_ v
  · exact fun c hc => absurd hc List.not_mem_nil
  · exact fun c items ihc ih => List.forall_mem_cons.mpr ⟨ihc, ih⟩
  · exact fun m hm => absurd hm List.not_mem_nil
  · exact fun m members ihm ih => List.forall_mem_cons.mpr ⟨ihm, ih⟩
  · exact fun k c ih => ih

section DecEq

variable [DecidableEq κ] [DecidableEq ν]

mutual

/-- Structural comparison of two trees. -/
def beq : Json κ ν → Json κ ν → Bool
  | .null, .null => true
  | .bool a, .bool b => a == b
  | .number a, .number b => decide (a = b)
  | .string a, .string b => decide (a = b)
  | .array as, .array bs => beqItems as bs
  | .object as, .object bs => beqMembers as bs
  | _, _ => false

def beqItems : List (Json κ ν) → List (Json κ ν) → Bool
  | [], [] => true
  | a :: as, b :: bs => beq a b && beqItems as bs
  | _, _ => false

def beqMembers : List (κ × Json κ ν) → List (κ × Json κ ν) → Bool
  | [], [] => true
  | (k, a) :: as, (l, b) :: bs => decide (k = l) && (beq a b && beqMembers as bs)
  | _, _ => false

end

lemma beqItems_iff {as : List (Json κ ν)} (h : ∀ a ∈ as, ∀ b, a.beq b = true ↔ a = b)
    (bs : List (Json κ ν)) : beqItems as bs = true ↔ as = bs := by
  induction as generalizing bs with
  | nil => cases bs <;> simp [beqItems]
  | cons a as ih =>
    cases bs with
    | nil => simp [beqItems]
    | cons b bs =>
      have hb := h a (by simp) b
      have ih' := ih (fun c hc => h c (by simp [hc])) bs
      simp [beqItems, hb, ih']

lemma beqMembers_iff {as : List (κ × Json κ ν)} (h : ∀ m ∈ as, ∀ b, m.2.beq b = true ↔ m.2 = b)
    (bs : List (κ × Json κ ν)) : beqMembers as bs = true ↔ as = bs := by
  induction as generalizing bs with
  | nil => cases bs <;> simp [beqMembers]
  | cons a as ih =>
    cases bs with
    | nil => simp [beqMembers]
    | cons b bs =>
      obtain ⟨k, a⟩ := a
      obtain ⟨l, b⟩ := b
      have hb := h (k, a) (by simp) b
      have ih' := ih (fun c hc => h c (by simp [hc])) bs
      simp only [beqMembers, Bool.and_eq_true, decide_eq_true_eq, hb, ih', List.cons.injEq,
        Prod.mk.injEq, and_assoc]

theorem beq_iff (a b : Json κ ν) : a.beq b = true ↔ a = b := by
  induction a using ind generalizing b with
  | null => cases b <;> simp [beq]
  | bool x => cases b <;> simp [beq]
  | number x => cases b <;> simp [beq]
  | string x => cases b <;> simp [beq]
  | array items ih => cases b <;> simp [beq, beqItems_iff ih]
  | object members ih => cases b <;> simp [beq, beqMembers_iff ih]

instance : DecidableEq (Json κ ν) := fun a b => decidable_of_iff _ (beq_iff a b)

end DecEq

/-! ## Shape -/

mutual

/-- The nesting depth: a scalar has depth `0`, a container one more than its children. -/
def depth : Json κ ν → ℕ
  | .array items => depthItems items + 1
  | .object members => depthMembers members + 1
  | _ => 0

def depthItems : List (Json κ ν) → ℕ
  | [] => 0
  | c :: items => max c.depth (depthItems items)

def depthMembers : List (κ × Json κ ν) → ℕ
  | [] => 0
  | (_, c) :: members => max c.depth (depthMembers members)

end

lemma depthItems_le {items : List (Json κ ν)} {n : ℕ} :
    depthItems items ≤ n ↔ ∀ c ∈ items, c.depth ≤ n := by
  induction items with
  | nil => simp [depthItems]
  | cons c items ih => rw [depthItems, Nat.max_le, ih, List.forall_mem_cons]

lemma depthMembers_le {members : List (κ × Json κ ν)} {n : ℕ} :
    depthMembers members ≤ n ↔ ∀ m ∈ members, m.2.depth ≤ n := by
  induction members with
  | nil => simp [depthMembers]
  | cons m members ih => rw [depthMembers, Nat.max_le, ih, List.forall_mem_cons]

/-- Every number of the tree satisfies `P`. -/
inductive EachNumber (P : ν → Prop) : Json κ ν → Prop
  | null : EachNumber P .null
  | bool (b : Bool) : EachNumber P (.bool b)
  | number {n : ν} : P n → EachNumber P (.number n)
  | string (s : κ) : EachNumber P (.string s)
  | array {items : List (Json κ ν)} :
      (∀ c ∈ items, EachNumber P c) → EachNumber P (.array items)
  | object {members : List (κ × Json κ ν)} :
      (∀ m ∈ members, EachNumber P m.2) → EachNumber P (.object members)

lemma EachNumber.imp {P Q : ν → Prop} (hPQ : ∀ n, P n → Q n) {v : Json κ ν}
    (h : v.EachNumber P) : v.EachNumber Q := by
  induction h with
  | null => exact .null
  | bool b => exact .bool b
  | number hn => exact .number (hPQ _ hn)
  | string s => exact .string s
  | array _ ih => exact .array ih
  | object _ ih => exact .object ih

/-- The key list of every object of the tree satisfies `P`. -/
inductive EachObject (P : List κ → Prop) : Json κ ν → Prop
  | null : EachObject P .null
  | bool (b : Bool) : EachObject P (.bool b)
  | number (n : ν) : EachObject P (.number n)
  | string (s : κ) : EachObject P (.string s)
  | array {items : List (Json κ ν)} :
      (∀ c ∈ items, EachObject P c) → EachObject P (.array items)
  | object {members : List (κ × Json κ ν)} : P (members.map Prod.fst) →
      (∀ m ∈ members, EachObject P m.2) → EachObject P (.object members)

lemma EachObject.imp {P Q : List κ → Prop} (hPQ : ∀ keys, P keys → Q keys) {v : Json κ ν}
    (h : v.EachObject P) : v.EachObject Q := by
  induction h with
  | null => exact .null
  | bool b => exact .bool b
  | number n => exact .number n
  | string s => exact .string s
  | array _ ih => exact .array ih
  | object hkeys _ ih => exact .object (hPQ _ hkeys) ih

mutual

/-- Replace every number of the tree. -/
def mapNumbers {μ : Type} (f : ν → μ) : Json κ ν → Json κ μ
  | .null => .null
  | .bool b => .bool b
  | .number n => .number (f n)
  | .string s => .string s
  | .array items => .array (mapNumbersItems f items)
  | .object members => .object (mapNumbersMembers f members)

def mapNumbersItems {μ : Type} (f : ν → μ) : List (Json κ ν) → List (Json κ μ)
  | [] => []
  | c :: items => mapNumbers f c :: mapNumbersItems f items

def mapNumbersMembers {μ : Type} (f : ν → μ) : List (κ × Json κ ν) → List (κ × Json κ μ)
  | [] => []
  | (k, c) :: members => (k, mapNumbers f c) :: mapNumbersMembers f members

end

lemma mapNumbersItems_eq_map {μ : Type} (f : ν → μ) (items : List (Json κ ν)) :
    mapNumbersItems f items = items.map (mapNumbers f) := by
  induction items with
  | nil => rfl
  | cons c items ih => rw [mapNumbersItems, ih, List.map_cons]

lemma mapNumbersMembers_eq_map {μ : Type} (f : ν → μ) (members : List (κ × Json κ ν)) :
    mapNumbersMembers f members = members.map fun m => (m.1, m.2.mapNumbers f) := by
  induction members with
  | nil => rfl
  | cons m members ih => rw [mapNumbersMembers, ih, List.map_cons]

lemma mapNumbers_mapNumbers {μ ξ : Type} (f : ν → μ) (g : μ → ξ) (v : Json κ ν) :
    (v.mapNumbers f).mapNumbers g = v.mapNumbers (g ∘ f) := by
  induction v using ind with
  | null | bool | number | string => simp [mapNumbers]
  | array items ih =>
    simp only [mapNumbers, mapNumbersItems_eq_map, List.map_map, array.injEq]
    exact List.map_congr_left ih
  | object members ih =>
    simp only [mapNumbers, mapNumbersMembers_eq_map, List.map_map, object.injEq]
    refine List.map_congr_left fun m hm => ?_
    simp only [Function.comp_apply, ih m hm]

/-- The tree without its numbers. -/
def shape (v : Json κ ν) : Json κ Unit := v.mapNumbers fun _ => ()

/-! ## Positions -/

/-- One step of a path: into a member of an object, or into an item of an array. -/
inductive Seg (κ : Type)
  | key (k : κ)
  | index (i : ℕ)
deriving DecidableEq, Repr

/-- `At v p w` holds when the path `p` leads from the root of `v` to the subtree `w`. -/
inductive At : Json κ ν → List (Seg κ) → Json κ ν → Prop
  | here (v : Json κ ν) : At v [] v
  | member {members : List (κ × Json κ ν)} {k : κ} {c w : Json κ ν} {p : List (Seg κ)} :
      (k, c) ∈ members → At c p w → At (.object members) (.key k :: p) w
  | item {items : List (Json κ ν)} {i : ℕ} {c w : Json κ ν} {p : List (Seg κ)} :
      items[i]? = some c → At c p w → At (.array items) (.index i :: p) w

/-- A member `k` with value `c` of the object at path `p`. -/
def MemberAt (v : Json κ ν) (p : List (Seg κ)) (k : κ) (c : Json κ ν) : Prop :=
  ∃ members, At v p (.object members) ∧ (k, c) ∈ members

/-- A text `s` standing as a value at path `p`. -/
def TextAt (v : Json κ ν) (p : List (Seg κ)) (s : κ) : Prop := At v p (.string s)

lemma At.eachObject {P : List κ → Prop} {v w : Json κ ν} {p : List (Seg κ)} (h : At v p w)
    (hv : v.EachObject P) : w.EachObject P := by
  induction h with
  | here => exact hv
  | member hm _ ih =>
    cases hv with
    | object _ hmembers => exact ih (hmembers _ hm)
  | item hi _ ih =>
    cases hv with
    | array hitems => exact ih (hitems _ (List.mem_of_getElem? hi))

/-! ## Searching a whole tree -/

mutual

/-- Does some member key satisfy `key`, or some text value satisfy `text`? -/
def anyMark (key text : κ → Bool) : Json κ ν → Bool
  | .object members => anyMarkMembers key text members
  | .array items => anyMarkItems key text items
  | .string s => text s
  | _ => false

def anyMarkItems (key text : κ → Bool) : List (Json κ ν) → Bool
  | [] => false
  | c :: items => c.anyMark key text || anyMarkItems key text items

def anyMarkMembers (key text : κ → Bool) : List (κ × Json κ ν) → Bool
  | [] => false
  | (k, c) :: members => (key k || c.anyMark key text) || anyMarkMembers key text members

end

section AnyMark

variable {key text : κ → Bool}

lemma anyMarkItems_iff {items : List (Json κ ν)} :
    anyMarkItems key text items = true ↔ ∃ c ∈ items, c.anyMark key text = true := by
  induction items with
  | nil => simp [anyMarkItems]
  | cons c items ih => simp [anyMarkItems, ih]

lemma anyMarkMembers_iff {members : List (κ × Json κ ν)} :
    anyMarkMembers key text members = true ↔
      ∃ k c, (k, c) ∈ members ∧ (key k = true ∨ c.anyMark key text = true) := by
  induction members with
  | nil => simp [anyMarkMembers]
  | cons m members ih =>
    obtain ⟨k, c⟩ := m
    simp only [anyMarkMembers, Bool.or_eq_true, ih, List.mem_cons, Prod.mk.injEq]
    constructor
    · rintro (h | ⟨k', c', hm, h⟩)
      · exact ⟨k, c, Or.inl ⟨rfl, rfl⟩, h⟩
      · exact ⟨k', c', Or.inr hm, h⟩
    · rintro ⟨k', c', ⟨rfl, rfl⟩ | hm, h⟩
      · exact Or.inl h
      · exact Or.inr ⟨k', c', hm, h⟩

lemma anyMarkItems_map {α : Type} (f : α → Json κ ν) (l : List α) :
    anyMarkItems key text (l.map f) = l.any fun a => (f a).anyMark key text := by
  induction l with
  | nil => rfl
  | cons a l ih => rw [List.map_cons, anyMarkItems, ih, List.any_cons]

lemma anyMarkMembers_map {α : Type} (f : α → κ × Json κ ν) (l : List α) :
    anyMarkMembers key text (l.map f) =
      l.any fun a => key (f a).1 || (f a).2.anyMark key text := by
  induction l with
  | nil => rfl
  | cons a l ih => rw [List.map_cons, anyMarkMembers, ih, List.any_cons]

lemma not_anyMark_object {members : List (κ × Json κ ν)} :
    (Json.object members).anyMark key text = false ↔
      ∀ m ∈ members, key m.1 = false ∧ m.2.anyMark key text = false := by
  rw [anyMark, ← Bool.not_eq_true, anyMarkMembers_iff]
  constructor
  · intro h m hm
    refine ⟨?_, ?_⟩
    · exact Bool.eq_false_iff.mpr fun hkey => h ⟨m.1, m.2, hm, Or.inl hkey⟩
    · exact Bool.eq_false_iff.mpr fun hmark => h ⟨m.1, m.2, hm, Or.inr hmark⟩
  · rintro h ⟨k, c, hm, hkey | hmark⟩
    · exact Bool.eq_false_iff.mp (h _ hm).1 hkey
    · exact Bool.eq_false_iff.mp (h _ hm).2 hmark

lemma not_anyMark_array {items : List (Json κ ν)} :
    (Json.array items).anyMark key text = false ↔
      ∀ c ∈ items, c.anyMark key text = false := by
  rw [anyMark, ← Bool.not_eq_true, anyMarkItems_iff]
  constructor
  · exact fun h c hc => Bool.eq_false_iff.mpr fun hmark => h ⟨c, hc, hmark⟩
  · rintro h ⟨c, hc, hmark⟩
    exact Bool.eq_false_iff.mp (h c hc) hmark

/-- The search succeeds exactly when some position of the tree carries a mark. -/
theorem anyMark_iff {v : Json κ ν} :
    v.anyMark key text = true ↔
      (∃ p k c, MemberAt v p k c ∧ key k = true) ∨ (∃ p s, TextAt v p s ∧ text s = true) := by
  constructor
  · induction v using ind with
    | null => simp [anyMark]
    | bool b => simp [anyMark]
    | number n => simp [anyMark]
    | string s =>
      intro h
      exact Or.inr ⟨[], s, .here _, h⟩
    | array items ih =>
      intro h
      obtain ⟨c, hc, hmark⟩ := anyMarkItems_iff.mp h
      obtain ⟨i, hi⟩ := List.mem_iff_getElem?.mp hc
      rcases ih c hc hmark with ⟨p, k, d, ⟨ms, hat, hmem⟩, hk⟩ | ⟨p, s, hat, hs⟩
      · exact Or.inl ⟨.index i :: p, k, d, ⟨ms, .item hi hat, hmem⟩, hk⟩
      · exact Or.inr ⟨.index i :: p, s, .item hi hat, hs⟩
    | object members ih =>
      intro h
      obtain ⟨k, c, hm, hk | hmark⟩ := anyMarkMembers_iff.mp h
      · exact Or.inl ⟨[], k, c, ⟨members, .here _, hm⟩, hk⟩
      · rcases ih (k, c) hm hmark with ⟨p, l, d, ⟨ms, hat, hmem⟩, hl⟩ | ⟨p, s, hat, hs⟩
        · exact Or.inl ⟨.key k :: p, l, d, ⟨ms, .member hm hat, hmem⟩, hl⟩
        · exact Or.inr ⟨.key k :: p, s, .member hm hat, hs⟩
  · rintro (⟨p, k, c, ⟨ms, hat, hmem⟩, hk⟩ | ⟨p, s, hat, hs⟩)
    · generalize hw : Json.object ms = w at hat
      induction hat with
      | here => subst hw; exact anyMarkMembers_iff.mpr ⟨k, c, hmem, Or.inl hk⟩
      | member hm _ ih => exact anyMarkMembers_iff.mpr ⟨_, _, hm, Or.inr (ih hw)⟩
      | item hi _ ih => exact anyMarkItems_iff.mpr ⟨_, List.mem_of_getElem? hi, ih hw⟩
    · unfold TextAt at hat
      generalize hw : Json.string s = w at hat
      induction hat with
      | here => subst hw; exact hs
      | member hm _ ih => exact anyMarkMembers_iff.mpr ⟨_, _, hm, Or.inr (ih hw)⟩
      | item hi _ ih => exact anyMarkItems_iff.mpr ⟨_, List.mem_of_getElem? hi, ih hw⟩

end AnyMark

end Json

end JaDesktop
