import JaDesktop.Lib.SortedMap

/-!
# Ordered maps that carry their order

An `OrderedMap` is a list of entries together with the proof that its keys increase, so two of
them with the same value for each key are equal.  Writing an optional value under a key either
puts the value there or removes the key; a list of such writes to different keys is described by
`get_writeAll`.
-/

namespace JaDesktop

namespace SortedMap

variable {κ α : Type} [LinearOrder κ] {k l : κ} {v : α} {m n : List (κ × α)}

/-- Remove a key. -/
def erase (k : κ) (m : List (κ × α)) : List (κ × α) := m.filter fun e => e.1 ≠ k

lemma erase_cons (k l : κ) (v : α) (m : List (κ × α)) :
    erase k ((l, v) :: m) = if l = k then erase k m else (l, v) :: erase k m := by
  simp [erase, List.filter_cons]

lemma get_erase (k l : κ) (m : List (κ × α)) :
    get k (erase l m) = if k = l then none else get k m := by
  induction m with
  | nil => simp [erase, get]
  | cons e m ih =>
    obtain ⟨l', w⟩ := e
    rw [erase_cons]
    by_cases hl : l' = l
    · rw [if_pos hl, ih, get]
      split_ifs with hk hk' <;> simp_all
    · by_cases hk : k = l'
      · simp [get, hl, hk]
      · simp [get, hl, ih, hk]

lemma Sorted.erase (h : Sorted m) (k : κ) : Sorted (erase k m) :=
  List.Pairwise.sublist (List.Sublist.map _ List.filter_sublist) h

lemma Sorted.lt_of_get {e : κ × α} (h : Sorted (e :: m)) (hk : get k m = some v) : e.1 < k :=
  (List.pairwise_cons.mp h).1 k (List.mem_map.mpr ⟨(k, v), mem_of_get hk, rfl⟩)

lemma Sorted.tail {e : κ × α} (h : Sorted (e :: m)) : Sorted m := (List.pairwise_cons.mp h).2

lemma Sorted.get_head {e : κ × α} (h : Sorted (e :: m)) : get e.1 m = none := by
  cases hget : get e.1 m with
  | none => rfl
  | some v => exact absurd (h.lt_of_get hget) (lt_irrefl _)

/-- A sorted map is determined by the values of its keys. -/
theorem Sorted.eq_of_get (hm : Sorted m) (hn : Sorted n) (h : ∀ k, get k m = get k n) : m = n := by
  induction m generalizing n with
  | nil =>
    cases n with
    | nil => rfl
    | cons e n => simpa [get] using h e.1
  | cons e m ih =>
    obtain ⟨l, w⟩ := e
    cases n with
    | nil => simpa [get] using h l
    | cons e' n =>
      obtain ⟨l', w'⟩ := e'
      -- the smaller of the two first keys would be missing on the other side
      have hll : l = l' := by
        by_contra hne
        have h₁ := h l
        have h₂ := h l'
        simp only [get, if_true, hne, Ne.symm hne, if_false] at h₁ h₂
        exact absurd (hn.lt_of_get h₁.symm) (not_lt.mpr (hm.lt_of_get h₂).le)
      subst hll
      have hw := h l
      simp only [get, if_true, Option.some.injEq] at hw
      subst hw
      rw [ih hm.tail hn.tail]
      intro k
      by_cases hk : k = l
      · rw [hk, hm.get_head, hn.get_head]
      · simpa [get, hk] using h k

lemma mem_keys_insert : k ∈ (insert l v m).map Prod.fst ↔ k = l ∨ k ∈ m.map Prod.fst := by
  have hnot : k ∉ (insert l v m).map Prod.fst ↔ k ≠ l ∧ k ∉ m.map Prod.fst := by
    rw [← get_eq_none_iff, ← get_eq_none_iff, get_insert]
    split_ifs with hk <;> simp [hk]
  rw [← not_iff_not, hnot, not_or]

lemma mem_keys_foldl_insert {es : List (κ × α)} :
    k ∈ (es.foldl (fun m e => insert e.1 e.2 m) m).map Prod.fst ↔
      k ∈ es.map Prod.fst ∨ k ∈ m.map Prod.fst := by
  induction es generalizing m with
  | nil => simp
  | cons e es ih =>
    rw [List.foldl_cons, ih, mem_keys_insert, List.map_cons, List.mem_cons]
    tauto

lemma mem_keys_ofList {es : List (κ × α)} :
    k ∈ (ofList es).map Prod.fst ↔ k ∈ es.map Prod.fst := by
  simp [ofList, mem_keys_foldl_insert]

end SortedMap

/-- A map with ordered keys. -/
structure OrderedMap (κ α : Type) [LinearOrder κ] where
  /-- The entries in the order of their keys. -/
  entries : List (κ × α)
  sorted : SortedMap.Sorted entries
deriving DecidableEq

namespace OrderedMap

variable {κ α : Type} [LinearOrder κ] {k l : κ} {v : α} {m n : OrderedMap κ α}

def empty : OrderedMap κ α := ⟨[], List.Pairwise.nil⟩

def get (m : OrderedMap κ α) (k : κ) : Option α := SortedMap.get k m.entries

def insert (m : OrderedMap κ α) (k : κ) (v : α) : OrderedMap κ α :=
  ⟨SortedMap.insert k v m.entries, m.sorted.insert k v⟩

def erase (m : OrderedMap κ α) (k : κ) : OrderedMap κ α :=
  ⟨SortedMap.erase k m.entries, m.sorted.erase k⟩

/-- The keys in increasing order. -/
def keys (m : OrderedMap κ α) : List κ := m.entries.map Prod.fst

/-- The set of the elements of a list. -/
def ofKeys (ks : List κ) : OrderedMap κ Unit :=
  ⟨SortedMap.ofList (ks.map fun k => (k, ())), SortedMap.sorted_ofList _⟩

/-- Put a value under a key, or remove the key. -/
def write (m : OrderedMap κ α) (k : κ) : Option α → OrderedMap κ α
  | some v => m.insert k v
  | none => m.erase k

/-- Write under one key after the other. -/
def writeAll (m : OrderedMap κ α) (ws : List (κ × Option α)) : OrderedMap κ α :=
  ws.foldl (fun m w => m.write w.1 w.2) m

@[ext] theorem ext (h : ∀ k, m.get k = n.get k) : m = n := by
  obtain ⟨es, hes⟩ := m
  obtain ⟨fs, hfs⟩ := n
  have heq : es = fs := hes.eq_of_get hfs h
  subst heq
  rfl

lemma keys_pairwise (m : OrderedMap κ α) : m.keys.Pairwise (· < ·) := m.sorted

lemma mem_keys_iff : k ∈ m.keys ↔ m.get k ≠ none := by
  rw [get, Ne, SortedMap.get_eq_none_iff, not_not, keys]

@[simp] lemma mem_keys_ofKeys {ks : List κ} : k ∈ (ofKeys ks).keys ↔ k ∈ ks := by
  rw [keys, ofKeys, SortedMap.mem_keys_ofList, List.map_map]
  simp [Function.comp_def]

lemma get_write {v : Option α} : (m.write l v).get k = if k = l then v else m.get k := by
  cases v with
  | none => exact SortedMap.get_erase k l m.entries
  | some v => exact SortedMap.get_insert k l v m.entries

/-- Writes to different keys: each key has the value written there, or its value from before. -/
theorem get_writeAll {ws : List (κ × Option α)} (hws : (ws.map Prod.fst).Nodup) :
    (m.writeAll ws).get k = (SortedMap.get k ws).getD (m.get k) := by
  induction ws generalizing m with
  | nil => rfl
  | cons w ws ih =>
    obtain ⟨l, v⟩ := w
    simp only [List.map_cons, List.nodup_cons] at hws
    have hrest := ih (m := m.write l v) hws.2
    simp only [writeAll, List.foldl_cons] at hrest ⊢
    rw [hrest, get_write, SortedMap.get]
    by_cases hk : k = l
    · have hnone : SortedMap.get k ws = none := SortedMap.get_eq_none_iff.mpr (hk ▸ hws.1)
      simp [hk, hk ▸ hnone]
    · simp [hk]

end OrderedMap

end JaDesktop
