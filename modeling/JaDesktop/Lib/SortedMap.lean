import Mathlib.Data.String.Basic
import Mathlib.Order.Basic
import JaDesktop.Lib.JsonTree

/-!
# Ordered maps as sorted association lists

The iteration order of an ordered map (Rust's `BTreeMap`) is the order of its keys, so such a
map is represented by the list of its entries.  The invariant is `Sorted`; `insert` keeps it,
and `get` and `insert` satisfy the usual equations on every list.

The second half applies this to JSON trees: `Json.sort` reorders the members of every object,
which is what happens to a document when it is read into ordered maps.
-/

namespace JaDesktop

namespace SortedMap

variable {κ α : Type} [LinearOrder κ] {k l : κ} {v w : α} {m : List (κ × α)}

/-- The keys of the map increase strictly along the list. -/
def Sorted (m : List (κ × α)) : Prop := (m.map Prod.fst).Pairwise (· < ·)

/-- Insert a key, replacing the value of an equal key. -/
def insert (k : κ) (v : α) : List (κ × α) → List (κ × α)
  | [] => [(k, v)]
  | (l, w) :: m =>
    if k < l then (k, v) :: (l, w) :: m
    else if k = l then (k, v) :: m
    else (l, w) :: insert k v m

/-- The value of a key. -/
def get (k : κ) : List (κ × α) → Option α
  | [] => none
  | (l, w) :: m => if k = l then some w else get k m

/-- The map built by inserting the entries of a list from left to right. -/
def ofList (es : List (κ × α)) : List (κ × α) := es.foldl (fun m e => insert e.1 e.2 m) []

@[simp] lemma get_nil : get k ([] : List (κ × α)) = none := rfl

lemma get_insert (k l : κ) (v : α) (m : List (κ × α)) :
    get k (insert l v m) = if k = l then some v else get k m := by
  induction m with
  | nil => simp [insert, get]
  | cons e m ih =>
    obtain ⟨l', w⟩ := e
    by_cases h₁ : l < l'
    · simp [insert, h₁, get]
    · by_cases h₂ : l = l'
      · subst h₂
        by_cases hk : k = l <;> simp [insert, get, hk]
      · simp only [insert, h₁, if_false, h₂, get, ih]
        by_cases hk : k = l'
        · simp [hk, Ne.symm h₂]
        · simp [hk]

lemma get_append (k : κ) (m n : List (κ × α)) : get k (m ++ n) = (get k m).or (get k n) := by
  induction m with
  | nil => rfl
  | cons e m ih =>
    obtain ⟨l, w⟩ := e
    rw [List.cons_append, get, get]
    split_ifs
    · rfl
    · exact ih

lemma mem_of_get (h : get k m = some v) : (k, v) ∈ m := by
  induction m with
  | nil => simp at h
  | cons e m ih =>
    obtain ⟨l, w⟩ := e
    by_cases hk : k = l
    · simp [get, hk] at h
      simp [hk, h]
    · simp only [get, hk, if_false] at h
      exact List.mem_cons_of_mem _ (ih h)

lemma get_of_mem (hm : (m.map Prod.fst).Nodup) (h : (k, v) ∈ m) : get k m = some v := by
  induction m with
  | nil => simp at h
  | cons e m ih =>
    obtain ⟨l, w⟩ := e
    simp only [List.map_cons, List.nodup_cons] at hm
    rcases List.mem_cons.mp h with he | hmem
    · cases he
      simp [get]
    · have hne : k ≠ l := by
        rintro rfl
        exact hm.1 (List.mem_map.mpr ⟨(k, v), hmem, rfl⟩)
      simp [get, hne, ih hm.2 hmem]

lemma eq_of_get_of_mem (hm : (m.map Prod.fst).Nodup) (h : get k m = some v) (hw : (k, w) ∈ m) :
    w = v := by
  rw [get_of_mem hm hw] at h
  exact Option.some_inj.mp h

lemma get_eq_none_iff : get k m = none ↔ k ∉ m.map Prod.fst := by
  induction m with
  | nil => simp
  | cons e m ih =>
    obtain ⟨l, w⟩ := e
    by_cases hk : k = l <;> simp [get, hk, ih]

lemma Sorted.nodup (h : Sorted m) : (m.map Prod.fst).Nodup :=
  List.Pairwise.imp (fun hlt => ne_of_lt hlt) h

variable {e : κ × α} {es : List (κ × α)}

lemma mem_insert (h : e ∈ insert k v m) : e = (k, v) ∨ e ∈ m := by
  induction m with
  | nil => simpa [insert] using h
  | cons f m ih =>
    obtain ⟨l, w⟩ := f
    simp only [insert] at h
    split_ifs at h with h₁ h₂
    · simpa using h
    · rcases List.mem_cons.mp h with h | h
      · exact Or.inl h
      · exact Or.inr (List.mem_cons_of_mem _ h)
    · rcases List.mem_cons.mp h with h | h
      · exact Or.inr (by simp [h])
      · exact (ih h).imp id (List.mem_cons_of_mem _)

lemma Sorted.insert (h : Sorted m) (k : κ) (v : α) : Sorted (insert k v m) := by
  induction m with
  | nil => simp [Sorted, SortedMap.insert]
  | cons e m ih =>
    obtain ⟨l, w⟩ := e
    simp only [Sorted, List.map_cons, List.pairwise_cons] at h
    simp only [SortedMap.insert]
    split_ifs with h₁ h₂
    · refine List.pairwise_cons.mpr ⟨?_, List.pairwise_cons.mpr h⟩
      intro x hx
      rcases List.mem_cons.mp hx with rfl | hx
      · exact h₁
      · exact lt_trans h₁ (h.1 x hx)
    · subst h₂
      exact List.pairwise_cons.mpr h
    · refine List.pairwise_cons.mpr ⟨?_, ih h.2⟩
      intro x hx
      obtain ⟨e, he, rfl⟩ := List.mem_map.mp hx
      rcases mem_insert he with rfl | he
      · exact lt_of_le_of_ne (not_lt.mp h₁) (Ne.symm h₂)
      · exact h.1 _ (List.mem_map.mpr ⟨e, he, rfl⟩)

lemma insert_eq_append (h : ∀ e ∈ m, e.1 < k) : insert k v m = m ++ [(k, v)] := by
  induction m with
  | nil => rfl
  | cons e m ih =>
    obtain ⟨l, w⟩ := e
    have hl : l < k := h (l, w) (by simp)
    simp [insert, not_lt.mpr hl.le, ne_of_gt hl, ih (fun e he => h e (by simp [he]))]

lemma sorted_foldl_insert (h : Sorted m) :
    Sorted (es.foldl (fun m e => insert e.1 e.2 m) m) := by
  induction es generalizing m with
  | nil => exact h
  | cons e es ih => exact ih (h.insert e.1 e.2)

lemma sorted_ofList (es : List (κ × α)) : Sorted (ofList es) :=
  sorted_foldl_insert (by simp [Sorted])

lemma foldl_insert_of_sorted (h : Sorted (m ++ es)) :
    es.foldl (fun m e => insert e.1 e.2 m) m = m ++ es := by
  induction es generalizing m with
  | nil => simp
  | cons e es ih =>
    have hlt : ∀ f ∈ m, f.1 < e.1 := by
      intro f hf
      simp only [Sorted, List.map_append, List.map_cons, List.pairwise_append] at h
      exact h.2.2 _ (List.mem_map.mpr ⟨f, hf, rfl⟩) _ (by simp)
    rw [List.foldl_cons, insert_eq_append hlt, ih (by simpa using h)]
    simp

lemma ofList_of_sorted (h : Sorted es) : ofList es = es := by
  simpa [ofList] using foldl_insert_of_sorted (m := []) (by simpa using h)

lemma mem_foldl_insert (h : e ∈ es.foldl (fun m e => insert e.1 e.2 m) m) : e ∈ m ∨ e ∈ es := by
  induction es generalizing m with
  | nil => exact Or.inl h
  | cons f es ih =>
    rcases ih h with h | h
    · rcases mem_insert h with rfl | h
      · exact Or.inr (by simp)
      · exact Or.inl h
    · exact Or.inr (List.mem_cons_of_mem _ h)

lemma mem_of_mem_ofList (h : e ∈ ofList es) : e ∈ es := by
  simpa using mem_foldl_insert h

lemma get_foldl_insert (hes : (es.map Prod.fst).Nodup) :
    get k (es.foldl (fun m e => insert e.1 e.2 m) m) = (get k es).or (get k m) := by
  induction es generalizing m with
  | nil => simp
  | cons e es ih =>
    obtain ⟨l, w⟩ := e
    simp only [List.map_cons, List.nodup_cons] at hes
    rw [List.foldl_cons, ih hes.2, get_insert]
    by_cases hk : k = l
    · subst hk
      have hnone : get k es = none := get_eq_none_iff.mpr hes.1
      simp [get, hnone]
    · simp [get, hk]

/-- Entries with distinct keys are all found again in the map built from them. -/
lemma get_ofList (hes : (es.map Prod.fst).Nodup) :
    get k (ofList es) = get k es := by
  rw [ofList, get_foldl_insert hes]
  simp

lemma mem_ofList (hes : (es.map Prod.fst).Nodup) :
    e ∈ ofList es ↔ e ∈ es := by
  refine ⟨mem_of_mem_ofList, fun h => ?_⟩
  have hget : get e.1 (ofList es) = some e.2 := by rw [get_ofList hes]; exact get_of_mem hes h
  exact mem_of_get hget

end SortedMap

/-! ## JSON trees with sorted objects -/

namespace Json

variable {κ ν : Type} [LinearOrder κ]

/-- Every object of the tree lists its members in strictly increasing key order. -/
def WellSorted (v : Json κ ν) : Prop := v.EachObject (List.Pairwise (· < ·))

mutual

/-- Put the members of every object in key order. -/
def sort : Json κ ν → Json κ ν
  | .array items => .array (sortItems items)
  | .object members => .object (SortedMap.ofList (sortMembers members))
  | v => v

def sortItems : List (Json κ ν) → List (Json κ ν)
  | [] => []
  | c :: items => c.sort :: sortItems items

def sortMembers : List (κ × Json κ ν) → List (κ × Json κ ν)
  | [] => []
  | (k, c) :: members => (k, c.sort) :: sortMembers members

end

lemma sortItems_eq_map (items : List (Json κ ν)) : sortItems items = items.map sort := by
  induction items with
  | nil => rfl
  | cons c items ih => simp [sortItems, ih]

lemma sortMembers_eq_map (members : List (κ × Json κ ν)) :
    sortMembers members = members.map fun m => (m.1, m.2.sort) := by
  induction members with
  | nil => rfl
  | cons m members ih =>
    obtain ⟨k, c⟩ := m
    simp [sortMembers, ih]

lemma keys_sortMembers (members : List (κ × Json κ ν)) :
    (sortMembers members).map Prod.fst = members.map Prod.fst := by
  rw [sortMembers_eq_map]
  simp [Function.comp_def]

variable {v : Json κ ν}

lemma WellSorted.nodupKeys (h : v.WellSorted) : v.EachObject List.Nodup :=
  h.imp fun _ hkeys => hkeys.imp fun hlt => ne_of_lt hlt

theorem wellSorted_sort (v : Json κ ν) : v.sort.WellSorted := by
  induction v using ind with
  | null => exact .null
  | bool b => exact .bool b
  | number n => exact .number n
  | string s => exact .string s
  | array items ih =>
    refine .array fun c hc => ?_
    rw [sortItems_eq_map] at hc
    obtain ⟨d, hd, rfl⟩ := List.mem_map.mp hc
    exact ih d hd
  | object members ih =>
    refine .object (SortedMap.sorted_ofList _) fun m hm => ?_
    have hm' := SortedMap.mem_of_mem_ofList hm
    rw [sortMembers_eq_map] at hm'
    obtain ⟨d, hd, rfl⟩ := List.mem_map.mp hm'
    exact ih d hd

/-- Sorting changes nothing in a tree that is sorted already. -/
theorem WellSorted.sort_eq (h : v.WellSorted) : v.sort = v := by
  induction v using ind with
  | null | bool | number | string => rfl
  | array items ih =>
    cases h with
    | array hitems =>
      have hmap : items.map sort = items.map id :=
        List.map_congr_left fun c hc => ih c hc (hitems c hc)
      rw [sort, sortItems_eq_map, hmap, List.map_id]
  | object members ih =>
    cases h with
    | object hsorted hmembers =>
      have hmap : (members.map fun m => (m.1, m.2.sort)) = members.map id :=
        List.map_congr_left fun m hm => by rw [ih m hm (hmembers m hm)]; rfl
      rw [sort, sortMembers_eq_map, hmap, List.map_id, SortedMap.ofList_of_sorted hsorted]

lemma depth_sort_le (v : Json κ ν) : v.sort.depth ≤ v.depth := by
  induction v using ind with
  | null | bool | number | string => exact le_rfl
  | array items ih =>
    simp only [sort, depth, sortItems_eq_map, Nat.add_le_add_iff_right, depthItems_le,
      List.forall_mem_map]
    exact fun c hc => (ih c hc).trans (depthItems_le.mp le_rfl c hc)
  | object members ih =>
    simp only [sort, depth, Nat.add_le_add_iff_right, depthMembers_le]
    intro m hm
    have hm' := SortedMap.mem_of_mem_ofList hm
    rw [sortMembers_eq_map] at hm'
    obtain ⟨d, hd, rfl⟩ := List.mem_map.mp hm'
    exact (ih d hd).trans (depthMembers_le.mp le_rfl d hd)

lemma get_sortMembers (k : κ) (members : List (κ × Json κ ν)) :
    SortedMap.get k (sortMembers members) = (SortedMap.get k members).map sort := by
  induction members with
  | nil => rfl
  | cons m members ih =>
    obtain ⟨l, c⟩ := m
    simp only [sortMembers, SortedMap.get]
    split_ifs
    · rfl
    · exact ih

lemma get_of_shape {m m' : List (κ × Json κ ν)}
    (h : (object m : Json κ ν).shape = (object m').shape) (k : κ) :
    (SortedMap.get k m).map shape = (SortedMap.get k m').map shape := by
  have hget : ∀ n : List (κ × Json κ ν), SortedMap.get k (n.map fun e => (e.1, e.2.shape)) =
      (SortedMap.get k n).map shape := by
    intro n
    induction n with
    | nil => rfl
    | cons e n ih =>
      simp only [List.map_cons, SortedMap.get]
      split_ifs
      · rfl
      · exact ih
  simp only [shape, mapNumbers, mapNumbersMembers_eq_map, object.injEq] at h
  rw [← hget, ← hget]
  exact congrArg _ h

/-- A position of a tree without repeated keys is a position of the sorted tree. -/
theorem At.sort {w : Json κ ν} {p : List (Seg κ)} (hkeys : v.EachObject List.Nodup) (h : At v p w) :
    At v.sort p w.sort := by
  induction h with
  | here => exact .here _
  | @member members k c w p hm _ ih =>
    cases hkeys with
    | object hnodup hmembers =>
      refine .member ?_ (ih (hmembers _ hm))
      rw [SortedMap.mem_ofList (by rwa [keys_sortMembers]), sortMembers_eq_map]
      exact List.mem_map.mpr ⟨(k, c), hm, rfl⟩
  | @item items i c w p hi _ ih =>
    cases hkeys with
    | array hitems =>
      refine .item ?_ (ih (hitems _ (List.mem_of_getElem? hi)))
      rw [sortItems_eq_map, List.getElem?_map, hi]
      rfl

lemma MemberAt.sort {c : Json κ ν} {p : List (Seg κ)} {k : κ} (hkeys : v.EachObject List.Nodup)
    (h : MemberAt v p k c) : MemberAt v.sort p k c.sort := by
  obtain ⟨members, hat, hm⟩ := h
  refine ⟨_, hat.sort hkeys, ?_⟩
  have hnodup := (hat.eachObject hkeys)
  cases hnodup with
  | object hnodup _ =>
    rw [SortedMap.mem_ofList (by rwa [keys_sortMembers]), sortMembers_eq_map]
    exact List.mem_map.mpr ⟨(k, c), hm, rfl⟩

/-- Sorting keeps the marks of a tree without repeated keys. -/
theorem anyMark_sort {key text : κ → Bool} (hkeys : v.EachObject List.Nodup) :
    v.sort.anyMark key text = v.anyMark key text := by
  induction v using ind with
  | null | bool | number | string => rfl
  | array items ih =>
    cases hkeys with
    | array hitems =>
      rw [Bool.eq_iff_iff]
      simp only [sort, anyMark, anyMarkItems_iff, sortItems_eq_map, List.mem_map]
      constructor
      · rintro ⟨_, ⟨c, hc, rfl⟩, hmark⟩
        exact ⟨c, hc, ih c hc (hitems c hc) ▸ hmark⟩
      · rintro ⟨c, hc, hmark⟩
        exact ⟨c.sort, ⟨c, hc, rfl⟩, (ih c hc (hitems c hc)).symm ▸ hmark⟩
  | object members ih =>
    cases hkeys with
    | object hnodup hmembers =>
      have hsorted : ((sortMembers members).map Prod.fst).Nodup := by rwa [keys_sortMembers]
      rw [Bool.eq_iff_iff]
      simp only [sort, anyMark, anyMarkMembers_iff, SortedMap.mem_ofList hsorted]
      simp only [sortMembers_eq_map, List.mem_map, Prod.mk.injEq]
      constructor
      · rintro ⟨k, _, ⟨⟨_, c⟩, hc, rfl, rfl⟩, hmark⟩
        exact ⟨_, c, hc, ih _ hc (hmembers _ hc) ▸ hmark⟩
      · rintro ⟨k, c, hc, hmark⟩
        exact ⟨k, c.sort, ⟨(k, c), hc, rfl, rfl⟩, (ih _ hc (hmembers _ hc)).symm ▸ hmark⟩

end Json

end JaDesktop
