import Mathlib.Data.List.AList
import Mathlib.Tactic.ByContra

/-!
# Maps as association lists

A hash map is the association list of its entries, which Mathlib provides as `AList`; here are its
size and the equations of a lookup after an insertion or a removal, for a map with values of one
type.
-/

namespace JaDesktop

variable {κ α : Type} [DecidableEq κ]

/-- A map from `κ` to `α`. -/
abbrev AssocMap (κ α : Type) := AList fun _ : κ => α

namespace AssocMap

omit [DecidableEq κ] in
/-- The number of keys. -/
def size (m : AssocMap κ α) : ℕ := m.keys.length

variable {m : AssocMap κ α} {k : κ}

lemma lookup_insert (m : AssocMap κ α) (k l : κ) (a : α) :
    AList.lookup k (m.insert l a) = if k = l then some a else m.lookup k := by
  split_ifs with h
  · rw [h, AList.lookup_insert]
  · exact AList.lookup_insert_ne h

lemma lookup_erase (m : AssocMap κ α) (k l : κ) :
    AList.lookup k (m.erase l) = if k = l then none else m.lookup k := by
  split_ifs with h
  · rw [h, AList.lookup_erase]
  · exact AList.lookup_erase_ne h

lemma mem_iff_lookup : k ∈ m ↔ m.lookup k ≠ none := by
  rw [← AList.lookup_isSome, Option.isSome_iff_ne_none]

lemma size_insert_new (h : m.lookup k = none) (a : α) :
    AssocMap.size (m.insert k a) = m.size + 1 := by
  have hnot : k ∉ m.keys := by
    rw [← AList.mem_keys]
    exact AList.lookup_eq_none.mp h
  rw [size, AList.keys_insert, List.erase_of_not_mem hnot, List.length_cons, size]

lemma size_insert_old (h : m.lookup k ≠ none) (a : α) :
    AssocMap.size (m.insert k a) = m.size := by
  have hmem : k ∈ m.keys := by
    rw [← AList.mem_keys]
    exact mem_iff_lookup.mpr h
  have hpos := List.length_pos_of_mem hmem
  rw [size, AList.keys_insert, List.length_cons, List.length_erase_of_mem hmem, size]
  omega

lemma lookup_foldl_insert (m : AssocMap κ α) (ks : List κ) (a : α) (k : κ) :
    AList.lookup k (ks.foldl (fun m k => m.insert k a) m) =
      if k ∈ ks then some a else m.lookup k := by
  induction ks generalizing m with
  | nil => rfl
  | cons first ks ih =>
    rw [List.foldl_cons, ih, lookup_insert]
    by_cases hrest : k ∈ ks
    · rw [if_pos hrest, if_pos (List.mem_cons_of_mem _ hrest)]
    · rw [if_neg hrest]
      simp only [List.mem_cons, hrest, or_false]

lemma size_foldl_insert {ks : List κ} (h : ∀ k ∈ ks, m.lookup k ≠ none) (a : α) :
    AssocMap.size (ks.foldl (fun m k => m.insert k a) m) = m.size := by
  induction ks generalizing m with
  | nil => rfl
  | cons first ks ih =>
    have hrest : ∀ k ∈ ks, AList.lookup k (m.insert first a) ≠ none := by
      intro k hk
      rw [lookup_insert]
      split_ifs
      · simp
      · exact h k (by simp [hk])
    rw [List.foldl_cons, ih hrest, size_insert_old (h first (by simp))]

end AssocMap

end JaDesktop
