import Mathlib.Data.List.AList

/-!
# Records

A record of a dynamic language is a finite map from texts to values.  It is Mathlib's `AList`,
with the two operations that loops over the entries of a record amount to: keeping the entries
that pass a test, and asking whether all entries pass it.
-/

namespace JaDesktop

/-- A finite map from texts. -/
abbrev Record (ν : Type) := AList fun _ : String => ν

namespace Record

variable {ν : Type}

/-- Keep the entries that pass a test. -/
def filter (p : String → ν → Bool) (r : Record ν) : Record ν where
  entries := r.entries.filter fun entry => p entry.1 entry.2
  nodupKeys := r.nodupKeys.sublist List.filter_sublist

/-- All entries pass a test. -/
def all (p : String → ν → Bool) (r : Record ν) : Bool :=
  r.entries.all fun entry => p entry.1 entry.2

variable {p : String → ν → Bool} {r : Record ν} {k l : String} {v : ν}

lemma lookup_insert (r : Record ν) (k l : String) (v : ν) :
    (r.insert l v).lookup k = if k = l then some v else r.lookup k := by
  by_cases h : k = l
  · subst h
    rw [if_pos rfl, AList.lookup_insert]
  · rw [if_neg h, AList.lookup_insert_ne h]

lemma lookup_filter (p : String → ν → Bool) (r : Record ν) (k : String) :
    (r.filter p).lookup k = (r.lookup k).filter (p k) := by
  ext v
  have hmem : (⟨k, v⟩ : Sigma fun _ : String => ν) ∈ (r.filter p).entries ↔
      ⟨k, v⟩ ∈ r.entries ∧ p k v = true := List.mem_filter
  rw [Option.filter_eq_some_iff, ← Option.mem_def, ← Option.mem_def, AList.mem_lookup_iff, hmem,
    ← AList.mem_lookup_iff]

lemma isSome_lookup_insert :
    ((r.insert l v).lookup k).isSome ↔ k = l ∨ (r.lookup k).isSome := by
  rw [lookup_insert]
  split
  · next h => simp [h]
  · next h => exact ⟨Or.inr, fun hor => hor.resolve_left h⟩

end Record

end JaDesktop
