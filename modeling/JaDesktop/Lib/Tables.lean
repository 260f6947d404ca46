import Mathlib.Data.List.Basic
import Mathlib.Data.List.Nodup

/-!
# Tables with a primary key

A table is the list of its rows in the order of their insertion, and `key` gives the primary key of
a row.  An update rewrites the row of a key, and an upsert adds a row where its key is new.
-/

namespace JaDesktop.Table

variable {ρ κ : Type} [DecidableEq κ] {key : ρ → κ} {rows : List ρ} {row new : ρ} {k l : κ}
  {f : ρ → ρ}

/-- The row of a key. -/
def find (key : ρ → κ) (k : κ) (rows : List ρ) : Option ρ := rows.find? fun row => key row = k

/-- Rewrite the row of a key. -/
def update (key : ρ → κ) (k : κ) (f : ρ → ρ) (rows : List ρ) : List ρ :=
  rows.map fun row => if key row = k then f row else row

/-- Add a row, or rewrite the one that has its key. -/
def upsert (key : ρ → κ) (new : ρ) (f : ρ → ρ) (rows : List ρ) : List ρ :=
  if (find key (key new) rows).isSome then update key (key new) f rows else rows ++ [new]

/-- No key occurs twice. -/
def Keyed (key : ρ → κ) (rows : List ρ) : Prop := (rows.map key).Nodup

lemma key_of_find (h : find key k rows = some row) : key row = k := by
  simpa using List.find?_some h

lemma mem_of_find (h : find key k rows = some row) : row ∈ rows := List.mem_of_find?_eq_some h

lemma find_eq_none_iff : find key k rows = none ↔ ∀ row ∈ rows, key row ≠ k := by
  simp [find]

lemma length_filter_key (h : Keyed key rows) :
    (rows.filter fun row => key row = k).length = (find key k rows).toList.length := by
  induction rows with
  | nil => rfl
  | cons first rows ih =>
    obtain ⟨hfirst, hrest⟩ := List.nodup_cons.mp h
    rw [List.filter_cons, find, List.find?_cons]
    by_cases hkey : key first = k
    · have hnone : rows.filter (fun row => key row = k) = [] := by
        rw [List.filter_eq_nil_iff]
        intro row hrow hsame
        rw [← hkey, decide_eq_true_eq] at hsame
        exact hfirst (List.mem_map.mpr ⟨row, hrow, hsame⟩)
      simp [hkey, hnone]
    · rw [decide_eq_false hkey]
      exact ih hrest

/-! ## Updates -/

lemma map_key_update (hf : ∀ row, key (f row) = key row) :
    (update key k f rows).map key = rows.map key := by
  rw [update, List.map_map]
  refine List.map_congr_left fun row _ => ?_
  rw [Function.comp_apply]
  split_ifs
  · exact hf row
  · rfl

lemma Keyed.update (h : Keyed key rows) (hf : ∀ row, key (f row) = key row) :
    Keyed key (update key k f rows) := by
  rw [Keyed, map_key_update hf]
  exact h

lemma find_update (hf : ∀ row, key (f row) = key row) :
    find key l (update key k f rows) =
      (find key l rows).map fun row => if l = k then f row else row := by
  induction rows with
  | nil => rfl
  | cons first rows ih =>
    have hkey : key (if key first = k then f first else first) = key first := by
      split_ifs
      · exact hf first
      · rfl
    rw [find, update, List.map_cons, List.find?_cons, find, List.find?_cons, hkey]
    by_cases hl : key first = l
    · subst hl
      simp
    · rw [decide_eq_false hl]
      exact ih

/-- A row after an update is an old row or the new version of the row of the key. -/
lemma mem_update (h : row ∈ update key k f rows) :
    (row ∈ rows ∧ key row ≠ k) ∨ ∃ old ∈ rows, key old = k ∧ row = f old := by
  obtain ⟨old, hold, rfl⟩ := List.mem_map.mp h
  split_ifs with hkey
  · exact Or.inr ⟨old, hold, hkey, rfl⟩
  · exact Or.inl ⟨hold, hkey⟩

section

variable (hf : ∀ row, key (f row) = key row)
include hf

lemma find_update_ne (h : l ≠ k) :
    find key l (update key k f rows) = find key l rows := by
  rw [find_update hf]
  simp [h]

lemma find_update_self :
    find key k (update key k f rows) = (find key k rows).map f := by
  rw [find_update hf]
  simp

lemma find_map :
    find key l (rows.map f) = (find key l rows).map f := by
  induction rows with
  | nil => rfl
  | cons first rows ih =>
    rw [find, List.map_cons, List.find?_cons, find, List.find?_cons, hf]
    by_cases hl : key first = l
    · rw [decide_eq_true hl]
      rfl
    · rw [decide_eq_false hl]
      exact ih

end

omit [DecidableEq κ] in
lemma Keyed.map (h : Keyed key rows) (hf : ∀ row, key (f row) = key row) :
    Keyed key (rows.map f) := by
  have hkeys : (rows.map f).map key = rows.map key := by
    rw [List.map_map]
    exact List.map_congr_left fun row _ => hf row
  rw [Keyed, hkeys]
  exact h

/-! ## Insertions -/

lemma find_append_singleton (h : find key (key new) rows = none) :
    find key l (rows ++ [new]) = if l = key new then some new else find key l rows := by
  rw [find, List.find?_append]
  by_cases hl : l = key new
  · subst hl
    have hnone : rows.find? (fun row => decide (key row = key new)) = none := h
    simp [hnone]
  · have hne : key new ≠ l := Ne.symm hl
    simp [hl, hne, find]

lemma Keyed.append_singleton (h : Keyed key rows) (hnew : find key (key new) rows = none) :
    Keyed key (rows ++ [new]) := by
  rw [Keyed, List.map_append, List.map_singleton, List.nodup_append]
  refine ⟨h, List.nodup_singleton _, ?_⟩
  intro k hk l hl
  obtain ⟨row, hrow, rfl⟩ := List.mem_map.mp hk
  rw [List.mem_singleton.mp hl]
  exact find_eq_none_iff.mp hnew row hrow

lemma Keyed.upsert (h : Keyed key rows) (hf : ∀ row, key (f row) = key row) :
    Keyed key (upsert key new f rows) := by
  unfold Table.upsert
  split_ifs with hsome
  · exact h.update hf
  · exact h.append_singleton (Option.not_isSome_iff_eq_none.mp hsome)

lemma find_upsert (hf : ∀ row, key (f row) = key row) :
    find key l (upsert key new f rows) =
      if l = key new then some ((find key l rows).elim new f) else find key l rows := by
  unfold upsert
  split_ifs with hsome hl hl
  · subst hl
    obtain ⟨row, hrow⟩ := Option.isSome_iff_exists.mp hsome
    rw [find_update_self hf, hrow]
    rfl
  · exact find_update_ne hf hl
  · subst hl
    have hnone := Option.not_isSome_iff_eq_none.mp hsome
    rw [find_append_singleton hnone, hnone]
    simp
  · rw [find_append_singleton (Option.not_isSome_iff_eq_none.mp hsome), if_neg hl]

/-- A row after an upsert is an old row, the new row, or the new version of the row of its key. -/
lemma mem_upsert (h : row ∈ upsert key new f rows) :
    (row ∈ rows ∧ key row ≠ key new) ∨ (row = new ∧ find key (key new) rows = none) ∨
      ∃ old ∈ rows, key old = key new ∧ row = f old := by
  unfold upsert at h
  split_ifs at h with hsome
  · rcases mem_update h with hold | hnew
    · exact Or.inl hold
    · exact Or.inr (Or.inr hnew)
  · have hnone := Option.not_isSome_iff_eq_none.mp hsome
    rcases List.mem_append.mp h with hold | hnew
    · exact Or.inl ⟨hold, find_eq_none_iff.mp hnone row hold⟩
    · exact Or.inr (Or.inl ⟨List.mem_singleton.mp hnew, hnone⟩)

end JaDesktop.Table
