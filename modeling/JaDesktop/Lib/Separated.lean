import Mathlib.Data.List.Basic

/-!
# Fields joined by a separator

Fields that are joined by a separator are read back by a split at it as long as no field has the
separator inside; otherwise the pieces of every field come one after another
(`splitOn_intercalate_flatMap`), and where one field ends and the next begins is lost.
-/

namespace JaDesktop

variable {α : Type} {sep : α}

variable {fields : List (List α)}

lemma splitOn_intercalate_flatMap [BEq α] [LawfulBEq α] (sep : α) (hfields : fields ≠ []) :
    ([sep].intercalate fields).splitOn sep = fields.flatMap (List.splitOn sep) := by
  induction fields with
  | nil => exact absurd rfl hfields
  | cons field fields ih =>
    cases fields with
    | nil => rw [List.intercalate_singleton, List.flatMap_singleton]
    | cons next fields =>
      rw [List.intercalate_cons_cons, List.append_assoc, List.singleton_append,
        List.splitOn_append_cons_self, ih (List.cons_ne_nil _ _)]
      rfl

lemma notMem_of_mem_splitOn [BEq α] [LawfulBEq α] {l piece : List α}
    (h : piece ∈ l.splitOn sep) : sep ∉ piece := by
  induction l generalizing piece with
  | nil =>
    rw [List.splitOn_nil, List.mem_singleton] at h
    rw [h]
    exact List.not_mem_nil
  | cons a l ih =>
    rw [List.splitOn_cons_eq_if_modifyHead] at h
    split_ifs at h with ha
    · rcases List.mem_cons.mp h with rfl | h
      · exact List.not_mem_nil
      · exact ih h
    · obtain ⟨first, rest, hpieces⟩ := List.exists_cons_of_ne_nil (List.splitOn_ne_nil sep l)
      rw [hpieces, List.modifyHead_cons] at h
      rcases List.mem_cons.mp h with rfl | h
      · intro hmem
        rcases List.mem_cons.mp hmem with rfl | hmem
        · exact ha (BEq.refl _)
        · exact ih (hpieces ▸ List.mem_cons_self) hmem
      · exact ih (hpieces ▸ List.mem_cons_of_mem _ h)

/-- Fields that each end with the separator are read back, and what comes behind the last. -/
theorem splitOn_terminated [BEq α] [LawfulBEq α] {last : List α} (h : ∀ field ∈ fields, sep ∉ field)
    (hlast : sep ∉ last) :
    (fields.flatMap (· ++ [sep]) ++ last).splitOn sep = fields ++ [last] := by
  induction fields with
  | nil => exact List.splitOn_eq_singleton hlast
  | cons field fields ih =>
    rw [List.flatMap_cons, List.append_assoc, List.append_assoc, List.singleton_append,
      List.splitOn_append_cons_self_of_not_mem (h field List.mem_cons_self),
      ih fun f hf => h f (List.mem_cons_of_mem _ hf), List.cons_append]

lemma mem_intercalate {seps : List α} {a : α} (h : a ∈ seps.intercalate fields) :
    a ∈ seps ∨ ∃ field ∈ fields, a ∈ field := by
  induction fields with
  | nil => simp [List.intercalate] at h
  | cons field fields ih =>
    cases fields with
    | nil =>
      rw [List.intercalate_singleton] at h
      exact Or.inr ⟨field, List.mem_cons_self, h⟩
    | cons next fields =>
      rw [List.intercalate_cons_cons, List.append_assoc, List.mem_append, List.mem_append] at h
      rcases h with h | h | h
      · exact Or.inr ⟨field, List.mem_cons_self, h⟩
      · exact Or.inl h
      · rcases ih h with h | ⟨f, hf, ha⟩
        · exact Or.inl h
        · exact Or.inr ⟨f, List.mem_cons_of_mem _ hf, ha⟩

lemma splitOnP_intercalate {p : α → Bool} (hsep : p sep = true) (hne : fields ≠ [])
    (h : ∀ field ∈ fields, ∀ a ∈ field, p a = false) :
    ([sep].intercalate fields).splitOnP p = fields := by
  induction fields with
  | nil => exact absurd rfl hne
  | cons field fields ih =>
    cases fields with
    | nil =>
      rw [List.intercalate_singleton]
      exact List.splitOnP_eq_singleton (h field List.mem_cons_self)
    | cons next fields =>
      rw [List.intercalate_cons_cons, List.append_assoc, List.singleton_append,
        List.splitOnP_append_cons_of_forall_mem (h field List.mem_cons_self) sep hsep,
        ih (List.cons_ne_nil _ _) fun f hf => h f (List.mem_cons_of_mem _ hf)]

end JaDesktop
