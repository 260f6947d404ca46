import Mathlib.Algebra.Order.Ring.Int
import Mathlib.Data.List.Basic
import Mathlib.Data.Nat.Notation

/-!
# The longest prefix that fits

The elements of a list have weights, and a predicate says which totals fit; with a total every smaller
one fits.  Taking elements while the total fits then takes the longest prefix that fits, and every
prefix that fits is a part of it.
-/

namespace JaDesktop

variable {α : Type*} (weight : α → ℕ) (fits : ℕ → Prop) [DecidablePred fits]

/-- Take elements while the total fits, from a total on. -/
def takeFitting : ℕ → List α → List α
  | _, [] => []
  | total, a :: l =>
    if fits (total + weight a) then a :: takeFitting (total + weight a) l else []

variable {weight fits} {total : ℕ} {l p : List α}

lemma takeFitting_prefix (total : ℕ) (l : List α) : takeFitting weight fits total l <+: l := by
  induction l generalizing total with
  | nil => exact List.prefix_refl _
  | cons a l ih =>
    rw [takeFitting]
    split_ifs with hfits
    · exact List.prefix_cons_inj a |>.mpr (ih _)
    · exact List.nil_prefix

lemma fits_takeFitting (h : takeFitting weight fits total l ≠ []) :
    fits (total + ((takeFitting weight fits total l).map weight).sum) := by
  induction l generalizing total with
  | nil => exact absurd rfl h
  | cons a l ih =>
    rw [takeFitting] at h ⊢
    split_ifs at h ⊢ with hfits
    · rw [List.map_cons, List.sum_cons, ← Nat.add_assoc]
      by_cases hrest : takeFitting weight fits (total + weight a) l = []
      · rw [hrest]
        exact hfits
      · exact ih hrest
    · exact absurd rfl h

/-- **Nothing longer fits**: every prefix that fits is a prefix of what is taken. -/
theorem prefix_takeFitting (hmono : ∀ {m n}, m ≤ n → fits n → fits m) (hp : p <+: l)
    (hfits : fits (total + (p.map weight).sum)) : p <+: takeFitting weight fits total l := by
  induction p generalizing l total with
  | nil => exact List.nil_prefix
  | cons a p ih =>
    obtain ⟨rest, rfl⟩ := hp
    rw [List.map_cons, List.sum_cons, ← Nat.add_assoc] at hfits
    rw [List.cons_append, takeFitting, if_pos (hmono (Nat.le_add_right _ _) hfits)]
    exact List.prefix_cons_inj a |>.mpr (ih (List.prefix_append p rest) hfits)

end JaDesktop
