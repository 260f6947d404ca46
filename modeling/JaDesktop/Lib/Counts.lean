import Mathlib.Algebra.Order.Ring.Int
import Mathlib.Data.List.Basic

/-!
# Counts over a list of places

How a sum over the places of a list, or a count of them, changes when one place does.
-/

namespace JaDesktop

variable {α : Type*} {l : List α} {i : ℕ} {a b : α}

lemma sum_map_set (f : α → ℕ) (h : l[i]? = some a) :
    ((l.set i b).map f).sum + f a = (l.map f).sum + f b := by
  induction l generalizing i with
  | nil => cases h
  | cons c l ih =>
    cases i with
    | zero =>
      obtain rfl := Option.some_inj.mp h
      simp only [List.set_cons_zero, List.map_cons, List.sum_cons]
      omega
    | succ i =>
      have hrest := ih (i := i) h
      simp only [List.set_cons_succ, List.map_cons, List.sum_cons]
      omega

lemma sum_map_concat (f : α → ℕ) : ((l ++ [a]).map f).sum = (l.map f).sum + f a := by
  rw [List.map_append, List.sum_append]
  simp

lemma sum_map_eraseIdx (f : α → ℕ) (h : l[i]? = some a) :
    ((l.eraseIdx i).map f).sum + f a = (l.map f).sum := by
  induction l generalizing i with
  | nil => cases h
  | cons c l ih =>
    cases i with
    | zero =>
      obtain rfl := Option.some_inj.mp h
      simp only [List.eraseIdx_cons_zero, List.map_cons, List.sum_cons]
      omega
    | succ i =>
      have hrest := ih (i := i) h
      simp only [List.eraseIdx_cons_succ, List.map_cons, List.sum_cons]
      omega

lemma le_sum_map (f : α → ℕ) (h : l[i]? = some a) : f a ≤ (l.map f).sum := by
  have hset := sum_map_set (b := a) f h
  induction l generalizing i with
  | nil => cases h
  | cons c l ih =>
    cases i with
    | zero =>
      obtain rfl := Option.some_inj.mp h
      simp only [List.map_cons, List.sum_cons]
      omega
    | succ i =>
      have hrest := ih (i := i) h (sum_map_set f h)
      simp only [List.map_cons, List.sum_cons]
      omega

lemma sum_map_eq_zero {f : α → ℕ} (h : ∀ a ∈ l, f a = 0) : (l.map f).sum = 0 := by
  induction l with
  | nil => rfl
  | cons a l ih =>
    rw [List.map_cons, List.sum_cons, h a List.mem_cons_self,
      ih fun b hb => h b (List.mem_cons_of_mem a hb)]

end JaDesktop
