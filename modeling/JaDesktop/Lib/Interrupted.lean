import Mathlib.Data.List.Basic

/-!
# Calls that stop anywhere

A call is a list of atomic steps that it takes one after the other.  A crash or an error of a step
ends it after any number of them, so what holds in spite of crashes holds after every prefix of
the list.
-/

namespace JaDesktop

variable {σ α : Type*} {exec : σ → α → σ} {I J : σ → Prop} {s : σ} {a : α} {steps more : List α}

/-- The state in which a call stops after `n` steps. -/
def cut (exec : σ → α → σ) (s : σ) (steps : List α) (n : ℕ) : σ := (steps.take n).foldl exec s

@[simp] lemma cut_nil (n : ℕ) : cut exec s [] n = s := by simp [cut]

@[simp] lemma cut_zero : cut exec s steps 0 = s := by simp [cut]

@[simp] lemma cut_cons_succ (n : ℕ) :
    cut exec s (a :: steps) (n + 1) = cut exec (exec s a) steps n := rfl

/-- `I` holds wherever the steps can stop. -/
def Throughout (exec : σ → α → σ) (I : σ → Prop) (s : σ) : List α → Prop
  | [] => I s
  | a :: steps => I s ∧ Throughout exec I (exec s a) steps

@[simp] lemma throughout_nil : Throughout exec I s [] ↔ I s := Iff.rfl

@[simp] lemma throughout_cons :
    Throughout exec I s (a :: steps) ↔ I s ∧ Throughout exec I (exec s a) steps := Iff.rfl

lemma throughout_iff : Throughout exec I s steps ↔ ∀ n, I (cut exec s steps n) := by
  induction steps generalizing s with
  | nil => simp
  | cons a steps ih =>
    rw [throughout_cons, ih]
    constructor
    · rintro ⟨h₀, h⟩ (- | n)
      · exact h₀
      · exact h n
    · intro h
      exact ⟨h 0, fun n => h (n + 1)⟩

end JaDesktop
