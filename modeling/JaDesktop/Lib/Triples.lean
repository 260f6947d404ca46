import Mathlib.Order.Notation
import Mathlib.Tactic.SplitIfs

/-!
# Triples for programs that fail

A program `ExceptT ε (StateM σ) α` reads and writes a state, and a failure does not undo what was
written.  `Ensures P m Q E` says what such a program does from a state with `P`: when it returns a
value the value and the state have `Q`, and when it fails the state has `E`.  The rules follow the
constructors of a program.
-/

namespace JaDesktop

variable {ε σ α β : Type} {P P' : σ → Prop} {Q Q' : α → σ → Prop} {E E' : σ → Prop}

/-- The outcome and the last state of a program. -/
def runFrom (m : ExceptT ε (StateM σ) α) (s : σ) : Except ε α × σ := (m.run.run s)

/-- **A triple**: the postcondition of a return and the one of a failure. -/
def Ensures (P : σ → Prop) (m : ExceptT ε (StateM σ) α) (Q : α → σ → Prop) (E : σ → Prop) : Prop :=
  ∀ s, P s → (∀ a t, runFrom m s = (.ok a, t) → Q a t) ∧
    ∀ e t, runFrom m s = (.error e, t) → E t

/-! ## What the constructors of a program do -/

@[simp] lemma runFrom_pure (a : α) (s : σ) :
    runFrom (pure a : ExceptT ε (StateM σ) α) s = (.ok a, s) := rfl

@[simp] lemma runFrom_throw (e : ε) (s : σ) :
    runFrom (throw e : ExceptT ε (StateM σ) α) s = (.error e, s) := rfl

@[simp] lemma runFrom_get (s : σ) :
    runFrom (get : ExceptT ε (StateM σ) σ) s = (.ok s, s) := rfl

@[simp] lemma runFrom_set (t s : σ) :
    runFrom (set t : ExceptT ε (StateM σ) PUnit) s = (.ok ⟨⟩, t) := rfl

@[simp] lemma runFrom_modify (f : σ → σ) (s : σ) :
    runFrom (modify f : ExceptT ε (StateM σ) PUnit) s = (.ok ⟨⟩, f s) := rfl

lemma runFrom_bind (m : ExceptT ε (StateM σ) α) (f : α → ExceptT ε (StateM σ) β) (s : σ) :
    runFrom (m >>= f) s =
      match runFrom m s with
      | (.ok a, t) => runFrom (f a) t
      | (.error e, t) => (.error e, t) := by
  show (ExceptT.bindCont f (m.run.run s).1).run (m.run.run s).2 = _
  rw [runFrom]
  rcases m.run.run s with ⟨e | a, t⟩ <;> rfl

lemma runFrom_bind_ok {m : ExceptT ε (StateM σ) α} {f : α → ExceptT ε (StateM σ) β} {s u : σ}
    {b : β} : runFrom (m >>= f) s = (.ok b, u) ↔
      ∃ a t, runFrom m s = (.ok a, t) ∧ runFrom (f a) t = (.ok b, u) := by
  rw [runFrom_bind]
  rcases runFrom m s with ⟨e | a, t⟩
  · simp
  · constructor
    · exact fun h => ⟨a, t, rfl, h⟩
    · rintro ⟨a', t', heq, h⟩
      obtain ⟨ha, rfl⟩ := Prod.mk.inj heq
      obtain rfl := Except.ok.inj ha
      exact h

/-- A program that begins with a guard returns when the guard lets it go on. -/
lemma runFrom_guard_ok {c : Prop} [Decidable c] {e : ε} {f : α → ExceptT ε (StateM σ) β}
    {m : ExceptT ε (StateM σ) β} {s u : σ} {b : β} :
    runFrom (if c then throw e >>= f else m) s = (.ok b, u) ↔ ¬ c ∧ runFrom m s = (.ok b, u) := by
  split_ifs with h
  · rw [runFrom_bind, runFrom_throw]
    simp [h]
  · simp [h]

/-- The value of a computation without a state, or its failure. -/
def liftExcept (x : Except ε α) : ExceptT ε (StateM σ) α := ExceptT.mk (pure x)

@[simp] lemma runFrom_liftExcept (x : Except ε α) (s : σ) :
    runFrom (liftExcept x : ExceptT ε (StateM σ) α) s = (x, s) := rfl

namespace Ensures

/-! ## Rules -/

lemma pure {a : α} (h : ∀ s, P s → Q a s) :
    Ensures P (pure a : ExceptT ε (StateM σ) α) Q E := by
  intro s hs
  refine ⟨fun a' t hrun => ?_, fun e t hrun => ?_⟩
  · rw [runFrom_pure] at hrun
    obtain ⟨ha, rfl⟩ := Prod.mk.inj hrun
    obtain rfl := Except.ok.inj ha
    exact h s hs
  · rw [runFrom_pure] at hrun
    exact absurd (congrArg Prod.fst hrun) (by simp)

lemma throw {e : ε} (h : ∀ s, P s → E s) :
    Ensures P (throw e : ExceptT ε (StateM σ) α) Q E := by
  intro s hs
  refine ⟨fun a t hrun => ?_, fun e t hrun => ?_⟩
  · rw [runFrom_throw] at hrun
    exact absurd (congrArg Prod.fst hrun) (by simp)
  · rw [runFrom_throw] at hrun
    rw [← (Prod.mk.inj hrun).2]
    exact h s hs

/-- A program after another: what the first returns is where the second starts. -/
lemma bind {m : ExceptT ε (StateM σ) α} {f : α → ExceptT ε (StateM σ) β} {R : β → σ → Prop}
    (hm : Ensures P m Q E) (hf : ∀ a, Ensures (Q a) (f a) R E) : Ensures P (m >>= f) R E := by
  intro s hs
  rw [runFrom_bind]
  rcases hrun : runFrom m s with ⟨e | a, t⟩
  · refine ⟨fun b u h => absurd (congrArg Prod.fst h) (by simp), fun e' u h => ?_⟩
    rw [← (Prod.mk.inj h).2]
    exact (hm s hs).2 e t hrun
  · exact hf a t ((hm s hs).1 a t hrun)

lemma modify {f : σ → σ} {R : PUnit → σ → Prop} (h : ∀ s, P s → R ⟨⟩ (f s)) :
    Ensures P (modify f : ExceptT ε (StateM σ) PUnit) R E := by
  intro s hs
  refine ⟨fun a t hrun => ?_, fun e t hrun => ?_⟩
  · rw [runFrom_modify] at hrun
    rw [← (Prod.mk.inj hrun).2]
    exact h s hs
  · rw [runFrom_modify] at hrun
    exact absurd (congrArg Prod.fst hrun) (by simp)

lemma lift {x : Except ε α} (hok : ∀ s, P s → ∀ a, x = .ok a → Q a s) (herror : ∀ s, P s → E s) :
    Ensures P (liftExcept x : ExceptT ε (StateM σ) α) Q E := by
  intro s hs
  rw [runFrom_liftExcept]
  refine ⟨fun a t hrun => ?_, fun e t hrun => ?_⟩
  · obtain ⟨ha, rfl⟩ := Prod.mk.inj hrun
    exact hok s hs a ha
  · rw [← (Prod.mk.inj hrun).2]
    exact herror s hs

lemma conseq {m : ExceptT ε (StateM σ) α} (h : Ensures P m Q E) (hpre : ∀ s, P' s → P s)
    (hpost : ∀ a s, Q a s → Q' a s) (hfail : ∀ s, E s → E' s) : Ensures P' m Q' E' :=
  fun s hs => ⟨fun a t hrun => hpost a t ((h s (hpre s hs)).1 a t hrun),
    fun e t hrun => hfail t ((h s (hpre s hs)).2 e t hrun)⟩

lemma weaken {m : ExceptT ε (StateM σ) α} (h : Ensures P m Q E) (hpost : ∀ a s, Q a s → Q' a s) :
    Ensures P m Q' E := h.conseq (fun _ hs => hs) hpost fun _ hs => hs

lemma ite {c : Prop} [Decidable c] {m n : ExceptT ε (StateM σ) α}
    (ht : c → Ensures P m Q E) (hf : ¬ c → Ensures P n Q E) :
    Ensures P (if c then m else n) Q E := by
  by_cases h : c
  · rw [if_pos h]
    exact ht h
  · rw [if_neg h]
    exact hf h

end Ensures

end JaDesktop
