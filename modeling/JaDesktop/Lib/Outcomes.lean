import Mathlib.Tactic.SplitIfs

/-!
# Computations that fail

How an `Except` computation in several stages succeeds.
-/

namespace JaDesktop

variable {ε α β : Type}

variable {x : Except ε α} {u : Unit}

lemma bind_eq_ok {f : α → Except ε β} {b : β} :
    (x >>= f) = .ok b ↔ ∃ a, x = .ok a ∧ f a = .ok b := by
  cases x <;> simp [bind, Except.bind]

lemma bind_ok_iff {a : α} {P : Prop} (hx : ∀ v, x = .ok v ↔ a = v ∧ P) {f : α → Except ε β} {b : β} :
    (x >>= f) = .ok b ↔ P ∧ f a = .ok b := by
  rw [bind_eq_ok]
  constructor
  · rintro ⟨v, hv, hf⟩
    obtain ⟨rfl, hP⟩ := (hx v).mp hv
    exact ⟨hP, hf⟩
  · rintro ⟨hP, hf⟩
    exact ⟨a, (hx a).mpr ⟨rfl, hP⟩, hf⟩

@[simp] lemma ok_bind (a : α) (f : α → Except ε β) : ((Except.ok a : Except ε α) >>= f) = f a := rfl

@[simp] lemma error_bind (e : ε) (f : α → Except ε β) :
    ((Except.error e : Except ε α) >>= f) = .error e := rfl

lemma map_eq_ok {f : α → β} {b : β} :
    x.map f = .ok b ↔ ∃ a, x = .ok a ∧ f a = b := by
  cases x <;> simp [Except.map]

lemma mapError_eq_ok {ε' : Type} {f : ε → ε'} {a : α} :
    x.mapError f = .ok a ↔ x = .ok a := by
  cases x <;> simp [Except.mapError]

@[simp] lemma toBool_map (x : Except ε α) (f : α → β) : (x.map f).toBool = x.toBool := by
  cases x <;> rfl

lemma exists_ok_of_toBool (h : x.toBool = true) : ∃ a, x = .ok a := by
  cases x with
  | error => cases h
  | ok a => exact ⟨a, rfl⟩

/-- A guard that ends the computation with an error when its condition holds. -/
def reject (condition : Bool) (error : ε) : Except ε Unit :=
  if condition then .error error else .ok ()

@[simp] lemma reject_false (error : ε) : reject false error = .ok () := rfl

@[simp] lemma reject_true (error : ε) : reject true error = .error error := rfl

@[simp] lemma reject_eq_ok {condition : Bool} {error : ε} :
    reject condition error = .ok u ↔ condition = false := by
  cases condition <;> simp [reject]

lemma mapM_congr {l : List α} {f g : α → Except ε β} (h : ∀ a ∈ l, f a = g a) :
    l.mapM f = l.mapM g := by
  induction l with
  | nil => rfl
  | cons a l ih =>
    rw [List.mapM_cons, List.mapM_cons, h a (by simp), ih fun b hb => h b (by simp [hb])]

lemma exists_unit {p : Unit → Prop} : (∃ u, p u) ↔ p () :=
  ⟨fun ⟨_, h⟩ => h, fun h => ⟨(), h⟩⟩

/-- A check of an optional value: nothing is asked of a missing one. -/
def checkSome (f : α → Except ε Unit) : Option α → Except ε Unit
  | some a => f a
  | none => .ok ()

lemma checkSome_eq_ok {f : α → Except ε Unit} {o : Option α} :
    checkSome f o = .ok u ↔ ∀ a, o = some a → f a = .ok () := by
  cases o <;> simp [checkSome]

lemma forM_eq_ok {l : List α} {f : α → Except ε Unit} :
    l.forM f = .ok u ↔ ∀ a ∈ l, f a = .ok () := by
  induction l with
  | nil => simp [pure, Except.pure]
  | cons a l ih =>
    have hcons : (a :: l).forM f = (f a >>= fun _ => l.forM f) := rfl
    rw [hcons]
    cases hfa : f a with
    | error e => simp [bind, Except.bind, hfa]
    | ok u => rw [ok_bind, ih, List.forall_mem_cons, hfa, eq_self_iff_true, true_and]

end JaDesktop
