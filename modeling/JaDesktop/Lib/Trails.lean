import JaDesktop.Lib.Runs
import JaDesktop.Lib.Triples

/-!
# Programs that leave a trail

A program writes its state in small updates, and each update makes some changes that are worth
remembering.  `Trail` lists the changes of a sequence of updates; `Trails` says what a program returns
together with the trail that it has left.  A program that fails has left its trail too.
-/

namespace JaDesktop

variable {ε σ γ α β : Type} {step step' : σ → List γ → σ → Prop} {s t u : σ} {cs cs' : List γ}

/-- Updates that lead from one state to another, with their changes in order. -/
def Trail (step : σ → List γ → σ → Prop) (s : σ) (cs : List γ) (t : σ) : Prop :=
  ∃ updates, Run step s updates t ∧ updates.flatten = cs

namespace Trail

lemma nil : Trail step s [] s := ⟨[], .nil, rfl⟩

lemma single (h : step s cs t) : Trail step s cs t :=
  ⟨[cs], Run.nil.snoc h, by simp⟩

lemma append (h : Trail step s cs t) (h' : Trail step t cs' u) : Trail step s (cs ++ cs') u := by
  obtain ⟨as, hrun, rfl⟩ := h
  obtain ⟨as', hrun', rfl⟩ := h'
  exact ⟨as ++ as', hrun.append hrun', List.flatten_append⟩

lemma mono (hstep : ∀ {s cs t}, step s cs t → step' s cs t) (h : Trail step s cs t) :
    Trail step' s cs t := by
  obtain ⟨as, hrun, hcs⟩ := h
  exact ⟨as, hrun.mono hstep, hcs⟩

/-- The invariant rule for a relation between the changes so far and the state. -/
theorem invariant {I : List γ → σ → Prop} (h₀ : I [] s)
    (hstep : ∀ {cs s cs' t}, I cs s → step s cs' t → I (cs ++ cs') t) (h : Trail step s cs t) :
    I cs t := by
  obtain ⟨as, hrun, rfl⟩ := h
  refine hrun.invariant (I := fun as t => I as.flatten t) h₀ fun {as s a t} hs ha => ?_
  rw [List.flatten_append, List.flatten_singleton]
  exact hstep hs ha

theorem stateInvariant {I : σ → Prop} (h₀ : I s) (hstep : ∀ {s cs t}, I s → step s cs t → I t)
    (h : Trail step s cs t) : I t :=
  h.invariant (I := fun _ t => I t) h₀ hstep

end Trail

/-- **A program with its trail**: from the state `s` it leaves a trail, and when it returns its
value, the trail and the last state have `Q`. -/
def Trails (step : σ → List γ → σ → Prop) (s : σ) (m : ExceptT ε (StateM σ) α)
    (Q : α → List γ → σ → Prop) : Prop :=
  ∃ cs, Trail step s cs (runFrom m s).2 ∧ ∀ a, (runFrom m s).1 = .ok a → Q a cs (runFrom m s).2

namespace Trails

variable {m : ExceptT ε (StateM σ) α} {f : α → ExceptT ε (StateM σ) β}
  {Q Q' : α → List γ → σ → Prop} {R : β → List γ → σ → Prop}

lemma pure {a : α} (h : Q a [] s) : Trails step s (pure a : ExceptT ε (StateM σ) α) Q := by
  refine ⟨[], .nil, fun a' ha => ?_⟩
  rw [runFrom_pure] at ha ⊢
  obtain rfl := Except.ok.inj ha
  exact h

lemma throw {e : ε} : Trails step s (throw e : ExceptT ε (StateM σ) α) Q := by
  refine ⟨[], .nil, fun a ha => ?_⟩
  rw [runFrom_throw] at ha
  cases ha

lemma weaken (hm : Trails step s m Q) (h : ∀ a cs t, Q a cs t → Q' a cs t) :
    Trails step s m Q' := by
  obtain ⟨cs, htrail, hQ⟩ := hm
  exact ⟨cs, htrail, fun a ha => h a cs _ (hQ a ha)⟩

lemma mono (hstep : ∀ {s cs t}, step s cs t → step' s cs t) (hm : Trails step s m Q) :
    Trails step' s m Q := by
  obtain ⟨cs, htrail, hQ⟩ := hm
  exact ⟨cs, htrail.mono hstep, hQ⟩

/-- The trail of two programs is the one of the first with the one of the second behind it. -/
lemma bind (hm : Trails step s m Q)
    (hf : ∀ a cs t, Trail step s cs t → Q a cs t →
      Trails step t (f a) fun b cs' u => R b (cs ++ cs') u) :
    Trails step s (m >>= f) R := by
  obtain ⟨cs, htrail, hQ⟩ := hm
  rw [Trails, runFrom_bind]
  rcases hrun : runFrom m s with ⟨e | a, t⟩
  · rw [hrun] at htrail
    exact ⟨cs, htrail, fun b hb => by cases hb⟩
  · rw [hrun] at htrail hQ
    obtain ⟨cs', htrail', hR⟩ := hf a cs t htrail (hQ a rfl)
    exact ⟨cs ++ cs', htrail.append htrail', hR⟩

lemma get_bind {f : σ → ExceptT ε (StateM σ) β} (h : Trails step s (f s) R) :
    Trails step s ((get : ExceptT ε (StateM σ) σ) >>= f) R := by
  rw [Trails, runFrom_bind, runFrom_get]
  exact h

lemma lift_bind {x : Except ε α} (h : ∀ a, x = .ok a → Trails step s (f a) R) :
    Trails step s (liftExcept x >>= f) R := by
  rw [Trails, runFrom_bind, runFrom_liftExcept]
  cases hx : x with
  | error e => exact ⟨[], .nil, fun b hb => by cases hb⟩
  | ok a => exact h a hx

lemma lift {x : Except ε α} (h : ∀ a, x = .ok a → Q a [] s) :
    Trails step s (liftExcept x : ExceptT ε (StateM σ) α) Q := by
  refine ⟨[], .nil, fun a ha => ?_⟩
  rw [runFrom_liftExcept] at ha ⊢
  exact h a ha

lemma modify_bind {g : σ → σ} {f : PUnit → ExceptT ε (StateM σ) β} (hg : Trail step s cs (g s))
    (h : Trails step (g s) (f ⟨⟩) fun b cs' u => R b (cs ++ cs') u) :
    Trails step s (modify g >>= f) R := by
  obtain ⟨cs', htrail, hR⟩ := h
  rw [Trails, runFrom_bind, runFrom_modify]
  exact ⟨cs ++ cs', hg.append htrail, hR⟩

lemma modify {g : σ → σ} {Q : PUnit → List γ → σ → Prop} (hg : Trail step s cs (g s))
    (h : Q ⟨⟩ cs (g s)) : Trails step s (modify g : ExceptT ε (StateM σ) PUnit) Q := by
  refine ⟨cs, hg, fun a _ => ?_⟩
  rw [runFrom_modify]
  exact h

lemma ite {c : Prop} [Decidable c] {n : ExceptT ε (StateM σ) α} (ht : c → Trails step s m Q)
    (hf : ¬ c → Trails step s n Q) : Trails step s (if c then m else n) Q := by
  split_ifs with h
  · exact ht h
  · exact hf h

end Trails

end JaDesktop
