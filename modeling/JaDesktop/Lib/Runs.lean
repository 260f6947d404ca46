import Mathlib.Data.List.Basic
import Mathlib.Data.List.Induction

/-!
# Labelled transition systems and their runs

A system is a step relation `step : σ → α → σ → Prop` on states `σ`, labelled with the
actions `α` that an observer sees.  A run is recorded by its trace, the list of its actions
from the oldest to the newest.  Keeping the trace beside the state is what lets a safety
property speak about the order of past actions without history variables in the model.
-/

namespace JaDesktop

variable {σ α : Type*} {step : σ → α → σ → Prop} {s₀ s : σ} {as : List α}

/-- `Run step s₀ as s` holds when the actions `as`, oldest first, lead from `s₀` to `s`. -/
inductive Run (step : σ → α → σ → Prop) (s₀ : σ) : List α → σ → Prop
  | nil : Run step s₀ [] s₀
  | snoc {as : List α} {s : σ} {a : α} {s' : σ} :
      Run step s₀ as s → step s a s' → Run step s₀ (as ++ [a]) s'

/-- Where an element of `as ++ [b]` stands. -/
lemma concat_eq_append_cons {pre post : List α} {a b : α} (h : as ++ [b] = pre ++ a :: post) :
    (as = pre ∧ b = a ∧ post = []) ∨ ∃ post', post = post' ++ [b] ∧ as = pre ++ a :: post' := by
  rcases List.eq_nil_or_concat post with rfl | ⟨post', c, rfl⟩
  · obtain ⟨hpre, hba⟩ := List.append_inj' h rfl
    exact Or.inl ⟨hpre, List.singleton_inj.mp hba, rfl⟩
  · have h' : as ++ [b] = (pre ++ a :: post') ++ [c] := by simpa using h
    obtain ⟨hpre, hbc⟩ := List.append_inj' h' rfl
    obtain rfl := List.singleton_inj.mp hbc
    exact Or.inr ⟨post', by simp, hpre⟩

namespace Run

/-- The invariant rule: a relation between trace and state that holds at the start and is
preserved by every step holds after every run. -/
theorem invariant {I : List α → σ → Prop} (h₀ : I [] s₀)
    (hstep : ∀ {as s a s'}, I as s → step s a s' → I (as ++ [a]) s')
    (h : Run step s₀ as s) : I as s := by
  induction h with
  | nil => exact h₀
  | snoc _ hs ih => exact hstep ih hs

/-- The invariant rule for a property of states alone. -/
theorem stateInvariant {I : σ → Prop} (h₀ : I s₀)
    (hstep : ∀ {s a s'}, I s → step s a s' → I s') (h : Run step s₀ as s) : I s :=
  h.invariant (I := fun _ s => I s) h₀ hstep

/-- A run of a system is a run of every system that allows more. -/
theorem mono {step' : σ → α → σ → Prop} (hstep : ∀ {s a s'}, step s a s' → step' s a s')
    (h : Run step s₀ as s) : Run step' s₀ as s := by
  induction h with
  | nil => exact .nil
  | snoc _ hs ih => exact ih.snoc (hstep hs)

/-- Runs compose. -/
theorem append {bs : List α} {t : σ} (h : Run step s₀ as s) (h' : Run step s bs t) :
    Run step s₀ (as ++ bs) t := by
  induction h' with
  | nil => simpa using h
  | snoc _ hs ih =>
    rw [← List.append_assoc]
    exact ih.snoc hs

/-- Executing the actions one after the other is a run. -/
theorem of_foldlM {after : σ → α → Option σ} (h : as.foldlM after s₀ = some s)
    (hstep : ∀ a ∈ as, ∀ {t t'}, after t a = some t' → step t a t') : Run step s₀ as s := by
  induction as generalizing s₀ with
  | nil =>
    cases h
    exact .nil
  | cons a as ih =>
    rw [List.foldlM_cons] at h
    obtain ⟨t, ht, hrest⟩ := Option.bind_eq_some_iff.mp h
    have hfirst : Run step s₀ ([] ++ [a]) t := .snoc .nil (hstep a (by simp) ht)
    exact hfirst.append (ih hrest fun b hb => hstep b (by simp [hb]))

/-- A property holds all along the runs below a trace exactly when all their steps are of a kind:
steps of the kind keep an invariant that has the property, and any other step loses the property. -/
theorem property_iff {I P : List α → σ → Prop} {ok : σ → α → Prop} (h₀ : I [] s₀)
    (hkeeps : ∀ {as s a s'}, I as s → step s a s' → ok s a → I (as ++ [a]) s')
    (hholds : ∀ {as s}, I as s → P as s)
    (hloses : ∀ {as s a s'}, I as s → step s a s' → P (as ++ [a]) s' → ok s a) (as : List α) :
    (∀ pre s, pre <+: as → Run step s₀ pre s → P pre s) ↔
      ∀ pre s a s', pre ++ [a] <+: as → Run step s₀ pre s → step s a s' → ok s a := by
  constructor
  · intro hP
    have hI : ∀ {pre s}, Run step s₀ pre s → pre <+: as → I pre s := by
      intro pre s hrun
      induction hrun with
      | nil => exact fun _ => h₀
      | snoc hrun hs ih =>
        intro hpre
        have hbefore := ih ((List.prefix_append _ _).trans hpre)
        exact hkeeps hbefore hs (hloses hbefore hs (hP _ _ hpre (hrun.snoc hs)))
    intro pre s a s' hpre hrun hs
    exact hloses (hI hrun ((List.prefix_append _ _).trans hpre)) hs (hP _ _ hpre (hrun.snoc hs))
  · intro hok pre s hpre hrun
    refine hholds (?_ : I pre s)
    induction hrun with
    | nil => exact h₀
    | snoc hrun hs ih =>
      exact hkeeps (ih ((List.prefix_append _ _).trans hpre)) hs (hok _ _ _ _ hpre hrun hs)

/-- A trace leads a deterministic system to one state. -/
theorem unique (hdet : ∀ s a t t', step s a t → step s a t' → t = t') {s' : σ}
    (h : Run step s₀ as s) (h' : Run step s₀ as s') : s = s' := by
  induction h generalizing s' with
  | nil =>
    generalize htrace : ([] : List α) = trace at h'
    cases h' with
    | nil => rfl
    | snoc => exact absurd htrace.symm (List.append_ne_nil_of_right_ne_nil _ (List.cons_ne_nil _ _))
  | @snoc bs t a u hrun hstep ih =>
    generalize htrace : bs ++ [a] = trace at h'
    cases h' with
    | nil => exact absurd htrace (List.append_ne_nil_of_right_ne_nil _ (List.cons_ne_nil _ _))
    | snoc hrun' hstep' =>
      obtain ⟨rfl, hlast⟩ := List.append_inj' htrace rfl
      obtain rfl := List.singleton_inj.mp hlast
      obtain rfl := ih hrun'
      exact hdet _ _ _ _ hstep hstep'

/-- Where an invariant survives exactly the steps of a kind, a run of a deterministic system keeps
it throughout exactly when all its steps are of this kind. -/
theorem foldl_invariant_iff {after : σ → α → σ} {I : σ → Prop} {ok : σ → α → Prop} (h₀ : I s₀)
    (hstep : ∀ s a, I s → (I (after s a) ↔ ok s a)) :
    (∀ pre, pre <+: as → I (pre.foldl after s₀)) ↔
      ∀ pre a, pre ++ [a] <+: as → ok (pre.foldl after s₀) a := by
  constructor
  · intro h pre a hprefix
    have hpre : I (pre.foldl after s₀) := h pre ((List.prefix_append pre [a]).trans hprefix)
    have hnext : I ((pre ++ [a]).foldl after s₀) := h _ hprefix
    rw [List.foldl_append] at hnext
    exact (hstep _ a hpre).mp hnext
  · intro h pre hprefix
    induction pre using List.reverseRecOn with
    | nil => exact h₀
    | append_singleton pre a ih =>
      rw [List.foldl_append]
      exact (hstep _ a (ih ((List.prefix_append pre [a]).trans hprefix))).mpr (h pre a hprefix)

end Run

/-- All steps of the runs below a trace are of a kind. -/
def AllSteps (step : σ → α → σ → Prop) (ok : σ → α → Prop) (s₀ : σ) (as : List α) : Prop :=
  ∀ pre s a s', pre ++ [a] <+: as → Run step s₀ pre s → step s a s' → ok s a

variable {ok : σ → α → Prop}

lemma allSteps_nil : AllSteps step ok s₀ [] := by
  intro pre s a s' hpre
  exact absurd (List.prefix_nil.mp hpre)
    (List.append_ne_nil_of_right_ne_nil _ (List.cons_ne_nil _ _))

/-- The steps of a longer run of a deterministic system. -/
theorem allSteps_snoc_iff {a : α} {s' : σ} (hdet : ∀ s a t t', step s a t → step s a t' → t = t')
    (h : Run step s₀ as s) (hstep : step s a s') :
    AllSteps step ok s₀ (as ++ [a]) ↔ AllSteps step ok s₀ as ∧ ok s a := by
  constructor
  · intro hall
    exact ⟨fun pre t b t' hpre => hall pre t b t' (hpre.trans (List.prefix_append _ _)),
      hall as s a s' (List.prefix_refl _) h hstep⟩
  · rintro ⟨hall, hok⟩ pre t b t' hpre hrun hb
    rcases List.prefix_concat_iff.mp hpre with heq | hpre
    · obtain ⟨rfl, hlast⟩ := List.append_inj' heq rfl
      obtain rfl := List.singleton_inj.mp hlast
      obtain rfl := h.unique hdet hrun
      exact hok
    · exact hall pre t b t' hpre hrun hb

/-- Every step of a run of a deterministic system is of a kind. -/
def EachStep (after : σ → α → σ) (ok : σ → α → Prop) : σ → List α → Prop
  | _, [] => True
  | s, a :: as => ok s a ∧ EachStep after ok (after s a) as

lemma EachStep.mono {after : σ → α → σ} {ok' : σ → α → Prop} (h : EachStep after ok s as)
    (hok : ∀ s a, ok s a → ok' s a) : EachStep after ok' s as := by
  induction as generalizing s with
  | nil => trivial
  | cons a as ih => exact ⟨hok s a h.1, ih h.2⟩

/-- An invariant that every step of a kind preserves holds after a run of such steps. -/
theorem EachStep.invariant {after : σ → α → σ} {I : σ → Prop} (h : EachStep after ok s as)
    (h₀ : I s) (hstep : ∀ s a, I s → ok s a → I (after s a)) :
    I (as.foldl after s) := by
  induction as generalizing s with
  | nil => exact h₀
  | cons a as ih => exact ih h.2 (hstep s a h₀ h.1)

/-! ## Histories -/

/-- Every entry of a history is allowed by the entries before it. -/
def Justified (allowed : List α → α → Prop) (history : List α) : Prop :=
  ∀ past entry rest, history = past ++ entry :: rest → allowed past entry

namespace Justified

variable {allowed : List α → α → Prop} {history : List α}

lemma nil : Justified allowed [] := by
  intro past entry rest h
  simp at h

variable {entry : α}

/-- An entry that the history allows may be added to it. -/
theorem snoc (h : Justified allowed history) (hentry : allowed history entry) :
    Justified allowed (history ++ [entry]) := by
  intro past e rest heq
  rcases List.eq_nil_or_concat rest with rfl | ⟨rest', last, rfl⟩
  · obtain ⟨rfl, hlast⟩ := List.append_inj' heq rfl
    obtain rfl : entry = e := by simpa using hlast
    exact hentry
  · have heq' : history ++ [entry] = (past ++ e :: rest') ++ [last] := by simpa using heq
    exact h past e rest' (List.append_inj' heq' rfl).1

lemma of_snoc (h : Justified allowed (history ++ [entry])) :
    Justified allowed history ∧ allowed history entry :=
  ⟨fun past e rest heq => h past e (rest ++ [entry]) (by simp [heq]), h history entry [] rfl⟩

lemma snoc_iff :
    Justified allowed (history ++ [entry]) ↔ Justified allowed history ∧ allowed history entry :=
  ⟨of_snoc, fun h => h.1.snoc h.2⟩

lemma append_iff {more : List α} (hmore : ∀ entry ∈ more, ∀ past, allowed past entry) :
    Justified allowed (history ++ more) ↔ Justified allowed history := by
  induction more generalizing history with
  | nil => rw [List.append_nil]
  | cons entry more ih =>
    rw [List.append_cons, ih fun e he => hmore e (List.mem_cons_of_mem _ he), snoc_iff]
    exact and_iff_left (hmore entry List.mem_cons_self history)

/-- Entries of a kind that is only allowed in its own absence occur at most once. -/
theorem length_filter_le_one {kind : α → Bool} (h : Justified allowed history)
    (hkind : ∀ past entry, allowed past entry → kind entry = true → ∀ e ∈ past, kind e = false) :
    (history.filter kind).length ≤ 1 := by
  induction history using List.reverseRecOn with
  | nil => exact Nat.zero_le 1
  | append_singleton history entry ih =>
    obtain ⟨hhistory, hentry⟩ := h.of_snoc
    rw [List.filter_append, List.length_append]
    cases hk : kind entry with
    | false => simpa [hk] using ih hhistory
    | true =>
      have hnone : history.filter kind = [] := by
        rw [List.filter_eq_nil_iff]
        intro e he
        simp [hkind history entry hentry hk e he]
      simp [hnone, hk]

/-- Two entries of such a kind are the same. -/
theorem eq_of_mem {kind : α → Bool} (h : Justified allowed history)
    (hkind : ∀ past entry, allowed past entry → kind entry = true → ∀ e ∈ past, kind e = false)
    {x y : α} (hx : x ∈ history) (hy : y ∈ history) (hkx : kind x = true) (hky : kind y = true) :
    x = y := by
  have hlength := h.length_filter_le_one hkind
  have hx' : x ∈ history.filter kind := List.mem_filter.mpr ⟨hx, hkx⟩
  have hy' : y ∈ history.filter kind := List.mem_filter.mpr ⟨hy, hky⟩
  rcases hfilter : history.filter kind with - | ⟨a, - | ⟨b, rest⟩⟩
  · simp [hfilter] at hx'
  · rw [hfilter, List.mem_singleton] at hx' hy'
    rw [hx', hy']
  · simp [hfilter] at hlength

end Justified

end JaDesktop
