import JaDesktop.Lib.Runs

/-!
# The mark of a detached worker

`EventDrain::finish` waits for the worker of a generation until a deadline.  When the deadline
passes it writes the generation into `detached_event_generation` and lets the worker go; a mark
there blocks later starts and the confirmation of the exit.  The worker withdraws the mark when it
ends: it exchanges its own generation for zero, and only then publishes that it is done.

The two threads take the steps below in any order; `finish` may be called again after it returned.
-/

namespace JaDesktop.Bridge

/-- Where the worker stands at its end. -/
inductive WorkerEnd
  | running
  | withdrawn
  | ended
deriving DecidableEq

/-- Where `finish` stands. -/
inductive FinishCall
  | called
  | waiting
  | timedOut
  | marked
  | joining
  | returned (ok : Bool)
deriving DecidableEq

/-- The shared fields, and where the threads stand. -/
structure DetachState where
  generation : ℕ
  detachedEventGeneration : ℕ
  /-- `completion.done`. -/
  done : Bool
  /-- `join` is still there. -/
  join : Bool
  worker : WorkerEnd
  finish : FinishCall
deriving DecidableEq

/-- The atomic steps of the two threads. -/
inductive DetachAction
  | test
  | poll (expired : Bool)
  | store
  | detach
  | join
  | again
  | withdraw
  | markDone
deriving DecidableEq

namespace DetachState

/-- `finish` is called for a worker that has not ended. -/
def initial (generation detached : ℕ) : DetachState :=
  ⟨generation, detached, false, true, .running, .called⟩

/-- One step, where it can be taken. -/
def after (s : DetachState) : DetachAction → Option DetachState
  -- `!self.completion.done.load(..)`
  | .test =>
    if s.finish = .called then
      some { s with finish := if s.done then .joining else .waiting }
    else none
  -- A round of `wait_until`: it returns when the worker is done or the deadline has passed.
  | .poll expired =>
    if s.finish = .waiting then
      some { s with finish :=
        if s.done then .joining else if expired then .timedOut else .waiting }
    else none
  | .store =>
    if s.finish = .timedOut then
      some { s with detachedEventGeneration := s.generation, finish := .marked }
    else none
  -- `self.join.take()`
  | .detach =>
    if s.finish = .marked then some { s with join := false, finish := .returned false } else none
  -- `join.join()` returns when the thread has ended.
  | .join =>
    if s.finish = .joining ∧ (s.join = false ∨ s.worker = .ended) then
      some { s with join := false, finish := .returned true }
    else none
  | .again =>
    match s.finish with
    | .returned _ => some { s with finish := .called }
    | _ => none
  -- `compare_exchange(generation, 0, ..)`
  | .withdraw =>
    if s.worker = .running then
      some { s with
        worker := .withdrawn
        detachedEventGeneration :=
          if s.detachedEventGeneration = s.generation then 0 else s.detachedEventGeneration }
    else none
  | .markDone =>
    if s.worker = .withdrawn then some { s with worker := .ended, done := true } else none

/-- The step relation. -/
def Step (s : DetachState) (action : DetachAction) (s' : DetachState) : Prop :=
  s.after action = some s'

variable {s s' : DetachState} {actions : List DetachAction} {generation detached : ℕ}

/-! ## What a step does -/

/-- A mark was stored after the worker had withdrawn it. -/
def MarkedLate (actions : List DetachAction) : Prop :=
  ∃ pre post, actions = pre ++ .store :: post ∧ .withdraw ∈ pre

lemma markedLate_snoc {action : DetachAction} : MarkedLate (actions ++ [action]) ↔
    MarkedLate actions ∨ (action = .store ∧ .withdraw ∈ actions) := by
  constructor
  · rintro ⟨pre, post, h, hmem⟩
    rcases concat_eq_append_cons h with ⟨rfl, rfl, rfl⟩ | ⟨post', rfl, rfl⟩
    · exact Or.inr ⟨rfl, hmem⟩
    · exact Or.inl ⟨pre, post', rfl, hmem⟩
  · rintro (⟨pre, post, rfl, hmem⟩ | ⟨rfl, hmem⟩)
    · exact ⟨pre, post ++ [action], by simp, hmem⟩
    · exact ⟨actions, [], rfl, hmem⟩

/-- A step of `finish` leaves the worker alone, and only the store writes the mark; the worker
withdraws the mark once. -/
lemma step_cases {action : DetachAction} (h : Step s action s') : s'.generation = s.generation ∧
    ((action = .store ∧ s'.detachedEventGeneration = s.generation ∧ s'.worker = s.worker) ∨
      (action = .withdraw ∧ s.worker = .running ∧ s'.worker ≠ .running ∧
        s'.detachedEventGeneration =
          if s.detachedEventGeneration = s.generation then 0 else s.detachedEventGeneration) ∨
      (action ≠ .store ∧ action ≠ .withdraw ∧
        s'.detachedEventGeneration = s.detachedEventGeneration ∧
        (s'.worker = .running ↔ s.worker = .running))) := by
  unfold Step after at h
  cases action with
  | again =>
    simp only at h
    split at h
    · cases h
      exact ⟨rfl, Or.inr (Or.inr ⟨by simp, by simp, rfl, Iff.rfl⟩)⟩
    · cases h
  | withdraw =>
    obtain ⟨hrunning, heq⟩ := Option.ite_none_right_eq_some.mp h
    obtain rfl := Option.some.inj heq
    exact ⟨rfl, Or.inr (Or.inl ⟨rfl, hrunning, by simp, rfl⟩)⟩
  | markDone =>
    obtain ⟨hwithdrawn, heq⟩ := Option.ite_none_right_eq_some.mp h
    obtain rfl := Option.some.inj heq
    exact ⟨rfl, Or.inr (Or.inr ⟨by simp, by simp, rfl, by simp [hwithdrawn]⟩)⟩
  | store =>
    obtain ⟨-, heq⟩ := Option.ite_none_right_eq_some.mp h
    obtain rfl := Option.some.inj heq
    exact ⟨rfl, Or.inl ⟨rfl, rfl, rfl⟩⟩
  | test | poll | detach | join =>
    obtain ⟨-, heq⟩ := Option.ite_none_right_eq_some.mp h
    obtain rfl := Option.some.inj heq
    exact ⟨rfl, Or.inr (Or.inr ⟨by simp, by simp, rfl, Iff.rfl⟩)⟩

/-- The mark of a worker that is past its withdrawal was stored late. -/
structure Traced (generation : ℕ) (actions : List DetachAction) (s : DetachState) : Prop where
  generation_eq : s.generation = generation
  running_iff : s.worker = .running ↔ .withdraw ∉ actions
  mark_iff : .withdraw ∈ actions → (s.detachedEventGeneration = generation ↔ MarkedLate actions)
  early : .withdraw ∉ actions → ¬ MarkedLate actions

lemma Traced.step {action : DetachAction} (hgeneration : generation ≠ 0)
    (h : Traced generation actions s) (hstep : Step s action s') :
    Traced generation (actions ++ [action]) s' := by
  obtain ⟨hsame, hcases⟩ := step_cases hstep
  have hgen : s'.generation = generation := hsame.trans h.generation_eq
  rcases hcases with ⟨rfl, hmark, hworker⟩ | ⟨rfl, hrunning, hworker, hmark⟩ |
    ⟨hstore, hwithdraw, hmark, hworker⟩
  · refine ⟨hgen, ?_, ?_, ?_⟩
    · simp [hworker, h.running_iff]
    · intro hmem
      have hold : .withdraw ∈ actions := by simpa using hmem
      exact iff_of_true (hmark.trans h.generation_eq) (markedLate_snoc.mpr (Or.inr ⟨rfl, hold⟩))
    · intro hmem
      have hnone : .withdraw ∉ actions := by simpa using hmem
      rw [markedLate_snoc]
      rintro (hlate | ⟨-, hold⟩)
      · exact h.early hnone hlate
      · exact hnone hold
  · -- The worker was running, so nothing was stored late, and the exchange leaves no mark.
    have hnone := h.running_iff.mp hrunning
    refine ⟨hgen, by simp [hworker], ?_, by simp⟩
    intro _
    rw [markedLate_snoc, hmark, h.generation_eq]
    refine iff_of_false ?_ ?_
    · split
      · exact fun hzero => hgeneration hzero.symm
      · next hne => exact hne
    · rintro (hlate | ⟨heq, -⟩)
      · exact h.early hnone hlate
      · cases heq
  · have hmem : .withdraw ∈ actions ++ [action] ↔ .withdraw ∈ actions := by
      simp [Ne.symm hwithdraw]
    have hlate : MarkedLate (actions ++ [action]) ↔ MarkedLate actions := by
      simp [markedLate_snoc, hstore]
    refine ⟨hgen, ?_, ?_, ?_⟩
    · rw [hworker, h.running_iff, hmem]
    · rw [hmem, hmark, hlate]
      exact h.mark_iff
    · rw [hmem, hlate]
      exact h.early

lemma traced_of_run (hgeneration : generation ≠ 0)
    (h : Run Step (initial generation detached) actions s) : Traced generation actions s := by
  refine h.invariant ?_ fun htraced hstep => htraced.step hgeneration hstep
  refine ⟨rfl, by simp [initial], by simp, ?_⟩
  rintro - ⟨pre, post, heq, -⟩
  simp at heq

/-- **When the mark is withdrawn**: once the worker has ended, at any time, exactly when no store
came after the exchange of the worker. -/
theorem mark_withdrawn_iff (hgeneration : generation ≠ 0)
    (h : Run Step (initial generation detached) actions s) (hended : s.worker = .ended) :
    s.detachedEventGeneration ≠ generation ↔
      ∀ pre post, actions = pre ++ .store :: post → .withdraw ∉ pre := by
  have htraced := traced_of_run hgeneration h
  have hwithdrawn : .withdraw ∈ actions := by
    by_contra hnone
    rw [htraced.running_iff.mpr hnone] at hended
    cases hended
  rw [Ne, htraced.mark_iff hwithdrawn, MarkedLate]
  constructor
  · intro hnot pre post heq hmem
    exact hnot ⟨pre, post, heq, hmem⟩
  · rintro h ⟨pre, post, heq, hmem⟩
    exact h pre post heq hmem

/-- The worker ends after the wait has timed out and before the mark is stored. -/
def lateActions : List DetachAction :=
  [.test, .poll true, .withdraw, .markDone, .store, .detach]

def lateState : DetachState := ⟨7, 7, true, false, .ended, .returned false⟩

lemma run_lateActions : Run Step (initial 7 0) lateActions lateState := by
  have hrun : lateActions.foldlM after (initial 7 0) = some lateState := by decide
  exact Run.of_foldlM hrun fun _ _ _ _ h => h

theorem mark_withdrawn_iff_late :
    lateState.detachedEventGeneration ≠ 7 ↔
      ∀ pre post, lateActions = pre ++ .store :: post → .withdraw ∉ pre :=
  mark_withdrawn_iff (by decide) run_lateActions rfl

/-- Then the worker has ended, `finish` has returned, and the mark stays. -/
theorem mark_stays : ¬ ∀ actions s, Run Step (initial 7 0) actions s → s.worker = .ended →
    (∃ ok, s.finish = .returned ok) → s.detachedEventGeneration ≠ 7 := by
  intro h
  exact h lateActions lateState run_lateActions rfl ⟨false, rfl⟩ rfl

end DetachState

end JaDesktop.Bridge
