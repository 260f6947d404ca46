import Mathlib.Algebra.Order.Ring.Int
import JaDesktop.Lib.Runs

/-!
# Exit attempts and the session they cancel

`ExitControl` holds the attempt to leave the application: its number, its deadline, a flag that
stops admission, and the hook that closes the session of the actor.  `trigger_until` and
`retry_until` set the attempt and the flag under one lock and then call the hook; `attach_session`
reads the flag, installs the hook, and calls it when the flag was set.

An instant is a natural number.  The budget of a call is what `shutdown_deadline` computes from the
clock; a hook is the session that it closes.
-/

namespace JaDesktop.Bridge

/-- `u64::MAX`. -/
def u64Max : ℕ := 2 ^ 64 - 1

structure ExitAttempt where
  id : ℕ
  deadline : ℕ
deriving DecidableEq

structure ExitControl where
  attempt : Option ExitAttempt
  cancelled : Bool
  cancellationHook : Option ℕ
deriving DecidableEq

/-- A call of `trigger_until` or `retry_until`. -/
structure ExitCall where
  retry : Bool
  callerDeadline : Option ℕ
  budget : ℕ
deriving DecidableEq

/-- A deadline, and no later than that of the caller. -/
def capped (deadline : ℕ) : Option ℕ → ℕ
  | none => deadline
  | some callerDeadline => min deadline callerDeadline

lemma capped_le (deadline : ℕ) (callerDeadline : Option ℕ) :
    capped deadline callerDeadline ≤ deadline := by
  cases callerDeadline with
  | none => exact Nat.le_refl _
  | some callerDeadline => exact Nat.min_le_left _ _

def boundedShutdownDeadline (budget : ℕ) (callerDeadline : Option ℕ) : ℕ :=
  capped budget callerDeadline

namespace ExitControl

/-- `ExitControl::new`. -/
def new : ExitControl := ⟨none, false, none⟩

variable (control : ExitControl)

/-- Under the lock of the attempt, with the deadline that the hook is then called with. -/
def begin (attempt : ExitAttempt) : ExitControl × Option ℕ :=
  ({ control with attempt := some attempt, cancelled := true }, some attempt.deadline)

/-- The locked part of `trigger_until`. -/
def triggerUntil (callerDeadline : Option ℕ) (budget : ℕ) : ExitControl × Option ℕ :=
  match control.attempt with
  | some current =>
    let bounded := capped current.deadline callerDeadline
    if bounded = current.deadline then ({ control with cancelled := true }, none)
    else control.begin ⟨current.id, bounded⟩
  | none => control.begin ⟨1, boundedShutdownDeadline budget callerDeadline⟩

/-- The locked part of `retry_until`. -/
def retryUntil (callerDeadline : Option ℕ) (budget : ℕ) : ExitControl × Option ℕ :=
  let id := match control.attempt with
    | none => 1
    | some current => min (current.id + 1) u64Max
  control.begin ⟨id, boundedShutdownDeadline budget callerDeadline⟩

/-- The locked part of a call. -/
def request (call : ExitCall) : ExitControl × Option ℕ :=
  if call.retry then control.retryUntil call.callerDeadline call.budget
  else control.triggerUntil call.callerDeadline call.budget

/-- After a sequence of calls. -/
def afterCalls (calls : List ExitCall) : ExitControl :=
  calls.foldl (fun control call => (control.request call).1) new

variable {control}

/-- A call sets the flag; it starts or shortens an attempt and then calls the hook, or it finds one
that is short enough. -/
lemma request_cases (control : ExitControl) (call : ExitCall) :
    (control.request call).1.cancelled = true ∧
      (control.request call).1.cancellationHook = control.cancellationHook ∧
      ((∃ attempt : ExitAttempt, (control.request call).1.attempt = some attempt ∧
          (control.request call).2 = some attempt.deadline) ∨
        ((control.request call).1.attempt = control.attempt ∧ control.attempt.isSome = true ∧
          (control.request call).2 = none)) := by
  unfold request
  split
  · exact ⟨rfl, rfl, Or.inl ⟨_, rfl, rfl⟩⟩
  · unfold triggerUntil
    cases hattempt : control.attempt with
    | none => exact ⟨rfl, rfl, Or.inl ⟨_, rfl, rfl⟩⟩
    | some current =>
      simp only
      split
      · exact ⟨rfl, rfl, Or.inr ⟨rfl, rfl, rfl⟩⟩
      · exact ⟨rfl, rfl, Or.inl ⟨_, rfl, rfl⟩⟩

end ExitControl

/-! ## A sequence of calls -/

namespace ExitControl

/-- From one moment to a later one: numbers do not decrease, the deadline of one number does not
increase, and the flag stays. -/
structure LeadsTo (early late : ExitControl) : Prop where
  attempt : ∀ attempt, early.attempt = some attempt → ∃ next, late.attempt = some next ∧
    attempt.id ≤ next.id ∧ (next.id = attempt.id → next.deadline ≤ attempt.deadline)
  cancelled : early.cancelled = true → late.cancelled = true

lemma LeadsTo.refl (control : ExitControl) : LeadsTo control control :=
  ⟨fun attempt h => ⟨attempt, h, Nat.le_refl _, fun _ => Nat.le_refl _⟩, id⟩

lemma LeadsTo.trans {a b c : ExitControl} (h : LeadsTo a b) (h' : LeadsTo b c) : LeadsTo a c where
  attempt first hfirst := by
    obtain ⟨second, hsecond, hid, hdeadline⟩ := h.attempt first hfirst
    obtain ⟨third, hthird, hid', hdeadline'⟩ := h'.attempt second hsecond
    refine ⟨third, hthird, Nat.le_trans hid hid', ?_⟩
    intro heq
    have hsame : second.id = first.id := by omega
    exact Nat.le_trans (hdeadline' (by omega)) (hdeadline hsame)
  cancelled hcancelled := h'.cancelled (h.cancelled hcancelled)

/-- Numbers are 64 bits wide. -/
def Numbered (control : ExitControl) : Prop :=
  ∀ attempt, control.attempt = some attempt → attempt.id ≤ u64Max

/-- A retry that has no number left and would give the last one a later deadline. -/
def Saturates (control : ExitControl) (call : ExitCall) : Prop :=
  call.retry = true ∧ ∃ attempt, control.attempt = some attempt ∧ attempt.id = u64Max ∧
    attempt.deadline < boundedShutdownDeadline call.budget call.callerDeadline

lemma numbered_new : Numbered new := by simp [Numbered, new]

lemma Numbered.request {control : ExitControl} (h : Numbered control) (call : ExitCall) :
    Numbered (control.request call).1 := by
  unfold ExitControl.request
  split
  · intro attempt hattempt
    obtain rfl := Option.some.inj hattempt
    simp only
    split
    · decide
    · exact Nat.min_le_right _ _
  · unfold triggerUntil
    cases hattempt : control.attempt with
    | none =>
      intro attempt hbegin
      obtain rfl := Option.some.inj hbegin
      show 1 ≤ u64Max
      decide
    | some current =>
      simp only
      split
      · intro attempt hsame
        exact h attempt (hattempt.trans hsame)
      · intro attempt hbegin
        obtain rfl := Option.some.inj hbegin
        exact h current hattempt

lemma leadsTo_request_iff {control : ExitControl} (h : Numbered control) (call : ExitCall) :
    LeadsTo control (control.request call).1 ↔ ¬ Saturates control call := by
  have hcancelled : (control.request call).1.cancelled = true := (request_cases control call).1
  unfold ExitControl.request at hcancelled ⊢
  cases hretry : call.retry with
  | false =>
    have hnot : ¬ Saturates control call := by
      rintro ⟨htrue, -⟩
      rw [hretry] at htrue
      cases htrue
    refine iff_of_true ?_ hnot
    refine ⟨?_, fun _ => by simpa [hretry] using hcancelled⟩
    intro attempt hattempt
    simp only [Bool.false_eq_true, if_false, triggerUntil, hattempt]
    split
    · exact ⟨attempt, rfl, Nat.le_refl _, fun _ => Nat.le_refl _⟩
    · exact ⟨_, rfl, Nat.le_refl _, fun _ => capped_le _ _⟩
  | true =>
    simp only [if_true]
    constructor
    · rintro hleads ⟨-, attempt, hattempt, hid, hlater⟩
      obtain ⟨next, hnext, -, hdeadline⟩ := hleads.attempt attempt hattempt
      simp only [retryUntil, begin, hattempt, hid] at hnext
      obtain rfl := Option.some.inj hnext
      have hle := hdeadline (by simp [hid])
      simp only at hle
      omega
    · intro hnot
      refine ⟨?_, fun _ => rfl⟩
      intro attempt hattempt
      simp only [retryUntil, begin, hattempt]
      have hbound := h attempt hattempt
      refine ⟨_, rfl, by simp only; omega, ?_⟩
      intro hsame
      have hlast : attempt.id = u64Max := by
        simp only at hsame
        omega
      by_contra hlater
      exact hnot ⟨hretry, attempt, hattempt, hlast, Nat.not_le.mp hlater⟩

lemma numbered_afterCalls (calls : List ExitCall) : Numbered (afterCalls calls) := by
  induction calls using List.reverseRecOn with
  | nil => exact numbered_new
  | append_singleton calls call ih =>
    rw [afterCalls, List.foldl_append]
    exact ih.request call

/-- Over a sequence of calls every moment leads to every later one. -/
def Steady (calls : List ExitCall) : Prop :=
  ∀ early late, early <+: late → late <+: calls → LeadsTo (afterCalls early) (afterCalls late)

lemma steady_iff (calls : List ExitCall) :
    Steady calls ↔ ∀ pre call, pre ++ [call] <+: calls → ¬ Saturates (afterCalls pre) call := by
  have hsnoc : ∀ pre call, afterCalls (pre ++ [call]) = ((afterCalls pre).request call).1 := by
    intro pre call
    rw [afterCalls, List.foldl_append]
    rfl
  constructor
  · intro h pre call hprefix
    have hleads := h pre (pre ++ [call]) (List.prefix_append _ _) hprefix
    rw [hsnoc] at hleads
    exact (leadsTo_request_iff (numbered_afterCalls pre) call).mp hleads
  · intro h early late hearly hlate
    induction late using List.reverseRecOn with
    | nil =>
      rw [List.prefix_nil.mp hearly]
      exact LeadsTo.refl _
    | append_singleton late call ih =>
      rcases List.prefix_concat_iff.mp hearly with rfl | hearly
      · exact LeadsTo.refl _
      · have hstep := (leadsTo_request_iff (numbered_afterCalls late) call).mpr (h late call hlate)
        rw [hsnoc]
        exact (ih hearly ((List.prefix_append late [call]).trans hlate)).trans hstep

end ExitControl

end JaDesktop.Bridge
