import JaDesktop.Host.Pending
import JaDesktop.Lib.Runs

/-!
# The lifecycle of the sidecar

`LifecycleMachine` is the one owner of the state of the sidecar process.  The generation tells the
instances of the process apart, and every report about an instance carries its generation.  After
a crash the machine waits in `backoff`, longer each time, until the policy allows no further
attempt; an instance that was ready for the stable window gets a fresh budget.

The functions that read the clock take the reading as an argument; `recordCrash` reads it twice.
-/

namespace JaDesktop.Host

/-! ## Numbers and durations -/

def u32Max : ℕ := 2 ^ 32 - 1
def u64Max : ℕ := 2 ^ 64 - 1

/-- `saturating_add` on the integers up to `top`. -/
def saturatingAddTo (top a b : ℕ) : ℕ := min (a + b) top

/-- A `Duration`, as a number of nanoseconds. -/
abbrev Nanos := ℕ

/-- `Duration::MAX`. -/
def durationMax : Nanos := 2 ^ 64 * 10 ^ 9 - 1

/-- `Duration::from_millis`. -/
def fromMillis (millis : ℕ) : Nanos := millis * 10 ^ 6

/-- `Duration::as_millis`. -/
def asMillis (duration : Nanos) : ℕ := duration / 10 ^ 6

/-- `Duration::saturating_mul`. -/
def saturatingMulDuration (duration : Nanos) (n : ℕ) : Nanos := min (duration * n) durationMax

/-- `1_u32.checked_shl(shift)`: the value wraps, and a shift by the width is refused. -/
def checkedShlOne (shift : ℕ) : Option ℕ :=
  if shift < 32 then some (2 ^ shift % 2 ^ 32) else none

/-! ## The machine -/

inductive LifecycleState
  | starting
  | ready
  | busy
  | stopping
  | exited
  | backoff
  | incompatible
  | faulted
deriving DecidableEq, Repr

structure RestartPolicy where
  maxAttempts : ℕ
  baseDelay : Nanos
  maxDelay : Nanos

/-- `RestartPolicy::default`. -/
def RestartPolicy.default : RestartPolicy := ⟨3, 100 * 10 ^ 6, 5 * 10 ^ 9⟩

/-- `RestartPolicy::validate`. -/
def RestartPolicy.validate (policy : RestartPolicy) : Except AgentProcessError Unit :=
  if policy.maxAttempts = 0 ∨ policy.baseDelay = 0 ∨ policy.maxDelay < policy.baseDelay ∨
      3600 * 10 ^ 9 < policy.maxDelay then
    .error .invalidConfig
  else .ok ()

def stableWindowMillis : ℕ := 30000

structure LifecycleMachine where
  state : LifecycleState
  generation : ℕ
  restartAttempt : ℕ
  nextRetryMillis : Option ℕ
  readySinceMillis : Option ℕ
  policy : RestartPolicy

namespace LifecycleMachine

/-- `LifecycleMachine::with_clock`. -/
def withClock (policy : RestartPolicy) : Except AgentProcessError LifecycleMachine :=
  match policy.validate with
  | .ok () => .ok ⟨.exited, 0, 0, none, none, policy⟩
  | .error e => .error e

variable (m : LifecycleMachine)

def backoffDue (now : ℕ) : Bool :=
  match m.nextRetryMillis with
  | none => true
  | some deadline => deadline ≤ now

def retryAfter (now : ℕ) : Nanos :=
  match m.nextRetryMillis with
  | none => 0
  | some deadline => fromMillis (deadline - now)

def isCurrent (generation : ℕ) : Bool := generation == m.generation

/-- The generation after this one: `wrapping_add(1).max(1)`. -/
def nextGeneration : ℕ := max ((m.generation + 1) % 2 ^ 64) 1

/-- The end of `begin_start`, once the state allows it. -/
def started : LifecycleMachine :=
  { m with
    generation := m.nextGeneration
    state := .starting
    nextRetryMillis := none
    readySinceMillis := none }

/-- `begin_start`; the clock is read once to test the deadline, and once more for the error. -/
def beginStart (now later : ℕ) : Except AgentProcessError ℕ × LifecycleMachine :=
  match m.state with
  | .exited => (.ok m.nextGeneration, m.started)
  | .backoff =>
    if m.backoffDue now then (.ok m.nextGeneration, m.started)
    else (.error (.backoff (m.retryAfter later)), m)
  | .incompatible => (.error .incompatible, m)
  | .faulted => (.error .faulted, m)
  | .starting | .ready | .busy | .stopping => (.error .invalidState, m)

def markReady (generation now : ℕ) : Except AgentProcessError Unit × LifecycleMachine :=
  if generation ≠ m.generation ∨ m.state ≠ .starting then (.error .invalidState, m)
  else (.ok (), { m with state := .ready, readySinceMillis := some now })

def markBusy (generation : ℕ) : Except AgentProcessError Unit × LifecycleMachine :=
  if generation ≠ m.generation ∨ m.state ≠ .ready then (.error .invalidState, m)
  else (.ok (), { m with state := .busy })

def markReadyAgain (generation : ℕ) : Except AgentProcessError Unit × LifecycleMachine :=
  if generation ≠ m.generation ∨ m.state ≠ .busy then (.error .invalidState, m)
  else (.ok (), { m with state := .ready })

/-- An instance is starting or at work. -/
def Active : Prop := m.state = .starting ∨ m.state = .ready ∨ m.state = .busy

/-- A state that nothing leads out of. -/
def Terminal : Prop := m.state = .faulted ∨ m.state = .incompatible

instance : Decidable m.Active := inferInstanceAs (Decidable (_ ∨ _ ∨ _))

instance : Decidable m.Terminal := inferInstanceAs (Decidable (_ ∨ _))

def beginStop (generation : ℕ) : Except AgentProcessError Unit × LifecycleMachine :=
  if generation ≠ m.generation ∨ ¬ m.Active then (.error .invalidState, m)
  else (.ok (), { m with state := .stopping })

def markExited (generation : ℕ) : Bool × LifecycleMachine :=
  if generation ≠ m.generation ∨ m.Terminal then (false, m)
  else (true, { m with state := .exited })

def markIncompatible (generation : ℕ) : Bool × LifecycleMachine :=
  if generation ≠ m.generation then (false, m)
  else (true, { m with state := .incompatible, nextRetryMillis := none, readySinceMillis := none })

def markFaulted (generation : ℕ) : Bool × LifecycleMachine :=
  if generation ≠ m.generation then (false, m)
  else (true, { m with state := .faulted, nextRetryMillis := none, readySinceMillis := none })

/-- The instance was ready for the stable window. -/
def stable (now : ℕ) : Bool :=
  match m.readySinceMillis with
  | some readySince => stableWindowMillis ≤ now - readySince
  | none => false

/-- The number of the crash among those since the last stable instance. -/
def nextAttempt (now : ℕ) : ℕ :=
  saturatingAddTo u32Max (if m.stable now then 0 else m.restartAttempt) 1

/-- The delay before the next start: it doubles with each attempt, up to the bound of the
policy. -/
def backoffDelay (policy : RestartPolicy) (attempt : ℕ) : Nanos :=
  let shift := min (attempt - 1) 31
  let multiplier := (checkedShlOne shift).getD u32Max
  min (saturatingMulDuration policy.baseDelay multiplier) policy.maxDelay

/-- `record_crash`; the clock is read for the stable window, and again for the deadline. -/
def recordCrash (generation now later : ℕ) : LifecycleState × LifecycleMachine :=
  if generation ≠ m.generation ∨ m.state = .exited ∨ m.Terminal then (m.state, m)
  else if m.state = .stopping ∨ m.state = .backoff then (m.state, m)
  else
    let attempt := m.nextAttempt now
    if m.policy.maxAttempts < attempt then
      (.faulted, { m with restartAttempt := attempt, state := .faulted, nextRetryMillis := none })
    else
      let delay := backoffDelay m.policy attempt
      (.backoff, { m with
        restartAttempt := attempt
        nextRetryMillis := some (saturatingAddTo u64Max later (min (asMillis delay) u64Max))
        state := .backoff })

/-- The operations that may change the machine. -/
inductive Call
  | beginStart
  | markReady (generation : ℕ)
  | markBusy (generation : ℕ)
  | markReadyAgain (generation : ℕ)
  | beginStop (generation : ℕ)
  | markExited (generation : ℕ)
  | markIncompatible (generation : ℕ)
  | markFaulted (generation : ℕ)
  | recordCrash (generation : ℕ)

/-- The generation that an operation is about. -/
def Call.generation : Call → Option ℕ
  | .beginStart => none
  | .markReady generation | .markBusy generation | .markReadyAgain generation
  | .beginStop generation | .markExited generation | .markIncompatible generation
  | .markFaulted generation | .recordCrash generation => some generation

/-- The machine after an operation, with the two readings of the clock. -/
def after (call : Call) (now later : ℕ) : LifecycleMachine :=
  match call with
  | .beginStart => (m.beginStart now later).2
  | .markReady generation => (m.markReady generation now).2
  | .markBusy generation => (m.markBusy generation).2
  | .markReadyAgain generation => (m.markReadyAgain generation).2
  | .beginStop generation => (m.beginStop generation).2
  | .markExited generation => (m.markExited generation).2
  | .markIncompatible generation => (m.markIncompatible generation).2
  | .markFaulted generation => (m.markFaulted generation).2
  | .recordCrash generation => (m.recordCrash generation now later).2

end LifecycleMachine

/-! ## What the operations do -/

namespace LifecycleMachine

variable {m : LifecycleMachine}

/-- **An operation about another generation changes nothing.** -/
theorem after_of_stale {call : Call} {generation : ℕ} (hcall : call.generation = some generation)
    (hstale : generation ≠ m.generation) (now later : ℕ) : m.after call now later = m := by
  cases call with
  | beginStart => cases hcall
  | markReady g | markBusy g | markReadyAgain g | beginStop g | markExited g | markIncompatible g
  | markFaulted g | recordCrash g =>
    cases hcall
    simp [after, markReady, markBusy, markReadyAgain, beginStop, markExited, markIncompatible,
      markFaulted, recordCrash, hstale]

lemma not_terminal_of_active (h : m.Active) : ¬ m.Terminal := by
  rintro (hstate | hstate) <;> rcases h with h | h | h <;> rw [h] at hstate <;> cases hstate

lemma state_cases (m : LifecycleMachine) :
    m.Active ∨ m.Terminal ∨ m.state = .exited ∨ m.state = .stopping ∨ m.state = .backoff := by
  unfold Active Terminal
  cases m.state <;> simp

/-- `begin_start` starts a generation, or leaves the machine alone. -/
lemma beginStart_cases (m : LifecycleMachine) (now later : ℕ) :
    ((m.state = .exited ∨ m.state = .backoff) ∧
      m.beginStart now later = (.ok m.nextGeneration, m.started)) ∨
    ∃ e, m.beginStart now later = (.error e, m) := by
  unfold beginStart
  split
  · exact Or.inl ⟨Or.inl (by assumption), rfl⟩
  · split_ifs
    · exact Or.inl ⟨Or.inr (by assumption), rfl⟩
    · exact Or.inr ⟨_, rfl⟩
  all_goals exact Or.inr ⟨_, rfl⟩

lemma recordCrash_of_not {generation : ℕ} (h : ¬ (generation = m.generation ∧ m.Active))
    (now later : ℕ) : m.recordCrash generation now later = (m.state, m) := by
  unfold recordCrash
  split_ifs with hgone hwaiting
  · rfl
  · rfl
  · have hcurrent : generation = m.generation := by
      by_contra hne
      exact hgone (Or.inl hne)
    rcases m.state_cases with hactive | hterminal | hexited | hstate
    · exact absurd ⟨hcurrent, hactive⟩ h
    · exact absurd (Or.inr (Or.inr hterminal)) hgone
    · exact absurd (Or.inr (Or.inl hexited)) hgone
    · exact absurd hstate hwaiting

lemma recordCrash_of_active {generation : ℕ} (hcurrent : generation = m.generation)
    (hactive : m.Active) (now later : ℕ) :
    m.recordCrash generation now later =
      if m.policy.maxAttempts < m.nextAttempt now then
        (.faulted, { m with
          restartAttempt := m.nextAttempt now, state := .faulted, nextRetryMillis := none })
      else
        (.backoff, { m with
          restartAttempt := m.nextAttempt now
          nextRetryMillis := some (saturatingAddTo u64Max later
            (min (asMillis (backoffDelay m.policy (m.nextAttempt now))) u64Max))
          state := .backoff }) := by
  have hrunning : ¬ (generation ≠ m.generation ∨ m.state = .exited ∨ m.Terminal) := by
    rintro (h | h | h)
    · exact h hcurrent
    · rcases hactive with h' | h' | h' <;> rw [h'] at h <;> cases h
    · exact not_terminal_of_active hactive h
  have hworking : ¬ (m.state = .stopping ∨ m.state = .backoff) := by
    rintro (h | h) <;> rcases hactive with h' | h' | h' <;> rw [h'] at h <;> cases h
  unfold recordCrash
  rw [if_neg hrunning, if_neg hworking]

/-- Only `mark_exited` leads to `exited`. -/
lemma exited_of_after {call : Call} (hcall : ∀ generation, call ≠ .markExited generation)
    {now later : ℕ} (h : (m.after call now later).state = .exited) : m.state = .exited := by
  cases call with
  | beginStart =>
    simp only [after, beginStart] at h
    split at h
    · assumption
    · split_ifs at h
      · cases h
      · exact h
    all_goals exact h
  | markExited generation => exact absurd rfl (hcall generation)
  | markReady generation =>
    simp only [after, markReady] at h
    split_ifs at h
    exact h
  | markBusy generation =>
    simp only [after, markBusy] at h
    split_ifs at h
    exact h
  | markReadyAgain generation =>
    simp only [after, markReadyAgain] at h
    split_ifs at h
    exact h
  | beginStop generation =>
    simp only [after, beginStop] at h
    split_ifs at h
    exact h
  | markIncompatible generation =>
    simp only [after, markIncompatible] at h
    split_ifs at h
    exact h
  | markFaulted generation =>
    simp only [after, markFaulted] at h
    split_ifs at h
    exact h
  | recordCrash generation =>
    simp only [after, recordCrash] at h
    split_ifs at h
    · exact h
    · exact h

end LifecycleMachine

end JaDesktop.Host
