import Mathlib.Logic.Function.Basic
import JaDesktop.Host.EventAccounting

/-!
# Routing events into the queue

Several threads call `push_event` while one consumer pops.  A call tests the closed flag, pushes,
and reads the fatal mark in another critical section; when it finds the mark it closes the
session.  A control event that is dropped therefore closes the session unless the consumer takes
the mark between the push and the read: in every run in which that does not happen, a call that
dropped a control event returns with the session closed, and there is a run in which it happens
and the session stays open.
-/

namespace JaDesktop.Host

/-! ## The system -/

/-- Where a thread stands in a call of `push_event`; `dropped` says that its push dropped a
control event. -/
inductive PushCall
  | idle
  | admitted (event : SessionEvent) (priority : EventPriority) (kind : QueueKind)
  | pushed (dropped : Bool)
  | closing (dropped : Bool)
  | returned (dropped : Bool)

/-- The shared state and the threads. -/
structure RoutingState where
  queue : EventQueueState
  closed : Bool
  calls : ℕ → PushCall

/-- The atomic steps: a thread enters `push_event` and tests the closed flag, a thread takes the
next step of its call, the consumer pops, a nested handler pops a request, or another path ends
the session. -/
inductive RoutingAction
  | enter (thread : ℕ) (event : SessionEvent) (priority : EventPriority) (kind : QueueKind)
  | proceed (thread : ℕ)
  | pop
  | popServerRequest
  | failClosed

/-- The effects of a push that dropped a control event. -/
def dropsControl (effects : List QueueEffect) : Bool :=
  effects.any fun
    | .rejected _ .control => true
    | _ => false

namespace RoutingState

/-- No thread has called yet. -/
def initial : RoutingState := ⟨.empty, false, fun _ => .idle⟩

/-- Move a thread. -/
def goto (s : RoutingState) (thread : ℕ) (call : PushCall) : RoutingState :=
  { s with calls := Function.update s.calls thread call }

variable (S : SerdeJson) (q : EventQueue)

/-- `fail_closed`, as far as the flag and the queue are concerned. -/
def failClosed (s : RoutingState) : RoutingState :=
  if s.closed then s else { s with closed := true, queue := q.close S s.queue }

/-- The start of `push_event`: after the end of the session only terminal facts go on. -/
def enter (s : RoutingState) (thread : ℕ) (event : SessionEvent) (priority : EventPriority)
    (kind : QueueKind) : RoutingState :=
  if s.closed && !isTerminalEvent event then s.goto thread (.returned false)
  else s.goto thread (.admitted event priority kind)

/-- The next step of `push_event`. -/
def proceed (s : RoutingState) (thread : ℕ) : Option RoutingState :=
  match s.calls thread with
  | .admitted event priority kind =>
    let outcome := q.push S s.queue event priority kind
    some ({ s with queue := outcome.1 }.goto thread (.pushed (dropsControl outcome.2)))
  | .pushed dropped =>
    if EventQueue.isFatal s.queue then some (s.goto thread (.closing dropped))
    else some (s.goto thread (.returned dropped))
  | .closing dropped => some ((s.failClosed S q).goto thread (.returned dropped))
  | .idle | .returned _ => none

/-- The state after an action, when the action is possible. -/
def after (s : RoutingState) : RoutingAction → Option RoutingState
  | .enter thread event priority kind =>
    match s.calls thread with
    | .idle | .returned _ => some (s.enter thread event priority kind)
    | _ => none
  | .proceed thread => s.proceed S q thread
  | .pop => some { s with queue := (q.pop S s.queue).2.1 }
  | .popServerRequest => some { s with queue := (q.popServerRequest S s.queue).2.1 }
  | .failClosed => some (s.failClosed S q)

/-- One action, as a step of the system. -/
def Step (s : RoutingState) (action : RoutingAction) (s' : RoutingState) : Prop :=
  s.after S q action = some s'

/-- The consumer does not take the fatal mark of an open session while a call that dropped a
control event has yet to read it. -/
def Careful (s : RoutingState) (action : RoutingAction) : Prop :=
  action = .pop → s.queue.fatal.isSome = true → s.closed = false →
    ∀ thread, s.calls thread ≠ .pushed true

/-- A careful action, as a step of the system. -/
def CarefulStep (s : RoutingState) (action : RoutingAction) (s' : RoutingState) : Prop :=
  s.Careful action ∧ s.Step S q action s'

/-! ## The fatal mark -/

section Mark

variable {S q} {s : EventQueueState}

lemma fatal_push (h : s.fatal.isSome = true) (event : SessionEvent) (priority : EventPriority)
    (kind : QueueKind) : (q.push S s event priority kind).1.fatal.isSome = true := by
  unfold EventQueue.push
  split_ifs
  · cases priority with
    | control => rfl
    | data =>
      simp only [EventQueue.rejectData]
      split_ifs
      · exact h
      · rfl
      · exact h
  · simp only [EventQueue.accept]
    split_ifs
    · exact h
    · cases priority <;> exact h

lemma fatal_of_drop {event : SessionEvent} {priority : EventPriority} {kind : QueueKind}
    (h : dropsControl (q.push S s event priority kind).2 = true) :
    (q.push S s event priority kind).1.fatal.isSome = true := by
  unfold EventQueue.push at h ⊢
  split_ifs at h ⊢
  · cases priority with
    | control => rfl
    | data =>
      simp only [EventQueue.rejectData] at h
      split_ifs at h <;> cases h
  · simp only [EventQueue.accept] at h
    split_ifs at h
    · cases h
    · cases priority <;> cases h

lemma fatal_popServerRequest : (q.popServerRequest S s).2.1.fatal = s.fatal := by
  unfold EventQueue.popServerRequest
  split <;> rfl

end Mark

/-! ## Runs in which the mark is read in time -/

/-- A dropped control event that was not read yet has its mark in the queue, and a call that
dropped one returned after the end of the session. -/
structure Alarmed (s : RoutingState) : Prop where
  pushed : ∀ thread, s.calls thread = .pushed true →
    s.queue.fatal.isSome = true ∨ s.closed = true
  returned : ∀ thread, s.calls thread = .returned true → s.closed = true

variable {S q} {s s' : RoutingState}

@[simp] lemma goto_self (thread : ℕ) (call : PushCall) :
    (s.goto thread call).calls thread = call := Function.update_self ..

variable {thread n : ℕ}

lemma goto_of_ne {other : ℕ} (h : other ≠ thread) (call : PushCall) :
    (s.goto thread call).calls other = s.calls other := Function.update_of_ne h ..

lemma Alarmed.goto (h : Alarmed s) {call : PushCall}
    (hpushed : call = .pushed true → s.queue.fatal.isSome = true ∨ s.closed = true)
    (hreturned : call = .returned true → s.closed = true) : Alarmed (s.goto thread call) := by
  constructor
  · intro other hother
    by_cases heq : other = thread
    · subst heq
      rw [goto_self] at hother
      exact hpushed hother
    · rw [goto_of_ne heq] at hother
      exact h.pushed other hother
  · intro other hother
    by_cases heq : other = thread
    · subst heq
      rw [goto_self] at hother
      exact hreturned hother
    · rw [goto_of_ne heq] at hother
      exact h.returned other hother

lemma Alarmed.failClosed (h : Alarmed s) :
    Alarmed (s.failClosed S q) ∧ (s.failClosed S q).closed = true := by
  unfold RoutingState.failClosed
  split_ifs with hclosed
  · exact ⟨h, hclosed⟩
  · exact ⟨⟨fun _ _ => Or.inr rfl, fun _ _ => rfl⟩, rfl⟩

lemma Alarmed.proceed (h : Alarmed s) (hstep : s.proceed S q thread = some s') :
    Alarmed s' := by
  unfold RoutingState.proceed at hstep
  cases hcall : s.calls thread with
  | idle => simp [hcall] at hstep
  | returned dropped => simp [hcall] at hstep
  | admitted event priority kind =>
    simp only [hcall, Option.some.injEq] at hstep
    subst hstep
    have hqueue : Alarmed { s with queue := (q.push S s.queue event priority kind).1 } := by
      refine ⟨fun other hother => ?_, h.returned⟩
      rcases h.pushed other hother with hfatal | hclosed
      · exact Or.inl (fatal_push hfatal event priority kind)
      · exact Or.inr hclosed
    refine hqueue.goto ?_ ?_
    · intro hdrop
      exact Or.inl (fatal_of_drop (PushCall.pushed.inj hdrop))
    · rintro ⟨⟩
  | pushed dropped =>
    simp only [hcall] at hstep
    split_ifs at hstep with hfatal
    · cases hstep
      exact h.goto (by rintro ⟨⟩) (by rintro ⟨⟩)
    · cases hstep
      refine h.goto (by rintro ⟨⟩) ?_
      -- the mark was not there, so a call with a dropped event finds the session closed
      intro hdrop
      obtain rfl := PushCall.returned.inj hdrop
      exact (h.pushed thread hcall).resolve_left hfatal
  | closing dropped =>
    simp only [hcall, Option.some.injEq] at hstep
    subst hstep
    obtain ⟨halarmed, hclosed⟩ := h.failClosed (S := S) (q := q)
    exact halarmed.goto (by rintro ⟨⟩) fun _ => hclosed

/-- **Every careful step keeps the alarm.** -/
theorem Alarmed.step (h : Alarmed s) {action : RoutingAction} (hcareful : s.Careful action)
    (hstep : s.Step S q action s') : Alarmed s' := by
  unfold Step after at hstep
  cases action with
  | enter thread event priority kind =>
    have henter : Alarmed (s.enter thread event priority kind) := by
      unfold RoutingState.enter
      split_ifs
      · exact h.goto (by rintro ⟨⟩) (by rintro ⟨⟩)
      · exact h.goto (by rintro ⟨⟩) (by rintro ⟨⟩)
    simp only at hstep
    split at hstep
    · cases hstep
      exact henter
    · cases hstep
      exact henter
    · cases hstep
  | proceed thread => exact h.proceed hstep
  | pop =>
    cases hstep
    refine ⟨fun thread hthread => Or.inr ?_, h.returned⟩
    rcases h.pushed thread hthread with hfatal | hclosed
    · by_contra hopen
      exact hcareful rfl hfatal (by simpa using hopen) thread hthread
    · exact hclosed
  | popServerRequest =>
    cases hstep
    refine ⟨fun thread hthread => ?_, h.returned⟩
    rw [fatal_popServerRequest]
    exact h.pushed thread hthread
  | failClosed =>
    cases hstep
    exact h.failClosed.1

/-- **A lost control event closes the session** in every run in which the consumer never takes the
fatal mark before the call that lost the event has read it: whenever a call that dropped a control
event has returned, the session is closed. -/
theorem closed_of_careful {actions : List RoutingAction}
    (hrun : Run (CarefulStep S q) initial actions s)
    {thread : ℕ} (hreturned : s.calls thread = .returned true) : s.closed = true := by
  have halarmed : Alarmed s := by
    refine hrun.stateInvariant ?_ ?_
    · exact ⟨by rintro thread ⟨⟩, by rintro thread ⟨⟩⟩
    · rintro s action s' hs ⟨hcareful, hstep⟩
      exact hs.step hcareful hstep
  exact halarmed.returned thread hreturned

/-! ## A run in which the mark is taken too early -/

/-- A control fact of the runtime, as `notification_routing` sends it to the control lane. -/
def healthFrame : RpcFrame := ⟨none, some "runtime/health", some (.object []), .missing, none⟩

def healthEvent : SessionEvent := .notification healthFrame

/-- The queue of a session with the default limits. -/
def defaultQueue : EventQueue := .new 256 (4 * 1024 * 1024)

/-- The size of the event in the queue. -/
def healthSize : ℕ := eventSize compactSerde healthEvent defaultQueue.maxFrameBytes

lemma healthSize_le : healthSize ≤ 64 * 1024 := by decide +kernel

/-- The queue with a number of control facts in it. -/
def filledQueue (n : ℕ) : EventQueueState :=
  { EventQueueState.empty with
    control := List.replicate n healthEvent
    controlBytes := n * healthSize }

lemma push_filled (hn : n < 64) :
    defaultQueue.push compactSerde (filledQueue n) healthEvent .control .data =
      (filledQueue (n + 1), [.accepted .control healthEvent]) := by
  have hsize := healthSize_le
  have hle : n * healthSize ≤ 63 * (64 * 1024) := Nat.mul_le_mul (by omega) hsize
  have hroom : defaultQueue.isFull compactSerde (filledQueue n) healthEvent .control = false := by
    refine EventHistory.isFull_eq_false.mpr ⟨?_, ?_⟩
    · simpa [isServerRequest, healthEvent, filledQueue, defaultQueue, EventQueue.new,
        controlQueueCapacity] using hn
    · change min (min (0 + n * healthSize) usizeMax + healthSize) usizeMax ≤
        min (4 * 1024 * 1024 + 1) usizeMax
      have husize : usizeMax = 2 ^ 64 - 1 := rfl
      omega
  have hexact : saturatingAdd (n * healthSize) healthSize = (n + 1) * healthSize := by
    rw [saturatingAdd, Nat.add_one_mul, usizeMax]
    omega
  have haccept : defaultQueue.accept compactSerde (filledQueue n) healthEvent .control =
      ({ filledQueue n with
          control := List.replicate n healthEvent ++ [healthEvent]
          controlBytes := saturatingAdd (n * healthSize) healthSize },
        [.accepted .control healthEvent]) := rfl
  rw [EventQueue.push, hroom, haccept, hexact, ← List.replicate_succ']
  rfl

lemma push_full :
    defaultQueue.push compactSerde (filledQueue 64) healthEvent .control .data =
      ({ filledQueue 64 with fatal := some .data }, [.rejected healthEvent .control]) := by
  have hfull : defaultQueue.isFull compactSerde (filledQueue 64) healthEvent .control = true := by
    simp [EventQueue.isFull, isServerRequest, healthEvent, filledQueue, defaultQueue,
      EventQueue.new, controlQueueCapacity]
  rw [EventQueue.push, hfull]
  rfl

/-- A state whose queue holds some control facts, and whose thread `0` is between two calls. -/
structure Filled (s : RoutingState) (n : ℕ) : Prop where
  queue : s.queue = filledQueue n
  closed : s.closed = false
  calls : s.calls 0 = .idle ∨ s.calls 0 = .returned false

lemma enter_push (hs : s.Filled n) {outcome : EventQueueState × List QueueEffect}
    (hpush : defaultQueue.push compactSerde (filledQueue n) healthEvent .control .data = outcome)
    {actions : List RoutingAction}
    (hrun : Run (CarefulStep compactSerde defaultQueue) initial actions s) :
    ∃ actions s', Run (CarefulStep compactSerde defaultQueue) initial actions s' ∧
      s'.queue = outcome.1 ∧ s'.closed = false ∧
      s'.calls 0 = .pushed (dropsControl outcome.2) := by
  obtain ⟨hqueue, hclosed, hcalls⟩ := hs
  have henter : s.CarefulStep compactSerde defaultQueue (.enter 0 healthEvent .control .data)
      (s.goto 0 (.admitted healthEvent .control .data)) := by
    refine ⟨by rintro ⟨⟩, ?_⟩
    unfold Step after
    rcases hcalls with hcall | hcall <;> simp [hcall, RoutingState.enter, hclosed]
  have hproceed : CarefulStep compactSerde defaultQueue
      (s.goto 0 (.admitted healthEvent .control .data)) (.proceed 0)
      ({ s.goto 0 (.admitted healthEvent .control .data) with
        queue := outcome.1 }.goto 0 (.pushed (dropsControl outcome.2))) := by
    refine ⟨by rintro ⟨⟩, ?_⟩
    have hsame : (s.goto 0 (.admitted healthEvent .control .data)).queue = filledQueue n := hqueue
    simp only [Step, after, RoutingState.proceed, goto_self, hsame, hpush]
  exact ⟨_, _, (hrun.snoc henter).snoc hproceed, rfl, hclosed, goto_self _ _⟩

lemma exists_filled (hn : n ≤ 64) :
    ∃ actions s, Run (CarefulStep compactSerde defaultQueue) initial actions s ∧ s.Filled n := by
  induction n with
  | zero =>
    refine ⟨[], initial, .nil, ⟨?_, rfl, Or.inl rfl⟩⟩
    simp [initial, filledQueue, EventQueueState.empty]
  | succ n ih =>
    obtain ⟨actions, s, hrun, hs⟩ := ih (by omega)
    obtain ⟨actions', s', hrun', hqueue, hclosed, hcall⟩ :=
      enter_push hs (push_filled (by omega)) hrun
    have hreturn : s'.CarefulStep compactSerde defaultQueue (.proceed 0)
        (s'.goto 0 (.returned false)) := by
      refine ⟨by rintro ⟨⟩, ?_⟩
      simp [Step, after, RoutingState.proceed, hcall, hqueue, EventQueue.isFatal, filledQueue,
        EventQueueState.empty, dropsControl]
    exact ⟨_, _, hrun'.snoc hreturn, ⟨hqueue, hclosed, Or.inr (goto_self _ _)⟩⟩

lemma exists_dropped :
    ∃ actions s, Run (CarefulStep compactSerde defaultQueue) initial actions s ∧
      s.queue = { filledQueue 64 with fatal := some .data } ∧ s.closed = false ∧
      s.calls 0 = .pushed true := by
  obtain ⟨actions, s, hrun, hs⟩ := exists_filled (le_refl 64)
  exact enter_push hs push_full hrun

/-- The call reads the mark in time, and closes the session. -/
theorem closed_of_careful_full :
    ∃ actions s, Run (CarefulStep compactSerde defaultQueue) initial actions s ∧
      s.calls 0 = .returned true ∧ s.closed = true := by
  obtain ⟨actions, s, hrun, hqueue, -, hcall⟩ := exists_dropped
  have hread : s.CarefulStep compactSerde defaultQueue (.proceed 0) (s.goto 0 (.closing true)) := by
    refine ⟨by rintro ⟨⟩, ?_⟩
    simp [Step, after, RoutingState.proceed, hcall, hqueue, EventQueue.isFatal]
  have hclose : (s.goto 0 (.closing true)).CarefulStep compactSerde defaultQueue (.proceed 0)
      (((s.goto 0 (.closing true)).failClosed compactSerde defaultQueue).goto 0
        (.returned true)) := by
    refine ⟨by rintro ⟨⟩, ?_⟩
    simp only [Step, after, RoutingState.proceed, goto_self]
  have hrun' := (hrun.snoc hread).snoc hclose
  exact ⟨_, _, hrun', goto_self _ _, closed_of_careful hrun' (goto_self 0 _)⟩

/-- **The consumer takes the mark first**: a run in which a call drops a control event and returns
while the session is open. -/
theorem lostControl_open :
    ∃ actions s, Run (Step compactSerde defaultQueue) initial actions s ∧
      s.calls 0 = .returned true ∧ s.closed = false := by
  obtain ⟨actions, s, hrun, hqueue, hclosed, hcall⟩ := exists_dropped
  have hpop : s.Step compactSerde defaultQueue .pop
      { s with queue := { filledQueue 64 with fatal := none, fatalReported := true } } := by
    simp [Step, after, hqueue, EventQueue.pop, filledQueue, EventQueueState.empty]
  have hreturn : Step compactSerde defaultQueue
      { s with queue := { filledQueue 64 with fatal := none, fatalReported := true } } (.proceed 0)
      ({ s with queue := { filledQueue 64 with fatal := none, fatalReported := true } }.goto 0
        (.returned true)) := by
    simp [Step, after, RoutingState.proceed, hcall, EventQueue.isFatal]
  exact ⟨_, _, ((hrun.mono And.right).snoc hpop).snoc hreturn, goto_self _ _, hclosed⟩

end RoutingState

end JaDesktop.Host
