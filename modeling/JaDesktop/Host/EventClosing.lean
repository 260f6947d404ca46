import Mathlib.Logic.Function.Basic
import JaDesktop.Host.Events
import JaDesktop.Lib.Runs

/-!
# Events and the end of a session

`push_event` tests the closed flag, pushes, and reads the fatal mark; `fail_closed` takes the gate,
swaps the flag, and closes the queue.  Each of these is an atomic step of its own, and the threads
take them in any order.  The queue does not look at its own closed mark, so a call that passed the
test in time can push into a closed queue: there is a run after which a line of the stderr stream
stays in the queue of a closed session.  In every run in which no such push comes after the close,
nothing but terminal facts is left once `fail_closed` has returned.
-/

namespace JaDesktop.Host

/-! ## The system -/

/-- The lane and the kind under which an event is pushed; all the places that push an event of one
sort agree on them. -/
def eventRouting : SessionEvent → EventPriority × QueueKind
  | .notification frame => notificationRouting frame
  | .stderrLine _ | .stderrTruncated => (.data, .stderr)
  | .serverRequest _ | .responseRejected _ | .protocolFault _ | .writerTimedOut
  | .handshakeFailed | .eof | .queueOverflow _ | .queueFatalOverflow _ | .processExited _ _ =>
    (.control, .control)

/-- Where a thread stands in `push_event` or `fail_closed`; a call of `push_event` that finds the
fatal mark goes on in `fail_closed`. -/
inductive ClosingCall
  | idle
  | admitted (event : SessionEvent)
  | pushed
  | failing
  | gated
  | swapped
  | leaving
  | returned

/-- The shared state and the threads.  `failClosedReturned` says that a call of `fail_closed` has
returned, `late` that the last call of a thread began after that. -/
structure ClosingState where
  queue : EventQueueState
  closed : Bool
  readyTerminalGate : Option ℕ
  calls : ℕ → ClosingCall
  failClosedReturned : Bool
  late : ℕ → Bool

/-- The atomic steps: a thread enters `push_event` and tests the closed flag, a thread enters
`fail_closed`, a thread takes the next step of its call, the consumer pops, or a nested handler
pops a request. -/
inductive ClosingAction
  | pushEvent (thread : ℕ) (event : SessionEvent)
  | failClosed (thread : ℕ)
  | proceed (thread : ℕ)
  | pop
  | popServerRequest

namespace ClosingState

/-- The lanes hold terminal facts only. -/
def TerminalLanes (s : EventQueueState) : Prop :=
  ∀ lane, ∀ event ∈ s.lane lane, isTerminalEvent event = true

/-- No thread has called yet. -/
def initial : ClosingState := ⟨.empty, false, none, fun _ => .idle, false, fun _ => false⟩

/-- Move a thread. -/
def goto (s : ClosingState) (thread : ℕ) (call : ClosingCall) : ClosingState :=
  { s with calls := Function.update s.calls thread call }

/-- A thread begins a call. -/
def begin (s : ClosingState) (thread : ℕ) (call : ClosingCall) : ClosingState :=
  { s.goto thread call with late := Function.update s.late thread s.failClosedReturned }

variable (S : SerdeJson) (q : EventQueue)

/-- The next step of a call. -/
def proceed (s : ClosingState) (thread : ℕ) : Option ClosingState :=
  match s.calls thread with
  | .admitted event =>
    let routing := eventRouting event
    let outcome := q.push S s.queue event routing.1 routing.2
    some ({ s with queue := outcome.1 }.goto thread .pushed)
  | .pushed =>
    if EventQueue.isFatal s.queue then some (s.goto thread .failing)
    else some (s.goto thread .returned)
  | .failing =>
    match s.readyTerminalGate with
    | none => some ({ s with readyTerminalGate := some thread }.goto thread .gated)
    | some _ => none
  | .gated =>
    if s.closed then some (s.goto thread .leaving)
    else some ({ s with closed := true }.goto thread .swapped)
  | .swapped => some ({ s with queue := q.close S s.queue }.goto thread .leaving)
  | .leaving =>
    some ({ s with readyTerminalGate := none, failClosedReturned := true }.goto thread .returned)
  | .idle | .returned => none

/-- The thread is not in a call. -/
def Rests (s : ClosingState) (thread : ℕ) : Prop :=
  s.calls thread = .idle ∨ s.calls thread = .returned

/-- The step relation. -/
inductive Step (s : ClosingState) : ClosingAction → ClosingState → Prop
  | enter (thread : ℕ) (event : SessionEvent) (hrests : s.Rests thread)
      (henter : (s.closed && !isTerminalEvent event) = false) :
      Step s (.pushEvent thread event) (s.begin thread (.admitted event))
  | refuse (thread : ℕ) (event : SessionEvent) (hrests : s.Rests thread)
      (hrefuse : (s.closed && !isTerminalEvent event) = true) :
      Step s (.pushEvent thread event) (s.begin thread .returned)
  | failClosed (thread : ℕ) (hrests : s.Rests thread) :
      Step s (.failClosed thread) (s.begin thread .failing)
  | proceed (thread : ℕ) {s' : ClosingState} (h : s.proceed S q thread = some s') :
      Step s (.proceed thread) s'
  | pop : Step s .pop { s with queue := (q.pop S s.queue).2.1 }
  | popServerRequest :
      Step s .popServerRequest { s with queue := (q.popServerRequest S s.queue).2.1 }

/-- A call of `fail_closed` has returned, and the calls that began before that have returned. -/
def Settled (s : ClosingState) : Prop :=
  s.failClosedReturned = true ∧ ∀ thread, s.late thread = false → s.Rests thread

/-- Nothing but terminal facts: in the lanes, and as the next event. -/
def OnlyTerminal (s : ClosingState) : Prop :=
  TerminalLanes s.queue ∧
    ∀ event, (q.pop S s.queue).1 = some event → isTerminalEvent event = true

/-- The action is not the push of an event that is no terminal fact into a closed queue. -/
def Timely (s : ClosingState) (action : ClosingAction) : Prop :=
  ∀ thread event, action = .proceed thread → s.calls thread = .admitted event →
    s.queue.closed = true → isTerminalEvent event = true

/-- A timely action, as a step of the system. -/
def TimelyStep (s : ClosingState) (action : ClosingAction) (s' : ClosingState) : Prop :=
  s.Timely action ∧ s.Step S q action s'

/-! ## What the queue keeps -/

section Queue

variable {S q} {s : EventQueueState}

@[simp] lemma push_closed (event : SessionEvent) (priority : EventPriority) (kind : QueueKind) :
    (q.push S s event priority kind).1.closed = s.closed := by
  unfold EventQueue.push
  split_ifs
  · cases priority with
    | control => rfl
    | data =>
      simp only [EventQueue.rejectData]
      split_ifs <;> rfl
  · simp only [EventQueue.accept]
    split_ifs
    · rfl
    · cases priority <;> rfl

lemma popLanes_closed : (q.popLanes S s).2.1.closed = s.closed := by
  unfold EventQueue.popLanes
  split <;> rfl

@[simp] lemma pop_closed : (q.pop S s).2.1.closed = s.closed := by
  unfold EventQueue.pop
  split
  · split_ifs
    · exact popLanes_closed
    · rfl
  · exact popLanes_closed

@[simp] lemma popServerRequest_closed : (q.popServerRequest S s).2.1.closed = s.closed := by
  unfold EventQueue.popServerRequest
  split <;> rfl

lemma terminalLanes_push (h : TerminalLanes s) {event : SessionEvent}
    (hevent : isTerminalEvent event = true) :
    TerminalLanes (q.push S s event (eventRouting event).1 (eventRouting event).2).1 := by
  have hcontrol : (eventRouting event).1 = .control := by
    cases event with
    | notification frame =>
      have hframe : isTurnCompletedTerminalNotification frame = true := hevent
      simp [eventRouting, notificationRouting, hframe]
    | stderrLine line => cases hevent
    | stderrTruncated => cases hevent
    | _ => rfl
  have hrequest : isServerRequest event = false := by
    cases event with
    | serverRequest frame => cases hevent
    | _ => rfl
  rw [hcontrol, EventQueue.push]
  split_ifs
  · exact h
  · simp only [EventQueue.accept, hrequest, Bool.false_eq_true, if_false]
    intro lane other hother
    cases lane with
    | serverRequests => exact h .serverRequests other hother
    | data => exact h .data other hother
    | control =>
      rcases List.mem_append.mp hother with hold | hnew
      · exact h .control other hold
      · obtain rfl := List.mem_singleton.mp hnew
        exact hevent

lemma TerminalLanes.take (h : TerminalLanes s) {event : SessionEvent} {t : EventQueueState}
    (htake : EventQueue.Takes s event t) : isTerminalEvent event = true ∧ TerminalLanes t := by
  obtain ⟨lane, rest, hlane, hrest, hothers⟩ := htake
  constructor
  · exact h lane event (by rw [hlane]; exact List.mem_cons_self)
  · intro other
    by_cases heq : other = lane
    · subst heq
      rw [hrest]
      exact fun e he => h other e (by rw [hlane]; exact List.mem_cons_of_mem _ he)
    · rw [hothers other heq]
      exact h other

/-- What `pop` returns is the head of a lane, or the report of the mark. -/
lemma terminalLanes_pop (h : TerminalLanes s) :
    (∀ event, (q.pop S s).1 = some event → isTerminalEvent event = true) ∧
      TerminalLanes (q.pop S s).2.1 := by
  rcases EventQueue.pop_cases S q s with ⟨first, hfirst, htake⟩ | ⟨hsame, hreport⟩
  · obtain ⟨hterminal, hrest⟩ := h.take htake
    refine ⟨fun event hevent => ?_, hrest⟩
    rw [hfirst] at hevent
    cases hevent
    exact hterminal
  · refine ⟨fun event hevent => ?_, fun lane => ?_⟩
    · rcases hreport with hnone | ⟨kind, hmark⟩
      · rw [hnone] at hevent
        cases hevent
      · rw [hmark] at hevent
        cases hevent
        rfl
    · rw [hsame lane]
      exact h lane

lemma terminalLanes_popServerRequest (h : TerminalLanes s) :
    TerminalLanes (q.popServerRequest S s).2.1 := by
  rcases EventQueue.popServerRequest_cases S q s with ⟨frame, -, htake⟩ | ⟨-, hsame | ⟨_, -, htake⟩⟩
  · exact (h.take htake).2
  · rw [hsame]
    exact h
  · exact (h.take htake).2

lemma terminalLanes_close : TerminalLanes (q.close S s) := by
  intro lane event hevent
  cases lane with
  | serverRequests => cases hevent
  | data => cases hevent
  | control => exact (List.mem_filter.mp hevent).2

end Queue

/-! ## Runs in which every push comes in time -/

/-- The gate belongs to the thread inside it; when the flag is up and no thread is about to close
the queue, the queue is closed; and a closed queue holds terminal facts only. -/
structure Swept (s : ClosingState) : Prop where
  gate : ∀ thread, s.calls thread = .gated ∨ s.calls thread = .swapped ∨
    s.calls thread = .leaving → s.readyTerminalGate = some thread
  closing : s.closed = true → s.queue.closed = true ∨ ∃ thread, s.calls thread = .swapped
  leaving : ∀ thread, s.calls thread = .leaving → s.queue.closed = true
  returned : s.failClosedReturned = true → s.queue.closed = true
  terminal : s.queue.closed = true → TerminalLanes s.queue

variable {S q} {s s' : ClosingState}

@[simp] lemma goto_self (thread : ℕ) (call : ClosingCall) :
    (s.goto thread call).calls thread = call := Function.update_self ..

variable {other thread : ℕ}

lemma goto_of_ne (h : other ≠ thread) (call : ClosingCall) :
    (s.goto thread call).calls other = s.calls other := Function.update_of_ne h ..

/-- A thread that is not about to close the queue moves to a place outside the gate. -/
lemma Swept.goto (h : Swept s) {call : ClosingCall} (hfrom : s.calls thread ≠ .swapped)
    (hto : call ≠ .gated ∧ call ≠ .swapped ∧ call ≠ .leaving) : Swept (s.goto thread call) := by
  have hplace : ∀ other, (s.goto thread call).calls other = .gated ∨
      (s.goto thread call).calls other = .swapped ∨ (s.goto thread call).calls other = .leaving →
      other ≠ thread := by
    rintro other hother rfl
    rw [goto_self] at hother
    rcases hother with h₁ | h₁ | h₁
    · exact hto.1 h₁
    · exact hto.2.1 h₁
    · exact hto.2.2 h₁
  refine ⟨fun other hother => ?_, fun hclosed => ?_, fun other hother => ?_, h.returned, h.terminal⟩
  · have hne := hplace other hother
    rw [goto_of_ne hne] at hother
    exact h.gate other hother
  · rcases h.closing hclosed with hqueue | ⟨other, hother⟩
    · exact Or.inl hqueue
    · have hne : other ≠ thread := by
        rintro rfl
        exact hfrom hother
      exact Or.inr ⟨other, by rw [goto_of_ne hne]; exact hother⟩
  · have hne := hplace other (Or.inr (Or.inr hother))
    rw [goto_of_ne hne] at hother
    exact h.leaving other hother

lemma Swept.queue (h : Swept s) {t : EventQueueState} (hclosed : t.closed = s.queue.closed)
    (hterminal : s.queue.closed = true → TerminalLanes t) : Swept { s with queue := t } where
  gate := h.gate
  closing hflag := by
    simp only [hclosed]
    exact h.closing hflag
  leaving thread hthread := by
    simp only [hclosed]
    exact h.leaving thread hthread
  returned hreturned := by
    simp only [hclosed]
    exact h.returned hreturned
  terminal hqueue := hterminal (by rw [← hclosed]; exact hqueue)

/-- Inside the gate. -/
def InGate (call : ClosingCall) : Prop := call = .gated ∨ call = .swapped ∨ call = .leaving

lemma Swept.alone (h : Swept s) (hthread : InGate (s.calls thread))
    (hother : InGate (s.calls other)) : other = thread := by
  have hgate := h.gate thread hthread
  rw [h.gate other hother] at hgate
  exact Option.some.inj hgate

lemma Swept.advance (h : Swept s) (call : ClosingCall) (hthread : InGate (s.calls thread))
    (hother : InGate ((s.goto thread call).calls other)) : other = thread := by
  by_contra hne
  rw [goto_of_ne hne] at hother
  exact hne (h.alone hthread hother)

lemma Swept.proceed (h : Swept s) (htimely : s.Timely (.proceed thread))
    (hstep : s.proceed S q thread = some s') : Swept s' := by
  unfold ClosingState.proceed at hstep
  cases hcall : s.calls thread with
  | idle => simp [hcall] at hstep
  | returned => simp [hcall] at hstep
  | admitted event =>
    simp only [hcall, Option.some.injEq] at hstep
    subst hstep
    have hqueue := h.queue (t := (q.push S s.queue event (eventRouting event).1
      (eventRouting event).2).1) (push_closed event _ _) fun hclosed =>
        terminalLanes_push (h.terminal hclosed) (htimely thread event rfl hcall hclosed)
    exact hqueue.goto (by simp [hcall]) (by simp)
  | pushed =>
    simp only [hcall] at hstep
    split_ifs at hstep
    · cases hstep
      exact h.goto (by simp [hcall]) (by simp)
    · cases hstep
      exact h.goto (by simp [hcall]) (by simp)
  | failing =>
    simp only [hcall] at hstep
    cases hgate : s.readyTerminalGate with
    | some holder => simp [hgate] at hstep
    | none =>
      simp only [hgate, Option.some.injEq] at hstep
      subst hstep
      -- nobody else is inside, since the gate was free
      have houtside : ∀ other, ¬ InGate (s.calls other) := by
        intro other hother
        have := h.gate other hother
        rw [hgate] at this
        cases this
      refine ⟨fun other hother => ?_, fun hclosed => ?_, fun other hother => ?_, h.returned,
        h.terminal⟩
      · by_cases hne : other = thread
        · rw [hne]
          rfl
        · rw [goto_of_ne hne] at hother
          exact absurd hother (houtside other)
      · rcases h.closing hclosed with hqueue | ⟨other, hother⟩
        · exact Or.inl hqueue
        · exact absurd (Or.inr (Or.inl hother)) (houtside other)
      · by_cases hne : other = thread
        · rw [hne, goto_self] at hother
          cases hother
        · rw [goto_of_ne hne] at hother
          exact absurd (Or.inr (Or.inr hother)) (houtside other)
  | gated =>
    have hinside : InGate (s.calls thread) := Or.inl hcall
    simp only [hcall] at hstep
    split_ifs at hstep with hflag
    · cases hstep
      -- the thread that raised the flag has left the gate, so it has closed the queue
      have hqueue : s.queue.closed = true := by
        rcases h.closing hflag with hqueue | ⟨other, hother⟩
        · exact hqueue
        · obtain rfl := h.alone hinside (Or.inr (Or.inl hother))
          rw [hcall] at hother
          cases hother
      refine ⟨fun other hother => ?_, fun _ => Or.inl hqueue, fun _ _ => hqueue, h.returned,
        h.terminal⟩
      rw [h.advance .leaving hinside hother]
      exact h.gate thread hinside
    · cases hstep
      refine ⟨fun other hother => ?_, fun _ => Or.inr ⟨thread, goto_self _ _⟩,
        fun other hother => ?_, h.returned, h.terminal⟩
      · rw [h.advance .swapped hinside hother]
        exact h.gate thread hinside
      · obtain rfl := h.advance .swapped hinside (Or.inr (Or.inr hother))
        rw [goto_self] at hother
        cases hother
  | swapped =>
    have hinside : InGate (s.calls thread) := Or.inr (Or.inl hcall)
    simp only [hcall, Option.some.injEq] at hstep
    subst hstep
    refine ⟨fun other hother => ?_, fun _ => Or.inl rfl, fun _ _ => rfl, fun _ => rfl,
      fun _ => terminalLanes_close⟩
    rw [h.advance .leaving hinside hother]
    exact h.gate thread hinside
  | leaving =>
    have hinside : InGate (s.calls thread) := Or.inr (Or.inr hcall)
    have hqueue : s.queue.closed = true := h.leaving thread hcall
    simp only [hcall, Option.some.injEq] at hstep
    subst hstep
    refine ⟨fun other hother => ?_, fun _ => Or.inl hqueue, fun _ _ => hqueue, fun _ => hqueue,
      h.terminal⟩
    obtain rfl := h.advance .returned hinside hother
    rw [goto_self] at hother
    rcases hother with hother | hother | hother <;> cases hother

/-- **Every timely step keeps a closed queue swept.** -/
theorem Swept.step (h : Swept s) {action : ClosingAction} (htimely : s.Timely action)
    (hstep : s.Step S q action s') : Swept s' := by
  have hbegin : ∀ {thread call}, s.Rests thread →
      (call ≠ .gated ∧ call ≠ .swapped ∧ call ≠ .leaving) → Swept (s.begin thread call) := by
    intro thread call hrests hto
    have hfrom : s.calls thread ≠ .swapped := by
      rcases hrests with hcall | hcall <;> simp [hcall]
    obtain ⟨hgate, hclosing, hleaving, hreturned, hterminal⟩ := h.goto hfrom hto
    exact ⟨hgate, hclosing, hleaving, hreturned, hterminal⟩
  cases hstep with
  | enter thread event hrests => exact hbegin hrests (by simp)
  | refuse thread event hrests => exact hbegin hrests (by simp)
  | failClosed thread hrests => exact hbegin hrests (by simp)
  | proceed thread hproceed => exact h.proceed htimely hproceed
  | pop => exact h.queue pop_closed fun hclosed => (terminalLanes_pop (h.terminal hclosed)).2
  | popServerRequest =>
    exact h.queue popServerRequest_closed fun hclosed =>
      terminalLanes_popServerRequest (h.terminal hclosed)

/-- **Nothing but terminal facts survives the close** in every run in which no call that passed
the test of the closed flag with another event pushes it after the queue was closed: once
`fail_closed` has returned, the lanes hold terminal facts only, and the next event is one. -/
theorem onlyTerminal_of_timely {actions : List ClosingAction}
    (hrun : Run (TimelyStep S q) initial actions s) (hreturned : s.failClosedReturned = true) :
    s.OnlyTerminal S q := by
  have hswept : Swept s := by
    refine hrun.stateInvariant ?_ ?_
    · refine ⟨?_, by rintro ⟨⟩, by rintro thread ⟨⟩, by rintro ⟨⟩, by rintro ⟨⟩⟩
      rintro thread (h | h | h) <;> cases h
    · rintro s action s' hs ⟨htimely, hstep⟩
      exact hs.step htimely hstep
  have hterminal : TerminalLanes s.queue := hswept.terminal (hswept.returned hreturned)
  exact ⟨hterminal, (terminalLanes_pop hterminal).1⟩

/-- A run in which the push comes in time, and `fail_closed` sweeps the event away. -/
theorem onlyTerminal_of_timely_swept :
    ∃ actions s, Run (TimelyStep compactSerde (.new 256 (4 * 1024 * 1024))) initial actions s ∧
      s.failClosedReturned = true ∧ s.OnlyTerminal compactSerde (.new 256 (4 * 1024 * 1024)) := by
  have hrun : ∃ actions s,
      Run (TimelyStep compactSerde (.new 256 (4 * 1024 * 1024))) initial actions s ∧
        s.failClosedReturned = true := by
    refine ⟨_, _, ((((((((Run.nil.snoc ⟨?_, .enter 0 .stderrTruncated (Or.inl rfl) rfl⟩).snoc
      ⟨?_, .proceed 0 rfl⟩).snoc ⟨?_, .proceed 0 rfl⟩).snoc
      ⟨?_, .failClosed 1 (Or.inl rfl)⟩).snoc ⟨?_, .proceed 1 rfl⟩).snoc
      ⟨?_, .proceed 1 rfl⟩).snoc ⟨?_, .proceed 1 rfl⟩).snoc ⟨?_, .proceed 1 rfl⟩), rfl⟩
    -- the queue is open until the last step, which is not a push
    all_goals
      rintro thread event haction hcall hclosed
      cases haction
    all_goals
      first
      | exact absurd (show false = true from hclosed) Bool.false_ne_true
      | exact absurd (show ClosingCall.leaving = .admitted event from hcall) (by simp)
  obtain ⟨actions, s, hrun, hreturned⟩ := hrun
  exact ⟨actions, s, hrun, hreturned, onlyTerminal_of_timely hrun hreturned⟩

/-- **A push after the close**: a call tests the flag, `fail_closed` runs to its end, and the call
pushes a line of the stderr stream, which the consumer of the closed session then reads. -/
theorem lateEvent_survives :
    ∃ actions s, Run (Step compactSerde (.new 256 (4 * 1024 * 1024))) initial actions s ∧
      s.Settled ∧ ¬ s.OnlyTerminal compactSerde (.new 256 (4 * 1024 * 1024)) := by
  refine ⟨_, _, (((((((Run.nil.snoc (.enter 0 .stderrTruncated (Or.inl rfl) rfl)).snoc
      (.failClosed 1 (Or.inl rfl))).snoc (.proceed 1 rfl)).snoc (.proceed 1 rfl)).snoc
      (.proceed 1 rfl)).snoc (.proceed 1 rfl)).snoc (.proceed 0 rfl)).snoc (.proceed 0 rfl),
      ⟨rfl, ?_⟩, ?_⟩
  · rintro (_ | _ | thread) -
    · exact Or.inr rfl
    · exact Or.inr rfl
    · exact Or.inl rfl
  · rintro ⟨hterminal, -⟩
    cases hterminal .data .stderrTruncated (List.mem_singleton.mpr rfl)

end ClosingState

end JaDesktop.Host
