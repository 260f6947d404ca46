import JaDesktop.Terminal.QueueRuns

/-!
# Whole calls of the event queue

`pushKind`, `pushTerminal`, `recv` and `close` compute with exact numbers and are not interrupted.
A sequence of these calls is a run of the steps in `QueueRuns` with the same answers, so whatever
holds after every run of the steps holds after it.
-/

namespace JaDesktop.Terminal

/-- A call that nobody interrupts. -/
inductive QueueCall
  | pushKind (kind : TerminalEventKind)
  | pushTerminal (kind : TerminalEventKind)
  | recv
  | close

namespace EventQueue

variable (q : EventQueue)

/-- A call, with the event that it has accepted or taken. -/
def call : QueueCall → Option TerminalEvent × EventQueue
  | .pushKind kind => q.pushKind kind
  | .pushTerminal kind => q.pushTerminal kind
  | .recv => match q.recv with
    | some (event, q) => (some event, q)
    | none => (none, q)
  | .close => (none, q.close)

/-- The calls one after the other, with their answers. -/
def calls (q : EventQueue) : List QueueCall → List (Option TerminalEvent) × EventQueue
  | [] => ([], q)
  | call :: rest =>
    ((q.call call).1 :: ((q.call call).2.calls rest).1, ((q.call call).2.calls rest).2)

end EventQueue

/-- What a step answers to its caller. -/
def QueueLabel.answer : QueueLabel → Option (Option TerminalEvent)
  | pushed _ event | pushedTerminal _ event _ | received event => some event
  | closed => some none
  | admitted _ | swapped _ => none

section

variable {maxBytes maxCount : ℕ} {q : EventQueue}

/-- The steps of one call. -/
lemma exists_run_call (hmax : maxBytes < usizeMax) (hq : q.Sound maxBytes maxCount)
    (call : QueueCall) : ∃ trace,
      Run QueueCallers.Step ⟨q, none, none⟩ trace ⟨(q.call call).2, none, none⟩ ∧
      trace.filterMap QueueLabel.answer = [(q.call call).1] := by
  have hbudget : q.maxBytes < usizeMax := hq.maxBytes_eq ▸ hmax
  have hbytes : q.bytes ≤ q.maxBytes := hq.maxBytes_eq ▸ hq.bytes_le
  cases call with
  | pushKind kind =>
    rw [EventQueue.call, EventQueue.pushKind_eq hbudget]
    split_ifs with hrefuses
    · exact ⟨[] ++ [.pushed kind none], .snoc .nil (.refused rfl hrefuses), rfl⟩
    · have hadmits : q.refuses = false := Bool.not_eq_true _ ▸ hrefuses
      exact ⟨_, .snoc (.snoc .nil (.admitted rfl hadmits)) (.pushed rfl), rfl⟩
  | pushTerminal kind =>
    rw [EventQueue.call, EventQueue.pushTerminal_eq hbudget hbytes]
    split_ifs with hset
    · exact ⟨[] ++ [.pushedTerminal kind none []], .snoc .nil (.late hset), rfl⟩
    · have hunset : q.terminal = false := Bool.not_eq_true _ ▸ hset
      exact ⟨_, .snoc (.snoc .nil (.swapped hunset)) (.reserved rfl rfl), rfl⟩
  | recv =>
    rw [EventQueue.call, EventQueue.recv_eq (hbytes.trans hbudget.le)]
    cases hrecv : q.recvOldest with
    | none => exact ⟨_, .snoc .nil (.timedOut rfl), rfl⟩
    | some received => exact ⟨_, .snoc .nil (.received rfl hrecv), rfl⟩
  | close => exact ⟨_, .snoc .nil (.closed rfl), rfl⟩

lemma exists_run_calls (hmax : maxBytes < usizeMax) (calls : List QueueCall)
    (hq : QueueCallers.Sound maxBytes maxCount ⟨q, none, none⟩) : ∃ trace,
      Run QueueCallers.Step ⟨q, none, none⟩ trace ⟨(q.calls calls).2, none, none⟩ ∧
      trace.filterMap QueueLabel.answer = (q.calls calls).1 := by
  induction calls generalizing q with
  | nil => exact ⟨[], .nil, rfl⟩
  | cons call calls ih =>
    obtain ⟨first, hfirst, hanswer⟩ := exists_run_call hmax hq.queue call
    have hnext := hfirst.stateInvariant hq fun h hstep => (queueEffect_of_step hmax h hstep).sound
    obtain ⟨rest, hrest, hanswers⟩ := ih hnext
    refine ⟨first ++ rest, hfirst.append hrest, ?_⟩
    rw [List.filterMap_append, hanswer, hanswers]
    rfl

/-- **The calls refine the steps**: after every sequence of calls on a new queue there is a run of
the steps that gives the same answers and leaves the same queue, so the queue is within its budgets,
in order, and closed behind its terminal event. -/
theorem calls_refine_steps (hmax : maxBytes < usizeMax) (sessionId generation : ℕ)
    (calls : List QueueCall) : ∃ trace,
      Run QueueCallers.Step ⟨.new sessionId generation maxBytes maxCount, none, none⟩ trace
        ⟨((EventQueue.new sessionId generation maxBytes maxCount).calls calls).2, none, none⟩ ∧
      trace.filterMap QueueLabel.answer =
        ((EventQueue.new sessionId generation maxBytes maxCount).calls calls).1 ∧
      QueueKept maxBytes maxCount trace
        ⟨((EventQueue.new sessionId generation maxBytes maxCount).calls calls).2, none, none⟩ := by
  have hnew := queueTracked_new sessionId generation maxBytes maxCount
  obtain ⟨trace, hrun, hanswers⟩ := exists_run_calls hmax calls hnew.sound
  exact ⟨trace, hrun, hanswers, (hrun.invariant hnew fun h hstep => h.step hmax hstep).kept⟩

/-- An error is pushed and taken. -/
theorem calls_refine_steps_error : ∃ trace : List QueueLabel,
    trace.filterMap QueueLabel.answer = [some ⟨1, 1, 1, .error 5⟩, some ⟨1, 1, 1, .error 5⟩] := by
  obtain ⟨trace, -, hanswers, -⟩ :=
    @calls_refine_steps 64 1 (by decide) 1 1 [.pushTerminal (.error 5), .recv]
  exact ⟨trace, hanswers⟩

end

end JaDesktop.Terminal
