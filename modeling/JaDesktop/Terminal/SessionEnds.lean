import JaDesktop.Terminal.Session

/-!
# The end of a terminal session

The right to publish the terminal event is taken in a section under the lifecycle mutex, and used after
it.  `Effect` says what a step of a thread does to the flag, to the events and to this right.  In a run
in which nobody closes the event queue while the right is taken and not used, and whose exit fits into
the queue, every ended session has reported its end; a step that breaks one of the two conditions
loses it.
-/

namespace JaDesktop.Terminal

/-! ## Places -/

/-- The terminal event that a thread at a place has the right to publish. -/
def Place.pending : Place → Option TerminalEventKind
  | publishingError code _ => some (.error code.toUInt16)
  | stoppingExit (some status) => some (.exited status)
  | publishingExit status => some (.exited status)
  | publishingClosed reason => some (.closed reason)
  | _ => none

/-- The thread has seen that the session has ended, or has ended it. -/
def Place.late : Place → Bool
  | stoppingFail _ | closingFail _ | closingExit | stoppingClose | awaitingWorkers | closingQueue =>
    true
  | _ => false

/-- The next step of the thread closes the event queue. -/
def Place.closes : Place → Bool
  | closingFail _ | closingExit | closingQueue => true
  | _ => false

/-- The thread is in none of the functions of the runtime. -/
def Place.returned : Place → Bool
  | reading | popping | awaitingSize | polling | idle | done => true
  | _ => false

lemma Place.late_of_closes {place : Place} (h : place.closes = true) : place.late = true := by
  cases place <;> first | rfl | cases h

lemma Place.pending_of_returned {place : Place} (h : place.returned = true) :
    place.pending = none := by
  cases place <;> first | rfl | cases h

/-! ## Steps -/

/-- What a step does to the flag of the lifecycle, to the events and to the place of its thread. -/
inductive Effect (r : TerminalRuntime) (p : Place) : Option Noted → TerminalRuntime → Place → Prop
  | quiet {r' : TerminalRuntime} {p' : Place}
      (hsent : r'.lifecycle.terminalSent = r.lifecycle.terminalSent) (hevents : r'.events = r.events)
      (hpending : p'.pending = p.pending)
      (hlate : p'.late = true → p.late = true ∨ r.lifecycle.terminalSent = true) :
      Effect r p none r' p'
  | claims {r' : TerminalRuntime} {p' : Place} {kind : TerminalEventKind}
      (hsent : r.lifecycle.terminalSent = false) (hsent' : r'.lifecycle.terminalSent = true)
      (hevents : r'.events = r.events) (hpending : p.pending = none)
      (hpending' : p'.pending = some kind) (hlate : p'.late = false) : Effect r p none r' p'
  | pushes {kind : TerminalEventKind} {noted : Option Noted} {p' : Place}
      (hkind : kind.isTerminal = false) (hpending : p.pending = none)
      (hpending' : p'.pending = none) (hlate : p'.late = false)
      (hnoted : noted = (r.events.pushKind kind).1.map .accepted) :
      Effect r p noted { r with events := (r.events.pushKind kind).2 } p'
  | publishes {kind : TerminalEventKind} {noted : Option Noted} {p' : Place}
      (hkind : kind.isTerminal = true) (hpending : p.pending = some kind)
      (hsize : (∀ status, p ≠ .publishingExit status) → eventSize kind = 64)
      (hpending' : p'.pending = none)
      (hnoted : noted = (r.events.pushTerminal kind).1.map .accepted) :
      Effect r p noted { r with events := (r.events.pushTerminal kind).2 } p'
  | closes {p' : Place} (hcloses : p.closes = true) (hpending : p'.pending = none)
      (hlate : p'.late = false) : Effect r p none { r with events := r.events.close } p'
  | receives {event : TerminalEvent} {events : EventQueue} {p' : Place}
      (hrecv : r.events.recv = some (event, events)) (hpending : p.pending = none)
      (hpending' : p'.pending = none) (hlate : p'.late = false) :
      Effect r p (some (.returned event)) { r with events } p'

section Effects

variable {r r' : TerminalRuntime} {p p' : Place} {answer : Answer} {noted : Option Noted}

variable {place : Place}

lemma goTo_eq_some (h : goTo r place = some (r', p', noted)) :
    r' = r ∧ p' = place ∧ noted = none := by
  simp only [goTo, Option.some.injEq, Prod.mk.injEq] at h
  exact ⟨h.1.symm, h.2.1.symm, h.2.2.symm⟩

/-- A step to a place before the end that touches neither the flag nor the events. -/
lemma Effect.of_quiet {r₁ : TerminalRuntime} (h : goTo r₁ place = some (r', p', noted))
    (hsent : r₁.lifecycle.terminalSent = r.lifecycle.terminalSent) (hevents : r₁.events = r.events)
    (hpending : place.pending = p.pending) (hlate : place.late = false) :
    Effect r p noted r' p' := by
  obtain ⟨rfl, rfl, rfl⟩ := goTo_eq_some h
  exact .quiet hsent hevents hpending fun hl => absurd hl (by simp [hlate])

lemma Effect.of_goTo (h : goTo r place = some (r', p', noted))
    (hpending : place.pending = p.pending) (hlate : place.late = false) :
    Effect r p noted r' p' :=
  .of_quiet h rfl rfl hpending hlate

lemma pushed_eq_some {outcome : Option TerminalEvent × EventQueue} {accepted refused : Place}
    (h : pushed r outcome accepted refused = some (r', p', noted)) :
    r' = { r with events := outcome.2 } ∧ noted = outcome.1.map .accepted ∧
      (p' = accepted ∨ p' = refused) := by
  obtain ⟨event, events⟩ := outcome
  cases event <;> simp only [pushed, Option.some.injEq, Prod.mk.injEq] at h <;>
    obtain ⟨rfl, rfl, rfl⟩ := h
  · exact ⟨rfl, rfl, .inr rfl⟩
  · exact ⟨rfl, rfl, .inl rfl⟩

lemma Effect.of_pushKind {kind : TerminalEventKind} {accepted refused : Place}
    (h : pushed r (r.events.pushKind kind) accepted refused = some (r', p', noted))
    (hkind : kind.isTerminal = false) (hpending : p.pending = none)
    (haccepted : accepted.pending = none ∧ accepted.late = false)
    (hrefused : refused.pending = none ∧ refused.late = false) : Effect r p noted r' p' := by
  obtain ⟨rfl, hnoted, rfl | rfl⟩ := pushed_eq_some h
  · exact .pushes hkind hpending haccepted.1 haccepted.2 hnoted
  · exact .pushes hkind hpending hrefused.1 hrefused.2 hnoted

lemma Effect.of_pushTerminal {kind : TerminalEventKind}
    (h : pushed r (r.events.pushTerminal kind) place place = some (r', p', noted))
    (hkind : kind.isTerminal = true) (hpending : p.pending = some kind)
    (hsize : (∀ status, p ≠ .publishingExit status) → eventSize kind = 64)
    (hplace : place.pending = none) : Effect r p noted r' p' := by
  obtain ⟨rfl, hnoted, rfl | rfl⟩ := pushed_eq_some h <;>
    exact .publishes hkind hpending hsize hplace hnoted

lemma readerStep_effect (h : readerStep r p answer = some (r', p', noted)) :
    Effect r p noted r' p' := by
  rw [readerStep.eq_def] at h
  split at h
  · split_ifs at h <;> exact .of_goTo h rfl rfl
  · exact .of_goTo h rfl rfl
  · exact .of_goTo h rfl rfl
  · exact .of_goTo h (by split_ifs <;> rfl) (by split_ifs <;> rfl)
  · exact .of_goTo h (by split_ifs <;> rfl) (by split_ifs <;> rfl)
  · exact .of_pushKind h rfl rfl ⟨rfl, rfl⟩ ⟨rfl, rfl⟩
  · exact .of_goTo h (by split_ifs <;> rfl) (by split_ifs <;> rfl)
  · exact .of_goTo h (by split_ifs <;> rfl) (by split_ifs <;> rfl)
  · -- the section of `reader_finished`
    rw [TerminalRuntime.finishSection] at h
    cases hsent : r.lifecycle.terminalSent with
    | true =>
      simp only [hsent, if_true] at h
      exact .of_quiet h hsent.symm rfl rfl rfl
    | false =>
      cases hstatus : r.lifecycle.exitStatus with
      | none =>
        simp only [hsent, hstatus, Bool.false_eq_true, if_false] at h
        exact .of_quiet h hsent.symm rfl rfl rfl
      | some status =>
        simp only [hsent, hstatus, Bool.false_eq_true, if_false] at h
        obtain ⟨rfl, rfl, rfl⟩ := goTo_eq_some h
        exact .claims hsent rfl rfl rfl rfl rfl
  · cases h

lemma writerStep_effect (h : writerStep r p answer = some (r', p', noted)) :
    Effect r p noted r' p' := by
  rw [writerStep.eq_def] at h
  split at h
  · obtain ⟨⟨data, input⟩, -, h⟩ := Option.bind_eq_some_iff.mp h
    exact .of_quiet h rfl rfl (by split_ifs <;> rfl) (by split_ifs <;> rfl)
  · exact .of_goTo h (by split_ifs <;> rfl) (by split_ifs <;> rfl)
  · exact .of_goTo h (by split_ifs <;> rfl) (by split_ifs <;> rfl)
  · exact .of_goTo h (by split_ifs <;> rfl) (by split_ifs <;> rfl)
  · cases h

lemma resizeStep_effect (h : resizeStep r p answer = some (r', p', noted)) :
    Effect r p noted r' p' := by
  rw [resizeStep.eq_def] at h
  split at h
  · obtain ⟨⟨size, resizeQueue⟩, -, h⟩ := Option.bind_eq_some_iff.mp h
    cases size <;> exact .of_quiet h rfl rfl rfl rfl
  · exact .of_goTo h (by split_ifs <;> rfl) (by split_ifs <;> rfl)
  · exact .of_goTo h (by split_ifs <;> rfl) (by split_ifs <;> rfl)
  · exact .of_pushKind h rfl rfl ⟨rfl, rfl⟩ ⟨rfl, rfl⟩
  · cases h

lemma childStep_effect (h : childStep r p answer = some (r', p', noted)) :
    Effect r p noted r' p' := by
  rw [childStep.eq_def] at h
  split at h
  · exact .of_goTo h rfl rfl
  · exact .of_goTo h rfl rfl
  · exact .of_goTo h rfl rfl
  · exact .of_goTo h (by split_ifs <;> rfl) (by split_ifs <;> rfl)
  · -- the section of `child_exited`
    rw [TerminalRuntime.exitSection] at h
    cases hsent : r.lifecycle.terminalSent with
    | true =>
      simp only [hsent, if_true] at h
      exact .of_quiet h rfl rfl rfl rfl
    | false =>
      cases hdone : r.lifecycle.readerDone with
      | false =>
        simp only [hsent, hdone, Bool.false_eq_true, if_false] at h
        exact .of_quiet h hsent.symm rfl rfl rfl
      | true =>
        simp only [hsent, hdone, Bool.false_eq_true, if_false, if_true] at h
        obtain ⟨rfl, rfl, rfl⟩ := goTo_eq_some h
        exact .claims hsent rfl rfl rfl rfl rfl
  · rename_i status
    cases status <;> exact .of_quiet h rfl rfl rfl rfl
  · exact .of_pushTerminal h rfl rfl (fun hne => absurd rfl (hne _)) rfl
  · obtain ⟨rfl, rfl, rfl⟩ := goTo_eq_some h
    exact .closes rfl rfl rfl
  · exact .of_quiet h rfl rfl rfl rfl
  · cases h

lemma failStep_effect (h : failStep r p answer = some (r', p', noted)) :
    Effect r p noted r' p' := by
  rw [failStep.eq_def] at h
  split at h
  · rw [TerminalRuntime.failSection] at h
    cases hsent : r.lifecycle.terminalSent with
    | true =>
      simp only [hsent, if_true] at h
      obtain ⟨rfl, rfl, rfl⟩ := goTo_eq_some h
      exact .quiet rfl rfl rfl fun _ => .inr hsent
    | false =>
      simp only [hsent, Bool.false_eq_true, if_false] at h
      obtain ⟨rfl, rfl, rfl⟩ := goTo_eq_some h
      exact .claims hsent rfl rfl rfl rfl rfl
  · exact .of_pushTerminal h rfl rfl (fun _ => rfl) rfl
  · obtain ⟨rfl, rfl, rfl⟩ := goTo_eq_some h
    exact .quiet rfl rfl rfl fun _ => .inl rfl
  · rename_i back
    obtain ⟨rfl, rfl, rfl⟩ := goTo_eq_some h
    cases back <;> exact .closes rfl rfl rfl
  · cases h

lemma callStep_effect (h : callStep r p answer = some (r', p', noted)) :
    Effect r p noted r' p' := by
  rw [callStep.eq_def] at h
  split at h
  · exact .of_goTo h rfl rfl
  · exact .of_goTo h rfl rfl
  · exact .of_goTo h rfl rfl
  · exact .of_goTo h rfl rfl
  · exact .of_goTo h (by split_ifs <;> rfl) (by split_ifs <;> rfl)
  · split at h <;> exact .of_quiet h rfl rfl rfl rfl
  · exact .of_goTo h (by split_ifs <;> rfl) (by split_ifs <;> rfl)
  · split at h <;> exact .of_quiet h rfl rfl rfl rfl
  · split at h
    · rename_i event events hrecv
      simp only [Option.some.injEq, Prod.mk.injEq] at h
      obtain ⟨rfl, rfl, rfl⟩ := h
      exact .receives hrecv rfl rfl rfl
    · split_ifs at h
      exact .of_goTo h rfl rfl
  · -- the section of `close_until`
    rw [TerminalRuntime.closeSection] at h
    cases hsent : r.lifecycle.terminalSent with
    | true =>
      simp only [hsent, if_true] at h
      obtain ⟨rfl, rfl, rfl⟩ := goTo_eq_some h
      exact .quiet hsent.symm rfl rfl fun _ => .inr hsent
    | false =>
      simp only [hsent, Bool.false_eq_true, if_false] at h
      obtain ⟨rfl, rfl, rfl⟩ := goTo_eq_some h
      exact .claims hsent rfl rfl rfl rfl rfl
  · exact .of_pushTerminal h rfl rfl (fun _ => rfl) rfl
  · obtain ⟨rfl, rfl, rfl⟩ := goTo_eq_some h
    exact .quiet rfl rfl rfl fun _ => .inl rfl
  · obtain ⟨rfl, rfl, rfl⟩ := goTo_eq_some h
    exact .quiet rfl rfl rfl fun _ => .inl rfl
  · obtain ⟨rfl, rfl, rfl⟩ := goTo_eq_some h
    exact .closes rfl rfl rfl
  · cases h

/-- **What a step of a thread does.** -/
theorem advance_effect (h : advance r p answer = some (r', p', noted)) : Effect r p noted r' p' := by
  simp only [advance, Option.or_eq_some_iff] at h
  rcases h with h | ⟨-, h | ⟨-, h | ⟨-, h | ⟨-, h | ⟨-, h⟩⟩⟩⟩⟩
  · exact readerStep_effect h
  · exact writerStep_effect h
  · exact resizeStep_effect h
  · exact childStep_effect h
  · exact failStep_effect h
  · exact callStep_effect h

end Effects

/-! ## Traces -/

/-- The events that the queue has accepted, in order. -/
def accepted (trace : List Action) : List TerminalEvent :=
  trace.filterMap fun action => match action.2.2 with
    | some (.accepted event) => some event
    | _ => none

/-- The events that `recv_until` has returned. -/
def returned (trace : List Action) : List TerminalEvent :=
  trace.filterMap fun action => match action.2.2 with
    | some (.returned event) => some event
    | _ => none

section

variable (trace : List Action)
include trace

section

variable (thread : Thread)
include thread

/-- What `accepted` and `returned` read of an action. -/
lemma accepted_concat (answer : Answer)
    (event : Option TerminalEvent) :
    accepted (trace ++ [(thread, answer, event.map .accepted)]) = accepted trace ++ event.toList := by
  cases event <;> simp [accepted]

lemma accepted_silent (answer : Answer) :
    accepted (trace ++ [(thread, answer, none)]) = accepted trace := by
  simpa using accepted_concat trace thread answer none

lemma accepted_returned (answer : Answer)
    (event : TerminalEvent) :
    accepted (trace ++ [(thread, answer, some (.returned event))]) = accepted trace := by
  simp [accepted]

lemma returned_concat (answer : Answer)
    (event : Option TerminalEvent) :
    returned (trace ++ [(thread, answer, event.map .accepted)]) = returned trace := by
  cases event <;> simp [returned]

lemma returned_silent (answer : Answer) :
    returned (trace ++ [(thread, answer, none)]) = returned trace := by
  simpa using returned_concat trace thread answer none

lemma returned_returned (answer : Answer)
    (event : TerminalEvent) :
    returned (trace ++ [(thread, answer, some (.returned event))]) = returned trace ++ [event] := by
  simp [returned]

end

end

/-- An event comes after the events before it, or the counter stands at its end. -/
def After (sequence : ℕ) (earlier : List TerminalEvent) : Prop :=
  ∀ event ∈ earlier, event.sequence < sequence ∨ sequence = maxSequence

/-- The one terminal event of a trace, and where it is. -/
structure EndsWith (trace : List Action) (s : Session) (earlier : List TerminalEvent)
    (event : TerminalEvent) : Prop where
  history : accepted trace = earlier ++ [event]
  terminal : event.kind.isTerminal = true
  ordinary : ∀ other ∈ earlier, other.kind.isTerminal = false
  last : After event.sequence earlier
  found : event ∈ s.runtime.events.queue ∨ event ∈ returned trace

/-- **The end is reported**: once the flag is set and no thread is in the runtime, the queue has
accepted one terminal event as its last one, which is still there or was returned; and the queue is
not closed before. -/
structure Reported (trace : List Action) (s : Session) : Prop where
  ended : s.runtime.lifecycle.terminalSent = true → (∀ thread, (s.place thread).returned = true) →
    ∃ earlier event, EndsWith trace s earlier event
  closed : s.runtime.events.closed = true →
    ∃ event ∈ accepted trace, event.kind.isTerminal = true

/-- A step that loses no end: nobody closes the queue while the right to publish is taken, and an exit
that is published fits into the queue. -/
structure LosesNoEnd (limits : TerminalLimits) (s : Session) (thread : Thread) : Prop where
  close : (s.place thread).closes = true → ∀ other, (s.place other).pending = none
  exit : ∀ status, s.place thread = .publishingExit status →
    eventSize (.exited status) ≤ limits.maxOutputQueueBytes

/-! ## The invariant -/

/-- How far the end of a session has come. -/
inductive Phase (trace : List Action) (s : Session) : Prop
  | running (hsent : s.runtime.lifecycle.terminalSent = false)
      (hpending : ∀ thread, (s.place thread).pending = none)
      (hterminal : s.runtime.events.terminal = false) (hopen : s.runtime.events.closed = false)
      (hordinary : ∀ event ∈ accepted trace, event.kind.isTerminal = false) : Phase trace s
  | claimed (owner : Thread) (hsent : s.runtime.lifecycle.terminalSent = true)
      (howner : (s.place owner).pending ≠ none)
      (hothers : ∀ thread, thread ≠ owner → (s.place thread).pending = none)
      (hterminal : s.runtime.events.terminal = false) (hopen : s.runtime.events.closed = false)
      (hordinary : ∀ event ∈ accepted trace, event.kind.isTerminal = false) : Phase trace s
  | reported {earlier : List TerminalEvent} {event : TerminalEvent}
      (hsent : s.runtime.lifecycle.terminalSent = true)
      (hpending : ∀ thread, (s.place thread).pending = none)
      (hterminal : s.runtime.events.terminal = true) (hends : EndsWith trace s earlier event) :
      Phase trace s

/-- The invariant of a session. -/
structure Tracked (limits : TerminalLimits) (trace : List Action) (s : Session) : Prop where
  counted : s.runtime.events.Counted
  maxBytes : s.runtime.events.maxBytes = limits.maxOutputQueueBytes
  maxCount : s.runtime.events.maxCount = limits.maxEventCount
  late : ∀ thread, (s.place thread).late = true → s.runtime.lifecycle.terminalSent = true
  sequences : After s.runtime.events.nextSequence (accepted trace)
  phase : Phase trace s

lemma tracked_spawn (sessionId : ℕ) (limits : TerminalLimits) :
    Tracked limits [] (Session.spawn sessionId limits) where
  counted := rfl
  maxBytes := rfl
  maxCount := rfl
  late thread h := by cases thread <;> cases h
  sequences := List.forall_mem_nil _
  phase := .running rfl (fun thread => by cases thread <;> rfl) rfl rfl (List.forall_mem_nil _)

lemma Tracked.reported {limits : TerminalLimits} {trace : List Action} {s : Session}
    (h : Tracked limits trace s) : Reported trace s := by
  rcases h.phase with ⟨hsent, -, -, hopen, -⟩ | ⟨owner, -, howner, -, -, hopen, -⟩ |
    ⟨hsent, -, -, hends⟩
  · refine ⟨fun h => ?_, fun h => ?_⟩
    · rw [hsent] at h
      cases h
    · rw [hopen] at h
      cases h
  · refine ⟨fun _ hreturned => absurd ?_ howner, fun h => ?_⟩
    · exact Place.pending_of_returned (hreturned owner)
    · rw [hopen] at h
      cases h
  · refine ⟨fun _ _ => ⟨_, _, hends⟩, fun _ => ⟨_, ?_, hends.terminal⟩⟩
    rw [hends.history]
    simp

lemma Session.Step.parts {s s' : Session} {action : Action} (h : s.Step action s') :
    ∃ r' p', Effect s.runtime (s.place action.1) action.2.2 r' p' ∧
      s' = ⟨r', Function.update s.place action.1 p'⟩ := by
  obtain ⟨⟨r', p', noted⟩, hadvance, hrest⟩ := Option.bind_eq_some_iff.mp h
  dsimp only at hrest
  split_ifs at hrest with hnoted
  refine ⟨r', p', ?_, (Option.some_inj.mp hrest).symm⟩
  rw [← hnoted]
  exact advance_effect hadvance

section Steps

variable {limits : TerminalLimits} {trace : List Action} {s s' : Session} {action : Action}

variable {earlier : List TerminalEvent}

/-- The counter goes on, behind the events before it and the one that it has numbered. -/
lemma After.next {sequence next : ℕ} (h : After sequence earlier)
    (hnext : next = sequence ∨ next = min (sequence + 1) maxSequence) : After next earlier := by
  intro event hmem
  have := h event hmem
  omega

lemma After.append {sequence : ℕ} (h : After sequence earlier) {event : TerminalEvent}
    (hevent : event.sequence = sequence) :
    After (min (sequence + 1) maxSequence) (earlier ++ [event]) := by
  intro other hmem
  rcases List.mem_append.mp hmem with hmem | hmem
  · exact h.next (.inr rfl) other hmem
  · obtain rfl := List.mem_singleton.mp hmem
    omega

lemma EndsWith.of_same {trace' : List Action} {event : TerminalEvent}
    (h : EndsWith trace s earlier event) (haccepted : accepted trace' = accepted trace)
    (hfound : event ∈ s.runtime.events.queue ∨ event ∈ returned trace →
      event ∈ s'.runtime.events.queue ∨ event ∈ returned trace') :
    EndsWith trace' s' earlier event :=
  ⟨haccepted.trans h.history, h.terminal, h.ordinary, h.last, hfound h.found⟩

lemma Phase.of_pending (h : Phase trace s) {thread : Thread} (hpending : (s.place thread).pending ≠ none) :
    s.runtime.lifecycle.terminalSent = true ∧
      (∀ other, other ≠ thread → (s.place other).pending = none) ∧
      s.runtime.events.terminal = false ∧ s.runtime.events.closed = false ∧
      ∀ event ∈ accepted trace, event.kind.isTerminal = false := by
  rcases h with ⟨-, hnone, -⟩ | ⟨owner, hsent, -, hothers, hterminal, hopen, hordinary⟩ |
    ⟨-, hnone, -⟩
  · exact absurd (hnone thread) hpending
  · obtain rfl : thread = owner := by
      by_contra hne
      exact hpending (hothers thread hne)
    exact ⟨hsent, hothers, hterminal, hopen, hordinary⟩
  · exact absurd (hnone thread) hpending

/-- The end has come as far as before, after a step that neither ends the terminal nor takes the right
to say so. -/
lemma Phase.keep {trace' : List Action} (h : Phase trace s)
    (hsent : s'.runtime.lifecycle.terminalSent = s.runtime.lifecycle.terminalSent)
    (hpending : ∀ thread, (s'.place thread).pending = (s.place thread).pending)
    (hterminal : s'.runtime.events.terminal = s.runtime.events.terminal)
    (hclosed : s'.runtime.events.closed = s.runtime.events.closed)
    (hordinary : ∀ event ∈ accepted trace', event ∈ accepted trace ∨ event.kind.isTerminal = false)
    (hends : s.runtime.events.terminal = true → accepted trace' = accepted trace ∧
      ∀ event, event ∈ s.runtime.events.queue ∨ event ∈ returned trace →
        event ∈ s'.runtime.events.queue ∨ event ∈ returned trace') : Phase trace' s' := by
  rcases h with ⟨hs, hnone, hbit, hopen, hkinds⟩ | ⟨owner, hs, howner, hothers, hbit, hopen, hkinds⟩ |
    ⟨hs, hnone, hbit, hend⟩
  · exact .running (hsent.trans hs) (fun u => (hpending u).trans (hnone u)) (hterminal.trans hbit)
      (hclosed.trans hopen) fun event hmem => (hordinary event hmem).elim (hkinds event) id
  · exact .claimed owner (hsent.trans hs) ((hpending owner).trans_ne howner)
      (fun u hu => (hpending u).trans (hothers u hu)) (hterminal.trans hbit) (hclosed.trans hopen)
      fun event hmem => (hordinary event hmem).elim (hkinds event) id
  · obtain ⟨haccepted, hfound⟩ := hends hbit
    exact .reported (hsent.trans hs) (fun u => (hpending u).trans (hnone u)) (hterminal.trans hbit)
      (hend.of_same haccepted (hfound _))

/-- **A step that loses no end keeps the invariant.** -/
theorem Tracked.step (hbytes : 64 ≤ limits.maxOutputQueueBytes) (hcount : 0 < limits.maxEventCount)
    (h : Tracked limits trace s) (hstep : s.Step action s') (hok : LosesNoEnd limits s action.1) :
    Tracked limits (trace ++ [action]) s' := by
  obtain ⟨thread, answer, noted⟩ := action
  obtain ⟨r', p', heffect, rfl⟩ := hstep.parts
  have hplace (u : Thread) :
      Function.update s.place thread p' u = if u = thread then p' else s.place u :=
    Function.update_apply ..
  -- the places of the other threads are as they were
  have hlate (hsent : s.runtime.lifecycle.terminalSent = true →
      r'.lifecycle.terminalSent = true) (hp' : p'.late = true → r'.lifecycle.terminalSent = true)
      (u : Thread) (hu : (Function.update s.place thread p' u).late = true) :
      r'.lifecycle.terminalSent = true := by
    rw [hplace] at hu
    split_ifs at hu
    · exact hp' hu
    · exact hsent (h.late u hu)
  have hnothing (u : Thread) (hself : p'.pending = none)
      (hother : u ≠ thread → (s.place u).pending = none) :
      (Function.update s.place thread p' u).pending = none := by
    rw [hplace]
    split_ifs with hu
    · exact hself
    · exact hother hu
  have hsame (hself : p'.pending = (s.place thread).pending) (u : Thread) :
      (Function.update s.place thread p' u).pending = (s.place u).pending := by
    rw [hplace]
    split_ifs with hu
    · rw [hself, hu]
    · rfl
  cases heffect with
  | quiet hsent hevents hpending hlate' =>
    refine ⟨hevents ▸ h.counted, hevents ▸ h.maxBytes, hevents ▸ h.maxCount, hlate (hsent ▸ id) ?_,
      ?_, ?_⟩
    · intro hl
      rw [hsent]
      exact (hlate' hl).elim (h.late thread) id
    · rw [accepted_silent]
      exact hevents ▸ h.sequences
    · refine h.phase.keep hsent (hsame hpending) (hevents ▸ rfl) (hevents ▸ rfl) ?_ ?_
      · rw [accepted_silent]
        exact fun _ hmem => Or.inl hmem
      · rw [accepted_silent, returned_silent, hevents]
        exact fun _ => ⟨rfl, fun _ => id⟩
  | claims hsent hsent' hevents hpending hpending' hl =>
    refine ⟨hevents ▸ h.counted, hevents ▸ h.maxBytes, hevents ▸ h.maxCount,
      hlate (fun _ => hsent') (fun _ => hsent'), ?_, ?_⟩
    · rw [accepted_silent]
      exact hevents ▸ h.sequences
    · rcases h.phase with ⟨-, hnone, hterminal, hopen, hordinary⟩ | ⟨owner, hs, -⟩ | ⟨hs, -⟩
      · refine .claimed thread hsent' ?_ (fun u hu => ?_) (hevents ▸ hterminal) (hevents ▸ hopen)
          (by rw [accepted_silent]; exact hordinary)
        · show (Function.update s.place thread p' thread).pending ≠ none
          rw [Function.update_self, hpending']
          exact Option.some_ne_none _
        · show (Function.update s.place thread p' u).pending = none
          rw [Function.update_of_ne hu]
          exact hnone u
      · rw [hsent] at hs
        cases hs
      · rw [hsent] at hs
        cases hs
  | @pushes kind _ _ hkind hpending hpending' hl hnoted =>
    obtain rfl : noted = _ := hnoted
    have haccepted := accepted_concat trace thread answer (s.runtime.events.pushKind kind).1
    have hreturned := returned_concat trace thread answer (s.runtime.events.pushKind kind).1
    obtain ⟨hcounted, hclosed, hbit, hmaxBytes, hmaxCount, houtcome⟩ :=
      EventQueue.pushKind_cases s.runtime.events kind h.counted
    refine ⟨hcounted, hmaxBytes.trans h.maxBytes, hmaxCount.trans h.maxCount,
      hlate id (fun hp => absurd hp (by simp [hl])), ?_, ?_⟩
    · rw [haccepted]
      rcases houtcome with ⟨hnone, hnext⟩ | ⟨hsome, hnext⟩
      · rw [hnone, Option.toList_none, List.append_nil]
        exact h.sequences.next hnext
      · rw [hsome, Option.toList_some]
        exact hnext ▸ h.sequences.append rfl
    · -- before the end the event is an ordinary one; after it nothing is accepted
      refine h.phase.keep rfl (hsame (hpending'.trans hpending.symm)) hbit hclosed ?_ ?_
      · intro event hmem
        rw [haccepted] at hmem
        refine (List.mem_append.mp hmem).imp_right fun hmem => ?_
        rcases houtcome with ⟨hnone, -⟩ | ⟨hsome, -⟩
        · rw [hnone] at hmem
          cases hmem
        · rw [hsome] at hmem
          obtain rfl := List.mem_singleton.mp hmem
          exact hkind
      · intro hterminal
        have hrefused := EventQueue.pushKind_terminal kind hterminal
        rw [hrefused] at haccepted hreturned ⊢
        exact ⟨haccepted.trans (List.append_nil _), fun _ => .imp_right fun hmem => hreturned ▸ hmem⟩
  | @publishes kind _ _ hkind hpending hsize hpending' hnoted =>
    obtain ⟨hs, hothers, hterminal, hopen, hordinary⟩ :=
      h.phase.of_pending (hpending.trans_ne (Option.some_ne_none _))
    -- the event fits: an exit by the condition on the step, the others by the limits
    have hfits : eventSize kind ≤ s.runtime.events.maxBytes := by
      rw [h.maxBytes]
      by_cases hexit : ∃ status, s.place thread = .publishingExit status
      · obtain ⟨status, hexit⟩ := hexit
        rw [hexit] at hpending
        obtain rfl := Option.some_inj.mp hpending
        exact hok.exit status hexit
      · rw [hsize fun status hstatus => hexit ⟨status, hstatus⟩]
        exact hbytes
    obtain ⟨kept, -, hpush⟩ := EventQueue.pushTerminal_accepts h.counted hterminal hopen hfits
      (h.maxCount ▸ hcount)
    have haccepted := accepted_concat trace thread answer (s.runtime.events.pushTerminal kind).1
    rw [← hnoted] at haccepted
    rw [hpush] at haccepted ⊢
    refine ⟨?_, h.maxBytes, h.maxCount, hlate id (fun _ => hs), ?_, ?_⟩
    · rw [EventQueue.Counted]
      simp [EventQueue.nextEvent]
    · rw [haccepted]
      exact h.sequences.append rfl
    · have hends {after : Session}
          (hqueued : s.runtime.events.nextEvent kind ∈ after.runtime.events.queue) :
          EndsWith (trace ++ [(thread, answer, noted)]) after (accepted trace)
            (s.runtime.events.nextEvent kind) :=
        ⟨haccepted, hkind, hordinary, h.sequences, .inl hqueued⟩
      exact .reported hs (fun u => hnothing u hpending' (hothers u)) rfl (hends (by simp))
  | closes hcloses hpending hl =>
    have hnone := hok.close hcloses
    have hs := h.late thread (Place.late_of_closes hcloses)
    refine ⟨h.counted, h.maxBytes, h.maxCount, hlate id (fun _ => hs), ?_, ?_⟩
    · rw [accepted_silent]
      exact h.sequences
    · -- the event is in the queue already
      rcases h.phase with ⟨hrunning, -⟩ | ⟨owner, -, howner, -⟩ | ⟨-, -, hterminal, hends⟩
      · rw [hs] at hrunning
        cases hrunning
      · exact absurd (hnone owner) howner
      · refine .reported hs (fun u => hnothing u hpending fun _ => hnone u) hterminal
          (hends.of_same (accepted_silent ..) ?_)
        rw [returned_silent]
        exact id
  | @receives event events _ hrecv hpending hpending' hl =>
    obtain ⟨hqueue, hevents⟩ := EventQueue.recv_eq_some hrecv
    have hframe : events.maxBytes = s.runtime.events.maxBytes ∧
        events.maxCount = s.runtime.events.maxCount ∧
        events.nextSequence = s.runtime.events.nextSequence ∧
        events.terminal = s.runtime.events.terminal ∧ events.closed = s.runtime.events.closed := by
      rw [hevents]
      exact ⟨rfl, rfl, rfl, rfl, rfl⟩
    obtain ⟨hmaxBytes, hmaxCount, hnext, hbit, hclosed⟩ := hframe
    refine ⟨h.counted.recv hrecv, hmaxBytes.trans h.maxBytes, hmaxCount.trans h.maxCount,
      hlate id (fun hp => absurd hp (by simp [hl])), ?_, ?_⟩
    · rw [accepted_returned]
      exact hnext ▸ h.sequences
    · refine h.phase.keep rfl (hsame (hpending'.trans hpending.symm)) hbit hclosed ?_ ?_
      · rw [accepted_returned]
        exact fun _ hmem => Or.inl hmem
      · refine fun _ => ⟨accepted_returned .., fun other => ?_⟩
        rw [returned_returned, hqueue, List.mem_cons, List.mem_append, List.mem_singleton]
        rintro ((rfl | hmem) | hmem)
        · exact .inr (.inr rfl)
        · exact .inl hmem
        · exact .inr (.inl hmem)

lemma advance_of_closes {r r' : TerminalRuntime} {p p' : Place} {answer : Answer}
    {noted : Option Noted} (hp : p.closes = true) (h : advance r p answer = some (r', p', noted)) :
    r' = { r with events := r.events.close } ∧ noted = none := by
  have hnothing : answer = .nothing := by
    cases p <;> first | (cases hp; done) | (cases answer <;> first | rfl | cases h)
  subst hnothing
  cases p with
  | closingExit | closingFail | closingQueue =>
    simp only [advance, readerStep, writerStep, resizeStep, childStep, failStep, callStep, goTo,
      Option.none_or, Option.some_or, Option.some.injEq, Prod.mk.injEq] at h
    exact ⟨h.1.symm, h.2.2.symm⟩
  | _ => cases hp

lemma advance_publishingExit {r r' : TerminalRuntime} {p' : Place} {answer : Answer}
    {noted : Option Noted} {status : ExitStatus}
    (h : advance r (.publishingExit status) answer = some (r', p', noted)) :
    r' = { r with events := (r.events.pushTerminal (.exited status)).2 } ∧
      noted = (r.events.pushTerminal (.exited status)).1.map .accepted := by
  have hnothing : answer = .nothing := by
    cases answer <;> first | rfl | cases h
  subst hnothing
  simp only [advance, readerStep, writerStep, resizeStep, childStep, failStep, callStep,
    Option.none_or, Option.or_none] at h
  obtain ⟨hr', hnoted, -⟩ := pushed_eq_some h
  exact ⟨hr', hnoted⟩

/-- **Any other step loses the end.** -/
theorem Tracked.losesNoEnd (h : Tracked limits trace s) (hstep : s.Step action s')
    (hreported : Reported (trace ++ [action]) s') : LosesNoEnd limits s action.1 := by
  obtain ⟨thread, answer, noted⟩ := action
  obtain ⟨⟨r', p', noted'⟩, hadvance, hrest⟩ := Option.bind_eq_some_iff.mp hstep
  dsimp only at hadvance hrest ⊢
  split_ifs at hrest with hnoted
  obtain rfl := Option.some_inj.mp hrest
  subst hnoted
  -- while the right is taken no terminal event has been accepted
  have hlost (thread' : Thread) (hpending : (s.place thread').pending ≠ none)
      (hclosed : r'.events.closed = true)
      (hnone : accepted (trace ++ [(thread, answer, noted')]) = accepted trace) : False := by
    obtain ⟨event, hmem, hterminal⟩ := hreported.closed hclosed
    rw [hnone] at hmem
    obtain ⟨-, -, -, -, hordinary⟩ := h.phase.of_pending hpending
    rw [hordinary event hmem] at hterminal
    cases hterminal
  constructor
  · intro hcloses other
    by_contra hpending
    obtain ⟨rfl, rfl⟩ := advance_of_closes hcloses hadvance
    exact hlost other hpending rfl (accepted_silent ..)
  · intro status hplace
    have hpending : (s.place thread).pending ≠ none := by
      rw [hplace]
      exact Option.some_ne_none _
    obtain ⟨-, -, hterminal, hopen, -⟩ := h.phase.of_pending hpending
    by_contra hlarge
    rw [hplace] at hadvance
    obtain ⟨rfl, rfl⟩ := advance_publishingExit hadvance
    obtain ⟨hnone, hclosed⟩ := EventQueue.pushTerminal_refuses hterminal hopen
      (show s.runtime.events.maxBytes < eventSize (.exited status) by rw [h.maxBytes]; omega)
    refine hlost thread hpending hclosed ?_
    rw [hnone]
    simpa using accepted_concat trace thread answer none

end Steps

/-! ## The end of every run -/

/-- **When the end is reported.**  All along the runs of a session the end is reported exactly when
every step loses no end. -/
theorem end_reported_iff {limits checked : TerminalLimits} (hvalid : limits.validate = .ok checked)
    (sessionId : ℕ) (trace : List Action) :
    (∀ pre s, pre <+: trace → Run Session.Step (Session.spawn sessionId checked) pre s →
        Reported pre s) ↔
      ∀ pre s action s', pre ++ [action] <+: trace →
        Run Session.Step (Session.spawn sessionId checked) pre s → s.Step action s' →
        LosesNoEnd checked s action.1 := by
  obtain ⟨rfl, hbytes, hcount⟩ := TerminalLimits.bounds hvalid
  exact Run.property_iff (tracked_spawn sessionId checked)
    (fun h hstep hok => h.step hbytes hcount hstep hok) (fun h => h.reported)
    (fun h hstep hreported => h.losesNoEnd hstep hreported) trace

/-- The reader has taken the right to publish its error; the failing child closes the queue before. -/
def lostEnd : List Action :=
  [(.reader, .readError false, none), (.reader, .nothing, none), (.reader, .nothing, none),
    (.reader, .nothing, none),
    (.child, .childError, none), (.child, .nothing, none), (.child, .nothing, none),
    (.child, .nothing, none),
    (.reader, .nothing, none), (.reader, .nothing, none), (.reader, .nothing, none),
    (.reader, .nothing, none), (.reader, .nothing, none),
    (.writer, .nothing, none), (.resize, .nothing, none)]

/-- The statement at the limits of the program and this run. -/
theorem end_reported_iff_default : TerminalLimits.default.validate = .ok .default ∧
    ((∀ pre s, pre <+: lostEnd → Run Session.Step (Session.spawn 1 .default) pre s →
        Reported pre s) ↔
      ∀ pre s action s', pre ++ [action] <+: lostEnd →
        Run Session.Step (Session.spawn 1 .default) pre s → s.Step action s' →
        LosesNoEnd .default s action.1) :=
  ⟨rfl, end_reported_iff (rfl : TerminalLimits.default.validate = _) 1 lostEnd⟩

/-- **An end that is not reported**, although all threads have come back. -/
theorem end_lost : ∃ s, TerminalLimits.default.validate = .ok .default ∧
    Run Session.Step (Session.spawn 1 .default) lostEnd s ∧
    s.runtime.lifecycle.terminalSent = true ∧ (∀ thread, (s.place thread).returned = true) ∧
    accepted lostEnd = [] ∧ ¬ Reported lostEnd s := by
  obtain ⟨s, hs⟩ : ∃ s, lostEnd.foldlM Session.after? (Session.spawn 1 .default) = some s :=
    Option.isSome_iff_exists.mp rfl
  have hread {α : Type} (f : Session → α) {x : α}
      (h : (lostEnd.foldlM Session.after? (Session.spawn 1 .default)).map f = some x) :
      f s = x := by
    rw [hs] at h
    exact Option.some_inj.mp h
  have hsent : s.runtime.lifecycle.terminalSent = true := hread (·.runtime.lifecycle.terminalSent) rfl
  have hreturned : ∀ thread, (s.place thread).returned = true
    | .reader => hread (fun s => (s.place .reader).returned) rfl
    | .writer => hread (fun s => (s.place .writer).returned) rfl
    | .resize => hread (fun s => (s.place .resize).returned) rfl
    | .child => hread (fun s => (s.place .child).returned) rfl
    | .caller n => hread (fun s => (s.place (.caller n)).returned) rfl
  have haccepted : accepted lostEnd = [] := rfl
  refine ⟨s, rfl, Run.of_foldlM hs fun _ _ _ _ h => h, hsent, hreturned, haccepted, fun h => ?_⟩
  obtain ⟨earlier, event, hends⟩ := h.ended hsent hreturned
  have hhistory := hends.history
  rw [haccepted] at hhistory
  simp at hhistory

end JaDesktop.Terminal
