import JaDesktop.Bridge.ApprovalHiding
import JaDesktop.Bridge.ApprovalsOnce
import JaDesktop.Host.EventRouting
import JaDesktop.Host.EventTallies
import JaDesktop.Lib.Runs

/-!
# The barrier between a prompt and its request

The sidecar writes the notification of an approval before the request for it.  The reader of the
session puts both into the event queue, the worker takes them out, and for a request it waits until
the actor has registered it.  The queue serves requests before notifications, but only what is
there when the worker comes.

The reader, the worker and the actor take atomic steps in any order; what the actor does beside the
registrations is any call of `Approvals.ApprovalAction`.  `approval_shown_after_request_iff` says in
which runs the barrier holds: when no notification is taken before the request has left the queue.
-/

namespace JaDesktop.Bridge

open Host (SerdeJson RpcFrame SessionEvent EventQueue EventQueueState EventPriority QueueKind
  notificationRouting queuedTally)
open Approvals (Correlation Sweep ApprovalAction registerApprovalRequest)

/-! ## The system -/

/-- What a round of the worker meets. -/
structure Meeting where
  /-- The generation is current when the worker asks for an event. -/
  before : Bool
  /-- It still is when the event is there. -/
  current : Bool
  delivers : Bool
  queued : Bool
  /-- The actor answers within the limit. -/
  inTime : Bool
  client : Bool
  sweep : Sweep

/-- The queue, the worker, the actor, and the requests that the reader has dispatched. -/
structure BarrierState where
  queue : EventQueueState
  worker : DrainState
  actor : Correlation
  dispatched : Multiset RpcFrame

/-- The atomic steps. -/
inductive BarrierAction
  | notification (frame : RpcFrame)
  | serverRequest (frame : RpcFrame)
  | other (event : SessionEvent) (priority : EventPriority) (kind : QueueKind)
  | round (meets : Meeting)
  | actor (action : ApprovalAction)

/-- The request in an event. -/
def requestIn : SessionEvent → Multiset RpcFrame
  | .serverRequest frame => {frame}
  | _ => 0

/-- The event is neither a request nor a notification. -/
def isInternal : SessionEvent → Bool
  | .serverRequest _ | .notification _ => false
  | _ => true

/-- Is this the request for an approval? -/
def asksApproval (event : SessionEvent) : Bool :=
  match event with
  | .serverRequest frame => frame.method = some "approval/request"
  | _ => false

namespace BarrierState

/-- A session at its start. -/
def initial (generation : ℕ) : BarrierState :=
  ⟨.empty, .initial, ⟨some (.start generation), []⟩, 0⟩

variable (S : SerdeJson) (q : EventQueue) (context : EventDrainContext) (generation : ℕ)
variable (s : BarrierState)

variable (meets : Meeting)

/-- The answer of the actor to the request for an approval. -/
def accepts (event : SessionEvent) : Bool :=
  match event, s.actor.runtime with
  | .serverRequest frame, some current =>
    current.generation = generation && (registerApprovalRequest meets.client frame current).1
  | _, _ => false

/-- The actor, after the worker has handed it an event. -/
def handled (event : SessionEvent) : Correlation :=
  match event with
  | .serverRequest frame =>
    if frame.method = some "approval/request" && meets.current && meets.queued && meets.inTime then
      s.actor.after
        (.signal meets.sweep meets.client meets.client (.approvalRequest generation frame))
    else s.actor
  | _ => s.actor

/-- A round of the worker, as the loop sees it. -/
def roundOf (event : SessionEvent) : Round :=
  ⟨event, meets.current, meets.delivers, meets.queued,
    if meets.inTime then some (s.accepts generation meets event) else none⟩

/-- Take an event from the queue, and dispatch it. -/
def round : BarrierState :=
  if !s.worker.running then s
  else if !meets.before then { s with worker := s.worker.stop [] }
  else
    match (q.pop S s.queue).1 with
    | none => { s with queue := (q.pop S s.queue).2.1 }
    | some event =>
      { s with
        queue := (q.pop S s.queue).2.1
        worker := s.worker.after context (s.roundOf generation meets event)
        actor := s.handled generation meets event }

/-- One step. -/
def after : BarrierAction → BarrierState
  | .notification frame =>
    { s with queue := (q.push S s.queue (.notification frame) (notificationRouting frame).1
        (notificationRouting frame).2).1 }
  | .serverRequest frame =>
    { s with
      queue := (q.push S s.queue (.serverRequest frame) .control .control).1
      dispatched := {frame} + s.dispatched }
  | .other event priority kind =>
    if isInternal event then { s with queue := (q.push S s.queue event priority kind).1 } else s
  | .round meets => s.round S q context generation meets
  | .actor action => { s with actor := s.actor.after action }

/-- The state after some steps. -/
def reached (actions : List BarrierAction) : BarrierState :=
  actions.foldl (after S q context generation) (initial generation)

end BarrierState

/-! ## What the barrier is for -/

/-- The notification of an approval comes after the answer of the actor to its request. -/
def Timely (past : List DrainEffect) : DrainEffect → Prop
  | .emitted notice => notice.method = some "approval/requested" →
    ∀ approvalId, noticedApproval notice = some approvalId →
      ∃ request accepted, .requested request accepted ∈ past ∧
        requestedApproval request = some approvalId
  | _ => True

/-- The notification of an approval that a round shows. -/
def DrainState.shows (context : EventDrainContext) (s : DrainState) (round : Round) :
    Option RpcFrame :=
  if s.running && round.current && round.delivers && !s.suppress then round.notice context
  else none

namespace BarrierState

variable (S : SerdeJson) (q : EventQueue) (context : EventDrainContext) (generation : ℕ)
variable (s : BarrierState)

/-- Every prompt was shown after the actor had its request. -/
def ShownAfterRequest : Prop := Justified Timely s.worker.effects

/-- A request for this approval was dispatched and is not in the queue any more. -/
def RequestLeft (approvalId : String) : Prop :=
  ∃ request : RpcFrame, request.method = some "approval/request" ∧
    requestedApproval request = some approvalId ∧
    (queuedTally requestIn s.queue).count request < s.dispatched.count request

/-- The round does not take a prompt from the queue while the request for its approval is still to
be dispatched, or waits in the queue. -/
def OnTime : BarrierAction → Prop
  | .round meets => ∀ event, meets.before = true → (q.pop S s.queue).1 = some event →
    ∀ notice, s.worker.shows context (s.roundOf generation meets event) = some notice →
      ∀ approvalId, noticedApproval notice = some approvalId → s.RequestLeft approvalId
  | _ => True

end BarrierState

/-! ## The worker -/

/-- The requests for approvals that the actor has answered. -/
def answered (effects : List DrainEffect) : Multiset RpcFrame :=
  (effects.filterMap fun effect =>
    match effect with
    | .requested frame _ => some frame
    | _ => none : List RpcFrame)

@[simp] lemma answered_append (effects more : List DrainEffect) :
    answered (effects ++ more) = answered effects + answered more := by
  simp [answered]

lemma mem_answered {effects : List DrainEffect} {request : RpcFrame} :
    request ∈ answered effects ↔ ∃ accepted, .requested request accepted ∈ effects := by
  rw [answered, Multiset.mem_coe, List.mem_filterMap]
  constructor
  · rintro ⟨effect, hmem, heffect⟩
    cases effect with
    | requested frame accepted =>
      obtain rfl := Option.some.inj heffect
      exact ⟨accepted, hmem⟩
    | _ => cases heffect
  · rintro ⟨accepted, hmem⟩
    exact ⟨_, hmem, rfl⟩

section Worker

variable {context : EventDrainContext} {s : DrainState} {round : Round}

/-- What a round does: it withholds a prompt, shows one, notes an answer of the actor, or does
something that does not concern approvals and goes on or stops. -/
inductive Outcome (context : EventDrainContext) (s : DrainState) (round : Round) :
    DrainState → Prop
  | withholds (frame : RpcFrame) (hshows : s.shows context round = none)
      (hasks : asksApproval round.event = false) :
      Outcome context s round { s.proceed [.withheld frame] with suppress := false }
  | shows (frame : RpcFrame) (hshows : s.shows context round = some frame)
      (hasks : asksApproval round.event = false)  :
      Outcome context s round (s.proceed [.emitted frame])
  | asks (frame : RpcFrame) (accepted suppress : Bool) (hshows : s.shows context round = none)
      (hevent : round.event = .serverRequest frame)
      (hmethod : frame.method = some "approval/request") :
      Outcome context s round { s.proceed [.requested frame accepted] with suppress := suppress }
  | goes (effects : List DrainEffect) (hshows : s.shows context round = none)
      (hasks : asksApproval round.event = false)
      (heffects : ∀ effect ∈ effects, effect.concernsApproval = false) :
      Outcome context s round (s.proceed effects)
  | stops (effects : List DrainEffect) (hshows : s.shows context round = none)
      (heffects : ∀ effect ∈ effects, effect.concernsApproval = false) :
      Outcome context s round (s.stop effects)

lemma shows_of_notice_none (h : round.notice context = none) : s.shows context round = none := by
  simp [DrainState.shows, h]

lemma Outcome.same (hshows : s.shows context round = none)
    (hasks : asksApproval round.event = false) : Outcome context s round s := by
  have h : Outcome context s round (s.proceed []) := .goes [] hshows hasks (by simp)
  simpa [DrainState.proceed] using h

lemma outcome_notification {frame : RpcFrame} (hs : s.running = true)
    (hcurrent : round.current = true) (hevent : round.event = .notification frame) :
    Outcome context s round (s.notification context round frame) := by
  have hasks : asksApproval round.event = false := by rw [hevent]; rfl
  have hnotice : round.notice context =
      if notificationMatchesIdentity frame context.serverInstanceId &&
        frame.method = some "approval/requested" then some frame else none := by
    rw [Round.notice, hevent]
  unfold DrainState.notification
  split
  · next hmatch =>
    have hnone : round.notice context = none := by
      simp [hnotice, (Bool.not_eq_true' _).mp hmatch]
    exact Outcome.same (shows_of_notice_none hnone) hasks
  next hmatch =>
  split
  · next hsuppress =>
    have hset : s.suppress = true := (Bool.and_eq_true_iff.mp hsuppress).1
    exact .withholds frame (by simp [DrainState.shows, hset]) hasks
  next hsuppress =>
  split
  · next hdelivers =>
    exact .stops _ (by simp [DrainState.shows, (Bool.not_eq_true' _).mp hdelivers])
      (by simp [DrainEffect.concernsApproval])
  next hdelivers =>
  by_cases hmethod : frame.method = some "approval/requested"
  · -- The notification of an approval does not end a turn.
    have hterminal : terminalTurnIdentity frame = none := by
      rw [terminalTurnIdentity, if_pos (by simp [hmethod])]
    have hshows : s.shows context round = some frame := by
      simp only [hmethod, decide_true, Bool.and_true, Bool.not_eq_true] at hsuppress
      simp only [Bool.not_eq_true', Bool.not_eq_false] at hmatch hdelivers
      simp [DrainState.shows, hs, hcurrent, hdelivers, hsuppress, hnotice, hmatch, hmethod]
    rw [DrainState.queueTurnTerminal, hterminal]
    exact .shows frame hshows hasks
  · have hshows : s.shows context round = none :=
      shows_of_notice_none (by simp [hnotice, hmethod])
    unfold DrainState.queueTurnTerminal
    split
    · exact .goes _ hshows hasks (by simp [DrainEffect.concernsApproval, hmethod])
    · split
      · exact .goes _ hshows hasks (by simp [DrainEffect.concernsApproval, hmethod])
      · exact .stops _ hshows (by simp [DrainEffect.concernsApproval, hmethod])

lemma outcome_serverRequest {frame : RpcFrame} (hevent : round.event = .serverRequest frame) :
    Outcome context s round (s.serverRequest round frame) := by
  have hshows : s.shows context round = none :=
    shows_of_notice_none (by rw [Round.notice, hevent])
  unfold DrainState.serverRequest
  split
  · exact .stops _ hshows (by simp [DrainEffect.concernsApproval])
  split
  · next hmethod =>
    split
    · exact .asks frame true s.suppress hshows hevent hmethod
    · exact .asks frame false true hshows hevent hmethod
    · exact .stops _ hshows (by simp [DrainEffect.concernsApproval])
  · next hmethod =>
    exact .goes _ hshows (by simp [hevent, asksApproval, hmethod])
      (by simp [DrainEffect.concernsApproval])

lemma outcome_after (context : EventDrainContext) (round : Round) (hs : s.running = true) :
    Outcome context s round (s.after context round) := by
  unfold DrainState.after
  rw [if_neg (by simp [hs])]
  split
  · next hcurrent =>
    exact .stops [] (by simp [DrainState.shows, (Bool.not_eq_true' _).mp hcurrent]) (by simp)
  next hcurrent =>
  have hcurrent : round.current = true := by simpa using hcurrent
  have hquiet : (∀ frame, round.event ≠ .notification frame) → s.shows context round = none := by
    intro hother
    apply shows_of_notice_none
    unfold Round.notice
    split
    · next frame hevent => exact absurd hevent (hother frame)
    · rfl
  unfold DrainState.dispatch
  split
  · next frame hevent => exact outcome_notification hs hcurrent hevent
  · next frame hevent => exact outcome_serverRequest hevent
  all_goals
    next hevent =>
    have hshows := hquiet (by simp [hevent])
    have hasks : asksApproval round.event = false := by rw [hevent]; rfl
    first
    | exact Outcome.same hshows hasks
    | exact .stops _ hshows (by simp [DrainEffect.concernsApproval])
    | split
      · exact .goes _ hshows hasks (by simp [DrainEffect.concernsApproval])
      · exact .stops _ hshows (by simp [DrainEffect.concernsApproval])
    | split
      · exact .stops _ hshows (by simp [DrainEffect.concernsApproval])
      · exact Outcome.same hshows hasks

variable {s' : DrainState}

lemma answered_unconcerned {effects : List DrainEffect}
    (h : ∀ effect ∈ effects, effect.concernsApproval = false) : answered effects = 0 := by
  rw [Multiset.eq_zero_iff_forall_notMem]
  intro request hmem
  obtain ⟨accepted, hrequested⟩ := mem_answered.mp hmem
  have hconcerns := h _ hrequested
  cases hconcerns

/-- While the loop goes on, an answer is noted for each request that it takes. -/
lemma Outcome.answered (h : Outcome context s round s') (hs : s'.running = true) :
    Bridge.answered s'.effects =
      (if asksApproval round.event then requestIn round.event else 0) +
        Bridge.answered s.effects := by
  cases h with
  | withholds frame hshows hasks => simp [DrainState.proceed, hasks, Bridge.answered]
  | shows frame hshows hasks => simp [DrainState.proceed, hasks, Bridge.answered]
  | asks frame accepted suppress hshows hevent hmethod =>
    have hone : Bridge.answered [.requested frame accepted] = {frame} := rfl
    simp [DrainState.proceed, hevent, asksApproval, hmethod, requestIn, hone, add_comm]
  | goes effects hshows hasks heffects =>
    simp [DrainState.proceed, hasks, answered_unconcerned heffects]
  | stops effects hshows heffects => cases hs

lemma Outcome.methods (h : Outcome context s round s')
    (hmethods : ∀ request accepted, .requested request accepted ∈ s.effects →
      request.method = some "approval/request") {request : RpcFrame} {accepted : Bool}
    (hmem : .requested request accepted ∈ s'.effects) :
    request.method = some "approval/request" := by
  cases h with
  | withholds frame => exact hmethods request accepted (by simpa [DrainState.proceed] using hmem)
  | shows frame => exact hmethods request accepted (by simpa [DrainState.proceed] using hmem)
  | asks frame answer suppress hshows hevent hmethod =>
    simp only [DrainState.proceed, List.mem_append, List.mem_singleton,
      DrainEffect.requested.injEq] at hmem
    rcases hmem with hold | ⟨rfl, -⟩
    · exact hmethods request accepted hold
    · exact hmethod
  | goes effects hshows hasks heffects =>
    rcases List.mem_append.mp hmem with hold | hnew
    · exact hmethods request accepted hold
    · cases heffects _ hnew
  | stops effects hshows heffects =>
    rcases List.mem_append.mp hmem with hold | hnew
    · exact hmethods request accepted hold
    · cases heffects _ hnew

lemma timely_unconcerned {effect : DrainEffect} (h : effect.concernsApproval = false)
    (past : List DrainEffect) : Timely past effect := by
  cases effect with
  | emitted frame =>
    intro hmethod
    simp [DrainEffect.concernsApproval, hmethod] at h
  | _ => trivial

/-- The only effect of a round that can come too early is the prompt it shows. -/
lemma Outcome.timely_iff (h : Outcome context s round s') :
    Justified Timely s'.effects ↔ Justified Timely s.effects ∧
      ∀ notice, s.shows context round = some notice → Timely s.effects (.emitted notice) := by
  cases h with
  | withholds frame hshows =>
    simp only [DrainState.proceed, Justified.snoc_iff, hshows]
    simp [Timely]
  | shows frame hshows =>
    simp only [DrainState.proceed, Justified.snoc_iff, hshows, Option.some.injEq, forall_eq']
  | asks frame answer suppress hshows hevent hmethod =>
    simp only [DrainState.proceed, Justified.snoc_iff, hshows]
    simp [Timely]
  | goes effects hshows hasks heffects =>
    have heffects' := fun effect hmem => timely_unconcerned (heffects effect hmem)
    simp [DrainState.proceed, Justified.append_iff heffects', hshows]
  | stops effects hshows heffects =>
    have heffects' := fun effect hmem => timely_unconcerned (heffects effect hmem)
    simp [DrainState.stop, DrainState.proceed, Justified.append_iff heffects', hshows]

lemma stops_of_fatal {kind : QueueKind} (hevent : round.event = .queueFatalOverflow kind) :
    (s.after context round).running = false := by
  unfold DrainState.after
  split
  · next hs => simpa using hs
  split
  · rfl
  · rw [DrainState.dispatch, hevent]
    rfl

end Worker

/-! ## The queue -/

section Queue

variable {S : SerdeJson} {q : EventQueue} {t : EventQueueState}

lemma marks_popLanes (t : EventQueueState) : (q.popLanes S t).2.1.fatal = t.fatal ∧
    (q.popLanes S t).2.1.fatalReported = t.fatalReported := by
  unfold EventQueue.popLanes
  split <;> exact ⟨rfl, rfl⟩

lemma pop_of_fatal {kind : QueueKind} (hfatal : t.fatal = some kind)
    (hreported : t.fatalReported = false) :
    (q.pop S t).1 = some (.queueFatalOverflow kind) := by
  simp [EventQueue.pop, hfatal, hreported]

lemma pop_of_none (hfatal : t.fatal = none) : q.pop S t = q.popLanes S t := by
  simp [EventQueue.pop, hfatal]

lemma fatalReported_push (event : SessionEvent) (priority : EventPriority) (kind : QueueKind) :
    (q.push S t event priority kind).1.fatalReported = t.fatalReported := by
  unfold EventQueue.push
  split_ifs
  · cases priority with
    | control => rfl
    | data =>
      simp only [EventQueue.rejectData]
      split_ifs <;> rfl
  · simp only [EventQueue.accept]
    split_ifs
    · rfl
    · cases priority <;> rfl

lemma fatal_of_push_none {event : SessionEvent} {priority : EventPriority} {kind : QueueKind}
    (h : (q.push S t event priority kind).1.fatal = none) : t.fatal = none := by
  by_contra hfatal
  have hsome : t.fatal.isSome = true := Option.isSome_iff_ne_none.mpr hfatal
  have hafter := Host.RoutingState.fatal_push (S := S) (q := q) hsome event priority kind
  rw [h] at hafter
  cases hafter

end Queue

/-! ## The invariant -/

namespace BarrierState

variable {S : SerdeJson} {q : EventQueue} {context : EventDrainContext} {generation : ℕ}
variable {s : BarrierState}

/-- While the worker runs, each request for an approval that was dispatched waits in the queue or
was answered, unless the queue is marked. -/
structure Tracked (s : BarrierState) : Prop where
  methods : ∀ request accepted, .requested request accepted ∈ s.worker.effects →
    request.method = some "approval/request"
  unreported : s.worker.running = true → s.queue.fatalReported = false
  counts : s.worker.running = true → s.queue.fatal = none → ∀ request : RpcFrame,
    request.method = some "approval/request" →
    s.dispatched.count request =
      (queuedTally requestIn s.queue).count request + (answered s.worker.effects).count request

lemma tracked_initial (generation : ℕ) : Tracked (initial generation) where
  methods := by simp [initial, DrainState.initial]
  unreported _ := rfl
  counts _ _ request _ := rfl

lemma Tracked.push (h : Tracked s) {event : SessionEvent} (hevent : requestIn event = 0)
    (priority : EventPriority) (kind : QueueKind) :
    Tracked { s with queue := (q.push S s.queue event priority kind).1 } where
  methods := h.methods
  unreported hrunning := by
    rw [fatalReported_push]
    exact h.unreported hrunning
  counts hrunning hfatal request hmethod := by
    rw [Host.queuedTally_push_other (fun _ => rfl) hevent]
    exact h.counts hrunning (fatal_of_push_none hfatal) request hmethod

lemma Tracked.pushRequest (h : Tracked s) (frame : RpcFrame) :
    Tracked { s with
      queue := (q.push S s.queue (.serverRequest frame) .control .control).1
      dispatched := {frame} + s.dispatched } where
  methods := h.methods
  unreported hrunning := by
    rw [fatalReported_push]
    exact h.unreported hrunning
  counts hrunning hfatal request hmethod := by
    rcases Host.queuedTally_push_request requestIn S q s.queue frame with htaken | ⟨-, hmarked⟩
    · have hcount := h.counts hrunning (fatal_of_push_none hfatal) request hmethod
      show ({frame} + s.dispatched).count request = _ + (answered s.worker.effects).count request
      rw [htaken, Multiset.count_add, Multiset.count_add, hcount, requestIn]
      omega
    · rw [hfatal] at hmarked
      cases hmarked

lemma fatal_of_goes {meets : Meeting} {event : SessionEvent}
    (hunreported : s.queue.fatalReported = false) (hpop : (q.pop S s.queue).1 = some event)
    (hgoes : (s.worker.after context (s.roundOf generation meets event)).running = true) :
    s.queue.fatal = none := by
  cases hfatal : s.queue.fatal with
  | none => rfl
  | some kind =>
    rw [pop_of_fatal hfatal hunreported] at hpop
    obtain rfl := Option.some.inj hpop
    rw [stops_of_fatal rfl] at hgoes
    cases hgoes

lemma Tracked.round (h : Tracked s) (meets : Meeting) :
    Tracked (s.round S q context generation meets) := by
  unfold BarrierState.round
  split
  · exact h
  next hrunning =>
  have hrunning : s.worker.running = true := by simpa using hrunning
  split
  · constructor
    · simpa [DrainState.stop, DrainState.proceed] using h.methods
    · intro hstopped
      cases hstopped
    · intro hstopped
      cases hstopped
  have hunreported := h.unreported hrunning
  split
  · next hpop =>
    -- Nothing came, so there was no mark.
    have hfatal : s.queue.fatal = none := by
      cases hfatal : s.queue.fatal with
      | none => rfl
      | some kind =>
        rw [pop_of_fatal hfatal hunreported] at hpop
        cases hpop
    rw [pop_of_none hfatal] at hpop ⊢
    rcases EventQueue.popLanes_cases S q s.queue with ⟨event, hevent, -⟩ | ⟨-, hqueue⟩
    · rw [hpop] at hevent
      cases hevent
    · rw [hqueue]
      exact h
  · next event hpop =>
    have houtcome := outcome_after context (s.roundOf generation meets event) hrunning
    constructor
    · intro request accepted hmem
      exact houtcome.methods h.methods hmem
    · intro hgoes
      have hfatal := fatal_of_goes hunreported hpop hgoes
      show (q.pop S s.queue).2.1.fatalReported = false
      rw [pop_of_none hfatal, (marks_popLanes s.queue).2, hunreported]
    · intro hgoes hnofatal request hmethod
      have hfatal := fatal_of_goes hunreported hpop hgoes
      have hcount := h.counts hrunning hfatal request hmethod
      have hanswered := houtcome.answered hgoes
      have htally : queuedTally requestIn s.queue =
          requestIn event + queuedTally requestIn (q.pop S s.queue).2.1 := by
        rw [pop_of_none hfatal] at hpop ⊢
        rcases EventQueue.popLanes_cases S q s.queue with ⟨taken, htaken, htakes⟩ | ⟨hnone, -⟩
        · obtain rfl : taken = event := Option.some.inj (htaken.symm.trans hpop)
          exact Host.queuedTally_takes htakes
        · rw [hpop] at hnone
          cases hnone
      show s.dispatched.count request =
        (queuedTally requestIn (q.pop S s.queue).2.1).count request +
          (answered (s.worker.after context (s.roundOf generation meets event)).effects).count
            request
      rw [hanswered, hcount, htally, Multiset.count_add, Multiset.count_add]
      have hasked : (requestIn event).count request =
          (if asksApproval event then requestIn event else 0).count request := by
        cases event with
        | serverRequest frame =>
          by_cases hframe : frame.method = some "approval/request"
          · simp [asksApproval, hframe]
          · have hne : request ≠ frame := fun heq => hframe (heq ▸ hmethod)
            simp [asksApproval, requestIn, hframe, hne]
        | _ => rfl
      rw [hasked]
      show _ = _ + ((if asksApproval event then requestIn event else 0).count request + _)
      omega

lemma Tracked.after (h : Tracked s) (action : BarrierAction) :
    Tracked (s.after S q context generation action) := by
  cases action with
  | notification frame => exact h.push rfl _ _
  | serverRequest frame => exact h.pushRequest frame
  | other event priority kind =>
    rw [BarrierState.after]
    split
    · next hinternal =>
      refine h.push ?_ priority kind
      cases event with
      | serverRequest frame => cases hinternal
      | _ => rfl
    · exact h
  | round meets => exact h.round meets
  | actor action => exact ⟨h.methods, h.unreported, h.counts⟩

/-- A request that has left the queue while the worker runs was answered, and conversely. -/
lemma Tracked.requestLeft_iff (h : Tracked s) (hrunning : s.worker.running = true)
    (hfatal : s.queue.fatal = none) {approvalId : String} :
    s.RequestLeft approvalId ↔ ∃ request accepted,
      .requested request accepted ∈ s.worker.effects ∧
        requestedApproval request = some approvalId := by
  constructor
  · rintro ⟨request, hmethod, hid, hleft⟩
    have hcount := h.counts hrunning hfatal request hmethod
    have hpos : 0 < (answered s.worker.effects).count request := by omega
    obtain ⟨accepted, hmem⟩ := mem_answered.mp (Multiset.count_pos.mp hpos)
    exact ⟨request, accepted, hmem, hid⟩
  · rintro ⟨request, accepted, hmem, hid⟩
    have hmethod := h.methods request accepted hmem
    have hcount := h.counts hrunning hfatal request hmethod
    have hpos : 0 < (answered s.worker.effects).count request :=
      Multiset.count_pos.mpr (mem_answered.mpr ⟨accepted, hmem⟩)
    exact ⟨request, hmethod, hid, by omega⟩

lemma fatal_of_shows {meets : Meeting} {event : SessionEvent} {notice : RpcFrame} (h : Tracked s)
    (hrunning : s.worker.running = true) (hpop : (q.pop S s.queue).1 = some event)
    (hshows : s.worker.shows context (s.roundOf generation meets event) = some notice) :
    s.queue.fatal = none ∧ notice.method = some "approval/requested" := by
  unfold DrainState.shows at hshows
  split at hshows
  · obtain ⟨hevent, -, hmethod⟩ := Round.event_of_notice hshows
    have hevent : event = .notification notice := hevent
    refine ⟨?_, hmethod⟩
    cases hfatal : s.queue.fatal with
    | none => rfl
    | some kind =>
      rw [pop_of_fatal hfatal (h.unreported hrunning), hevent] at hpop
      cases hpop
  · cases hshows

lemma shown_after_iff (h : Tracked s) (hshown : s.ShownAfterRequest) (action : BarrierAction) :
    (s.after S q context generation action).ShownAfterRequest ↔
      s.OnTime S q context generation action := by
  cases action with
  | round meets =>
    show (s.round S q context generation meets).ShownAfterRequest ↔ _
    unfold BarrierState.round
    split
    · next hstopped =>
      refine iff_of_true hshown ?_
      intro event hbefore hpop notice hshows
      simp [DrainState.shows, (Bool.not_eq_true' _).mp hstopped] at hshows
    next hrunning =>
    have hrunning : s.worker.running = true := by simpa using hrunning
    split
    · next hbefore =>
      refine iff_of_true ?_ ?_
      · simpa [ShownAfterRequest, DrainState.stop, DrainState.proceed] using hshown
      · intro event hbefore'
        rw [hbefore'] at hbefore
        cases hbefore
    next hbefore =>
    split
    · next hpop =>
      refine iff_of_true hshown ?_
      intro event _ hevent
      rw [hpop] at hevent
      cases hevent
    · next event hpop =>
      have houtcome := outcome_after context (s.roundOf generation meets event) hrunning
      show Justified Timely _ ↔ _
      rw [houtcome.timely_iff]
      constructor
      · rintro ⟨-, htimely⟩ taken _ htaken notice hshows approvalId hid
        obtain rfl : event = taken := Option.some.inj (hpop.symm.trans htaken)
        obtain ⟨hfatal, hmethod⟩ := fatal_of_shows h hrunning hpop hshows
        exact (h.requestLeft_iff hrunning hfatal).mpr (htimely notice hshows hmethod approvalId hid)
      · intro hontime
        refine ⟨hshown, ?_⟩
        intro notice hshows hmethod approvalId hid
        have hleft := hontime event (by simpa using hbefore) hpop notice hshows approvalId hid
        have hfatal := (fatal_of_shows h hrunning hpop hshows).1
        exact (h.requestLeft_iff hrunning hfatal).mp hleft
  | notification frame => exact iff_of_true hshown trivial
  | serverRequest frame => exact iff_of_true hshown trivial
  | other event priority kind =>
    refine iff_of_true ?_ trivial
    rw [BarrierState.after]
    split <;> exact hshown
  | actor action => exact iff_of_true hshown trivial

lemma tracked_reached (actions : List BarrierAction) :
    Tracked (reached S q context generation actions) := by
  induction actions using List.reverseRecOn with
  | nil => exact tracked_initial generation
  | append_singleton actions action ih =>
    rw [reached, List.foldl_append]
    exact ih.after action

/-- The actor only does what `ApprovalAction` allows. -/
lemma invariant_actor (actions : List BarrierAction) :
    (reached S q context generation actions).actor.Invariant := by
  induction actions using List.reverseRecOn with
  | nil => exact Correlation.invariant_initial generation
  | append_singleton actions action ih =>
    rw [reached, List.foldl_append]
    have hhandled : ∀ meets event,
        ((reached S q context generation actions).handled generation meets event).Invariant := by
      intro meets event
      unfold BarrierState.handled
      split
      · split
        · exact ih.after _
        · exact ih
      · exact ih
    show (after S q context generation (reached S q context generation actions) action).actor.Invariant
    cases action with
    | round meets =>
      rw [BarrierState.after, BarrierState.round]
      split
      · exact ih
      split
      · exact ih
      split
      · exact ih
      · exact hhandled meets _
    | other event priority kind =>
      rw [BarrierState.after]
      split <;> exact ih
    | notification frame => exact ih
    | serverRequest frame => exact ih
    | actor action => exact ih.after action

/-- Everything is there in time. -/
def calmMeeting : Meeting := ⟨true, true, true, true, true, true, Correlation.calmSweep⟩

/-- The notification is written, and the worker takes it before the request is written. -/
def earlyActions : List BarrierAction := [.notification (noticeFrame "appr_1"), .round calmMeeting]

/-- The session after these steps. -/
def earlyState : BarrierState :=
  reached Host.compactSerde (.new 256 4194304) sampleContext 7 earlyActions

end BarrierState

end JaDesktop.Bridge
