import JaDesktop.Bridge.ApprovalRequest

/-!
# The worker that drains the events of a session

Each generation has one worker.  It takes the events of the session one by one, shows the
notifications to the window, and hands the requests of the sidecar to the actor.  For a request for
an approval it waits until the actor has answered whether the request was registered; when it was
refused, the worker does not show the next notification of an approval.

One round of the worker is `DrainState.after`.  What it meets outside is in `Round`: the event, the
test that the generation is still current, the window, the lane to the actor, and the actor.
-/

namespace JaDesktop.Bridge

open Host (Value Map RpcFrame SessionEvent)

/-! ## Frames -/

variable (frame : RpcFrame)

def notificationMatchesIdentity (expected : String) : Bool :=
  (frame.params.bind Value.asObject).any fun params =>
    textMember "serverInstanceId" params = some expected

/-- A member, or that of the object `turn`. -/
def turnMember (name : String) (params : Map) : Option Value :=
  (SortedMap.get name params).or
    (((SortedMap.get "turn" params).bind Value.asObject).bind (SortedMap.get name))

def terminalTurnIdentity : Option (String × String) := do
  if frame.method ≠ some "turn/completed" then none
  else
    let params ← frame.params.bind Value.asObject
    let threadId ← ((turnMember "threadId" params).bind Value.asStr).filter fun value =>
      (asBytes "thr_").isPrefixOf (asBytes value) && validId value 128
    let turnId ← ((turnMember "turnId" params).bind Value.asStr).filter fun value =>
      (asBytes "turn_").isPrefixOf (asBytes value) && validId value 128
    return (threadId, turnId)

/-- The approval that a request of the sidecar asks for. -/
def requestedApproval : Option String :=
  (frame.params.bind Value.asObject).bind (textMember "approvalId")

/-- The approval that a notification shows. -/
def noticedApproval : Option String :=
  ((frame.params.bind Value.asObject).bind fun params =>
    (SortedMap.get "approval" params).bind Value.asObject).bind (textMember "approvalId")

/-- A request and a notification of one approval. -/
def SameApproval (request notice : RpcFrame) : Prop :=
  ∃ approvalId, requestedApproval request = some approvalId ∧
    noticedApproval notice = some approvalId

/-! ## The loop -/

/-- The reasons of a terminal fault. -/
inductive TerminalReason
  | sidecar
  | serverRequestQueue
  | eventDelivery
deriving DecidableEq

/-- What a worker does, in order. -/
inductive DrainEffect
  | emitted (frame : RpcFrame)
  | withheld (frame : RpcFrame)
  | requested (frame : RpcFrame) (accepted : Bool)
  | turnTerminal (threadId turnId : String)
  | serverRequest (frame : RpcFrame)
  | busy
  | fault (reason : TerminalReason)
deriving DecidableEq

/-- The effects that concern approvals. -/
def DrainEffect.concernsApproval : DrainEffect → Bool
  | .withheld _ | .requested _ _ => true
  | .emitted frame => frame.method = some "approval/requested"
  | _ => false

/-- The constants of `EventDrainContext`. -/
structure EventDrainContext where
  serverInstanceId : String
  supervisorGeneration : ℕ

/-- What one round meets. -/
structure Round where
  event : SessionEvent
  /-- The generation is still current when the event is there. -/
  current : Bool
  /-- `emit_frame` or `emit_status` succeeds. -/
  delivers : Bool
  /-- The lane to the actor has room. -/
  queued : Bool
  /-- What the actor answers to the request of an approval in time. -/
  answer : Option Bool

/-- A worker between two rounds. -/
structure DrainState where
  suppress : Bool
  running : Bool
  effects : List DrainEffect

namespace DrainState

/-- A worker at its start. -/
def initial : DrainState := ⟨false, true, []⟩

variable (context : EventDrainContext) (s : DrainState)

/-- Go on after some effects. -/
def proceed (effects : List DrainEffect) : DrainState := { s with effects := s.effects ++ effects }

/-- Leave the loop. -/
def stop (effects : List DrainEffect) : DrainState := { s.proceed effects with running := false }

/-- Queue the end of a turn after its notification. -/
def queueTurnTerminal (queued : Bool) (frame : RpcFrame) : DrainState :=
  match terminalTurnIdentity frame with
  | none => s.proceed [.emitted frame]
  | some (threadId, turnId) =>
    if queued then s.proceed [.emitted frame, .turnTerminal threadId turnId]
    else s.stop [.emitted frame, .fault .serverRequestQueue]

/-- A notification. -/
def notification (round : Round) (frame : RpcFrame) : DrainState :=
  if !notificationMatchesIdentity frame context.serverInstanceId then s
  else if s.suppress && frame.method = some "approval/requested" then
    { s.proceed [.withheld frame] with suppress := false }
  else if !round.delivers then s.stop [.fault .eventDelivery]
  else s.queueTurnTerminal round.queued frame

/-- A request of the sidecar. -/
def serverRequest (round : Round) (frame : RpcFrame) : DrainState :=
  if !round.queued then s.stop [.fault .serverRequestQueue]
  else if frame.method = some "approval/request" then
    match round.answer with
    | some true => s.proceed [.requested frame true]
    | some false => { s.proceed [.requested frame false] with suppress := true }
    | none => s.stop [.fault .serverRequestQueue]
  else s.proceed [.serverRequest frame]

/-- The rest of a round that got an event. -/
def dispatch (round : Round) : DrainState :=
  match round.event with
  | .notification frame => s.notification context round frame
  | .serverRequest frame => s.serverRequest round frame
  | .queueOverflow _ =>
    if round.delivers then s.proceed [.busy] else s.stop [.fault .eventDelivery]
  | .processExited observed _ =>
    if observed = context.supervisorGeneration then s.stop [.fault .sidecar] else s
  | .eof | .handshakeFailed | .writerTimedOut | .protocolFault _ | .queueFatalOverflow _
  | .responseRejected _ => s.stop [.fault .sidecar]
  | .stderrLine _ | .stderrTruncated => s

/-- **One round** of `event_drain_loop`. -/
def after (round : Round) : DrainState :=
  if !s.running then s
  else if !round.current then s.stop []
  else s.dispatch context round

def eventDrainLoop (rounds : List Round) : DrainState :=
  rounds.foldl (after context) initial

end DrainState

/-! ## Rounds that do not end the loop -/

namespace Round

variable (context : EventDrainContext) (round : Round)

/-- The request for an approval, with the answer of the actor. -/
def asks : Option (RpcFrame × Bool) :=
  match round.event with
  | .serverRequest frame =>
    if frame.method = some "approval/request" then round.answer.map (frame, ·) else none
  | _ => none

/-- The notification of an approval, from the server that the worker belongs to. -/
def notice : Option RpcFrame :=
  match round.event with
  | .notification frame =>
    if notificationMatchesIdentity frame context.serverInstanceId &&
        frame.method = some "approval/requested" then some frame else none
  | _ => none

/-- The event ends the session. -/
def endsLoop : SessionEvent → Bool
  | .eof | .handshakeFailed | .writerTimedOut | .protocolFault _ | .queueFatalOverflow _
  | .responseRejected _ => true
  | .processExited observed _ => observed = context.supervisorGeneration
  | _ => false

/-- Nothing outside ends the loop in this round. -/
structure Goes : Prop where
  current : round.current = true
  delivers : round.delivers = true
  queued : round.queued = true
  answered : round.answer.isSome = true
  lives : endsLoop context round.event = false

end Round

/-! ## What a round does -/

section Steps

variable {context : EventDrainContext} {s : DrainState} {round : Round} {frame : RpcFrame}

lemma Round.event_of_notice (h : round.notice context = some frame) :
    round.event = .notification frame ∧
      notificationMatchesIdentity frame context.serverInstanceId = true ∧
      frame.method = some "approval/requested" := by
  unfold Round.notice at h
  split at h
  · next frame' hevent =>
    split at h
    · next hmatch =>
      obtain rfl := Option.some.inj h
      simp only [Bool.and_eq_true, decide_eq_true_eq] at hmatch
      exact ⟨hevent, hmatch⟩
    · cases h
  · cases h

lemma Round.event_of_asks {accepted : Bool} (h : round.asks = some (frame, accepted)) :
    round.event = .serverRequest frame ∧ frame.method = some "approval/request" ∧
      round.answer = some accepted := by
  unfold Round.asks at h
  split at h
  · next frame' hevent =>
    split at h
    · next hmethod =>
      obtain ⟨answer, hanswer, heq⟩ := Option.map_eq_some_iff.mp h
      obtain ⟨rfl, rfl⟩ := Prod.mk.inj heq
      exact ⟨hevent, hmethod, hanswer⟩
    · cases h
  · cases h

lemma Round.notice_of_asks {accepted : Bool} (h : round.asks = some (frame, accepted)) :
    round.notice context = none := by
  rw [Round.notice, (Round.event_of_asks h).1]

namespace DrainState

/-- The notification of an approval is shown, or withheld when the mark is set. -/
lemma after_notice (hs : s.running = true) (hgoes : round.Goes context)
    (h : round.notice context = some frame) :
    s.after context round =
      if s.suppress then { s.proceed [.withheld frame] with suppress := false }
      else s.proceed [.emitted frame] := by
  obtain ⟨hevent, hmatch, hmethod⟩ := Round.event_of_notice h
  have hterminal : terminalTurnIdentity frame = none := by
    rw [terminalTurnIdentity, if_pos (by simp [hmethod])]
  simp only [after, hs, hgoes.current, dispatch, hevent, notification, hmatch, hmethod,
    hgoes.delivers, queueTurnTerminal, hterminal]
  simp

lemma after_asks {accepted : Bool} (hs : s.running = true) (hgoes : round.Goes context)
    (h : round.asks = some (frame, accepted)) :
    s.after context round =
      { s.proceed [.requested frame accepted] with suppress := s.suppress || !accepted } := by
  obtain ⟨hevent, hmethod, hanswer⟩ := Round.event_of_asks h
  simp only [after, hs, hgoes.current, dispatch, hevent, serverRequest, hmethod, hgoes.queued,
    hanswer]
  cases accepted <;> simp [proceed]

/-- Any other round leaves the mark alone, and does nothing that concerns approvals. -/
lemma after_other (hs : s.running = true) (hgoes : round.Goes context)
    (hnotice : round.notice context = none) (hasks : round.asks = none) :
    ∃ effects, s.after context round = s.proceed effects ∧
      ∀ effect ∈ effects, effect.concernsApproval = false := by
  have hsame : ∃ effects, s = s.proceed effects ∧
      ∀ effect ∈ effects, effect.concernsApproval = false := ⟨[], by simp [proceed], by simp⟩
  have hlives := hgoes.lives
  simp only [after, hs, hgoes.current, Bool.not_true, Bool.false_eq_true, if_false, dispatch]
  cases hevent : round.event with
  | notification frame =>
    simp only [notification]
    cases hmatch : notificationMatchesIdentity frame context.serverInstanceId with
    | false => simpa using hsame
    | true =>
      have hmethod : frame.method ≠ some "approval/requested" := by
        intro hmethod
        simp [Round.notice, hevent, hmatch, hmethod] at hnotice
      simp only [hmethod, hgoes.delivers, queueTurnTerminal, hgoes.queued]
      cases hterminal : terminalTurnIdentity frame with
      | none =>
        exact ⟨[.emitted frame], by simp,
          by simp [DrainEffect.concernsApproval, hmethod]⟩
      | some turn =>
        exact ⟨[.emitted frame, .turnTerminal turn.1 turn.2], by simp,
          by simp [DrainEffect.concernsApproval, hmethod]⟩
  | serverRequest frame =>
    have hmethod : frame.method ≠ some "approval/request" := by
      intro hmethod
      obtain ⟨answer, hanswer⟩ := Option.isSome_iff_exists.mp hgoes.answered
      simp [Round.asks, hevent, hmethod, hanswer] at hasks
    simp only [serverRequest, hgoes.queued, hmethod]
    exact ⟨[.serverRequest frame], by simp, by simp [DrainEffect.concernsApproval]⟩
  | queueOverflow kind =>
    simp only [hgoes.delivers]
    exact ⟨[.busy], by simp, by simp [DrainEffect.concernsApproval]⟩
  | processExited observed code =>
    rw [hevent] at hlives
    simp only [Round.endsLoop, decide_eq_false_iff_not] at hlives
    simpa [hlives] using hsame
  | stderrLine line => simpa using hsame
  | stderrTruncated => simpa using hsame
  | eof | handshakeFailed | writerTimedOut | protocolFault | queueFatalOverflow
  | responseRejected =>
    rw [hevent] at hlives
    cases hlives

end DrainState

end Steps

end JaDesktop.Bridge
