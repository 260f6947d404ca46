import Mathlib.Data.Finset.Card
import JaDesktop.Host.EventClosing
import JaDesktop.Host.ReadyHandshake

/-!
# Requests of the sidecar

The sidecar asks the host for approvals and tools under identifiers `s:…`.  The reader registers
such a request in a ledger and pushes it as an event; any thread of the host may answer it once.
`InboundServerRequests` is the ledger: the identifiers that wait for an answer, and all that were
ever registered.

The reader and the calls of `respond_result` and `respond_error` take atomic steps in any order;
what `WriterHandle::send` answers is an argument of the step.  The state keeps the requests that
the consumer got and the responses that were handed to the writer.
-/

namespace JaDesktop.Host

/-! ## The ledger -/

def maxInboundServerRequestLedger : ℕ := 8192

structure InboundServerRequests where
  active : Finset String
  seen : Finset String
  max : ℕ

namespace InboundServerRequests

/-- `InboundServerRequests::new`. -/
def new (max : ℕ) : InboundServerRequests := ⟨∅, ∅, max⟩

variable (r : InboundServerRequests)

def register (id : String) : Except AgentProcessError Unit × InboundServerRequests :=
  if id ∈ r.seen then (.error .duplicateRequest, r)
  else if r.max ≤ r.active.card then (.error .pendingLimit, r)
  else if maxInboundServerRequestLedger ≤ r.seen.card then (.error .requestLedgerExhausted, r)
  else (.ok (), { r with seen := insert id r.seen, active := insert id r.active })

def resolve (id : String) : Except AgentProcessError Unit × InboundServerRequests :=
  if id ∈ r.active then (.ok (), { r with active := r.active.erase id })
  else if id ∈ r.seen then (.error .duplicateResponse, r)
  else (.error .unknownRequestId, r)

end InboundServerRequests

/-! ## The system -/

/-- `RpcFrame::id`. -/
def RpcFrame.idText (frame : RpcFrame) : String := frame.id.getD ""

/-- A call of `respond_result` or `respond_error`. -/
inductive Respond
  | result (id : String) (value : Value)
  | error (id : String) (code : I64) (message jaCode : String) (retryable : Bool)

/-- Where the reader stands with a request of the sidecar. -/
inductive ServerRequestReader
  | idle
  | received (frame : RpcFrame)
  | audited (frame : RpcFrame)
  | registered (frame : RpcFrame)
  | admitted (frame : RpcFrame)
  | pushed
  | faulty
  | closing

/-- Where a call of a responder stands; `encoded` is the place of the ledger step. -/
inductive RespondCall
  | idle
  | called (respond : Respond)
  | checked (respond : Respond)
  | framed (frame : RpcFrame)
  | ready (frame : RpcFrame)
  | encoded (frame : RpcFrame) (bytes : List UInt8)
  | resolved (frame : RpcFrame) (bytes : List UInt8)
  | failedSend (error : AgentProcessError)
  | closing (error : AgentProcessError)
  | returned (result : Except AgentProcessError Unit)

/-- The shared state, the reader, the responders, and what went out on both sides. -/
structure ServerRequestState where
  requests : InboundServerRequests
  queue : EventQueueState
  closed : Bool
  forbidden : List String
  reader : ServerRequestReader
  calls : ℕ → RespondCall
  delivered : List RpcFrame
  sent : List RpcFrame

/-- The atomic steps: the reader gets a request or goes on, a responder calls or goes on, the
consumer pops, another path pushes an event or ends the session, and the tokens change. -/
inductive ServerRequestAction
  | dispatch (frame : RpcFrame)
  | readerNext
  | respond (thread : ℕ) (respond : Respond)
  | respondNext (thread : ℕ) (sendAnswer : Except AgentProcessError Unit)
  | pop
  | popServerRequest
  | pushOther (event : SessionEvent) (priority : EventPriority) (kind : QueueKind)
  | raiseClosed
  | closeQueue
  | setForbidden (forbidden : List String)

namespace ServerRequestState

/-- A new session. -/
def initial (max : ℕ) : ServerRequestState :=
  ⟨.new max, .empty, false, [], .idle, fun _ => .idle, [], []⟩

variable (S : SerdeJson) (q : EventQueue) (s : ServerRequestState)

/-- Push an event. -/
def push (event : SessionEvent) (priority : EventPriority) (kind : QueueKind) :
    ServerRequestState :=
  { s with queue := (q.push S s.queue event priority kind).1 }

/-- The next step of the reader. -/
def readerNext : Option ServerRequestState :=
  match s.reader with
  | .idle => none
  | .received frame =>
    if framePayloadIsSafe s.forbidden none frame false then
      some { s with reader := .audited frame }
    else some { s with reader := .faulty }
  | .audited frame =>
    match s.requests.register frame.idText with
    | (.ok (), requests) => some { s with requests := requests, reader := .registered frame }
    | (.error _, _) => some { s with reader := .faulty }
  | .registered frame =>
    if s.closed then some { s with reader := .idle }
    else some { s with reader := .admitted frame }
  | .admitted frame =>
    some { s.push S q (.serverRequest frame) .control .control with reader := .pushed }
  | .pushed =>
    if EventQueue.isFatal s.queue then some { s with reader := .closing }
    else some { s with reader := .idle }
  | .faulty =>
    some { s.push S q (.protocolFault .invalidEnvelope) .control .control with
      reader := .closing }
  | .closing => some { s with closed := true, reader := .idle }

/-- Move a responder. -/
def goto (thread : ℕ) (call : RespondCall) : ServerRequestState :=
  { s with calls := Function.update s.calls thread call }

/-- The frame of a call, or the error before it. -/
def buildFrame (forbidden : List String) : Respond → Except AgentProcessError RpcFrame
  | .result id value =>
    if containsForbiddenReadyToken forbidden value then .error .handshakeFailed
    else
      match RpcFrame.responseResult id value with
      | .ok frame => .ok frame
      | .error e => .error (.codec e)
  | .error id code message jaCode retryable =>
    match catalogEntry code.val jaCode retryable with
    | none => .error .invalidErrorCatalog
    | some (canonicalJaCode, _) =>
      match RpcFrame.responseError id code message canonicalJaCode retryable with
      | .ok frame => .ok frame
      | .error e => .error (.codec e)

/-- The next step of a responder. -/
def respondNext (thread : ℕ) (sendAnswer : Except AgentProcessError Unit) :
    Option ServerRequestState :=
  match s.calls thread with
  | .idle | .returned _ => none
  | .called respond =>
    if s.closed then some (s.goto thread (.returned (.error .sessionClosed)))
    else some (s.goto thread (.checked respond))
  | .checked respond =>
    match buildFrame s.forbidden respond with
    | .ok frame => some (s.goto thread (.framed frame))
    | .error e => some (s.goto thread (.returned (.error e)))
  | .framed frame =>
    if s.closed then some (s.goto thread (.returned (.error .sessionClosed)))
    else some (s.goto thread (.ready frame))
  | .ready frame =>
    match frame.encode S q.maxFrameBytes with
    | .ok bytes => some (s.goto thread (.encoded frame bytes))
    | .error e => some (s.goto thread (.returned (.error (.codec e))))
  | .encoded frame bytes =>
    match s.requests.resolve frame.idText with
    | (.ok (), requests) =>
      some ({ s with requests := requests }.goto thread (.resolved frame bytes))
    | (.error e, _) => some (s.goto thread (.returned (.error e)))
  | .resolved frame _ =>
    let s := { s with sent := s.sent ++ [frame] }
    match sendAnswer with
    | .ok () => some (s.goto thread (.returned (.ok ())))
    | .error e => some (s.goto thread (.failedSend e))
  | .failedSend e =>
    if e = .queueFull .control then
      some ((s.push S q (.queueFatalOverflow .control) .control .control).goto thread (.closing e))
    else if closesSession e then some (s.goto thread (.closing e))
    else some (s.goto thread (.returned (.error e)))
  | .closing e => some ({ s with closed := true }.goto thread (.returned (.error e)))

/-- The responder is not in a call. -/
def Rests (thread : ℕ) : Prop :=
  s.calls thread = .idle ∨ ∃ result, s.calls thread = .returned result

/-- The requests among the frames that left the queue. -/
def deliver : Option SessionEvent → List RpcFrame
  | some (.serverRequest frame) => s.delivered ++ [frame]
  | _ => s.delivered

/-- The step relation. -/
inductive Step (s : ServerRequestState) : ServerRequestAction → ServerRequestState → Prop
  | dispatch (frame : RpcFrame) (hidle : s.reader = .idle)
      (hkind : frame.validate = .ok .serverRequest) :
      Step s (.dispatch frame) { s with reader := .received frame }
  | readerNext {s' : ServerRequestState} (h : s.readerNext S q = some s') : Step s .readerNext s'
  | respond (thread : ℕ) (respond : Respond) (hrests : s.Rests thread) :
      Step s (.respond thread respond) (s.goto thread (.called respond))
  | respondNext (thread : ℕ) (sendAnswer : Except AgentProcessError Unit)
      {s' : ServerRequestState} (h : s.respondNext S q thread sendAnswer = some s') :
      Step s (.respondNext thread sendAnswer) s'
  | pop : Step s .pop { s with
      queue := (q.pop S s.queue).2.1
      delivered := s.deliver (q.pop S s.queue).1 }
  | popServerRequest : Step s .popServerRequest { s with
      queue := (q.popServerRequest S s.queue).2.1
      delivered := s.deliver ((q.popServerRequest S s.queue).1.map .serverRequest) }
  | pushOther (event : SessionEvent) (priority : EventPriority) (kind : QueueKind)
      (hother : isServerRequest event = false) :
      Step s (.pushOther event priority kind) (s.push S q event priority kind)
  | raiseClosed : Step s .raiseClosed { s with closed := true }
  | closeQueue (hclosed : s.closed = true) :
      Step s .closeQueue { s with queue := q.close S s.queue }
  | setForbidden (forbidden : List String) :
      Step s (.setForbidden forbidden) { s with forbidden := forbidden }

/-- A state that some sequence of steps produces from a new session. -/
def Reachable (max : ℕ) (s : ServerRequestState) : Prop :=
  ∃ actions, Run (Step S q) (initial max) actions s

end ServerRequestState

end JaDesktop.Host
