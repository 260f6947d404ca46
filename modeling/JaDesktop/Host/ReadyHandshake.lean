import Mathlib.Logic.Function.Basic
import JaDesktop.Host.CodecRoundTrip
import JaDesktop.Host.Requests

/-!
# The ready handshake of a session

After the host has installed a challenge it sends it in the `initialized` notification, the sidecar
echoes it in the ready notification, and `with_ready_promotion` then runs the promotion of the
lifecycle.  Four kinds of threads take part: the caller of `install_ready_token_challenge`, callers
that send frames, the writer and the reader of the pipes, and the owner of the lifecycle; and
anyone may close the session at any time.  They meet in five flags and two locks:

* the state of `initialized_barrier` is locked by the writer from `begin_send` until `complete`,
  and by the reader while it claims a ready frame;
* `ready_terminal_gate` is held during a promotion and during `fail_closed`;
* the lock of `forbidden_ready_tokens` is held by `install_ready_token_challenge` from its first
  assignment to its last.

Each access to a flag is a step of its own; the log records what an observer of the session sees.
A lock that is taken and released within one step needs no state of its own.
-/

namespace JaDesktop.Host

/-! ## Tokens in payloads -/

variable (forbidden : List String)

/-- `contains_forbidden_ready_token_with_set`; the walk over the marks and the walk over the
current tokens are one after the other here. -/
def containsForbiddenReadyToken (value : Value) : Bool :=
  containsTokenShapedMarker value || value.anyMark forbidden.contains forbidden.contains

def containsForbiddenToken (value : Value) : Bool :=
  value.anyMark (fun key => isReadyTokenKey key || isTokenShaped key || forbidden.contains key)
    forbidden.contains

/-- A member of the parameters of a ready frame, as both audits of a ready frame test it; they
differ in the search for current tokens. -/
def readyMemberIsSafe (contains : Value → Bool) (expected : String)
    (key : String) (child : Value) : Bool :=
  if key = "readyToken" then child.asStr == some expected && validReadyToken expected
  else !forbidden.contains key && !isReadyTokenKey key && !isTokenShaped key &&
    !containsTokenShapedMarker child && !contains child

def readyParamsAreSafe (expected : String) (params : Value) : Bool :=
  match params.asObject with
  | none => false
  | some object => object.all fun (key, child) =>
      readyMemberIsSafe forbidden (containsForbiddenReadyToken forbidden) expected key child

def framePayloadIsSafe (challenge : Option String) (frame : RpcFrame)
    (ready : Bool) : Bool :=
  if frame.id.any forbidden.contains || frame.method.any forbidden.contains ||
      frame.error.any (fun error => forbidden.contains error.message) ||
      frame.result.value.any (containsForbiddenToken forbidden) ||
      frame.error.any (fun error => containsForbiddenToken forbidden error.data) then false
  else
    match frame.params with
    | none => !ready
    | some params =>
      if !ready then !containsForbiddenToken forbidden params
      else
        match challenge, params.asObject with
        | some expected, some object => object.all fun (key, child) =>
            readyMemberIsSafe forbidden (containsForbiddenToken forbidden) expected key child
        | _, _ => false

/-- `params.get("readyToken").and_then(Value::as_str)`. -/
def RpcFrame.readyToken (frame : RpcFrame) : Option String :=
  frame.params.bind fun params => (params.get "readyToken").bind Value.asStr

/-- A ready frame, as `dispatch_frame` tests it. -/
def RpcFrame.isReady (frame : RpcFrame) : Bool :=
  frame.method == some "runtime/statusChanged" &&
    (frame.params.bind fun params => (params.get "status").bind Value.asStr) == some "ready"

/-! ## Outbound messages -/

/-- What a caller hands to the session: `notify`, `request`, `respond_result`, `respond_error`. -/
inductive Outbound
  | notification (method : String) (params : Value)
  | request (id method : String) (params : Value)
  | result (id : String) (value : Value)
  | error (id : String) (code : I64) (message jaCode : String) (retryable : Bool)

namespace Outbound

def frame : Outbound → Except CodecError RpcFrame
  | .notification method params => RpcFrame.notification method params
  | .request id method params => RpcFrame.clientRequest id method params
  | .result id value => RpcFrame.responseResult id value
  | .error id code message jaCode retryable =>
    RpcFrame.responseError id code message jaCode retryable

/-- The value that is searched for forbidden tokens. -/
def payload : Outbound → Option Value
  | .notification _ params | .request _ _ params => some params
  | .result _ value => some value
  | .error .. => none

def priority : Outbound → EventPriority
  | .notification method _ =>
    if method = "initialized" || startsWith "runtime/" method then .control else .data
  | .request _ method _ => requestPriority method
  | .result .. | .error .. => .control

/-- Is this a call of `notify` with `initialized`, and with which parameters? -/
def initialized? : Outbound → Option Value
  | .notification method params => if method = "initialized" then some params else none
  | _ => none

end Outbound

def validateInitializedParams (challenge : Option String) (params : Value) : Bool :=
  match challenge with
  | none => false
  | some expected => params.asObject.any fun object =>
      object.length == 1 &&
        (SortedMap.get "readyToken" object).bind Value.asStr == some expected &&
        validReadyToken expected

/-! ## The writer's queues -/

def maxControlBurst : ℕ := 8

/-- The two channels into the writer, and its count of control frames in a row. -/
structure WriterQueue where
  control : List (List UInt8)
  data : List (List UInt8)
  controlBurst : ℕ

namespace WriterQueue

def push (queue : WriterQueue) (bytes : List UInt8) : EventPriority → WriterQueue
  | .control => { queue with control := queue.control ++ [bytes] }
  | .data => { queue with data := queue.data ++ [bytes] }

def nextFrame (queue : WriterQueue) : Option (List UInt8 × WriterQueue) :=
  match queue.control, queue.data with
  | [], [] => none
  | [], bytes :: data => some (bytes, { queue with data := data, controlBurst := 0 })
  | bytes :: control, [] =>
    some (bytes, { queue with control := control, controlBurst := queue.controlBurst + 1 })
  | bytes :: control, bytes' :: data =>
    if maxControlBurst ≤ queue.controlBurst then
      some (bytes', { queue with data := data, controlBurst := 0 })
    else some (bytes, { queue with control := control, controlBurst := queue.controlBurst + 1 })

end WriterQueue

/-! ## The threads -/

inductive InitializedBarrierState
  | notSent
  | sending
  | confirmed
  | failed
deriving DecidableEq

/-- How far `install_ready_token_challenge` got: the last assignment it made. -/
inductive InstallStage
  | absent
  | forbidden (token : String)
  | challenged
  | unsent
  | reset
  | unclaimed
  | done

/-- The call holds the lock of the forbidden tokens. -/
def InstallStage.running : InstallStage → Bool
  | .absent | .done => false
  | _ => true

/-- Where a call that sends a message stands.  The stages from `validated` to `prepared` belong to
`notify` with `initialized`, and so do the later ones when `initialized` is set. -/
inductive SendCall
  | idle
  | validated (params : Value)
  | elected (params : Value)
  | prepared (params : Value)
  | cleared (message : Outbound)
  | encoded (initialized : Bool) (bytes : List UInt8) (priority : EventPriority)
  | failing (initialized : Bool) (error : AgentProcessError)
  | finished

/-- Where the writer stands in `write_frame_with_watchdog`; `guarded` says that it holds the
`InitializedSendGuard`. -/
inductive WriterStage
  | idle
  | holding (bytes : List UInt8)
  | sending (guarded : Bool) (bytes : List UInt8)
  | written (guarded : Bool) (flushed : Bool)
  | completing (confirmed : Bool) (failing : Bool)
  | failed

/-- Where the reader stands in `dispatch_frame`.  In `passed` it is inside `claim_ready`, after
the tests of the closed flag and of the barrier; in `closing` it is about to call `fail_closed`. -/
inductive ReaderStage
  | idle
  | dispatching (frame : RpcFrame)
  | audited (frame : RpcFrame)
  | opened (frame : RpcFrame)
  | passed (frame : RpcFrame)
  | closing

/-- How far `with_ready_promotion` got: the last test that it passed. -/
inductive PromotionStage
  | entered
  | opened
  | reopened
  | confirmed
  | claimed
  | expecting (expected : String)
  | safe
  | consumed

/-- Who holds `ready_terminal_gate`. -/
inductive GateHolder
  | free
  | closing
  | promoting (stage : PromotionStage) (frame : RpcFrame)

/-- What an observer sees. -/
inductive HandshakeEvent
  /-- The challenge was set. -/
  | installed (token : String)
  /-- A line was written and flushed completely. -/
  | flushed (bytes : List UInt8)
  /-- The barrier was set to confirmed. -/
  | confirmed
  /-- The reader took a frame. -/
  | received (frame : RpcFrame)
  /-- The reader claimed a ready frame, or refused it. -/
  | answered (frame : RpcFrame) (granted : Bool)
  /-- The promotion of the lifecycle ran, while the closed flag was as recorded. -/
  | promoted (frame : RpcFrame) (closed : Bool)

/-- The state of a session, as far as the handshake goes. -/
structure Handshake where
  install : InstallStage
  forbidden : List String
  challenge : Option String
  initializedSent : Bool
  barrier : InitializedBarrierState
  claimed : Bool
  consumed : Bool
  closed : Bool
  gate : GateHolder
  calls : ℕ → SendCall
  queue : WriterQueue
  writer : WriterStage
  reader : ReaderStage
  log : List HandshakeEvent

/-- What `WriterHandle::send` may answer. -/
inductive SendAnswer
  | sent
  | closed
  | full
  | disconnected

inductive SendStep
  /-- The tests on the payload. -/
  | start (message : Outbound)
  /-- The exchange of `initialized_sent`. -/
  | elect
  /-- The reset of `ready_token_consumed`. -/
  | prepare
  | encode
  | deliver (answer : SendAnswer)
  /-- What follows a failed delivery. -/
  | settle

inductive WriterStep
  | next
  /-- `begin_send`, for the line of an `initialized` frame. -/
  | start
  /-- The watchdog cannot be spawned. -/
  | spawnFails
  /-- `write_all` and `flush`. -/
  | write (flushed : Bool)
  /-- The watchdog is joined; it may have panicked, or may have fired. -/
  | join (fired : Option Bool)
  /-- `complete`. -/
  | complete

inductive ReaderStep
  | receive (frame : RpcFrame)
  /-- The audit of the payload; a response or a server request may be rejected for other
  reasons. -/
  | audit (rejected : Bool)
  /-- `claim_ready`: the closed flag, the state of the barrier, the exchange of the claim. -/
  | testClosed
  | testBarrier
  | claim
  /-- `fail_closed` at the end of a refusal. -/
  | close

/-- The atomic steps of the system. -/
inductive HandshakeAction
  | install (token : String)
  | installNext
  | send (call : ℕ) (step : SendStep)
  | writer (step : WriterStep)
  | reader (step : ReaderStep)
  /-- `with_ready_promotion` takes the gate. -/
  | promotion (frame : RpcFrame)
  | promotionNext
  /-- Some thread enters `fail_closed`: it takes the gate and sets the flag. -/
  | failClosed
  /-- The body of `fail_closed` is over, and the gate is free again. -/
  | release

namespace Handshake

/-! ## The steps -/

/-- A new session. -/
def initial : Handshake where
  install := .absent
  forbidden := []
  challenge := none
  initializedSent := false
  barrier := .notSent
  claimed := false
  consumed := false
  closed := false
  gate := .free
  calls := fun _ => .idle
  queue := ⟨[], [], 0⟩
  writer := .idle
  reader := .idle
  log := []

variable (s : Handshake)

/-- Move a call. -/
def goto (call : ℕ) (next : SendCall) : Handshake :=
  { s with calls := Function.update s.calls call next }

/-- The lock of the barrier is held across steps. -/
def barrierHeld : Bool :=
  (match s.writer with
    | .sending true _ | .written true _ | .completing _ _ => true
    | _ => false) ||
  (match s.reader with
    | .opened _ | .passed _ => true
    | _ => false)

/-- The next assignment of `install_ready_token_challenge`. -/
def installNext : Option Handshake :=
  match s.install with
  | .absent | .done => none
  | .forbidden token =>
    some { s with
      install := .challenged, challenge := some token, log := s.log ++ [.installed token] }
  | .challenged => some { s with install := .unsent, initializedSent := false }
  | .unsent =>
    if s.barrierHeld then none else some { s with install := .reset, barrier := .notSent }
  | .reset => some { s with install := .unclaimed, claimed := false }
  | .unclaimed => some { s with install := .done, consumed := false }

variable (S : SerdeJson)

/-- The next step of a call that sends a message. -/
def sendNext (maxFrameBytes : ℕ) (s : Handshake) (call : ℕ) :
    SendStep → SendCall → Option Handshake
  | .start message, .idle =>
    match message.initialized? with
    | some params =>
      if validateInitializedParams s.challenge params then some (s.goto call (.validated params))
      else some (s.goto call .finished)
    | none =>
      if s.install.running && message.payload.isSome then none
      else if message.payload.any (containsForbiddenReadyToken s.forbidden) then
        some (s.goto call .finished)
      else some (s.goto call (.cleared message))
  | .elect, .validated params =>
    if s.initializedSent then some (s.goto call .finished)
    else some ({ s with initializedSent := true }.goto call (.elected params))
  | .prepare, .elected params => some ({ s with consumed := false }.goto call (.prepared params))
  | .encode, .prepared params =>
    match (RpcFrame.notification "initialized" params).bind (·.encode S maxFrameBytes) with
    | .error _ => some ({ s with initializedSent := false }.goto call .finished)
    | .ok bytes => some (s.goto call (.encoded true bytes .control))
  | .encode, .cleared message =>
    match message.frame with
    | .error _ => some (s.goto call .finished)
    | .ok frame =>
      match frame.encode S maxFrameBytes with
      | .error _ =>
        -- a request resets the flag here as well
        if frame.method = some "initialized" then
          some ({ s with initializedSent := false }.goto call .finished)
        else some (s.goto call .finished)
      | .ok bytes => some (s.goto call (.encoded false bytes message.priority))
  | .deliver .sent, .encoded _ bytes priority =>
    some ({ s with queue := s.queue.push bytes priority }.goto call .finished)
  | .deliver .closed, .encoded initialized _ _ =>
    if s.closed then some (s.goto call (.failing initialized .sessionClosed)) else none
  | .deliver .full, .encoded initialized _ priority =>
    some (s.goto call (.failing initialized (.queueFull priority.kind)))
  | .deliver .disconnected, .encoded initialized _ priority =>
    some (s.goto call (.failing initialized (.queueClosed priority.kind)))
  | .settle, .failing initialized error =>
    if closesSession error && !s.closed then none
    else if initialized then some ({ s with initializedSent := false }.goto call .finished)
    else some (s.goto call .finished)
  | _, _ => none

/-- `writer_loop` takes a line for the `initialized` frame when it decodes as one. -/
def isInitialized (maxFrameBytes : ℕ) (bytes : List UInt8) : Bool :=
  match decodeFrame S bytes maxFrameBytes with
  | .error _ => false
  | .ok frame => frame.method == some "initialized"

/-- The next step of the writer. -/
def writerNext (maxFrameBytes : ℕ) (s : Handshake) :
    WriterStep → WriterStage → Option Handshake
  | .next, .idle =>
    s.queue.nextFrame.map fun (bytes, queue) =>
      { s with queue := queue, writer := .holding bytes }
  | .start, .holding bytes =>
    if isInitialized S maxFrameBytes bytes then
      if s.barrierHeld then none
      else if s.barrier ≠ .notSent then some { s with writer := .failed }
      else some { s with barrier := .sending, writer := .sending true bytes }
    else some { s with writer := .sending false bytes }
  | .spawnFails, .sending guarded _ =>
    if guarded then some { s with barrier := .failed, writer := .failed }
    else some { s with writer := .failed }
  | .write flushed, .sending guarded bytes =>
    some { s with
      writer := .written guarded flushed
      log := if flushed then s.log ++ [.flushed bytes] else s.log }
  | .join none, .written guarded _ =>
    if guarded then some { s with barrier := .failed, writer := .failed }
    else some { s with writer := .failed }
  | .join (some fired), .written guarded flushed =>
    if guarded then
      some { s with writer := .completing (flushed && !fired && !s.closed) (fired || !flushed) }
    else some { s with writer := if fired || !flushed then .failed else .idle }
  | .complete, .completing confirmed failing =>
    some { s with
      barrier := if confirmed then .confirmed else .failed
      writer := if failing then .failed else .idle
      log := if confirmed then s.log ++ [.confirmed] else s.log }
  | _, _ => none

/-- A refusal of a frame: a ready frame is answered. -/
def refuse (frame : RpcFrame) (ready : Bool) : Handshake :=
  { s with
    reader := .closing
    log := if ready then s.log ++ [.answered frame false] else s.log }

/-- The audit of a frame by `dispatch_frame`. -/
def audit (frame : RpcFrame) (rejected : Bool) : Option Handshake :=
  match frame.validate with
  | .error _ | .ok .clientRequest => some (s.refuse frame false)
  | .ok .response | .ok .serverRequest =>
    if s.install.running then none
    else if !framePayloadIsSafe s.forbidden s.challenge frame false || rejected then
      some (s.refuse frame false)
    else some { s with reader := .idle }
  | .ok .notification =>
    if s.install.running then none
    else if !framePayloadIsSafe s.forbidden s.challenge frame frame.isReady then
      some (s.refuse frame frame.isReady)
    else if frame.isReady then some { s with reader := .audited frame }
    else some { s with reader := .idle }

/-- The next step of the reader. -/
def readerNext : ReaderStep → ReaderStage → Option Handshake
  | .receive frame, .idle =>
    some { s with reader := .dispatching frame, log := s.log ++ [.received frame] }
  | .audit rejected, .dispatching frame => s.audit frame rejected
  | .testClosed, .audited frame =>
    if s.barrierHeld then none
    else if s.closed then some (s.refuse frame true)
    else some { s with reader := .opened frame }
  | .testBarrier, .opened frame =>
    if s.barrier ≠ .confirmed then some (s.refuse frame true)
    else some { s with reader := .passed frame }
  | .claim, .passed frame =>
    if s.claimed then some (s.refuse frame true)
    else some { s with
      claimed := true, reader := .idle, log := s.log ++ [.answered frame true] }
  | .close, .closing =>
    match s.gate with
    | .free =>
      if s.closed then some { s with reader := .idle }
      else some { s with reader := .idle, closed := true, gate := .closing }
    | _ => none
  | _, _ => none

/-- The next step of `with_ready_promotion`; a test that fails releases the gate. -/
def promotionNext : Option Handshake :=
  let leave : Handshake := { s with gate := .free }
  let pass (stage : PromotionStage) (frame : RpcFrame) : Handshake :=
    { s with gate := .promoting stage frame }
  match s.gate with
  | .free | .closing => none
  | .promoting .entered frame => some (if s.closed then leave else pass .opened frame)
  | .promoting .opened frame =>
    some (if frame.params.isNone || s.closed then leave else pass .reopened frame)
  | .promoting .reopened frame =>
    if s.barrierHeld then none
    else some (if s.barrier = .confirmed then pass .confirmed frame else leave)
  | .promoting .confirmed frame => some (if s.claimed then pass .claimed frame else leave)
  | .promoting .claimed frame =>
    some (match s.challenge with
      | none => leave
      | some expected => pass (.expecting expected) frame)
  | .promoting (.expecting expected) frame =>
    if s.install.running then none
    else some (if frame.readyToken ≠ some expected || !validReadyToken expected ||
        !frame.params.any (readyParamsAreSafe s.forbidden expected) then leave
      else pass .safe frame)
  | .promoting .safe frame =>
    some (if s.consumed then leave else { pass .consumed frame with consumed := true })
  | .promoting .consumed frame =>
    some { leave with log := s.log ++ [.promoted frame s.closed] }

/-- The state after an action, when the action is possible. -/
def after (maxFrameBytes : ℕ) (s : Handshake) :
    HandshakeAction → Option Handshake
  | .install token =>
    match s.install with
    | .absent =>
      if validReadyToken token then
        some { s with install := .forbidden token, forbidden := [token] }
      else some s
    | _ => none
  | .installNext => s.installNext
  | .send call step => s.sendNext S maxFrameBytes call step (s.calls call)
  | .writer step => s.writerNext S maxFrameBytes step s.writer
  | .reader step => s.readerNext step s.reader
  | .promotion frame =>
    match s.gate with
    | .free => some { s with gate := .promoting .entered frame }
    | _ => none
  | .promotionNext => s.promotionNext
  | .failClosed =>
    match s.gate with
    | .free => if s.closed then some s else some { s with closed := true, gate := .closing }
    | _ => none
  | .release =>
    match s.gate with
    | .closing => some { s with gate := .free }
    | _ => none

/-- `Supervisor::start` installs the challenge and sends `initialized` afterwards, in one thread;
no other thread can send it before, since none has the token. -/
def Sequenced : HandshakeAction → Prop
  | .send _ (.start message) => message.initialized?.isSome → s.install.running = false
  | _ => True

/-- One action, as a step of the system. -/
def Step (maxFrameBytes : ℕ) (s : Handshake) (action : HandshakeAction)
    (s' : Handshake) : Prop :=
  s.Sequenced action ∧ s.after S maxFrameBytes action = some s'

/-- A state that some sequence of actions produces from a new session. -/
def Reachable (maxFrameBytes : ℕ) (s : Handshake) : Prop :=
  ∃ actions, Run (Step S maxFrameBytes) initial actions s

end Handshake

end JaDesktop.Host
