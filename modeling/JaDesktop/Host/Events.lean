import JaDesktop.Host.Pending

/-!
# The event queue of a session

`EventQueue` holds what a session reports to its consumer in three lanes: requests of the server,
control facts, and data.  Requests and control facts share one budget of bytes, data has its own.
A data event that does not fit is dropped, and the first such loss is reported by a notice in the
control lane; a control event that does not fit leaves a fatal mark.

The functions take the state under the lock to the state when the lock is released.  `pop` and
`popServerRequest` are one round of the loops of the source, which go around again when the
condition variable wakes them.
-/

namespace JaDesktop.Host

/-! ## Machine integers -/

/-- `usize::MAX`. -/
def usizeMax : ℕ := 2 ^ 64 - 1

/-- `usize::saturating_add`. -/
def saturatingAdd (a b : ℕ) : ℕ := min (a + b) usizeMax

/-! ## Events -/

inductive SessionEvent
  | serverRequest (frame : RpcFrame)
  | notification (frame : RpcFrame)
  | stderrLine (line : String)
  | stderrTruncated
  | responseRejected (disposition : ResolveDisposition)
  | protocolFault (error : CodecError)
  | writerTimedOut
  | handshakeFailed
  | eof
  | queueOverflow (kind : QueueKind)
  | queueFatalOverflow (kind : QueueKind)
  | processExited (generation : ℕ) (code : Option ℤ)

inductive EventPriority
  | control
  | data
deriving DecidableEq

def isTurnCompletedTerminalNotification (frame : RpcFrame) : Bool :=
  frame.method == some "turn/completed"

def notificationRouting (frame : RpcFrame) : EventPriority × QueueKind :=
  if isTurnCompletedTerminalNotification frame then (.control, .control)
  else if frame.method.any (startsWith "runtime/") then (.control, .data)
  else (.data, .data)

def isTerminalEvent : SessionEvent → Bool
  | .protocolFault _ | .writerTimedOut | .handshakeFailed | .eof | .queueFatalOverflow _
  | .processExited _ _ | .responseRejected _ => true
  | .notification frame => isTurnCompletedTerminalNotification frame
  | _ => false

/-- A request of the server. -/
def isServerRequest : SessionEvent → Bool
  | .serverRequest _ => true
  | _ => false

section

variable (S : SerdeJson)

def eventSize (event : SessionEvent) (maxFrameBytes : ℕ) : ℕ :=
  match event with
  | .serverRequest frame | .notification frame =>
    match frame.encode S maxFrameBytes with
    | .ok encoded => encoded.length
    | .error _ => saturatingAdd maxFrameBytes 1
  | .stderrLine line => (asBytes line).length
  | .protocolFault _ => 128
  | .writerTimedOut | .handshakeFailed | .responseRejected _ | .stderrTruncated | .eof
  | .queueOverflow _ | .queueFatalOverflow _ | .processExited _ _ => 64

end

/-! ## The queue -/

def controlQueueCapacity : ℕ := 64
def maxEventQueueBytes : ℕ := 64 * 1024 * 1024
def maxEventControlBurst : ℕ := 8

def controlQueueByteBudget (maxFrameBytes : ℕ) : ℕ := saturatingAdd maxFrameBytes 1

/-- The constant part of `EventQueue`. -/
structure EventQueue where
  dataCapacity : ℕ
  controlCapacity : ℕ
  maxDataBytes : ℕ
  maxControlBytes : ℕ
  maxFrameBytes : ℕ

/-- `EventQueueState`, the part under the lock. -/
structure EventQueueState where
  serverRequests : List SessionEvent
  data : List SessionEvent
  control : List SessionEvent
  serverRequestBytes : ℕ
  dataBytes : ℕ
  controlBytes : ℕ
  fatal : Option QueueKind
  fatalReported : Bool
  dataOverflowReported : Bool
  controlBurst : ℕ
  closed : Bool

/-- The three lanes. -/
inductive Lane
  | serverRequests
  | control
  | data
deriving DecidableEq

/-- What an operation does to the events: it accepts one into a lane, drops one for lack of room,
returns one from a lane, or reports the loss of data. -/
inductive QueueEffect
  | accepted (lane : Lane) (event : SessionEvent)
  | rejected (event : SessionEvent) (priority : EventPriority)
  | returned (lane : Lane) (event : SessionEvent)
  | overflowNotice (kind : QueueKind)
  | overflowMark

namespace EventQueueState

/-- The events of a lane. -/
def lane (s : EventQueueState) : Lane → List SessionEvent
  | .serverRequests => s.serverRequests
  | .control => s.control
  | .data => s.data

/-- The state of `EventQueue::new`. -/
def empty : EventQueueState := ⟨[], [], [], 0, 0, 0, none, false, false, 0, false⟩

end EventQueueState

namespace EventQueue

/-- `EventQueue::new`. -/
def new (dataCapacity maxFrameBytes : ℕ) : EventQueue where
  dataCapacity := dataCapacity
  controlCapacity := controlQueueCapacity
  maxDataBytes := maxEventQueueBytes
  maxControlBytes := controlQueueByteBudget maxFrameBytes
  maxFrameBytes := maxFrameBytes

section

variable (S : SerdeJson) (q : EventQueue)

/-- The test of `push`: is there no room for the event? -/
def isFull (s : EventQueueState) (event : SessionEvent) (priority : EventPriority) : Bool :=
  let bytes := eventSize S event q.maxFrameBytes
  let capacity := match priority with
    | .control => q.controlCapacity
    | .data => q.dataCapacity
  let queueLen :=
    if isServerRequest event then s.serverRequests.length
    else match priority with
      | .control => s.control.length
      | .data => s.data.length
  let queueBytes := match priority with
    | .control => saturatingAdd s.serverRequestBytes s.controlBytes
    | .data => s.dataBytes
  let byteLimit := match priority with
    | .control => q.maxControlBytes
    | .data => q.maxDataBytes
  capacity ≤ queueLen || byteLimit < saturatingAdd queueBytes bytes

/-- The part of `push` that drops a data event: the first loss is reported. -/
def rejectData (s : EventQueueState) (event : SessionEvent) (kind : QueueKind) :
    EventQueueState × List QueueEffect :=
  if s.dataOverflowReported then (s, [.rejected event .data])
  else
    let notice := SessionEvent.queueOverflow kind
    let noticeBytes := eventSize S notice q.maxFrameBytes
    let controlFull := q.controlCapacity ≤ s.control.length ||
      q.maxControlBytes <
        saturatingAdd (saturatingAdd s.serverRequestBytes s.controlBytes) noticeBytes
    if controlFull then
      ({ s with dataOverflowReported := true, fatal := some (s.fatal.getD .control) },
        [.rejected event .data, .overflowMark])
    else
      ({ s with
          dataOverflowReported := true
          control := s.control ++ [notice]
          controlBytes := saturatingAdd s.controlBytes noticeBytes },
        [.rejected event .data, .overflowNotice kind, .accepted .control notice])

/-- The part of `push` that drops a control event: the mark of the first one stays. -/
def rejectControl (s : EventQueueState) (event : SessionEvent) (kind : QueueKind) :
    EventQueueState × List QueueEffect :=
  ({ s with fatal := some (s.fatal.getD kind) }, [.rejected event .control])

/-- The part of `push` that takes an event in. -/
def accept (s : EventQueueState) (event : SessionEvent) (priority : EventPriority) :
    EventQueueState × List QueueEffect :=
  let bytes := eventSize S event q.maxFrameBytes
  if isServerRequest event then
    ({ s with
        serverRequests := s.serverRequests ++ [event]
        serverRequestBytes := saturatingAdd s.serverRequestBytes bytes },
      [.accepted .serverRequests event])
  else match priority with
    | .control =>
      ({ s with
          control := s.control ++ [event]
          controlBytes := saturatingAdd s.controlBytes bytes },
        [.accepted .control event])
    | .data =>
      ({ s with
          data := s.data ++ [event]
          dataBytes := saturatingAdd s.dataBytes bytes },
        [.accepted .data event])

/-- `EventQueue::push`. -/
def push (s : EventQueueState) (event : SessionEvent) (priority : EventPriority)
    (kind : QueueKind) : EventQueueState × List QueueEffect :=
  if q.isFull S s event priority then
    match priority with
    | .data => q.rejectData S s event kind
    | .control => rejectControl s event kind
  else q.accept S s event priority

/-- Take the oldest data event, as `pop` does in two places. -/
def popData (s : EventQueueState) (event : SessionEvent) (rest : List SessionEvent) :
    EventQueueState :=
  { s with
    data := rest
    dataBytes := s.dataBytes - eventSize S event q.maxFrameBytes
    controlBurst := 0 }

/-- Take the oldest request of the server. -/
def takeServerRequest (s : EventQueueState) (event : SessionEvent) (rest : List SessionEvent) :
    EventQueueState :=
  { s with
    serverRequests := rest
    serverRequestBytes := s.serverRequestBytes - eventSize S event q.maxFrameBytes
    controlBurst := saturatingAdd s.controlBurst 1 }

/-- Take the oldest control event. -/
def takeControl (s : EventQueueState) (event : SessionEvent) (rest : List SessionEvent) :
    EventQueueState :=
  { s with
    control := rest
    controlBytes := s.controlBytes - eventSize S event q.maxFrameBytes
    controlBurst := saturatingAdd s.controlBurst 1 }

/-- The lanes in the order in which `pop` serves them, once the fatal mark is out of the way. -/
def popLanes (s : EventQueueState) : Option SessionEvent × EventQueueState × List QueueEffect :=
  match decide (maxEventControlBurst ≤ s.controlBurst), s.data, s.serverRequests, s.control with
  | true, event :: rest, _, _ => (some event, q.popData S s event rest, [.returned .data event])
  | _, _, event :: rest, _ =>
    (some event, q.takeServerRequest S s event rest, [.returned .serverRequests event])
  | _, _, [], event :: rest =>
    (some event, q.takeControl S s event rest, [.returned .control event])
  | _, event :: rest, [], [] =>
    (some event, q.popData S s event rest, [.returned .data event])
  | _, [], [], [] => (none, s, [])

/-- One round of `EventQueue::pop`; the fatal mark is taken in any case, and reported once. -/
def pop (s : EventQueueState) : Option SessionEvent × EventQueueState × List QueueEffect :=
  match s.fatal with
  | some kind =>
    if s.fatalReported then q.popLanes S { s with fatal := none }
    else (some (.queueFatalOverflow kind), { s with fatal := none, fatalReported := true }, [])
  | none => q.popLanes S s

/-- One round of `EventQueue::pop_server_request`. -/
def popServerRequest (s : EventQueueState) :
    Option RpcFrame × EventQueueState × List QueueEffect :=
  match s.serverRequests with
  | .serverRequest frame :: rest =>
    (some frame, q.takeServerRequest S s (.serverRequest frame) rest,
      [.returned .serverRequests (.serverRequest frame)])
  | _ :: rest => (none, { s with serverRequests := rest }, [])
  | [] => (none, s, [])

/-- `EventQueue::is_fatal`. -/
def isFatal (s : EventQueueState) : Bool := s.fatal.isSome

/-- `EventQueue::close`. -/
def close (s : EventQueueState) : EventQueueState :=
  let control := s.control.filter isTerminalEvent
  { s with
    closed := true
    serverRequests := []
    serverRequestBytes := 0
    data := []
    dataBytes := 0
    control := control
    controlBytes := (control.map fun event => eventSize S event q.maxFrameBytes).sum }

/-! ## What leaves the queue -/

/-- The head of one lane was taken. -/
def Takes (s : EventQueueState) (event : SessionEvent) (t : EventQueueState) : Prop :=
  ∃ lane rest, s.lane lane = event :: rest ∧ t.lane lane = rest ∧
    ∀ other, other ≠ lane → t.lane other = s.lane other

variable {S q} {s : EventQueueState}

variable {event : SessionEvent} {rest : List SessionEvent}

lemma takes_popData (h : s.data = event :: rest) : Takes s event (q.popData S s event rest) := by
  refine ⟨.data, rest, h, rfl, fun other hne => ?_⟩
  cases other with
  | data => exact absurd rfl hne
  | _ => rfl

lemma takes_takeServerRequest (h : s.serverRequests = event :: rest) :
    Takes s event (q.takeServerRequest S s event rest) := by
  refine ⟨.serverRequests, rest, h, rfl, fun other hne => ?_⟩
  cases other with
  | serverRequests => exact absurd rfl hne
  | _ => rfl

lemma takes_takeControl (h : s.control = event :: rest) :
    Takes s event (q.takeControl S s event rest) := by
  refine ⟨.control, rest, h, rfl, fun other hne => ?_⟩
  cases other with
  | control => exact absurd rfl hne
  | _ => rfl

variable (S q)

/-- `popLanes` takes the head of a lane, or finds the lanes empty. -/
lemma popLanes_cases (s : EventQueueState) :
    (∃ event, (q.popLanes S s).1 = some event ∧ Takes s event (q.popLanes S s).2.1) ∨
      ((q.popLanes S s).1 = none ∧ (q.popLanes S s).2.1 = s) := by
  unfold EventQueue.popLanes
  split
  · exact Or.inl ⟨_, rfl, takes_popData (by assumption)⟩
  · exact Or.inl ⟨_, rfl, takes_takeServerRequest (by assumption)⟩
  · exact Or.inl ⟨_, rfl, takes_takeControl (by assumption)⟩
  · exact Or.inl ⟨_, rfl, takes_popData (by assumption)⟩
  · exact Or.inr ⟨rfl, rfl⟩

/-- `pop` takes the head of a lane, or leaves the lanes alone and at most reports the mark. -/
lemma pop_cases (s : EventQueueState) :
    (∃ event, (q.pop S s).1 = some event ∧ Takes s event (q.pop S s).2.1) ∨
      ((∀ lane, (q.pop S s).2.1.lane lane = s.lane lane) ∧
        ((q.pop S s).1 = none ∨ ∃ kind, (q.pop S s).1 = some (.queueFatalOverflow kind))) := by
  unfold EventQueue.pop
  split
  · rename_i kind _
    split_ifs
    · rcases popLanes_cases S q { s with fatal := none } with htake | ⟨hnone, hsame⟩
      · exact Or.inl htake
      · exact Or.inr ⟨fun lane => by rw [hsame]; cases lane <;> rfl, Or.inl hnone⟩
    · exact Or.inr ⟨fun lane => by cases lane <;> rfl, Or.inr ⟨kind, rfl⟩⟩
  · rcases popLanes_cases S q s with htake | ⟨hnone, hsame⟩
    · exact Or.inl htake
    · exact Or.inr ⟨fun lane => by rw [hsame], Or.inl hnone⟩

/-- `popServerRequest` takes the head of its lane, or finds it empty. -/
lemma popServerRequest_cases (s : EventQueueState) :
    (∃ frame, (q.popServerRequest S s).1 = some frame ∧
      Takes s (.serverRequest frame) (q.popServerRequest S s).2.1) ∨
    ((q.popServerRequest S s).1 = none ∧
      ((q.popServerRequest S s).2.1 = s ∨
        ∃ event, isServerRequest event = false ∧ Takes s event (q.popServerRequest S s).2.1)) := by
  unfold EventQueue.popServerRequest
  split
  · exact Or.inl ⟨_, rfl, takes_takeServerRequest (by assumption)⟩
  · rename_i event rest hrequest hlane
    refine Or.inr ⟨rfl, Or.inr ⟨event, ?_, .serverRequests, rest, hlane, rfl, fun other hne => ?_⟩⟩
    · cases event with
      | serverRequest frame => exact absurd rfl (hrequest frame)
      | _ => rfl
    · cases other with
      | serverRequests => exact absurd rfl hne
      | _ => rfl
  · exact Or.inr ⟨rfl, Or.inl rfl⟩

end

end EventQueue

end JaDesktop.Host
