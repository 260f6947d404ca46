import JaDesktop.Lib.Record
import JaDesktop.Lib.Runs
import JaDesktop.Ui.RuntimeEvents

/-!
# The timeline reducer

The user interface keeps the threads, turns, items and approvals of the runtime in one normalized
state.  `applyRuntimeStatus` installs a generation of the sidecar, `applySnapshot` replaces the
projection of one thread, and `applyLiveEvent` applies one event: a thread event is applied only
when it is the next of its thread, and anything else leaves a mark that asks for a snapshot.
-/

namespace JaDesktop.Ui

/-! ## The state -/

def eventDedupWindow : ℕ := 1024

def maxItemTextBytes : ℕ := 1048576

inductive ResyncReason
  | serverInstanceChanged
  | gap
  | lateEvent
  | missingItem
  | invalidEvent
  | snapshotInvalid
  | handshakeRequired
  | handshakeFailed
deriving DecidableEq

inductive ApplyOutcome
  | applied
  | duplicate
  | late
  | gap
  | resyncRequired
  | invalid
  | rejected
deriving DecidableEq

/-- The status of a `RuntimeProjection`. -/
inductive RuntimeStatusKind
  | starting
  | ready
  | busy
  | stopping
  | degraded
  | shuttingDown
  | stopped
  | recoveryRequired
  | crashed
  | incompatible
  | faulted
deriving DecidableEq

structure RuntimeProjection where
  status : RuntimeStatusKind
  eventId : String
  occurredAt : String
  reason : Option String
deriving DecidableEq

/-- The phase of a `HostProjection`. -/
inductive HostPhase
  | disconnected
  | ready
deriving DecidableEq

structure HostProjection where
  phase : HostPhase
  generation : ℤ
deriving DecidableEq

structure TimelineApprovalState where
  threadId : String
  approval : Option ApprovalSummary
  decision : Option ApprovalDecision
  resolvedAt : Option String
deriving DecidableEq

structure TimelineState where
  handshake : HostProjection
  serverInstanceId : Option String
  threads : Record Thread
  turns : Record Turn
  items : Record Item
  itemThreadById : Record String
  itemUtf8BytesById : Record ℕ
  itemIdsByThread : Record (List String)
  approvalsById : Record TimelineApprovalState
  lastSeqByThread : Record ℕ
  seenEventIds : Record Unit
  seenEventOrderByScope : Record (List String)
  resyncRequired : Record ResyncReason
  runtime : Option RuntimeProjection
  lastOutcome : Option ApplyOutcome

def createTimelineState : TimelineState where
  handshake := ⟨.disconnected, 0⟩
  serverInstanceId := none
  threads := ∅
  turns := ∅
  items := ∅
  itemThreadById := ∅
  itemUtf8BytesById := ∅
  itemIdsByThread := ∅
  approvalsById := ∅
  lastSeqByThread := ∅
  seenEventIds := ∅
  seenEventOrderByScope := ∅
  resyncRequired := ∅
  runtime := none
  lastOutcome := none

structure HostRuntimeStatus where
  status : RuntimeStatusKind
  generation : ℤ
  serverInstanceId : Option String
  eventId : Option String
  occurredAt : Option String
  reason : Option String

namespace TimelineState

def clearBusinessProjection (state : TimelineState) : TimelineState :=
  { createTimelineState with handshake := state.handshake, lastOutcome := state.lastOutcome }

def outcome (state : TimelineState) (lastOutcome : ApplyOutcome) : TimelineState :=
  { state with lastOutcome := some lastOutcome }

def resync (state : TimelineState) (key : String) (reason : ResyncReason)
    (result : ApplyOutcome) : TimelineState :=
  { state with resyncRequired := state.resyncRequired.insert key reason }.outcome result

/-! ## The status of the host -/

/-- `Number.isSafeInteger`; a number that is no integer is refused like one out of range. -/
def isSafeInteger (n : ℤ) : Bool := -9007199254740991 ≤ n && n ≤ 9007199254740991

def safeRuntimeReasons : List String :=
  ["starting", "ready", "turn_started", "stopping", "stopped", "start_failed",
    "event_queue_overflow"]

def safeRuntimeReason (reason : Option String) : Option String :=
  reason.map fun reason => if safeRuntimeReasons.contains reason then reason else "unknown"

/-- The status admits timeline data. -/
def isReady (status : HostRuntimeStatus) : Bool :=
  status.status == .ready || status.status == .busy

/-- `applyRuntimeStatus`; the clock is an argument. -/
def applyRuntimeStatus (state : TimelineState) (status : HostRuntimeStatus) (now : String) :
    TimelineState :=
  if !isSafeInteger status.generation || status.generation ≤ 0 then state.outcome .rejected
  else if status.generation < state.handshake.generation then state.outcome .rejected
  else
    let generationChanged := status.generation ≠ state.handshake.generation
    let handshake : HostProjection :=
      ⟨if isReady status then .ready else .disconnected, status.generation⟩
    let base :=
      if isReady status ∧ ¬ generationChanged then state
      else { state with handshake := handshake }.clearBusinessProjection
    let next := { base with
      handshake := handshake
      serverInstanceId := if isReady status then status.serverInstanceId else none
      runtime := some
        { status := status.status
          eventId := status.eventId.getD ("host_state_" ++ toString status.generation)
          occurredAt := status.occurredAt.getD now
          reason := safeRuntimeReason status.reason } }
    next.outcome .applied

/-! ## Duplicates -/

/-- Delete some keys. -/
def eraseAll {ν : Type} (r : Record ν) (keys : List String) : Record ν :=
  keys.foldl (fun r key => r.erase key) r

def clearSeenScope (state : TimelineState) (scope : String) : TimelineState :=
  { state with
    seenEventIds := eraseAll state.seenEventIds ((state.seenEventOrderByScope.lookup scope).getD [])
    seenEventOrderByScope := state.seenEventOrderByScope.erase scope }

def rememberEvent (state : TimelineState) (scope fingerprint : String) : TimelineState :=
  let current := (state.seenEventOrderByScope.lookup scope).getD []
  let order := if current.contains fingerprint then current else current ++ [fingerprint]
  let evicted := order.take (order.length - eventDedupWindow)
  let retained := order.drop (order.length - eventDedupWindow)
  { state with
    seenEventIds := eraseAll (state.seenEventIds.insert fingerprint ()) evicted
    seenEventOrderByScope := state.seenEventOrderByScope.insert scope retained }

/-! ## Snapshots -/

/-- The test of `removeThreadEntities`: is the item deleted? -/
def isRemoved (state : TimelineState) (threadId itemId : String) (item : Item) : Bool :=
  state.itemThreadById.lookup itemId == some threadId ||
    (state.turns.lookup item.turnId).any fun turn => turn.threadId == threadId

def removeThreadEntities (state : TimelineState) (threadId : String) : TimelineState :=
  let cleaned := state.clearSeenScope threadId
  let removed := fun itemId => (cleaned.items.lookup itemId).any (cleaned.isRemoved threadId itemId)
  { cleaned with
    turns := cleaned.turns.filter fun _ turn => turn.threadId != threadId
    items := cleaned.items.filter fun itemId item => !cleaned.isRemoved threadId itemId item
    itemThreadById := cleaned.itemThreadById.filter fun itemId _ => !removed itemId
    itemUtf8BytesById := cleaned.itemUtf8BytesById.filter fun itemId _ => !removed itemId
    approvalsById :=
      cleaned.approvalsById.filter fun _ projection => projection.threadId != threadId
    itemIdsByThread := cleaned.itemIdsByThread.insert threadId [] }

section

variable {Params Raw : Type} (schemas : EventSchemas Params Raw)

/-- The loop of `hasValidSnapshotStructure`, with the identifiers it has seen. -/
def hasValidItems (state : TimelineState) (serverInstanceId threadId : String)
    (itemIds : List String) : List Item → Bool
  | [] => true
  | item :: items =>
    if itemIds.contains item.itemId then false
    else if state.serverInstanceId = some serverInstanceId &&
        ((state.items.lookup item.itemId).isSome &&
            (state.itemThreadById.lookup item.itemId).isNone ||
          (state.itemThreadById.lookup item.itemId).any (· != threadId)) then false
    else hasValidItems state serverInstanceId threadId (item.itemId :: itemIds) items

variable (state : TimelineState)

def hasValidSnapshotStructure (snapshot : ThreadReadResult Raw) : Bool :=
  snapshot.thread.lastSeq == snapshot.snapshotSeq &&
    hasValidItems state snapshot.serverInstanceId snapshot.thread.threadId [] snapshot.items

/-- The loop of `hasValidSnapshotEvents`: the sequence number of the last event, if all are
valid. -/
def lastEventSeq (snapshot : ThreadReadResult Raw) (previousSeq : ℕ) : List Raw → Option ℕ
  | [] => some previousSeq
  | rawEvent :: rawEvents =>
    match schemas.parseEvent rawEvent with
    | some (.thread event) =>
      if event.threadId ≠ snapshot.thread.threadId ∨
          event.serverInstanceId ≠ snapshot.serverInstanceId ∨
          snapshot.snapshotSeq < event.seq ∨ event.seq ≤ previousSeq then none
      else lastEventSeq snapshot event.seq rawEvents
    | _ => none

def hasValidSnapshotEvents (snapshot : ThreadReadResult Raw) : Bool :=
  match lastEventSeq schemas snapshot 0 (snapshot.events.getD []) with
  | none => false
  | some previousSeq =>
    match snapshot.nextSeq, snapshot.events with
    | some nextSeq, some (_ :: _) => previousSeq < nextSeq
    | _, _ => true

/-- The text of an item. -/
def textOf (item : Item) : JsString := item.text.getD []

/-- Put the items of a snapshot in. -/
def insertItems (threadId : String) (items : List Item) : TimelineState :=
  items.foldl (fun state item =>
    { state with
      items := state.items.insert item.itemId item
      itemThreadById := state.itemThreadById.insert item.itemId threadId
      itemUtf8BytesById :=
        state.itemUtf8BytesById.insert item.itemId (utf8ByteLength (textOf item)) }) state

/-- The part of `applySnapshot` behind the checks. -/
def installSnapshot (snapshot : ThreadReadResult Raw) : TimelineState :=
  let threadId := snapshot.thread.threadId
  let base :=
    if state.serverInstanceId.isSome ∧
        state.serverInstanceId ≠ some snapshot.serverInstanceId then
      createTimelineState
    else state
  let withoutThread := base.removeThreadEntities threadId
  let filled := withoutThread.insertItems threadId snapshot.items
  { filled with
    serverInstanceId := some snapshot.serverInstanceId
    threads := withoutThread.threads.insert threadId snapshot.thread
    itemIdsByThread :=
      withoutThread.itemIdsByThread.insert threadId (snapshot.items.map Item.itemId)
    lastSeqByThread := withoutThread.lastSeqByThread.insert threadId snapshot.snapshotSeq
    resyncRequired := withoutThread.resyncRequired.filter fun key _ => key != threadId
    lastOutcome := some .applied }

def applySnapshot (snapshot : ThreadReadResult Raw) : TimelineState :=
  let threadId := snapshot.thread.threadId
  if state.handshake.phase ≠ .ready then
    state.resync "runtime" .handshakeRequired .rejected
  else if state.serverInstanceId.isSome ∧
      state.serverInstanceId ≠ some snapshot.serverInstanceId then
    state.resync "runtime" .handshakeRequired .rejected
  else if !state.hasValidSnapshotStructure snapshot then
    state.resync threadId .snapshotInvalid .resyncRequired
  else if !hasValidSnapshotEvents schemas snapshot then
    state.resync threadId .snapshotInvalid .resyncRequired
  else if snapshot.items.any fun item => maxItemTextBytes < utf8ByteLength (textOf item) then
    state.resync threadId .snapshotInvalid .resyncRequired
  else state.installSnapshot snapshot

/-! ## Turns, items and approvals -/

/-- The status of a thread after a change of one of its turns. -/
def threadStatusFor (turn : Turn) : ThreadStatus :=
  match turn.status with
  | .waitingApproval => .waitingApproval
  | .completed | .interrupted | .failed | .abortedByRuntime => .idle
  | .queued | .running | .interrupting => .running

def applyTurn (turn : Turn) : TimelineState :=
  let activeTurnId := match turn.status with
    | .completed | .interrupted | .failed | .abortedByRuntime => none
    | .queued | .running | .waitingApproval | .interrupting => some turn.turnId
  { state with
    turns := state.turns.insert turn.turnId turn
    threads :=
      match state.threads.lookup turn.threadId with
      | some thread => state.threads.insert turn.threadId
          { thread with status := threadStatusFor turn, activeTurnId := activeTurnId }
      | none => state.threads }

def applyItem (item : Item) (threadId : String) : TimelineState :=
  let existing := (state.itemIdsByThread.lookup threadId).getD []
  { state with
    items := state.items.insert item.itemId item
    itemThreadById := state.itemThreadById.insert item.itemId threadId
    itemUtf8BytesById := state.itemUtf8BytesById.insert item.itemId (utf8ByteLength (textOf item))
    itemIdsByThread :=
      if existing.contains item.itemId then state.itemIdsByThread
      else state.itemIdsByThread.insert threadId (existing ++ [item.itemId]) }

def canAdmitDurableUserItemBeforeTurn (method : ThreadEventMethod) (item : Item) : Bool :=
  method == .itemCompleted && item.kind == .userMessage && item.status == .completed

def turnItemsBelongToThread (turnId threadId : String) : Bool :=
  (state.itemIdsByThread.all fun ownerThreadId itemIds =>
    ownerThreadId == threadId || !itemIds.any fun itemId =>
      (state.items.lookup itemId).any fun item => item.turnId == turnId) &&
  state.items.all fun itemId item =>
    item.turnId != turnId || state.itemThreadById.lookup itemId == some threadId

def applyApprovalRequested (approval : ApprovalSummary) : TimelineState :=
  let existing := state.approvalsById.lookup approval.approvalId
  { state with
    approvalsById := state.approvalsById.insert approval.approvalId
      { threadId := (existing.map (·.threadId)).getD approval.threadId
        approval := some approval
        decision := existing.bind (·.decision)
        resolvedAt := existing.bind (·.resolvedAt) } }

def sameApprovalSummary (left right : ApprovalSummary) : Bool :=
  let samePaths := left.action.relativePaths.map List.length ==
      right.action.relativePaths.map List.length &&
    (left.action.relativePaths.all fun paths =>
      paths == (right.action.relativePaths.getD []).take paths.length)
  left.approvalId == right.approvalId && left.threadId == right.threadId &&
    left.turnId == right.turnId && left.itemId == right.itemId &&
    left.action.kind == right.action.kind && left.action.command == right.action.command &&
    left.action.cwd == right.action.cwd && samePaths && left.risk == right.risk &&
    left.accessMode == right.accessMode && left.expiresAt == right.expiresAt

def applyApprovalResolved (approvalId : String)
    (decision : ApprovalDecision) (resolvedAt threadId : String) : TimelineState :=
  let existing := state.approvalsById.lookup approvalId
  if (existing.bind (·.decision)).isSome then state
  else { state with
    approvalsById := state.approvalsById.insert approvalId
      { threadId := (existing.map (·.threadId)).getD threadId
        approval := existing.bind (·.approval)
        decision := some decision
        resolvedAt := some resolvedAt } }

/-! ## Live events -/

def eventKey : JaEvent Params → String
  | .thread event => event.serverInstanceId ++ ":" ++ event.threadId ++ ":" ++ event.eventId
  | .runtime event => event.serverInstanceId ++ ":runtime:" ++ event.eventId

/-- The turn cases of `applyThreadEvent`, on the parsed parameters. -/
def turnCase (threadId : String) (parsed : Option Turn) :
    Except ResyncReason TimelineState :=
  match parsed with
  | none => .error .invalidEvent
  | some turn =>
    if turn.threadId ≠ threadId then .error .invalidEvent
    else if !state.turnItemsBelongToThread turn.turnId threadId then .error .invalidEvent
    else .ok (state.applyTurn turn)

/-- The item cases. -/
def itemCase (method : ThreadEventMethod) (threadId : String)
    (parsed : Option Item) : Except ResyncReason TimelineState :=
  match parsed with
  | none => .error .invalidEvent
  | some item =>
    let knownThreadId := state.itemThreadById.lookup item.itemId
    let turn := state.turns.lookup item.turnId
    let existingItem := state.items.lookup item.itemId
    let durableUserItem := canAdmitDurableUserItemBeforeTurn method item
    if existingItem.any fun existing => existing.turnId != item.turnId then .error .invalidEvent
    else if knownThreadId.any (· != threadId) then .error .invalidEvent
    else if durableUserItem && turn.any fun turn => turn.threadId != threadId then
      .error .invalidEvent
    else if knownThreadId.isNone && !durableUserItem &&
        (method != .itemStarted || !(turn.any fun turn => turn.threadId == threadId)) then
      .error .missingItem
    else if maxItemTextBytes < utf8ByteLength (textOf item) then .error .invalidEvent
    else .ok (state.applyItem item threadId)

/-- The case `item/delta`. -/
def deltaCase (threadId : String) (parsed : Option (String × JsString)) :
    Except ResyncReason TimelineState :=
  match parsed with
  | none => .error .invalidEvent
  | some (itemId, delta) =>
    match state.items.lookup itemId with
    | none => .error .missingItem
    | some item =>
      if state.itemThreadById.lookup itemId ≠ some threadId then .error .missingItem
      else
        let previousBytes :=
          (state.itemUtf8BytesById.lookup itemId).getD (utf8ByteLength (textOf item))
        let deltaBytes := utf8ByteLength delta
        if maxItemTextBytes < previousBytes ∨ maxItemTextBytes < previousBytes + deltaBytes then
          .error .invalidEvent
        else .ok { state with
          items := state.items.insert itemId { item with text := some (textOf item ++ delta) }
          itemUtf8BytesById := state.itemUtf8BytesById.insert itemId (previousBytes + deltaBytes) }

/-- The case `approval/requested`. -/
def approvalRequestedCase (threadId : String)
    (parsed : Option ApprovalSummary) : Except ResyncReason TimelineState :=
  match parsed with
  | none => .error .invalidEvent
  | some approval =>
    let existingProjection := state.approvalsById.lookup approval.approvalId
    if approval.threadId ≠ threadId then .error .invalidEvent
    else if existingProjection.any fun projection => projection.threadId != threadId then
      .error .invalidEvent
    else if (existingProjection.bind (·.approval)).any fun existing =>
        !sameApprovalSummary existing approval then .error .invalidEvent
    else .ok (state.applyApprovalRequested approval)

/-- The case `approval/resolved`. -/
def approvalResolvedCase (threadId : String)
    (parsed : Option (String × ApprovalDecision × String)) : Except ResyncReason TimelineState :=
  match parsed with
  | none => .error .invalidEvent
  | some (approvalId, decision, resolvedAt) =>
    let existing := state.approvalsById.lookup approvalId
    if existing.any fun existing => existing.threadId != threadId then .error .invalidEvent
    else .ok (state.applyApprovalResolved approvalId decision resolvedAt threadId)

/-- The `switch` of `applyThreadEvent`: the projection with the event, or the reason why it needs a
snapshot. -/
def projectThreadEvent (event : ThreadEvent Params) :
    Except ResyncReason TimelineState :=
  match event.method with
  | .threadChanged =>
    match schemas.threadChanged event.params with
    | none => .error .invalidEvent
    | some thread =>
      if thread.threadId ≠ event.threadId then .error .invalidEvent
      else .ok { state with threads := state.threads.insert event.threadId thread }
  | .turnStarted | .turnWaiting => state.turnCase event.threadId (schemas.turnEvent event.params)
  | .turnCompleted => state.turnCase event.threadId (schemas.turnCompleted event.params)
  | .itemStarted | .itemUpdated | .itemCompleted =>
    state.itemCase event.method event.threadId (schemas.itemEvent event.params)
  | .itemDelta => state.deltaCase event.threadId (schemas.itemDelta event.params)
  | .approvalRequested =>
    state.approvalRequestedCase event.threadId (schemas.approvalEvent event.params)
  | .approvalResolved =>
    state.approvalResolvedCase event.threadId (schemas.approvalResolved event.params)
  | .externalToolRequested =>
    match schemas.externalTool event.params with
    | none => .error .invalidEvent
    | some threadId =>
      if threadId.any (· != event.threadId) then .error .invalidEvent else .ok state

/-- The end of `applyThreadEvent`. -/
def advance (next : TimelineState) (event : ThreadEvent Params) : TimelineState :=
  let remembered := next.rememberEvent event.threadId (eventKey (.thread event))
  { remembered with
    threads :=
      match remembered.threads.lookup event.threadId with
      | some thread => remembered.threads.insert event.threadId { thread with lastSeq := event.seq }
      | none => remembered.threads
    lastSeqByThread := remembered.lastSeqByThread.insert event.threadId event.seq
    lastOutcome := some .applied }

def applyThreadEvent (event : ThreadEvent Params) : TimelineState :=
  let key := event.threadId
  let existingLastSeq := (state.lastSeqByThread.lookup key).getD 0
  if state.handshake.phase ≠ .ready then state.resync "runtime" .handshakeRequired .rejected
  else if (state.seenEventIds.lookup (eventKey (.thread event))).isSome then
    state.outcome .duplicate
  else if state.serverInstanceId ≠ some event.serverInstanceId then
    state.resync key .serverInstanceChanged .resyncRequired
  else if (state.resyncRequired.lookup key).isSome then state.outcome .resyncRequired
  else if event.seq ≤ existingLastSeq then state.resync key .lateEvent .late
  else if event.seq ≠ existingLastSeq + 1 then state.resync key .gap .gap
  else
    match state.projectThreadEvent schemas event with
    | .error reason => state.resync key reason .resyncRequired
    | .ok next => next.advance event

/-- The statuses that a runtime event may report. -/
def liveStatus : String → Option RuntimeStatusKind
  | "starting" => some .starting
  | "degraded" => some .degraded
  | "shutting_down" => some .shuttingDown
  | "stopped" => some .stopped
  | "crashed" => some .crashed
  | "incompatible" => some .incompatible
  | "faulted" => some .faulted
  | _ => none

/-- The runtime events of `applyLiveEvent`. -/
def applyRuntimeEvent (event : RuntimeEvent Params) : TimelineState :=
  let fingerprint := eventKey (.runtime event)
  let foreign := state.serverInstanceId.any (· != event.serverInstanceId)
  let remembered := state.rememberEvent "runtime" fingerprint
  let instanceId := some (state.serverInstanceId.getD event.serverInstanceId)
  if (state.seenEventIds.lookup fingerprint).isSome then state.outcome .duplicate
  else if event.method = .statusChanged then
    match (schemas.status event.params).bind liveStatus with
    | none => state.resync "runtime" .invalidEvent .resyncRequired
    | some status =>
      if foreign then state.resync "runtime" .serverInstanceChanged .resyncRequired
      else { remembered with
        serverInstanceId := instanceId
        runtime := some ⟨status, event.eventId, event.occurredAt, none⟩
        lastOutcome := some .applied }
  else if foreign then state.resync "runtime" .serverInstanceChanged .resyncRequired
  else { remembered with serverInstanceId := instanceId, lastOutcome := some .applied }

def applyLiveEvent (event : JaEvent Params) : TimelineState :=
  if state.handshake.phase ≠ .ready then state.resync "runtime" .handshakeRequired .rejected
  else
    match event with
    | .thread event => state.applyThreadEvent schemas event
    | .runtime event => state.applyRuntimeEvent schemas event

/-! ## Runs -/

variable (Params Raw) in
/-- The three entry points of the reducer. -/
inductive Action
  | runtimeStatus (status : HostRuntimeStatus) (now : String)
  | snapshot (snapshot : ThreadReadResult Raw)
  | event (event : JaEvent Params)

/-- The state after a call. -/
def after : Action Params Raw → TimelineState
  | .runtimeStatus status now => state.applyRuntimeStatus status now
  | .snapshot snapshot => state.applySnapshot schemas snapshot
  | .event event => state.applyLiveEvent schemas event

/-- A call of the reducer. -/
def Step (action : Action Params Raw) (next : TimelineState) : Prop :=
  next = state.after schemas action

/-- A state that some sequence of calls produces from the first one. -/
def Reachable : Prop :=
  ∃ actions, Run (Step schemas) createTimelineState actions state

end

end TimelineState

end JaDesktop.Ui
