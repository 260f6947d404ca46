import JaDesktop.Lib.Text

/-!
# Events of the runtime at the user interface

The entities that the timeline shows, the live events and the snapshots, as the schemas of the
interface project them.  The schemas are checked by a library: what they make of the parameters of
an event, and of an event in a snapshot, are fields of `EventSchemas`.  Identifiers and time
stamps are ASCII texts; what a person reads is a text of UTF-16 units.
-/

namespace JaDesktop.Ui

/-- A text of UTF-16 units. -/
abbrev JsString := List UInt16

/-! ## Entities -/

inductive ThreadStatus
  | idle
  | running
  | waitingApproval
  | archived
deriving DecidableEq

structure Thread where
  threadId : String
  workspaceId : String
  title : JsString
  status : ThreadStatus
  lastSeq : ℕ
  activeTurnId : Option String
deriving DecidableEq

inductive TurnStatus
  | queued
  | running
  | waitingApproval
  | interrupting
  | completed
  | interrupted
  | failed
  | abortedByRuntime
deriving DecidableEq

inductive AccessMode
  | readOnly
  | workspace
  | fullAccess
deriving DecidableEq

/-- `safeTurnErrorSchema`. -/
structure TurnError where
  code : String
  retryable : Bool
deriving DecidableEq

structure Turn where
  turnId : String
  threadId : String
  status : TurnStatus
  accessMode : AccessMode
  startedAt : Option String
  completedAt : Option String
  error : Option TurnError
deriving DecidableEq

inductive ItemKind
  | userMessage
  | agentMessage
  | commentary
  | toolCall
  | command
  | fileChange
  | approval
deriving DecidableEq

inductive ItemStatus
  | started
  | inProgress
  | completed
  | failed
  | cancelled
deriving DecidableEq

structure Item where
  itemId : String
  turnId : String
  kind : ItemKind
  status : ItemStatus
  title : Option JsString
  text : Option JsString
deriving DecidableEq

inductive ActionKind
  | fileRead
  | fileWrite
  | fileDelete
  | shell
  | mcpTool
  | externalTool
deriving DecidableEq

/-- `safeActionSchema`. -/
structure SafeAction where
  kind : ActionKind
  command : Option JsString
  cwd : Option JsString
  relativePaths : Option (List JsString)
deriving DecidableEq

inductive Risk
  | low
  | medium
  | high
  | critical
deriving DecidableEq

structure ApprovalSummary where
  approvalId : String
  threadId : String
  turnId : String
  itemId : String
  action : SafeAction
  risk : Risk
  accessMode : AccessMode
  expiresAt : String
deriving DecidableEq

inductive ApprovalDecision
  | allowOnce
  | allowSession
  | deny
  | expired
  | disconnected
deriving DecidableEq

/-! ## Events -/

inductive ThreadEventMethod
  | threadChanged
  | turnStarted
  | turnWaiting
  | turnCompleted
  | itemStarted
  | itemDelta
  | itemUpdated
  | itemCompleted
  | approvalRequested
  | approvalResolved
  | externalToolRequested
deriving DecidableEq

inductive RuntimeEventMethod
  | statusChanged
  | notice
  | overload
deriving DecidableEq

section

variable (Params : Type)

structure ThreadEvent where
  method : ThreadEventMethod
  serverInstanceId : String
  threadId : String
  seq : ℕ
  eventId : String
  occurredAt : String
  params : Params

structure RuntimeEvent where
  method : RuntimeEventMethod
  serverInstanceId : String
  eventId : String
  occurredAt : String
  params : Params

inductive JaEvent
  | thread (event : ThreadEvent Params)
  | runtime (event : RuntimeEvent Params)

end

structure ThreadReadResult (Raw : Type) where
  serverInstanceId : String
  thread : Thread
  items : List Item
  snapshotSeq : ℕ
  events : Option (List Raw)
  nextSeq : Option ℕ

/-- What the schemas make of the parameters of an event, `none` where they throw; `status` is the
member of the parameters with this name, and `parseEvent` reads an event of a snapshot. -/
structure EventSchemas (Params Raw : Type) where
  threadChanged : Params → Option Thread
  turnEvent : Params → Option Turn
  turnCompleted : Params → Option Turn
  itemEvent : Params → Option Item
  itemDelta : Params → Option (String × JsString)
  approvalEvent : Params → Option ApprovalSummary
  approvalResolved : Params → Option (String × ApprovalDecision × String)
  externalTool : Params → Option (Option String)
  status : Params → Option String
  parseEvent : Raw → Option (JaEvent Params)

/-- The parameters of an event behind `parseEvent`. -/
inductive ProjectedParams
  | thread (thread : Thread)
  | turn (turn : Turn) (terminalStatus : Option TurnStatus)
  | item (item : Item)
  | delta (itemId : String) (delta : JsString)
  | approval (approval : ApprovalSummary)
  | resolved (approvalId : String) (decision : ApprovalDecision) (resolvedAt : String)
  | externalTool (threadId : Option String)
  | status (status : Option String)

/-- The schemas on parameters with valid members, which they leave as they are. -/
def projectedSchemas : EventSchemas ProjectedParams (JaEvent ProjectedParams) where
  threadChanged
    | .thread thread => some thread
    | _ => none
  turnEvent
    | .turn turn _ => some turn
    | _ => none
  turnCompleted
    | .turn turn terminalStatus => if terminalStatus = some turn.status then some turn else none
    | _ => none
  itemEvent
    | .item item => some item
    | _ => none
  itemDelta
    | .delta itemId delta => some (itemId, delta)
    | _ => none
  approvalEvent
    | .approval approval => some approval
    | _ => none
  approvalResolved
    | .resolved approvalId decision resolvedAt => some (approvalId, decision, resolvedAt)
    | _ => none
  externalTool
    | .externalTool threadId => some threadId
    | _ => none
  status
    | .status status => status
    | _ => none
  parseEvent := some

/-- The UTF-8 bytes of a unit on its own; a surrogate without its partner is written as U+FFFD. -/
def unitByteLength (u : UInt16) : ℕ :=
  if u.toNat < 0x80 then 1 else if u.toNat < 0x800 then 2 else 3

def utf8ByteLength : JsString → ℕ
  | [] => 0
  | [u] => unitByteLength u
  | u :: next :: rest =>
    if isHighSurrogate u && isLowSurrogate next then 4 + utf8ByteLength rest
    else unitByteLength u + utf8ByteLength (next :: rest)

end JaDesktop.Ui
