import JaDesktop.Sidecar.Envelope
import JaDesktop.Ui.RuntimeEvents

/-!
# The schemas of the user interface

`parseEvent` and the schemas it projects with, on the tree of a notification.  The texts of a tree
are sequences of UTF-16 units on both sides.  The check of a time stamp and the integers that a
double stands for are the work of the schema library and of the engine, and are fields of `Zod`.
-/

namespace JaDesktop.Interop

open Sidecar (JavaNumber JsonNode ObjectNode java matchesHeadTail)
open Ui

/-- `z.string().datetime({ offset: true })`, and the integer that a double is. -/
structure Zod where
  datetime : JavaString → Bool
  integer : UInt64 → Option ℤ

/-- `Number.MAX_SAFE_INTEGER`. -/
def maxSafeInteger : ℤ := 9007199254740991

/-! ## Scalars -/

/-- `z.string().max(maxLength)`. -/
def readText (maxLength : ℕ) : JsonNode → Option JsString
  | .string s => if s.length ≤ maxLength then some s else none
  | _ => none

/-- The helper `id`. -/
def readId (head : String) (maxLength : ℕ) : JsonNode → Option String
  | .string s => if matchesHeadTail head s && s.length ≤ maxLength then utf16Decode s else none
  | _ => none

variable (zod : Zod)

/-- `timestampSchema`. -/
def readTimestamp : JsonNode → Option String
  | .string s => if zod.datetime s && s.length ≤ 64 then utf16Decode s else none
  | _ => none

/-- `z.number().int().min(low).max(high)`. -/
def readInteger (low high : ℤ) : JsonNode → Option ℤ
  | .number (.integral n) => if low ≤ n ∧ n ≤ high then some n else none
  | .number (.floating bits) => (zod.integer bits).filter fun n => low ≤ n && n ≤ high
  | _ => none

/-- `z.boolean()`. -/
def readBool : JsonNode → Option Bool
  | .bool b => some b
  | _ => none

/-- `z.enum`. -/
def readEnum {α : Type} (values : List (String × α)) : JsonNode → Option α
  | .string s => (values.find? fun entry => java entry.1 == s).map Prod.snd
  | _ => none

/-- `z.object`: an object. -/
def readObject : JsonNode → Option ObjectNode
  | .object fields => some fields
  | _ => none

/-- A member that has to be there. -/
def required {α : Type} (name : String) (read : JsonNode → Option α) (fields : ObjectNode) :
    Option α :=
  (ObjectNode.get (java name) fields).bind read

/-- `.optional()`. -/
def optional {α : Type} (name : String) (read : JsonNode → Option α) (fields : ObjectNode) :
    Option (Option α) :=
  match ObjectNode.get (java name) fields with
  | none => some none
  | some node => (read node).map some

/-- The pattern `^[A-Z][A-Z0-9_]{2,63}$`. -/
def matchesCode : JsString → Bool
  | [] => false
  | first :: rest => 0x41 ≤ first && first ≤ 0x5A && 2 ≤ rest.length && rest.length ≤ 63 &&
      rest.all fun u => (0x41 ≤ u && u ≤ 0x5A) || (0x30 ≤ u && u ≤ 0x39) || u == 0x5F

def readCode : JsonNode → Option String
  | .string s => if matchesCode s then utf16Decode s else none
  | _ => none

/-! ## Entities -/

def threadStatuses : List (String × ThreadStatus) :=
  [("idle", .idle), ("running", .running), ("waiting_approval", .waitingApproval),
    ("archived", .archived)]

def turnStatuses : List (String × TurnStatus) :=
  [("queued", .queued), ("running", .running), ("waiting_approval", .waitingApproval),
    ("interrupting", .interrupting), ("completed", .completed), ("interrupted", .interrupted),
    ("failed", .failed), ("aborted_by_runtime", .abortedByRuntime)]

def terminalStatuses : List (String × TurnStatus) :=
  [("completed", .completed), ("interrupted", .interrupted), ("failed", .failed),
    ("aborted_by_runtime", .abortedByRuntime)]

def accessModes : List (String × AccessMode) :=
  [("read_only", .readOnly), ("workspace", .workspace), ("full_access", .fullAccess)]

def itemKindNames : List (String × ItemKind) :=
  [("user_message", .userMessage), ("agent_message", .agentMessage), ("commentary", .commentary),
    ("tool_call", .toolCall), ("command", .command), ("file_change", .fileChange),
    ("approval", .approval)]

def itemStatuses : List (String × ItemStatus) :=
  [("started", .started), ("in_progress", .inProgress), ("completed", .completed),
    ("failed", .failed), ("cancelled", .cancelled)]

def actionKinds : List (String × ActionKind) :=
  [("file_read", .fileRead), ("file_write", .fileWrite), ("file_delete", .fileDelete),
    ("shell", .shell), ("mcp_tool", .mcpTool), ("external_tool", .externalTool)]

def risks : List (String × Risk) :=
  [("low", .low), ("medium", .medium), ("high", .high), ("critical", .critical)]

def decisions : List (String × ApprovalDecision) :=
  [("allow_once", .allowOnce), ("allow_session", .allowSession), ("deny", .deny),
    ("expired", .expired), ("disconnected", .disconnected)]

/-- `ThreadSchema`. -/
def readThread (node : JsonNode) : Option Thread := do
  let fields ← readObject node
  let threadId ← required "threadId" (readId "thr_" 100) fields
  let workspaceId ← required "workspaceId" (readId "ws_" 99) fields
  let title ← required "title" (readText 512) fields
  let status ← required "status" (readEnum threadStatuses) fields
  let lastSeq ← required "lastSeq" (readInteger zod 0 maxSafeInteger) fields
  let activeTurnId ← optional "activeTurnId" (readId "turn_" 101) fields
  return ⟨threadId, workspaceId, title, status, lastSeq.toNat, activeTurnId⟩

variable (node : JsonNode)

/-- `safeTurnErrorSchema`. -/
def readTurnError : Option TurnError := do
  let fields ← readObject node
  let code ← required "code" readCode fields
  let retryable ← required "retryable" readBool fields
  return ⟨code, retryable⟩

/-- `TurnSchema`. -/
def readTurn (node : JsonNode) : Option Turn := do
  let fields ← readObject node
  let turnId ← required "turnId" (readId "turn_" 101) fields
  let threadId ← required "threadId" (readId "thr_" 100) fields
  let status ← required "status" (readEnum turnStatuses) fields
  let accessMode ← required "accessMode" (readEnum accessModes) fields
  let startedAt ← optional "startedAt" (readTimestamp zod) fields
  let completedAt ← optional "completedAt" (readTimestamp zod) fields
  let error ← optional "error" readTurnError fields
  return ⟨turnId, threadId, status, accessMode, startedAt, completedAt, error⟩

/-- `ItemSchema`. -/
def readItem : Option Item := do
  let fields ← readObject node
  let itemId ← required "itemId" (readId "item_" 101) fields
  let turnId ← required "turnId" (readId "turn_" 101) fields
  let kind ← required "kind" (readEnum itemKindNames) fields
  let status ← required "status" (readEnum itemStatuses) fields
  let title ← optional "title" (readText 512) fields
  let text ← optional "text" (readText 1048576) fields
  return ⟨itemId, turnId, kind, status, title, text⟩

/-- `z.array(z.string().max(4096)).max(128)`. -/
def readPaths : JsonNode → Option (List JsString)
  | .array items => if items.length ≤ 128 then items.mapM (readText 4096) else none
  | _ => none

/-- `safeActionSchema`. -/
def readAction : Option SafeAction := do
  let fields ← readObject node
  let kind ← required "kind" (readEnum actionKinds) fields
  let command ← optional "command" (readText 4096) fields
  let cwd ← optional "cwd" (readText 4096) fields
  let relativePaths ← optional "relativePaths" readPaths fields
  return ⟨kind, command, cwd, relativePaths⟩

/-- `ApprovalSummarySchema`. -/
def readApproval (node : JsonNode) : Option ApprovalSummary := do
  let fields ← readObject node
  let approvalId ← required "approvalId" (readId "appr_" 101) fields
  let threadId ← required "threadId" (readId "thr_" 100) fields
  let turnId ← required "turnId" (readId "turn_" 101) fields
  let itemId ← required "itemId" (readId "item_" 101) fields
  let action ← required "action" readAction fields
  let risk ← required "risk" (readEnum risks) fields
  let accessMode ← required "accessMode" (readEnum accessModes) fields
  let expiresAt ← required "expiresAt" (readTimestamp zod) fields
  return ⟨approvalId, threadId, turnId, itemId, action, risk, accessMode, expiresAt⟩

/-! ## Parameters -/

/-- `ThreadChangedParamsSchema`. -/
def readThreadChanged (params : ObjectNode) : Option ProjectedParams := do
  let thread ← required "thread" (readThread zod) params
  let _ ← required "change" (readEnum [("created", ()), ("updated", ()), ("archived", ()),
    ("deleted", ())]) params
  return .thread thread

/-- `TurnEventParamsSchema`. -/
def readTurnEvent (params : ObjectNode) : Option ProjectedParams :=
  (required "turn" (readTurn zod) params).map fun turn => .turn turn none

/-- `TurnCompletedParamsSchema`. -/
def readTurnCompleted (params : ObjectNode) : Option ProjectedParams := do
  let turn ← required "turn" (readTurn zod) params
  let terminalStatus ← required "terminalStatus" (readEnum terminalStatuses) params
  if turn.status = terminalStatus then some (.turn turn (some terminalStatus)) else none

variable (params : ObjectNode)

/-- `ItemEventParamsSchema`. -/
def readItemEvent : Option ProjectedParams :=
  (required "item" readItem params).map .item

/-- `ItemDeltaParamsSchema`. -/
def readItemDelta : Option ProjectedParams := do
  let itemId ← required "itemId" (readId "item_" 101) params
  let delta ← required "delta" (readText 65536) params
  return .delta itemId delta

/-- `ApprovalEventParamsSchema`. -/
def readApprovalEvent (params : ObjectNode) : Option ProjectedParams :=
  (required "approval" (readApproval zod) params).map .approval

/-- `ApprovalResolvedParamsSchema`. -/
def readApprovalResolved (params : ObjectNode) : Option ProjectedParams := do
  let approvalId ← required "approvalId" (readId "appr_" 101) params
  let decision ← required "decision" (readEnum decisions) params
  let resolvedAt ← required "resolvedAt" (readTimestamp zod) params
  return .resolved approvalId decision resolvedAt

/-- `z.string().min(1).max(256)`. -/
def readToolName : Option JsString := (readText 256 node).filter (!·.isEmpty)

/-- `ExternalToolEventParamsSchema`. -/
def readExternalTool : Option ProjectedParams := do
  let _ ← required "externalRequestId" (readId "ext_" 100) params
  let _ ← required "toolName" readToolName params
  let threadId ← optional "threadId" (readId "thr_" 100) params
  let _ ← optional "turnId" (readId "turn_" 101) params
  let _ ← optional "itemId" (readId "item_" 101) params
  return .externalTool threadId

/-- The status kinds of the runtime. -/
def runtimeStatuses : List (String × String) :=
  ["starting", "ready", "shutting_down", "stopped", "crashed"].map fun status => (status, status)

/-- `isRuntimeGenerationValid`, for live events. -/
def generationValid (status : String) (generation : ℤ) : Bool :=
  0 < generation || status == "stopped" || status == "starting"

/-- `runtimeStatusParamsSchema`. -/
def readRuntimeStatus (params : ObjectNode) : Option ProjectedParams := do
  let status ← required "status" (readEnum runtimeStatuses) params
  let _ ← optional "reason" (readText 1024) params
  let health ← required "health" readObject params
  let generation ← required "generation" (readInteger zod 0 maxSafeInteger) health
  if generationValid status generation then some (.status (some status)) else none

/-- `runtimeNoticeParamsSchema`. -/
def readRuntimeNotice : Option ProjectedParams :=
  (required "code" readCode params).map fun _ => .status none

/-- `runtimeOverloadParamsSchema`. -/
def readRuntimeOverload (params : ObjectNode) : Option ProjectedParams := do
  let _ ← required "queue" (readEnum [("inbound", ()), ("outbound", ()), ("pending", ()),
    ("tool_output", ())]) params
  let _ ← required "retryable" readBool params
  let _ ← optional "retryAfterMs" (readInteger zod 1 3600000) params
  return .status none

/-! ## Events -/

mutual

/-- `assertSafePayload`: the count of objects and arrays after a node, `none` where it throws. -/
def assertSafePayload (depth nodes : ℕ) : JsonNode → Option ℕ
  | .array items =>
    if 64 < depth ∨ 20000 < nodes + 1 then none else assertSafeItems (depth + 1) (nodes + 1) items
  | .object fields =>
    if 64 < depth ∨ 20000 < nodes + 1 then none
    else assertSafeFields (depth + 1) (nodes + 1) fields
  | _ => if 64 < depth then none else some nodes

def assertSafeItems (depth nodes : ℕ) : List JsonNode → Option ℕ
  | [] => some nodes
  | child :: items =>
    (assertSafePayload depth nodes child).bind fun nodes => assertSafeItems depth nodes items

def assertSafeFields (depth nodes : ℕ) : ObjectNode → Option ℕ
  | [] => some nodes
  | (key, child) :: fields =>
    if key = java "__proto__" ∨ key = java "constructor" ∨ key = java "prototype" then none
    else (assertSafePayload depth nodes child).bind fun nodes => assertSafeFields depth nodes fields

end

/-- `threadMethodSchema`. -/
def threadMethods : List (String × ThreadEventMethod) :=
  [("thread/changed", .threadChanged), ("turn/started", .turnStarted), ("turn/waiting", .turnWaiting),
    ("turn/completed", .turnCompleted), ("item/started", .itemStarted), ("item/delta", .itemDelta),
    ("item/updated", .itemUpdated), ("item/completed", .itemCompleted),
    ("approval/requested", .approvalRequested), ("approval/resolved", .approvalResolved),
    ("externalTool/requested", .externalToolRequested)]

/-- `runtimeMethodSchema`. -/
def runtimeMethods : List (String × RuntimeEventMethod) :=
  [("runtime/statusChanged", .statusChanged), ("runtime/notice", .notice),
    ("runtime/overload", .overload)]

/-- The methods of the envelope. -/
def readMethod : Option (ThreadEventMethod ⊕ RuntimeEventMethod) :=
  match readEnum threadMethods node with
  | some method => some (.inl method)
  | none => (readEnum runtimeMethods node).map .inr

/-- `envelopeSchema`; what the identity is taken from are the two objects themselves. -/
def readEnvelope (node : JsonNode) :
    Option ((ThreadEventMethod ⊕ RuntimeEventMethod) × ObjectNode × ObjectNode) := do
  let root ← readObject node
  let _ ← required "jsonrpc" (readEnum [("2.0", ())]) root
  let method ← required "method" readMethod root
  let params ← required "params" readObject root
  let _ ← optional "serverInstanceId" (readId "srv_" 101) root
  let _ ← optional "threadId" (readId "thr_" 100) root
  let _ ← optional "seq" (readInteger zod 1 maxSafeInteger) root
  let _ ← optional "eventId" (readId "evt_" 100) root
  let _ ← optional "occurredAt" (readTimestamp zod) root
  return (method, root, params)

/-- `params[name] ?? root[name]`. -/
def identityField {α : Type} (name : String) (read : JsonNode → Option α)
    (params root : ObjectNode) : Option α :=
  match ObjectNode.get (java name) params with
  | none => required name read root
  | some .null => required name read root
  | some node => read node

/-- The `switch` over the methods of a thread. -/
def projectThread (params : ObjectNode) : ThreadEventMethod → Option ProjectedParams
  | .threadChanged => readThreadChanged zod params
  | .turnStarted | .turnWaiting => readTurnEvent zod params
  | .turnCompleted => readTurnCompleted zod params
  | .itemStarted | .itemUpdated | .itemCompleted => readItemEvent params
  | .itemDelta => readItemDelta params
  | .approvalRequested => readApprovalEvent zod params
  | .approvalResolved => readApprovalResolved zod params
  | .externalToolRequested => readExternalTool params

/-- The `switch` over the methods of the runtime. -/
def projectRuntime (params : ObjectNode) : RuntimeEventMethod → Option ProjectedParams
  | .statusChanged => readRuntimeStatus zod params
  | .notice => readRuntimeNotice params
  | .overload => readRuntimeOverload zod params

/-- The branch of `parseEvent` for an event of a thread. -/
def parseThreadEvent (method : ThreadEventMethod) (root params : ObjectNode) :
    Option (JaEvent ProjectedParams) := do
  let serverInstanceId ← identityField "serverInstanceId" (readId "srv_" 101) params root
  let threadId ← identityField "threadId" (readId "thr_" 100) params root
  let seq ← identityField "seq" (readInteger zod 1 maxSafeInteger) params root
  let eventId ← identityField "eventId" (readId "evt_" 100) params root
  let occurredAt ← identityField "occurredAt" (readTimestamp zod) params root
  let projected ← projectThread zod params method
  return .thread ⟨method, serverInstanceId, threadId, seq.toNat, eventId, occurredAt, projected⟩

/-- The branch of `parseEvent` for an event of the runtime. -/
def parseRuntimeEvent (method : RuntimeEventMethod) (root params : ObjectNode) :
    Option (JaEvent ProjectedParams) := do
  let serverInstanceId ← identityField "serverInstanceId" (readId "srv_" 101) params root
  let eventId ← identityField "eventId" (readId "evt_" 100) params root
  let occurredAt ← identityField "occurredAt" (readTimestamp zod) params root
  let projected ← projectRuntime zod params method
  return .runtime ⟨method, serverInstanceId, eventId, occurredAt, projected⟩

/-- `parseEvent`, `none` where it throws. -/
def parseEvent (value : JsonNode) : Option (JaEvent ProjectedParams) := do
  let _ ← assertSafePayload 0 0 value
  let (method, root, params) ← readEnvelope zod value
  match method with
  | .inl method => parseThreadEvent zod method root params
  | .inr method => parseRuntimeEvent zod method root params

end JaDesktop.Interop
