import Mathlib.Algebra.Order.Ring.Int
import JaDesktop.Lib.Triples
import JaDesktop.Sidecar.EventNormalizerPolicy

/-!
# The event normalizer

`EventNormalizer`: the events of AgentScope become items and turn events of the protocol.  The state
of one turn is a `Context`; a failure leaves what was written to it.  The sequence counter of the
thread and the readings of the clock are counters of the context.
-/

namespace JaDesktop.Sidecar

open EventNormalizerPolicy

structure TurnEvent where
  method : String
  params : ObjectNode

/-! ## Instants -/

def isDigit (u : UInt16) : Bool := 0x30 ≤ u && u ≤ 0x39

/-- The units follow a template in which `0` stands for a digit. -/
def matchesTemplate (template : String) (s : JavaString) : Bool :=
  s.length == (java template).length &&
    ((java template).zip s).all fun pair => if pair.1 == 0x30 then isDigit pair.2 else pair.1 == pair.2

/-- `Instant.toString` before the year 10000: no fraction, or one of three, six or nine digits. -/
def isIsoInstant (s : JavaString) : Bool :=
  matchesTemplate "0000-00-00T00:00:00Z" s || matchesTemplate "0000-00-00T00:00:00.000Z" s ||
    matchesTemplate "0000-00-00T00:00:00.000000Z" s ||
    matchesTemplate "0000-00-00T00:00:00.000000000Z" s

/-- The text of an instant. -/
abbrev InstantText := {s : JavaString // isIsoInstant s = true}

/-! ## Contexts -/

inductive ItemKind
  | userMessage
  | agentMessage
  | commentary
  | reasoningSummary
  | plan
  | toolCall
  | command
  | fileChange
  | approval
  | subagent
  | contextCompaction
  | runtimeNotice
deriving DecidableEq

/-- `ItemKind.name`. -/
def ItemKind.name : ItemKind → String
  | .userMessage => "USER_MESSAGE"
  | .agentMessage => "AGENT_MESSAGE"
  | .commentary => "COMMENTARY"
  | .reasoningSummary => "REASONING_SUMMARY"
  | .plan => "PLAN"
  | .toolCall => "TOOL_CALL"
  | .command => "COMMAND"
  | .fileChange => "FILE_CHANGE"
  | .approval => "APPROVAL"
  | .subagent => "SUBAGENT"
  | .contextCompaction => "CONTEXT_COMPACTION"
  | .runtimeNotice => "RUNTIME_NOTICE"

structure ItemAccumulator where
  itemId : JavaString
  kind : ItemKind
  title : JavaString
  hidden : Bool
  text : JavaString := []
  metadata : List (String × MetadataValue) := []
  bytes : ℕ := 0
  ended : Bool := false
  redactionMarkerAdded : Bool := false

/-- `EventNormalizer.Limits`. -/
structure Limits where
  maxEvents : ℕ
  maxItems : ℕ
  maxMetadataBytes : ℕ
  maxItemTextBytes : ℕ
  maxEventBytes : ℕ
  maxEventBytesTotal : ℕ

/-- `Limits.defaults`. -/
def Limits.defaults : Limits :=
  ⟨20000, 4096, 1048576, 1048576, 4 * 1024 * 1024, 64 * 1024 * 1024⟩

/-- `EventNormalizer`, with the readings of its clock. -/
structure EventNormalizer where
  serverInstanceId : ServerInstanceId
  limits : Limits
  sha256 : Sha256
  clock : ℕ → InstantText

/-- `EventNormalizer.Context`; the items are in the order of their creation. -/
structure Context where
  threadId : DomainId "thr_"
  turnId : DomainId "turn_"
  mode : JavaString
  accessMode : JavaString
  instanceSequence : ℕ
  items : List (JavaString × ItemAccumulator) := []
  started : Bool := false
  terminal : Bool := false
  hasVisibleText : Bool := false
  overflow : Bool := false
  eventCount : ℕ := 0
  eventBytes : ℕ := 0
  metadataBytes : ℕ := 0
  threadSequence : Int64 := 0
  readings : ℕ := 0

/-- A program of the normalizer. -/
abbrev Normalizing := ExceptT NormalizeFailure (StateM Context)

/-- `EventNormalizer.open`. -/
def openContext (threadId : DomainId "thr_") (turnId : DomainId "turn_")
    (mode accessMode : JavaString) (instanceSequence : ℕ) (threadSequence : Int64) :
    Except NormalizeFailure Context := do
  let mode ← EventNormalizerPolicy.bounded (some mode)
  let accessMode ← EventNormalizerPolicy.bounded (some accessMode)
  return { threadId, turnId, mode, accessMode, instanceSequence, threadSequence }

/-- The item under a key is replaced in its place, or added at the end. -/
def setItem (key : JavaString) (item : ItemAccumulator) :
    List (JavaString × ItemAccumulator) → List (JavaString × ItemAccumulator)
  | [] => [(key, item)]
  | entry :: items =>
    if entry.1 = key then (key, item) :: items else entry :: setItem key item items

def Context.setItem (context : Context) (key : JavaString) (item : ItemAccumulator) : Context :=
  { context with items := Sidecar.setItem key item context.items }

/-- A value of the metadata is replaced in its place, or added at the end. -/
def putEntry (key : String) (value : MetadataValue) :
    List (String × MetadataValue) → List (String × MetadataValue)
  | [] => [(key, value)]
  | entry :: entries =>
    if entry.1 = key then (key, value) :: entries else entry :: putEntry key value entries

/-! ## The size of an event -/

/-- The bytes of a unit in JSON text; a surrogate is counted with half of its pair. -/
def escapedBytes (u : UInt16) : ℕ :=
  if u == 0x22 || u == 0x5C || u == 0x08 || u == 0x09 || u == 0x0A || u == 0x0C || u == 0x0D then 2
  else if u < 0x20 then 6
  else if isHighSurrogate u || isLowSurrogate u then 2
  else unitBytes u

def stringBytes (s : JavaString) : ℕ := 2 + (s.map escapedBytes).sum

mutual

/-- The bytes of `toString` of a tree; a double, which no event has, is taken at its longest. -/
def jsonBytes : JsonNode → ℕ
  | .null => 4
  | .bool true => 4
  | .bool false => 5
  | .number (.integral n) => (toString n).length
  | .number (.floating _) => 24
  | .string s => stringBytes s
  | .array items => 2 + itemsBytes items
  | .object fields => 2 + fieldsBytes fields

/-- The items, with a comma after each: one more than there is. -/
def itemsBytes : List JsonNode → ℕ
  | [] => 0
  | [item] => jsonBytes item
  | item :: items => jsonBytes item + 1 + itemsBytes items

def fieldsBytes : ObjectNode → ℕ
  | [] => 0
  | [(key, value)] => stringBytes key + 1 + jsonBytes value
  | (key, value) :: fields => stringBytes key + 1 + jsonBytes value + 1 + fieldsBytes fields

end

/-- `safeByteCount(event.params().toString())`. -/
def TurnEvent.byteCount (event : TurnEvent) : Except NormalizeFailure ℕ :=
  if unicodeTree (.object event.params) then .ok (min (jsonBytes (.object event.params)) maxInteger)
  else .error .argument

namespace EventNormalizer

/-! ## Envelopes -/

/-- `context.overflow = true`, and the exception. -/
def overBudget {α : Type} (failure : NormalizeFailure) : Normalizing α := do
  modify fun context => { context with overflow := true }
  throw failure

variable (normalizer : EventNormalizer)

/-- `clock.instant().toString()`. -/
def now : Normalizing JavaString := do
  let context ← get
  modify fun context => { context with readings := context.readings + 1 }
  return (normalizer.clock context.readings).val

/-- The identity of an event, before its digest. -/
def eventSeed (context : Context) (seq : Int64) : JavaString :=
  normalizer.serverInstanceId.val ++ java "|" ++ context.threadId.val ++ java "|" ++
    context.turnId.val ++ java "|" ++ java (toString context.instanceSequence) ++ java "|" ++
    java (toString seq.toInt)

/-- The fields that every event begins with. -/
def baseFields (context : Context) (seq : Int64)
    (eventId occurredAt : JavaString) : ObjectNode :=
  [(java "serverInstanceId", .string normalizer.serverInstanceId.val),
    (java "threadId", .string context.threadId.val), (java "turnId", .string context.turnId.val),
    (java "seq", .number (.integral seq.toInt)), (java "eventId", .string eventId),
    (java "occurredAt", .string occurredAt)]

/-- The part of `base` behind its budget check. -/
def takeSequence : Normalizing ObjectNode := do
  let context ← get
  let seq := context.threadSequence + 1
  modify fun context =>
    { context with threadSequence := seq, eventCount := context.eventCount + 1 }
  let hash ← liftExcept (digest normalizer.sha256 (eventSeed normalizer context seq))
  let occurredAt ← now normalizer
  return baseFields normalizer context seq (java "evt_as_" ++ hash) occurredAt

def base (terminal : Bool) : Normalizing ObjectNode := do
  let context ← get
  if !terminal && context.eventCount ≥ normalizer.limits.maxEvents then overBudget .budget
  else takeSequence normalizer

/-- The loop of `enforceEventBudget`. -/
def chargeEvents (normalizer : EventNormalizer) (terminal : Bool) :
    List TurnEvent → Normalizing Unit
  | [] => pure ()
  | event :: events => do
    let bytes ← liftExcept event.byteCount
    if bytes > normalizer.limits.maxEventBytes then overBudget .budget
    else if terminal then chargeEvents normalizer terminal events
    else do
      let context ← get
      if context.eventBytes + bytes > normalizer.limits.maxEventBytesTotal then overBudget .budget
      else do
        modify fun context => { context with eventBytes := context.eventBytes + bytes }
        chargeEvents normalizer terminal events

def enforceEventBudget (events : List TurnEvent) (terminal : Bool) :
    Normalizing (List TurnEvent) := do
  chargeEvents normalizer terminal events
  return events

/-! ## Snapshots -/

/-- The metadata of a snapshot. -/
def metadataNode : MetadataValue → Except NormalizeFailure JsonNode
  | .number n => .ok (.number (.integral n))
  | .bool b => .ok (.bool b)
  | .text s => (EventNormalizerPolicy.bounded (some s)).map .string

def metadataField (entry : String × MetadataValue) : Except NormalizeFailure (JavaString × JsonNode) :=
  (metadataNode entry.2).map fun node => (java entry.1, node)

/-- The fields of a snapshot after its title. -/
def snapshotTail (item : ItemAccumulator) (metadata : ObjectNode) : ObjectNode :=
  (if item.hidden then [] else [(java "text", .string item.text)]) ++
    (if item.metadata.isEmpty then [] else [(java "metadata", .object metadata)])

def snapshot (turnId : DomainId "turn_") (item : ItemAccumulator) (status : String) :
    Except NormalizeFailure JsonNode := do
  let title ← EventNormalizerPolicy.bounded (some item.title)
  let metadata ← item.metadata.mapM metadataField
  return .object ([(java "itemId", .string item.itemId), (java "turnId", .string turnId.val),
    (java "kind", .string (lowerAscii (java item.kind.name))),
    (java "status", .string (java status)), (java "title", .string title)] ++
    snapshotTail item metadata)

/-- An event that carries a snapshot. -/
def itemEvent (method : String) (item : ItemAccumulator)
    (status : String) (terminal : Bool) : Normalizing TurnEvent := do
  let params ← base normalizer terminal
  let context ← get
  let node ← liftExcept (snapshot context.turnId item status)
  return ⟨method, ObjectNode.set (java "item") node params⟩

variable (context : Context)

def turnSnapshot (status : String) (startedAt : JavaString) : ObjectNode :=
  [(java "turnId", .string context.turnId.val), (java "threadId", .string context.threadId.val),
    (java "status", .string (java status)), (java "mode", .string context.mode),
    (java "accessMode", .string context.accessMode), (java "startedAt", .string startedAt)]

/-! ## Items -/

def startBlock (rawKey : Option JavaString) (kind : ItemKind)
    (title : JavaString) (hidden : Bool) : Normalizing (List TurnEvent) := do
  let key ← liftExcept (key normalizer.sha256 rawKey (java kind.name))
  let context ← get
  if (context.items.lookup key).isSome then return []
  else if context.items.length ≥ normalizer.limits.maxItems then overBudget .budget
  else do
    let hash ← liftExcept (digest normalizer.sha256
      (context.threadId.val ++ java "|" ++ context.turnId.val ++ java "|" ++ key))
    let item : ItemAccumulator := { itemId := java "item_as_" ++ hash, kind, title, hidden }
    modify fun context => context.setItem key item
    let event ← itemEvent normalizer "item/started" item "started" false
    return [event]

/-- The categories that `findBlock` looks through. -/
def categories (hidden : Bool) : List ItemKind :=
  if hidden then [.commentary, .command, .approval]
  else [.agentMessage, .toolCall, .command, .commentary]

/-- The loop of `findBlock`. -/
def findAmong (normalizer : EventNormalizer) (context : Context) (rawKey : Option JavaString) :
    List ItemKind → Except NormalizeFailure (Option (JavaString × ItemAccumulator))
  | [] => .ok none
  | category :: rest => do
    let key ← key normalizer.sha256 rawKey (java category.name)
    match context.items.lookup key with
    | some item => .ok (some (key, item))
    | none => findAmong normalizer context rawKey rest

def findBlock (rawKey : Option JavaString) (hidden : Bool) :
    Normalizing (Option (JavaString × ItemAccumulator)) := do
  let context ← get
  liftExcept (findAmong normalizer context rawKey (categories hidden))

/-- The start of a block that is appended to before it was started. -/
def allocateBlock (rawKey : Option JavaString) (hidden : Bool) :
    Option (JavaString × ItemAccumulator) → Normalizing (List TurnEvent)
  | some _ => pure []
  | none => startBlock normalizer rawKey (if hidden then .commentary else .agentMessage)
      (java (if hidden then "Data output" else "Agent response")) hidden

/-- The item with the text appended. -/
def ItemAccumulator.append (item : ItemAccumulator) (text : JavaString) (hidden : Bool)
    (bytes : ℕ) : ItemAccumulator :=
  { item with text := if hidden then item.text else item.text ++ text, bytes := item.bytes + bytes }

/-- The fields of a delta after its base. -/
def deltaFields (itemId text : JavaString) (hidden : Bool) (bytes : ℕ) : ObjectNode :=
  [(java "itemId", .string itemId), (java "delta", .string (if hidden then [] else text)),
    (java "deltaBytes", .number (.integral (if hidden then 0 else bytes)))] ++
    (if hidden then [(java "hidden", .bool true)] else [])

/-- The part of `appendBlock` that appends a text to a block. -/
def appendText (key : JavaString) (item : ItemAccumulator)
    (text : JavaString) (hidden : Bool) : Normalizing TurnEvent := do
  let remainingBytes := normalizer.limits.maxItemTextBytes - item.bytes
  let bytes ← liftExcept (utf8BytesAtMost text remainingBytes)
  if bytes > remainingBytes then overBudget .argument
  else do
    modify fun context => { context.setItem key (ItemAccumulator.append item text hidden bytes) with
      hasVisibleText :=
        context.hasVisibleText || (!hidden && decide (item.kind = .agentMessage)) }
    let params ← base normalizer false
    return ⟨"item/delta", params ++ deltaFields item.itemId text hidden bytes⟩

def appendBlock (rawKey : Option JavaString)
    (text : Option JavaString) (hidden : Bool) : Normalizing (List TurnEvent) := do
  let first ← findBlock normalizer rawKey hidden
  let started ← allocateBlock normalizer rawKey hidden first
  let found ← findBlock normalizer rawKey hidden
  match found, text with
  | none, _ => overBudget .budget
  | some _, none => return started
  | some _, some [] => return started
  | some (key, item), some (u :: units) => do
    let event ← appendText normalizer key item (u :: units) hidden
    return started ++ [event]

/-- The search of `endBlock`. -/
def findAnyBlock (rawKey : Option JavaString) :
    Normalizing (Option (JavaString × ItemAccumulator)) := do
  let found ← findBlock normalizer rawKey false
  match found with
  | some entry => return some entry
  | none => findBlock normalizer rawKey true

def endBlock (rawKey : Option JavaString) :
    Normalizing (List TurnEvent) := do
  let found ← findAnyBlock normalizer rawKey
  match found with
  | none => return []
  | some (key, item) =>
    if item.ended then return []
    else do
      let closed := { item with ended := true }
      modify fun context => context.setItem key closed
      let event ← itemEvent normalizer "item/completed" closed "completed" false
      return [event]

/-- The item under a key, with an entry of its metadata replaced. -/
def Context.putEntry (key : JavaString) (name : String)
    (value : MetadataValue) : Context :=
  match context.items.lookup key with
  | some item => context.setItem key { item with metadata := Sidecar.putEntry name value item.metadata }
  | none => context

/-- `putMetadata`, on the item under a key. -/
def putMetadata (key : JavaString) (name : String)
    (value : MetadataValue) : Normalizing Unit := do
  if safeMetadataKeys.contains name then do
    let safeValue ← liftExcept (safeMetadataValue normalizer.sha256 value)
    let context ← get
    let old := (context.items.lookup key).bind fun item => item.metadata.lookup name
    let oldBytes ← liftExcept (old.elim (.ok 0) (metadataCost name))
    let newBytes ← liftExcept (metadataCost name safeValue)
    if context.metadataBytes + newBytes > normalizer.limits.maxMetadataBytes + oldBytes then
      overBudget .budget
    else
      modify fun context => { Context.putEntry context key name safeValue with
        metadataBytes := context.metadataBytes + newBytes - oldBytes }
  else return ()

/-- Several entries, one after the other. -/
def putAll (normalizer : EventNormalizer) (key : JavaString) :
    List (String × MetadataValue) → Normalizing Unit
  | [] => pure ()
  | entry :: entries => do
    putMetadata normalizer key entry.1 entry.2
    putAll normalizer key entries

def rewriteStartedItem (events : List TurnEvent) (key : JavaString) :
    Normalizing (List TurnEvent) := do
  let context ← get
  match events, context.items.lookup key with
  | event :: rest, some item =>
    if event.method = "item/started" then do
      let node ← liftExcept (snapshot context.turnId item "started")
      return ⟨"item/started", ObjectNode.set (java "item") node event.params⟩ :: rest
    else return event :: rest
  | events, _ => return events

/-- The metadata of an item, and its start snapshot again. -/
def describe (started : List TurnEvent) (key : JavaString)
    (entries : List (String × MetadataValue)) : Normalizing (List TurnEvent) := do
  putAll normalizer key entries
  rewriteStartedItem started key

/-- `String.valueOf` of a text that may be missing, as in a concatenation. -/
def orNull (value : Option JavaString) : JavaString := value.getD (java "null")

def commentaryNotice (rawKey : JavaString) (title : String)
    (metadata : List (String × MetadataValue)) : Normalizing (List TurnEvent) := do
  let started ← startBlock normalizer (some rawKey) .commentary (java title) false
  let key ← liftExcept (key normalizer.sha256 (some rawKey) (java ItemKind.commentary.name))
  let described ← describe normalizer started key metadata
  let ended ← endBlock normalizer (some rawKey)
  return described ++ ended

/-! ## Terminal events -/

/-- The close event of one item; the item is looked up as the loop reaches it. -/
def closeItem (status : String) (key : JavaString) :
    Normalizing (List TurnEvent) := do
  let context ← get
  match context.items.lookup key with
  | none => return []
  | some item =>
    if item.ended then return []
    else do
      let closed := { item with ended := true }
      modify fun context => context.setItem key closed
      let event ← itemEvent normalizer "item/completed" closed status true
      return [event]

/-- The loop of `terminal` over the items. -/
def closeItems (normalizer : EventNormalizer) (status : String) :
    List JavaString → Normalizing (List TurnEvent)
  | [] => return []
  | key :: keys => do
    let event ← closeItem normalizer status key
    let events ← closeItems normalizer status keys
    return event ++ events

/-- A field for the reason, unless it is empty. -/
def reasonField (reason : String) : ObjectNode :=
  if reason = "" then [] else [(java "reason", .string (java reason))]

/-- The turn of a terminal event. -/
def terminalTurn (status reason : String) (completedAt : JavaString) :
    ObjectNode :=
  [(java "turnId", .string context.turnId.val), (java "threadId", .string context.threadId.val),
    (java "status", .string (java status)), (java "terminalStatus", .string (java status)),
    (java "mode", .string context.mode), (java "accessMode", .string context.accessMode)] ++
    (reasonField reason ++ [(java "completedAt", .string completedAt)])

/-- The turn of a compact terminal event. -/
def compactTurn (status reason : String) : ObjectNode :=
  [(java "turnId", .string context.turnId.val), (java "threadId", .string context.threadId.val),
    (java "status", .string (java status)), (java "terminalStatus", .string (java status))] ++
    reasonField reason

/-- `compactTerminal`; the reason was made safe by its caller. -/
def compactTerminal (status reason : String) :
    Normalizing TurnEvent := do
  let params ← base normalizer true
  let context ← get
  let compact : TurnEvent := ⟨"turn/completed",
    ObjectNode.set (java "turn") (.object (compactTurn context (terminalStatus status) reason)) params⟩
  let bytes ← liftExcept compact.byteCount
  if bytes > normalizer.limits.maxEventBytes then overBudget .budget
  else return compact

/-- Some event is over the limit; the first one whose text is malformed ends the search. -/
def anyOversized (normalizer : EventNormalizer) : List TurnEvent → Except NormalizeFailure Bool
  | [] => .ok false
  | event :: events => do
    let bytes ← event.byteCount
    if bytes > normalizer.limits.maxEventBytes then .ok true else anyOversized normalizer events

/-- The events of a terminal call, replaced by the compact one when one of them is too large. -/
def compactOversized (status reason : String)
    (events : List TurnEvent) : Normalizing (List TurnEvent) := do
  let oversized ← liftExcept (anyOversized normalizer events)
  if oversized then do
    let compact ← compactTerminal normalizer status reason
    return [compact]
  else return events

/-- The status of `terminal`: its `switch` is the one of `terminalStatus`. -/
def closeTurn (status : String) (reason : Option JavaString) :
    Normalizing (List TurnEvent) := do
  modify fun context => { context with terminal := true }
  let context ← get
  let closed ← closeItems normalizer (terminalStatus status) (context.items.map Prod.fst)
  let params ← base normalizer true
  let completedAt ← now normalizer
  let context ← get
  let event : TurnEvent := ⟨"turn/completed", ObjectNode.set (java "turn")
    (.object (terminalTurn context (terminalStatus status) (terminalReason reason) completedAt))
      params⟩
  let events ← compactOversized normalizer (terminalStatus status) (terminalReason reason)
    (closed ++ [event])
  enforceEventBudget normalizer events true

def terminal (status : String) (reason : Option JavaString) :
    Normalizing (List TurnEvent) := do
  let context ← get
  if context.terminal then return [] else closeTurn normalizer status reason

/-! ## Tools, hints and approvals -/

/-- The four entries of a tool item when it starts. -/
def toolEntries (operation toolName kind : JavaString) : List (String × MetadataValue) :=
  [("toolCallId", .text operation), ("toolName", .text toolName), ("toolKind", .text kind),
    ("status", .text (java "started"))]

/-- `normalizeToolCallStart` and `normalizeToolResultStart`, which differ in their item. -/
def startTool (rawKey : Option JavaString) (kind : ItemKind)
    (title : String) (toolCallId toolCallName : Option JavaString) :
    Normalizing (List TurnEvent) := do
  let toolName ← liftExcept (safeToolName normalizer.sha256 toolCallName)
  let started ← startBlock normalizer rawKey kind (java title ++ toolName) false
  let key ← liftExcept (key normalizer.sha256 rawKey (java kind.name))
  let operation ← liftExcept (operationId normalizer.sha256 toolCallId)
  let kindName ← liftExcept (toolKind normalizer.sha256 toolCallName)
  describe normalizer started key (toolEntries operation toolName kindName)

/-- The key of a tool's result. -/
def resultKey (toolCallId : Option JavaString) : JavaString := java "result:" ++ orNull toolCallId

/-- The status of a tool item at its end. -/
def markCompleted :
    Option (JavaString × ItemAccumulator) → Normalizing Unit
  | some entry => putMetadata normalizer entry.1 "status" (.text (java "completed"))
  | none => pure ()

/-- `normalizeToolCallEnd` and `normalizeToolResultEnd`. -/
def endTool (rawKey : Option JavaString) :
    Normalizing (List TurnEvent) := do
  let found ← findBlock normalizer rawKey false
  markCompleted normalizer found
  endBlock normalizer rawKey

def isResultKey (rawKey : Option JavaString) : Bool :=
  rawKey.any fun raw => (java "result:").isPrefixOf raw

/-- The start of a tool item whose payload comes first. -/
def allocateTool (rawKey : Option JavaString) :
    Option (JavaString × ItemAccumulator) → Normalizing (List TurnEvent)
  | some _ => pure []
  | none => startBlock normalizer rawKey (if isResultKey rawKey then .command else .toolCall)
      (java (if isResultKey rawKey then "Tool result" else "Tool call")) false

/-- The item under a key has its marker. -/
def Context.markRedacted (key : JavaString) : Context :=
  match context.items.lookup key with
  | some item => context.setItem key { item with redactionMarkerAdded := true }
  | none => context

/-- The part of `appendSafeToolDelta` for an item that is open. -/
def redactPayload (rawKey : Option JavaString) (key : JavaString)
    (marked : Bool) (marker : String) (payload : Option JavaString) :
    Normalizing (List TurnEvent) := do
  let bytes ← liftExcept (safeByteCount payload)
  putMetadata normalizer key (if isResultKey rawKey then "outputBytes" else "inputBytes")
    (.number bytes)
  if marked then return []
  else do
    modify fun context => Context.markRedacted context key
    appendBlock normalizer rawKey (some (java marker)) false

def appendSafeToolDelta (rawKey : Option JavaString)
    (marker : String) (payload : Option JavaString) : Normalizing (List TurnEvent) := do
  let first ← findBlock normalizer rawKey false
  let started ← allocateTool normalizer rawKey first
  let found ← findBlock normalizer rawKey false
  match found with
  | none => return started
  | some (key, item) =>
    if item.ended then return started
    else do
      let events ← redactPayload normalizer rawKey key item.redactionMarkerAdded marker payload
      return started ++ events

def normalizeApproval (toolCount : ℕ) :
    Normalizing (List TurnEvent) := do
  let rawKey := java "approval:user confirmation"
  let started ← startBlock normalizer (some rawKey) .approval (java "user confirmation") true
  let key ← liftExcept (key normalizer.sha256 (some rawKey) (java ItemKind.approval.name))
  describe normalizer started key [("toolCount", .number toolCount),
    ("requiresUserAction", .bool true), ("status", .text (java "waiting"))]

def normalizeHint (blockId hintSource hint : Option JavaString) :
    Normalizing (List TurnEvent) := do
  let rawKey := java "hint:" ++ orNull blockId
  let started ← startBlock normalizer (some rawKey) .commentary (java "Agent hint") true
  let appended ← appendBlock normalizer (some rawKey) (some []) true
  let key ← liftExcept (key normalizer.sha256 (some rawKey) (java ItemKind.commentary.name))
  let source ← liftExcept (safeIdentifier normalizer.sha256 hintSource)
  putMetadata normalizer key "hintSource" (.text source)
  let bytes ← liftExcept (safeByteCount hint)
  putMetadata normalizer key "outputBytes" (.number bytes)
  putMetadata normalizer key "status" (.text (java "observed"))
  let described ← rewriteStartedItem (started ++ appended) key
  let ended ← endBlock normalizer (some rawKey)
  return described ++ ended

/-! ## Events of AgentScope -/

/-- The events of AgentScope with what the normalizer reads of them.  `other` is an event that it
does not know, or one without a type. -/
inductive AgentEvent
  | agentStart (name : Option JavaString)
  | agentEnd
  | agentResult (text : Option JavaString)
  | modelCallStart (replyId : Option JavaString)
  | modelCallEnd (replyId : Option JavaString) (usage : Option (ℤ × ℤ))
  | textBlockStart (blockId : Option JavaString)
  | textBlockDelta (blockId delta : Option JavaString)
  | textBlockEnd (blockId : Option JavaString)
  | thinkingBlock
  | dataBlockStart (blockId : Option JavaString)
  | dataBlockDelta (blockId delta : Option JavaString)
  | dataBlockEnd (blockId : Option JavaString)
  | toolCallStart (toolCallId toolCallName : Option JavaString)
  | toolCallDelta (toolCallId delta : Option JavaString)
  | toolCallEnd (toolCallId : Option JavaString)
  | toolResultStart (toolCallId toolCallName : Option JavaString)
  | toolResultTextDelta (toolCallId delta : Option JavaString)
  | toolResultDataDelta (toolCallId : Option JavaString)
  | toolResultEnd (toolCallId : Option JavaString)
  | requireUserConfirm (toolCount : ℕ)
  | requireExternalExecution
  | userConfirmResult (replyId : Option JavaString) (confirmed : List (Option Bool))
  | externalExecutionResult (replyId : Option JavaString) (toolCount : ℕ)
  | exceedMaxIters
  | allToolsDenied
  | requestStop
  | hintBlock (blockId hintSource hint : Option JavaString)
  | other

def normalizeAgentStart (name : Option JavaString) :
    Normalizing (List TurnEvent) := do
  let context ← get
  if context.started then return []
  else do
    modify fun context => { context with started := true }
    let params ← base normalizer false
    let startedAt ← now normalizer
    let agent ← liftExcept (safeIdentifier normalizer.sha256 name)
    return [⟨"turn/started", ObjectNode.set (java "turn") (.object
      (turnSnapshot context "running" startedAt ++ [(java "agent", .string agent)])) params⟩]

def normalizeModelCallStart (replyId : Option JavaString) :
    Normalizing (List TurnEvent) := do
  let reply ← liftExcept (safeIdentifier normalizer.sha256 replyId)
  commentaryNotice normalizer (java "model-call-start:" ++ orNull replyId) "Model call started"
    [("phase", .text (java "start")), ("replyId", .text reply)]

/-- The counters of a model call. -/
def usageEntries : Option (ℤ × ℤ) → List (String × MetadataValue)
  | none => []
  | some (input, output) => [("usageInputTokens", .number (max 0 input)),
      ("usageOutputTokens", .number (max 0 output))]

def normalizeModelCallEnd (replyId : Option JavaString)
    (usage : Option (ℤ × ℤ)) : Normalizing (List TurnEvent) := do
  let reply ← liftExcept (safeIdentifier normalizer.sha256 replyId)
  commentaryNotice normalizer (java "model-call-end:" ++ orNull replyId) "Model call completed"
    ([("phase", .text (java "end")), ("replyId", .text reply)] ++ usageEntries usage)

def normalizeUserConfirmResult (replyId : Option JavaString)
    (confirmed : List (Option Bool)) : Normalizing (List TurnEvent) := do
  let reply ← liftExcept (safeIdentifier normalizer.sha256 replyId)
  let status := if confirmed.all (· == some true) then "confirmed" else "partial"
  commentaryNotice normalizer (java "approval-result:" ++ orNull replyId) "Approval result"
    [("replyId", .text reply), ("toolCount", .number confirmed.length),
      ("status", .text (java status))]

def normalizeExternalExecutionResult (replyId : Option JavaString)
    (toolCount : ℕ) : Normalizing (List TurnEvent) := do
  let reply ← liftExcept (safeIdentifier normalizer.sha256 replyId)
  commentaryNotice normalizer (java "external-result:" ++ orNull replyId)
    "External execution completed" [("replyId", .text reply), ("toolCount", .number toolCount),
      ("status", .text (java "completed"))]

/-- The part of `normalizeAgentResult` for a text that was not shown yet. -/
def recoverResult (text : JavaString) :
    Normalizing (List TurnEvent) := do
  let started ← startBlock normalizer (some (java "result")) .agentMessage (java "Agent response") false
  let appended ← appendBlock normalizer (some (java "result")) (some text) false
  let ended ← endBlock normalizer (some (java "result"))
  return started ++ appended ++ ended

def normalizeAgentResult (text : Option JavaString) :
    Normalizing (List TurnEvent) := do
  let context ← get
  match text with
  | some (u :: units) =>
    if context.hasVisibleText then return [] else recoverResult normalizer (u :: units)
  | _ => return []

/-- The `switch` of `normalize`. -/
def dispatch : AgentEvent → Normalizing (List TurnEvent)
  | .agentStart name => normalizeAgentStart normalizer name
  | .agentEnd => terminal normalizer "completed" none
  | .agentResult text => normalizeAgentResult normalizer text
  | .modelCallStart replyId => normalizeModelCallStart normalizer replyId
  | .modelCallEnd replyId usage => normalizeModelCallEnd normalizer replyId usage
  | .textBlockStart blockId => startBlock normalizer blockId .agentMessage (java "Agent response") false
  | .textBlockDelta blockId delta => appendBlock normalizer blockId delta false
  | .textBlockEnd blockId => endBlock normalizer blockId
  | .thinkingBlock => pure []
  | .dataBlockStart blockId => startBlock normalizer blockId .commentary (java "Data output") true
  | .dataBlockDelta blockId delta => appendBlock normalizer blockId delta true
  | .dataBlockEnd blockId => endBlock normalizer blockId
  | .toolCallStart toolCallId toolCallName =>
    startTool normalizer toolCallId .toolCall "Tool call: " toolCallId toolCallName
  | .toolCallDelta toolCallId delta =>
    appendSafeToolDelta normalizer toolCallId "[tool input redacted]" delta
  | .toolCallEnd toolCallId => endTool normalizer toolCallId
  | .toolResultStart toolCallId toolCallName =>
    startTool normalizer (some (resultKey toolCallId)) .command "Tool result: " toolCallId
      toolCallName
  | .toolResultTextDelta toolCallId delta =>
    appendSafeToolDelta normalizer (some (resultKey toolCallId)) "[tool output redacted]" delta
  | .toolResultDataDelta toolCallId =>
    appendSafeToolDelta normalizer (some (resultKey toolCallId)) "[tool data redacted]" (some [])
  | .toolResultEnd toolCallId => endTool normalizer (some (resultKey toolCallId))
  | .requireUserConfirm toolCount => normalizeApproval normalizer toolCount
  | .requireExternalExecution =>
    terminal normalizer "failed" (some (java "unsupported_external_execution"))
  | .userConfirmResult replyId confirmed => normalizeUserConfirmResult normalizer replyId confirmed
  | .externalExecutionResult replyId toolCount =>
    normalizeExternalExecutionResult normalizer replyId toolCount
  | .exceedMaxIters => terminal normalizer "failed" (some (java "max_iterations"))
  | .allToolsDenied => terminal normalizer "failed" (some (java "all_tools_denied"))
  | .requestStop => terminal normalizer "interrupted" (some (java "request_stop"))
  | .hintBlock blockId hintSource hint => normalizeHint normalizer blockId hintSource hint
  | .other => pure []

/-- `normalize`; the flag that its `catch` clause sets is set where the budget fails. -/
def normalize (event : AgentEvent) :
    Normalizing (List TurnEvent) := do
  let context ← get
  if context.terminal then return []
  else do
    let output ← dispatch normalizer event
    let context ← get
    enforceEventBudget normalizer output context.terminal

/-! ## Approvals -/

/-- `TurnRuntime.ApprovalPrompt`. -/
structure ApprovalPrompt where
  approvalId : JavaString
  threadId : JavaString
  turnId : JavaString
  itemId : JavaString
  actionKind : JavaString
  command : Option JavaString
  cwd : Option JavaString
  relativePaths : List JavaString
  risk : JavaString
  accessMode : JavaString
  expiresAt : InstantText
  reason : Option JavaString

/-- The texts of a prompt. -/
def ApprovalPrompt.texts (prompt : ApprovalPrompt) : List JavaString :=
  [prompt.approvalId, prompt.threadId, prompt.turnId, prompt.itemId, prompt.actionKind,
    prompt.risk, prompt.accessMode] ++ prompt.command.toList ++ prompt.cwd.toList ++
    prompt.relativePaths

/-- A field with a bounded text. -/
def boundedField (name : String) (value : JavaString) :
    Except NormalizeFailure (JavaString × JsonNode) :=
  (EventNormalizerPolicy.bounded (some value)).map fun text => (java name, .string text)

/-- A field that is only there for a text that shows something. -/
def visibleField (name : String) : Option JavaString → Except NormalizeFailure ObjectNode
  | none => .ok []
  | some value => if isBlank value then .ok [] else (boundedField name value).map ([·])

/-- The paths of an action. -/
def pathsField (paths : List JavaString) : Except NormalizeFailure ObjectNode :=
  if paths.isEmpty then .ok []
  else
    ((paths.take 128).mapM fun path =>
      (EventNormalizerPolicy.bounded (some path)).map Json.string).map fun nodes =>
        [(java "relativePaths", .array nodes)]

def approvalSummary (prompt : ApprovalPrompt) : Except NormalizeFailure JsonNode := do
  let approvalId ← boundedField "approvalId" prompt.approvalId
  let threadId ← boundedField "threadId" prompt.threadId
  let turnId ← boundedField "turnId" prompt.turnId
  let itemId ← boundedField "itemId" prompt.itemId
  let kind ← boundedField "kind" prompt.actionKind
  let command ← visibleField "command" prompt.command
  let cwd ← visibleField "cwd" prompt.cwd
  let paths ← pathsField prompt.relativePaths
  let risk ← boundedField "risk" prompt.risk
  let accessMode ← boundedField "accessMode" prompt.accessMode
  return .object [approvalId, threadId, turnId, itemId,
    (java "action", .object (kind :: (command ++ cwd ++ paths))), risk, accessMode,
    (java "expiresAt", .string prompt.expiresAt.val)]

def approvalRequested (prompt : ApprovalPrompt) :
    Normalizing (List TurnEvent) := do
  let params ← base normalizer false
  let approval ← liftExcept (approvalSummary prompt)
  enforceEventBudget normalizer
    [⟨"approval/requested", ObjectNode.set (java "approval") approval params⟩] false

/-- `TurnRuntime.ApprovalDecision`. -/
structure ApprovalDecision where
  decision : JavaString
  resolvedAt : InstantText

/-- The decisions that `approvalResolved` takes. -/
def knownDecisions : List String :=
  ["allow_once", "allow_session", "deny", "expired", "disconnected"]

def approvalResolved (prompt : ApprovalPrompt)
    (decision : ApprovalDecision) : Normalizing (List TurnEvent) := do
  if knownDecisions.any fun known => java known == decision.decision then do
    let params ← base normalizer false
    let approvalId ← liftExcept (boundedField "approvalId" prompt.approvalId)
    enforceEventBudget normalizer [⟨"approval/resolved", params ++ [approvalId,
      (java "decision", .string decision.decision),
      (java "resolvedAt", .string decision.resolvedAt.val)]⟩] false
  else throw .argument

/-! ## Runs -/

/-- A call on the context of a turn. -/
inductive Call
  | normalize (event : AgentEvent)
  | approvalRequested (prompt : ApprovalPrompt)
  | approvalResolved (prompt : ApprovalPrompt) (decision : ApprovalDecision)
  | terminal (status : String) (reason : Option JavaString)

def call : Call → Normalizing (List TurnEvent)
  | .normalize event => normalize normalizer event
  | .approvalRequested prompt => approvalRequested normalizer prompt
  | .approvalResolved prompt decision => approvalResolved normalizer prompt decision
  | .terminal status reason => terminal normalizer status reason

/-- The events that a call hands out: none when it fails. -/
def eventsOf : Except NormalizeFailure (List TurnEvent) → List TurnEvent
  | .ok events => events
  | .error _ => []

/-- The events of a sequence of calls on one context, and the context after them. -/
def feed (normalizer : EventNormalizer) : List Call → Context → List TurnEvent × Context
  | [], context => ([], context)
  | first :: calls, context =>
    let outcome := runFrom (call normalizer first) context
    let rest := feed normalizer calls outcome.2
    (eventsOf outcome.1 ++ rest.1, rest.2)

end EventNormalizer

end JaDesktop.Sidecar
