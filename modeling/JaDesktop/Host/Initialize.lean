import JaDesktop.Host.Pending

/-!
# The checks of the handshake

What the host demands of its own `initialize` parameters, of the result that the sidecar answers
with, and of the notification that ends the handshake.
-/

namespace JaDesktop.Host

/-! ## Small checks -/

variable (value : Option Value)

def boundedString (maxLen : ℕ) : Bool :=
  match value.bind Value.asStr with
  | some text => !(asBytes text).isEmpty && (asBytes text).length ≤ maxLen
  | none => false

/-- A letter, a digit, or one of the given bytes. -/
def isNameByte (others : List UInt8) (byte : UInt8) : Bool :=
  isAsciiAlphanumeric byte || others.contains byte

/-- `valid_schema_id`: a prefix, a letter or digit, and more bytes of the grammar. -/
def validSchemaId (value start : String) (maxLen : ℕ) : Bool :=
  if !startsWith start value then false
  else
    let suffix := (asBytes value).drop (asBytes start).length
    if maxLen < (asBytes value).length || suffix.isEmpty || 96 < suffix.length then false
    else
      match suffix with
      | [] => false
      | first :: rest => isAsciiAlphanumeric first && rest.all (isNameByte [0x2E, 0x5F, 0x2D])

def validVersion (value : String) : Bool :=
  match asBytes value with
  | [] => false
  | first :: rest =>
    rest.length + 1 ≤ 128 && isAsciiAlphanumeric first &&
      rest.all (isNameByte [0x2E, 0x5F, 0x2D, 0x2B])

/-- The loop of `validate_string_array` over the items, with the items it has seen. -/
def validateItems (maxLen : ℕ) (allowed : Option (List String)) (seen : List String) :
    List Value → Except AgentProcessError Unit
  | [] => .ok ()
  | value :: values =>
    match value.asStr with
    | none => .error .protocolFault
    | some item =>
      if (asBytes item).isEmpty || maxLen < (asBytes item).length || seen.contains item ||
          allowed.any (fun choices => !choices.contains item) then .error .protocolFault
      else validateItems maxLen allowed (item :: seen) values

def validateStringArray (maxItems maxLen : ℕ)
    (allowed : Option (List String)) : Except AgentProcessError Unit :=
  match value.bind Value.asArray with
  | none => .error .protocolFault
  | some values =>
    if values.isEmpty then .ok ()
    else if maxItems < values.length then .error .protocolFault
    else validateItems maxLen allowed [] values

def validateCapabilities : Except AgentProcessError Unit :=
  match value.bind Value.asObject with
  | none => .error .protocolFault
  | some object => do
    validateStringArray (SortedMap.get "methods" object) 256 128 none
    validateStringArray (SortedMap.get "events" object) 256 128 none
    validateStringArray (SortedMap.get "accessModes" object) 3 32
      (some ["read_only", "workspace", "full_access"])
    validateStringArray (SortedMap.get "itemKinds" object) 64 64 none
    match (SortedMap.get "mcp" object).bind Value.asObject with
    | none => .error .protocolFault
    | some mcp =>
      validateStringArray (SortedMap.get "protocolVersions" mcp) 16 32 none
      validateStringArray (SortedMap.get "transports" mcp) 2 32 (some ["stdio", "streamable_http"])
      validateStringArray (SortedMap.get "features" mcp) 2 32 (some ["tools_list", "tools_call"])

/-! ## Limits -/

/-- `serde_json::Number` of an unsigned machine integer. -/
def Number.ofU64 (n : ℕ) : Number := .int ⟨((n % 2 ^ 64 : ℕ) : ℤ), by omega, by omega⟩

def unsigned (n : ℕ) : Value := .number (.ofU64 n)

def maxItemDeltaBytes : ℕ := 65536
def maxInlineToolOutputBytes : ℕ := 1048576

/-- The fields of `Limits::to_value`. -/
def Limits.fields (l : Limits) : List (String × ℕ) :=
  [("maxFrameBytes", l.maxFrameBytes),
   ("maxInboundQueueFrames", l.inboundQueueFrames),
   ("maxOutboundQueueFrames", l.outboundQueueFrames),
   ("maxInFlightRequests", l.maxInFlightRequests),
   ("maxPendingRequests", l.maxPendingRequests),
   ("maxItemDeltaBytes", maxItemDeltaBytes),
   ("maxInlineToolOutputBytes", maxInlineToolOutputBytes),
   ("maxLogBytes", l.maxLogBytes),
   ("defaultRequestDeadlineMs", l.requestDeadlineMs),
   ("defaultApprovalDeadlineMs", l.approvalDeadlineMs)]

/-- `Limits::to_value`. -/
def Limits.toValue (l : Limits) : Value :=
  .object (SortedMap.ofList (l.fields.map fun field => (field.1, unsigned field.2)))

/-- The numbers that `validate_remote_limits` reads. -/
structure RemoteLimits where
  maxFrame : ℕ
  inbound : ℕ
  outbound : ℕ
  inFlight : ℕ
  pending : ℕ
  itemDelta : ℕ
  inlineOutput : ℕ
  logs : ℕ
  requestDeadline : ℕ
  approvalDeadline : ℕ
deriving DecidableEq

/-- The `number` of `validate_remote_limits`. -/
def remoteNumber (object : Map) (key : String) : Except AgentProcessError ℕ :=
  match (SortedMap.get key object).bind Value.asU64 with
  | some n => .ok n
  | none => .error .protocolFault

/-- The first half of `validate_remote_limits`: all ten numbers are there. -/
def readRemoteLimits (object : Map) : Except AgentProcessError RemoteLimits := do
  let maxFrame ← remoteNumber object "maxFrameBytes"
  let inbound ← remoteNumber object "maxInboundQueueFrames"
  let outbound ← remoteNumber object "maxOutboundQueueFrames"
  let inFlight ← remoteNumber object "maxInFlightRequests"
  let pending ← remoteNumber object "maxPendingRequests"
  let itemDelta ← remoteNumber object "maxItemDeltaBytes"
  let inlineOutput ← remoteNumber object "maxInlineToolOutputBytes"
  let logs ← remoteNumber object "maxLogBytes"
  let requestDeadline ← remoteNumber object "defaultRequestDeadlineMs"
  let approvalDeadline ← remoteNumber object "defaultApprovalDeadlineMs"
  .ok ⟨maxFrame, inbound, outbound, inFlight, pending, itemDelta, inlineOutput, logs,
    requestDeadline, approvalDeadline⟩

/-- The second half: each number is in the bounds of the protocol and equal to the local one. -/
def RemoteLimits.accepted (r : RemoteLimits) (l : Limits) : Bool :=
  within 1024 (16 * 1024 * 1024) r.maxFrame && within 1 10000 r.inbound &&
    within 1 10000 r.outbound && within 1 1024 r.inFlight && within 1 1024 r.pending &&
    within 256 1048576 r.itemDelta && within 1024 16777216 r.inlineOutput &&
    within 4096 67108864 r.logs && within 1000 3600000 r.requestDeadline &&
    within 1000 3600000 r.approvalDeadline &&
    r.maxFrame == l.maxFrameBytes && r.inbound == l.inboundQueueFrames &&
    r.outbound == l.outboundQueueFrames && r.inFlight == l.maxInFlightRequests &&
    r.pending == l.maxPendingRequests && r.itemDelta == maxItemDeltaBytes &&
    r.inlineOutput == maxInlineToolOutputBytes && r.logs == l.maxLogBytes &&
    r.requestDeadline == l.requestDeadlineMs && r.approvalDeadline == l.approvalDeadlineMs

def validateRemoteLimits (l : Limits) : Except AgentProcessError Unit :=
  match value.bind Value.asObject with
  | none => .error .protocolFault
  | some object => do
    let r ← readRemoteLimits object
    if r.accepted l then .ok () else .error .protocolFault

/-! ## Versions -/

def negotiateVersion (localMajor localMinor localMinimum remoteMajor remoteMinor
    remoteMinimum : ℤ) : Except CodecError ℤ :=
  if localMajor ≠ remoteMajor then .error .invalidEnvelope
  else
    let selected := min localMinor remoteMinor
    if selected < localMinimum ∨ selected < remoteMinimum then .error .invalidEnvelope
    else .ok selected

/-- `i32::MAX`. -/
def i32Max : ℤ := 2 ^ 31 - 1

/-- `object.get(key).and_then(Value::as_i64)`. -/
def memberI64 (object : Map) (key : String) : Option ℤ :=
  ((SortedMap.get key object).bind Value.asI64).map Subtype.val

/-- The integer of a member, when it is in a range. -/
def memberWithin (object : Map) (key : String) (low high : ℤ) : Option ℤ :=
  (memberI64 object key).filter fun n => low ≤ n ∧ n ≤ high

/-- The integer of a member, or an error. -/
def requireI64 (error : AgentProcessError) : Option ℤ → Except AgentProcessError ℤ
  | some n => .ok n
  | none => .error error

def validateInitializeParams (value : Value) (l : Limits) : Except AgentProcessError Unit :=
  match value.asObject with
  | none => .error .invalidConfig
  | some object =>
    if memberI64 object "protocolMajor" ≠ some 1 then .error .invalidConfig
    else do
      let minor ← requireI64 .invalidConfig (memberWithin object "protocolMinor" 0 i32Max)
      let _ ← requireI64 .invalidConfig (memberWithin object "minimumCompatibleMinor" 0 minor)
      if !boundedString (SortedMap.get "clientVersion" object) 128 then .error .invalidConfig
      else do
        validateCapabilities (SortedMap.get "capabilities" object)
        match validateRemoteLimits (SortedMap.get "limits" object) l with
        | .ok () => .ok ()
        | .error _ => .error .invalidConfig

def defaultInitializeParams (l : Limits) : Value :=
  .object (SortedMap.ofList
    [("protocolMajor", unsigned 1),
     ("protocolMinor", unsigned 0),
     ("minimumCompatibleMinor", unsigned 0),
     ("clientVersion", .string "ja-host"),
     ("capabilities", .object (SortedMap.ofList
       [("methods", .array []),
        ("events", .array []),
        ("accessModes", .array [.string "read_only", .string "workspace", .string "full_access"]),
        ("itemKinds", .array []),
        ("mcp", .object (SortedMap.ofList
          [("protocolVersions", .array []), ("transports", .array []),
           ("features", .array [])]))])),
     ("limits", l.toValue)])

/-- The first half of `check_initialize_result`: the version of the result, negotiated against the
parameters that were sent. -/
def checkVersion (params : Value) (object : Map) : Except AgentProcessError ℤ := do
  let major ← requireI64 .protocolFault (memberI64 object "protocolMajor")
  let minor ← requireI64 .protocolFault (memberWithin object "protocolMinor" 0 i32Max)
  match params.asObject with
  | none => .error .invalidConfig
  | some sent => do
    let localMajor ← requireI64 .invalidConfig (memberI64 sent "protocolMajor")
    let localMinor ← requireI64 .invalidConfig (memberI64 sent "protocolMinor")
    let localMinimum ← requireI64 .invalidConfig (memberI64 sent "minimumCompatibleMinor")
    let minimum ← requireI64 .protocolFault (memberWithin object "minimumCompatibleMinor" 0 minor)
    match negotiateVersion localMajor localMinor localMinimum major minor minimum with
    | .ok selected => .ok selected
    | .error _ => .error .incompatible

/-- `check_initialize_result`; on success it returns the instance that the source keeps. -/
def checkInitializeResult (params : Value) (l : Limits) (result : Value) :
    Except AgentProcessError String :=
  match result.asObject with
  | none => .error .protocolFault
  | some object => do
    let _ ← checkVersion params object
    if !((SortedMap.get "serverVersion" object).bind Value.asStr).any validVersion then
      .error .protocolFault
    else
      match (SortedMap.get "serverInstanceId" object).bind Value.asStr with
      | none => .error .protocolFault
      | some serverInstance =>
        if !validSchemaId serverInstance "srv_" 101 then .error .protocolFault
        else
          match (SortedMap.get "runtime" object).bind Value.asObject with
          | none => .error .protocolFault
          | some runtime =>
            if (SortedMap.get "kind" runtime).bind Value.asStr ≠ some "native-image" ||
                !boundedString (SortedMap.get "agentScopeVersion" runtime) 128 ||
                !boundedString (SortedMap.get "javaVersion" runtime) 128 then
              .error .protocolFault
            else do
              validateCapabilities (SortedMap.get "capabilities" object)
              validateRemoteLimits (SortedMap.get "limits" object) l
              .ok serverInstance

def errorIsIncompatible (code : I64) (data : Value) : Bool :=
  code.val == -32003 &&
    (data.get "jaCode").bind Value.asStr == some "PROTOCOL_VERSION_UNSUPPORTED" &&
    (data.get "retryable").bind Value.asBool == some false

/-! ## The ready notification -/

def asciiDigits (bytes : List UInt8) (start len : ℕ) : Bool :=
  let part := (bytes.drop start).take len
  part.length == len && part.all isAsciiDigit

/-- `decimal_component`, on digits. -/
def decimalComponent (bytes : List UInt8) (start len : ℕ) : ℕ :=
  ((bytes.drop start).take len).foldl (fun value digit => value * 10 + (digit.toNat - 0x30)) 0

def daysInMonth (year month : ℕ) : ℕ :=
  match month with
  | 2 => if year % 400 = 0 ∨ (year % 4 = 0 ∧ year % 100 ≠ 0) then 29 else 28
  | 4 | 6 | 9 | 11 => 30
  | _ => 31

/-- The zone at the end of a timestamp, from an index on. -/
def validZone (bytes : List UInt8) (index : ℕ) : Bool :=
  match bytes[index]? with
  | some 0x5A => index + 1 == bytes.length
  | some 0x2B | some 0x2D =>
    index + 6 == bytes.length && bytes[index + 3]? == some 0x3A &&
      asciiDigits bytes (index + 1) 2 && asciiDigits bytes (index + 4) 2 &&
      decimalComponent bytes (index + 1) 2 ≤ 23 && decimalComponent bytes (index + 4) 2 ≤ 59
  | _ => false

def validTimestamp (value : String) : Bool :=
  let bytes := asBytes value
  if 64 < bytes.length || bytes.length < 20 || bytes.any isAsciiWhitespace ||
      bytes[4]? != some 0x2D || bytes[7]? != some 0x2D || bytes[10]? != some 0x54 ||
      bytes[13]? != some 0x3A || bytes[16]? != some 0x3A || !asciiDigits bytes 0 4 ||
      !asciiDigits bytes 5 2 || !asciiDigits bytes 8 2 || !asciiDigits bytes 11 2 ||
      !asciiDigits bytes 14 2 || !asciiDigits bytes 17 2 then false
  else
    let year := decimalComponent bytes 0 4
    let month := decimalComponent bytes 5 2
    let day := decimalComponent bytes 8 2
    if !within 1 12 month || !within 1 (daysInMonth year month) day ||
        23 < decimalComponent bytes 11 2 || 59 < decimalComponent bytes 14 2 ||
        60 < decimalComponent bytes 17 2 then false
    else if bytes[19]? == some 0x2E then
      let fraction := (bytes.drop 20).takeWhile isAsciiDigit
      !fraction.isEmpty && validZone bytes (20 + fraction.length)
    else validZone bytes 19

/-- `frame.params().and_then(|params| params.get(key)).and_then(Value::as_str)`. -/
def RpcFrame.paramText (frame : RpcFrame) (key : String) : Option String :=
  frame.params.bind fun params => (params.get key).bind Value.asStr

def isRuntimeReadyNotification (frame : RpcFrame) : Bool :=
  frame.method == some "runtime/statusChanged" && frame.paramText "status" == some "ready"

def isReadyNotification (frame : RpcFrame) (expectedInstance : Option String) : Bool :=
  frame.method == some "runtime/statusChanged" && frame.paramText "status" == some "ready" &&
    frame.paramText "serverInstanceId" == expectedInstance &&
    (frame.paramText "eventId").any (validSchemaId · "evt_" 100) &&
    (frame.paramText "occurredAt").any validTimestamp

end JaDesktop.Host
