import JaDesktop.Sidecar.SettingsMappers

/-!
# The input of a turn

Two readers of the parameters of `turn/start`: `StdioRuntime.inputText` takes the text that is
stored as the user's message, and `AgentScopeTurnRuntime.Input.parse` the text that the model gets.
-/

namespace JaDesktop.Sidecar

namespace StdioRuntime

/-- The loop of `inputText`: a part of type text is put on a new line, unless nothing stands before
it.  `path("type").asText()` gives a text for other nodes too, but never this one. -/
def appendInput : JavaString → List JsonNode → Except Thrown JavaString
  | text, [] => .ok text
  | text, .object part :: parts =>
    match ObjectNode.get (java "type") part, ObjectNode.get (java "text") part with
    | some (.string kind), some (.string value) =>
      if kind = java "text" then
        appendInput ((if text.length > 0 then text ++ java "\n" else text) ++ value) parts
      else .error invalidParams
    | _, _ => .error invalidParams
  | _, _ :: _ => .error invalidParams

def inputText (params : ObjectNode) : Except Thrown JavaString :=
  match ObjectNode.get (java "input") params with
  | some (.array (part :: parts)) => do
    let text ← appendInput [] (part :: parts)
    reject (isBlank text || text.length > 1048576) invalidParams
    return text
  | _ => .error invalidParams

end StdioRuntime

namespace AgentScopeTurnRuntime

structure BoundedTextBuilder where
  maxBytes : ℕ
  value : JavaString
  bytes : ℕ

/-- The count of a character is taken when it is within the limit. -/
def growBytes (maxBytes bytes increment : ℕ) : Except Thrown ℕ :=
  if bytes + increment > maxBytes then .error .runtime else .ok (bytes + increment)

/-- The loop of `append` over the units of a chunk. -/
def countBytes (maxBytes : ℕ) : ℕ → JavaString → Except Thrown ℕ
  | bytes, [] => .ok bytes
  | bytes, u :: units =>
    if isHighSurrogate u then
      match units with
      | [] => .error .runtime
      | l :: units =>
        if isLowSurrogate l then do
          let bytes ← growBytes maxBytes bytes 4
          countBytes maxBytes bytes units
        else .error .runtime
    else if isLowSurrogate u then .error .runtime
    else do
      let bytes ← growBytes maxBytes bytes (unitBytes u)
      countBytes maxBytes bytes units

variable (builder : BoundedTextBuilder)

/-- `BoundedTextBuilder.append`. -/
def BoundedTextBuilder.append (chunk : JavaString) :
    Except Thrown BoundedTextBuilder := do
  let bytes ← countBytes builder.maxBytes builder.bytes chunk
  return { builder with value := builder.value ++ chunk, bytes }

/-- `AgentScopeTurnRuntime.Input`. -/
structure Input where
  threadId : DomainId "thr_"
  userId : JavaString
  sessionId : JavaString
  text : JavaString
  requestedTurnId : Option JavaString
  mode : JavaString
  accessMode : JavaString
  inputBytes : ℕ

variable (params : ObjectNode)

/-- `Input.required`. -/
def required (name : String) : Except Thrown JavaString :=
  match ObjectNode.get (java name) params with
  | some (.string value) =>
    if isBlank value || value.length > 1024 then .error .runtime else .ok value
  | _ => .error .runtime

/-- `Input.optional`. -/
def optional (name : String) (fallback : JavaString) :
    Except Thrown JavaString :=
  if ObjectNode.has (java name) params then required params name else .ok fallback

/-- The turn that a test may ask for. -/
def requestedTurn : Except Thrown (Option JavaString) :=
  if ObjectNode.has (java "turnId") params then do
    let turnId ← required params "turnId"
    return some turnId
  else .ok none

/-- The access mode, under its public name or the older one. -/
def accessModeOf : Except Thrown JavaString :=
  if ObjectNode.has (java "accessMode") params then required params "accessMode"
  else optional params "permissionMode" (java "workspace")

/-- A part of the input is appended. -/
def appendPart (part : ObjectNode) :
    Except Thrown BoundedTextBuilder := do
  let type ← required part "type"
  if type = java "text" then do
    let text ← required part "text"
    builder.append text
  else .error .runtime

/-- A line end stands before each part but the first. -/
def separate (index : ℕ) : Except Thrown BoundedTextBuilder :=
  if index > 0 then builder.append (java "\n") else .ok builder

/-- The loop of `parse` over the parts. -/
def appendParts (builder : BoundedTextBuilder) (index : ℕ) :
    List JsonNode → Except Thrown BoundedTextBuilder
  | [] => .ok builder
  | .object part :: parts => do
    let separated ← separate builder index
    let appended ← appendPart separated part
    appendParts appended (index + 1) parts
  | _ :: _ => .error .runtime

/-- The parts of the input. -/
def inputParts : Except Thrown (List JsonNode) :=
  match ObjectNode.get (java "input") params with
  | some (.array parts) =>
    if parts.isEmpty || parts.length > 128 then .error .runtime else .ok parts
  | _ => .error .runtime

/-- The body of `Input.parse`. -/
def Input.parseChecked (maxInputBytes : ℕ) : Except Thrown Input := do
  let threadText ← required params "threadId"
  let threadId ← DomainId.create "thr_" threadText
  let userId ← optional params "userId" (java "ja-user")
  let sessionId ← optional params "sessionId" threadText
  let requestedTurnId ← requestedTurn params
  reject (requestedTurnId.any fun turnId => !(java "turn_").isPrefixOf turnId) .runtime
  let mode ← optional params "mode" (java "coding")
  let accessMode ← accessModeOf params
  reject (!(["read_only", "workspace", "full_access"].any fun mode => java mode == accessMode))
    .runtime
  let parts ← inputParts params
  let text ← appendParts ⟨maxInputBytes, [], 0⟩ 0 parts
  reject (isBlank text.value) .runtime
  return { threadId, userId, sessionId, text := text.value, requestedTurnId, mode, accessMode,
           inputBytes := text.bytes }

/-- A failure that is no `ProtocolException` becomes one. -/
def translateInputFailure : Thrown → Thrown
  | .protocol code => .protocol code
  | .runtime => invalidParams

/-- `Input.parse`. -/
def Input.parse (maxInputBytes : ℕ) : Except Thrown Input :=
  (Input.parseChecked params maxInputBytes).mapError translateInputFailure

/-- `maxInputBytes` of `Config.defaults`. -/
def defaultMaxInputBytes : ℕ := 4 * 1024 * 1024

end AgentScopeTurnRuntime

end JaDesktop.Sidecar
