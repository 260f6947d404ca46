import JaDesktop.Sidecar.Protocol

/-!
# The envelopes of the sidecar

`RpcRequest`, `RpcNotification` and `RpcResponse` with the checks of their constructors, which
every value carries, and their JSON objects.
-/

namespace JaDesktop.Sidecar

/-- Turn a check that a constructor makes into the exception it throws. -/
def require (condition : Bool) (thrown : Thrown) : Except Thrown Unit :=
  if condition then .ok () else .error thrown

@[simp] lemma require_eq_ok {condition : Bool} {thrown : Thrown} {u : Unit} :
    require condition thrown = .ok u ↔ condition = true := by
  cases condition <;> simp [require]

/-! ## Errors -/

/-- The checks of the constructor of `RpcErrorData`. -/
def checkErrorData (jaCode : JavaString) (diagnosticId field : Option JavaString)
    (retryAfterMs : Option ℤ) : Bool :=
  (JaErrorCode.fromName jaCode).isSome &&
  diagnosticId.all (matchesHeadTail "diag_") &&
  field.all (fun s => match s with
    | [] => false
    | first :: rest =>
      ((0x41 ≤ first && first ≤ 0x5A) || (0x61 ≤ first && first ≤ 0x7A)) &&
        rest.length ≤ 255 && rest.all isTailUnit) &&
  retryAfterMs.all fun ms => 1 ≤ ms && ms ≤ 3600000

/-- `RpcErrorData`.  A `jaCode` that names a constant has the shape the constructor asks for. -/
structure RpcErrorData where
  jaCode : JavaString
  retryable : Bool
  diagnosticId : Option JavaString
  field : Option JavaString
  retryAfterMs : Option ℤ
  checked : checkErrorData jaCode diagnosticId field retryAfterMs = true

/-- The checks of the constructor of `RpcError`. -/
def checkError (code : ℤ) (message : JavaString) (data : RpcErrorData) : Bool :=
  (-32768 ≤ code && code ≤ -32000) &&
  !(isBlank message || 512 < message.length || message.contains 0x0A || message.contains 0x0D) &&
  wellFormed message &&
  (match JaErrorCode.fromWireCode code, JaErrorCode.fromName data.jaCode with
    | some byCode, some byName => byCode == byName && byCode.retryable == data.retryable
    | _, _ => false)

structure RpcError where
  code : ℤ
  message : JavaString
  data : RpcErrorData
  checked : checkError code message data = true

/-- `RpcError.of`, with the two constructors it calls. -/
def RpcError.of (code : JaErrorCode) (diagnosticId : Option JavaString) : Except Thrown RpcError :=
  if h : checkErrorData (java code.name) diagnosticId none none = true then
    let data : RpcErrorData := ⟨java code.name, code.retryable, diagnosticId, none, none, h⟩
    if h' : checkError code.wireCode (java code.publicMessage) data = true then
      .ok ⟨code.wireCode, java code.publicMessage, data, h'⟩
    else .error .runtime
  else .error .runtime

lemma RpcError.of_eq_ok {code : JaErrorCode} {diagnosticId : Option JavaString}
    (h : checkErrorData (java code.name) diagnosticId none none = true)
    (h' : checkError code.wireCode (java code.publicMessage)
      ⟨java code.name, code.retryable, diagnosticId, none, none, h⟩ = true) :
    RpcError.of code diagnosticId = .ok ⟨code.wireCode, java code.publicMessage,
      ⟨java code.name, code.retryable, diagnosticId, none, none, h⟩, h'⟩ := by
  rw [RpcError.of, dif_pos h]
  exact dif_pos h'

/-- `RpcError.toJson`. -/
def RpcError.toJson (error : RpcError) : ObjectNode :=
  let data : ObjectNode :=
    [(java "jaCode", .string error.data.jaCode), (java "retryable", .bool error.data.retryable)] ++
    (error.data.diagnosticId.map fun id => (java "diagnosticId", Json.string id)).toList ++
    (error.data.field.map fun field => (java "field", Json.string field)).toList ++
    (error.data.retryAfterMs.map fun ms =>
      (java "retryAfterMs", Json.number (JavaNumber.integral ms))).toList
  [(java "code", .number (.integral error.code)), (java "message", .string error.message),
    (java "data", .object data)]

/-! ## Envelopes -/

/-- The checks of the constructor of `RpcRequest`. -/
def checkRequest (id method : JavaString) (params : ObjectNode) (direction : RpcDirection)
    (extensions : ObjectNode) : Except Thrown Unit := do
  require (requestId id direction) (.protocol .invalidFrame)
  checkMethod method
  require (unicodeTree (.object params)) .runtime
  checkExtensions extensions

structure RpcRequest where
  id : JavaString
  method : JavaString
  params : ObjectNode
  direction : RpcDirection
  extensions : ObjectNode
  checked : checkRequest id method params direction extensions = .ok ()

/-- `RpcRequest.toJson`. -/
def RpcRequest.toJson (request : RpcRequest) : ObjectNode :=
  let node := ObjectNode.set (java "jsonrpc") (.string (java "2.0")) request.extensions
  let node := ObjectNode.set (java "id") (.string request.id) node
  let node := ObjectNode.set (java "method") (.string request.method) node
  ObjectNode.set (java "params") (.object request.params) node

section Notification

variable (T : JavaTime)

/-- `RpcNotification.validateHandshakeShape`. -/
def validateHandshakeShape (method : JavaString) (params : ObjectNode)
    (direction : RpcDirection) : Except Thrown Unit :=
  if method = java "initialized" then do
    require (direction = .clientToServer) handshakeFailure
    let _ ← initializedParams (some (.object params))
    return ()
  else if method = java "runtime/statusChanged" then do
    let _ ← RuntimeStatusChangedParams.fromJson T (some (.object params))
    require (direction = .serverToClient) handshakeFailure
  else .ok ()

/-- The checks of the constructor of `RpcNotification`. -/
def checkNotification (method : JavaString) (params : ObjectNode) (direction : RpcDirection)
    (extensions : ObjectNode) : Except Thrown Unit := do
  checkMethod method
  require (unicodeTree (.object params)) .runtime
  checkExtensions extensions
  validateHandshakeShape T method params direction

structure RpcNotification where
  method : JavaString
  params : ObjectNode
  direction : RpcDirection
  extensions : ObjectNode
  checked : checkNotification T method params direction extensions = .ok ()

variable {T}

/-- The constructor of `RpcNotification`. -/
def RpcNotification.create (method : JavaString) (params : ObjectNode) (direction : RpcDirection)
    (extensions : ObjectNode) : Except Thrown (RpcNotification T) :=
  match h : checkNotification T method params direction extensions with
  | .ok () => .ok ⟨method, params, direction, extensions, h⟩
  | .error e => .error e

/-- `RpcNotification.toJson`. -/
def RpcNotification.toJson (notification : RpcNotification T) : ObjectNode :=
  let node := ObjectNode.set (java "jsonrpc") (.string (java "2.0")) notification.extensions
  let node := ObjectNode.set (java "method") (.string notification.method) node
  ObjectNode.set (java "params") (.object notification.params) node

end Notification

variable (id : JavaString)

/-- The checks of the constructor of `RpcResponse`, in the two shapes it admits. -/
def checkResponse (payload : Option JsonNode ⊕ RpcError)
    (extensions : ObjectNode) : Except Thrown Unit := do
  require (genericRequestId id) (.protocol .invalidFrame)
  require (payload.elim (fun result => result.all unicodeTree) fun _ => true) .runtime
  checkExtensions extensions

/-- `RpcResponse`: a result, where `none` is Java's `null` and stands for JSON null, or an
error, never both. -/
structure RpcResponse where
  id : JavaString
  payload : Option JsonNode ⊕ RpcError
  extensions : ObjectNode
  checked : checkResponse id payload extensions = .ok ()

/-- The constructor of `RpcResponse`. -/
def RpcResponse.create (payload : Option JsonNode ⊕ RpcError)
    (extensions : ObjectNode) : Except Thrown RpcResponse :=
  match h : checkResponse id payload extensions with
  | .ok () => .ok ⟨id, payload, extensions, h⟩
  | .error e => .error e

lemma RpcResponse.create_eq_ok {id : JavaString} {payload : Option JsonNode ⊕ RpcError}
    {extensions : ObjectNode} (h : checkResponse id payload extensions = .ok ()) :
    create id payload extensions = .ok ⟨id, payload, extensions, h⟩ := by
  unfold create
  split
  · rfl
  · rename_i h'
    rw [h] at h'
    cases h'

/-- `RpcResponse.success`. -/
def RpcResponse.success (result : Option JsonNode) : Except Thrown RpcResponse :=
  create id (.inl result) []

/-- `RpcResponse.failure`. -/
def RpcResponse.failure (error : RpcError) : Except Thrown RpcResponse :=
  create id (.inr error) []

/-- `RpcResponse.toJson`. -/
def RpcResponse.toJson (response : RpcResponse) : ObjectNode :=
  let node := ObjectNode.set (java "jsonrpc") (.string (java "2.0")) response.extensions
  let node := ObjectNode.set (java "id") (.string response.id) node
  match response.payload with
  | .inl result => ObjectNode.set (java "result") (result.getD .null) node
  | .inr error => ObjectNode.set (java "error") (.object error.toJson) node

inductive RpcEnvelope (T : JavaTime)
  | request (request : RpcRequest)
  | notification (notification : RpcNotification T)
  | response (response : RpcResponse)

/-- `RpcEnvelope.toJson`. -/
def RpcEnvelope.toJson {T : JavaTime} : RpcEnvelope T → ObjectNode
  | .request envelope => envelope.toJson
  | .notification envelope => envelope.toJson
  | .response envelope => envelope.toJson

end JaDesktop.Sidecar
