import JaDesktop.Host.ErrorCatalog
import JaDesktop.Host.Json

/-!
# The codec of the Rust host

`codec.rs` turns frames into lines of JSON and back.  A frame is a request, a notification or a
response; every frame, built here or read from the sidecar, passes `RpcFrame.validate`.  Around
it stand the guards that confine the ready challenge: `rejectRawTokenMarkers` audits the whole
JSON tree before anything is dropped from it, `rejectUnknownRootTokenMetadata` the root members
the frame does not keep, and `validateReadyTokenFields` the parameters of the two handshake
notifications.
-/

namespace JaDesktop.Host

inductive CodecError
  | unexpectedEof
  | partialFrame
  | emptyFrame
  | invalidUtf8
  | invalidJson
  | duplicateKey
  | nonObject
  | invalidEnvelope
  | handshakeFailed
  | invalidErrorCatalog
  | invalidId
  | invalidLimit
  | frameTooLarge (actual max : ℕ)
  | io
deriving DecidableEq

/-- A check that ends the function with an error when it fails. -/
def ensure (condition : Bool) (error : CodecError) : Except CodecError Unit :=
  if condition then .ok () else .error error

/-- `Option::ok_or`. -/
def okOr {α : Type} (error : CodecError) : Option α → Except CodecError α
  | some a => .ok a
  | none => .error error

def maxRequestIdBytes : ℕ := 98

def maxMethodBytes : ℕ := 128

def readyTokenField : String := "readyToken"

def readyTokenHexBytes : ℕ := 32

/-! ## Limits -/

/-- `Limits`, the negotiated bounds of a session. -/
structure Limits where
  maxFrameBytes : ℕ := 4 * 1024 * 1024
  inboundQueueFrames : ℕ := 256
  outboundQueueFrames : ℕ := 1024
  maxInFlightRequests : ℕ := 64
  maxPendingRequests : ℕ := 64
  maxTombstones : ℕ := 128
  maxStderrLineBytes : ℕ := 64 * 1024
  maxLogBytes : ℕ := 1048576
  requestDeadlineMs : ℕ := 120000
  approvalDeadlineMs : ℕ := 300000
deriving DecidableEq

/-- `RangeInclusive::contains`. -/
def within (low high n : ℕ) : Bool := low ≤ n && n ≤ high

/-- `Limits::validate`. -/
def Limits.validate (l : Limits) : Except CodecError Unit :=
  if !within 1024 (16 * 1024 * 1024) l.maxFrameBytes then .error .invalidLimit
  else if !within 1 10000 l.inboundQueueFrames || !within 1 10000 l.outboundQueueFrames
      || !within 1 1024 l.maxInFlightRequests || !within 1 1024 l.maxPendingRequests
      || !within 1 8192 l.maxTombstones || !within 1 1048576 l.maxStderrLineBytes
      || !within 4096 67108864 l.maxLogBytes || !within 1000 3600000 l.requestDeadlineMs
      || !within 1000 3600000 l.approvalDeadlineMs then .error .invalidLimit
  else .ok ()

/-! ## Frames -/

/-- `Present`: a member of the wire object that is missing, null or has a value. -/
structure Present (α : Type) where
  present : Bool
  value : Option α
deriving DecidableEq

def Present.missing {α : Type} : Present α := ⟨false, none⟩

def Present.some {α : Type} (value : α) : Present α := ⟨true, Option.some value⟩

def Present.null {α : Type} : Present α := ⟨true, none⟩

structure RpcError where
  code : I64
  message : String
  data : Value
deriving DecidableEq

structure RpcFrame where
  id : Option String
  method : Option String
  params : Option Value
  result : Present Value
  error : Option RpcError
deriving DecidableEq

inductive FrameKind
  | clientRequest
  | serverRequest
  | notification
  | response
deriving DecidableEq

/-! ## Ready tokens -/

/-- `valid_ready_token`: 32 lower-case hexadecimal digits. -/
def validReadyToken (value : String) : Bool :=
  (asBytes value).length == readyTokenHexBytes &&
    (asBytes value).all fun byte => (0x30 ≤ byte && byte ≤ 0x39) || (0x61 ≤ byte && byte ≤ 0x66)

/-- `is_token_shaped`: 32 hexadecimal digits of either case. -/
def isTokenShaped (value : String) : Bool :=
  (asBytes value).length == readyTokenHexBytes && (asBytes value).all isAsciiHexdigit

def isReadyTokenKey (key : String) : Bool :=
  (asBytes key).map toAsciiLowercase == (asBytes readyTokenField).map toAsciiLowercase

/-- A key that may only stand at the legal position. -/
def isMarkerKey (key : String) : Bool := isReadyTokenKey key || isTokenShaped key

def containsTokenShapedMarker (value : Value) : Bool := value.anyMark isMarkerKey isTokenShaped

def validateReadyTokenFields (method : String) (params : Value) : Except CodecError Unit :=
  match params.asObject with
  | none => .error .invalidEnvelope
  | some object =>
    let hasToken := ((SortedMap.get readyTokenField object).bind Value.asStr).any validReadyToken
    if method = "initialized" then
      if object.length ≠ 1 || !hasToken then .error .handshakeFailed else .ok ()
    else if method = "runtime/statusChanged" &&
        (SortedMap.get "status" object).bind Value.asStr == some "ready" then
      if !hasToken then .error .handshakeFailed
      else if object.any fun (key, value) => key ≠ readyTokenField &&
          (isReadyTokenKey key || isTokenShaped key || containsTokenShapedMarker value) then
        .error .handshakeFailed
      else .ok ()
    else if containsTokenShapedMarker params then .error .invalidEnvelope
    else .ok ()

mutual

/-- The local function `visit` of `reject_raw_token_markers`, with the stack of keys. -/
def visitRaw (allow : Bool) (path : List String) : Value → Bool
  | .object members => visitRawMembers allow path members
  | .array items => visitRawItems allow path 0 items
  | .string text => isTokenShaped text
  | _ => false

def visitRawMembers (allow : Bool) (path : List String) : Map → Bool
  | [] => false
  | (key, child) :: members =>
    let path' := path ++ [key]
    let legalReadyPath := allow && path'.length == 2 && path'[0]? == some "params" &&
      key == "readyToken"
    let forbiddenKey := (isReadyTokenKey key || isTokenShaped key) && !legalReadyPath
    let forbiddenValue := child.asStr.any isTokenShaped && !legalReadyPath
    let nested := !legalReadyPath && visitRaw allow path' child
    (forbiddenKey || forbiddenValue || nested) || visitRawMembers allow path members

def visitRawItems (allow : Bool) (path : List String) (index : ℕ) : List Value → Bool
  | [] => false
  | child :: items =>
    visitRaw allow (path ++ [s!"[{index}]"]) child || visitRawItems allow path (index + 1) items

end

def rejectRawTokenMarkers (value : Value) (allowReadyTokenPath : Bool) : Except CodecError Unit :=
  if visitRaw allowReadyTokenPath [] value then
    .error (if allowReadyTokenPath then .handshakeFailed else .invalidEnvelope)
  else .ok ()

/-- The root members that a frame keeps. -/
def knownRootFields : List String := ["jsonrpc", "id", "method", "params", "result", "error"]

variable (object : Map)

def rejectUnknownRootTokenMetadata (readyFrame : Bool) : Except CodecError Unit :=
  if object.any fun (key, value) => key ∉ knownRootFields &&
      (isReadyTokenKey key || isTokenShaped key || containsTokenShapedMarker value) then
    .error (if readyFrame then .handshakeFailed else .invalidEnvelope)
  else .ok ()

/-! ## Identifiers -/

/-- `str::split_once` at an ASCII separator, on the bytes. -/
def splitOnce (separator : UInt8) : List UInt8 → Option (List UInt8 × List UInt8)
  | [] => none
  | byte :: bytes =>
    if byte = separator then some ([], bytes)
    else (splitOnce separator bytes).map fun (before, after) => (byte :: before, after)

/-- `valid_id`: `c:` or `s:`, a letter or digit, and at most 95 more bytes of the grammar. -/
def validId (id : String) : Bool :=
  let bytes := asBytes id
  if bytes.isEmpty || maxRequestIdBytes < bytes.length then false
  else
    match splitOnce 0x3A bytes with
    | none => false
    | some (namespaceBytes, suffix) =>
      if namespaceBytes ≠ asBytes "c" && namespaceBytes ≠ asBytes "s" then false
      else
        match suffix with
        | [] => false
        | first :: rest =>
          rest.length + 1 ≤ 96 && isAsciiAlphanumeric first &&
            rest.all fun byte =>
              isAsciiAlphanumeric byte || byte == 0x2E || byte == 0x5F || byte == 0x2D

/-- `str::starts_with`. -/
def startsWith (start s : String) : Bool := (asBytes start).isPrefixOf (asBytes s)

/-! ## Errors -/

/-- The data object that the host keeps of an error. -/
def errorData (jaCode : String) (retryable : Bool) : Value :=
  .object [("jaCode", .string jaCode), ("retryable", .bool retryable)]

/-- The range of codes the protocol allows. -/
def validErrorCode (code : I64) : Bool := -32768 ≤ code.val && code.val ≤ -32000

def validateError (error : RpcError) : Except CodecError Unit := do
  ensure (validErrorCode error.code && validErrorMessage error.message) .invalidEnvelope
  let data ← okOr .invalidEnvelope error.data.asObject
  let jaCode ← okOr .invalidErrorCatalog
    (((SortedMap.get "jaCode" data).bind Value.asStr).filter validJaCode)
  let retryable ← okOr .invalidErrorCatalog ((SortedMap.get "retryable" data).bind Value.asBool)
  ensure (catalogEntry error.code jaCode retryable).isSome .invalidErrorCatalog

/-- `parse_error`: the error object of the wire, reduced to its stable fields. -/
def parseError : Except CodecError RpcError := do
  let code ← okOr .invalidEnvelope
    (((SortedMap.get "code" object).bind Value.asI64).filter validErrorCode)
  let message ← okOr .invalidEnvelope
    (((SortedMap.get "message" object).bind Value.asStr).filter validErrorMessage)
  let data ← okOr .invalidEnvelope (SortedMap.get "data" object)
  let dataObject ← okOr .invalidEnvelope data.asObject
  let jaCode ← okOr .invalidEnvelope
    (((SortedMap.get "jaCode" dataObject).bind Value.asStr).filter validJaCode)
  let retryable ← okOr .invalidEnvelope
    ((SortedMap.get "retryable" dataObject).bind Value.asBool)
  let error : RpcError := ⟨code, message, errorData jaCode retryable⟩
  validateError error
  return error

/-! ## Validation and construction -/

namespace RpcFrame

/-- The checks of `RpcFrame::validate` on a method and its parameters. -/
def validateMethod (method : String) (params : Option Value) : Except CodecError Unit := do
  ensure (!method.isEmpty && (asBytes method).length ≤ maxMethodBytes) .invalidEnvelope
  ensure (params.any Value.isObject) .invalidEnvelope
  let params ← okOr .invalidEnvelope params
  validateReadyTokenFields method params

variable (frame : RpcFrame)

/-- The first half of `RpcFrame::validate`: each field on its own. -/
def validateFields : Except CodecError Unit := do
  ensure (frame.id.all validId) .invalidId
  frame.method.elim (.ok ()) fun method => validateMethod method frame.params
  frame.error.elim (.ok ()) validateError
  ensure (!(frame.result.value.any containsTokenShapedMarker ||
    frame.error.any fun error => containsTokenShapedMarker error.data)) .invalidEnvelope

/-- The second half of `RpcFrame::validate`: the branch of the root `oneOf`. -/
def classify : Except CodecError FrameKind :=
  let response := frame.method.isNone && frame.id.isSome &&
    (frame.result.present ^^ frame.error.isSome)
  let requestOrNotification := frame.method.isSome && !frame.result.present && frame.error.isNone
  if response then
    match frame.id with
    | some id =>
      if startsWith "c:" id then .ok .response
      else if startsWith "s:" id then .ok .response
      else .error .invalidId
    | none => .error .invalidId
  else if requestOrNotification then
    match frame.id with
    | some id =>
      if startsWith "c:" id then .ok .clientRequest
      else if startsWith "s:" id then .ok .serverRequest
      else .error .invalidId
    | none => .ok .notification
  else .error .invalidEnvelope

/-- `RpcFrame::validate`. -/
def validate : Except CodecError FrameKind := do
  frame.validateFields
  frame.classify

/-- `RpcFrame::request`, shared by the two namespaces. -/
def request (expected : FrameKind) (id method : String) (params : Value) :
    Except CodecError RpcFrame := do
  let frame : RpcFrame := ⟨some id, some method, some params, .missing, none⟩
  let kind ← frame.validate
  ensure (kind = expected) .invalidId
  return frame

/-- `RpcFrame::client_request`. -/
def clientRequest (id method : String) (params : Value) : Except CodecError RpcFrame :=
  request .clientRequest id method params

/-- `RpcFrame::server_request`. -/
def serverRequest (id method : String) (params : Value) : Except CodecError RpcFrame :=
  request .serverRequest id method params

/-- Validate a frame and hand it out, as every other constructor ends. -/
def validated : Except CodecError RpcFrame := do
  let _ ← frame.validate
  return frame

/-- `RpcFrame::notification`. -/
def notification (method : String) (params : Value) : Except CodecError RpcFrame :=
  validated ⟨none, some method, some params, .missing, none⟩

/-- `RpcFrame::response_result`. -/
def responseResult (id : String) (value : Value) : Except CodecError RpcFrame :=
  validated ⟨some id, none, none, .some value, none⟩

/-- `RpcFrame::response_error`. -/
def responseError (id : String) (code : I64) (message jaCode : String) (retryable : Bool) :
    Except CodecError RpcFrame :=
  validated ⟨some id, none, none, .missing, some ⟨code, message, errorData jaCode retryable⟩⟩

/-! ## The wire -/

/-- The members of the root object, in the order `encode` inserts them. -/
def wireFields : List (String × Value) :=
  [("jsonrpc", .string "2.0")] ++
  (frame.id.map fun id => ("id", .string id)).toList ++
  (frame.method.map fun method => ("method", .string method)).toList ++
  (frame.params.map fun params => ("params", params)).toList ++
  (if frame.result.present then [("result", frame.result.value.getD .null)] else []) ++
  (frame.error.map fun error => ("error", .object (SortedMap.ofList
    [("code", .number (.ofI64 error.code)), ("message", .string error.message),
      ("data", error.data)]))).toList

/-- The JSON object that `encode` writes. -/
def wireValue : Value := .object (SortedMap.ofList frame.wireFields)

/-- The frames whose parameters may carry the challenge, as `encode` tests it. -/
def allowsReadyTokenPath : Bool :=
  frame.method == some "initialized" || (frame.method == some "runtime/statusChanged" &&
    ((frame.params.bind (Value.get "status")).bind Value.asStr) == some "ready")

/-- `RpcFrame::encode`. -/
def encode (S : SerdeJson) (frame : RpcFrame) (maxFrameBytes : ℕ) :
    Except CodecError (List UInt8) := do
  let _ ← frame.validate
  rejectRawTokenMarkers frame.wireValue frame.allowsReadyTokenPath
  let encoded := S.toVec frame.wireValue
  ensure (encoded.length ≤ maxFrameBytes) (.frameTooLarge encoded.length maxFrameBytes)
  return encoded ++ [0x0A]

end RpcFrame

def parseStrictValue (S : SerdeJson) (text : String) : Except CodecError Value :=
  let (doc, ended) := S.fromStr text
  match visit doc with
  | .error duplicate => .error (if duplicate then .duplicateKey else .invalidJson)
  | .ok value => if ended then .ok value else .error .invalidJson

/-- The part of `decode_frame` before the envelope: from bytes to a JSON value. -/
def decodeValue (S : SerdeJson) (frame : List UInt8) (maxFrameBytes : ℕ) :
    Except CodecError Value := do
  ensure (!frame.isEmpty) .unexpectedEof
  ensure (frame.getLast? == some 0x0A) .partialFrame
  let payload := frame.dropLast
  ensure (!payload.isEmpty) .emptyFrame
  ensure (payload.length ≤ maxFrameBytes) (.frameTooLarge payload.length maxFrameBytes)
  ensure (!(payload.contains 0x0A || payload.getLast? == some 0x0D)) .invalidEnvelope
  let text ← okOr .invalidUtf8 (fromUtf8 payload)
  parseStrictValue S text

/-- A ready frame, as `decode_frame` tests the raw object. -/
def isReadyFrame : Bool :=
  (SortedMap.get "method" object).bind Value.asStr == some "runtime/statusChanged" &&
    (((SortedMap.get "params" object).bind Value.asObject).bind fun params =>
      (SortedMap.get "status" params).bind Value.asStr) == some "ready"

/-- An initialized frame, as `decode_frame` tests the raw object. -/
def isInitializedFrame : Bool :=
  (SortedMap.get "method" object).bind Value.asStr == some "initialized"

/-- The identifier of the raw object. -/
def decodeId : Except CodecError (Option String) :=
  match SortedMap.get "id" object with
  | none => .ok none
  | some (.string id) => if validId id then .ok (some id) else .error .invalidId
  | some _ => .error .invalidId

/-- The method of the raw object. -/
def decodeMethod : Except CodecError (Option String) :=
  match SortedMap.get "method" object with
  | none => .ok none
  | some (.string method) =>
    if !method.isEmpty && (asBytes method).length ≤ maxMethodBytes then .ok (some method)
    else .error .invalidEnvelope
  | some _ => .error .invalidEnvelope

/-- The error of the raw object. -/
def decodeError : Except CodecError (Option RpcError) :=
  match SortedMap.get "error" object with
  | none => .ok none
  | some (.object error) => (parseError error).map some
  | some _ => .error .invalidEnvelope

/-- The result of the raw object; an explicit null is a result. -/
def decodeResult : Present Value :=
  match SortedMap.get "result" object with
  | some result => .some result
  | none => .missing

/-- The part of `decode_frame` after parsing: from a JSON value to a frame. -/
def decodeEnvelope (value : Value) : Except CodecError RpcFrame := do
  let object ← okOr .nonObject value.asObject
  let readyFrame := isReadyFrame object
  let initializedFrame := isInitializedFrame object
  rejectRawTokenMarkers value (initializedFrame || readyFrame)
  rejectUnknownRootTokenMetadata object readyFrame
  ensure (SortedMap.get "jsonrpc" object == some (.string "2.0")) .invalidEnvelope
  let id ← decodeId object
  let method ← decodeMethod object
  let params := SortedMap.get "params" object
  ensure (method.isNone || params.any Value.isObject) .invalidEnvelope
  let error ← decodeError object
  RpcFrame.validated ⟨id, method, params, decodeResult object, error⟩

def decodeFrame (S : SerdeJson) (frame : List UInt8) (maxFrameBytes : ℕ) :
    Except CodecError RpcFrame := do
  let value ← decodeValue S frame maxFrameBytes
  decodeEnvelope value

end JaDesktop.Host
