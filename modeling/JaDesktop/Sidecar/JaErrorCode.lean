import JaDesktop.Lib.JsonTree
import JaDesktop.Lib.Outcomes
import JaDesktop.Lib.Text

/-!
# The error codes of the sidecar

`JaErrorCode` of the Java sidecar, with the name, the retry flag, the wire code and the public
message of each constant, and the failures that the sidecar's code throws.
-/

namespace JaDesktop.Sidecar

inductive JaErrorCode
  | invalidFrame
  | frameTooLarge
  | protocolVersionUnsupported
  | notInitialized
  | alreadyInitialized
  | methodNotFound
  | invalidParams
  | queueFull
  | pendingLimit
  | duplicateRequest
  | unknownRequestId
  | duplicateResponse
  | lateResponse
  | requestDeadlineExceeded
  | payloadTooLarge
  | resyncRequired
  | handshakeFailed
  | shuttingDown
  | dataDirInUse
  | migrationFailed
  | schemaTooNew
  | workspaceNotFound
  | workspaceUntrusted
  | conflict
  | threadNotFound
  | threadBusy
  | threadReadOnly
  | turnNotFound
  | turnNotActive
  | invalidState
  | cancelled
  | budgetExceeded
  | approvalNotFound
  | approvalExpired
  | approvalAlreadyResolved
  | toolDenied
  | toolFailed
  | processTimeout
  | processOutputLimit
  | externalToolUnsupported
  | secretNotFound
  | secretAccessDenied
  | modelUnsupported
  | modelUnavailable
  | skillInvalid
  | skillUnavailable
  | mcpUnsupportedAuth
  | mcpServerUnavailable
  | mcpProtocolUnsupported
  | mcpToolNotFound
  | mcpToolFailed
  | capabilityUnsupported
  | authUnsupported
  | internalError
  | sideCarCrashed
  | shutdownTimeout
deriving DecidableEq

/-- The fields of one constant, after its name. -/
structure JaErrorCode.Info where
  name : String
  retryable : Bool
  wireCode : ℤ
  publicMessage : String

/-- The table of the constants. -/
def JaErrorCode.info : JaErrorCode → JaErrorCode.Info
  | .invalidFrame => ⟨"INVALID_FRAME", false, -32001, "The protocol frame is invalid."⟩
  | .frameTooLarge => ⟨"FRAME_TOO_LARGE", false, -32002,
    "The protocol frame exceeds the negotiated limit."⟩
  | .protocolVersionUnsupported => ⟨"PROTOCOL_VERSION_UNSUPPORTED", false, -32003,
    "The protocol version is not supported."⟩
  | .notInitialized => ⟨"NOT_INITIALIZED", false, -32004, "The runtime has not been initialized."⟩
  | .alreadyInitialized => ⟨"ALREADY_INITIALIZED", false, -32005,
    "The runtime has already been initialized."⟩
  | .methodNotFound => ⟨"METHOD_NOT_FOUND", false, -32006, "The requested method is not available."⟩
  | .invalidParams => ⟨"INVALID_PARAMS", false, -32007, "The request parameters are invalid."⟩
  | .queueFull => ⟨"QUEUE_FULL", true, -32008, "The runtime queue is full."⟩
  | .pendingLimit => ⟨"PENDING_LIMIT", true, -32009, "The pending request limit was reached."⟩
  | .duplicateRequest => ⟨"DUPLICATE_REQUEST", false, -32010,
    "The request id or idempotency key is already in use."⟩
  | .unknownRequestId => ⟨"UNKNOWN_REQUEST_ID", false, -32011, "The response id is not pending."⟩
  | .duplicateResponse => ⟨"DUPLICATE_RESPONSE", false, -32012,
    "The response was already consumed."⟩
  | .lateResponse => ⟨"LATE_RESPONSE", false, -32013,
    "The response arrived after its deadline or cancellation."⟩
  | .requestDeadlineExceeded => ⟨"REQUEST_DEADLINE_EXCEEDED", true, -32014,
    "The request deadline was exceeded."⟩
  | .payloadTooLarge => ⟨"PAYLOAD_TOO_LARGE", false, -32015, "The payload exceeds its limit."⟩
  | .resyncRequired => ⟨"RESYNC_REQUIRED", true, -32016,
    "The event stream requires resynchronization."⟩
  | .handshakeFailed => ⟨"HANDSHAKE_FAILED", false, -32017, "The runtime handshake failed."⟩
  | .shuttingDown => ⟨"SHUTTING_DOWN", true, -32020, "The runtime is shutting down."⟩
  | .dataDirInUse => ⟨"DATA_DIR_IN_USE", false, -32021, "The data directory is already in use."⟩
  | .migrationFailed => ⟨"MIGRATION_FAILED", false, -32023, "The data migration failed."⟩
  | .schemaTooNew => ⟨"SCHEMA_TOO_NEW", false, -32024,
    "The stored schema is newer than this runtime."⟩
  | .workspaceNotFound => ⟨"WORKSPACE_NOT_FOUND", false, -32025, "The workspace was not found."⟩
  | .workspaceUntrusted => ⟨"WORKSPACE_UNTRUSTED", false, -32026, "The workspace is not trusted."⟩
  | .conflict => ⟨"CONFLICT", true, -32028, "The requested revision conflicts with current state."⟩
  | .threadNotFound => ⟨"THREAD_NOT_FOUND", false, -32029, "The thread was not found."⟩
  | .threadBusy => ⟨"THREAD_BUSY", true, -32030, "The thread already has an active turn."⟩
  | .threadReadOnly => ⟨"THREAD_READ_ONLY", false, -32031, "The thread is read-only."⟩
  | .turnNotFound => ⟨"TURN_NOT_FOUND", false, -32032, "The turn was not found."⟩
  | .turnNotActive => ⟨"TURN_NOT_ACTIVE", false, -32033, "The turn is not active."⟩
  | .invalidState => ⟨"INVALID_STATE", false, -32034, "The state transition is not allowed."⟩
  | .cancelled => ⟨"CANCELLED", false, -32035, "The operation was cancelled."⟩
  | .budgetExceeded => ⟨"BUDGET_EXCEEDED", false, -32036, "The operation budget was exceeded."⟩
  | .approvalNotFound => ⟨"APPROVAL_NOT_FOUND", false, -32040, "The approval was not found."⟩
  | .approvalExpired => ⟨"APPROVAL_EXPIRED", false, -32041, "The approval is expired."⟩
  | .approvalAlreadyResolved => ⟨"APPROVAL_ALREADY_RESOLVED", false, -32042,
    "The approval was already resolved."⟩
  | .toolDenied => ⟨"TOOL_DENIED", false, -32043, "The tool call was denied."⟩
  | .toolFailed => ⟨"TOOL_FAILED", false, -32044, "The tool call failed."⟩
  | .processTimeout => ⟨"PROCESS_TIMEOUT", true, -32046, "The process timed out."⟩
  | .processOutputLimit => ⟨"PROCESS_OUTPUT_LIMIT", false, -32047,
    "The process output limit was reached."⟩
  | .externalToolUnsupported => ⟨"EXTERNAL_TOOL_UNSUPPORTED", false, -32048,
    "The external tool is unsupported."⟩
  | .secretNotFound => ⟨"SECRET_NOT_FOUND", false, -32050, "The secret was not found."⟩
  | .secretAccessDenied => ⟨"SECRET_ACCESS_DENIED", false, -32051, "Secret access was denied."⟩
  | .modelUnsupported => ⟨"MODEL_UNSUPPORTED", false, -32052, "The model is unsupported."⟩
  | .modelUnavailable => ⟨"MODEL_UNAVAILABLE", true, -32053, "The model provider is unavailable."⟩
  | .skillInvalid => ⟨"SKILL_INVALID", false, -32054, "The skill is invalid."⟩
  | .skillUnavailable => ⟨"SKILL_UNAVAILABLE", true, -32055, "The skill is unavailable."⟩
  | .mcpUnsupportedAuth => ⟨"MCP_UNSUPPORTED_AUTH", false, -32056,
    "The MCP authentication mode is unsupported."⟩
  | .mcpServerUnavailable => ⟨"MCP_SERVER_UNAVAILABLE", true, -32057,
    "The MCP server is unavailable."⟩
  | .mcpProtocolUnsupported => ⟨"MCP_PROTOCOL_UNSUPPORTED", false, -32058,
    "The MCP protocol is unsupported."⟩
  | .mcpToolNotFound => ⟨"MCP_TOOL_NOT_FOUND", false, -32059, "The MCP tool was not found."⟩
  | .mcpToolFailed => ⟨"MCP_TOOL_FAILED", false, -32060, "The MCP tool call failed."⟩
  | .capabilityUnsupported => ⟨"CAPABILITY_UNSUPPORTED", false, -32070,
    "The capability is not available."⟩
  | .authUnsupported => ⟨"AUTH_UNSUPPORTED", false, -32071,
    "The authentication mode is unsupported."⟩
  | .internalError => ⟨"INTERNAL_ERROR", false, -32080, "The operation could not be completed."⟩
  | .sideCarCrashed => ⟨"SIDE_CAR_CRASHED", false, -32081, "The Java sidecar exited unexpectedly."⟩
  | .shutdownTimeout => ⟨"SHUTDOWN_TIMEOUT", false, -32082,
    "The runtime shutdown deadline was exceeded."⟩

variable (code : JaErrorCode)

/-- `Enum::name`. -/
def JaErrorCode.name : String := code.info.name

/-- `JaErrorCode.retryable`. -/
def JaErrorCode.retryable : Bool := code.info.retryable

/-- `JaErrorCode.wireCode`. -/
def JaErrorCode.wireCode : ℤ := code.info.wireCode

/-- `JaErrorCode.publicMessage`. -/
def JaErrorCode.publicMessage : String := code.info.publicMessage

/-- `JaErrorCode.values`. -/
def JaErrorCode.values : List JaErrorCode :=
  [.invalidFrame, .frameTooLarge, .protocolVersionUnsupported, .notInitialized,
    .alreadyInitialized, .methodNotFound, .invalidParams, .queueFull, .pendingLimit,
    .duplicateRequest, .unknownRequestId, .duplicateResponse, .lateResponse,
    .requestDeadlineExceeded, .payloadTooLarge, .resyncRequired, .handshakeFailed, .shuttingDown,
    .dataDirInUse, .migrationFailed, .schemaTooNew, .workspaceNotFound, .workspaceUntrusted,
    .conflict, .threadNotFound, .threadBusy, .threadReadOnly, .turnNotFound, .turnNotActive,
    .invalidState, .cancelled, .budgetExceeded, .approvalNotFound, .approvalExpired,
    .approvalAlreadyResolved, .toolDenied, .toolFailed, .processTimeout, .processOutputLimit,
    .externalToolUnsupported, .secretNotFound, .secretAccessDenied, .modelUnsupported,
    .modelUnavailable, .skillInvalid, .skillUnavailable, .mcpUnsupportedAuth,
    .mcpServerUnavailable, .mcpProtocolUnsupported, .mcpToolNotFound, .mcpToolFailed,
    .capabilityUnsupported, .authUnsupported, .internalError, .sideCarCrashed, .shutdownTimeout]

lemma JaErrorCode.mem_values (code : JaErrorCode) : code ∈ values := by
  cases code <;> decide

lemma JaErrorCode.of_values {check : JaErrorCode → Bool} (h : values.all check = true)
    (code : JaErrorCode) : check code = true :=
  List.all_eq_true.mp h code (mem_values code)

/-- `JaErrorCode.fromWireCode`. -/
def JaErrorCode.fromWireCode (wireCode : ℤ) : Option JaErrorCode :=
  values.find? fun value => value.wireCode == wireCode

/-- `JaErrorCode.fromName`. -/
def JaErrorCode.fromName (name : JavaString) : Option JaErrorCode :=
  values.find? fun value => utf16Encode value.name == name

lemma JaErrorCode.fromWireCode_wireCode (code : JaErrorCode) :
    fromWireCode code.wireCode = some code := by
  have htable : values.all (fun code => fromWireCode code.wireCode == some code) = true := by
    decide +kernel
  exact eq_of_beq (of_values htable code)

lemma JaErrorCode.fromName_name (code : JaErrorCode) :
    fromName (utf16Encode code.name) = some code := by
  have htable : values.all (fun code =>
      values.find? (fun value => value.name == code.name) == some code) = true := by
    decide +kernel
  have hfind : fromName (utf16Encode code.name) =
      values.find? fun value => value.name == code.name := by
    refine congrArg (fun check => values.find? check) (funext fun value => ?_)
    rw [Bool.eq_iff_iff, beq_iff_eq, beq_iff_eq]
    exact utf16Encode_injective.eq_iff
  rw [hfind]
  exact eq_of_beq (of_values htable code)

/-- A thrown exception: a `ProtocolException` with its code, or any other runtime exception. -/
inductive Thrown
  | protocol (code : JaErrorCode)
  | runtime
deriving DecidableEq

def handshakeFailure : Thrown := .protocol .handshakeFailed

end JaDesktop.Sidecar
