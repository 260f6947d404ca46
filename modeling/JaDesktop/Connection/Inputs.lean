import JaDesktop.Lib.JsonTree
import JaDesktop.Ui.RuntimeEvents

/-!
# What the WebView and the host exchange

The inputs and results of the host adapter, after its schemas have accepted them.
-/

namespace JaDesktop.Connection

open Ui (AccessMode ApprovalDecision)

/-! ## Status and recovery -/

inductive RuntimeStatusKind
  | starting
  | ready
  | busy
  | stopping
  | stopped
  | recoveryRequired
  | crashed
  | incompatible
  | faulted
deriving DecidableEq

/-- A turn can be admitted, or go on, in this status. -/
def RuntimeStatusKind.serves : RuntimeStatusKind → Bool
  | .ready | .busy => true
  | _ => false

structure RuntimeStatus where
  status : RuntimeStatusKind
  generation : ℕ
  serverInstanceId : Option String
deriving DecidableEq

structure RuntimeRecoveryState where
  required : Bool
  acknowledgeable : Bool
  recoveryId : Option String
  revision : Option ℕ
deriving DecidableEq

inductive RecoveryReason
  | systemRestarted
  | externallyCleaned
deriving DecidableEq

structure ManualRecoveryConfirmation where
  recoveryId : String
  revision : ℕ
  reason : RecoveryReason
deriving DecidableEq

/-! ## Settings -/

inductive ModelProtocol
  | anthropicMessages
  | openAiChatCompletions
deriving DecidableEq

structure ModelProfileSetting where
  profileRevision : String
  name : String
  provider : String
  protocol : ModelProtocol
  model : String
  baseUrl : Option String
  credentialRef : Option String
  supportsVision : Option Bool
  accessMode : Option AccessMode
  skillRevisions : Option (List String)
  mcpRevisions : Option (List String)
deriving DecidableEq

inductive McpAuthKind
  | none
  | bearer
  | header
  | env
deriving DecidableEq

structure McpAuthSetting where
  kind : McpAuthKind
  name : Option String
  credentialRef : Option String
deriving DecidableEq

inductive McpTransport
  | stdio
  | streamableHttp
deriving DecidableEq

/-- `McpServerSetting`; a record of texts is the list of its members. -/
structure McpServerSetting where
  mcpRevision : String
  name : String
  transport : McpTransport
  endpoint : String
  protocolVersion : String
  args : Option (List String)
  env : Option (List (String × String))
  headers : Option (List (String × String))
  queryParams : Option (List (String × String))
  auth : Option McpAuthSetting
  credentialRef : Option String
  enabled : Option Bool
deriving DecidableEq

inductive Theme
  | system
  | light
  | dark
deriving DecidableEq

structure WindowSettings where
  width : Option ℕ
  height : Option ℕ
  maximized : Option Bool
deriving DecidableEq

structure SettingsDocument where
  schemaVersion : ℕ
  revision : Option ℕ
  theme : Option Theme
  activeProfileRevision : Option String
  profiles : Option (List ModelProfileSetting)
  mcpServers : Option (List McpServerSetting)
  window : WindowSettings
deriving DecidableEq

inductive Trust
  | untrusted
  | trusted
deriving DecidableEq

structure RuntimeConfigureInput where
  workspaceId : String
  rootPath : String
  displayName : Option String
  trust : Trust
  settings : SettingsDocument
deriving DecidableEq

/-! ## Turns, approvals and queries -/

/-- `TurnStartInput`; an input part is a text. -/
structure TurnStartInput where
  threadId : String
  accessMode : AccessMode
  profileRevision : String
  input : List String
deriving DecidableEq

structure TurnAccepted where
  accepted : Bool
  turnId : String
  queued : Bool
  status : String
deriving DecidableEq

structure TurnCancelInput where
  threadId : String
  turnId : String
  reason : Option String
deriving DecidableEq

inductive TurnCancelStatus
  | interrupting
  | interrupted
deriving DecidableEq

structure TurnCancelResult where
  turnId : String
  status : TurnCancelStatus
deriving DecidableEq

structure ApprovalResponseInput where
  approvalId : String
  decision : ApprovalDecision
  resolvedAt : String
deriving DecidableEq

inductive RuntimeSettingsMethod
  | skillList
  | mcpList
  | mcpTest
  | mcpToolsRead
deriving DecidableEq

/-- The arguments of `queryRuntime`; the parameters are the text that `JSON.stringify` gives. -/
structure RuntimeQueryInput where
  method : RuntimeSettingsMethod
  params : String
deriving DecidableEq

structure RuntimeHostError where
  code : String
  message : String
  retryable : Bool
deriving DecidableEq

/-! ## Calls of the adapter -/

/-- A call of a native command. -/
inductive NativeCall
  | configure (input : RuntimeConfigureInput)
  | start
  | stop
  | state
  | recoveryState
  | acknowledgeRecovery (confirmation : ManualRecoveryConfirmation)
  | turnStart (input : TurnStartInput)
  | turnCancel (input : TurnCancelInput)
  | approvalRespond (input : ApprovalResponseInput)
  | query (input : RuntimeQueryInput)
deriving DecidableEq

/-- What a native command returns. -/
inductive NativeResult
  | configured
  | status (status : RuntimeStatus)
  | recovery (recovery : RuntimeRecoveryState)
  | turnAccepted (accepted : TurnAccepted)
  | turnCancelled (result : TurnCancelResult)
  | responded
  | answered (result : String)
deriving DecidableEq

/-- How a native command settles, after `normalizeRuntimeError`. -/
abbrev Outcome := Except RuntimeHostError NativeResult

/-- The optional methods that an adapter has. -/
structure RuntimeHostAdapter where
  configure : Bool
  turnCancel : Bool
  approvalRespond : Bool
  query : Bool

end JaDesktop.Connection
