import JaDesktop.Settings.Model

/-!
# The replay snapshot

`RuntimeReplayConfig` of `app_runtime/config.rs`: the part of the settings that is frozen when a
workspace is configured and sent again to every fresh sidecar.  `fromInput` selects it from a valid
document; `profileParams` and `mcpParams` build the objects that `profile/save` and `mcp/save` carry.
Looking at the root directory is the work of the file system and is a parameter.
-/

namespace JaDesktop.Settings

open Host

/-- The errors of `RuntimeCommandError` that configuring raises. -/
inductive RuntimeCommandError
  | invalidParams
  | configuration
  | profileUnavailable
deriving DecidableEq

structure RuntimeConfigureInput where
  workspaceId : String
  rootPath : String
  displayName : Option String
  trust : String
  settings : SettingsDocument

structure RuntimeReplayConfig where
  workspaceId : String
  rootPath : String
  displayName : Option String
  trust : String
  profile : ProfileSetting
  skillRevisions : List String
  mcpServers : List McpServerSetting
deriving DecidableEq

def validTextId (value : String) (max : ℕ) : Bool :=
  value != "" && (asBytes value).length ≤ max && value.toList.all fun character =>
    isAlphanumericChar character || character == '_' || character == '-' || character == '.' ||
      character == ':'

/-- The checks of `from_input` on the fields beside the settings. -/
def validWorkspace (input : RuntimeConfigureInput) : Bool :=
  !(!(asBytes "ws_").isPrefixOf (asBytes input.workspaceId) || !validTextId input.workspaceId 128 ||
    !(input.trust == "untrusted" || input.trust == "trusted") || input.rootPath == "" ||
    (asBytes input.rootPath).length > 4096 || input.rootPath.toList.any isControl ||
    input.displayName.any fun value =>
      value == "" || (asBytes value).length > 256 || value.toList.any isControl)

/-- The enabled servers, or those of them that the profile selects. -/
def selectServers (settings : SettingsDocument) (profile : ProfileSetting) :
    List McpServerSetting :=
  let enabledMcp := settings.mcpServers.filter (·.enabled)
  match profile.mcpRevisions with
  | some revisions => revisions.filterMap fun revision =>
      enabledMcp.find? fun server => server.mcpRevision == revision
  | none => enabledMcp

/-- `RuntimeReplayConfig::from_input`; `resolveRoot` is the canonical path of a directory that is
no link. -/
def RuntimeReplayConfig.fromInput (parse : UrlParser) (resolveRoot : String → Option String)
    (input : RuntimeConfigureInput) : Except RuntimeCommandError RuntimeReplayConfig := do
  (input.settings.validate parse).mapError fun _ => .invalidParams
  reject (!validWorkspace input) .invalidParams
  let rootPath ← (resolveRoot input.rootPath).elim (.error .configuration) .ok
  let activeRevision ← input.settings.activeProfileRevision.elim (.error .profileUnavailable) .ok
  let profile ← (input.settings.profiles.find? fun profile =>
    profile.profileRevision == activeRevision).elim (.error .profileUnavailable) .ok
  let mcpServers := selectServers input.settings profile
  reject (mcpServers.any fun server => !validTextId server.mcpRevision 128) .invalidParams
  return { workspaceId := input.workspaceId, rootPath, displayName := input.displayName,
           trust := input.trust, profile, skillRevisions := profile.skillRevisions, mcpServers }

variable (replay : RuntimeReplayConfig)

def RuntimeReplayConfig.modelCredential : Option CredentialRef :=
  replay.profile.credentialRef

def RuntimeReplayConfig.mcp (revision : String) :
    Option McpServerSetting :=
  replay.mcpServers.find? fun server => server.mcpRevision == revision

variable (server : McpServerSetting)

/-- `mcp_credential`: the reference of the authentication, or the older one beside it. -/
def McpServerSetting.mcpCredential : Option CredentialRef :=
  (server.auth.bind (·.credentialRef)).or server.credentialRef

/-! ## Parameters -/

/-- An object of the `json!` macro, with members that are set later at the end. -/
def jsonObject (members : Map) : Value := .object (SortedMap.ofList members)

/-- A member that is only set when it has a value. -/
def member? {α : Type} (key : String) (toValue : α → Value) (value : Option α) : Map :=
  (value.map fun a => (key, toValue a)).toList

/-- The names of the protocols in `profile_params`. -/
def protocolText : ApiProtocol → String
  | .anthropicMessages => "anthropic_messages"
  | .openAiChatCompletions => "openai_chat_completions"
  | .openAiResponses => "openai_responses"

/-- The names of the access modes in `profile_params`. -/
def accessModeText : AccessMode → String
  | .readOnly => "read_only"
  | .workspace => "workspace"
  | .fullAccess => "full_access"

def modelMembers (profile : ProfileSetting) : Map :=
  [("provider", .string profile.provider), ("protocol", .string (protocolText profile.protocol)),
    ("model", .string profile.model), ("supportsVision", .bool profile.supportsVision)] ++
    (member? "baseUrl" .string profile.baseUrl ++
      member? "credentialRef" (fun reference => .string reference.val) profile.credentialRef)

def profileMembers : Map :=
  [("profileRevision", .string replay.profile.profileRevision),
    ("name", .string replay.profile.name),
    ("accessMode", .string (accessModeText replay.profile.accessMode)),
    ("skillRevisions", .array (replay.skillRevisions.map .string)),
    ("mcpRevisions", .array (replay.mcpServers.map fun server => .string server.mcpRevision)),
    ("model", jsonObject (modelMembers replay.profile))]

def RuntimeReplayConfig.profileParams : Value :=
  jsonObject (profileMembers replay)

/-- The names of the kinds of authentication in `mcp_params`. -/
def authKindText : McpAuthKind → String
  | .none => "none"
  | .bearer => "bearer"
  | .header => "header"
  | .env => "env"

/-- The authentication that `mcp_params` sends: the one of the server, or what its older reference
stands for. -/
def authMembers : Map :=
  match server.auth with
  | some auth => [("kind", .string (authKindText auth.kind))] ++
      (member? "name" .string auth.name ++
        member? "credentialRef" (fun reference => .string reference.val) auth.credentialRef)
  | none =>
    match server.credentialRef with
    | some reference =>
      if server.transport = "stdio" then
        [("kind", .string "env"), ("name", .string "JA_MCP_SECRET"),
          ("credentialRef", .string reference.val)]
      else [("kind", .string "bearer"), ("credentialRef", .string reference.val)]
    | none => [("kind", .string "none")]

/-- A list or a map that is only sent when it is not empty. -/
def nonEmpty {α : Type} (values : List α) (value : Value) : Option Value :=
  if values.isEmpty then none else some value

def stringMapObject (m : StringMap) : Value :=
  jsonObject (m.val.map fun pair => (pair.1, .string pair.2))

def serverMembers : Map :=
  [("mcpRevision", .string server.mcpRevision), ("name", .string server.name),
    ("transport", .string server.transport), ("endpoint", .string server.endpoint),
    ("protocolVersion", .string server.protocolVersion), ("enabled", .bool server.enabled)] ++
    ((if server.transport = "stdio" then
        member? "args" id (nonEmpty server.args (.array (server.args.map .string))) ++
          member? "env" id (nonEmpty server.env.val (stringMapObject server.env))
      else
        member? "headers" id (nonEmpty server.headers.val (stringMapObject server.headers)) ++
          member? "queryParams" id
            (nonEmpty server.queryParams.val (stringMapObject server.queryParams))) ++
      [("auth", jsonObject (authMembers server))])

def mcpParams : Value := jsonObject (serverMembers server)

end JaDesktop.Settings
