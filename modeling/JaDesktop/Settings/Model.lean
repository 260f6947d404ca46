import Mathlib.Data.List.Infix
import JaDesktop.Host.Json

/-!
# The settings document

`settings/model.rs`: the settings that the host keeps in a file, and `SettingsDocument.validate`,
which every document passes before it is written.  The document holds references to
credentials, never the credentials: a `CredentialRef` can only be built by `parse`, and the maps
of a server definition are ordered maps, as a `BTreeMap` is.  Parsing a URL is the work of the
`url` crate and is a parameter (`UrlParser`).
-/

namespace JaDesktop.Settings

open Host

/-! ## Parts of the document -/

def settingsSchemaVersion : UInt32 := 1

def maxProfiles : ℕ := 128

def maxMcpServers : ℕ := 128

def maxSettingsString : ℕ := 512

inductive ApiProtocol
  | anthropicMessages
  | openAiChatCompletions
  | openAiResponses
deriving DecidableEq

inductive AccessMode
  | readOnly
  | workspace
  | fullAccess
deriving DecidableEq

inductive McpAuthKind
  | none
  | bearer
  | header
  | env
deriving DecidableEq

inductive ThemePreference
  | system
  | light
  | dark
deriving DecidableEq

/-- A byte of a reference or a revision after its prefix. -/
def isReferenceByte (byte : UInt8) : Bool :=
  isAsciiAlphanumeric byte || byte == 0x2E || byte == 0x5F || byte == 0x2D

inductive SettingsModelError
  | invalidCredentialRef
  | invalidText
  | invalidUrl
  | invalidWindowSize
  | tooManyEntries
  | unsupportedProtocol
  | unsupportedSchema
deriving DecidableEq

variable (value : String)

/-- What `CredentialRef::parse` asks of a text. -/
def isCredentialRef : Bool :=
  !((asBytes value).length > 100 || !(asBytes "cred_").isPrefixOf (asBytes value) ||
    (asBytes value).length ≤ 5 || !((asBytes value).drop 5).all isReferenceByte)

/-- `CredentialRef`: the private text of a reference has passed `parse`. -/
abbrev CredentialRef := {value : String // isCredentialRef value = true}

/-- `CredentialRef::parse`. -/
def CredentialRef.parse : Except SettingsModelError CredentialRef :=
  if h : isCredentialRef value = true then .ok ⟨value, h⟩ else .error .invalidCredentialRef

@[simp] lemma CredentialRef.parse_val (reference : CredentialRef) :
    CredentialRef.parse reference.val = .ok reference := dif_pos reference.2

/-- `BTreeMap<String, String>`. -/
abbrev StringMap := {m : List (String × String) // SortedMap.Sorted m}

def StringMap.empty : StringMap := ⟨[], List.Pairwise.nil⟩

/-- The keys of a map, in order. -/
def StringMap.keys (m : StringMap) : List String := m.val.map Prod.fst

structure McpAuthSetting where
  kind : McpAuthKind
  name : Option String
  credentialRef : Option CredentialRef
deriving DecidableEq

structure ProfileSetting where
  profileRevision : String
  name : String
  provider : String
  protocol : ApiProtocol
  model : String
  baseUrl : Option String
  credentialRef : Option CredentialRef
  supportsVision : Bool
  accessMode : AccessMode
  skillRevisions : List String
  mcpRevisions : Option (List String)
deriving DecidableEq

structure McpServerSetting where
  mcpRevision : String
  name : String
  transport : String
  endpoint : String
  protocolVersion : String
  args : List String
  env : StringMap
  headers : StringMap
  queryParams : StringMap
  auth : Option McpAuthSetting
  credentialRef : Option CredentialRef
  enabled : Bool
deriving DecidableEq

structure WindowSettings where
  width : UInt32 := 1280
  height : UInt32 := 820
  maximized : Bool := false
deriving DecidableEq

/-- `SettingsDocument`, with the values of its `Default` instance. -/
structure SettingsDocument where
  schemaVersion : UInt32 := settingsSchemaVersion
  revision : UInt64 := 0
  theme : ThemePreference := .system
  activeProfileRevision : Option String := none
  profiles : List ProfileSetting := []
  mcpServers : List McpServerSetting := []
  window : WindowSettings := {}
deriving DecidableEq

/-! ## Texts -/

/-- `char::is_control`: the category Cc. -/
def isControl (c : Char) : Bool := c.toNat < 0x20 || (0x7F ≤ c.toNat && c.toNat ≤ 0x9F)

def isAlphanumericChar (c : Char) : Bool :=
  c.toNat < 0x80 && JaDesktop.isAsciiAlphanumeric (UInt8.ofNat c.toNat)

/-- `char::to_ascii_lowercase`. -/
def lowerChar (c : Char) : Char :=
  if 0x41 ≤ c.toNat && c.toNat ≤ 0x5A then Char.ofNat (c.toNat + 0x20) else c

/-- `str::contains` for one of several markers. -/
def containsAny (markers : List String) (text : List Char) : Bool :=
  markers.any fun marker => decide (marker.toList <:+: text)

def validateText : Except SettingsModelError Unit :=
  reject (value == "" || (asBytes value).length > maxSettingsString || value.toList.any isControl)
    .invalidText

def containsSensitiveConfigKey : Bool :=
  containsAny ["api_key", "apikey", "access_token", "accesstoken", "authorization", "credential",
    "password", "secret", "token"] (value.toList.map lowerChar)

/-- `contains_sensitive_text`; only ASCII letters are left when the text is lowered. -/
def containsSensitiveText : Bool :=
  let normalized := (value.toList.filter fun character =>
    isAlphanumericChar character || character == ':' || character == '=').map
      lowerChar
  containsAny ["token:", "token=", "secret:", "secret=", "password:", "password=", "apikey:",
    "apikey=", "authorization:", "authorization=", "bearer:"] normalized ||
    containsAny ["apikey"] normalized

def validateMcpValue : Except SettingsModelError Unit :=
  reject (value == "" || (asBytes value).length > 4096 || value.toList.contains '\x00' ||
    value.toList.any isControl || containsSensitiveText value) .invalidText

/-- The test that `validate_revision_identifier` and `validate_revision_list` share. -/
def isRevision (kind value : String) : Bool :=
  !((asBytes value).length < (asBytes kind).length + 1 || (asBytes value).length > 128 ||
    !(asBytes kind).isPrefixOf (asBytes value) ||
    !((asBytes value).drop (asBytes kind).length).all isReferenceByte)

def validateRevisionIdentifier (value kind : String) : Except SettingsModelError Unit :=
  reject (!isRevision kind value) .invalidText

/-- `validate_revision_list`: every entry is a revision, and new in the list. -/
def validateRevisionList (values : List String) (kind : String) : Except SettingsModelError Unit :=
  if values.length > 128 then .error .tooManyEntries
  else reject (!(values.all (isRevision kind) && decide values.Nodup)) .invalidText

def validEnvName : Option String → Bool
  | none => false
  | some value =>
    match asBytes value with
    | [] => false
    | first :: rest => (first :: rest).length ≤ 128 &&
        (isAsciiAlphabetic first || first == 0x5F) &&
        rest.all fun byte => isAsciiAlphanumeric byte || byte == 0x5F

/-- The bytes that a header name may have besides letters and digits. -/
def headerNameMarks : List UInt8 := (asBytes "!#$%&'*+-.^_`|~")

def validHeaderName : Option String → Bool
  | none => false
  | some value => value != "" && (asBytes value).length ≤ 128 &&
      (asBytes value).all fun byte => isAsciiAlphanumeric byte || headerNameMarks.contains byte

/-- `str::eq_ignore_ascii_case`. -/
def eqIgnoreAsciiCase (a b : String) : Bool :=
  (asBytes a).map toAsciiLowercase == (asBytes b).map toAsciiLowercase

/-! ## URLs -/

/-- What the host asks of a parsed URL. -/
structure Url where
  scheme : String
  username : String
  password : Option String
  query : Option String
  fragment : Option String
deriving DecidableEq

/-- `url::Url::parse`. -/
abbrev UrlParser := String → Option Url

def Url.isHttp (url : Url) : Bool := url.scheme == "http" || url.scheme == "https"

variable (parse : UrlParser)

def validateUrl (value : String) : Except SettingsModelError Unit :=
  if (asBytes value).length > maxSettingsString then .error .invalidUrl
  else
    match parse value with
    | none => .error .invalidUrl
    | some parsed => reject (!parsed.isHttp || parsed.username != "" || parsed.password.isSome ||
        parsed.query.isSome || parsed.fragment.isSome) .invalidUrl

/-! ## Validation -/

variable (server : McpServerSetting)

/-- The pairs of the three maps of a server, one map after the other. -/
def McpServerSetting.pairs : List (String × String) :=
  server.env.val ++ server.headers.val ++ server.queryParams.val

/-- The checks of `validate_mcp_shape` on one key and its value. -/
def validateMcpPair (pair : String × String) : Except SettingsModelError Unit := do
  reject (pair.1 == "" || (asBytes pair.1).length > 128 || containsSensitiveConfigKey pair.1 ||
    containsSensitiveText pair.2) .invalidText
  validateMcpValue pair.2

/-- `CredentialRef::parse` as a check of a reference that is there already. -/
def checkReference (reference : CredentialRef) : Except SettingsModelError Unit :=
  (CredentialRef.parse reference.val).map fun _ => ()

/-- The `match` of `validate_mcp_shape` over the kinds of authentication. -/
def validateMcpAuthKind (auth : McpAuthSetting) :
    Except SettingsModelError Unit :=
  match auth.kind with
  | .none => reject (auth.name.isSome || auth.credentialRef.isSome) .invalidCredentialRef
  | .env => reject (server.transport != "stdio" || !validEnvName auth.name ||
      auth.credentialRef.isNone || auth.name.any (server.env.keys.contains ·)) .invalidText
  | .bearer => reject (server.transport != "streamable_http" || auth.name.isSome ||
      auth.credentialRef.isNone ||
      server.headers.keys.any (eqIgnoreAsciiCase · "authorization")) .invalidText
  | .header => reject (server.transport != "streamable_http" || !validHeaderName auth.name ||
      auth.credentialRef.isNone ||
      auth.name.any fun name => server.headers.keys.any (eqIgnoreAsciiCase · name)) .invalidText

/-- The part of `validate_mcp_shape` about the authentication of a server. -/
def validateMcpAuth (auth : McpAuthSetting) :
    Except SettingsModelError Unit := do
  reject server.credentialRef.isSome .invalidCredentialRef
  validateMcpAuthKind server auth
  checkSome checkReference auth.credentialRef

def validateMcpShape : Except SettingsModelError Unit := do
  reject (server.args.length > 64 || server.env.val.length > 64 || server.headers.val.length > 64)
    .tooManyEntries
  reject (server.queryParams.val.length > 64) .tooManyEntries
  server.args.forM validateMcpValue
  server.pairs.forM validateMcpPair
  reject (server.transport == "stdio" &&
    (!server.headers.val.isEmpty || !server.queryParams.val.isEmpty)) .invalidText
  reject (server.transport == "streamable_http" &&
    (!server.args.isEmpty || !server.env.val.isEmpty)) .invalidText
  checkSome (validateMcpAuth server) server.auth

/-- The protocol versions that the host knows. -/
def protocolVersions : List String := ["2024-11-05", "2025-03-26", "2025-06-18"]

/-- The body of the loop of `validate` over the servers. -/
def validateServer (server : McpServerSetting) :
    Except SettingsModelError Unit := do
  validateRevisionIdentifier server.mcpRevision "mcp_"
  validateText server.name
  reject (!(server.transport == "stdio" || server.transport == "streamable_http")) .invalidText
  validateText server.endpoint
  validateText server.protocolVersion
  reject (!protocolVersions.contains server.protocolVersion) .invalidText
  reject (containsSensitiveText server.endpoint) .invalidText
  checkSome (fun parsed => if parsed.isHttp then validateUrl parse server.endpoint else .ok ())
    (parse server.endpoint)
  checkSome checkReference server.credentialRef
  validateMcpShape server

/-- A selected revision names an enabled server; the first server of that revision counts. -/
def validateSelection (servers : List McpServerSetting) (revision : String) :
    Except SettingsModelError Unit :=
  match servers.find? fun server => server.mcpRevision == revision with
  | none => .error .invalidText
  | some selected => reject (!selected.enabled) .invalidText

/-- The checks of `validate` on the revisions that a profile selects. -/
def validateSelections (servers : List McpServerSetting) (revisions : List String) :
    Except SettingsModelError Unit := do
  validateRevisionList revisions "mcp_"
  revisions.forM (validateSelection servers)

/-- The body of the loop of `validate` over the profiles. -/
def validateProfile (servers : List McpServerSetting)
    (profile : ProfileSetting) : Except SettingsModelError Unit := do
  validateRevisionIdentifier profile.profileRevision "profile_"
  validateText profile.name
  validateText profile.provider
  validateText profile.model
  validateRevisionList profile.skillRevisions "skill_"
  checkSome (validateSelections servers) profile.mcpRevisions
  reject (profile.protocol == .openAiResponses) .unsupportedProtocol
  checkSome (validateUrl parse) profile.baseUrl
  checkSome checkReference profile.credentialRef

/-- `WindowSettings::validate`. -/
def WindowSettings.validate (window : WindowSettings) : Except SettingsModelError Unit :=
  reject (!(640 ≤ window.width.toNat && window.width.toNat ≤ 16384) ||
    !(480 ≤ window.height.toNat && window.height.toNat ≤ 16384)) .invalidWindowSize

/-- `SettingsDocument::validate`. -/
def SettingsDocument.validate (document : SettingsDocument) :
    Except SettingsModelError Unit := do
  reject (document.schemaVersion != settingsSchemaVersion) .unsupportedSchema
  reject (document.profiles.length > maxProfiles || document.mcpServers.length > maxMcpServers)
    .tooManyEntries
  checkSome validateText document.activeProfileRevision
  document.profiles.forM (validateProfile parse document.mcpServers)
  document.mcpServers.forM (validateServer parse)
  document.window.validate

end JaDesktop.Settings
