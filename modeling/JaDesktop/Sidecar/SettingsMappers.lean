import Mathlib.Data.List.Infix
import JaDesktop.Sidecar.Protocol

/-!
# Settings on the side of the sidecar

`ProfileWireMapper` and `McpWireMapper` read the objects of `profile/save` and `mcp/save`;
`McpServerDefinition` and the constructor of `ModelProfile` check what they build.  A regular
expression of the source is the function that it denotes on UTF-16 units.  `java.net.URI` is a
parameter (`JavaUrls`), and so is the check of a base URL in `ModelProfile`.
-/

namespace JaDesktop.Sidecar

/-! ## Regular expressions -/

variable (s : JavaString)

/-- The ASCII letters of a text in lower case. -/
def lowerAscii : JavaString :=
  s.map fun u => if 0x41 ≤ u && u ≤ 0x5A then u + 0x20 else u

/-- `String.contains`. -/
def containsText (part : String) : Bool := decide (java part <:+: s)

/-- `String.startsWith` without regard to the case of ASCII letters. -/
def startsIgnoringCase (word : String) (s : JavaString) : Bool :=
  (java word).isPrefixOf (lowerAscii s)

/-- The class `\s`. -/
def isRegexSpace (u : UInt16) : Bool := u == 0x20 || (0x09 ≤ u && u ≤ 0x0D)

/-- A line terminator, which `.` does not match. -/
def isLineTerminator (u : UInt16) : Bool :=
  u == 0x0A || u == 0x0D || u == 0x85 || u == 0x2028 || u == 0x2029

/-- The class `[A-Za-z0-9_-]`. -/
def isKeyUnit (u : UInt16) : Bool := isAlphanumeric u || u == 0x5F || u == 0x2D

/-- The words of `SENSITIVE_CONFIG_KEY`, the optional separators written out. -/
def sensitiveKeyWords : List String :=
  ["apikey", "api_key", "api-key", "accesstoken", "access_token", "access-token", "authorization",
    "credential", "password", "secret", "token"]

/-- `McpConfigSupport.isSensitiveConfigKey`: the pattern is found somewhere in the text. -/
def isSensitiveConfigKey : Bool :=
  sensitiveKeyWords.any fun word => containsText (lowerAscii s) word

/-- The words of `SENSITIVE_CONFIG_VALUE` that an assignment follows. -/
def assignedWords : List String :=
  ["apikey", "api_key", "api-key", "accesstoken", "access_token", "access-token", "password",
    "secret"]

/-- A text that begins with `sk-[A-Za-z0-9_-]{12,}`. -/
def startsWithKey : Bool :=
  startsIgnoringCase "sk-" s && ((s.drop 3).take 12).length == 12 &&
    ((s.drop 3).take 12).all isKeyUnit

/-- A text that begins with `bearer\s+[A-Za-z0-9._-]+`. -/
def startsWithBearer : Bool :=
  startsIgnoringCase "bearer" s && (s.drop 6).head?.any isRegexSpace &&
    ((s.drop 6).dropWhile isRegexSpace).head?.any isTailUnit

/-- A text that begins with one of the words, `\s*` and `[:=]`. -/
def startsWithAssignment : Bool :=
  assignedWords.any fun word => startsIgnoringCase word s &&
    ((s.drop (java word).length).dropWhile isRegexSpace).head?.any fun u => u == 0x3A || u == 0x3D

/-- `McpConfigSupport.isSensitiveConfigValue`: the pattern is found somewhere in the text. -/
def isSensitiveConfigValue : Bool :=
  s.tails.any fun rest => startsWithKey rest || startsWithBearer rest || startsWithAssignment rest

/-- `SECRET_REF` is found: the marker and at least one unit of a reference. -/
def hasSecretMarker : Bool :=
  s.tails.any fun rest => (java "secret-ref://").isPrefixOf rest &&
    (rest.drop (java "secret-ref://").length).head?.any isTailUnit

/-- The units that a stdio endpoint may not have. -/
def shellUnits : List UInt16 := java "\r\n;&|\x60$<>"

/-- `STDIO_ENDPOINT`: one line without shell syntax, no option after white space, and no white
space before the first separator of the path. -/
def matchesStdioEndpoint : Bool :=
  !s.isEmpty && !s.any isLineTerminator && !s.any shellUnits.contains &&
    !(s.tails.any fun rest => rest.head?.any isRegexSpace &&
      rest.tail.head?.any fun u => u == 0x2D || u == 0x2F) &&
    !(s.takeWhile fun u => u != 0x5C && u != 0x2F).any isRegexSpace

/-- The pattern `[A-Za-z0-9._:-]{1,64}`. -/
def matchesVendor : Bool :=
  !s.isEmpty && s.length ≤ 64 && s.all fun u => isTailUnit u || u == 0x3A

/-- The pattern of `SecretRef`, `[A-Za-z0-9][A-Za-z0-9._:-]{0,127}`. -/
def matchesSecretRef : JavaString → Bool
  | [] => false
  | first :: rest => isAlphanumeric first && rest.length ≤ 127 &&
      rest.all fun u => isTailUnit u || u == 0x3A

/-- `validEnvName`, `[A-Za-z_][A-Za-z0-9_]{0,127}`. -/
def validEnvName : Option JavaString → Bool
  | some (first :: rest) => (isAlphanumeric first && !(0x30 ≤ first && first ≤ 0x39) ||
      first == 0x5F) && rest.length ≤ 127 && rest.all fun u => isAlphanumeric u || u == 0x5F
  | _ => false

/-- The units of a header name besides letters and digits. -/
def headerMarks : List UInt16 := java "!#$%&'*+-.^_\x60|~"

def validHeaderName : Option JavaString → Bool
  | some name => 1 ≤ name.length && name.length ≤ 128 &&
      name.all fun u => isAlphanumeric u || headerMarks.contains u
  | none => false

def validCredentialRef : Option JavaString → Bool
  | some s => matchesHeadTail "cred_" s
  | none => false

/-! ## URLs -/

/-- What the sidecar asks of a `java.net.URI`. -/
structure JavaUri where
  scheme : Option JavaString
  host : Option JavaString
  rawUserInfo : Option JavaString
  rawQuery : Option JavaString
  rawFragment : Option JavaString
deriving DecidableEq

/-- `URI.create`, where `none` is its exception, and the check `ModelProfile.validateBaseUrl`. -/
structure JavaUrls where
  create : JavaString → Option JavaUri
  validBaseUrl : JavaString → Bool

/-- `containsSecretQuery`: a member of the query assigns one of the words. -/
def containsSecretQuery : Option JavaString → Bool
  | none => false
  | some query => !isBlank query &&
      (query.splitOn 0x26).any fun part =>
        sensitiveKeyWords.any fun word => startsIgnoringCase (word ++ "=") part

/-- The scheme is http or https, and there is a host. -/
def JavaUri.isHttp (uri : JavaUri) : Bool :=
  uri.scheme.any (fun s => lowerAscii s == java "http" || lowerAscii s == java "https") &&
    uri.host.any fun s => !isBlank s

variable (urls : JavaUrls)

def validateEndpoint (raw : JavaString) : Except String Unit :=
  if hasSecretMarker raw then .error "mcp_url_secret"
  else
    match urls.create raw with
    | none => .error "mcp_url_invalid"
    | some endpoint => reject (!endpoint.isHttp || endpoint.rawUserInfo.isSome ||
        endpoint.rawFragment.isSome || endpoint.rawQuery.any (·.contains 0x25) ||
        containsSecretQuery endpoint.rawQuery) "mcp_url_invalid"

/-! ## Profiles -/

def invalidParams : Thrown := .protocol .invalidParams

inductive ModelApi
  | anthropicMessages
  | openaiChatCompletions
  | openaiResponses
deriving DecidableEq

inductive ModelProvider
  | anthropic
  | openai
  | openaiCompatible
deriving DecidableEq

/-- `ModelProfile`, the fields that the mapper sets. -/
structure ModelProfile where
  id : JavaString
  displayName : JavaString
  provider : ModelProvider
  vendorId : Option JavaString
  api : ModelApi
  model : JavaString
  baseUrl : Option JavaString
  secretRef : Option JavaString
  supportsVision : Option Bool
deriving DecidableEq

/-- The constructor of `ModelProfile`. -/
def ModelProfile.create (profile : ModelProfile) : Except Thrown ModelProfile :=
  if isBlank profile.id || isBlank profile.displayName ||
      profile.vendorId.any (fun vendor => isBlank vendor || !matchesVendor vendor) ||
      isBlank profile.model || profile.baseUrl.any (fun url => !urls.validBaseUrl url) ||
      (profile.provider == .anthropic && profile.api != .anthropicMessages) ||
      (profile.provider == .openaiCompatible && profile.api != .openaiChatCompletions) then
    .error .runtime
  else .ok profile

structure SavedProfile where
  wireRevision : JavaString
  accessMode : JavaString
  model : ModelProfile
  wireProfile : ObjectNode
  skillRevisions : List JavaString
  mcpRevisions : List JavaString
deriving DecidableEq

namespace ProfileWireMapper

/-- `Integer.MAX_VALUE`. -/
def maxInt : ℕ := 2147483647

variable (parent : ObjectNode)

def requiredText (field : String) (maxLength : ℕ) :
    Except Thrown JavaString :=
  match ObjectNode.get (java field) parent with
  | some (.string value) =>
    if isBlank value || value.length > maxLength then .error invalidParams else .ok value
  | _ => .error invalidParams

def optionalText (field : String) (maxLength : ℕ) :
    Except Thrown (Option JavaString) :=
  match ObjectNode.get (java field) parent with
  | none => .ok none
  | some (.string value) =>
    if isBlank value || value.length > maxLength then .error invalidParams else .ok (some value)
  | some _ => .error invalidParams

def requiredEnum (field : String) (allowed : List String) :
    Except Thrown JavaString := do
  let value ← requiredText parent field maxInt
  if allowed.any fun candidate => java candidate == value then .ok value else .error invalidParams

def requiredIdentifier (field head : String) : Except Thrown JavaString := do
  let value ← requiredText parent field maxInt
  if matchesHeadTail head value then .ok value else .error invalidParams

/-- The loop of `revisionArray`, with the values seen so far. -/
def revisions (head : String) (unique : List JavaString) :
    List JsonNode → Except Thrown (List JavaString)
  | [] => .ok unique
  | .string value :: rest =>
    if !matchesHeadTail head value || unique.contains value then .error invalidParams
    else revisions head (unique ++ [value]) rest
  | _ :: _ => .error invalidParams

def revisionArray (field head : String) :
    Except Thrown (List JavaString) :=
  match ObjectNode.get (java field) parent with
  | none => .ok []
  | some (.array values) =>
    if values.length > 128 then .error invalidParams else revisions head [] values
  | some _ => .error invalidParams

/-- The choice of the API by the name of the protocol; Responses is reserved. -/
def apiOf (protocolText : JavaString) : Except Thrown ModelApi :=
  if protocolText = java "anthropic_messages" then .ok .anthropicMessages
  else if protocolText = java "openai_chat_completions" then .ok .openaiChatCompletions
  else .error (.protocol .modelUnsupported)

/-- The choice of the provider.  No letter outside ASCII is lowered to one of the two names. -/
def providerOf (api : ModelApi) (providerInput : JavaString) : Except Thrown ModelProvider :=
  if api = .anthropicMessages then
    if lowerAscii providerInput = java "anthropic" then .ok .anthropic
    else .error (.protocol .modelUnsupported)
  else if lowerAscii providerInput = java "openai" then .ok .openai
  else if matchesVendor providerInput then .ok .openaiCompatible
  else .error invalidParams

/-- The check of the credential of a model. -/
def secretRefOf : Option JavaString → Except Thrown (Option JavaString)
  | none => .ok none
  | some credential =>
    if matchesHeadTail "cred_" credential && matchesSecretRef credential then .ok (some credential)
    else .error invalidParams

/-- The override of the vision capability; a missing field leaves it unknown. -/
def supportsVision (model : ObjectNode) : Except Thrown (Option Bool) :=
  match ObjectNode.get (java "supportsVision") model with
  | none => .ok none
  | some (.bool b) => .ok (some b)
  | some _ => .error invalidParams

/-- The part of `parse` that reads the member `model`. -/
def parseModel (urls : JavaUrls) (revision name : JavaString) (model : ObjectNode) :
    Except Thrown ModelProfile := do
  let providerInput ← requiredText model "provider" 128
  let protocolText ← requiredText model "protocol" 32
  let modelName ← requiredText model "model" 256
  let api ← apiOf (lowerAscii protocolText)
  let provider ← providerOf api providerInput
  let baseUrl ← optionalText model "baseUrl" 2048
  let credential ← optionalText model "credentialRef" 100
  let secretRef ← secretRefOf credential
  let vision ← supportsVision model
  ModelProfile.create urls {
    id := revision
    displayName := name
    provider
    vendorId := if provider = .openaiCompatible then some providerInput else none
    api
    model := modelName
    baseUrl
    secretRef
    supportsVision := vision }

/-- The check of the member `model`. -/
def requiredObject (field : String) : Except Thrown ObjectNode :=
  match ObjectNode.get (java field) parent with
  | some (.object node) => .ok node
  | _ => .error invalidParams

/-- `ProfileWireMapper.parse`. -/
def parse (urls : JavaUrls) : JsonNode → Except Thrown SavedProfile
  | .object profile => do
    let revision ← requiredIdentifier profile "profileRevision" "profile_"
    let name ← requiredText profile "name" 256
    let accessMode ← requiredEnum profile "accessMode" ["read_only", "workspace", "full_access"]
    let skillRevisions ← revisionArray profile "skillRevisions" "skill_"
    let mcpRevisions ← revisionArray profile "mcpRevisions" "mcp_"
    let modelNode ← requiredObject profile "model"
    let model ← parseModel urls revision name modelNode
    return { wireRevision := revision, accessMode, model, wireProfile := profile, skillRevisions,
             mcpRevisions }
  | _ => .error invalidParams

end ProfileWireMapper

/-! ## Server definitions -/

/-- The checks of the constructor of `McpServerDefinition.Auth`. -/
def checkAuth (kind : JavaString) (name credentialRef : Option JavaString) : Except String Unit :=
  let requiresSecret := kind = java "env" || kind = java "bearer" || kind = java "header"
  if !(requiresSecret || kind = java "none") then .error "mcp_auth_unsupported"
  else if kind = java "env" && !validEnvName name then .error "mcp_auth_env_name_invalid"
  else if kind = java "header" && !validHeaderName name then .error "mcp_auth_header_name_invalid"
  else if requiresSecret && !validCredentialRef credentialRef then
    .error "mcp_auth_credential_invalid"
  else reject (!requiresSecret && (name.isSome || credentialRef.isSome)) "mcp_auth_shape_invalid"

/-- `McpServerDefinition.Auth`. -/
structure McpAuth where
  kind : JavaString
  name : Option JavaString
  credentialRef : Option JavaString
  checked : checkAuth kind name credentialRef = .ok ()

/-- The constructor of `McpServerDefinition.Auth`. -/
def McpAuth.create (kind : JavaString) (name credentialRef : Option JavaString) :
    Except String McpAuth :=
  match h : checkAuth kind name credentialRef with
  | .ok () => .ok ⟨kind, name, credentialRef, h⟩
  | .error e => .error e

lemma McpAuth.create_eq_ok {kind : JavaString} {name credentialRef : Option JavaString}
    (h : checkAuth kind name credentialRef = .ok ()) :
    McpAuth.create kind name credentialRef = .ok ⟨kind, name, credentialRef, h⟩ := by
  unfold McpAuth.create
  split
  · rfl
  · rename_i e he
    rw [h] at he
    cases he

lemma McpAuth.of_create {kind : JavaString} {name credentialRef : Option JavaString}
    {auth : McpAuth} (h : McpAuth.create kind name credentialRef = .ok auth) :
    checkAuth kind name credentialRef = .ok () ∧ auth.kind = kind := by
  unfold McpAuth.create at h
  split at h
  · rename_i hcheck
    obtain rfl := Except.ok.inj h
    exact ⟨hcheck, rfl⟩
  · cases h

/-- `Auth.none`. -/
def McpAuth.none : McpAuth := ⟨java "none", Option.none, Option.none, by decide⟩

structure McpServerDefinition where
  revision : JavaString
  name : JavaString
  transport : JavaString
  endpoint : JavaString
  protocolVersion : JavaString
  args : List JavaString
  env : List (JavaString × JavaString)
  headers : List (JavaString × JavaString)
  queryParams : List (JavaString × JavaString)
  auth : McpAuth
  enabled : Bool

/-- `McpServerDefinition.requireText`. -/
def requireText (value : JavaString) (code : String) (maxLength : ℕ) : Except String Unit :=
  reject (isBlank value || value.length > maxLength || value.contains 0) code

def requireEndpoint (value transport : JavaString) : Except String Unit := do
  requireText value "mcp_endpoint_required" 4096
  reject (isSensitiveConfigValue value) "mcp_endpoint_invalid"
  if transport = java "stdio" then
    reject (!matchesStdioEndpoint value) "mcp_stdio_endpoint_invalid"
  else validateEndpoint urls value

def copyStrings (values : List JavaString) : Except String Unit := do
  reject (values.length > 64) "mcp_args_limit"
  values.forM fun value => do
    reject (isBlank value || value.length > 4096 || value.contains 0 ||
      containsText value "secret-ref://") "mcp_args_invalid"
    reject (isSensitiveConfigValue value) "mcp_config_value_invalid"

def copyMap (values : List (JavaString × JavaString)) : Except String Unit := do
  reject (values.length > 64) "mcp_config_map_limit"
  values.forM fun pair => reject (isBlank pair.1 || pair.1.length > 128 ||
    isSensitiveConfigKey pair.1 || pair.2.length > 4096 || pair.2.contains 0 ||
    isSensitiveConfigValue pair.2 || containsText pair.2 "secret-ref://")
    "mcp_config_value_invalid"

def validateShape (d : McpServerDefinition) : Except String Unit :=
  if d.transport = java "stdio" then
    reject (!d.headers.isEmpty || !d.queryParams.isEmpty || d.auth.kind = java "bearer" ||
      d.auth.kind = java "header") "mcp_stdio_auth_shape_invalid"
  else reject (!d.args.isEmpty || !d.env.isEmpty || d.auth.kind = java "env")
    "mcp_http_auth_shape_invalid"

/-- The constructor of `McpServerDefinition`. -/
def McpServerDefinition.create (d : McpServerDefinition) :
    Except String McpServerDefinition := do
  reject (!matchesHeadTail "mcp_" d.revision) "mcp_revision_invalid"
  requireText d.name "mcp_name_required" 256
  reject (!(d.transport = java "stdio" || d.transport = java "streamable_http"))
    "mcp_transport_unsupported"
  requireEndpoint urls d.endpoint d.transport
  reject (!(d.protocolVersion = java "2024-11-05" || d.protocolVersion = java "2025-03-26" ||
    d.protocolVersion = java "2025-06-18")) "mcp_protocol_version_unsupported"
  copyStrings d.args
  copyMap d.env
  copyMap d.headers
  copyMap d.queryParams
  validateShape d
  return d

namespace McpWireMapper

def serverFields : List JavaString :=
  ["mcpRevision", "name", "transport", "endpoint", "protocolVersion", "args", "env", "headers",
    "queryParams", "auth", "credentialRef", "enabled"].map java

def authFields : List JavaString := ["kind", "name", "credentialRef"].map java

def rejectUnknownFields (node : ObjectNode) (allowed : List JavaString) : Except Thrown Unit :=
  reject (node.any fun field => !allowed.contains field.1) invalidParams

variable (parent : ObjectNode)

def requiredText (field : String) : Except Thrown JavaString :=
  match ObjectNode.get (java field) parent with
  | some (.string value) => if isBlank value then .error invalidParams else .ok value
  | _ => .error invalidParams

def optionalText (field : String) : Except Thrown (Option JavaString) :=
  match ObjectNode.get (java field) parent with
  | none => .ok none
  | some (.string value) => if isBlank value then .error invalidParams else .ok (some value)
  | some _ => .error invalidParams

/-- One entry of `stringList`. -/
def textValue : JsonNode → Except Thrown JavaString
  | .string value => .ok value
  | _ => .error invalidParams

def stringList (field : String) : Except Thrown (List JavaString) :=
  match ObjectNode.get (java field) parent with
  | none => .ok []
  | some (.array values) => values.mapM textValue
  | some _ => .error invalidParams

/-- `stringMap`; the object has no repeated names. -/
def stringMap (field : String) :
    Except Thrown (List (JavaString × JavaString)) :=
  match ObjectNode.get (java field) parent with
  | none => .ok []
  | some (.object fields) => fields.mapM fun entry => do
      let value ← textValue entry.2
      return (entry.1, value)
  | some _ => .error invalidParams

/-- `auth`, with the failures of the constructor translated. -/
def auth (kind : JavaString) (name credentialRef : Option JavaString) : Except Thrown McpAuth :=
  (McpAuth.create kind name credentialRef).mapError fun code =>
    if code.startsWith "mcp_auth_unsupported" then .protocol .mcpUnsupportedAuth else invalidParams

def parseAuth (authNode : Option JsonNode) (legacyCredentialRef : Option JavaString)
    (transport : JavaString) : Except Thrown McpAuth :=
  match authNode, legacyCredentialRef with
  | some _, some _ => .error invalidParams
  | none, some reference =>
    if transport = java "streamable_http" then auth (java "bearer") none (some reference)
    else .error invalidParams
  | none, none => .ok McpAuth.none
  | some (.object node), none => do
    rejectUnknownFields node authFields
    let kind ← requiredText node "kind"
    if ["none", "bearer", "header", "env"].any fun k => java k == kind then
      let name ← optionalText node "name"
      let credentialRef ← optionalText node "credentialRef"
      if kind = java "none" && (name.isSome || credentialRef.isSome) then .error invalidParams
      else if kind ≠ java "none" && credentialRef.isNone then .error invalidParams
      else auth kind name credentialRef
    else .error (.protocol .mcpUnsupportedAuth)
  | some _, none => .error invalidParams

def booleanValue (field : String) (defaultValue : Bool) :
    Except Thrown Bool :=
  match ObjectNode.get (java field) parent with
  | none => .ok defaultValue
  | some (.bool b) => .ok b
  | some _ => .error invalidParams

def optionalField (field : String) : Except Thrown (Option JsonNode) :=
  match ObjectNode.get (java field) parent with
  | none => .ok none
  | some .null => .error invalidParams
  | some value => .ok (some value)

/-- The check of the older member `credentialRef`. -/
def legacyCredentialRef : Option JsonNode → Except Thrown (Option JavaString)
  | none => .ok none
  | some (.string value) => .ok (some value)
  | some _ => .error invalidParams

def mapDefinitionFailure (code : String) : Thrown :=
  if code.startsWith "mcp_protocol" || code.startsWith "mcp_transport" ||
      code.startsWith "mcp_auth_unsupported" then .protocol .mcpProtocolUnsupported
  else invalidParams

/-- `McpWireMapper.parse`. -/
def parse (urls : JavaUrls) : JsonNode → Except Thrown McpServerDefinition
  | .object server => do
    rejectUnknownFields server serverFields
    let revision ← requiredText server "mcpRevision"
    let name ← requiredText server "name"
    let transport ← requiredText server "transport"
    let endpoint ← requiredText server "endpoint"
    let protocolVersion ← requiredText server "protocolVersion"
    let args ← stringList server "args"
    let env ← stringMap server "env"
    let headers ← stringMap server "headers"
    let queryParams ← stringMap server "queryParams"
    reject (transport = java "stdio" && (ObjectNode.has (java "headers") server ||
      ObjectNode.has (java "queryParams") server)) invalidParams
    reject (transport = java "streamable_http" && (ObjectNode.has (java "args") server ||
      ObjectNode.has (java "env") server)) invalidParams
    let legacyCredential ← optionalField server "credentialRef"
    let legacy ← legacyCredentialRef legacyCredential
    let authNode ← optionalField server "auth"
    let auth ← parseAuth authNode legacy transport
    let enabled ← booleanValue server "enabled" true
    (McpServerDefinition.create urls ⟨revision, name, transport, endpoint, protocolVersion, args,
      env, headers, queryParams, auth, enabled⟩).mapError mapDefinitionFailure
  | _ => .error invalidParams

end McpWireMapper

end JaDesktop.Sidecar
