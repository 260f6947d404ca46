import JaDesktop.Settings.Model

/-!
# The settings document as JSON

The reading and the writing that `serde` derives for the types of `settings/model.rs`.  Writing
lists every field in the order of its declaration.  Reading accepts a structure as an object,
where unknown fields are refused and fields with a default may be missing, or as the array of
its fields.  A document that is written and read comes back (`fromValue_toValue`).
-/

namespace JaDesktop.Settings

open Host

/-! ## Names of the enumerations -/

def ApiProtocol.name : ApiProtocol → String
  | .anthropicMessages => "anthropic_messages"
  | .openAiChatCompletions => "openai_chat_completions"
  | .openAiResponses => "openai_responses"

/-- The names that are read, with the aliases of older files. -/
def ApiProtocol.ofName (name : String) : Option ApiProtocol :=
  if name = "anthropic_messages" then some .anthropicMessages
  else if name = "openai_chat_completions" ∨ name = "open_ai_chat_completions" then
    some .openAiChatCompletions
  else if name = "openai_responses" ∨ name = "open_ai_responses" then some .openAiResponses
  else none

def AccessMode.name : AccessMode → String
  | .readOnly => "read_only"
  | .workspace => "workspace"
  | .fullAccess => "full_access"

def AccessMode.ofName (name : String) : Option AccessMode :=
  if name = "read_only" then some .readOnly
  else if name = "workspace" then some .workspace
  else if name = "full_access" then some .fullAccess
  else none

def McpAuthKind.name : McpAuthKind → String
  | .none => "none"
  | .bearer => "bearer"
  | .header => "header"
  | .env => "env"

def McpAuthKind.ofName (name : String) : Option McpAuthKind :=
  if name = "none" then some .none
  else if name = "bearer" then some .bearer
  else if name = "header" then some .header
  else if name = "env" then some .env
  else Option.none

def ThemePreference.name : ThemePreference → String
  | .system => "system"
  | .light => "light"
  | .dark => "dark"

def ThemePreference.ofName (name : String) : Option ThemePreference :=
  if name = "system" then some .system
  else if name = "light" then some .light
  else if name = "dark" then some .dark
  else none

/-! ## Writing -/

/-- An optional value, `null` when it is missing. -/
def optional {α : Type} (toValue : α → Value) : Option α → Value
  | some a => toValue a
  | none => .null

def stringsValue (values : List String) : Value := .array (values.map .string)

def StringMap.toValue (m : StringMap) : Value :=
  .object (m.val.map fun pair => (pair.1, .string pair.2))

def referenceValue (reference : Option CredentialRef) : Value :=
  optional (fun r => .string r.val) reference

/-- A machine word as a JSON number. -/
def u32Value (n : UInt32) : Value :=
  .number (.int ⟨n.toNat, by have := n.toNat_lt; omega⟩)

def u64Value (n : UInt64) : Value :=
  .number (.int ⟨n.toNat, by have := n.toNat_lt; omega⟩)

def McpAuthSetting.toValue (auth : McpAuthSetting) : Value :=
  .object [("kind", .string auth.kind.name), ("name", optional .string auth.name),
    ("credentialRef", referenceValue auth.credentialRef)]

def ProfileSetting.toValue (profile : ProfileSetting) : Value :=
  .object [("profileRevision", .string profile.profileRevision), ("name", .string profile.name),
    ("provider", .string profile.provider), ("protocol", .string profile.protocol.name),
    ("model", .string profile.model), ("baseUrl", optional .string profile.baseUrl),
    ("credentialRef", referenceValue profile.credentialRef),
    ("supportsVision", .bool profile.supportsVision),
    ("accessMode", .string profile.accessMode.name),
    ("skillRevisions", stringsValue profile.skillRevisions),
    ("mcpRevisions", optional stringsValue profile.mcpRevisions)]

def McpServerSetting.toValue (server : McpServerSetting) : Value :=
  .object [("mcpRevision", .string server.mcpRevision), ("name", .string server.name),
    ("transport", .string server.transport), ("endpoint", .string server.endpoint),
    ("protocolVersion", .string server.protocolVersion), ("args", stringsValue server.args),
    ("env", server.env.toValue), ("headers", server.headers.toValue),
    ("queryParams", server.queryParams.toValue),
    ("auth", optional McpAuthSetting.toValue server.auth),
    ("credentialRef", referenceValue server.credentialRef), ("enabled", .bool server.enabled)]

def WindowSettings.toValue (window : WindowSettings) : Value :=
  .object [("width", u32Value window.width), ("height", u32Value window.height),
    ("maximized", .bool window.maximized)]

def SettingsDocument.toValue (document : SettingsDocument) : Value :=
  .object [("schemaVersion", u32Value document.schemaVersion),
    ("revision", u64Value document.revision), ("theme", .string document.theme.name),
    ("activeProfileRevision", optional .string document.activeProfileRevision),
    ("profiles", .array (document.profiles.map ProfileSetting.toValue)),
    ("mcpServers", .array (document.mcpServers.map McpServerSetting.toValue)),
    ("window", document.window.toValue)]

/-! ## Reading -/

/-- The fields of a structure, looked up by name.  An array gives them by position, and stands
for the structure as long as it has no more items than the structure has fields. -/
def structFields (names : List String) : Value → Option (String → Option Value)
  | .object members =>
    if members.all fun member => names.contains member.1 then
      some fun name => SortedMap.get name members
    else none
  | .array items =>
    if items.length ≤ names.length then some fun name => items[names.idxOf name]? else none
  | _ => none

/-- A field without a default. -/
def required {α : Type} (decode : Value → Option α) (field : Option Value) : Option α :=
  field.bind decode

/-- A field with a default. -/
def defaulted {α : Type} (decode : Value → Option α) (default : α) (field : Option Value) :
    Option α :=
  match field with
  | some value => decode value
  | none => some default

def decodeOption {α : Type} (decode : Value → Option α) : Value → Option (Option α)
  | .null => some none
  | value => (decode value).map some

def decodeList {α : Type} (decode : Value → Option α) : Value → Option (List α)
  | .array items => items.mapM decode
  | _ => none

/-- A unit variant: its name, or an object with the name as its only key. -/
def decodeVariant {α : Type} (ofName : String → Option α) : Value → Option α
  | .string name => ofName name
  | .object [(name, .null)] => ofName name
  | _ => none

def decodePair (member : String × Value) : Option (String × String) :=
  (Value.asStr member.2).map (member.1, ·)

def decodeStringMap : Value → Option StringMap
  | .object members => (members.mapM decodePair).map fun pairs =>
      ⟨SortedMap.ofList pairs, SortedMap.sorted_ofList pairs⟩
  | _ => none

variable (value : Value)

def decodeU32 : Option UInt32 :=
  value.asU64.bind fun n => if n < 4294967296 then some (UInt32.ofNat n) else none

def decodeU64 : Option UInt64 := value.asU64.map UInt64.ofNat

/-- `Deserialize for CredentialRef`: the text passes `parse`. -/
def decodeReference : Option CredentialRef :=
  value.asStr.bind fun text => (CredentialRef.parse text).toOption

def McpAuthSetting.fromValue : Option McpAuthSetting := do
  let field ← structFields ["kind", "name", "credentialRef"] value
  let kind ← required (decodeVariant McpAuthKind.ofName) (field "kind")
  let name ← defaulted (decodeOption Value.asStr) none (field "name")
  let credentialRef ← defaulted (decodeOption decodeReference) none (field "credentialRef")
  return { kind, name, credentialRef }

def ProfileSetting.fromValue : Option ProfileSetting := do
  let field ← structFields ["profileRevision", "name", "provider", "protocol", "model", "baseUrl",
    "credentialRef", "supportsVision", "accessMode", "skillRevisions", "mcpRevisions"] value
  let profileRevision ← required Value.asStr (field "profileRevision")
  let name ← required Value.asStr (field "name")
  let provider ← required Value.asStr (field "provider")
  let protocol ← required (decodeVariant ApiProtocol.ofName) (field "protocol")
  let model ← required Value.asStr (field "model")
  let baseUrl ← defaulted (decodeOption Value.asStr) none (field "baseUrl")
  let credentialRef ← defaulted (decodeOption decodeReference) none (field "credentialRef")
  let supportsVision ← defaulted Value.asBool false (field "supportsVision")
  let accessMode ← defaulted (decodeVariant AccessMode.ofName) .workspace (field "accessMode")
  let skillRevisions ← defaulted (decodeList Value.asStr) [] (field "skillRevisions")
  let mcpRevisions ←
    defaulted (decodeOption (decodeList Value.asStr)) none (field "mcpRevisions")
  return { profileRevision, name, provider, protocol, model, baseUrl, credentialRef,
           supportsVision, accessMode, skillRevisions, mcpRevisions }

def McpServerSetting.fromValue : Option McpServerSetting := do
  let field ← structFields ["mcpRevision", "name", "transport", "endpoint", "protocolVersion",
    "args", "env", "headers", "queryParams", "auth", "credentialRef", "enabled"] value
  let mcpRevision ← required Value.asStr (field "mcpRevision")
  let name ← required Value.asStr (field "name")
  let transport ← required Value.asStr (field "transport")
  let endpoint ← required Value.asStr (field "endpoint")
  let protocolVersion ← required Value.asStr (field "protocolVersion")
  let args ← defaulted (decodeList Value.asStr) [] (field "args")
  let env ← defaulted decodeStringMap .empty (field "env")
  let headers ← defaulted decodeStringMap .empty (field "headers")
  let queryParams ← defaulted decodeStringMap .empty (field "queryParams")
  let auth ← defaulted (decodeOption McpAuthSetting.fromValue) none (field "auth")
  let credentialRef ← defaulted (decodeOption decodeReference) none (field "credentialRef")
  let enabled ← defaulted Value.asBool true (field "enabled")
  return { mcpRevision, name, transport, endpoint, protocolVersion, args, env, headers,
           queryParams, auth, credentialRef, enabled }

def WindowSettings.fromValue : Option WindowSettings := do
  let field ← structFields ["width", "height", "maximized"] value
  let width ← defaulted decodeU32 1280 (field "width")
  let height ← defaulted decodeU32 820 (field "height")
  let maximized ← defaulted Value.asBool false (field "maximized")
  return { width, height, maximized }

def SettingsDocument.fromValue : Option SettingsDocument := do
  let field ← structFields ["schemaVersion", "revision", "theme", "activeProfileRevision",
    "profiles", "mcpServers", "window"] value
  let schemaVersion ← required decodeU32 (field "schemaVersion")
  let revision ← defaulted decodeU64 0 (field "revision")
  let theme ← defaulted (decodeVariant ThemePreference.ofName) .system (field "theme")
  let activeProfileRevision ←
    defaulted (decodeOption Value.asStr) none (field "activeProfileRevision")
  let profiles ← defaulted (decodeList ProfileSetting.fromValue) [] (field "profiles")
  let mcpServers ← defaulted (decodeList McpServerSetting.fromValue) [] (field "mcpServers")
  let window ← defaulted WindowSettings.fromValue {} (field "window")
  return { schemaVersion, revision, theme, activeProfileRevision, profiles, mcpServers, window }

/-! ## Round trip -/

@[simp] lemma ApiProtocol.ofName_name (p : ApiProtocol) : ofName p.name = some p := by
  cases p <;> decide

@[simp] lemma AccessMode.ofName_name (m : AccessMode) : ofName m.name = some m := by
  cases m <;> decide

@[simp] lemma McpAuthKind.ofName_name (k : McpAuthKind) : ofName k.name = some k := by
  cases k <;> decide

@[simp] lemma ThemePreference.ofName_name (t : ThemePreference) : ofName t.name = some t := by
  cases t <;> decide

/-- Reading what was written, after the reader has put the objects in order. -/
def Reads {α : Type} (toValue : α → Value) (fromValue : Value → Option α) : Prop :=
  ∀ a, fromValue (toValue a).sort = some a

lemma reads_string : Reads Json.string Value.asStr := fun _ => rfl

lemma reads_bool : Reads Json.bool Value.asBool := fun _ => rfl

lemma reads_variant {α : Type} {name : α → String} {ofName : String → Option α}
    (h : ∀ a, ofName (name a) = some a) : Reads (fun a => .string (name a)) (decodeVariant ofName) :=
  h

lemma reads_u32 : Reads u32Value decodeU32 := by
  intro n
  have hlt : n.toNat < 4294967296 := n.toNat_lt
  simp [decodeU32, u32Value, Json.sort, Value.asU64, hlt]

lemma reads_u64 : Reads u64Value decodeU64 := by
  intro n
  simp [decodeU64, u64Value, Json.sort, Value.asU64]

lemma reads_reference : Reads (fun r : CredentialRef => .string r.val) decodeReference := by
  intro r
  simp [decodeReference, Json.sort, Value.asStr, Except.toOption]

lemma mapM_map {α β : Type} {write : α → β} {read : β → Option α}
    (h : ∀ a, read (write a) = some a) (l : List α) : (l.map write).mapM read = some l := by
  induction l with
  | nil => rfl
  | cons a l ih => rw [List.map_cons, List.mapM_cons, h a, ih]; rfl

/-- An optional value is read back unless it is itself written as `null`. -/
lemma reads_optional {α : Type} {toValue : α → Value} {fromValue : Value → Option α}
    (h : Reads toValue fromValue) (hnull : ∀ a, (toValue a).sort ≠ .null) :
    Reads (optional toValue) (decodeOption fromValue) := by
  rintro (- | a)
  · rfl
  · have hread : decodeOption fromValue (toValue a).sort =
        (fromValue (toValue a).sort).map some := by
      unfold decodeOption
      split
      · exact absurd ‹_› (hnull a)
      · rfl
    rw [optional, hread, h a]
    rfl

lemma reads_list {α : Type} {toValue : α → Value} {fromValue : Value → Option α}
    (h : Reads toValue fromValue) :
    Reads (fun l => .array (l.map toValue)) (decodeList fromValue) := by
  intro l
  simp only [Json.sort, Json.sortItems_eq_map, List.map_map, decodeList]
  exact mapM_map h l

lemma reads_strings : Reads stringsValue (decodeList Value.asStr) := reads_list reads_string

lemma reads_stringMap : Reads StringMap.toValue decodeStringMap := by
  rintro ⟨pairs, hsorted⟩
  have hentries : Json.sortMembers (pairs.map fun pair => (pair.1, (Json.string pair.2 : Value))) =
      pairs.map fun pair => (pair.1, .string pair.2) := by
    rw [Json.sortMembers_eq_map, List.map_map]
    rfl
  have hmap : (pairs.map fun pair => (pair.1, (Json.string pair.2 : Value))).mapM decodePair =
      some pairs :=
    mapM_map (fun pair => show decodePair (pair.1, .string pair.2) = some pair from rfl) pairs
  have hordered : SortedMap.Sorted (pairs.map fun pair => (pair.1, (Json.string pair.2 : Value))) := by
    simpa [SortedMap.Sorted, List.map_map, Function.comp_def] using hsorted
  simp only [StringMap.toValue, Json.sort, decodeStringMap, hentries,
    SortedMap.ofList_of_sorted hordered, hmap, Option.map_some,
    SortedMap.ofList_of_sorted hsorted]

lemma structFields_sort {names : List String} {members : Map}
    (hnodup : (members.map Prod.fst).Nodup) (hknown : ∀ member ∈ members, member.1 ∈ names) :
    structFields names (Json.object members).sort =
      some fun name => (SortedMap.get name members).map Json.sort := by
  have hkeys : ((Json.sortMembers members).map Prod.fst).Nodup := by
    rwa [Json.keys_sortMembers]
  have hall : (SortedMap.ofList (Json.sortMembers members)).all
      (fun member => names.contains member.1) = true := by
    rw [List.all_eq_true]
    intro member hmember
    have hsorted := SortedMap.mem_of_mem_ofList hmember
    rw [Json.sortMembers_eq_map] at hsorted
    obtain ⟨member', hmember', rfl⟩ := List.mem_map.mp hsorted
    simpa using hknown member' hmember'
  rw [Json.sort, structFields, if_pos hall]
  congr 1
  funext name
  rw [SortedMap.get_ofList hkeys, Json.get_sortMembers]

lemma bind_of_eq {α β : Type} {x : Option α} {f : α → Option β} {a : α} {b : β} (hx : x = some a)
    (hf : f a = some b) : (x >>= f) = some b := by
  rw [hx]
  exact hf

section Fields

variable {α : Type} {toValue : α → Value} {fromValue : Value → Option α} {name : String}
  {members : Map} {a default : α}

lemma required_get (h : Reads toValue fromValue)
    (hget : SortedMap.get name members = some (toValue a)) :
    required fromValue ((SortedMap.get name members).map Json.sort) = some a := by
  rw [hget]
  exact h a

lemma defaulted_get (h : Reads toValue fromValue)
    (hget : SortedMap.get name members = some (toValue a)) :
    defaulted fromValue default ((SortedMap.get name members).map Json.sort) = some a := by
  rw [hget]
  exact h a

end Fields

lemma reads_optionalString : Reads (optional Json.string) (decodeOption Value.asStr) :=
  reads_optional reads_string (by simp [Json.sort])

lemma reads_optionalReference : Reads referenceValue (decodeOption decodeReference) :=
  reads_optional reads_reference (by simp [Json.sort])

lemma McpAuthSetting.reads : Reads toValue fromValue := by
  intro auth
  refine bind_of_eq (structFields_sort (by simp) (by simp)) ?_
  refine bind_of_eq (required_get (reads_variant McpAuthKind.ofName_name) rfl) ?_
  refine bind_of_eq (defaulted_get reads_optionalString rfl) ?_
  refine bind_of_eq (defaulted_get reads_optionalReference rfl) ?_
  rfl

lemma ProfileSetting.reads : Reads toValue fromValue := by
  intro profile
  refine bind_of_eq (structFields_sort (by simp) (by simp)) ?_
  refine bind_of_eq (required_get reads_string rfl) ?_
  refine bind_of_eq (required_get reads_string rfl) ?_
  refine bind_of_eq (required_get reads_string rfl) ?_
  refine bind_of_eq (required_get (reads_variant ApiProtocol.ofName_name) rfl) ?_
  refine bind_of_eq (required_get reads_string rfl) ?_
  refine bind_of_eq (defaulted_get reads_optionalString rfl) ?_
  refine bind_of_eq (defaulted_get reads_optionalReference rfl) ?_
  refine bind_of_eq (defaulted_get reads_bool rfl) ?_
  refine bind_of_eq (defaulted_get (reads_variant AccessMode.ofName_name) rfl) ?_
  refine bind_of_eq (defaulted_get reads_strings rfl) ?_
  have hrevisions : Reads (optional stringsValue) (decodeOption (decodeList Value.asStr)) :=
    reads_optional reads_strings (by simp [stringsValue, Json.sort])
  refine bind_of_eq (defaulted_get hrevisions rfl) ?_
  rfl

lemma McpServerSetting.reads : Reads toValue fromValue := by
  intro server
  refine bind_of_eq (structFields_sort (by simp) (by simp)) ?_
  refine bind_of_eq (required_get reads_string rfl) ?_
  refine bind_of_eq (required_get reads_string rfl) ?_
  refine bind_of_eq (required_get reads_string rfl) ?_
  refine bind_of_eq (required_get reads_string rfl) ?_
  refine bind_of_eq (required_get reads_string rfl) ?_
  refine bind_of_eq (defaulted_get reads_strings rfl) ?_
  refine bind_of_eq (defaulted_get reads_stringMap rfl) ?_
  refine bind_of_eq (defaulted_get reads_stringMap rfl) ?_
  refine bind_of_eq (defaulted_get reads_stringMap rfl) ?_
  have hauth : Reads (optional McpAuthSetting.toValue) (decodeOption McpAuthSetting.fromValue) :=
    reads_optional McpAuthSetting.reads (by simp [McpAuthSetting.toValue, Json.sort])
  refine bind_of_eq (defaulted_get hauth rfl) ?_
  refine bind_of_eq (defaulted_get reads_optionalReference rfl) ?_
  refine bind_of_eq (defaulted_get reads_bool rfl) ?_
  rfl

lemma WindowSettings.reads : Reads toValue fromValue := by
  intro window
  refine bind_of_eq (structFields_sort (by simp) (by simp)) ?_
  refine bind_of_eq (defaulted_get reads_u32 rfl) ?_
  refine bind_of_eq (defaulted_get reads_u32 rfl) ?_
  refine bind_of_eq (defaulted_get reads_bool rfl) ?_
  rfl

/-- **A document that is written and read is the same document.** -/
theorem SettingsDocument.reads : Reads toValue fromValue := by
  intro document
  refine bind_of_eq (structFields_sort (by simp) (by simp)) ?_
  refine bind_of_eq (required_get reads_u32 rfl) ?_
  refine bind_of_eq (defaulted_get reads_u64 rfl) ?_
  refine bind_of_eq (defaulted_get (reads_variant ThemePreference.ofName_name) rfl) ?_
  refine bind_of_eq (defaulted_get reads_optionalString rfl) ?_
  refine bind_of_eq (defaulted_get (reads_list ProfileSetting.reads) rfl) ?_
  refine bind_of_eq (defaulted_get (reads_list McpServerSetting.reads) rfl) ?_
  refine bind_of_eq (defaulted_get WindowSettings.reads rfl) ?_
  rfl

end JaDesktop.Settings
