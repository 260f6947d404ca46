import JaDesktop.Lib.JsonPretty
import JaDesktop.Settings.Serde

/-!
# The settings store

`settings/store.rs`: a settings file with one backup.  Every operation takes the state of the
directory and returns its answer with the state it leaves; what the file system answers to the
atomic replacements is an argument (`Answers`).  Writing and reading JSON text is the work of
`serde_json` and is a parameter (`SettingsSerde`); `prettySerde` is an instance of it that can be
run.
-/

namespace JaDesktop.Settings

open Host

/-! ## The `serde_json` library -/

/-- The two services of `serde_json` that the store calls. -/
structure SettingsSerde where
  toVecPretty : Value → List UInt8
  fromSlice : List UInt8 → Option Value

/-- What the store relies on: a value with integer numbers and distinct keys, nested fewer than 120
levels, survives writing and reading; the reader keeps objects in key order. -/
structure SettingsSerde.Faithful (S : SettingsSerde) : Prop where
  roundTrip : ∀ v : Value, v.EachObject List.Nodup → v.depth < 120 → v.EachNumber Number.IsInt →
    S.fromSlice (S.toVecPretty v) = some v.sort

/-- Indented JSON text, as `serde_json` writes it for values without floats. -/
def prettySerde : SettingsSerde where
  toVecPretty v := asBytes (String.ofList (JsonText.renderPretty 0 (v.mapNumbers Number.toInt)))
  fromSlice bytes := do
    let text ← fromUtf8 bytes
    let (doc, ended) := JsonText.read (JsonText.squeeze .between text.toList)
    if ended then (visit (doc.mapNumbers Number.ofInt?)).toOption else none

theorem prettySerde_faithful : prettySerde.Faithful where
  roundTrip v hkeys _ hint := by
    have hback : v.EachNumber fun n => Number.ofInt? n.toInt = some n := by
      refine hint.imp ?_
      rintro (n | bits) hn
      · exact dif_pos n.2
      · exact hn.elim
    simp [prettySerde, JsonText.read_squeeze_renderPretty, Doc.mapNumbers_ofJson hback,
      visit_ofJson hkeys (hint.imp fun _ h => h.valid), Except.toOption]

/-! ## Results -/

def maxSettingsBytes : ℕ := 262144

def maxJsonDepth : ℕ := 16

def maxSecretKeyLength : ℕ := 96

inductive LoadSource
  | default
  | primary
  | backup
deriving DecidableEq

structure LoadedSettings where
  document : SettingsDocument
  source : LoadSource
  recovered : Bool
  migrated : Bool
deriving DecidableEq

inductive SettingsError
  | invalidRoot
  | io
  | tooLarge
  | invalidJson
  | tooDeep
  | unknownField
  | secretField
  | unsupportedSchema
  | invalidDocument
  | corruptRecovery
  | revisionConflict
  | unavailable
deriving DecidableEq

def mapModelError : SettingsModelError → SettingsError
  | .unsupportedSchema => .unsupportedSchema
  | _ => .invalidDocument

/-! ## The directory -/

/-- What stands at a path. -/
inductive Entry
  | absent
  | file (bytes : List UInt8)
  /-- a regular file that cannot be opened -/
  | locked
  /-- no regular file; `found` is the answer of `Path::exists`, false for a dangling link -/
  | irregular (found : Bool)
deriving DecidableEq

/-- `Path::exists`. -/
def Entry.exists : Entry → Bool
  | .absent => false
  | .irregular found => found
  | _ => true

/-- `read_bounded`, with the error that `load_file` makes of its failure. -/
def readBounded : Entry → Except SettingsError (List UInt8)
  | .absent => .error .io
  | .file bytes => if bytes.length > maxSettingsBytes then .error .tooLarge else .ok bytes
  | .locked => .error .io
  | .irregular _ => .error .tooLarge

/-- The settings directory. -/
structure Files where
  primary : Entry
  backup : Entry
deriving DecidableEq

/-- The outcome of `atomic_replace`; a failure can leave anything behind. -/
inductive Replaced
  | done
  | failed (left : Entry)
deriving DecidableEq

/-- The outcomes of the replacements of the two files. -/
structure Answers where
  primary : Replaced := .done
  backup : Replaced := .done
deriving DecidableEq

def atomicReplace (answer : Replaced) (bytes : List UInt8) : Except SettingsError Unit × Entry :=
  match answer with
  | .done => (.ok (), .file bytes)
  | .failed left => (.error .io, left)

def atomicCopy (answer : Replaced) (source target : Entry) : Except SettingsError Unit × Entry :=
  match readBounded source with
  | .error _ => (.error .io, target)
  | .ok bytes => atomicReplace answer bytes

/-! ## Reading a document -/

mutual

/-- `json_depth`: the greatest depth of a node, the root at `current`.  The loop of the source takes
the nodes from a stack; the maximum does not depend on their order. -/
def jsonDepth (current : ℕ) : Value → ℕ
  | .array items => jsonDepthItems current items
  | .object members => jsonDepthMembers current members
  | _ => current

def jsonDepthItems (current : ℕ) : List Value → ℕ
  | [] => current
  | child :: items => max (jsonDepth (current + 1) child) (jsonDepthItems current items)

def jsonDepthMembers (current : ℕ) : Map → ℕ
  | [] => current
  | (_, child) :: members => max (jsonDepth (current + 1) child) (jsonDepthMembers current members)

end

def isSensitiveKey (key : String) : Bool :=
  let normalized := (key.toList.filter isAlphanumericChar).map lowerChar
  ["secret", "secretvalue", "password", "apikey", "token", "accesstoken", "refreshtoken",
    "authorization", "bearer", "privatekey"].contains (String.ofList normalized) ||
    containsAny ["secret", "password", "token", "apikey", "authorization"] normalized

/-- A key that `reject_sensitive_keys` refuses. -/
def isRefusedKey (key : String) : Bool :=
  (asBytes key).length > maxSecretKeyLength || isSensitiveKey key

/-- `reject_sensitive_keys`: the loop visits every object of the value. -/
def rejectSensitiveKeys (value : Value) : Except SettingsError Unit :=
  reject (value.anyMark isRefusedKey fun _ => false) .secretField

structure LegacySettingsV0 where
  revision : Option UInt64
  theme : Option ThemePreference
  activeProfileRevision : Option String
  profiles : List ProfileSetting
  mcpServers : List McpServerSetting
  window : Option WindowSettings

def LegacySettingsV0.fromValue (value : Value) : Option LegacySettingsV0 := do
  let field ← structFields ["revision", "theme", "activeProfileRevision", "profiles", "mcpServers",
    "window"] value
  let revision ← defaulted (decodeOption decodeU64) none (field "revision")
  let theme ← defaulted (decodeOption (decodeVariant ThemePreference.ofName)) none (field "theme")
  let activeProfileRevision ←
    defaulted (decodeOption Value.asStr) none (field "activeProfileRevision")
  let profiles ← defaulted (decodeList ProfileSetting.fromValue) [] (field "profiles")
  let mcpServers ← defaulted (decodeList McpServerSetting.fromValue) [] (field "mcpServers")
  let window ← defaulted (decodeOption WindowSettings.fromValue) none (field "window")
  return { revision, theme, activeProfileRevision, profiles, mcpServers, window }

/-- `serde_json::from_value`.  `map_serde_error` gives unknown fields a category of their own; the
callers of `parse_document` drop the category. -/
def fromValueOr {α : Type} (decode : Value → Option α) (value : Value) : Except SettingsError α :=
  match decode value with
  | some a => .ok a
  | none => .error .invalidDocument

def migrateV0 (parse : UrlParser) (value : Value) :
    Except SettingsError (SettingsDocument × Bool) := do
  let object ← match value with
    | .object members => .ok (members.filter fun member => member.1 != "schemaVersion")
    | _ => .error .invalidDocument
  let legacy ← fromValueOr LegacySettingsV0.fromValue (.object object)
  let document : SettingsDocument := {
    schemaVersion := settingsSchemaVersion
    revision := legacy.revision.getD 0
    theme := legacy.theme.getD .system
    activeProfileRevision := legacy.activeProfileRevision
    profiles := legacy.profiles
    mcpServers := legacy.mcpServers
    window := legacy.window.getD {} }
  (document.validate parse).mapError mapModelError
  return (document, true)

variable (S : SettingsSerde)

def parseDocument (parse : UrlParser) (bytes : List UInt8) :
    Except SettingsError (SettingsDocument × Bool) := do
  reject (bytes.length > maxSettingsBytes) .tooLarge
  let value ← match S.fromSlice bytes with
    | some value => .ok value
    | none => .error .invalidJson
  reject (jsonDepth 0 value > maxJsonDepth) .tooDeep
  rejectSensitiveKeys value
  let schemaVersion := ((value.get "schemaVersion").bind Value.asU64).getD 0
  if schemaVersion = settingsSchemaVersion.toNat then
    let document ← fromValueOr SettingsDocument.fromValue value
    return (document, false)
  else if schemaVersion = 0 then migrateV0 parse value
  else .error .unsupportedSchema

def loadFile (parse : UrlParser) (entry : Entry) :
    Except SettingsError (SettingsDocument × Bool × List UInt8) := do
  let bytes ← readBounded entry
  let (document, migrated) ← parseDocument S parse bytes
  return (document, migrated, bytes)

/-! ## The operations -/

def persistDocumentLocked (io : Answers) (files : Files)
    (document : SettingsDocument) (backupCurrent : Bool) : Except SettingsError Unit × Files :=
  let bytes := S.toVecPretty document.toValue
  if bytes.length > maxSettingsBytes then (.error .tooLarge, files)
  else
    let copied := if backupCurrent && files.primary.exists then
        atomicCopy io.backup files.primary files.backup
      else (.ok (), files.backup)
    match copied.1 with
    | .error e => (.error e, { files with backup := copied.2 })
    | .ok () =>
      let replaced := atomicReplace io.primary bytes
      (replaced.1, { primary := replaced.2, backup := copied.2 })

def backupPrimaryLocked (io : Answers) (files : Files) (oldBytes : List UInt8) :
    Except SettingsError Unit × Files :=
  let replaced := atomicReplace io.backup oldBytes
  (replaced.1, { files with backup := replaced.2 })

def load (parse : UrlParser) (io : Answers) (files : Files) :
    Except SettingsError LoadedSettings × Files :=
  match loadFile S parse files.primary with
  | .ok (document, migrated, oldBytes) =>
    let loaded := { document, source := .primary, recovered := false, migrated }
    if migrated then
      match backupPrimaryLocked io files oldBytes with
      | (.error e, files) => (.error e, files)
      | (.ok (), files) =>
        let persisted := persistDocumentLocked S io files document false
        (persisted.1.map fun _ => loaded, persisted.2)
    else (.ok loaded, files)
  | .error _ =>
    match loadFile S parse files.backup with
    | .ok (document, migrated, _) =>
      let persisted := persistDocumentLocked S io files document false
      (persisted.1.map fun _ => { document, source := .backup, recovered := true, migrated },
        persisted.2)
    | .error _ =>
      if !files.primary.exists && !files.backup.exists then
        (.ok { document := {}, source := .default, recovered := false, migrated := false }, files)
      else (.error .corruptRecovery, files)

def loadCurrentLocked (parse : UrlParser) (files : Files) :
    Except SettingsError (Option SettingsDocument) :=
  match loadFile S parse files.primary with
  | .ok (document, _, _) => .ok (some document)
  | .error _ =>
    if files.primary.exists then .error .corruptRecovery
    else
      match loadFile S parse files.backup with
      | .ok (document, _, _) => .ok (some document)
      | .error _ => if files.backup.exists then .error .corruptRecovery else .ok none

/-- `u64::checked_add` of one. -/
def checkedSucc (n : UInt64) : Option UInt64 :=
  if n.toNat + 1 < 18446744073709551616 then some (n + 1) else none

/-- What `save` asks of the revision of a document, given the state of the directory. -/
def checkRevision (parse : UrlParser) (files : Files)
    (document : SettingsDocument) : Except SettingsError Unit :=
  if files.primary.exists || files.backup.exists then do
    let current ← loadCurrentLocked S parse files
    match current with
    | none => .error .corruptRecovery
    | some current =>
      reject (checkedSucc current.revision != some document.revision) .revisionConflict
  else reject (document.revision > 1) .revisionConflict

def save (parse : UrlParser) (io : Answers) (files : Files)
    (document : SettingsDocument) : Except SettingsError Unit × Files :=
  match (document.validate parse).mapError mapModelError with
  | .error e => (.error e, files)
  | .ok () =>
    match checkRevision S parse files document with
    | .error e => (.error e, files)
    | .ok () => persistDocumentLocked S io files document files.primary.exists

def compareAndSave (parse : UrlParser) (io : Answers) (files : Files)
    (expectedRevision : UInt64) (document : SettingsDocument) :
    Except SettingsError SettingsDocument × Files :=
  match loadCurrentLocked S parse files with
  | .error e => (.error e, files)
  | .ok current =>
    let currentRevision := (current.map (·.revision)).getD 0
    match checkedSucc expectedRevision with
    | none => (.error .revisionConflict, files)
    | some nextRevision =>
      if currentRevision != expectedRevision || document.revision != nextRevision then
        (.error .revisionConflict, files)
      else
        match (document.validate parse).mapError mapModelError with
        | .error e => (.error e, files)
        | .ok () =>
          let persisted := persistDocumentLocked S io files document current.isSome
          (persisted.1.map fun _ => document, persisted.2)

end JaDesktop.Settings
