import JaDesktop.Sidecar.SettingsMappers

/-!
# What the event normalizer lets through

`EventNormalizerPolicy`: digests in place of raw keys, labels in place of provider identifiers,
bounds on texts, and the count of UTF-8 bytes.  SHA-256 is the work of the platform and is a
parameter that returns 32 bytes.
-/

namespace JaDesktop.Sidecar

/-- `BudgetExceededException` and the other `IllegalArgumentException`s. -/
inductive NormalizeFailure
  | budget
  | argument
deriving DecidableEq

/-- SHA-256. -/
abbrev Sha256 := List UInt8 → {bytes : List UInt8 // bytes.length = 32}

namespace EventNormalizerPolicy

/-- `Integer.MAX_VALUE`. -/
def maxInteger : ℕ := 2147483647

/-- The digits of `%02x`. -/
def hexDigit (n : ℕ) : UInt16 := UInt16.ofNat (if n < 10 then 0x30 + n else 0x57 + n)

def hexByte (b : UInt8) : JavaString := [hexDigit (b.toNat / 16), hexDigit (b.toNat % 16)]

variable (sha256 : Sha256)

/-- `digest`: eight bytes of the digest of the UTF-8 form, in hexadecimal. -/
def digest (value : JavaString) : Except NormalizeFailure JavaString :=
  match utf16Decode value with
  | some text => .ok (((sha256 (asBytes text)).val.take 8).flatMap hexByte)
  | none => .error .argument

def key (raw : Option JavaString) (category : JavaString) :
    Except NormalizeFailure JavaString :=
  (digest sha256 (raw.getD (java "unknown"))).map fun hash => category ++ java ":" ++ hash

/-- What `utf8BytesAtMost` returns above its cap. -/
def overCap (cap : ℕ) : ℕ := if cap = maxInteger then maxInteger else cap + 1

/-- The loop of `utf8BytesAtMost`. -/
def countAtMost (cap : ℕ) : ℕ → JavaString → Except NormalizeFailure ℕ
  | bytes, [] => .ok bytes
  | bytes, u :: units =>
    if isHighSurrogate u then
      match units with
      | [] => .error .argument
      | l :: units =>
        if isLowSurrogate l then
          if bytes + 4 > cap then .ok (overCap cap) else countAtMost cap (bytes + 4) units
        else .error .argument
    else if isLowSurrogate u then .error .argument
    else if bytes + unitBytes u > cap then .ok (overCap cap)
    else countAtMost cap (bytes + unitBytes u) units

def utf8BytesAtMost (value : JavaString) (cap : ℕ) : Except NormalizeFailure ℕ :=
  countAtMost cap 0 value

def safeByteCount : Option JavaString → Except NormalizeFailure ℕ
  | none => .ok 0
  | some value => utf8BytesAtMost value maxInteger

/-- The first 512 units, or 511 where the last of them would be half of a pair. -/
def cut (value : JavaString) : JavaString :=
  if value.length ≤ 512 then value
  else if (value.drop 511).head?.any isHighSurrogate then value.take 511
  else value.take 512

def bounded : Option JavaString → Except NormalizeFailure JavaString
  | none => .ok []
  | some value => (utf8BytesAtMost (cut value) maxInteger).map fun _ => cut value

/-- The words of `SENSITIVE_NAME_PATTERN`, the optional separator written out. -/
def sensitiveNames : List String :=
  ["command", "path", "apikey", "api_key", "api-key", "password", "token", "secret", "cause",
    "stack", "trace"]

/-- `isSensitiveName`; the dots around the word match no line terminator. -/
def isSensitiveName (value : JavaString) : Bool :=
  !value.any isLineTerminator && sensitiveNames.any fun word => containsText (lowerAscii value) word

/-- A letter, a digit, `_`, `.`, `:`, `-` or a slash. -/
def isLabelUnit (u : UInt16) : Bool := isTailUnit u || u == 0x3A || u == 0x2F

/-- One to 128 units of this class. -/
def matchesLabel (s : JavaString) : Bool := !s.isEmpty && s.length ≤ 128 && s.all isLabelUnit

/-- A normalized identifier, or its digest when it is no label. -/
def labelOrDigest (normalized : JavaString) :
    Except NormalizeFailure JavaString :=
  if matchesLabel normalized then .ok normalized
  else (digest sha256 normalized).map fun hash => java "opaque_" ++ hash

def safeIdentifier : Option JavaString → Except NormalizeFailure JavaString
  | none => .ok (java "unknown")
  | some value =>
    if isBlank value then .ok (java "unknown")
    else if isSensitiveName value then .ok (java "redacted")
    else do
      let normalized ← bounded (some value)
      labelOrDigest sha256 normalized

def safeToolName (value : Option JavaString) :
    Except NormalizeFailure JavaString :=
  (safeIdentifier sha256 value).map fun name =>
    if isSensitiveName name then java "redacted" else name

def toolKind (value : Option JavaString) : Except NormalizeFailure JavaString :=
  (safeToolName sha256 value).map fun name => if name = java "redacted" then java "tool" else name

def operationId (value : Option JavaString) :
    Except NormalizeFailure JavaString :=
  (digest sha256 (value.getD (java "unknown"))).map fun hash => java "op_" ++ hash

/-- The reasons that `terminalReason` knows. -/
def terminalReasons : List String :=
  ["cancelled", "cancelled_before_start", "cancelled_before_execution", "deadline_exceeded",
    "provider_error", "event_budget_exceeded", "max_iterations", "all_tools_denied",
    "request_stop", "scheduler_rejected", "unsupported_external_execution"]

def terminalReason : Option JavaString → String
  | none => ""
  | some value =>
    if isBlank value then ""
    else (terminalReasons.find? fun reason => java reason == value).getD "provider_error"

def terminalStatus (value : String) : String :=
  if value = "failed" then "failed"
  else if value = "interrupted" then "interrupted"
  else "completed"

/-- A value of the metadata of an item. -/
inductive MetadataValue
  | number (n : ℤ)
  | bool (b : Bool)
  | text (s : JavaString)
deriving DecidableEq

/-- `String.valueOf`. -/
def MetadataValue.valueOf : MetadataValue → JavaString
  | .number n => java (toString n)
  | .bool b => java (toString b)
  | .text s => s

def safeMetadataKeys : List String :=
  ["toolCallId", "toolName", "toolKind", "operationId", "status", "toolCount",
    "requiresUserAction", "hintSource", "inputBytes", "outputBytes", "phase", "replyId",
    "usageInputTokens", "usageOutputTokens"]

/-- `safeMetadataValue`, which treats the texts of all keys alike. -/
def safeMetadataValue : MetadataValue → Except NormalizeFailure MetadataValue
  | .number n => .ok (.number (max 0 (min maxInteger n)))
  | .bool b => .ok (.bool b)
  | .text s => (safeIdentifier sha256 (some s)).map .text

def metadataCost (key : String) (value : MetadataValue) : Except NormalizeFailure ℕ := do
  let keyBytes ← safeByteCount (some (java key))
  let valueBytes ← safeByteCount (some value.valueOf)
  return keyBytes + valueBytes + 16

end EventNormalizerPolicy

end JaDesktop.Sidecar
