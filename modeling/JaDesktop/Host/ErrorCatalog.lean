import Mathlib.Data.List.Infix
import JaDesktop.Lib.Text

/-!
# Error messages and the error catalogue

An error that crosses the wire is classified by its code, its `jaCode` and its `retryable` flag
alone; the triple has to be an entry of the frozen catalogue.  The message is display text.  It
is bounded and scanned for everything that could carry a secret: addresses, paths, labels of
credentials and long runs of hexadecimal digits.
-/

namespace JaDesktop.Host

/-! ## The catalogue -/

/-- One row of the catalogue. -/
structure CatalogEntry where
  code : ℤ
  jaCode : String
  retryable : Bool
  message : String
deriving DecidableEq

/-- `CATALOG` of `codec_catalog.rs`. -/
def catalog : List CatalogEntry :=
  [⟨-32001, "INVALID_FRAME", false, "invalid frame"⟩,
    ⟨-32002, "FRAME_TOO_LARGE", false, "frame too large"⟩,
    ⟨-32003, "PROTOCOL_VERSION_UNSUPPORTED", false, "protocol version unsupported"⟩,
    ⟨-32004, "NOT_INITIALIZED", false, "not initialized"⟩,
    ⟨-32005, "ALREADY_INITIALIZED", false, "already initialized"⟩,
    ⟨-32006, "METHOD_NOT_FOUND", false, "method not found"⟩,
    ⟨-32007, "INVALID_PARAMS", false, "invalid params"⟩,
    ⟨-32008, "QUEUE_FULL", true, "queue full"⟩,
    ⟨-32009, "PENDING_LIMIT", true, "pending limit"⟩,
    ⟨-32010, "DUPLICATE_REQUEST", false, "duplicate request"⟩,
    ⟨-32011, "UNKNOWN_REQUEST_ID", false, "unknown request id"⟩,
    ⟨-32012, "DUPLICATE_RESPONSE", false, "duplicate response"⟩,
    ⟨-32013, "LATE_RESPONSE", false, "late response"⟩,
    ⟨-32014, "REQUEST_DEADLINE_EXCEEDED", true, "request deadline exceeded"⟩,
    ⟨-32015, "PAYLOAD_TOO_LARGE", false, "payload too large"⟩,
    ⟨-32016, "RESYNC_REQUIRED", true, "resync required"⟩,
    ⟨-32017, "HANDSHAKE_FAILED", false, "handshake failed"⟩,
    ⟨-32020, "SHUTTING_DOWN", true, "shutting down"⟩,
    ⟨-32021, "DATA_DIR_IN_USE", false, "data directory in use"⟩,
    ⟨-32023, "MIGRATION_FAILED", false, "migration failed"⟩,
    ⟨-32024, "SCHEMA_TOO_NEW", false, "schema too new"⟩,
    ⟨-32025, "WORKSPACE_NOT_FOUND", false, "workspace not found"⟩,
    ⟨-32026, "WORKSPACE_UNTRUSTED", false, "workspace untrusted"⟩,
    ⟨-32028, "CONFLICT", true, "conflict"⟩,
    ⟨-32029, "THREAD_NOT_FOUND", false, "thread not found"⟩,
    ⟨-32030, "THREAD_BUSY", true, "thread busy"⟩,
    ⟨-32031, "THREAD_READ_ONLY", false, "thread read only"⟩,
    ⟨-32032, "TURN_NOT_FOUND", false, "turn not found"⟩,
    ⟨-32033, "TURN_NOT_ACTIVE", false, "turn not active"⟩,
    ⟨-32034, "INVALID_STATE", false, "invalid state"⟩,
    ⟨-32035, "CANCELLED", false, "cancelled"⟩,
    ⟨-32036, "BUDGET_EXCEEDED", false, "budget exceeded"⟩,
    ⟨-32040, "APPROVAL_NOT_FOUND", false, "approval not found"⟩,
    ⟨-32041, "APPROVAL_EXPIRED", false, "approval expired"⟩,
    ⟨-32042, "APPROVAL_ALREADY_RESOLVED", false, "approval already resolved"⟩,
    ⟨-32043, "TOOL_DENIED", false, "tool denied"⟩,
    ⟨-32044, "TOOL_FAILED", false, "tool failed"⟩,
    ⟨-32046, "PROCESS_TIMEOUT", true, "process timeout"⟩,
    ⟨-32047, "PROCESS_OUTPUT_LIMIT", false, "process output limit"⟩,
    ⟨-32048, "EXTERNAL_TOOL_UNSUPPORTED", false, "external tool unsupported"⟩,
    ⟨-32050, "SECRET_NOT_FOUND", false, "secret not found"⟩,
    ⟨-32051, "SECRET_ACCESS_DENIED", false, "secret access denied"⟩,
    ⟨-32052, "MODEL_UNSUPPORTED", false, "model unsupported"⟩,
    ⟨-32053, "MODEL_UNAVAILABLE", true, "model unavailable"⟩,
    ⟨-32054, "SKILL_INVALID", false, "skill invalid"⟩,
    ⟨-32055, "SKILL_UNAVAILABLE", true, "skill unavailable"⟩,
    ⟨-32056, "MCP_UNSUPPORTED_AUTH", false, "mcp unsupported auth"⟩,
    ⟨-32057, "MCP_SERVER_UNAVAILABLE", true, "mcp server unavailable"⟩,
    ⟨-32058, "MCP_PROTOCOL_UNSUPPORTED", false, "mcp protocol unsupported"⟩,
    ⟨-32059, "MCP_TOOL_NOT_FOUND", false, "mcp tool not found"⟩,
    ⟨-32060, "MCP_TOOL_FAILED", false, "mcp tool failed"⟩,
    ⟨-32070, "CAPABILITY_UNSUPPORTED", false, "capability unsupported"⟩,
    ⟨-32071, "AUTH_UNSUPPORTED", false, "auth unsupported"⟩,
    ⟨-32080, "INTERNAL_ERROR", false, "internal error"⟩,
    ⟨-32081, "SIDE_CAR_CRASHED", false, "sidecar crashed"⟩,
    ⟨-32082, "SHUTDOWN_TIMEOUT", false, "shutdown timeout"⟩]

/-- `catalog_entry`: the row of a triple, projected to its `jaCode` and message. -/
def catalogEntry (code : ℤ) (jaCode : String) (retryable : Bool) : Option (String × String) :=
  (catalog.find? fun entry =>
    entry.code == code && entry.jaCode == jaCode && entry.retryable == retryable).map
      fun entry => (entry.jaCode, entry.message)

def validJaCode (code : String) : Bool :=
  match asBytes code with
  | [] => false
  | first :: rest =>
    3 ≤ rest.length + 1 && rest.length + 1 ≤ 64 && isAsciiUppercase first &&
      rest.all fun byte => isAsciiUppercase byte || isAsciiDigit byte || byte == 0x5F

/-! ## The scanner -/

/-- `slice::windows(n).any(|window| window == pattern)`. -/
def hasWindow (pattern : List UInt8) (bytes : List UInt8) : Bool :=
  bytes.tails.any pattern.isPrefixOf

/-- `char::is_control`, the general category `Cc`. -/
def isControl (c : Char) : Bool := c.toNat < 0x20 || (0x7F ≤ c.toNat && c.toNat < 0xA0)

def isSchemeByte (byte : UInt8) : Bool :=
  isAsciiAlphanumeric byte || byte == 0x2B || byte == 0x2D || byte == 0x2E

def isPathByte (byte : UInt8) : Bool :=
  isAsciiAlphanumeric byte || byte == 0x2E || byte == 0x5F || byte == 0x2D || byte == 0x25

variable (bytes : List UInt8)

/-- `is_path_boundary`: the start of the text, whitespace, or one of `:=([{",` before it. -/
def isPathBoundary (index : ℕ) : Bool :=
  index == 0 || isAsciiWhitespace (bytes.getD (index - 1) 0) ||
    [0x3A, 0x3D, 0x28, 0x5B, 0x7B, 0x22, 0x2C].contains (bytes.getD (index - 1) 0)

/-- The loop of `has_uri` that walks back over scheme bytes. -/
def schemeStart (bytes : List UInt8) : ℕ → ℕ
  | 0 => 0
  | start + 1 => if isSchemeByte (bytes.getD start 0) then schemeStart bytes start else start + 1

/-- `has_uri`: a scheme that begins with a letter stands right before `://`. -/
def hasUri : Bool :=
  (List.range (bytes.length - 2)).any fun index =>
    if (bytes.drop index).take 3 != [0x3A, 0x2F, 0x2F] then false
    else
      let start := schemeStart bytes index
      start < index && isAsciiAlphabetic (bytes.getD start 0)

/-- The first components that `has_posix_path` knows. -/
def knownRoots : List String :=
  ["etc", "home", "Users", "users", "private", "tmp", "var", "usr", "opt", "root", "dev", "proc",
    "sys", "Volumes", "volumes"]

/-- `has_posix_path`: at a boundary, a slash with a component that goes on or is a known root. -/
def hasPosixPath : Bool :=
  (List.range bytes.length).any fun index =>
    if bytes.getD index 0 != 0x2F || !isPathBoundary bytes index then false
    else
      let segment := (bytes.drop (index + 1)).takeWhile isPathByte
      if segment.isEmpty then false
      else
        let hasNestedComponent := bytes[index + 1 + segment.length]? == some 0x2F
        let knownRoot := (knownRoots.map asBytes).contains segment
        hasNestedComponent || knownRoot

/-- `has_windows_path`: two backslashes, or a drive letter, a colon and a separator. -/
def hasWindowsPath : Bool :=
  hasWindow [0x5C, 0x5C] bytes ||
    bytes.tails.any fun window =>
      match window with
      | drive :: colon :: separator :: _ =>
        isAsciiAlphabetic drive && colon == 0x3A && (separator == 0x2F || separator == 0x5C)
      | _ => false

/-- The labels of credentials that `has_secret_marker` looks for. -/
def secretMarkers : List String :=
  ["secret", "token", "password", "apikey", "bearer", "cookie", "authorization"]

/-- `has_secret_marker`, on the lower-cased text with its separators dropped. -/
def hasSecretMarker : Bool :=
  let lower := bytes.map toAsciiLowercase
  let compact := lower.filter isAsciiAlphanumeric
  ((secretMarkers.map asBytes).any fun marker => hasWindow marker compact) ||
    hasWindow (asBytes "sk-") lower || hasWindow (asBytes "sk_") lower

/-- The loop of `has_hex_run`, with the length of the run so far. -/
def hexRunFrom (run : ℕ) : List UInt8 → Bool
  | [] => false
  | byte :: bytes =>
    if isAsciiHexdigit byte then
      if 32 ≤ run + 1 then true else hexRunFrom (run + 1) bytes
    else hexRunFrom 0 bytes

def hasHexRun : Bool := hexRunFrom 0 bytes

/-- `ErrorMessageScanner::is_safe`. -/
def isSafe (message : String) : Bool :=
  let bytes := asBytes message
  !message.toList.any isControl && !hasUri bytes && !hasPosixPath bytes &&
    !hasWindowsPath bytes && !hasSecretMarker bytes && !hasHexRun bytes

def validErrorMessage (message : String) : Bool :=
  let length := (asBytes message).length
  if length == 0 || 512 < length then false else isSafe message

/-! ## Plain words -/

/-- A letter, a space, a full stop or a hyphen. -/
def isWordByte (byte : UInt8) : Bool :=
  isAsciiAlphabetic byte || byte == 0x20 || byte == 0x2E || byte == 0x2D

lemma mem_of_hasWindow {pattern bytes : List UInt8} (h : hasWindow pattern bytes = true) :
    ∀ b ∈ pattern, b ∈ bytes := by
  intro b hb
  rw [hasWindow, List.any_eq_true] at h
  obtain ⟨tail, htail, hhead⟩ := h
  rw [List.isPrefixOf_iff_prefix] at hhead
  exact ((List.mem_tails _ _).mp htail).subset (hhead.subset hb)

section Words

variable {bytes : List UInt8} (h : ∀ b ∈ bytes, isWordByte b = true)

include h

lemma not_mem_of_words {b : UInt8} (hb : isWordByte b = false) : b ∉ bytes := by
  intro hmem
  rw [h b hmem] at hb
  cases hb

lemma hasUri_of_words : hasUri bytes = false := by
  rw [hasUri, List.any_eq_false]
  intro index _
  have hwindow : (bytes.drop index).take 3 ≠ [0x3A, 0x2F, 0x2F] := by
    intro heq
    have hmem : (0x3A : UInt8) ∈ (bytes.drop index).take 3 := by simp [heq]
    exact not_mem_of_words h (by decide) (List.mem_of_mem_drop (List.mem_of_mem_take hmem))
  simp [hwindow]

lemma hasPosixPath_of_words : hasPosixPath bytes = false := by
  rw [hasPosixPath, List.any_eq_false]
  intro index hindex
  have hslash : bytes[index]?.getD 0 ≠ 0x2F := by
    intro heq
    have hlt := List.mem_range.mp hindex
    rw [List.getElem?_eq_getElem hlt, Option.getD_some] at heq
    exact not_mem_of_words h (by decide) (heq ▸ List.getElem_mem hlt)
  simp [hslash]

lemma hasWindowsPath_of_words : hasWindowsPath bytes = false := by
  rw [hasWindowsPath, Bool.or_eq_false_iff]
  constructor
  · rw [Bool.eq_false_iff]
    intro hwindow
    exact not_mem_of_words h (by decide) (mem_of_hasWindow hwindow 0x5C (by simp))
  · rw [List.any_eq_false]
    intro window hwindow
    split
    · rename_i drive colon separator rest
      have hcolon : colon ∈ bytes := ((List.mem_tails _ _).mp hwindow).subset (by simp)
      have hne : colon ≠ 0x3A := by
        rintro rfl
        exact not_mem_of_words h (by decide) hcolon
      simp [hne]
    · simp

lemma toNat_of_words {b : UInt8} (hb : b ∈ bytes) : 0x20 ≤ b.toNat ∧ b.toNat < 0x7F := by
  have hword := h b hb
  simp only [isWordByte, isAsciiAlphabetic, isAsciiUppercase, isAsciiLowercase, Bool.or_eq_true,
    Bool.and_eq_true, decide_eq_true_eq, beq_iff_eq, UInt8.le_iff_toNat_le,
    ← UInt8.toNat_inj] at hword
  simp only [UInt8.reduceToNat] at hword
  omega

end Words

/-- The scanner on plain words looks for labels of credentials and for hexadecimal runs. -/
theorem isSafe_of_words {message : String} (h : ∀ b ∈ asBytes message, isWordByte b = true) :
    isSafe message = (!hasSecretMarker (asBytes message) && !hasHexRun (asBytes message)) := by
  have hascii : ∀ b ∈ asBytes message, b.toNat < 0x80 := fun b hb => by
    have := (toNat_of_words h hb).2
    omega
  have hcontrol : message.toList.any isControl = false := by
    rw [toList_of_ascii hascii, List.any_eq_false]
    simp only [List.mem_map]
    rintro _ ⟨b, hb, rfl⟩
    have hchar : (Char.ofNat b.toNat).toNat = b.toNat :=
      toNat_charOfNat (Or.inl (by have := hascii b hb; omega))
    have := toNat_of_words h hb
    simp only [isControl, hchar, Bool.or_eq_true, Bool.and_eq_true, decide_eq_true_eq]
    omega
  simp [isSafe, hcontrol, hasUri_of_words h, hasPosixPath_of_words h, hasWindowsPath_of_words h]

end JaDesktop.Host
