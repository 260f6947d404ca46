import JaDesktop.Lib.RustText

/-!
# Previews

The limits, the addresses and the events of preview sessions.  The size of an event is that of its
JSON text.
-/

namespace JaDesktop.Preview

open JaDesktop.Rust

inductive PreviewErrorCode
  | invalidConfig
  | urlTooLong
  | urlControlCharacter
  | urlInvalid
  | schemeNotAllowed
  | hostMissing
  | userInfoNotAllowed
  | percentEscapeInvalid
  | sessionLimit
  | sessionNotFound
  | sessionClosed
  | staleGeneration
  | generationExhausted
  | sequenceExhausted
  | eventPayloadTooLarge
  | eventQueueFull
  | titleTooLong
  | errorTooLong
  | navigationBlocked
  | dependencyRequest
  | internalStateUnavailable
deriving DecidableEq, Repr

/-! ## Limits -/

/-- Bounded registry budgets. -/
structure PreviewLimits where
  maxSessions : ℕ
  maxUrlBytes : ℕ
  maxTitleBytes : ℕ
  maxErrorBytes : ℕ
  maxEventCount : ℕ
  maxEventPayloadBytes : ℕ
  maxEventQueueBytes : ℕ
deriving DecidableEq, Repr

def PreviewLimits.default : PreviewLimits where
  maxSessions := 8
  maxUrlBytes := 8 * 1024
  maxTitleBytes := 1024
  maxErrorBytes := 4 * 1024
  maxEventCount := 512
  maxEventPayloadBytes := 64 * 1024
  maxEventQueueBytes := 2 * 1024 * 1024

/-- Checks relationships before a registry starts accepting pages. -/
def PreviewLimits.validate (limits : PreviewLimits) : Except PreviewErrorCode PreviewLimits :=
  if limits.maxSessions > 0 ∧ limits.maxSessions ≤ 64 ∧
      limits.maxUrlBytes ≥ 64 ∧ limits.maxUrlBytes ≤ 64 * 1024 ∧
      limits.maxTitleBytes > 0 ∧ limits.maxTitleBytes ≤ 64 * 1024 ∧
      limits.maxErrorBytes > 0 ∧ limits.maxErrorBytes ≤ 256 * 1024 ∧
      limits.maxEventCount > 0 ∧ limits.maxEventCount ≤ 65536 ∧
      limits.maxEventPayloadBytes ≥ 128 ∧ limits.maxEventPayloadBytes ≤ 4 * 1024 * 1024 ∧
      limits.maxEventQueueBytes ≥ limits.maxEventPayloadBytes ∧
      limits.maxEventQueueBytes ≤ 64 * 1024 * 1024 then .ok limits
  else .error .invalidConfig

lemma PreviewLimits.bounds {limits checked : PreviewLimits} (h : limits.validate = .ok checked) :
    0 < limits.maxEventCount ∧ limits.maxEventPayloadBytes ≤ limits.maxEventQueueBytes := by
  rw [validate] at h
  split_ifs at h with hvalid
  obtain ⟨-, -, -, -, -, -, -, -, hcount, -, -, -, hqueue, -⟩ := hvalid
  exact ⟨hcount, hqueue⟩

/-! ## Addresses -/

/-- What the parser of addresses finds. -/
structure ParsedUrl where
  scheme : String
  hostStr : Option String
  username : String
  password : Option String
  text : String
deriving DecidableEq, Repr

/-- An address that the policy accepted. -/
structure PreviewUrl where
  text : String
deriving DecidableEq, Repr

/-- `eq_ignore_ascii_case` of the first bytes. -/
def startsIgnoringCase (word : List UInt8) (bytes : List UInt8) : Bool :=
  word.length ≤ bytes.length &&
    (bytes.take word.length).map toAsciiLowercase == word.map toAsciiLowercase

/-- Restricts the authority entry point to ASCII case-insensitive HTTP(S). -/
def strictHttpPrefix (raw : String) : Option ℕ :=
  if startsIgnoringCase (asBytes "http://") (asBytes raw) then some 7
  else if startsIgnoringCase (asBytes "https://") (asBytes raw) then some 8
  else none

/-- Parses a hexadecimal escape nibble. -/
def hexValue (b : UInt8) : Option ℕ :=
  if 0x30 ≤ b ∧ b ≤ 0x39 then some (b.toNat - 0x30)
  else if 0x61 ≤ b ∧ b ≤ 0x66 then some (b.toNat - 0x61 + 10)
  else if 0x41 ≤ b ∧ b ≤ 0x46 then some (b.toNat - 0x41 + 10)
  else none

/-- Rejects malformed percent escapes and encoded control bytes. -/
def validatePercentEscapes : List UInt8 → Except PreviewErrorCode Unit
  | [] => .ok ()
  | b :: rest =>
    if b = 0x25 then
      match rest with
      | high :: low :: rest =>
        match hexValue high, hexValue low with
        | some high, some low =>
          if high * 16 + low < 0x20 ∨ high * 16 + low = 0x7F ∨ high * 16 + low = 0x5C then
            .error .urlControlCharacter
          else validatePercentEscapes rest
        | _, _ => .error .percentEscapeInvalid
      | _ => .error .percentEscapeInvalid
    else validatePercentEscapes rest

/-- What is behind the first `://`. -/
def behindScheme : List Char → Option (List Char)
  | ':' :: '/' :: '/' :: rest => some rest
  | _ :: rest => behindScheme rest
  | [] => none

/-- An at sign in the authority. -/
def authorityHasUserinfo (raw : String) : Bool :=
  match behindScheme raw.toList with
  | none => false
  | some rest => (rest.takeWhile fun c => c != '/' && c != '?' && c != '#').contains '@'

/-- The policy of addresses; the parser of the library is a parameter. -/
structure PreviewPolicy where
  limits : PreviewLimits
  parse : String → Option ParsedUrl

/-- Rejects every scheme except HTTP(S) before creating a WebView. -/
def PreviewPolicy.validateUrl (policy : PreviewPolicy) (raw : String) :
    Except PreviewErrorCode PreviewUrl :=
  if policy.limits.maxUrlBytes < (asBytes raw).length then .error .urlTooLong
  else if raw.isEmpty then .error .urlInvalid
  else if (raw.toList.any fun c => isControl c || isWhitespace c) || raw.toList.contains '\\' then
    .error .urlControlCharacter
  else
    match strictHttpPrefix raw with
    | none =>
      if (policy.parse raw).any fun url => !(url.scheme == "http" || url.scheme == "https") then
        .error .schemeNotAllowed
      else .error .urlInvalid
    | some prefixLen =>
      if (asBytes raw)[prefixLen]? = some 0x2F then .error .urlInvalid
      else
        match validatePercentEscapes (asBytes raw) with
        | .error error => .error error
        | .ok () =>
          match policy.parse raw with
          | none => .error .urlInvalid
          | some parsed =>
            if !(parsed.scheme == "http" || parsed.scheme == "https") then
              .error .schemeNotAllowed
            else if parsed.hostStr.all String.isEmpty then .error .hostMissing
            else if !parsed.username.isEmpty || parsed.password.isSome ||
                authorityHasUserinfo raw then .error .userInfoNotAllowed
            else if policy.limits.maxUrlBytes < (asBytes parsed.text).length then
              .error .urlTooLong
            else .ok ⟨parsed.text⟩

/-! ## Events -/

/-- An opaque session identity: the 128 bits of a UUID. -/
structure PreviewId where
  high : UInt64
  low : UInt64
deriving DecidableEq, Repr

/-- The 32 hexadecimal digits of an identity. -/
def PreviewId.digits (id : PreviewId) : List Char :=
  ([id.high, id.low].flatMap fun word =>
    (List.range 16).reverse.map fun i => hexDigit (word.toNat >>> (4 * i) % 16))

/-- The form with hyphens. -/
def PreviewId.text (id : PreviewId) : String :=
  String.ofList (id.digits.take 8 ++ '-' :: (id.digits.drop 8).take 4 ++ '-' ::
    (id.digits.drop 12).take 4 ++ '-' :: (id.digits.drop 16).take 4 ++ '-' :: id.digits.drop 20)

/-- The label of the window. -/
def PreviewId.label (id : PreviewId) : String := "preview_" ++ String.ofList id.digits

inductive NavigationSource
  | user
  | redirect
deriving DecidableEq, Repr

def NavigationSource.text : NavigationSource → String
  | user => "user"
  | redirect => "redirect"

inductive PreviewSessionStatus
  | opened
  | closed
deriving DecidableEq, Repr

/-- One bounded event emitted to the main UI. -/
inductive PreviewEventKind
  | opened (url : PreviewUrl)
  | navigationCommitted (source : NavigationSource) (url : PreviewUrl)
  | titleChanged (title : String)
  | loadFailed (message : String)
  | closed
deriving DecidableEq, Repr

structure PreviewEvent where
  sessionId : PreviewId
  generation : ℕ
  sequence : ℕ
  kind : PreviewEventKind
deriving DecidableEq, Repr

/-- The tagged JSON object of a kind. -/
def PreviewEventKind.json : PreviewEventKind → String
  | opened url => "\x7b\"type\":\"opened\",\"url\":" ++ jsonString url.text ++ "\x7d"
  | navigationCommitted source url =>
    "\x7b\"type\":\"navigation_committed\",\"source\":" ++ jsonString source.text ++ ",\"url\":" ++
      jsonString url.text ++ "\x7d"
  | titleChanged title => "\x7b\"type\":\"title_changed\",\"title\":" ++ jsonString title ++ "\x7d"
  | loadFailed message =>
    "\x7b\"type\":\"load_failed\",\"message\":" ++ jsonString message ++ "\x7d"
  | closed => "\x7b\"type\":\"closed\"\x7d"

/-- The JSON object of an event. -/
def PreviewEvent.json (event : PreviewEvent) : String :=
  "\x7b\"session_id\":" ++ jsonString event.sessionId.text ++ ",\"generation\":" ++
    toString event.generation ++ ",\"sequence\":" ++ toString event.sequence ++ ",\"kind\":" ++
    event.kind.json ++ "\x7d"

/-- Counts serialized bytes. -/
def PreviewEvent.encodedBytes (event : PreviewEvent) : ℕ := (asBytes event.json).length

end JaDesktop.Preview
