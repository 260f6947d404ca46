import JaDesktop.Lib.Encoder
import JaDesktop.Lib.Separated
import JaDesktop.Sidecar.ApprovalIds
import JaDesktop.Sidecar.EventNormalizerPolicy

/-!
# Model profiles and their fingerprints

The fingerprint of a profile is the digest of its twelve fields joined by a bar.  It is part of the
key under which the result of a capability probe is cached.  The display name and the name of the
model are free texts: they may have bars themselves, and surrogates without a partner, which are
written as question marks.
-/

namespace JaDesktop.Profiles

open JaDesktop.Sidecar

/-! ## The profile -/

/-- `ModelCapability`, in its order. -/
inductive ModelCapability
  | text
  | image
  | stream
  | tools
  | reasoning
  | structuredOutput
deriving DecidableEq

namespace ModelCapability

/-- `ModelCapability.values()`. -/
def values : List ModelCapability := [text, image, stream, tools, reasoning, structuredOutput]

def name : ModelCapability → JavaString
  | text => java "TEXT"
  | image => java "IMAGE"
  | stream => java "STREAM"
  | tools => java "TOOLS"
  | reasoning => java "REASONING"
  | structuredOutput => java "STRUCTURED_OUTPUT"

end ModelCapability

def providerName : ModelProvider → JavaString
  | .anthropic => java "ANTHROPIC"
  | .openai => java "OPENAI"
  | .openaiCompatible => java "OPENAI_COMPATIBLE"

def apiName : ModelApi → JavaString
  | .anthropicMessages => java "ANTHROPIC_MESSAGES"
  | .openaiChatCompletions => java "OPENAI_CHAT_COMPLETIONS"
  | .openaiResponses => java "OPENAI_RESPONSES"

/-- `Boolean.toString`. -/
def boolText (b : Bool) : JavaString := java (if b then "true" else "false")

@[ext]
structure SecretRef where
  id : JavaString
  valid : matchesSecretRef id = true
deriving DecidableEq

/-- `SecretRef.toString`. -/
def SecretRef.toString (ref : SecretRef) : JavaString :=
  java "SecretRef\x7bid='" ++ ref.id ++ java "'\x7d"

/-- `CapabilityOverrides`: an explicit decision, or none while the feature is unknown. -/
def CapabilityOverrides := ModelCapability → Option Bool

/-- An entry of the overrides. -/
def overrideText (entry : ModelCapability × Bool) : JavaString :=
  entry.1.name ++ java "=" ++ boolText entry.2

/-- The entries of the overrides, sorted by their keys. -/
def CapabilityOverrides.entries (overrides : CapabilityOverrides) :
    List (ModelCapability × Bool) :=
  ModelCapability.values.filterMap fun capability => (overrides capability).map (capability, ·)

/-- `capabilityOverridesCanonical`. -/
def CapabilityOverrides.canonical (overrides : CapabilityOverrides) : JavaString :=
  java "\x7b" ++ (java ",").intercalate (overrides.entries.map overrideText) ++ java "\x7d"

/-- The values that the pattern of `reasoningEffort` admits. -/
inductive ReasoningEffort
  | low
  | medium
  | high
deriving DecidableEq

def ReasoningEffort.text : ReasoningEffort → JavaString
  | low => java "low"
  | medium => java "medium"
  | high => java "high"

/-- `GenerationSettings`, over the type of the doubles. -/
structure GenerationSettings (Double : Type) where
  temperature : Option Double
  topP : Option Double
  maxTokens : Option ℕ
  maxCompletionTokens : Option ℕ
  reasoningEffort : Option ReasoningEffort

/-- A value inside the text of a record. -/
def componentText {α : Type} (text : α → JavaString) : Option α → JavaString
  | some a => text a
  | none => java "null"

/-- `GenerationSettings.toString`, of the record, where `double` is `Double.toString`. -/
def GenerationSettings.toString {Double : Type} (double : Double → JavaString)
    (settings : GenerationSettings Double) : JavaString :=
  java "GenerationSettings[temperature=" ++ componentText double settings.temperature ++
    java ", topP=" ++ componentText double settings.topP ++
    java ", maxTokens=" ++ componentText digits settings.maxTokens ++
    java ", maxCompletionTokens=" ++ componentText digits settings.maxCompletionTokens ++
    java ", reasoningEffort=" ++ componentText ReasoningEffort.text settings.reasoningEffort ++
    java "]"

/-- `isLoopback`, where `create` is `URI.create` and `none` its exception. -/
def isLoopback (create : JavaString → Option JavaUri) (value : JavaString) : Bool :=
  (create value).any fun uri => uri.host.any fun host =>
    lowerAscii host == java "localhost" || host == java "127.0.0.1" ||
      lowerAscii host == java "[::1]" || lowerAscii host == java "::1"

/-- `validateBaseUrl`; a URI with a host has an authority. -/
def validateBaseUrl (create : JavaString → Option JavaUri) (value : JavaString) : Bool :=
  !isBlank value && value.all (fun unit => unit ≤ 0x7F) &&
    (create value).any fun uri =>
      uri.isHttp && uri.rawUserInfo.isNone && uri.rawQuery.isNone && uri.rawFragment.isNone &&
        (!(uri.scheme.any fun scheme => lowerAscii scheme == java "http") || isLoopback create value)

def validateProviderApi (provider : ModelProvider) (api : ModelApi) : Bool :=
  !(provider == .anthropic && api != .anthropicMessages) &&
    !(provider == .openaiCompatible && api != .openaiChatCompletions)

/-- `ModelProfile`, with what its constructor checks. -/
@[ext]
structure ModelProfile (create : JavaString → Option JavaUri) (Double : Type) where
  schemaVersion : ℤ
  id : JavaString
  displayName : JavaString
  provider : ModelProvider
  vendorId : Option JavaString
  api : ModelApi
  model : JavaString
  baseUrl : Option JavaString
  secretRef : Option SecretRef
  stream : Bool
  capabilityOverrides : CapabilityOverrides
  generation : GenerationSettings Double
  currentSchema : schemaVersion = 1
  idNotBlank : isBlank id = false
  displayNameNotBlank : isBlank displayName = false
  vendorIdSafe : ∀ vendor ∈ vendorId, isBlank vendor = false ∧ matchesVendor vendor = true
  modelNotBlank : isBlank model = false
  baseUrlValid : ∀ url ∈ baseUrl, validateBaseUrl create url = true
  providerApiValid : validateProviderApi provider api = true

namespace ModelProfile

variable {create : JavaString → Option JavaUri} {Double : Type} (double : Double → JavaString)
  (sha256 : List UInt8 → List UInt8)

variable (p : ModelProfile create Double)

/-- The fields that are joined. -/
def canonicalFields : List JavaString :=
  [java (toString p.schemaVersion), p.id, p.displayName, providerName p.provider,
    p.vendorId.getD [], apiName p.api, p.model, p.baseUrl.getD [],
    (p.secretRef.map SecretRef.toString).getD [], boolText p.stream,
    p.capabilityOverrides.canonical, p.generation.toString double]

/-- The text that is hashed. -/
def canonical : JavaString :=
  (java "|").intercalate (p.canonicalFields double)

def fingerprint : JavaString :=
  (sha256 (getBytes (p.canonical double))).flatMap EventNormalizerPolicy.hexByte

end ModelProfile

/-- `CapabilityProbeCache.CacheKey`. -/
structure CacheKey where
  profileId : JavaString
  profileRevision : JavaString
  transportRevision : JavaString
deriving DecidableEq

/-- The key of a probe of `p`. -/
def cacheKey {create : JavaString → Option JavaUri} {Double : Type} (double : Double → JavaString)
    (sha256 : List UInt8 → List UInt8) (p : ModelProfile create Double)
    (transportRevision : JavaString) : CacheKey :=
  ⟨p.id, p.fingerprint double sha256, transportRevision⟩

end JaDesktop.Profiles
