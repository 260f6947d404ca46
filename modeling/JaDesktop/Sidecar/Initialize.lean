import Mathlib.Order.MinMax
import JaDesktop.Sidecar.Envelope

/-!
# The initialization of the sidecar

`InitializeUseCase` compares the version that the host offers with the version of the sidecar and
answers with the lower minor, the higher minimum, the smaller limits and the common capabilities.
`InitializeWireMapper` reads the offer and writes the answer.  The records of the source carry
the checks of their constructors.
-/

namespace JaDesktop.Sidecar

/-- A Java `int`. -/
abbrev JavaInt := {n : ℤ // -2147483648 ≤ n ∧ n < 2147483648}

/-- The order of the integers. -/
instance : LinearOrder JavaInt := @Subtype.instLinearOrder ℤ Int.instLinearOrder _

instance : DecidableLE JavaInt := fun a b => inferInstanceAs (Decidable (a.val ≤ b.val))

instance : DecidableLT JavaInt := fun a b => inferInstanceAs (Decidable (a.val < b.val))

/-! ## Versions -/

structure ProtocolVersion where
  major : JavaInt
  minor : JavaInt
  minimumCompatibleMinor : JavaInt
  major_eq : major.val = 1
  minimum_nonneg : 0 ≤ minimumCompatibleMinor.val
  minimum_le : minimumCompatibleMinor ≤ minor

/-- The constructor of `ProtocolVersion`. -/
def ProtocolVersion.create (major minor minimumCompatibleMinor : JavaInt) :
    Except Thrown ProtocolVersion :=
  if h : major.val = 1 ∧ 0 ≤ minimumCompatibleMinor.val ∧ minimumCompatibleMinor ≤ minor then
    .ok ⟨major, minor, minimumCompatibleMinor, h.1, h.2.1, h.2.2⟩
  else .error .runtime

/-- The check that the records make on a version text. -/
def checkVersionText (blank : Thrown) (text : JavaString) : Except Thrown Unit :=
  if isBlank text || 128 < text.length then .error blank
  else if wellFormed text then .ok ()
  else .error .runtime

/-! ## Limits -/

/-- The components of `ProtocolLimits`. -/
structure LimitFields where
  maxFrameBytes : JavaInt
  maxInboundQueueFrames : JavaInt
  maxOutboundQueueFrames : JavaInt
  maxInFlightRequests : JavaInt
  maxPendingRequests : JavaInt
  maxItemDeltaBytes : JavaInt
  maxInlineToolOutputBytes : JavaInt
  maxLogBytes : JavaInt
  defaultRequestDeadlineMs : JavaInt
  defaultApprovalDeadlineMs : JavaInt
deriving DecidableEq

namespace LimitFields

def range (value : JavaInt) (low high : ℤ) : Bool := low ≤ value.val && value.val ≤ high

/-- The checks of the constructor of `ProtocolLimits`. -/
def inRange (f : LimitFields) : Bool :=
  range f.maxFrameBytes 1024 (16 * 1024 * 1024) && range f.maxInboundQueueFrames 1 10000 &&
    range f.maxOutboundQueueFrames 1 10000 && range f.maxInFlightRequests 1 1024 &&
    range f.maxPendingRequests 1 1024 && range f.maxItemDeltaBytes 256 1048576 &&
    range f.maxInlineToolOutputBytes 1024 (16 * 1024 * 1024) &&
    range f.maxLogBytes 4096 67108864 && range f.defaultRequestDeadlineMs 1000 3600000 &&
    range f.defaultApprovalDeadlineMs 1000 3600000

/-- The components under their names on the wire, in the order of `writeLimits`. -/
def entries (f : LimitFields) : List (String × JavaInt) :=
  [("maxFrameBytes", f.maxFrameBytes),
   ("maxInboundQueueFrames", f.maxInboundQueueFrames),
   ("maxOutboundQueueFrames", f.maxOutboundQueueFrames),
   ("maxInFlightRequests", f.maxInFlightRequests),
   ("maxPendingRequests", f.maxPendingRequests),
   ("maxItemDeltaBytes", f.maxItemDeltaBytes),
   ("maxInlineToolOutputBytes", f.maxInlineToolOutputBytes),
   ("maxLogBytes", f.maxLogBytes),
   ("defaultRequestDeadlineMs", f.defaultRequestDeadlineMs),
   ("defaultApprovalDeadlineMs", f.defaultApprovalDeadlineMs)]

/-- The arguments that `minLimits` gives to the constructor. -/
def min (client server : LimitFields) : LimitFields where
  maxFrameBytes := Min.min client.maxFrameBytes server.maxFrameBytes
  maxInboundQueueFrames := Min.min client.maxInboundQueueFrames server.maxInboundQueueFrames
  maxOutboundQueueFrames := Min.min client.maxOutboundQueueFrames server.maxOutboundQueueFrames
  maxInFlightRequests := Min.min client.maxInFlightRequests server.maxInFlightRequests
  maxPendingRequests := Min.min client.maxPendingRequests server.maxPendingRequests
  maxItemDeltaBytes := Min.min client.maxItemDeltaBytes server.maxItemDeltaBytes
  maxInlineToolOutputBytes :=
    Min.min client.maxInlineToolOutputBytes server.maxInlineToolOutputBytes
  maxLogBytes := Min.min client.maxLogBytes server.maxLogBytes
  defaultRequestDeadlineMs :=
    Min.min client.defaultRequestDeadlineMs server.defaultRequestDeadlineMs
  defaultApprovalDeadlineMs :=
    Min.min client.defaultApprovalDeadlineMs server.defaultApprovalDeadlineMs

end LimitFields

abbrev ProtocolLimits := {f : LimitFields // f.inRange = true}

/-- The constructor of `ProtocolLimits`. -/
def ProtocolLimits.create (f : LimitFields) : Except Thrown ProtocolLimits :=
  if h : f.inRange = true then .ok ⟨f, h⟩ else .error .runtime

/-! ## Capabilities -/

/-- The loop of `bounded`, with the values it has seen. -/
def entriesBounded (maxLength : ℕ) (allowed : Option (List JavaString))
    (unique : List JavaString) : List JavaString → Bool
  | [] => true
  | value :: values =>
    !value.isEmpty && value.length ≤ maxLength && !unique.contains value &&
      allowed.all (·.contains value) && wellFormed value &&
      entriesBounded maxLength allowed (value :: unique) values

/-- `bounded`, which returns its values or throws. -/
def bounded (values : List JavaString) (maxItems maxLength : ℕ)
    (allowed : Option (List JavaString)) : Bool :=
  values.length ≤ maxItems && entriesBounded maxLength allowed [] values

def intersection (left right : List JavaString) : List JavaString :=
  left.filter right.contains

/-- The components of `McpCapabilities`. -/
structure McpFields where
  protocolVersions : List JavaString
  transports : List JavaString
  features : List JavaString

/-- The checks of the constructor of `McpCapabilities`. -/
def McpFields.checked (f : McpFields) : Bool :=
  bounded f.protocolVersions 16 32 none &&
    bounded f.transports 2 32 (some (["stdio", "streamable_http"].map java)) &&
    bounded f.features 2 32 (some (["tools_list", "tools_call"].map java))

abbrev McpCapabilities := {f : McpFields // f.checked = true}

/-- The constructor of `McpCapabilities`. -/
def McpCapabilities.create (f : McpFields) : Except Thrown McpCapabilities :=
  if h : f.checked = true then .ok ⟨f, h⟩ else .error .runtime

/-- `McpCapabilities.intersect`. -/
def McpCapabilities.intersect (mcp peer : McpCapabilities) : Except Thrown McpCapabilities :=
  create ⟨intersection mcp.val.protocolVersions peer.val.protocolVersions,
    intersection mcp.val.transports peer.val.transports,
    intersection mcp.val.features peer.val.features⟩

/-- The components of `Capabilities`. -/
structure CapabilityFields where
  methods : List JavaString
  events : List JavaString
  accessModes : List JavaString
  itemKinds : List JavaString
  mcp : McpCapabilities

/-- The checks of the constructor of `Capabilities`. -/
def CapabilityFields.checked (f : CapabilityFields) : Bool :=
  bounded f.methods 256 128 none && bounded f.events 256 128 none &&
    bounded f.accessModes 3 32 (some (["read_only", "workspace", "full_access"].map java)) &&
    bounded f.itemKinds 64 64 none

abbrev Capabilities := {f : CapabilityFields // f.checked = true}

/-- The constructor of `Capabilities`. -/
def Capabilities.create (f : CapabilityFields) : Except Thrown Capabilities :=
  if h : f.checked = true then .ok ⟨f, h⟩ else .error .runtime

/-- `Capabilities.intersect`. -/
def Capabilities.intersect (capabilities peer : Capabilities) : Except Thrown Capabilities := do
  let mcp ← McpCapabilities.intersect capabilities.val.mcp peer.val.mcp
  create ⟨intersection capabilities.val.methods peer.val.methods,
    intersection capabilities.val.events peer.val.events,
    intersection capabilities.val.accessModes peer.val.accessModes,
    intersection capabilities.val.itemKinds peer.val.itemKinds, mcp⟩

/-! ## The handshake values -/

structure InitializeParams where
  version : ProtocolVersion
  clientVersion : JavaString
  capabilities : Capabilities
  limits : ProtocolLimits
  checked : checkVersionText .runtime clientVersion = .ok ()

/-- The constructor of `InitializeParams`. -/
def InitializeParams.create (version : ProtocolVersion) (clientVersion : JavaString)
    (capabilities : Capabilities) (limits : ProtocolLimits) : Except Thrown InitializeParams :=
  match h : checkVersionText .runtime clientVersion with
  | .ok () => .ok ⟨version, clientVersion, capabilities, limits, h⟩
  | .error e => .error e

/-- The checks of the constructor of `InitializeWireParams`. -/
def checkWireParams (protocolMajor protocolMinor minimumCompatibleMinor : JavaInt)
    (clientVersion : JavaString) : Except Thrown Unit :=
  if protocolMajor.val < 0 || protocolMinor.val < 0 || minimumCompatibleMinor.val < 0 ||
      protocolMinor < minimumCompatibleMinor then .error (.protocol .invalidParams)
  else checkVersionText (.protocol .invalidParams) clientVersion

structure InitializeWireParams where
  protocolMajor : JavaInt
  protocolMinor : JavaInt
  minimumCompatibleMinor : JavaInt
  clientVersion : JavaString
  capabilities : Capabilities
  limits : ProtocolLimits
  checked : checkWireParams protocolMajor protocolMinor minimumCompatibleMinor clientVersion = .ok ()

namespace InitializeWireParams

/-- The constructor. -/
def create (protocolMajor protocolMinor minimumCompatibleMinor : JavaInt)
    (clientVersion : JavaString) (capabilities : Capabilities) (limits : ProtocolLimits) :
    Except Thrown InitializeWireParams :=
  match h : checkWireParams protocolMajor protocolMinor minimumCompatibleMinor clientVersion with
  | .ok () => .ok ⟨protocolMajor, protocolMinor, minimumCompatibleMinor, clientVersion,
      capabilities, limits, h⟩
  | .error e => .error e

def toDomain (params : InitializeWireParams) : Except Thrown InitializeParams :=
  if params.protocolMajor.val ≠ 1 then .error (.protocol .protocolVersionUnsupported)
  else do
    let version ← ProtocolVersion.create params.protocolMajor params.protocolMinor
      params.minimumCompatibleMinor
    InitializeParams.create version params.clientVersion params.capabilities params.limits

end InitializeWireParams

structure NegotiatedInitialization where
  version : ProtocolVersion
  serverVersion : JavaString
  serverInstanceId : ServerInstanceId
  capabilities : Capabilities
  limits : ProtocolLimits
  checked : checkVersionText .runtime serverVersion = .ok ()

/-- The constructor of `NegotiatedInitialization`. -/
def NegotiatedInitialization.create (version : ProtocolVersion) (serverVersion : JavaString)
    (serverInstanceId : ServerInstanceId) (capabilities : Capabilities) (limits : ProtocolLimits) :
    Except Thrown NegotiatedInitialization :=
  match h : checkVersionText .runtime serverVersion with
  | .ok () => .ok ⟨version, serverVersion, serverInstanceId, capabilities, limits, h⟩
  | .error e => .error e

/-! ## The use case -/

structure InitializeUseCase where
  serverVersion : ProtocolVersion
  serverVersionName : JavaString
  serverInstanceId : ServerInstanceId
  serverCapabilities : Capabilities
  serverLimits : ProtocolLimits

namespace InitializeUseCase

def minLimits (client server : ProtocolLimits) : Except Thrown ProtocolLimits :=
  ProtocolLimits.create (client.val.min server.val)

variable (useCase : InitializeUseCase)

/-- `execute` on the values of the domain. -/
def executeDomain (client : InitializeParams) : Except Thrown NegotiatedInitialization :=
  let offered := client.version
  let server := useCase.serverVersion
  if offered.major ≠ server.major ∨ server.minor < offered.minimumCompatibleMinor ∨
      offered.minor < server.minimumCompatibleMinor then
    .error (.protocol .protocolVersionUnsupported)
  else do
    let negotiated ← ProtocolVersion.create server.major (min offered.minor server.minor)
      (max offered.minimumCompatibleMinor server.minimumCompatibleMinor)
    let limits ← minLimits client.limits useCase.serverLimits
    let capabilities ← useCase.serverCapabilities.intersect client.capabilities
    NegotiatedInitialization.create negotiated useCase.serverVersionName useCase.serverInstanceId
      capabilities limits

/-- `execute` on the values of the wire. -/
def execute (client : InitializeWireParams) : Except Thrown NegotiatedInitialization :=
  if client.protocolMajor ≠ useCase.serverVersion.major then
    .error (.protocol .protocolVersionUnsupported)
  else do
    let params ← client.toDomain
    useCase.executeDomain params

end InitializeUseCase

/-! ## The wire -/

namespace InitializeWireMapper

def invalidParams : Thrown := .protocol .invalidParams

def requiredInt (node : ObjectNode) (field : String) : Except Thrown JavaInt :=
  match ObjectNode.get (java field) node with
  | some (.number (.integral n)) =>
    if h : -2147483648 ≤ n ∧ n < 2147483648 then .ok ⟨n, h⟩ else .error invalidParams
  | _ => .error invalidParams

def requiredText (node : ObjectNode) (field : String) : Except Thrown JavaString :=
  match ObjectNode.get (java field) node with
  | some (.string text) => .ok text
  | _ => .error invalidParams

/-- The loop of `textArray`. -/
def texts : List JsonNode → Except Thrown (List JavaString)
  | [] => .ok []
  | .string text :: values => do
    let rest ← texts values
    .ok (text :: rest)
  | _ :: _ => .error invalidParams

def textArray (parent : ObjectNode) (field : String) : Except Thrown (List JavaString) :=
  match ObjectNode.get (java field) parent with
  | some (.array values) => texts values
  | _ => .error invalidParams

def readMcp : Option JsonNode → Except Thrown McpCapabilities
  | some (.object node) => do
    let protocolVersions ← textArray node "protocolVersions"
    let transports ← textArray node "transports"
    let features ← textArray node "features"
    McpCapabilities.create ⟨protocolVersions, transports, features⟩
  | _ => .error invalidParams

def readCapabilities : Option JsonNode → Except Thrown Capabilities
  | some (.object node) => do
    let methods ← textArray node "methods"
    let events ← textArray node "events"
    let accessModes ← textArray node "accessModes"
    let itemKinds ← textArray node "itemKinds"
    let mcp ← readMcp (ObjectNode.get (java "mcp") node)
    Capabilities.create ⟨methods, events, accessModes, itemKinds, mcp⟩
  | _ => .error invalidParams

def readLimits : Option JsonNode → Except Thrown ProtocolLimits
  | some (.object node) => do
    let maxFrameBytes ← requiredInt node "maxFrameBytes"
    let maxInboundQueueFrames ← requiredInt node "maxInboundQueueFrames"
    let maxOutboundQueueFrames ← requiredInt node "maxOutboundQueueFrames"
    let maxInFlightRequests ← requiredInt node "maxInFlightRequests"
    let maxPendingRequests ← requiredInt node "maxPendingRequests"
    let maxItemDeltaBytes ← requiredInt node "maxItemDeltaBytes"
    let maxInlineToolOutputBytes ← requiredInt node "maxInlineToolOutputBytes"
    let maxLogBytes ← requiredInt node "maxLogBytes"
    let defaultRequestDeadlineMs ← requiredInt node "defaultRequestDeadlineMs"
    let defaultApprovalDeadlineMs ← requiredInt node "defaultApprovalDeadlineMs"
    ProtocolLimits.create ⟨maxFrameBytes, maxInboundQueueFrames, maxOutboundQueueFrames,
      maxInFlightRequests, maxPendingRequests, maxItemDeltaBytes, maxInlineToolOutputBytes,
      maxLogBytes, defaultRequestDeadlineMs, defaultApprovalDeadlineMs⟩
  | _ => .error invalidParams

def readParams (node : ObjectNode) : Except Thrown InitializeWireParams := do
  let protocolMajor ← requiredInt node "protocolMajor"
  let protocolMinor ← requiredInt node "protocolMinor"
  let minimumCompatibleMinor ← requiredInt node "minimumCompatibleMinor"
  let clientVersion ← requiredText node "clientVersion"
  let capabilities ← readCapabilities (ObjectNode.get (java "capabilities") node)
  let limits ← readLimits (ObjectNode.get (java "limits") node)
  InitializeWireParams.create protocolMajor protocolMinor minimumCompatibleMinor clientVersion
    capabilities limits

/-- A number node. -/
def intNode (n : JavaInt) : JsonNode := .number (.integral n.val)

/-- An array node of texts. -/
def textNodes (values : List JavaString) : JsonNode := .array (values.map .string)

def writeLimits (limits : ProtocolLimits) : ObjectNode :=
  limits.val.entries.map fun entry => (java entry.1, intNode entry.2)

def writeCapabilities (capabilities : Capabilities) : ObjectNode :=
  let mcp := capabilities.val.mcp.val
  [(java "methods", textNodes capabilities.val.methods),
   (java "events", textNodes capabilities.val.events),
   (java "accessModes", textNodes capabilities.val.accessModes),
   (java "itemKinds", textNodes capabilities.val.itemKinds),
   (java "mcp", .object
     [(java "protocolVersions", textNodes mcp.protocolVersions),
      (java "transports", textNodes mcp.transports),
      (java "features", textNodes mcp.features)])]

def writeResult (result : NegotiatedInitialization) : ObjectNode :=
  [(java "protocolMajor", intNode result.version.major),
   (java "protocolMinor", intNode result.version.minor),
   (java "serverVersion", .string result.serverVersion),
   (java "serverInstanceId", .string result.serverInstanceId.val),
   (java "capabilities", .object (writeCapabilities result.capabilities)),
   (java "limits", .object (writeLimits result.limits))]

end InitializeWireMapper

/-- The result of `StdioRuntime.handleInitialize`, which adds the minimum and the runtime. -/
def initializeResult (negotiated : NegotiatedInitialization) (javaFeature : ℕ)
    (fakeRuntime : Bool) : ObjectNode :=
  InitializeWireMapper.writeResult negotiated ++
    [(java "minimumCompatibleMinor",
       InitializeWireMapper.intNode negotiated.version.minimumCompatibleMinor),
     (java "runtime", .object
       [(java "kind", .string (java "native-image")),
        (java "agentScopeVersion", .string (java "2.0.2")),
        (java "javaVersion", .string (java (toString javaFeature))),
        (java "solonVersion", .string (java "4.0.5")),
        (java "mode", .string (java (if fakeRuntime then "fake" else "production")))])]

/-! ## What the use case answers -/

lemma entriesBounded_iff {maxLength : ℕ} {allowed : Option (List JavaString)}
    {unique values : List JavaString} :
    entriesBounded maxLength allowed unique values = true ↔
      (∀ value ∈ values, (!value.isEmpty && value.length ≤ maxLength &&
        allowed.all (·.contains value) && wellFormed value) = true) ∧
      values.Nodup ∧ ∀ value ∈ values, value ∉ unique := by
  induction values generalizing unique with
  | nil => simp [entriesBounded]
  | cons value values ih =>
    rw [List.forall_mem_cons, List.forall_mem_cons, List.nodup_cons]
    simp only [entriesBounded, Bool.and_eq_true, ih, List.mem_cons, not_or, Bool.not_eq_true',
      List.contains_eq_mem, decide_eq_false_iff_not, decide_eq_true_eq]
    constructor
    · rintro ⟨⟨⟨⟨⟨hempty, hlen⟩, hnew⟩, hallowed⟩, hform⟩, hall, hnodup, hunique⟩
      exact ⟨⟨⟨⟨⟨hempty, hlen⟩, hallowed⟩, hform⟩, hall⟩,
        ⟨fun hmem => (hunique value hmem).1 rfl, hnodup⟩, hnew, fun v hv => (hunique v hv).2⟩
    · rintro ⟨⟨⟨⟨⟨hempty, hlen⟩, hallowed⟩, hform⟩, hall⟩, ⟨hfresh, hnodup⟩, hnew, hunique⟩
      exact ⟨⟨⟨⟨⟨hempty, hlen⟩, hnew⟩, hallowed⟩, hform⟩, hall, hnodup,
        fun v hv => ⟨fun heq => hfresh (heq ▸ hv), hunique v hv⟩⟩

lemma bounded_intersection {left right : List JavaString} {maxItems maxLength : ℕ}
    {allowed : Option (List JavaString)} (h : bounded left maxItems maxLength allowed = true) :
    bounded (intersection left right) maxItems maxLength allowed = true := by
  rw [bounded, Bool.and_eq_true, entriesBounded_iff] at h ⊢
  obtain ⟨hlen, hall, hnodup, -⟩ := h
  refine ⟨?_, fun value hvalue => hall value (List.mem_of_mem_filter hvalue),
    hnodup.filter _, by simp⟩
  rw [decide_eq_true_eq] at hlen ⊢
  exact (List.length_filter_le _ _).trans hlen

lemma exists_intersect (capabilities peer : Capabilities) :
    ∃ common, capabilities.intersect peer = .ok common := by
  obtain ⟨⟨methods, events, accessModes, itemKinds, mcp⟩, hchecked⟩ := capabilities
  obtain ⟨⟨protocolVersions, transports, features⟩, hmcp⟩ := mcp
  simp only [CapabilityFields.checked, McpFields.checked, Bool.and_eq_true] at hchecked hmcp
  obtain ⟨⟨⟨hmethods, hevents⟩, haccess⟩, hitems⟩ := hchecked
  obtain ⟨⟨hversions, htransports⟩, hfeatures⟩ := hmcp
  have hcommon : (⟨intersection protocolVersions peer.val.mcp.val.protocolVersions,
      intersection transports peer.val.mcp.val.transports,
      intersection features peer.val.mcp.val.features⟩ : McpFields).checked = true := by
    simp only [McpFields.checked, Bool.and_eq_true]
    exact ⟨⟨bounded_intersection hversions, bounded_intersection htransports⟩,
      bounded_intersection hfeatures⟩
  refine ⟨⟨⟨intersection methods peer.val.methods, intersection events peer.val.events,
    intersection accessModes peer.val.accessModes, intersection itemKinds peer.val.itemKinds,
    ⟨_, hcommon⟩⟩, ?_⟩, ?_⟩
  · simp only [CapabilityFields.checked, Bool.and_eq_true]
    exact ⟨⟨⟨bounded_intersection hmethods, bounded_intersection hevents⟩,
      bounded_intersection haccess⟩, bounded_intersection hitems⟩
  · rw [Capabilities.intersect, McpCapabilities.intersect, McpCapabilities.create, dif_pos hcommon,
      ok_bind]
    exact dif_pos _

lemma range_min {a b : JavaInt} {low high : ℤ} (ha : LimitFields.range a low high = true)
    (hb : LimitFields.range b low high = true) :
    LimitFields.range (min a b) low high = true := by
  rcases min_choice a b with h | h <;> rw [h] <;> assumption

lemma inRange_min {f g : LimitFields} (hf : f.inRange = true) (hg : g.inRange = true) :
    (f.min g).inRange = true := by
  simp only [LimitFields.inRange, Bool.and_eq_true] at hf hg ⊢
  obtain ⟨⟨⟨⟨⟨⟨⟨⟨⟨f₁, f₂⟩, f₃⟩, f₄⟩, f₅⟩, f₆⟩, f₇⟩, f₈⟩, f₉⟩, f₁₀⟩ := hf
  obtain ⟨⟨⟨⟨⟨⟨⟨⟨⟨g₁, g₂⟩, g₃⟩, g₄⟩, g₅⟩, g₆⟩, g₇⟩, g₈⟩, g₉⟩, g₁₀⟩ := hg
  exact ⟨⟨⟨⟨⟨⟨⟨⟨⟨range_min f₁ g₁, range_min f₂ g₂⟩, range_min f₃ g₃⟩, range_min f₄ g₄⟩,
    range_min f₅ g₅⟩, range_min f₆ g₆⟩, range_min f₇ g₇⟩, range_min f₈ g₈⟩, range_min f₉ g₉⟩,
    range_min f₁₀ g₁₀⟩

lemma InitializeParams.create_ok {version : ProtocolVersion} {clientVersion : JavaString}
    {capabilities : Capabilities} {limits : ProtocolLimits}
    (h : checkVersionText .runtime clientVersion = .ok ()) :
    create version clientVersion capabilities limits =
      .ok ⟨version, clientVersion, capabilities, limits, h⟩ := by
  unfold create
  split
  · rfl
  · rename_i e he
    rw [h] at he
    cases he

lemma NegotiatedInitialization.create_ok {version : ProtocolVersion} {serverVersion : JavaString}
    {serverInstanceId : ServerInstanceId} {capabilities : Capabilities} {limits : ProtocolLimits}
    (h : checkVersionText .runtime serverVersion = .ok ()) :
    create version serverVersion serverInstanceId capabilities limits =
      .ok ⟨version, serverVersion, serverInstanceId, capabilities, limits, h⟩ := by
  unfold create
  split
  · rfl
  · rename_i e he
    rw [h] at he
    cases he

lemma InitializeWireParams.checks (client : InitializeWireParams) :
    0 ≤ client.minimumCompatibleMinor.val ∧
      client.minimumCompatibleMinor ≤ client.protocolMinor ∧
      checkVersionText .runtime client.clientVersion = .ok () := by
  have h := client.checked
  rw [checkWireParams] at h
  split_ifs at h with hnumbers
  simp only [Bool.or_eq_true, decide_eq_true_eq, not_or, not_lt] at hnumbers
  refine ⟨hnumbers.1.2, hnumbers.2, ?_⟩
  rw [checkVersionText] at h ⊢
  split_ifs at h ⊢
  · rfl

namespace InitializeUseCase

variable {useCase : InitializeUseCase} {client : InitializeWireParams}

/-- The test of `execute` on the two versions. -/
def Compatible (client : InitializeWireParams) (server : ProtocolVersion) : Prop :=
  client.protocolMajor = server.major ∧ client.minimumCompatibleMinor ≤ server.minor ∧
    server.minimumCompatibleMinor ≤ client.protocolMinor

/-- **Compatible versions are accepted**, with the pairwise minima and the higher minimum. -/
theorem execute_compatible (h : Compatible client useCase.serverVersion)
    (hname : checkVersionText .runtime useCase.serverVersionName = .ok ()) :
    ∃ negotiated, useCase.execute client = .ok negotiated ∧
      negotiated.version.major = useCase.serverVersion.major ∧
      negotiated.version.minor = min client.protocolMinor useCase.serverVersion.minor ∧
      negotiated.version.minimumCompatibleMinor =
        max client.minimumCompatibleMinor useCase.serverVersion.minimumCompatibleMinor ∧
      negotiated.limits.val = client.limits.val.min useCase.serverLimits.val := by
  obtain ⟨hmajor, hminimum, hminor⟩ := h
  obtain ⟨hnonneg, hle, htext⟩ := client.checks
  have hone : client.protocolMajor.val = 1 := by rw [hmajor, useCase.serverVersion.major_eq]
  have hversion : useCase.serverVersion.major.val = 1 ∧
      0 ≤ (max client.minimumCompatibleMinor
        useCase.serverVersion.minimumCompatibleMinor).val ∧
      max client.minimumCompatibleMinor useCase.serverVersion.minimumCompatibleMinor ≤
        min client.protocolMinor useCase.serverVersion.minor := by
    refine ⟨useCase.serverVersion.major_eq, ?_, ?_⟩
    · rcases max_choice client.minimumCompatibleMinor
        useCase.serverVersion.minimumCompatibleMinor with heq | heq <;> rw [heq]
      · exact hnonneg
      · exact useCase.serverVersion.minimum_nonneg
    · exact max_le (le_min hle hminimum) (le_min hminor useCase.serverVersion.minimum_le)
  have hlimits := inRange_min client.limits.property useCase.serverLimits.property
  obtain ⟨common, hcommon⟩ := exists_intersect useCase.serverCapabilities client.capabilities
  refine ⟨⟨⟨_, _, _, hversion.1, hversion.2.1, hversion.2.2⟩, useCase.serverVersionName,
    useCase.serverInstanceId, common, ⟨_, hlimits⟩, hname⟩, ?_, rfl, rfl, rfl, rfl⟩
  have hdomain : client.toDomain = .ok ⟨⟨client.protocolMajor, client.protocolMinor,
      client.minimumCompatibleMinor, hone, hnonneg, hle⟩, client.clientVersion,
      client.capabilities, client.limits, htext⟩ := by
    rw [InitializeWireParams.toDomain, if_neg (not_not.mpr hone), ProtocolVersion.create,
      dif_pos ⟨hone, hnonneg, hle⟩, ok_bind]
    exact InitializeParams.create_ok htext
  have hcompatible : ¬ (client.protocolMajor ≠ useCase.serverVersion.major ∨
      useCase.serverVersion.minor < client.minimumCompatibleMinor ∨
      client.protocolMinor < useCase.serverVersion.minimumCompatibleMinor) := by
    rintro (h | h | h)
    · exact h hmajor
    · exact absurd hminimum (not_le.mpr h)
    · exact absurd hminor (not_le.mpr h)
  rw [execute, if_neg (not_not.mpr hmajor), hdomain, ok_bind, executeDomain]
  simp only
  rw [if_neg hcompatible, ProtocolVersion.create, dif_pos hversion, ok_bind, minLimits,
    ProtocolLimits.create, dif_pos hlimits, ok_bind, hcommon, ok_bind]
  exact NegotiatedInitialization.create_ok hname

/-- Only compatible versions are accepted. -/
theorem compatible_of_execute {negotiated : NegotiatedInitialization}
    (h : useCase.execute client = .ok negotiated) : Compatible client useCase.serverVersion := by
  rw [execute] at h
  split_ifs at h with hmajor
  obtain ⟨params, hparams, h⟩ := bind_eq_ok.mp h
  rw [InitializeWireParams.toDomain] at hparams
  split_ifs at hparams
  obtain ⟨version, hversion, hparams⟩ := bind_eq_ok.mp hparams
  rw [ProtocolVersion.create] at hversion
  split_ifs at hversion
  cases hversion
  obtain ⟨-, -, htext⟩ := client.checks
  rw [InitializeParams.create_ok htext] at hparams
  cases hparams
  rw [executeDomain] at h
  simp only at h
  split_ifs at h with hcompatible
  simp only [not_or, not_lt] at hcompatible
  exact ⟨not_not.mp hmajor, hcompatible.2.1, hcompatible.2.2⟩

end InitializeUseCase

/-! ## Reading what was written -/

namespace InitializeWireMapper

variable {node : ObjectNode} {field : String}

lemma requiredInt_of_get {n : JavaInt}
    (h : ObjectNode.get (java field) node = some (intNode n)) : requiredInt node field = .ok n := by
  rw [requiredInt, h]
  exact dif_pos n.property

lemma textArray_of_get {values : List JavaString}
    (h : ObjectNode.get (java field) node = some (textNodes values)) :
    textArray node field = .ok values := by
  rw [textArray, h]
  show texts (values.map .string) = .ok values
  clear h
  induction values with
  | nil => rfl
  | cons value values ih =>
    rw [List.map_cons, texts, ih]
    rfl

lemma readLimits_writeLimits (limits : ProtocolLimits) :
    readLimits (some (.object (writeLimits limits))) = .ok limits := by
  have hnodup : ((writeLimits limits).map Prod.fst).Nodup := by
    simp [writeLimits, LimitFields.entries]
  have hall : ∀ entry ∈ limits.val.entries,
      requiredInt (writeLimits limits) entry.1 = .ok entry.2 := fun entry hentry =>
    requiredInt_of_get (ObjectNode.get_of_mem hnodup (List.mem_map_of_mem hentry))
  simp only [LimitFields.entries, List.forall_mem_cons] at hall
  simp only [readLimits, hall, ok_bind]
  exact dif_pos limits.property

lemma readCapabilities_writeCapabilities (capabilities : Capabilities) :
    readCapabilities (some (.object (writeCapabilities capabilities))) = .ok capabilities := by
  iterate 4 refine bind_eq_ok.mpr ⟨_, textArray_of_get rfl, ?_⟩
  refine bind_eq_ok.mpr ⟨capabilities.val.mcp, ?_, dif_pos capabilities.property⟩
  iterate 3 refine bind_eq_ok.mpr ⟨_, textArray_of_get rfl, ?_⟩
  exact dif_pos capabilities.val.mcp.property

/-- **The readers undo the writers**: the mapper finds in the result of `handleInitialize` the
version, the capabilities and the limits that were negotiated. -/
theorem read_initializeResult (negotiated : NegotiatedInitialization) (javaFeature : ℕ)
    (fakeRuntime : Bool) :
    let result := initializeResult negotiated javaFeature fakeRuntime
    requiredInt result "protocolMajor" = .ok negotiated.version.major ∧
      requiredInt result "protocolMinor" = .ok negotiated.version.minor ∧
      requiredInt result "minimumCompatibleMinor" =
        .ok negotiated.version.minimumCompatibleMinor ∧
      requiredText result "serverVersion" = .ok negotiated.serverVersion ∧
      readCapabilities (ObjectNode.get (java "capabilities") result) =
        .ok negotiated.capabilities ∧
      readLimits (ObjectNode.get (java "limits") result) = .ok negotiated.limits :=
  ⟨requiredInt_of_get rfl, requiredInt_of_get rfl, requiredInt_of_get rfl, rfl,
    readCapabilities_writeCapabilities _, readLimits_writeLimits _⟩

end InitializeWireMapper

end JaDesktop.Sidecar
