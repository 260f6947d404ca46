import JaDesktop.Lib.Runs
import JaDesktop.Sidecar.Envelope

/-!
# The handshake state machine of the sidecar

`HandshakeStateMachine` owns the challenge of one stdio generation.  It remembers every
challenge it ever accepted and refuses frames in which one of them, or the field `readyToken`,
stands anywhere but in the parameters of a handshake notification.  The two recursive visitors
find the legal position by the text of a path, which they build from the field names.

Each operation returns its outcome together with the machine afterwards.
-/

namespace JaDesktop.Sidecar

/-! ## The visitors -/

/-- The path of a field: the name alone at an empty path, else joined with a dot. -/
def childPath (path name : JavaString) : JavaString :=
  if path.isEmpty then name else path ++ java "." ++ name

/-- The path of an array element. -/
def elementPath (path : JavaString) (index : ℕ) : JavaString :=
  path ++ java "[" ++ java (toString index) ++ java "]"

/-- The field is at the legal path and holds the legal token. -/
def isLegalPath (legalToken : Option ReadyToken) (path : JavaString) (value : JsonNode) : Bool :=
  path == java "params.readyToken" &&
    legalToken.any fun token => decide (value = .string token.value)

/-- A text value among the forbidden ones. -/
def isForbiddenText (forbidden : List JavaString) : JsonNode → Bool
  | .string s => forbidden.contains s
  | _ => false

mutual

/-- `visit`: does it return without throwing? -/
def visit (forbidden : List JavaString) (legalToken : Option ReadyToken) (path : JavaString) :
    JsonNode → Bool
  | .string s => !forbidden.contains s
  | .array items => visitItems forbidden legalToken path 0 items
  | .object fields => visitFields forbidden legalToken path fields
  | _ => true

def visitItems (forbidden : List JavaString) (legalToken : Option ReadyToken) (path : JavaString)
    (index : ℕ) : List JsonNode → Bool
  | [] => true
  | child :: items =>
    visit forbidden legalToken (elementPath path index) child &&
      visitItems forbidden legalToken path (index + 1) items

def visitFields (forbidden : List JavaString) (legalToken : Option ReadyToken)
    (path : JavaString) : ObjectNode → Bool
  | [] => true
  | (name, value) :: fields =>
    (if name = java "readyToken" then isLegalPath legalToken (childPath path name) value
      else !(forbidden.contains name || isForbiddenText forbidden value) &&
        visit forbidden legalToken (childPath path name) value) &&
    visitFields forbidden legalToken path fields

end

mutual

/-- `visitRaw`: does it return without throwing? -/
def visitRaw (legalToken : Option ReadyToken) (path : JavaString) : JsonNode → Bool
  | .array items => visitRawItems legalToken path 0 items
  | .object fields => visitRawFields legalToken path fields
  | _ => true

def visitRawItems (legalToken : Option ReadyToken) (path : JavaString) (index : ℕ) :
    List JsonNode → Bool
  | [] => true
  | child :: items =>
    visitRaw legalToken (elementPath path index) child &&
      visitRawItems legalToken path (index + 1) items

def visitRawFields (legalToken : Option ReadyToken) (path : JavaString) : ObjectNode → Bool
  | [] => true
  | (name, value) :: fields =>
    let legalPath := isLegalPath legalToken (childPath path name) value
    !(name = java "readyToken" && !legalPath) &&
      (legalPath || visitRaw legalToken (childPath path name) value) &&
      visitRawFields legalToken path fields

end

/-! ## The machine -/

/-- `HandshakeStateMachine.State`. -/
inductive State
  | new
  | initialized
  | ready
  | failed
  | stopped
deriving DecidableEq

/-- `HandshakeStateMachine`. -/
structure Machine where
  serverInstanceId : ServerInstanceId
  knownTokenValues : List JavaString
  generation : ℤ
  state : State
  currentToken : Option ReadyToken

def maxGenerations : ℕ := 1024

namespace Machine

/-- The constructor. -/
def create (serverInstanceId : ServerInstanceId) (generation : ℤ) : Except Thrown Machine :=
  if generation < 1 then .error .runtime
  else .ok ⟨serverInstanceId, [], generation, .new, none⟩

def failGeneration (m : Machine) : Machine := { m with state := .failed }

def matchesCurrent (m : Machine) (token : Option ReadyToken) : Bool :=
  m.currentToken.isSome && m.currentToken == token

/-- A remembered challenge that is not the current one. -/
def isRetired (m : Machine) (token : ReadyToken) : Bool :=
  m.knownTokenValues.contains token.value && m.currentToken != some token

/-- The last step of both validations: visit with the remembered and the legal challenge. -/
def visitWith (m : Machine) (document : ObjectNode) (legalToken : Option ReadyToken) :
    Except Thrown Unit :=
  let forbidden := m.knownTokenValues ++ (legalToken.map ReadyToken.value).toList
  require (visit forbidden legalToken [] (.object document)) handshakeFailure

section

variable (T : JavaTime)

/-- The token that `validateRawSyntax` takes for legal, with the checks on the way to it. -/
def legalSyntaxToken (document : ObjectNode) : Except Thrown (Option ReadyToken) :=
  let method := ObjectNode.get (java "method") document
  if method = some (.string (java "initialized")) then do
    require (!ObjectNode.has (java "id") document) handshakeFailure
    (initializedParams (ObjectNode.get (java "params") document)).map some
  else if method = some (.string (java "runtime/statusChanged")) then do
    require (!ObjectNode.has (java "id") document) handshakeFailure
    let params ← RuntimeStatusChangedParams.fromJson T (ObjectNode.get (java "params") document)
    if params.status = .ready then .ok params.readyToken else .ok none
  else .ok none

def validateRawSyntax (document : ObjectNode) : Except Thrown Unit := do
  let legalToken ← legalSyntaxToken T document
  require (visitRaw legalToken [] (.object document)) handshakeFailure

/-- The token that `validateRaw` takes for legal, with the checks on the way to it. -/
def legalRawToken (m : Machine) (document : ObjectNode) (inboundDirection : RpcDirection) :
    Except Thrown (Option ReadyToken) :=
  let method := ObjectNode.get (java "method") document
  if method = some (.string (java "initialized")) then do
    require (inboundDirection = .clientToServer && !ObjectNode.has (java "id") document)
      handshakeFailure
    let token ← initializedParams (ObjectNode.get (java "params") document)
    require (!m.isRetired token) handshakeFailure
    return some token
  else if method = some (.string (java "runtime/statusChanged")) then do
    require (!ObjectNode.has (java "id") document) handshakeFailure
    let params ← RuntimeStatusChangedParams.fromJson T (ObjectNode.get (java "params") document)
    if params.status = .ready then do
      require (inboundDirection = .serverToClient && m.matchesCurrent params.readyToken)
        handshakeFailure
      return params.readyToken
    else .ok none
  else .ok none

def validateRaw (m : Machine) (document : ObjectNode) (inboundDirection : RpcDirection) :
    Except Thrown Unit := do
  validateRawSyntax T document
  let legalToken ← m.legalRawToken T document inboundDirection
  m.visitWith document legalToken

/-- `validateRawFrame`: a handshake failure, or any exception of another kind, ends the
generation. -/
def validateRawFrame (m : Machine) (document : ObjectNode) (inboundDirection : RpcDirection) :
    Except Thrown Unit × Machine :=
  match m.validateRaw T document inboundDirection with
  | .ok () => (.ok (), m)
  | .error (.protocol code) =>
    if code = .handshakeFailed then (.error handshakeFailure, m.failGeneration)
    else (.error (.protocol code), m)
  | .error .runtime => (.error handshakeFailure, m.failGeneration)

end

variable {T : JavaTime}

def legalHandshakeToken (m : Machine) (envelope : RpcEnvelope T) (document : ObjectNode) :
    Except Thrown (Option ReadyToken) :=
  match envelope with
  | .notification notification =>
    if notification.method = java "initialized" then do
      require (notification.direction = .clientToServer) handshakeFailure
      let token ← initializedParams (ObjectNode.get (java "params") document)
      require (!m.isRetired token) handshakeFailure
      return some token
    else if notification.method = java "runtime/statusChanged" then do
      let params ← RuntimeStatusChangedParams.fromJson T (ObjectNode.get (java "params") document)
      if params.status = .ready then do
        require (notification.direction = .serverToClient && m.matchesCurrent params.readyToken)
          handshakeFailure
        return params.readyToken
      else .ok none
    else do
      require (!ObjectNode.has (java "readyToken") document) handshakeFailure
      return none
  | _ => do
    require (!ObjectNode.has (java "readyToken") document) handshakeFailure
    return none

def validateEnvelope (m : Machine) (envelope : RpcEnvelope T) : Except Thrown Unit := do
  let document := envelope.toJson
  require (unicodeTree (.object document)) .runtime
  let legalToken ← m.legalHandshakeToken envelope document
  m.visitWith document legalToken

def acceptChallenge (m : Machine) (token : ReadyToken) : Except Thrown Machine :=
  if m.currentToken.isSome || m.knownTokenValues.contains token.value ||
      decide (maxGenerations ≤ m.knownTokenValues.length) then .error handshakeFailure
  else .ok { m with
    knownTokenValues := m.knownTokenValues ++ [token.value], currentToken := some token }

/-- Any exception ends the generation and is thrown as the handshake failure. -/
def failing {α : Type} (m : Machine) : Except Thrown (α × Machine) → Except Thrown α × Machine
  | .ok (a, m') => (.ok a, m')
  | .error _ => (.error handshakeFailure, m.failGeneration)

/-- `acceptInitialized` on a notification. -/
def acceptInitialized (m : Machine) (notification : RpcNotification T) :
    Except Thrown Unit × Machine :=
  m.failing do
    require (m.state = .new) handshakeFailure
    require (notification.direction = .clientToServer &&
      notification.method = java "initialized") handshakeFailure
    m.validateEnvelope (.notification notification)
    let token ← initializedParams (some (.object notification.params))
    let m' ← m.acceptChallenge token
    return ((), { m' with currentToken := some token, state := .initialized })

/-- `acceptInitialized` on raw parameters. -/
def acceptInitializedParams (T : JavaTime) (m : Machine) (params : ObjectNode) :
    Except Thrown Unit × Machine :=
  match (RpcNotification.create (java "initialized") params .clientToServer [] :
      Except Thrown (RpcNotification T)) with
  | .error _ => (.error handshakeFailure, m.failGeneration)
  | .ok notification =>
    match m.acceptInitialized notification with
    | (.ok (), m') => (.ok (), m')
    | (.error _, m') => (.error handshakeFailure, m'.failGeneration)

/-- `publishReady` on given parameters. -/
def publishReady (m : Machine) (params : RuntimeStatusChangedParams T) :
    Except Thrown (RpcNotification T) × Machine :=
  m.failing do
    require (m.state = .initialized) handshakeFailure
    require (params.status = .ready && m.serverInstanceId = params.serverInstanceId &&
      m.matchesCurrent params.readyToken) handshakeFailure
    let ready ← RpcNotification.create (java "runtime/statusChanged") params.toJson
      .serverToClient []
    m.validateEnvelope (.notification ready)
    return (ready, { m with state := .ready })

/-- `publishReady` with the accepted challenge. -/
def publishReadyEvent (m : Machine) (eventId : EventId) (occurredAt : T.Instant) :
    Except Thrown (RpcNotification T) × Machine :=
  if m.state ≠ .initialized then (.error handshakeFailure, m.failGeneration)
  else
    match m.currentToken with
    | none => (.error handshakeFailure, m.failGeneration)
    | some token =>
      match RuntimeStatusChangedParams.create m.serverInstanceId eventId occurredAt .ready
          (some token) none none [] with
      | .error _ => (.error handshakeFailure, m.failGeneration)
      | .ok params =>
        match m.publishReady params with
        | (.ok ready, m') => (.ok ready, m')
        | (.error _, m') => (.error handshakeFailure, m'.failGeneration)

def acceptInitializedAndPublishReady (m : Machine) (notification : RpcNotification T)
    (eventId : EventId) (occurredAt : T.Instant) : Except Thrown (RpcNotification T) × Machine :=
  match m.acceptInitialized notification with
  | (.error e, m') => (.error e, m')
  | (.ok (), m') => m'.publishReadyEvent eventId occurredAt

def requireReady (m : Machine) : Except Thrown Unit :=
  match m.state with
  | .ready => .ok ()
  | .failed | .stopped => .error handshakeFailure
  | _ => .error (.protocol .notInitialized)

def shutdown (m : Machine) : Machine := { m with state := .stopped, currentToken := none }

def isPreReadyInitialize (m : Machine) : RpcEnvelope T → Bool
  | .request request => m.state = .new && request.direction = .clientToServer &&
      request.method = java "initialize"
  | _ => false

/-- The mapping of exceptions at the end of `acceptInbound` and `validateOutboundFrame`: only a
handshake failure ends the generation, and other exceptions pass through. -/
def mapThrown {α : Type} (m : Machine) : Thrown → Except Thrown α × Machine
  | .protocol code =>
    if code = .handshakeFailed then (.error handshakeFailure, m.failGeneration)
    else (.error (.protocol code), m)
  | .runtime => (.error .runtime, m)

/-- `acceptInbound`, after the validation of the envelope. -/
def admitInbound (m : Machine) (envelope : RpcEnvelope T) :
    Except Thrown (RpcEnvelope T) × Machine :=
  match envelope with
  | .notification notification =>
    if notification.method = java "initialized" then
      match m.acceptInitialized notification with
      | (.ok (), m') => (.ok envelope, m')
      | (.error e, m') => m'.mapThrown e
    else if notification.method = java "runtime/statusChanged" then
      match RuntimeStatusChangedParams.fromJson T (some (.object notification.params)) with
      | .error e => m.mapThrown e
      | .ok status =>
        if status.status = .ready then m.mapThrown handshakeFailure
        else if status.status = .stopped ∨ status.status = .crashed then (.ok envelope, m.shutdown)
        else (.ok envelope, m)
    else
      match m.requireReady with
      | .ok () => (.ok envelope, m)
      | .error e => m.mapThrown e
  | _ =>
    if m.isPreReadyInitialize envelope then (.ok envelope, m)
    else
      match m.requireReady with
      | .ok () => (.ok envelope, m)
      | .error e => m.mapThrown e

def acceptInbound (m : Machine) (envelope : RpcEnvelope T) :
    Except Thrown (RpcEnvelope T) × Machine :=
  match m.validateEnvelope envelope with
  | .error e => m.mapThrown e
  | .ok () => m.admitInbound envelope

def validateOutboundFrame (m : Machine) (envelope : RpcEnvelope T) :
    Except Thrown Unit × Machine :=
  match envelope with
  | .notification notification =>
    if notification.method = java "initialized" then (.error handshakeFailure, m.failGeneration)
    else
      match m.validateEnvelope envelope with
      | .ok () => (.ok (), m)
      | .error e => m.mapThrown e
  | _ =>
    match m.validateEnvelope envelope with
    | .ok () => (.ok (), m)
    | .error e => m.mapThrown e

def restart (m : Machine) (nextGeneration : ℤ) (nextServerInstanceId : ServerInstanceId) :
    Except Thrown Unit × Machine :=
  if nextGeneration ≤ m.generation then (.error handshakeFailure, m)
  else (.ok (), { m with
    serverInstanceId := nextServerInstanceId, generation := nextGeneration, state := .new,
    currentToken := none })

/-! ## Reachable machines -/

/-- The calls that can change the machine. -/
inductive Call (T : JavaTime)
  | acceptInitialized (notification : RpcNotification T)
  | acceptInitializedParams (params : ObjectNode)
  | publishReady (params : RuntimeStatusChangedParams T)
  | publishReadyEvent (eventId : EventId) (occurredAt : T.Instant)
  | acceptInitializedAndPublishReady (notification : RpcNotification T) (eventId : EventId)
      (occurredAt : T.Instant)
  | acceptInbound (envelope : RpcEnvelope T)
  | validateRawFrame (document : ObjectNode) (inboundDirection : RpcDirection)
  | validateOutboundFrame (envelope : RpcEnvelope T)
  | shutdown
  | restart (nextGeneration : ℤ) (nextServerInstanceId : ServerInstanceId)

/-- The machine after a call, whether the call returns or throws. -/
def after (m : Machine) : Call T → Machine
  | .acceptInitialized notification => (m.acceptInitialized notification).2
  | .acceptInitializedParams params => (acceptInitializedParams T m params).2
  | .publishReady params => (m.publishReady params).2
  | .publishReadyEvent eventId occurredAt => (m.publishReadyEvent eventId occurredAt).2
  | .acceptInitializedAndPublishReady notification eventId occurredAt =>
    (m.acceptInitializedAndPublishReady notification eventId occurredAt).2
  | .acceptInbound envelope => (m.acceptInbound envelope).2
  | .validateRawFrame document inboundDirection =>
    (m.validateRawFrame T document inboundDirection).2
  | .validateOutboundFrame envelope => (m.validateOutboundFrame envelope).2
  | .shutdown => m.shutdown
  | .restart nextGeneration nextServerInstanceId =>
    (m.restart nextGeneration nextServerInstanceId).2

/-- A machine that some sequence of calls produces from a fresh one. -/
def Reachable (T : JavaTime) (m : Machine) : Prop :=
  ∃ id generation m₀ calls, create id generation = .ok m₀ ∧
    Run (fun m (call : Call T) m' => m' = m.after call) m₀ calls m

end Machine

/-! ## Writing a frame -/

/-- `HandshakeJsonlCodec.encode`, over the writer of Jackson: the guard of the machine, the check
of the texts, the limit, and the line break at the end. -/
def encode {T : JavaTime} (write : JsonNode → List UInt8) (m : Machine) (envelope : RpcEnvelope T)
    (maxFrameBytes : ℕ) : Except Thrown (List UInt8) × Machine :=
  match m.validateOutboundFrame envelope with
  | (.error thrown, m') => (.error thrown, m')
  | (.ok (), m') =>
    let document := Json.object envelope.toJson
    if !unicodeTree document then (.error (.protocol .invalidFrame), m')
    else
      let json := write document
      if maxFrameBytes < json.length then (.error (.protocol .frameTooLarge), m')
      else (.ok (json ++ [0x0A]), m')

lemma encode_eq_ok {T : JavaTime} {write : JsonNode → List UInt8} {m : Machine}
    {envelope : RpcEnvelope T} {maxFrameBytes : ℕ} {bytes : List UInt8} :
    (encode write m envelope maxFrameBytes).1 = .ok bytes ↔
      (m.validateOutboundFrame envelope).1 = .ok () ∧
      unicodeTree (.object envelope.toJson) = true ∧
      (write (.object envelope.toJson)).length ≤ maxFrameBytes ∧
      bytes = write (.object envelope.toJson) ++ [0x0A] := by
  unfold encode
  rcases m.validateOutboundFrame envelope with ⟨thrown | ⟨⟩, m'⟩
  · simp
  · cases hunicode : unicodeTree (.object envelope.toJson) with
    | false => simp [hunicode]
    | true =>
      by_cases hlen : maxFrameBytes < (write (.object envelope.toJson)).length
      · simp only [hunicode, hlen, Bool.not_true, Bool.false_eq_true, if_false, if_true,
          reduceCtorEq, true_and, false_iff, not_and]
        omega
      · simp only [hunicode, hlen, Bool.not_true, Bool.false_eq_true, if_false, Except.ok.injEq,
          true_and]
        exact ⟨fun h => ⟨by omega, h.symm⟩, fun h => h.2.symm⟩

end JaDesktop.Sidecar
