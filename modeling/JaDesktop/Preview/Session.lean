import JaDesktop.Lib.AssocMap
import JaDesktop.Preview.Model

/-!
# Preview sessions

The registry of preview sessions and the calls on it, each of which runs under the mutex of the
registry.  Beside its result and the registry that it leaves, a call has the event that it queued.
-/

namespace JaDesktop.Preview

open JaDesktop.Rust

structure SessionState where
  id : PreviewId
  generation : ℕ
  status : PreviewSessionStatus
  url : PreviewUrl
  title : String
  events : List PreviewEvent
  eventBytes : ℕ
  nextSequence : ℕ
  droppedEvents : ℕ
deriving DecidableEq

/-- The sessions by their identities. -/
abbrev Registry := AssocMap PreviewId SessionState

structure PreviewWindowSpec where
  label : String
  url : PreviewUrl
deriving DecidableEq

/-- Authoritative snapshot used after reload or late event subscription. -/
structure PreviewSessionSnapshot where
  id : PreviewId
  generation : ℕ
  status : PreviewSessionStatus
  url : PreviewUrl
  title : String
  window : PreviewWindowSpec
  droppedEvents : ℕ
deriving DecidableEq

/-- Projects model state without exposing a WebView handle. -/
def snapshotState (session : SessionState) : PreviewSessionSnapshot where
  id := session.id
  generation := session.generation
  status := session.status
  url := session.url
  title := session.title
  window := ⟨session.id.label, session.url⟩
  droppedEvents := session.droppedEvents

/-! ## The queue of a session -/

/-- `checked_add(1)` of a 64-bit number. -/
def checkedNext (n : ℕ) (error : PreviewErrorCode) : Except PreviewErrorCode ℕ :=
  if n < u64Max then .ok (n + 1) else .error error

/-- The loop that drops the oldest events until another one fits. -/
def evict (limits : PreviewLimits) (payload : ℕ) :
    List PreviewEvent → ℕ → ℕ → List PreviewEvent × ℕ × ℕ
  | [], bytes, dropped => ([], bytes, dropped)
  | oldest :: events, bytes, dropped =>
    if limits.maxEventCount ≤ (oldest :: events).length ∨
        limits.maxEventQueueBytes < bytes + payload then
      evict limits payload events (bytes - oldest.encodedBytes) (min (dropped + 1) u64Max)
    else (oldest :: events, bytes, dropped)

/-- The event that is built for a session. -/
def nextEvent (session : SessionState) (kind : PreviewEventKind) : PreviewEvent :=
  ⟨session.id, session.generation, session.nextSequence, kind⟩

/-- Adds one event while dropping only old history at the byte cap. -/
def pushEvent (limits : PreviewLimits) (session : SessionState) (kind : PreviewEventKind) :
    Except PreviewErrorCode PreviewEvent × SessionState :=
  match checkedNext session.nextSequence .sequenceExhausted with
  | .error error => (.error error, session)
  | .ok sequence =>
    let event := nextEvent session kind
    let payloadBytes := event.encodedBytes
    if limits.maxEventPayloadBytes < payloadBytes then (.error .eventPayloadTooLarge, session)
    else
      let rest := evict limits payloadBytes session.events session.eventBytes session.droppedEvents
      let session := { session with
        nextSequence := sequence
        events := rest.1
        eventBytes := rest.2.1
        droppedEvents := rest.2.2 }
      if limits.maxEventQueueBytes < session.eventBytes + payloadBytes then
        (.error .eventQueueFull, session)
      else
        (.ok event, { session with
          eventBytes := session.eventBytes + payloadBytes
          events := session.events ++ [event] })

/-- Takes events from the front. -/
def drain : ℕ → List PreviewEvent → ℕ → List PreviewEvent × List PreviewEvent × ℕ
  | 0, events, bytes => ([], events, bytes)
  | _ + 1, [], bytes => ([], [], bytes)
  | n + 1, event :: events, bytes =>
    let rest := drain n events (bytes - event.encodedBytes)
    (event :: rest.1, rest.2)

/-! ## Calls -/

/-- What a call returns when it succeeds. -/
inductive Reply
  | opened (snapshot : PreviewSessionSnapshot) (window : PreviewWindowSpec)
  | snapshot (snapshot : PreviewSessionSnapshot)
  | event (event : PreviewEvent)
  | events (events : List PreviewEvent)
deriving DecidableEq

/-- The calls; a new identity comes with the call that opens a session. -/
inductive Op
  | open (rawUrl : String) (id : PreviewId)
  | navigate (id : PreviewId) (generation : ℕ) (source : NavigationSource) (rawUrl : String)
  | callbackNavigation (id : PreviewId) (generation : ℕ) (rawUrl : String)
  | callbackTitle (id : PreviewId) (generation : ℕ) (title : String)
  | callbackLoadError (id : PreviewId) (generation : ℕ) (message : String)
  | close (id : PreviewId)
  | drainEvents (id : PreviewId) (maxEvents : ℕ)
deriving DecidableEq

/-- The outcome of a call. -/
structure Outcome where
  result : Except PreviewErrorCode Reply
  registry : Registry
  queued : Option PreviewEvent

/-- A call that fails before it changes anything. -/
def Outcome.refused (registry : Registry) (error : PreviewErrorCode) : Outcome :=
  ⟨.error error, registry, none⟩

/-- Looks up one open generation. -/
def sessionMut (registry : Registry) (id : PreviewId) (generation : ℕ) :
    Except PreviewErrorCode SessionState :=
  match registry.lookup id with
  | none => .error .sessionNotFound
  | some session =>
    if session.status = .closed then .error .sessionClosed
    else if session.generation ≠ generation then .error .staleGeneration
    else .ok session

/-- Puts a session back after an event was pushed, or was not. -/
def settle (registry : Registry) (id : PreviewId)
    (pushed : Except PreviewErrorCode PreviewEvent × SessionState)
    (reply : PreviewEvent → SessionState → Reply) : Outcome :=
  match pushed with
  | (.error error, session) => ⟨.error error, registry.insert id session, none⟩
  | (.ok event, session) => ⟨.ok (reply event session), registry.insert id session, some event⟩

variable (policy : PreviewPolicy)

/-- Opens a bounded session and emits its first event. -/
def openSession (registry : Registry) (rawUrl : String)
    (id : PreviewId) : Outcome :=
  match policy.validateUrl rawUrl with
  | .error error => .refused registry error
  | .ok url =>
    let active := (registry.entries.filter fun entry => entry.2.status = .opened).length
    if policy.limits.maxSessions ≤ active then .refused registry .sessionLimit
    else
      let session : SessionState := ⟨id, 1, .opened, url, "", [], 0, 1, 0⟩
      match pushEvent policy.limits session (.opened url) with
      | (.error error, _) => .refused registry error
      | (.ok event, session) =>
        ⟨.ok (.opened (snapshotState session) ⟨id.label, url⟩), registry.insert id session,
          some event⟩

/-- Updates address, title and generation and appends one ordered event. -/
def commitNavigationEvent (registry : Registry) (id : PreviewId)
    (generation : ℕ) (source : NavigationSource) (url : PreviewUrl)
    (reply : PreviewEvent → SessionState → Reply) : Outcome :=
  match sessionMut registry id generation with
  | .error error => .refused registry error
  | .ok session =>
    match checkedNext session.generation .generationExhausted with
    | .error error => .refused registry error
    | .ok next =>
      settle registry id
        (pushEvent policy.limits { session with generation := next, url := url, title := "" }
          (.navigationCommitted source url)) reply

/-- Validates a navigation, and commits it after rechecking its generation. -/
def navigation (registry : Registry) (id : PreviewId) (generation : ℕ)
    (source : NavigationSource) (rawUrl : String) (reply : PreviewEvent → SessionState → Reply) :
    Outcome :=
  match policy.validateUrl rawUrl with
  | .error error => .refused registry error
  | .ok url =>
    match sessionMut registry id generation with
    | .error error => .refused registry error
    | .ok _ => commitNavigationEvent policy registry id generation source url reply

/-- Commits a user or redirect navigation and returns the new snapshot. -/
def navigate (registry : Registry) (id : PreviewId) (generation : ℕ)
    (source : NavigationSource) (rawUrl : String) : Outcome :=
  navigation policy registry id generation source rawUrl
    fun _ session => .snapshot (snapshotState session)

/-- Commits a navigation callback. -/
def callbackNavigation (registry : Registry) (id : PreviewId)
    (generation : ℕ) (rawUrl : String) : Outcome :=
  navigation policy registry id generation .redirect rawUrl fun event _ => .event event

/-- Accepts a bounded title callback. -/
def callbackTitle (registry : Registry) (id : PreviewId)
    (generation : ℕ) (title : String) : Outcome :=
  match sessionMut registry id generation with
  | .error error => .refused registry error
  | .ok session =>
    let title := truncateUtf8 title policy.limits.maxTitleBytes
    settle registry id
      (pushEvent policy.limits { session with title := title } (.titleChanged title))
      fun event _ => .event event

/-- Accepts a bounded load-error callback. -/
def callbackLoadError (registry : Registry) (id : PreviewId)
    (generation : ℕ) (message : String) : Outcome :=
  match sessionMut registry id generation with
  | .error error => .refused registry error
  | .ok session =>
    let message := truncateUtf8 message policy.limits.maxErrorBytes
    settle registry id (pushEvent policy.limits session (.loadFailed message))
      fun event _ => .event event

/-- Closes one session idempotently. -/
def close (registry : Registry) (id : PreviewId) : Outcome :=
  match registry.lookup id with
  | none => .refused registry .sessionNotFound
  | some session =>
    if session.status = .opened then
      settle registry id (pushEvent policy.limits { session with status := .closed } .closed)
        fun _ session => .snapshot (snapshotState session)
    else ⟨.ok (.snapshot (snapshotState session)), registry, none⟩

/-- Drains a bounded event batch in sequence order. -/
def drainEvents (registry : Registry) (id : PreviewId)
    (maxEvents : ℕ) : Outcome :=
  match registry.lookup id with
  | none => .refused registry .sessionNotFound
  | some session =>
    let taken := drain (min maxEvents policy.limits.maxEventCount) session.events session.eventBytes
    ⟨.ok (.events taken.1),
      registry.insert id { session with events := taken.2.1, eventBytes := taken.2.2 }, none⟩

/-- One call. -/
def call (registry : Registry) : Op → Outcome
  | .open rawUrl id => openSession policy registry rawUrl id
  | .navigate id generation source rawUrl => navigate policy registry id generation source rawUrl
  | .callbackNavigation id generation rawUrl =>
    callbackNavigation policy registry id generation rawUrl
  | .callbackTitle id generation title => callbackTitle policy registry id generation title
  | .callbackLoadError id generation message =>
    callbackLoadError policy registry id generation message
  | .close id => close policy registry id
  | .drainEvents id maxEvents => drainEvents policy registry id maxEvents

end JaDesktop.Preview
