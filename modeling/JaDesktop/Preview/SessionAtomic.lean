import JaDesktop.Lib.Runs
import JaDesktop.Preview.Session
import Mathlib.Algebra.Order.Ring.Int

/-!
# Calls that change all or nothing

A title, a navigation and a close change the session before their event is built.  So a call that
fails leaves the sessions as they were exactly when the event of every accepted change has room in
the budget of one event (`calls_allOrNothing_iff`).  The accounting of the queues needs no such
condition.
-/

namespace JaDesktop.Preview

open JaDesktop.Rust

variable {limits : PreviewLimits} {policy : PreviewPolicy} {registry : Registry}
  {session old : SessionState} {kind : PreviewEventKind} {id : PreviewId} {op : Op}

/-! ## The queue -/

/-- The sizes of some events. -/
def totalBytes (events : List PreviewEvent) : ℕ := (events.map PreviewEvent.encodedBytes).sum

/-- A queue within its budgets whose bytes are counted and whose sequences increase. -/
structure QueueOk (limits : PreviewLimits) (id : PreviewId) (events : List PreviewEvent)
    (eventBytes nextSequence : ℕ) : Prop where
  bytes : eventBytes = totalBytes events
  bytesBound : eventBytes ≤ limits.maxEventQueueBytes
  countBound : events.length ≤ limits.maxEventCount
  increasing : (events.map PreviewEvent.sequence).Pairwise (· < ·)
  below : ∀ event ∈ events, event.sequence < nextSequence
  owned : ∀ event ∈ events, event.sessionId = id

/-- The queue of a session is in order. -/
def Accounted (limits : PreviewLimits) (session : SessionState) : Prop :=
  QueueOk limits session.id session.events session.eventBytes session.nextSequence

lemma QueueOk.suffix {events rest : List PreviewEvent} {bytes next : ℕ}
    (h : QueueOk limits id events bytes next) (hrest : rest <:+ events) :
    QueueOk limits id rest (totalBytes rest) next := by
  obtain ⟨front, rfl⟩ := hrest
  have htotal : totalBytes (front ++ rest) = totalBytes front + totalBytes rest := by
    simp [totalBytes]
  refine ⟨rfl, ?_, ?_, ?_, ?_, ?_⟩
  · have := h.bytes
    have := h.bytesBound
    omega
  · have := h.countBound
    rw [List.length_append] at this
    omega
  · have := h.increasing
    rw [List.map_append, List.pairwise_append] at this
    exact this.2.1
  · exact fun event hevent => h.below event (List.mem_append_right _ hevent)
  · exact fun event hevent => h.owned event (List.mem_append_right _ hevent)

/-- Eviction keeps a part from behind, with its bytes, that leaves room for another event. -/
lemma evict_spec {payload : ℕ} (hcount : 0 < limits.maxEventCount)
    (hpayload : payload ≤ limits.maxEventQueueBytes) (events : List PreviewEvent) (dropped : ℕ) :
    ∃ rest dropped', evict limits payload events (totalBytes events) dropped =
        (rest, totalBytes rest, dropped') ∧ rest <:+ events ∧
      rest.length < limits.maxEventCount ∧
      totalBytes rest + payload ≤ limits.maxEventQueueBytes := by
  induction events generalizing dropped with
  | nil =>
    refine ⟨[], dropped, rfl, List.suffix_rfl, hcount, ?_⟩
    simpa [totalBytes] using hpayload
  | cons oldest events ih =>
    rw [evict]
    split_ifs with hfull
    · have hbytes : totalBytes (oldest :: events) - oldest.encodedBytes = totalBytes events := by
        simp [totalBytes]
      obtain ⟨rest, dropped', heq, hsuffix, hroom⟩ := ih (min (dropped + 1) u64Max)
      exact ⟨rest, dropped', by rw [hbytes, heq], hsuffix.trans (List.suffix_cons _ _), hroom⟩
    · rw [not_or, not_le, not_lt] at hfull
      exact ⟨oldest :: events, dropped, rfl, List.suffix_rfl, hfull.1, hfull.2⟩

/-- An event of a session has a sequence and fits the budget of one event. -/
def CanPush (limits : PreviewLimits) (session : SessionState) (kind : PreviewEventKind) : Prop :=
  session.nextSequence < u64Max ∧
    (nextEvent session kind).encodedBytes ≤ limits.maxEventPayloadBytes

/-- What a session is after its event was queued. -/
structure Pushed (limits : PreviewLimits) (before : SessionState) (event : PreviewEvent)
    (after : SessionState) : Prop where
  id : after.id = before.id
  status : after.status = before.status
  nextSequence : after.nextSequence = before.nextSequence + 1
  events : ∃ rest, rest <:+ before.events ∧ after.events = rest ++ [event]
  accounted : Accounted limits after

lemma pushEvent_of_not_canPush (h : ¬CanPush limits session kind) :
    ∃ error, pushEvent limits session kind = (.error error, session) := by
  rw [pushEvent, checkedNext]
  by_cases hnext : session.nextSequence < u64Max
  · rw [if_pos hnext]
    have hlarge : limits.maxEventPayloadBytes < (nextEvent session kind).encodedBytes := by
      by_contra hfits
      exact h ⟨hnext, not_lt.mp hfits⟩
    exact ⟨.eventPayloadTooLarge, if_pos hlarge⟩
  · rw [if_neg hnext]
    exact ⟨.sequenceExhausted, rfl⟩

lemma pushEvent_of_canPush (hlimits : limits.validate = .ok limits)
    (h : CanPush limits session kind) (haccounted : Accounted limits session) :
    ∃ after, pushEvent limits session kind = (.ok (nextEvent session kind), after) ∧
      Pushed limits session (nextEvent session kind) after := by
  obtain ⟨hcount, hqueue⟩ := PreviewLimits.bounds hlimits
  obtain ⟨rest, dropped, hevict, hsuffix, hlength, hroom⟩ :=
    evict_spec hcount (h.2.trans hqueue) session.events session.droppedEvents
  rw [← haccounted.bytes] at hevict
  have hsmall : ¬limits.maxEventPayloadBytes < (nextEvent session kind).encodedBytes :=
    not_lt.mpr h.2
  have hfits : ¬limits.maxEventQueueBytes <
      totalBytes rest + (nextEvent session kind).encodedBytes := not_lt.mpr hroom
  rw [pushEvent, checkedNext, if_pos h.1]
  simp only [hsmall, if_false, hevict, hfits]
  refine ⟨_, rfl, rfl, rfl, rfl, ⟨rest, hsuffix, rfl⟩, ?_⟩
  have hrest := haccounted.suffix hsuffix
  refine ⟨?_, hroom, ?_, ?_, ?_, ?_⟩
  · simp [totalBytes]
  · rw [List.length_append]
    exact hlength
  · rw [List.map_append, List.pairwise_append]
    refine ⟨hrest.increasing, by simp, ?_⟩
    intro n hn m hm
    obtain ⟨event, hevent, rfl⟩ := List.mem_map.mp hn
    obtain rfl : m = session.nextSequence := by simpa [nextEvent] using hm
    exact hrest.below event hevent
  · intro event hevent
    rcases List.mem_append.mp hevent with hevent | hevent
    · exact Nat.lt_succ_of_lt (hrest.below event hevent)
    · rw [List.mem_singleton.mp hevent]
      exact Nat.lt_succ_self _
  · exact List.forall_mem_append.mpr ⟨hrest.owned, List.forall_mem_singleton.mpr rfl⟩

/-- Taking events from the front leaves a part from behind, and counts its bytes. -/
lemma drain_spec (n : ℕ) (events : List PreviewEvent) :
    ∃ taken rest, drain n events (totalBytes events) = (taken, rest, totalBytes rest) ∧
      taken ++ rest = events := by
  induction n generalizing events with
  | zero => exact ⟨[], events, rfl, rfl⟩
  | succ n ih =>
    cases events with
    | nil => exact ⟨[], [], rfl, rfl⟩
    | cons event events =>
      obtain ⟨taken, rest, heq, happend⟩ := ih events
      have hbytes : totalBytes (event :: events) - event.encodedBytes = totalBytes events := by
        simp [totalBytes]
      refine ⟨event :: taken, rest, ?_, by rw [List.cons_append, happend]⟩
      rw [drain, hbytes, heq]

/-! ## Calls -/

/-- The session and generation that a callback or a navigation addresses. -/
def Op.target : Op → Option (PreviewId × ℕ)
  | .navigate id generation _ _ => some (id, generation)
  | .callbackNavigation id generation _ => some (id, generation)
  | .callbackTitle id generation _ => some (id, generation)
  | .callbackLoadError id generation _ => some (id, generation)
  | _ => none

/-- An opened session has an identity that was not used. -/
def Fresh (registry : Registry) : Op → Prop
  | .open _ id => registry.lookup id = none
  | _ => True

/-- Every session is as before. -/
def SameSessions (before after : Registry) : Prop := ∀ id, after.lookup id = before.lookup id

/-- A call that fails changes no session, nor does a callback to a closed session or from an old
generation. -/
structure Atomic (policy : PreviewPolicy) (registry : Registry) (op : Op) : Prop where
  failed : ∀ error, (call policy registry op).result = .error error →
    SameSessions registry (call policy registry op).registry
  stale : ∀ id generation session, op.target = some (id, generation) →
    registry.lookup id = some session →
    session.status = .closed ∨ session.generation ≠ generation →
    (∃ error, (call policy registry op).result = .error error) ∧
      SameSessions registry (call policy registry op).registry

/-- A committed navigation has room for its event. -/
def NavigationFits (policy : PreviewPolicy) (registry : Registry) (id : PreviewId)
    (generation : ℕ) (source : NavigationSource) (rawUrl : String) : Prop :=
  ∀ url session, policy.validateUrl rawUrl = .ok url →
    sessionMut registry id generation = .ok session → session.generation < u64Max →
    CanPush policy.limits
      { session with generation := session.generation + 1, url := url, title := "" }
      (.navigationCommitted source url)

/-- The event of an accepted change has room, or nothing changes. -/
def Fits (policy : PreviewPolicy) (registry : Registry) : Op → Prop
  | .navigate id generation source rawUrl =>
    NavigationFits policy registry id generation source rawUrl
  | .callbackNavigation id generation rawUrl =>
    NavigationFits policy registry id generation .redirect rawUrl
  | .callbackTitle id generation title =>
    ∀ session, sessionMut registry id generation = .ok session →
      session.title = truncateUtf8 title policy.limits.maxTitleBytes ∨
      CanPush policy.limits
        { session with title := truncateUtf8 title policy.limits.maxTitleBytes }
        (.titleChanged (truncateUtf8 title policy.limits.maxTitleBytes))
  | .close id =>
    ∀ session, registry.lookup id = some session → session.status = .opened →
      CanPush policy.limits { session with status := .closed } .closed
  | _ => True

lemma sessionMut_eq_ok {generation : ℕ} :
    sessionMut registry id generation = .ok session ↔
      registry.lookup id = some session ∧ session.status = .opened ∧
        session.generation = generation := by
  rw [sessionMut]
  cases hlookup : registry.lookup id with
  | none => simp
  | some found =>
    cases hstatus : found.status with
    | closed =>
      simp only [hstatus, if_true, Option.some.injEq]
      constructor
      · intro h
        cases h
      · rintro ⟨rfl, hopened, -⟩
        rw [hstatus] at hopened
        cases hopened
    | opened =>
      simp only [hstatus, reduceCtorEq, if_false, Option.some.injEq]
      split_ifs with hgeneration
      · constructor
        · intro h
          cases h
        · rintro ⟨rfl, -, hsame⟩
          exact absurd hsame hgeneration
      · constructor
        · intro h
          obtain rfl := Except.ok.inj h
          exact ⟨rfl, hstatus, not_not.mp hgeneration⟩
        · rintro ⟨rfl, -, -⟩
          rfl

lemma sameSessions_insert (h : registry.lookup id = some session) :
    SameSessions registry (registry.insert id session) := by
  intro id'
  rw [AssocMap.lookup_insert]
  split_ifs with hid
  · rw [hid, h]
  · rfl

/-- What a call does whose event has room. -/
inductive Effect (policy : PreviewPolicy) (registry : Registry) : Op → Outcome → Prop
  | refused {op error} : Effect policy registry op (.refused registry error)
  | unpushed {op id session error} : registry.lookup id = some session →
      Effect policy registry op ⟨.error error, registry.insert id session, none⟩
  | created {rawUrl id reply} {before after : SessionState} {event} :
      Pushed policy.limits before event after →
      before.id = id → before.status = .opened → before.events = [] → event.sessionId = id →
      event.sequence = before.nextSequence → event.kind ≠ .closed →
      Effect policy registry (.open rawUrl id) ⟨.ok reply, registry.insert id after, some event⟩
  | pushed {op id reply} {old before after : SessionState} {event} :
      Pushed policy.limits before event after →
      (op.target = some (id, old.generation) ∧ before.status = .opened ∧ event.kind ≠ .closed ∨
        op = .close id ∧ before.status = .closed ∧ event.kind = .closed) →
      registry.lookup id = some old → old.status = .opened →
      before.id = old.id → before.events = old.events → before.nextSequence = old.nextSequence →
      event.sessionId = old.id → event.sequence = old.nextSequence →
      Effect policy registry op ⟨.ok reply, registry.insert id after, some event⟩
  | drained {id n reply} {old after : SessionState} :
      registry.lookup id = some old → after.id = old.id → after.status = old.status →
      after.nextSequence = old.nextSequence → after.events <:+ old.events →
      Accounted policy.limits after →
      Effect policy registry (.drainEvents id n) ⟨.ok reply, registry.insert id after, none⟩
  | closed {id reply} : Effect policy registry (.close id) ⟨.ok reply, registry, none⟩

/-- The sessions under their identities, with their queues in order. -/
def Kept (limits : PreviewLimits) (registry : Registry) : Prop :=
  ∀ id session, registry.lookup id = some session → session.id = id ∧ Accounted limits session

section Effects

variable {generation : ℕ} {source : NavigationSource} {rawUrl : String}
  {reply : PreviewEvent → SessionState → Reply}

lemma effect_navigation (hlimits : policy.limits.validate = .ok policy.limits)
    (hkept : Kept policy.limits registry) (htarget : op.target = some (id, generation))
    (hfits : NavigationFits policy registry id generation source rawUrl) :
    Effect policy registry op (navigation policy registry id generation source rawUrl reply) := by
  rw [navigation]
  cases hurl : policy.validateUrl rawUrl with
  | error error => exact .refused
  | ok url =>
    cases hfound : sessionMut registry id generation with
    | error error => exact .refused
    | ok session =>
      obtain ⟨hlookup, hopened, hgeneration⟩ := sessionMut_eq_ok.mp hfound
      simp only [commitNavigationEvent, hfound, checkedNext]
      by_cases hnext : session.generation < u64Max
      · obtain ⟨after, hpush, hpushed⟩ := pushEvent_of_canPush hlimits
          (hfits url session hurl hfound hnext) (hkept id session hlookup).2
        simp only [hnext, if_true, hpush, settle]
        exact .pushed hpushed (Or.inl ⟨by rw [htarget, hgeneration], hopened, by simp [nextEvent]⟩)
          hlookup hopened rfl rfl rfl rfl rfl
      · simp only [hnext, if_false]
        exact .refused

lemma effect_call (hlimits : policy.limits.validate = .ok policy.limits)
    (hkept : Kept policy.limits registry) (hfits : Fits policy registry op) :
    Effect policy registry op (call policy registry op) := by
  cases op with
  | «open» rawUrl id =>
    rw [call, openSession]
    cases hurl : policy.validateUrl rawUrl with
    | error error => exact .refused
    | ok url =>
      simp only
      split_ifs
      · exact .refused
      · by_cases hpush : CanPush policy.limits ⟨id, 1, .opened, url, "", [], 0, 1, 0⟩ (.opened url)
        · have hempty : Accounted policy.limits ⟨id, 1, .opened, url, "", [], 0, 1, 0⟩ :=
            ⟨rfl, Nat.zero_le _, Nat.zero_le _, .nil, by simp, by simp⟩
          obtain ⟨after, heq, hpushed⟩ := pushEvent_of_canPush hlimits hpush hempty
          rw [heq]
          exact .created hpushed rfl rfl rfl rfl rfl (by simp [nextEvent])
        · obtain ⟨error, heq⟩ := pushEvent_of_not_canPush hpush
          rw [heq]
          exact .refused
  | navigate id generation source rawUrl => exact effect_navigation hlimits hkept rfl hfits
  | callbackNavigation id generation rawUrl => exact effect_navigation hlimits hkept rfl hfits
  | callbackTitle id generation title =>
    rw [call, callbackTitle]
    cases hfound : sessionMut registry id generation with
    | error error => exact .refused
    | ok session =>
      obtain ⟨hlookup, hopened, hgeneration⟩ := sessionMut_eq_ok.mp hfound
      by_cases hpush : CanPush policy.limits
          { session with title := truncateUtf8 title policy.limits.maxTitleBytes }
          (.titleChanged (truncateUtf8 title policy.limits.maxTitleBytes))
      · obtain ⟨after, heq, hpushed⟩ :=
          pushEvent_of_canPush hlimits hpush (hkept id session hlookup).2
        simp only [heq, settle]
        exact .pushed hpushed (Or.inl ⟨by rw [hgeneration]; rfl, hopened, by simp [nextEvent]⟩)
          hlookup hopened rfl rfl rfl rfl rfl
      · -- the event has no room, but the title is the one that the session has
        obtain ⟨error, heq⟩ := pushEvent_of_not_canPush hpush
        simp only [heq, settle]
        rcases hfits session hfound with hsame | hroom
        · rw [← hsame]
          exact .unpushed hlookup
        · exact absurd hroom hpush
  | callbackLoadError id generation message =>
    rw [call, callbackLoadError]
    cases hfound : sessionMut registry id generation with
    | error error => exact .refused
    | ok session =>
      obtain ⟨hlookup, hopened, hgeneration⟩ := sessionMut_eq_ok.mp hfound
      by_cases hpush : CanPush policy.limits session
          (.loadFailed (truncateUtf8 message policy.limits.maxErrorBytes))
      · obtain ⟨after, heq, hpushed⟩ :=
          pushEvent_of_canPush hlimits hpush (hkept id session hlookup).2
        simp only [heq, settle]
        exact .pushed hpushed (Or.inl ⟨by rw [hgeneration]; rfl, hopened, by simp [nextEvent]⟩)
          hlookup hopened rfl rfl rfl rfl rfl
      · obtain ⟨error, heq⟩ := pushEvent_of_not_canPush hpush
        simp only [heq, settle]
        exact .unpushed hlookup
  | close id =>
    rw [call, close]
    cases hlookup : registry.lookup id with
    | none => exact .refused
    | some session =>
      cases hstatus : session.status with
      | closed =>
        simp only [hstatus, reduceCtorEq, if_false]
        exact .closed
      | opened =>
        obtain ⟨after, heq, hpushed⟩ := pushEvent_of_canPush hlimits
          (hfits session hlookup hstatus) (hkept id session hlookup).2
        simp only [hstatus, if_true, heq, settle]
        exact .pushed hpushed (Or.inr ⟨rfl, rfl, rfl⟩) hlookup hstatus rfl rfl rfl rfl rfl
  | drainEvents id maxEvents =>
    rw [call, drainEvents]
    cases hlookup : registry.lookup id with
    | none => exact .refused
    | some session =>
      have haccounted := (hkept id session hlookup).2
      obtain ⟨taken, rest, heq, happend⟩ :=
        drain_spec (min maxEvents policy.limits.maxEventCount) session.events
      rw [← haccounted.bytes] at heq
      have hsuffix : rest <:+ session.events := ⟨taken, happend⟩
      simp only [heq]
      exact .drained hlookup rfl rfl rfl hsuffix (haccounted.suffix hsuffix)

end Effects

lemma atomic_of_effect (h : Effect policy registry op (call policy registry op)) :
    Atomic policy registry op := by
  generalize hcall : call policy registry op = outcome at h
  constructor
  · intro error herror
    rw [hcall] at herror ⊢
    cases h with
    | refused => exact fun _ => rfl
    | unpushed hlookup => exact sameSessions_insert hlookup
    | created | pushed | drained | closed => cases herror
  · intro id generation session htarget hlookup hstale
    rw [hcall]
    cases h with
    | refused => exact ⟨⟨_, rfl⟩, fun _ => rfl⟩
    | unpushed hlookup => exact ⟨⟨_, rfl⟩, sameSessions_insert hlookup⟩
    | created | drained | closed => cases htarget
    | pushed _ haddressed hold hopened =>
      rcases haddressed with ⟨htarget', -⟩ | ⟨rfl, -⟩
      · obtain ⟨rfl, rfl⟩ := Prod.mk.inj (Option.some_inj.mp (htarget.symm.trans htarget'))
        obtain rfl := Option.some_inj.mp (hlookup.symm.trans hold)
        rcases hstale with hclosed | hold'
        · rw [hopened] at hclosed
          cases hclosed
        · exact absurd rfl hold'
      · cases htarget

lemma fits_of_atomic (h : Atomic policy registry op) : Fits policy registry op := by
  have hchanged : ∀ {id : PreviewId} {old changed : SessionState} {error : PreviewErrorCode},
      registry.lookup id = some old → (call policy registry op) =
        ⟨.error error, registry.insert id changed, none⟩ → changed = old := by
    intro id old changed error hlookup hcall
    have hsame := h.failed error (by rw [hcall]) id
    rw [hcall] at hsame
    simp only [AList.lookup_insert, hlookup, Option.some.injEq] at hsame
    exact hsame
  have hnavigation : ∀ {id generation source rawUrl} {reply : PreviewEvent → SessionState → Reply},
      call policy registry op = navigation policy registry id generation source rawUrl reply →
      NavigationFits policy registry id generation source rawUrl := by
    intro id generation source rawUrl reply hcall url session hurl hfound hnext
    by_contra hroom
    obtain ⟨error, heq⟩ := pushEvent_of_not_canPush hroom
    simp only [navigation, hurl, hfound, commitNavigationEvent, checkedNext, hnext, if_true, heq,
      settle] at hcall
    have hsame := congrArg SessionState.generation
      (hchanged (sessionMut_eq_ok.mp hfound).1 hcall)
    simp only at hsame
    omega
  cases op with
  | «open» | drainEvents | callbackLoadError => trivial
  | navigate id generation source rawUrl => exact hnavigation rfl
  | callbackNavigation id generation rawUrl => exact hnavigation rfl
  | callbackTitle id generation title =>
    intro session hfound
    by_cases hroom : CanPush policy.limits
        { session with title := truncateUtf8 title policy.limits.maxTitleBytes }
        (.titleChanged (truncateUtf8 title policy.limits.maxTitleBytes))
    · exact Or.inr hroom
    · obtain ⟨error, heq⟩ := pushEvent_of_not_canPush hroom
      have hcall : call policy registry (.callbackTitle id generation title) =
          ⟨.error error, registry.insert id
            { session with title := truncateUtf8 title policy.limits.maxTitleBytes }, none⟩ := by
        simp only [call, callbackTitle, hfound, heq, settle]
      exact Or.inl (congrArg SessionState.title
        (hchanged (sessionMut_eq_ok.mp hfound).1 hcall)).symm
  | close id =>
    intro session hlookup hopened
    by_contra hroom
    obtain ⟨error, heq⟩ := pushEvent_of_not_canPush hroom
    have hcall : call policy registry (.close id) =
        ⟨.error error, registry.insert id { session with status := .closed }, none⟩ := by
      simp only [call, close, hlookup, hopened, if_true, heq, settle]
    have hsame := congrArg SessionState.status (hchanged hlookup hcall)
    simp only [hopened] at hsame
    cases hsame

/-! ## Runs -/

/-- The sessions, and all the events that were ever queued. -/
structure World where
  registry : Registry
  history : List PreviewEvent

def World.start : World := ⟨∅, []⟩

def World.after (policy : PreviewPolicy) (w : World) (op : Op) : World :=
  ⟨(call policy w.registry op).registry,
    w.history ++ (call policy w.registry op).queued.toList⟩

/-- The events of one session. -/
def World.of (w : World) (id : PreviewId) : List PreviewEvent :=
  w.history.filter fun event => event.sessionId = id

/-- Queues within their budgets, sequences that increase, and nothing behind a closing. -/
structure Sound (limits : PreviewLimits) (w : World) : Prop where
  kept : Kept limits w.registry
  /-- The queue of a session has events that were queued. -/
  queued : ∀ id session, w.registry.lookup id = some session →
    ∀ event ∈ session.events, event ∈ w.history
  /-- The sequences of a session increase. -/
  increasing : ∀ id, ((w.of id).map PreviewEvent.sequence).Pairwise (· < ·)
  /-- Later sequences are still free. -/
  below : ∀ event ∈ w.history, ∃ session, w.registry.lookup event.sessionId = some session ∧
    event.sequence < session.nextSequence
  /-- The last event of a closed session says so, and no other does. -/
  closed : ∀ id session, w.registry.lookup id = some session → session.status = .closed →
    (w.of id).getLast?.map PreviewEvent.kind = some .closed
  opened : ∀ id session, w.registry.lookup id = some session → session.status = .opened →
    ∀ event ∈ w.of id, event.kind ≠ .closed

/-- A call without an event whose sessions are as before, up to the front of a queue. -/
lemma Sound.of_silent {w : World} (h : Sound limits w) {registry : Registry}
    (hsessions : ∀ id session, registry.lookup id = some session →
      ∃ old, w.registry.lookup id = some old ∧ session.id = old.id ∧ session.status = old.status ∧
        session.nextSequence = old.nextSequence ∧ session.events <:+ old.events ∧
        Accounted limits session)
    (hall : ∀ id old, w.registry.lookup id = some old → ∃ session,
      registry.lookup id = some session ∧ session.nextSequence = old.nextSequence) :
    Sound limits ⟨registry, w.history⟩ where
  kept id session hlookup := by
    obtain ⟨old, hold, hid, -, -, -, haccounted⟩ := hsessions id session hlookup
    exact ⟨hid.trans (h.kept id old hold).1, haccounted⟩
  queued id session hlookup event hevent := by
    obtain ⟨old, hold, -, -, -, hsuffix, -⟩ := hsessions id session hlookup
    exact h.queued id old hold event (hsuffix.subset hevent)
  increasing := h.increasing
  below event hevent := by
    obtain ⟨old, hold, hlt⟩ := h.below event hevent
    obtain ⟨session, hlookup, hnext⟩ := hall _ old hold
    exact ⟨session, hlookup, hnext ▸ hlt⟩
  closed id session hlookup hclosed := by
    obtain ⟨old, hold, -, hstatus, -⟩ := hsessions id session hlookup
    exact h.closed id old hold (hstatus ▸ hclosed)
  opened id session hlookup hopened := by
    obtain ⟨old, hold, -, hstatus, -⟩ := hsessions id session hlookup
    exact h.opened id old hold (hstatus ▸ hopened)

lemma Sound.of_pushed {w : World} (h : Sound limits w) {before after : SessionState}
    {event : PreviewEvent} (hpushed : Pushed limits before event after) (hid : before.id = id)
    (howner : event.sessionId = id) (hsequence : event.sequence = before.nextSequence)
    (hbelow : ∀ e ∈ w.of id, e.sequence < before.nextSequence)
    (hqueued : ∀ e ∈ before.events, e ∈ w.history)
    (hopen : ∀ e ∈ w.of id, e.kind ≠ .closed)
    (hstatus : before.status = .opened ∧ event.kind ≠ .closed ∨
      before.status = .closed ∧ event.kind = .closed) :
    Sound limits ⟨w.registry.insert id after, w.history ++ [event]⟩ := by
  have hof : ∀ other, World.of ⟨w.registry.insert id after, w.history ++ [event]⟩ other =
      w.of other ++ if id = other then [event] else [] := by
    intro other
    rw [World.of, World.of, List.filter_append, List.filter_singleton, howner]
    by_cases hsame : id = other <;> simp [hsame]
  have hlookups : ∀ other session,
      (w.registry.insert id after).lookup other = some session →
      other = id ∧ session = after ∨ other ≠ id ∧ w.registry.lookup other = some session := by
    intro other session hlookup
    rw [AssocMap.lookup_insert] at hlookup
    split_ifs at hlookup with hsame
    · exact Or.inl ⟨hsame, (Option.some_inj.mp hlookup).symm⟩
    · exact Or.inr ⟨hsame, hlookup⟩
  constructor
  · intro other session hlookup
    rcases hlookups other session hlookup with ⟨rfl, rfl⟩ | ⟨-, hlookup⟩
    · exact ⟨hpushed.id.trans hid, hpushed.accounted⟩
    · exact h.kept other session hlookup
  · intro other session hlookup e he
    rcases hlookups other session hlookup with ⟨rfl, rfl⟩ | ⟨-, hlookup⟩
    · obtain ⟨rest, hsuffix, hevents⟩ := hpushed.events
      rw [hevents] at he
      rcases List.mem_append.mp he with he | he
      · exact List.mem_append_left _ (hqueued e (hsuffix.subset he))
      · exact List.mem_append_right _ he
    · exact List.mem_append_left _ (h.queued other session hlookup e he)
  · intro other
    rw [hof]
    split_ifs with hsame
    · subst hsame
      rw [List.map_append, List.pairwise_append]
      refine ⟨h.increasing id, by simp, ?_⟩
      intro n hn m hm
      obtain ⟨e, he, rfl⟩ := List.mem_map.mp hn
      obtain rfl : m = event.sequence := by simpa using hm
      rw [hsequence]
      exact hbelow e he
    · rw [List.append_nil]
      exact h.increasing other
  · intro e he
    rcases List.mem_append.mp he with he | he
    · by_cases hsame : e.sessionId = id
      · have hlt := hbelow e (List.mem_filter.mpr ⟨he, decide_eq_true hsame⟩)
        refine ⟨after, by rw [hsame, AList.lookup_insert], ?_⟩
        rw [hpushed.nextSequence]
        omega
      · obtain ⟨session, hlookup, hlt⟩ := h.below e he
        exact ⟨session, by rw [AList.lookup_insert_ne hsame, hlookup], hlt⟩
    · rw [List.mem_singleton.mp he, howner, hsequence]
      exact ⟨after, AList.lookup_insert _, by rw [hpushed.nextSequence]; exact Nat.lt_succ_self _⟩
  · intro other session hlookup hclosed
    rw [hof]
    rcases hlookups other session hlookup with ⟨rfl, rfl⟩ | ⟨hne, hlookup⟩
    · rw [if_pos rfl, List.getLast?_append]
      rcases hstatus with ⟨hopened, -⟩ | ⟨-, hkind⟩
      · rw [hpushed.status, hopened] at hclosed
        cases hclosed
      · simp [hkind]
    · rw [if_neg (Ne.symm hne), List.append_nil]
      exact h.closed other session hlookup hclosed
  · intro other session hlookup hopened e he
    rw [hof] at he
    rcases hlookups other session hlookup with ⟨rfl, rfl⟩ | ⟨hne, hlookup⟩
    · rw [if_pos rfl] at he
      rcases List.mem_append.mp he with he | he
      · exact hopen e he
      · rcases hstatus with ⟨-, hkind⟩ | ⟨hclosed, -⟩
        · rwa [List.mem_singleton.mp he]
        · rw [hpushed.status, hclosed] at hopened
          cases hopened
    · rw [if_neg (Ne.symm hne), List.append_nil] at he
      exact h.opened other session hlookup hopened e he

lemma Sound.after {w : World} (h : Sound policy.limits w) {outcome : Outcome}
    (heffect : Effect policy w.registry op outcome) (hfresh : Fresh w.registry op) :
    Sound policy.limits ⟨outcome.registry, w.history ++ outcome.queued.toList⟩ := by
  cases heffect with
  | refused =>
    rw [Outcome.refused, Option.toList_none, List.append_nil]
    exact h
  | @unpushed _ id session _ hlookup =>
    rw [Option.toList_none, List.append_nil]
    have hsame := sameSessions_insert hlookup
    refine h.of_silent (fun id session hlookup => ?_) fun id old hold => ?_
    · rw [hsame id] at hlookup
      exact ⟨session, hlookup, rfl, rfl, rfl, List.suffix_rfl, (h.kept id session hlookup).2⟩
    · exact ⟨old, by rw [hsame id, hold], rfl⟩
  | @created _ id _ before _ _ hpushed hid hopened hevents howner hsequence hkind =>
    -- nothing was queued under the new identity
    have hnone : ∀ e, e ∉ w.of id := by
      intro e he
      obtain ⟨hmem, hsame⟩ := List.mem_filter.mp he
      obtain ⟨session, hlookup, -⟩ := h.below e hmem
      rw [of_decide_eq_true hsame] at hlookup
      exact absurd (Eq.trans (Eq.symm hfresh) hlookup) (by simp)
    refine h.of_pushed hpushed hid howner hsequence (fun e he => absurd he (hnone e)) ?_
      (fun e he => absurd he (hnone e)) (Or.inl ⟨hopened, hkind⟩)
    rw [hevents]
    intro e he
    cases he
  | @pushed _ id _ old before after event hpushed haddressed hold hopened hid hevents hnext howner
      hsequence =>
    have hkept := h.kept id old hold
    have howned : event.sessionId = id := howner.trans hkept.1
    refine h.of_pushed hpushed (hid.trans hkept.1) howned (by rw [hsequence, hnext]) ?_ ?_ ?_ ?_
    · intro e he
      obtain ⟨hmem, hsame⟩ := List.mem_filter.mp he
      obtain ⟨session, hlookup, hlt⟩ := h.below e hmem
      rw [of_decide_eq_true hsame] at hlookup
      obtain rfl := Option.some_inj.mp (hold.symm.trans hlookup)
      rwa [hnext]
    · rw [hevents]
      exact h.queued id old hold
    · exact h.opened id old hold hopened
    · rcases haddressed with ⟨-, hstatus, hkind⟩ | ⟨-, hstatus, hkind⟩
      · exact Or.inl ⟨hstatus, hkind⟩
      · exact Or.inr ⟨hstatus, hkind⟩
  | @drained id _ _ old after hold hid hstatus hnext hsuffix haccounted =>
    rw [Option.toList_none, List.append_nil]
    refine h.of_silent (fun other session hlookup => ?_) fun other found hfound => ?_
    · rw [AssocMap.lookup_insert] at hlookup
      split_ifs at hlookup with hsame
      · obtain rfl := Option.some_inj.mp hlookup
        exact ⟨old, hsame ▸ hold, hid, hstatus, hnext, hsuffix, haccounted⟩
      · exact ⟨session, hlookup, rfl, rfl, rfl, List.suffix_rfl, (h.kept other session hlookup).2⟩
    · rw [AssocMap.lookup_insert]
      split_ifs with hsame
      · obtain rfl := Option.some_inj.mp ((hsame ▸ hold).symm.trans hfound)
        exact ⟨after, rfl, hnext⟩
      · exact ⟨found, hfound, rfl⟩
  | closed =>
    rw [Option.toList_none, List.append_nil]
    exact h

lemma sound_start : Sound limits World.start where
  kept id session hlookup := by cases hlookup
  queued id session hlookup := by cases hlookup
  increasing _ := List.Pairwise.nil
  below event hevent := by cases hevent
  closed id session hlookup := by cases hlookup
  opened id session hlookup := by cases hlookup

/-- **Calls change all or nothing exactly when every accepted change has room for its event.**  With
accepted limits and new identities for new sessions, all the calls of a run are atomic and all its
states sound if and only if no title, navigation or close is accepted whose event is too large or
has no sequence left (a title that the session has already excepted). -/
theorem calls_allOrNothing_iff (policy : PreviewPolicy)
    (hlimits : policy.limits.validate = .ok policy.limits) (ops : List Op)
    (hfresh : ∀ pre op, pre ++ [op] <+: ops →
      Fresh (pre.foldl (World.after policy) World.start).registry op) :
    ((∀ pre op, pre ++ [op] <+: ops →
        Atomic policy (pre.foldl (World.after policy) World.start).registry op) ∧
      ∀ pre, pre <+: ops → Sound policy.limits (pre.foldl (World.after policy) World.start)) ↔
    ∀ pre op, pre ++ [op] <+: ops →
      Fits policy (pre.foldl (World.after policy) World.start).registry op := by
  constructor
  · rintro ⟨hatomic, -⟩ pre op hpre
    exact fits_of_atomic (hatomic pre op hpre)
  · intro hfits
    have hsound : ∀ pre, pre <+: ops →
        Sound policy.limits (pre.foldl (World.after policy) World.start) := by
      intro pre
      induction pre using List.reverseRecOn with
      | nil => exact fun _ => sound_start
      | append_singleton pre op ih =>
        intro hpre
        have hbefore := ih ((List.prefix_append pre [op]).trans hpre)
        rw [List.foldl_append]
        exact hbefore.after (effect_call hlimits hbefore.kept (hfits pre op hpre))
          (hfresh pre op hpre)
    refine ⟨fun pre op hpre => ?_, hsound⟩
    have hbefore := hsound pre ((List.prefix_append pre [op]).trans hpre)
    exact atomic_of_effect (effect_call hlimits hbefore.kept (hfits pre op hpre))

/-! ## Small budgets -/

/-- A policy with the smallest budget of one event, and a parser that takes every text. -/
def smallPolicy : PreviewPolicy where
  limits := { PreviewLimits.default with maxEventPayloadBytes := 128, maxEventQueueBytes := 128 }
  parse raw := some ⟨"http", some "a", "", none, raw⟩

def firstId : PreviewId := ⟨0, 1⟩

/-- A session that is opened, fails to load and is drained. -/
def failingLoad : List Op :=
  [.open "http://a/" firstId, .callbackLoadError firstId 1 "refused", .drainEvents firstId 8]

theorem calls_allOrNothing_failingLoad :
    Sound smallPolicy.limits (failingLoad.foldl (World.after smallPolicy) World.start) := by
  have hops : ∀ pre op, pre ++ [op] <+: failingLoad →
      op = .open "http://a/" firstId ∧ pre = [] ∨
        op = .callbackLoadError firstId 1 "refused" ∨ op = .drainEvents firstId 8 := by
    intro pre op hpre
    rcases pre with _ | ⟨a, _ | ⟨b, _ | ⟨c, pre⟩⟩⟩ <;>
      simp_all [failingLoad, List.cons_prefix_cons]
  refine ((calls_allOrNothing_iff smallPolicy rfl failingLoad ?_).mpr ?_).2 _ (List.prefix_rfl)
  · intro pre op hpre
    rcases hops pre op hpre with ⟨rfl, rfl⟩ | rfl | rfl
    · exact rfl
    · exact trivial
    · exact trivial
  · intro pre op hpre
    rcases hops pre op hpre with ⟨rfl, -⟩ | rfl | rfl <;> exact trivial

/-- The sessions after the first was opened. -/
def openedRegistry : Registry := (call smallPolicy ∅ (.open "http://a/" firstId)).registry

/-- The title callback fails, and the title is changed. -/
theorem title_changed_by_failed_call :
    smallPolicy.limits.validate = .ok smallPolicy.limits ∧
      (openedRegistry.lookup firstId).map SessionState.title = some "" ∧
      (call smallPolicy openedRegistry (.callbackTitle firstId 1 "A page")).result =
        .error .eventPayloadTooLarge ∧
      ((call smallPolicy openedRegistry (.callbackTitle firstId 1 "A page")).registry.lookup
        firstId).map SessionState.title = some "A page" := by
  refine ⟨rfl, ?_, ?_, ?_⟩ <;> decide +kernel

end JaDesktop.Preview
