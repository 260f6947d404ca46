import Mathlib.Tactic.Push
import JaDesktop.Sidecar.HandshakeConfinement

/-!
# The lifecycle of a handshake generation

What a call of the handshake machine can do to it, whichever of the entry points it enters
through: accept a challenge, publish, fail, stop, restart, or accept and publish in one call.  The
history of a run records the challenges that were accepted and the entries into the ready state,
and every entry of the history is justified by those before it.
-/

namespace JaDesktop.Sidecar

namespace Machine

variable {T : JavaTime} {m m' : Machine}

/-! ## The changes -/

/-- The machine may accept a challenge. -/
structure Admits (m : Machine) (token : ReadyToken) : Prop where
  state_new : m.state = .new
  idle : m.currentToken = none
  unknown : token.value ∉ m.knownTokenValues
  room : m.knownTokenValues.length < maxGenerations

/-- The machine that has accepted a challenge. -/
def accepting (m : Machine) (token : ReadyToken) : Machine :=
  { m with
    knownTokenValues := m.knownTokenValues ++ [token.value]
    currentToken := some token
    state := .initialized }

/-- The machine that has published. -/
def published (m : Machine) : Machine := { m with state := .ready }

/-- What a call other than `restart` can do by one of its parts. -/
inductive Change (m : Machine) : Machine → Prop
  | stay : Change m m
  | fail : Change m m.failGeneration
  | stop : Change m m.shutdown
  | accept (token : ReadyToken) (h : m.Admits token) : Change m (m.accepting token)
  | acceptFail (token : ReadyToken) (h : m.Admits token) :
      Change m (m.accepting token).failGeneration
  | publish (token : ReadyToken) (hstate : m.state = .initialized)
      (htoken : m.currentToken = some token) : Change m m.published

/-! ## The operations -/

lemma acceptInitialized_cases (m : Machine) (notification : RpcNotification T) :
    (∃ token, m.Admits token ∧ m.acceptInitialized notification = (.ok (), m.accepting token)) ∨
      m.acceptInitialized notification = (.error handshakeFailure, m.failGeneration) := by
  unfold acceptInitialized failing
  split
  · rename_i m' h
    simp only [bind_eq_ok, exists_unit, require_eq_ok, decide_eq_true_eq] at h
    obtain ⟨hstate, -, -, token, -, m'', haccept, h⟩ := h
    unfold acceptChallenge at haccept
    split_ifs at haccept with hfree
    cases haccept
    cases h
    simp only [Bool.or_eq_true, decide_eq_true_eq, not_or, Option.not_isSome_iff_eq_none,
      List.contains_eq_mem, not_le] at hfree
    exact Or.inl ⟨token, ⟨hstate, hfree.1.1, hfree.1.2, hfree.2⟩, rfl⟩
  · exact Or.inr rfl

lemma publishReady_cases (m : Machine) (params : RuntimeStatusChangedParams T) :
    (∃ token ready, m.state = .initialized ∧ m.currentToken = some token ∧
      m.publishReady params = (.ok ready, m.published)) ∨
      m.publishReady params = (.error handshakeFailure, m.failGeneration) := by
  unfold publishReady failing
  split
  · rename_i ready m' h
    simp only [bind_eq_ok, exists_unit, require_eq_ok, Bool.and_eq_true, decide_eq_true_eq,
      matchesCurrent, beq_iff_eq] at h
    obtain ⟨hstate, ⟨-, hsome, -⟩, _, -, -, h⟩ := h
    obtain ⟨token, htoken⟩ := Option.isSome_iff_exists.mp hsome
    cases h
    exact Or.inl ⟨token, ready, hstate, htoken, rfl⟩
  · exact Or.inr rfl

lemma publishReadyEvent_cases (m : Machine) (eventId : EventId) (occurredAt : T.Instant) :
    (∃ token ready, m.state = .initialized ∧ m.currentToken = some token ∧
      m.publishReadyEvent eventId occurredAt = (.ok ready, m.published)) ∨
      m.publishReadyEvent eventId occurredAt = (.error handshakeFailure, m.failGeneration) := by
  unfold publishReadyEvent
  split_ifs
  · exact Or.inr rfl
  · split
    · exact Or.inr rfl
    · split
      · exact Or.inr rfl
      · rename_i params _
        rcases publishReady_cases m params with ⟨token, ready, hstate, htoken, h⟩ | h
        · rw [h]
          exact Or.inl ⟨token, ready, hstate, htoken, rfl⟩
        · rw [h]
          exact Or.inr rfl

lemma change_mapThrown {α : Type} (m : Machine) (e : Thrown) :
    Change m (m.mapThrown (α := α) e).2 := by
  cases e with
  | protocol code =>
    simp only [mapThrown]
    split_ifs
    · exact .fail
    · exact .stay
  | runtime => exact .stay

/-- A check that leaves the machine alone, with the mapping of what it throws. -/
lemma change_checked {α : Type} (m : Machine) (check : Except Thrown Unit) (a : α) :
    Change m (match check with
      | .ok () => ((.ok a, m) : Except Thrown α × Machine)
      | .error e => m.mapThrown e).2 := by
  split
  · exact .stay
  · exact change_mapThrown m _

lemma change_acceptInitializedParams (m : Machine) (params : ObjectNode) :
    Change m (acceptInitializedParams T m params).2 := by
  unfold acceptInitializedParams
  split
  · exact .fail
  · rename_i notification _
    rcases acceptInitialized_cases m notification with ⟨token, hadmits, h⟩ | h
    · rw [h]
      exact .accept token hadmits
    · rw [h]
      exact .fail

lemma change_admitInbound (m : Machine) (envelope : RpcEnvelope T) :
    Change m (m.admitInbound envelope).2 := by
  unfold admitInbound
  split
  · rename_i notification
    split_ifs
    · rcases acceptInitialized_cases m notification with ⟨token, hadmits, h⟩ | h
      · rw [h]
        exact .accept token hadmits
      · rw [h]
        exact .fail
    · split
      · exact change_mapThrown m _
      · split_ifs
        · exact change_mapThrown m _
        · exact .stop
        · exact .stay
    · exact change_checked m m.requireReady _
  · split_ifs
    · exact .stay
    · exact change_checked m m.requireReady _

/-- **What a call can do**: it restarts the machine into a larger generation, accepts a challenge
and publishes, or does one of the changes. -/
theorem after_cases (m : Machine) (call : Call T) :
    (∃ generation id, call = .restart generation id ∧ m.generation < generation ∧
      m.after call = { m with
        serverInstanceId := id, generation := generation, state := .new, currentToken := none }) ∨
    (∃ notification eventId occurredAt token,
      call = .acceptInitializedAndPublishReady notification eventId occurredAt ∧
      m.Admits token ∧ m.acceptInitialized notification = (.ok (), m.accepting token) ∧
      m.after call = (m.accepting token).published) ∨
    Change m (m.after call) := by
  cases call with
  | acceptInitialized notification =>
    rw [after]
    rcases acceptInitialized_cases m notification with ⟨token, hadmits, h⟩ | h <;> rw [h]
    · exact Or.inr (Or.inr (.accept token hadmits))
    · exact Or.inr (Or.inr .fail)
  | acceptInitializedParams params => exact Or.inr (Or.inr (change_acceptInitializedParams m params))
  | publishReady params =>
    rw [after]
    rcases publishReady_cases m params with ⟨token, ready, hstate, htoken, h⟩ | h <;> rw [h]
    · exact Or.inr (Or.inr (.publish token hstate htoken))
    · exact Or.inr (Or.inr .fail)
  | publishReadyEvent eventId occurredAt =>
    rw [after]
    rcases publishReadyEvent_cases m eventId occurredAt with
      ⟨token, ready, hstate, htoken, h⟩ | h <;> rw [h]
    · exact Or.inr (Or.inr (.publish token hstate htoken))
    · exact Or.inr (Or.inr .fail)
  | acceptInitializedAndPublishReady notification eventId occurredAt =>
    simp only [after, acceptInitializedAndPublishReady]
    rcases acceptInitialized_cases m notification with ⟨token, hadmits, h⟩ | h
    · simp only [h]
      rcases publishReadyEvent_cases (m.accepting token) eventId occurredAt with
        ⟨_, ready, -, -, h'⟩ | h' <;> rw [h']
      · exact Or.inr (Or.inl ⟨notification, eventId, occurredAt, token, rfl, hadmits, h, rfl⟩)
      · exact Or.inr (Or.inr (.acceptFail token hadmits))
    · simp only [h]
      exact Or.inr (Or.inr .fail)
  | acceptInbound envelope =>
    simp only [after, acceptInbound]
    split
    · exact Or.inr (Or.inr (change_mapThrown m _))
    · exact Or.inr (Or.inr (change_admitInbound m envelope))
  | validateRawFrame document direction =>
    simp only [after, validateRawFrame]
    split
    · exact Or.inr (Or.inr .stay)
    · split_ifs
      · exact Or.inr (Or.inr .fail)
      · exact Or.inr (Or.inr .stay)
    · exact Or.inr (Or.inr .fail)
  | validateOutboundFrame envelope =>
    simp only [after, validateOutboundFrame]
    split
    · split_ifs
      · exact Or.inr (Or.inr .fail)
      · exact Or.inr (Or.inr (change_checked m (m.validateEnvelope _) ()))
    · exact Or.inr (Or.inr (change_checked m (m.validateEnvelope _) ()))
  | shutdown => exact Or.inr (Or.inr .stop)
  | restart generation id =>
    simp only [after, restart]
    split_ifs with hle
    · exact Or.inr (Or.inr .stay)
    · exact Or.inl ⟨generation, id, rfl, Int.not_le.mp hle, rfl⟩

end Machine

/-! ## The history -/

/-- The machine has remembered a challenge, or has entered the ready state. -/
inductive HandshakeEvent
  | accepted (generation : ℤ) (token : JavaString)
  | ready (generation : ℤ) (token : Option JavaString)
deriving DecidableEq

/-- What is seen of a machine that has changed. -/
def observed (m m' : Machine) : List HandshakeEvent :=
  (m'.knownTokenValues.drop m.knownTokenValues.length).map (.accepted m'.generation) ++
    if m.state ≠ .ready ∧ m'.state = .ready then
      [.ready m'.generation (m'.currentToken.map ReadyToken.value)]
    else []

/-- A machine and its history. -/
structure HandshakeRun where
  machine : Machine
  history : List HandshakeEvent

/-- A challenge is new, and the ready state is entered once in a generation, with a challenge that
the generation has accepted. -/
def EventAllowed (past : List HandshakeEvent) : HandshakeEvent → Prop
  | .accepted _ token => ∀ generation, .accepted generation token ∉ past
  | .ready generation token =>
    (∃ value, token = some value ∧ .accepted generation value ∈ past) ∧
      ∀ other, .ready generation other ∉ past

namespace HandshakeRun

variable {T : JavaTime} {s s' : HandshakeRun}

/-- A call, and what is seen of it. -/
def Step (s : HandshakeRun) (call : Machine.Call T) (s' : HandshakeRun) : Prop :=
  s' = ⟨s.machine.after call, s.history ++ observed s.machine (s.machine.after call)⟩

/-- A run from a fresh machine. -/
def Reachable (T : JavaTime) (s : HandshakeRun) : Prop :=
  ∃ id generation m₀, Machine.create id generation = .ok m₀ ∧
    ∃ calls : List (Machine.Call T), Run Step ⟨m₀, []⟩ calls s

/-- The invariant of the history. -/
structure Recorded (s : HandshakeRun) : Prop where
  justified : Justified EventAllowed s.history
  known : ∀ generation token, .accepted generation token ∈ s.history →
    token ∈ s.machine.knownTokenValues
  current : ∀ token, s.machine.currentToken = some token →
    .accepted s.machine.generation token.value ∈ s.history
  older : ∀ generation token, .ready generation token ∈ s.history →
    generation ≤ s.machine.generation
  unready : s.machine.state = .new ∨ s.machine.state = .initialized →
    ∀ token, .ready s.machine.generation token ∉ s.history
  known_le : s.machine.knownTokenValues.length ≤ maxGenerations

section Recorded

variable {m : Machine} {history : List HandshakeEvent}

section

variable (h : Recorded ⟨m, history⟩)
include h

lemma Recorded.settle {m' : Machine}
    (hknown : m'.knownTokenValues = m.knownTokenValues) (hgeneration : m'.generation = m.generation)
    (hcurrent : m'.currentToken = m.currentToken ∨ m'.currentToken = none)
    (hstate : m'.state ≠ .new ∧ m'.state ≠ .initialized) : Recorded ⟨m', history⟩ where
  justified := h.justified
  known := fun generation token hmem => hknown ▸ h.known generation token hmem
  current := fun token htoken => by
    rcases hcurrent with heq | heq
    · exact hgeneration ▸ h.current token (heq ▸ htoken)
    · rw [heq] at htoken
      cases htoken
  older := fun generation token hmem => hgeneration ▸ h.older generation token hmem
  unready := fun hopen => absurd hopen (not_or.mpr hstate)
  known_le := hknown ▸ h.known_le

lemma Recorded.accept {token : ReadyToken} (hadmits : m.Admits token) :
    Recorded ⟨m.accepting token, history ++ [.accepted m.generation token.value]⟩ where
  justified := h.justified.snoc fun generation hmem =>
    hadmits.unknown (h.known generation token.value hmem)
  known := by
    intro generation value hmem
    rcases List.mem_append.mp hmem with hmem | hmem
    · exact List.mem_append_left _ (h.known generation value hmem)
    · cases List.mem_singleton.mp hmem
      exact List.mem_append_right _ (List.mem_singleton.mpr rfl)
  current := by
    rintro _ ⟨⟩
    exact List.mem_append_right _ (List.mem_singleton.mpr rfl)
  older := by
    intro generation value hmem
    refine h.older generation value ?_
    simpa using hmem
  unready := by
    intro _ value hmem
    have hmem' : .ready m.generation value ∈ history ++ [.accepted m.generation token.value] := hmem
    refine h.unready (Or.inl hadmits.state_new) value ?_
    simpa using hmem'
  known_le := by
    have hlen : (m.accepting token).knownTokenValues.length = m.knownTokenValues.length + 1 := by
      simp [Machine.accepting]
    rw [hlen]
    exact hadmits.room

lemma Recorded.publish {token : ReadyToken}
    (hstate : m.state = .initialized) (htoken : m.currentToken = some token) :
    Recorded ⟨m.published, history ++ [.ready m.generation (some token.value)]⟩ where
  justified := h.justified.snoc ⟨⟨token.value, rfl, h.current token htoken⟩,
    h.unready (Or.inr hstate)⟩
  known := by
    intro generation value hmem
    refine h.known generation value ?_
    simpa using hmem
  current := fun other hother => List.mem_append_left _ (h.current other hother)
  older := by
    intro generation value hmem
    rcases List.mem_append.mp hmem with hmem | hmem
    · exact h.older generation value hmem
    · cases List.mem_singleton.mp hmem
      exact Int.le_refl _
  unready := by
    -- the machine is ready now
    rintro (hstate' | hstate') <;> cases hstate'
  known_le := h.known_le

lemma Recorded.restart {generation : ℤ}
    (hlt : m.generation < generation) (id : ServerInstanceId) : Recorded ⟨{ m with
      serverInstanceId := id, generation := generation, state := .new, currentToken := none },
      history⟩ where
  __ := h
  current := by rintro _ ⟨⟩
  older := fun other token hmem => Int.le_trans (h.older other token hmem) (Int.le_of_lt hlt)
  unready := fun _ token hmem => absurd (h.older generation token hmem) (Int.not_le.mpr hlt)

end

end Recorded

/-- **Every call keeps the record.** -/
theorem Recorded.step (h : Recorded s) {call : Machine.Call T} (hstep : Step s call s') :
    Recorded s' := by
  obtain ⟨m, history⟩ := s
  subst hstep
  rcases m.after_cases call with ⟨generation, id, -, hlt, hafter⟩ |
    ⟨_, _, _, token, -, hadmits, -, hafter⟩ | hchange
  · -- a restart forgets no challenge, so nothing new is seen
    have hseen : observed m (m.after call) = [] := by simp [hafter, observed]
    rw [hseen, hafter, List.append_nil]
    exact h.restart hlt id
  · -- one call takes both steps, through a state that nobody sees
    have hseen : observed m (m.after call) =
        [.accepted m.generation token.value] ++ [.ready m.generation (some token.value)] := by
      simp [hafter, observed, Machine.accepting, Machine.published, hadmits.state_new]
    rw [hseen, hafter, ← List.append_assoc]
    exact (h.accept hadmits).publish rfl rfl
  · generalize m.after call = m' at hchange ⊢
    cases hchange with
    | stay =>
      have hseen : observed m m = [] := by simp [observed]
      rw [hseen, List.append_nil]
      exact h
    | fail =>
      have hseen : observed m m.failGeneration = [] := by simp [observed, Machine.failGeneration]
      rw [hseen, List.append_nil]
      exact h.settle rfl rfl (Or.inl rfl) ⟨by simp [Machine.failGeneration],
        by simp [Machine.failGeneration]⟩
    | stop =>
      have hseen : observed m m.shutdown = [] := by simp [observed, Machine.shutdown]
      rw [hseen, List.append_nil]
      exact h.settle rfl rfl (Or.inr rfl) ⟨by simp [Machine.shutdown], by simp [Machine.shutdown]⟩
    | accept token hadmits =>
      have hseen : observed m (m.accepting token) = [.accepted m.generation token.value] := by
        simp [observed, Machine.accepting]
      rw [hseen]
      exact h.accept hadmits
    | acceptFail token hadmits =>
      -- the challenge is remembered although the generation fails
      have hseen : observed m (m.accepting token).failGeneration =
          [.accepted m.generation token.value] := by
        simp [observed, Machine.accepting, Machine.failGeneration]
      rw [hseen]
      exact (h.accept hadmits).settle rfl rfl (Or.inl rfl) ⟨by simp [Machine.failGeneration],
        by simp [Machine.failGeneration]⟩
    | publish token hstate htoken =>
      have hseen : observed m m.published = [.ready m.generation (some token.value)] := by
        simp [observed, Machine.published, hstate, htoken]
      rw [hseen]
      exact h.publish hstate htoken

theorem recorded_of_reachable (h : Reachable T s) : Recorded s := by
  obtain ⟨id, generation, m₀, hcreate, calls, hrun⟩ := h
  refine hrun.stateInvariant ?_ fun hs hstep => hs.step hstep
  -- a fresh machine knows no challenge and has no history
  unfold Machine.create at hcreate
  split_ifs at hcreate
  cases hcreate
  exact ⟨.nil, by simp, by rintro _ ⟨⟩, by simp, by simp, Nat.zero_le _⟩

end HandshakeRun

/-! ## What the machine admits -/

namespace Machine

variable {T : JavaTime} {m : Machine}

/-- The request of the host that comes before the handshake. -/
def IsInitializeRequest : RpcEnvelope T → Prop
  | .request request => request.direction = .clientToServer ∧ request.method = java "initialize"
  | _ => False

/-- The notification with the challenge. -/
def IsInitialized : RpcEnvelope T → Prop
  | .notification notification => notification.method = java "initialized"
  | _ => False

/-- A status event other than the ready event. -/
def IsStatusReport : RpcEnvelope T → Prop
  | .notification notification => notification.method = java "runtime/statusChanged" ∧
    ∃ status, RuntimeStatusChangedParams.fromJson T (some (.object notification.params)) =
      .ok status ∧ status.status ≠ .ready
  | _ => False

lemma requireReady_error (hstate : m.state ≠ .ready) : ∃ e, m.requireReady = .error e := by
  unfold requireReady
  split
  · exact absurd (by assumption) hstate
  · exact ⟨_, rfl⟩
  · exact ⟨_, rfl⟩
  · exact ⟨_, rfl⟩

lemma mapThrown_error {α : Type} (m : Machine) (e : Thrown) :
    ∃ e', (m.mapThrown (α := α) e).1 = .error e' := by
  unfold mapThrown
  split
  · split_ifs
    · exact ⟨_, rfl⟩
    · exact ⟨_, rfl⟩
  · exact ⟨_, rfl⟩

/-- **What comes in before the ready state**: the first request, the challenge, and status
events. -/
theorem acceptInbound_unready (hstate : m.state ≠ .ready) {envelope admitted : RpcEnvelope T}
    (h : (m.acceptInbound envelope).1 = .ok admitted) :
    admitted = envelope ∧ (m.state = .new ∧ IsInitializeRequest envelope ∨
      m.state = .new ∧ IsInitialized envelope ∨ IsStatusReport envelope) := by
  have hthrown : ∀ e, (m.mapThrown e).1 ≠ (.ok admitted : Except Thrown (RpcEnvelope T)) := by
    intro e heq
    obtain ⟨e', he'⟩ := mapThrown_error (α := RpcEnvelope T) m e
    rw [he'] at heq
    cases heq
  obtain ⟨thrown, hready⟩ := requireReady_error hstate
  unfold acceptInbound at h
  split at h
  · exact absurd h (hthrown _)
  · unfold admitInbound at h
    split at h
    · rename_i notification _
      split_ifs at h with hinit hstatus
      · rcases acceptInitialized_cases m notification with ⟨token, hadmits, hok⟩ | herror
        · rw [hok] at h
          cases h
          exact ⟨rfl, Or.inr (Or.inl ⟨hadmits.state_new, hinit⟩)⟩
        · rw [herror] at h
          cases h
      · split at h
        · exact absurd h (hthrown _)
        · rename_i status hfrom
          split_ifs at h with hready' hstopped
          · exact absurd h (hthrown _)
          · cases h
            exact ⟨rfl, Or.inr (Or.inr ⟨hstatus, status, hfrom, hready'⟩)⟩
          · cases h
            exact ⟨rfl, Or.inr (Or.inr ⟨hstatus, status, hfrom, hready'⟩)⟩
      · rw [hready] at h
        exact absurd h (hthrown _)
    · split_ifs at h with hpre
      · cases h
        refine ⟨rfl, Or.inl ?_⟩
        unfold isPreReadyInitialize at hpre
        split at hpre
        · simp only [Bool.and_eq_true, decide_eq_true_eq] at hpre
          exact ⟨hpre.1.1, hpre.1.2, hpre.2⟩
        · cases hpre
      · rw [hready] at h
        exact absurd h (hthrown _)

lemma Change.ended {m' : Machine} (h : Change m m')
    (hended : m.state = .failed ∨ m.state = .stopped) :
    m'.state = .failed ∨ m'.state = .stopped := by
  have hnot : ∀ state, m.state = state → state = .failed ∨ state = .stopped := fun _ heq =>
    heq ▸ hended
  cases h with
  | stay => exact hended
  | fail => exact Or.inl rfl
  | stop => exact Or.inr rfl
  | accept token h => exact absurd (hnot _ h.state_new) (by simp)
  | acceptFail token h => exact Or.inl rfl
  | publish token hstate htoken => exact absurd (hnot _ hstate) (by simp)

lemma Change.generation {m' : Machine} (h : Change m m') : m'.generation = m.generation := by
  cases h <;> rfl

lemma Change.ready {m' : Machine} (h : Change m m') (hstate : m.state ≠ .ready)
    (hready : m'.state = .ready) : m.state = .initialized := by
  cases h with
  | stay => exact absurd hready hstate
  | publish token hstate htoken => exact hstate
  | _ => cases hready

end Machine

namespace HandshakeRun

variable {T : JavaTime} {s : HandshakeRun}

/-- **The handshake machine** after any sequence of calls: challenges and entries into the ready
state are justified by the history, at most 1024 challenges are remembered, the generation never
decreases, the failed and stopped states are left for good states by `restart` only, the ready
state is entered from the initialized one, and before it only the first request, the challenge
and status events come in. -/
theorem handshake_lifecycle (h : Reachable T s) :
    Justified EventAllowed s.history ∧ s.machine.knownTokenValues.length ≤ 1024 ∧
    (∀ call : Machine.Call T,
      s.machine.generation ≤ (s.machine.after call).generation ∧
      (s.machine.state = .failed ∨ s.machine.state = .stopped →
        ((s.machine.after call).state = .failed ∨ (s.machine.after call).state = .stopped) ∨
        ∃ generation id, call = .restart generation id ∧ s.machine.generation < generation ∧
          (s.machine.after call).generation = generation) ∧
      (s.machine.state ≠ .ready → (s.machine.after call).state = .ready →
        s.machine.state = .initialized ∨
        ∃ notification eventId occurredAt m',
          call = .acceptInitializedAndPublishReady notification eventId occurredAt ∧
          s.machine.acceptInitialized notification = (.ok (), m') ∧ m'.state = .initialized ∧
          s.machine.after call = (m'.publishReadyEvent eventId occurredAt).2)) ∧
    ∀ envelope admitted : RpcEnvelope T, s.machine.state ≠ .ready →
      (s.machine.acceptInbound envelope).1 = .ok admitted →
      admitted = envelope ∧ (s.machine.state = .new ∧ Machine.IsInitializeRequest envelope ∨
        s.machine.state = .new ∧ Machine.IsInitialized envelope ∨
        Machine.IsStatusReport envelope) := by
  have hrecorded := recorded_of_reachable h
  refine ⟨hrecorded.justified, hrecorded.known_le, fun call => ?_,
    fun envelope admitted hstate => Machine.acceptInbound_unready hstate⟩
  rcases s.machine.after_cases call with ⟨generation, id, hcall, hlt, hafter⟩ |
    ⟨notification, eventId, occurredAt, token, hcall, hadmits, haccept, hafter⟩ | hchange
  · refine ⟨?_, fun _ => Or.inr ⟨generation, id, hcall, hlt, ?_⟩, fun _ hready => ?_⟩
    · rw [hafter]
      exact Int.le_of_lt hlt
    · rw [hafter]
    · rw [hafter] at hready
      cases hready
  · refine ⟨?_, fun hended => ?_, fun _ _ => Or.inr ⟨notification, eventId, occurredAt, _, hcall,
      haccept, rfl, ?_⟩⟩
    · rw [hafter]
      exact Int.le_refl _
    · rw [hadmits.state_new] at hended
      simp at hended
    · rw [hcall]
      simp only [Machine.after, Machine.acceptInitializedAndPublishReady, haccept]
  · exact ⟨Int.le_of_eq hchange.generation.symm, fun hended => Or.inl (hchange.ended hended),
      fun hstate hready => Or.inl (hchange.ready hstate hready)⟩

/-- A clock that stands still. -/
def stillTime : JavaTime := ⟨Unit, fun _ => some (), fun _ => java "1970-01-01T00:00:00Z"⟩

/-- A fresh machine. -/
def freshMachine : Machine := ⟨⟨java "srv_1", rfl⟩, [], 1, .new, none⟩

/-- The lifecycle of a fresh machine that is shut down. -/
theorem handshake_lifecycle_stopped :
    ∃ s, Reachable stillTime s ∧ s.machine.state = .stopped ∧
      Justified EventAllowed s.history ∧ s.machine.knownTokenValues.length ≤ 1024 := by
  have hreachable : Reachable stillTime ⟨freshMachine.shutdown, []⟩ :=
    ⟨_, 1, freshMachine, rfl, [.shutdown], .snoc .nil rfl⟩
  obtain ⟨hjustified, hknown, -⟩ := handshake_lifecycle hreachable
  exact ⟨_, hreachable, rfl, hjustified, hknown⟩

/-- The parameters of a status event. -/
def startingParams : ObjectNode :=
  [(java "serverInstanceId", .string (java "srv_1")), (java "eventId", .string (java "evt_1")),
   (java "occurredAt", .string (java "now")), (java "status", .string (java "starting"))]

/-- A status event. -/
def startingEvent : RpcNotification stillTime where
  method := java "runtime/statusChanged"
  params := startingParams
  direction := .serverToClient
  extensions := []
  checked := by decide +kernel

/-- **A status event before the handshake**: a fresh machine lets it in, though it is neither the
first request nor the challenge; and a failed machine can still be stopped. -/
theorem statusEvent_admitted :
    freshMachine.state = .new ∧
    (freshMachine.acceptInbound (.notification startingEvent)).1 =
      .ok (.notification startingEvent) ∧
    ¬ Machine.IsInitializeRequest (.notification startingEvent) ∧
    ¬ Machine.IsInitialized (.notification startingEvent) ∧
    freshMachine.failGeneration.state = .failed ∧
    freshMachine.failGeneration.shutdown.state = .stopped := by
  have hinit : startingEvent.method ≠ java "initialized" := by decide +kernel
  have hvalid : freshMachine.validateEnvelope (.notification startingEvent) = .ok () := by
    decide +kernel
  have hread : (RuntimeStatusChangedParams.fromJson stillTime
      (some (.object startingEvent.params))).map (·.status) = .ok .starting := by
    decide +kernel
  obtain ⟨status, hstatus, hstarting⟩ := map_eq_ok.mp hread
  refine ⟨rfl, ?_, id, hinit, rfl, rfl⟩
  have hmethod : startingEvent.method = java "runtime/statusChanged" := rfl
  rw [Machine.acceptInbound, hvalid]
  simp only [Machine.admitInbound, if_neg hinit, if_pos hmethod, hstatus]
  simp [hstarting]

end HandshakeRun

end JaDesktop.Sidecar
