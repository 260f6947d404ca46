import Mathlib.Logic.Function.Basic
import JaDesktop.Host.Events
import JaDesktop.Host.PendingOnce

/-!
# Requests and the end of the session

`Session::request_inner` tests the closed flag, registers its waiter and hands its frame to the
writer in separate critical sections, while `fail_closed` sets the flag and later drains the
registry.  The two tests of the flag inside `WriterHandle::send` are what keeps the two from
missing each other: a frame is enqueued only if the flag was down at the second test, and then the
registry is drained after the registration; a call that finds the flag up cancels its own waiter.

Each call has a number of its own.  The calls of `fail_closed` on the error paths are not tied to
the call that makes them: the session may be closed by anyone at any time.
-/

namespace JaDesktop.Host

/-! ## Identifiers -/

def maxOutboundRequestLedger : ℕ := 8192

structure OutboundRequestLedger where
  seen : List String
  next : ℕ

/-- `OutboundRequestLedger::allocate`. -/
def OutboundRequestLedger.allocate (ledger : OutboundRequestLedger) :
    Except AgentProcessError String × OutboundRequestLedger :=
  if maxOutboundRequestLedger ≤ ledger.seen.length then (.error .requestLedgerExhausted, ledger)
  else
    let number := ledger.next
    if 2 ^ 64 ≤ number + 1 then (.error .requestLedgerExhausted, ledger)
    else
      let id := s!"c:rpc-{number}"
      if ledger.seen.contains id then
        (.error .requestLedgerExhausted, { ledger with next := number + 1 })
      else (.ok id, ⟨id :: ledger.seen, number + 1⟩)

/-- The lane of the writer for a request. -/
def requestPriority (method : String) : EventPriority :=
  if method = "shutdown" || startsWith "runtime/" method then .control else .data

/-! ## The system -/

/-- How far `WriterHandle::send` and what follows it got, for a registered request. -/
inductive SendStage
  | registered
  | admitted
  | reserved
  | verified
  | enqueued
  | failed (error : AgentProcessError)
  | cancelled (error : AgentProcessError)

/-- A registered request: its identifier, the channel of its waiter, its lane. -/
structure Outgoing where
  id : String
  channel : ℕ
  priority : EventPriority

/-- Where a call of `request_inner` stands. -/
inductive RequestCall
  | idle
  | checked (method : String) (params : Value)
  | allocated (id : String) (priority : EventPriority)
  | refused (error : AgentProcessError)
  | sending (stage : SendStage) (outgoing : Outgoing)

/-- Where the one run of the body of `fail_closed` stands. -/
inductive ClosingStage
  | unclosed
  | swapped
  | writerClosed
  | eventsClosed
  | notified
  | done
deriving DecidableEq

/-- The shared state and the calls. -/
structure RequestState where
  pending : PendingHistory
  ledger : OutboundRequestLedger
  closed : Bool
  closing : ClosingStage
  calls : ℕ → RequestCall

/-- What `try_send` may answer. -/
inductive TrySend
  | sent
  | full
  | disconnected

/-- The steps of one call. -/
inductive CallStep
  /-- The test of the closed flag. -/
  | start (method : String) (params : Value)
  /-- A forbidden token in the parameters. -/
  | refuse
  /-- An identifier is allocated, and the frame is built and encoded. -/
  | allocate
  | register (deadline : ℕ)
  /-- `WriterHandle::send`: a test of the flag, the reservation of bytes, another test of the
  flag, and `try_send`. -/
  | firstCheck
  | reserve (granted : Bool)
  | secondCheck
  | trySend (answer : TrySend)
  /-- The cancellation after a failed send. -/
  | cancel

/-- The atomic steps of the system: of a call, of the reader that resolves a response, of a waiter
that expires what is overdue, of a thread that enters `fail_closed`, and of its body. -/
inductive RequestAction
  | call (call : ℕ) (step : CallStep)
  | resolve (frame : RpcFrame)
  | expire (order : List String) (now : ℕ)
  | failClosed
  | closeNext (order : List String)

/-- The errors after which `handle_writer_error` closes the session. -/
def closesSession : AgentProcessError → Bool
  | .queueFull .control | .queueClosed _ => true
  | _ => false

/-- The kind of the queue that a lane uses. -/
def EventPriority.kind : EventPriority → QueueKind
  | .control => .control
  | .data => .data

namespace RequestState

/-- A new session. -/
def initial (r : PendingRegistry) : RequestState :=
  ⟨⟨r, 0, []⟩, ⟨[], 1⟩, false, .unclosed, fun _ => .idle⟩

/-- Move a call. -/
def goto (s : RequestState) (call : ℕ) (next : RequestCall) : RequestState :=
  { s with calls := Function.update s.calls call next }

/-- The next step of a call. -/
def advance (S : SerdeJson) (maxFrameBytes : ℕ) (s : RequestState) (call : ℕ) :
    CallStep → RequestCall → Option RequestState
  | .start method params, .idle =>
    if s.closed then some (s.goto call (.refused .sessionClosed))
    else some (s.goto call (.checked method params))
  | .refuse, .checked _ _ => some (s.goto call (.refused .handshakeFailed))
  | .allocate, .checked method params =>
    let (outcome, ledger) := s.ledger.allocate
    let s := { s with ledger := ledger }
    match outcome with
    | .error error => some (s.goto call (.refused error))
    | .ok id =>
      match (RpcFrame.clientRequest id method params).bind (·.encode S maxFrameBytes) with
      | .error error => some (s.goto call (.refused (.codec error)))
      | .ok _ => some (s.goto call (.allocated id (requestPriority method)))
  | .register deadline, .allocated id priority =>
    match s.pending.registry.register id deadline s.pending.channels with
    | .error .duplicateRequest => some (s.goto call (.refused .duplicateRequest))
    | .error .limitReached => some (s.goto call (.refused .pendingLimit))
    | .ok _ =>
      some ({ s with pending := s.pending.after (.register id deadline) }.goto call
        (.sending .registered ⟨id, s.pending.channels, priority⟩))
  | .firstCheck, .sending .registered outgoing =>
    if s.closed then some (s.goto call (.sending (.failed .sessionClosed) outgoing))
    else some (s.goto call (.sending .admitted outgoing))
  | .reserve granted, .sending .admitted outgoing =>
    if granted then some (s.goto call (.sending .reserved outgoing))
    else some (s.goto call (.sending (.failed (.queueFull outgoing.priority.kind)) outgoing))
  | .secondCheck, .sending .reserved outgoing =>
    if s.closed then some (s.goto call (.sending (.failed .sessionClosed) outgoing))
    else some (s.goto call (.sending .verified outgoing))
  | .trySend .sent, .sending .verified outgoing =>
    some (s.goto call (.sending .enqueued outgoing))
  | .trySend .full, .sending .verified outgoing =>
    some (s.goto call (.sending (.failed (.queueFull outgoing.priority.kind)) outgoing))
  | .trySend .disconnected, .sending .verified outgoing =>
    some (s.goto call (.sending (.failed (.queueClosed outgoing.priority.kind)) outgoing))
  | .cancel, .sending (.failed error) outgoing =>
    -- `fail_closed` returns only after its body is done
    if closesSession error && s.closing ≠ .done then none
    else some ({ s with pending := s.pending.after (.cancel outgoing.id) }.goto call
      (.sending (.cancelled error) outgoing))
  | _, _ => none

/-- The next step of the body of `fail_closed`, in its order. -/
def closeNext (s : RequestState) (order : List String) : Option RequestState :=
  match s.closing with
  | .unclosed | .done => none
  | .swapped => some { s with closed := true, closing := .writerClosed }
  | .writerClosed => some { s with closing := .eventsClosed }
  | .eventsClosed => some { s with closing := .notified }
  | .notified => some { s with closing := .done, pending := s.pending.after (.close order) }

/-- The state after an action, when the action is possible. -/
def after (S : SerdeJson) (maxFrameBytes : ℕ) (s : RequestState) :
    RequestAction → Option RequestState
  | .call call step => s.advance S maxFrameBytes call step (s.calls call)
  | .resolve frame => some { s with pending := s.pending.after (.resolve frame) }
  | .expire order now => some { s with pending := s.pending.after (.expire order now) }
  | .failClosed =>
    if s.closed then some s else some { s with closed := true, closing := .swapped }
  | .closeNext order => s.closeNext order

/-- The map of pending requests iterates over its keys. -/
def Iterates (s : RequestState) : RequestAction → Prop
  | .expire order now => s.pending.Iterates (.expire order now)
  | .closeNext order => s.pending.Iterates (.close order)
  | _ => True

/-- One action, as a step of the system. -/
def Step (S : SerdeJson) (maxFrameBytes : ℕ) (s : RequestState) (action : RequestAction)
    (s' : RequestState) : Prop :=
  s.Iterates action ∧ s.after S maxFrameBytes action = some s'

/-- A state that some sequence of actions produces from a new session. -/
def Reachable (S : SerdeJson) (maxFrameBytes : ℕ) (s : RequestState) : Prop :=
  ∃ maxActive maxTombstones r actions,
    PendingRegistry.new maxActive maxTombstones = .ok r ∧
      Run (Step S maxFrameBytes) (initial r) actions s

/-! ## The invariant -/

/-- The invariant: waiters belong to calls, a call whose frame passed the second test of the flag
does not wait once the registry was drained, and a call that gave up does not wait. -/
structure Valid (s : RequestState) : Prop where
  pending : s.pending.Valid
  answers : ∀ channel sent, .effect (.completed channel sent) ∈ s.pending.log →
    PendingHistory.Answer sent
  flag : s.closed = true ↔ s.closing ≠ .unclosed
  owned : ∀ id channel, PendingHistory.Waits s.pending.registry id channel →
    ∃ call stage outgoing, s.calls call = .sending stage outgoing ∧ outgoing.id = id ∧
      outgoing.channel = channel
  logged : ∀ call stage outgoing, s.calls call = .sending stage outgoing →
    .registered outgoing.id outgoing.channel ∈ s.pending.log
  drained : s.closing = .done → ∀ call outgoing,
    (s.calls call = .sending .verified outgoing ∨ s.calls call = .sending .enqueued outgoing) →
    ¬ PendingHistory.Waits s.pending.registry outgoing.id outgoing.channel
  withdrawn : ∀ call error outgoing, s.calls call = .sending (.cancelled error) outgoing →
    ¬ PendingHistory.Waits s.pending.registry outgoing.id outgoing.channel

section Invariant

variable {S : SerdeJson} {maxFrameBytes : ℕ} {s s' : RequestState}

lemma goto_self (call : ℕ) (next : RequestCall) : (s.goto call next).calls call = next :=
  Function.update_self ..

variable {call : ℕ}

lemma goto_of_ne {other : ℕ} (h : other ≠ call) (next : RequestCall) :
    (s.goto call next).calls other = s.calls other :=
  Function.update_of_ne h ..

/-- What a call may move to without touching the registry. -/
structure Justified (s : RequestState) (call : ℕ) (next : RequestCall) : Prop where
  keeps : ∀ stage outgoing, s.calls call = .sending stage outgoing →
    ∃ stage', next = .sending stage' outgoing
  logged : ∀ stage outgoing, next = .sending stage outgoing →
    .registered outgoing.id outgoing.channel ∈ s.pending.log
  drained : s.closing = .done → ∀ outgoing,
    (next = .sending .verified outgoing ∨ next = .sending .enqueued outgoing) →
    ¬ PendingHistory.Waits s.pending.registry outgoing.id outgoing.channel
  withdrawn : ∀ error outgoing, next = .sending (.cancelled error) outgoing →
    ¬ PendingHistory.Waits s.pending.registry outgoing.id outgoing.channel

lemma Valid.goto (h : s.Valid) {next : RequestCall} (hnext : Justified s call next) :
    (s.goto call next).Valid := by
  refine ⟨h.pending, h.answers, h.flag, ?_, ?_, ?_, ?_⟩
  · intro id channel hwaits
    obtain ⟨owner, stage, outgoing, howner, hid, hchannel⟩ := h.owned id channel hwaits
    by_cases heq : owner = call
    · subst heq
      obtain ⟨stage', rfl⟩ := hnext.keeps stage outgoing howner
      exact ⟨owner, stage', outgoing, goto_self _ _, hid, hchannel⟩
    · exact ⟨owner, stage, outgoing, (goto_of_ne heq _).trans howner, hid, hchannel⟩
  · intro other stage outgoing hother
    by_cases heq : other = call
    · subst heq
      exact hnext.logged stage outgoing ((goto_self _ _).symm.trans hother)
    · exact h.logged other stage outgoing ((goto_of_ne heq _).symm.trans hother)
  · intro hdone other outgoing hother
    by_cases heq : other = call
    · subst heq
      rw [goto_self] at hother
      exact hnext.drained hdone outgoing hother
    · rw [goto_of_ne heq] at hother
      exact h.drained hdone other outgoing hother
  · intro other error outgoing hother
    by_cases heq : other = call
    · subst heq
      exact hnext.withdrawn error outgoing ((goto_self _ _).symm.trans hother)
    · exact h.withdrawn other error outgoing ((goto_of_ne heq _).symm.trans hother)

lemma Valid.leave (h : s.Valid) {call : PendingCall}
    (hcall : ∀ id deadline, call ≠ .register id deadline) :
    Valid { s with pending := s.pending.after call } := by
  refine ⟨h.pending.moves (PendingHistory.moves_after _ _), ?_, h.flag, ?_, ?_, ?_, ?_⟩
  · intro channel sent hmem
    rcases PendingHistory.answer_of_after hmem with hmem | hanswer
    · exact h.answers channel sent hmem
    · exact hanswer
  · exact fun id channel hwaits => h.owned id channel (PendingHistory.waits_of_after hcall hwaits)
  · exact fun other stage outgoing hother =>
      PendingHistory.mem_log_after (h.logged other stage outgoing hother) _
  · exact fun hdone other outgoing hother hwaits =>
      h.drained hdone other outgoing hother (PendingHistory.waits_of_after hcall hwaits)
  · exact fun other error outgoing hother hwaits =>
      h.withdrawn other error outgoing hother (PendingHistory.waits_of_after hcall hwaits)

/-- A registration: the new waiter belongs to the call, and listens to a new channel. -/
lemma Valid.register (h : s.Valid)
    (hcall : ∀ stage outgoing, s.calls call ≠ .sending stage outgoing) {id : String} {deadline : ℕ}
    {priority : EventPriority} {r : PendingRegistry}
    (hregister : s.pending.registry.register id deadline s.pending.channels = .ok r) :
    ({ s with pending := s.pending.after (.register id deadline) }.goto call
      (.sending .registered ⟨id, s.pending.channels, priority⟩)).Valid := by
  have hafter : s.pending.after (.register id deadline) =
      ⟨r, s.pending.channels + 1, s.pending.log ++ [.registered id s.pending.channels]⟩ := by
    rw [PendingHistory.after, hregister]
  obtain ⟨-, -, -, hr⟩ := PendingHistory.register_eq_ok hregister
  -- an old waiter that waits afterwards waited before
  have hold : ∀ other stage outgoing, s.calls other = .sending stage outgoing →
      PendingHistory.Waits r outgoing.id outgoing.channel →
      PendingHistory.Waits s.pending.registry outgoing.id outgoing.channel := by
    intro other stage outgoing hother hwaits
    rw [hr] at hwaits
    rcases PendingHistory.waits_insert.mp hwaits with ⟨-, hchannel⟩ | ⟨-, hwaits⟩
    · have hlt := h.pending.opened _ _ (h.logged other stage outgoing hother)
      rw [← hchannel] at hlt
      exact absurd hlt (lt_irrefl _)
    · exact hwaits
  rw [hafter]
  refine ⟨h.pending.register hregister, ?_, h.flag, ?_, ?_, ?_, ?_⟩
  · intro channel sent hmem
    rcases List.mem_append.mp hmem with hmem | hmem
    · exact h.answers channel sent hmem
    · simp at hmem
  · intro other channel hwaits
    have hwaits : PendingHistory.Waits r other channel := hwaits
    rw [hr] at hwaits
    rcases PendingHistory.waits_insert.mp hwaits with ⟨rfl, rfl⟩ | ⟨-, hwaits⟩
    · exact ⟨call, .registered, _, goto_self _ _, rfl, rfl⟩
    · obtain ⟨owner, stage, outgoing, howner, hid, hchannel⟩ := h.owned other channel hwaits
      have hne : owner ≠ call := by
        rintro rfl
        exact hcall stage outgoing howner
      exact ⟨owner, stage, outgoing, (goto_of_ne hne _).trans howner, hid, hchannel⟩
  · intro other stage outgoing hother
    by_cases heq : other = call
    · subst heq
      rw [goto_self] at hother
      cases hother
      exact List.mem_append_right _ (List.mem_singleton.mpr rfl)
    · rw [goto_of_ne heq] at hother
      exact List.mem_append_left _ (h.logged other stage outgoing hother)
  · intro hdone other outgoing hother hwaits
    by_cases heq : other = call
    · subst heq
      rw [goto_self] at hother
      rcases hother with hother | hother <;> cases hother
    · rw [goto_of_ne heq] at hother
      refine h.drained hdone other outgoing hother ?_
      rcases hother with hother | hother
      · exact hold other _ outgoing hother hwaits
      · exact hold other _ outgoing hother hwaits
  · intro other error outgoing hother hwaits
    by_cases heq : other = call
    · subst heq
      rw [goto_self] at hother
      cases hother
    · rw [goto_of_ne heq] at hother
      exact h.withdrawn other error outgoing hother (hold other _ outgoing hother hwaits)

lemma Justified.early (hcall : ∀ stage outgoing, s.calls call ≠ .sending stage outgoing)
    {next : RequestCall} (hnext : ∀ stage outgoing, next ≠ .sending stage outgoing) :
    Justified s call next :=
  ⟨fun _ _ h => absurd h (hcall _ _), fun _ _ h => absurd h (hnext _ _),
    fun _ _ h => h.elim (fun h => absurd h (hnext _ _)) fun h => absurd h (hnext _ _),
    fun _ _ h => absurd h (hnext _ _)⟩

/-- A step of `send` that does not pass the second test of the flag. -/
lemma Justified.sends (h : s.Valid) {stage stage' : SendStage} {outgoing : Outgoing}
    (hcall : s.calls call = .sending stage outgoing) (hverified : stage' ≠ .verified)
    (henqueued : stage' ≠ .enqueued) (hcancelled : ∀ error, stage' ≠ .cancelled error) :
    Justified s call (.sending stage' outgoing) := by
  refine ⟨?_, ?_, ?_, ?_⟩
  · rintro stage₀ outgoing₀ h₀
    cases hcall.symm.trans h₀
    exact ⟨stage', rfl⟩
  · rintro _ _ ⟨⟩
    exact h.logged call stage outgoing hcall
  · intro _ _ hstage
    rcases hstage with hstage | hstage
    · exact absurd (RequestCall.sending.inj hstage).1 hverified
    · exact absurd (RequestCall.sending.inj hstage).1 henqueued
  · intro error _ hstage
    exact absurd (RequestCall.sending.inj hstage).1 (hcancelled error)

/-- A step of `send` past the second test: justified when the registry is not drained yet, or the
call does not wait. -/
lemma Justified.passes (h : s.Valid) {stage stage' : SendStage} {outgoing : Outgoing}
    (hcall : s.calls call = .sending stage outgoing) (hdrained : s.closing = .done →
      ¬ PendingHistory.Waits s.pending.registry outgoing.id outgoing.channel)
    (hcancelled : ∀ error, stage' ≠ .cancelled error) :
    Justified s call (.sending stage' outgoing) := by
  refine ⟨?_, ?_, ?_, ?_⟩
  · rintro stage₀ outgoing₀ h₀
    cases hcall.symm.trans h₀
    exact ⟨stage', rfl⟩
  · rintro _ _ ⟨⟩
    exact h.logged call stage outgoing hcall
  · intro hdone _ hstage
    rcases hstage with hstage | hstage
    · exact (RequestCall.sending.inj hstage).2 ▸ hdrained hdone
    · exact (RequestCall.sending.inj hstage).2 ▸ hdrained hdone
  · intro error _ hstage
    exact absurd (RequestCall.sending.inj hstage).1 (hcancelled error)

/-- **A step of a call preserves the invariant.** -/
theorem Valid.advance (h : s.Valid) {step : CallStep}
    (hstep : s.advance S maxFrameBytes call step (s.calls call) = some s') : s'.Valid := by
  generalize hcall : s.calls call = current at hstep
  have hearly : (∀ stage outgoing, current ≠ .sending stage outgoing) →
      ∀ stage outgoing, s.calls call ≠ .sending stage outgoing := by
    rintro hcurrent stage outgoing heq
    exact hcurrent stage outgoing (hcall.symm.trans heq)
  unfold RequestState.advance at hstep
  split at hstep
  · -- the test of the closed flag
    split_ifs at hstep
    · cases hstep
      exact h.goto (.early (hearly (by simp)) (by simp))
    · cases hstep
      exact h.goto (.early (hearly (by simp)) (by simp))
  · cases hstep
    exact h.goto (.early (hearly (by simp)) (by simp))
  · -- the identifier and the frame
    have hledger : Valid { s with ledger := s.ledger.allocate.2 } :=
      ⟨h.pending, h.answers, h.flag, h.owned, h.logged, h.drained, h.withdrawn⟩
    have hmove : ∀ next, (∀ stage outgoing, next ≠ .sending stage outgoing) →
        Valid ({ s with ledger := s.ledger.allocate.2 }.goto call next) := by
      intro next hnext
      refine hledger.goto (.early ?_ hnext)
      exact hearly (by simp)
    simp only at hstep
    split at hstep
    · cases hstep
      exact hmove _ (by simp)
    · split at hstep
      · cases hstep
        exact hmove _ (by simp)
      · cases hstep
        exact hmove _ (by simp)
  · -- the registration
    split at hstep
    · cases hstep
      exact h.goto (.early (hearly (by simp)) (by simp))
    · cases hstep
      exact h.goto (.early (hearly (by simp)) (by simp))
    · rename_i hregister
      cases hstep
      exact h.register (hearly (by simp)) hregister
  · -- the first test of the flag in `send`
    split_ifs at hstep
    · cases hstep
      exact h.goto (.sends h hcall (by simp) (by simp) (by simp))
    · cases hstep
      exact h.goto (.sends h hcall (by simp) (by simp) (by simp))
  · split_ifs at hstep
    · cases hstep
      exact h.goto (.sends h hcall (by simp) (by simp) (by simp))
    · cases hstep
      exact h.goto (.sends h hcall (by simp) (by simp) (by simp))
  · -- the second test of the flag
    split_ifs at hstep with hclosed
    · cases hstep
      exact h.goto (.sends h hcall (by simp) (by simp) (by simp))
    · cases hstep
      refine h.goto (.passes h hcall (fun hdone => absurd ?_ hclosed) (by simp))
      exact h.flag.mpr (by simp [hdone])
  · cases hstep
    exact h.goto (.passes h hcall (fun hdone => h.drained hdone call _ (Or.inl hcall)) (by simp))
  · cases hstep
    exact h.goto (.sends h hcall (by simp) (by simp) (by simp))
  · cases hstep
    exact h.goto (.sends h hcall (by simp) (by simp) (by simp))
  · -- the cancellation
    rename_i error outgoing
    split_ifs at hstep
    cases hstep
    have hleave := @Valid.leave s h (.cancel outgoing.id) (by simp)
    refine hleave.goto ⟨?_, ?_, ?_, ?_⟩
    · intro stage₀ outgoing₀ h₀
      cases hcall.symm.trans h₀
      exact ⟨_, rfl⟩
    · rintro _ _ ⟨⟩
      exact hleave.logged call _ outgoing hcall
    · rintro _ _ (h₀ | h₀) <;> cases h₀
    · rintro _ _ ⟨⟩
      exact PendingHistory.not_waits_cancel s.pending outgoing.id outgoing.channel
  · cases hstep

/-- The body of `fail_closed` preserves the invariant. -/
lemma Valid.closeNext (h : s.Valid) {order : List String}
    (horder : s.pending.Iterates (.close order)) (hstep : s.closeNext order = some s') :
    s'.Valid := by
  unfold RequestState.closeNext at hstep
  split at hstep
  · cases hstep
  · cases hstep
  · cases hstep
    exact ⟨h.pending, h.answers, by simp, h.owned, h.logged, by simp, h.withdrawn⟩
  · rename_i hclosing
    cases hstep
    have hclosed := h.flag.mpr (by simp [hclosing])
    exact ⟨h.pending, h.answers, by simp [hclosed], h.owned, h.logged, by simp, h.withdrawn⟩
  · rename_i hclosing
    cases hstep
    have hclosed := h.flag.mpr (by simp [hclosing])
    exact ⟨h.pending, h.answers, by simp [hclosed], h.owned, h.logged, by simp, h.withdrawn⟩
  · rename_i hclosing
    cases hstep
    have hclosed := h.flag.mpr (by simp [hclosing])
    have hleave := @Valid.leave s h (.close order) (by simp)
    exact ⟨hleave.pending, hleave.answers, by simp [hclosed], hleave.owned, hleave.logged,
      fun _ _ _ _ => PendingHistory.not_waits_close horder _ _, hleave.withdrawn⟩

/-- **The invariant holds in every reachable state.** -/
theorem valid_of_reachable (hs : s.Reachable S maxFrameBytes) : s.Valid := by
  obtain ⟨maxActive, maxTombstones, r, actions, hnew, hrun⟩ := hs
  refine hrun.stateInvariant ?_ ?_
  · refine ⟨PendingHistory.valid_of_reachable ⟨_, _, r, [], hnew, .nil⟩, ?_, ?_, ?_, ?_, ?_, ?_⟩
    · simp [initial]
    · simp [initial]
    · rintro id channel ⟨entry, hentry, -⟩
      rw [PendingRegistry.new] at hnew
      split_ifs at hnew
      cases hnew
      cases hentry
    · rintro call stage outgoing ⟨⟩
    · rintro ⟨⟩
    · rintro call error outgoing ⟨⟩
  · rintro s action s' h ⟨horder, hstep⟩
    cases action with
    | call call step => exact h.advance hstep
    | resolve frame =>
      cases hstep
      exact h.leave (by simp)
    | expire order now =>
      cases hstep
      exact h.leave (by simp)
    | failClosed =>
      simp only [after] at hstep
      split_ifs at hstep
      · cases hstep
        exact h
      · cases hstep
        exact ⟨h.pending, h.answers, by simp, h.owned, h.logged, by simp, h.withdrawn⟩
    | closeNext order => exact h.closeNext horder hstep

end Invariant

/-! ## No waiter is left behind -/

/-- The call has not begun, or its send step is over. -/
def Settled : RequestCall → Prop
  | .idle | .refused _ | .sending .enqueued _ | .sending (.cancelled _) _ => True
  | _ => False

/-- What holds of the waiters. -/
structure NoneStranded (s : RequestState) : Prop where
  /-- When all send steps are over and the session is either open or closed for good, a request
  is active only if the session is open and the frame of the request was enqueued. -/
  active : (∀ call, Settled (s.calls call)) → (s.closing = .unclosed ∨ s.closing = .done) →
    ∀ id ∈ s.pending.registry.active, s.closed = false ∧
      ∃ call outgoing, s.calls call = .sending .enqueued outgoing ∧ outgoing.id = id
  /-- When `fail_closed` is over, a registered waiter whose send step is over has received one
  completion: a response, a cancellation, the passing of its deadline, or the end of the
  session. -/
  answered : s.closing = .done → ∀ call stage outgoing, s.calls call = .sending stage outgoing →
    Settled (s.calls call) →
    ∃ sent, PendingHistory.completions outgoing.channel s.pending.log = [sent] ∧
      PendingHistory.Answer sent

lemma Valid.not_waits {s : RequestState} (h : s.Valid) (hdone : s.closing = .done) {call : ℕ}
    {stage : SendStage} {outgoing : Outgoing} (hcall : s.calls call = .sending stage outgoing)
    (hsettled : Settled (s.calls call)) :
    ¬ PendingHistory.Waits s.pending.registry outgoing.id outgoing.channel := by
  rw [hcall] at hsettled
  cases stage with
  | enqueued => exact h.drained hdone call outgoing (Or.inr hcall)
  | cancelled error => exact h.withdrawn call error outgoing hcall
  | _ => exact hsettled.elim

/-- **No waiter is stranded**, in any interleaving of requests, responses, deadlines and the end of
the session. -/
theorem noneStranded_of_reachable {S : SerdeJson} {maxFrameBytes : ℕ} {s : RequestState}
    (hs : s.Reachable S maxFrameBytes) : s.NoneStranded := by
  have h := valid_of_reachable hs
  constructor
  · intro hsettled hclosing id hactive
    obtain ⟨entry, hentry⟩ := Option.isSome_iff_exists.mp (AList.lookup_isSome.mpr hactive)
    have hwaits : PendingHistory.Waits s.pending.registry id entry.completion := ⟨entry, hentry, rfl⟩
    obtain ⟨call, stage, outgoing, hcall, rfl, hchannel⟩ := h.owned id _ hwaits
    rw [← hchannel] at hwaits
    have hopen : s.closing = .unclosed := by
      refine hclosing.resolve_right fun hdone => ?_
      exact h.not_waits hdone hcall (hsettled call) hwaits
    have hclosed : s.closed = false := by
      rw [← Bool.not_eq_true, h.flag]
      exact fun hne => hne hopen
    refine ⟨hclosed, call, outgoing, ?_, rfl⟩
    have hstage := hsettled call
    rw [hcall] at hstage
    cases stage with
    | enqueued => exact hcall
    | cancelled error => exact absurd hwaits (h.withdrawn call error outgoing hcall)
    | _ => exact hstage.elim
  · intro hdone call stage outgoing hcall hsettled
    have hlength := h.pending.completed _ _ (h.logged call stage outgoing hcall)
      (h.not_waits hdone hcall hsettled)
    obtain ⟨sent, hsent⟩ := List.length_eq_one_iff.mp hlength
    refine ⟨sent, hsent, h.answers outgoing.channel sent ?_⟩
    have hmem : sent ∈ PendingHistory.completions outgoing.channel s.pending.log := by
      rw [hsent]
      exact List.mem_singleton.mpr rfl
    exact PendingHistory.mem_completions.mp hmem

lemma allocate_first : (⟨[], 1⟩ : OutboundRequestLedger).allocate =
    (.ok "c:rpc-1", ⟨["c:rpc-1"], 2⟩) := by
  rfl

lemma encoded_first : ∃ bytes,
    (RpcFrame.clientRequest "c:rpc-1" "version" (.object [])).bind
      (·.encode compactSerde 1024) = .ok bytes :=
  exists_ok_of_toBool (by decide +kernel)

lemma after_allocate {S : SerdeJson} {maxFrameBytes : ℕ} {s : RequestState}
    {ledger : OutboundRequestLedger} {id method : String} {params : Value} {bytes : List UInt8}
    {call : ℕ} (hcall : s.calls call = .checked method params)
    (hid : s.ledger.allocate = (.ok id, ledger))
    (hbytes : (RpcFrame.clientRequest id method params).bind (·.encode S maxFrameBytes) =
      .ok bytes) :
    s.after S maxFrameBytes (.call call .allocate) =
      some ({ s with ledger := ledger }.goto call (.allocated id (requestPriority method))) := by
  simp only [after, hcall, advance, hid, hbytes]

/-- A request that is registered just before the session is closed, and finds the flag up when it
sends. -/
theorem noneStranded_closed :
    ∃ s : RequestState, s.Reachable compactSerde 1024 ∧ s.closing = .done ∧
      s.calls 0 = .sending (.cancelled .sessionClosed) ⟨"c:rpc-1", 0, .data⟩ ∧ s.NoneStranded := by
  let r : PendingRegistry := ⟨∅, [], 1, 1, by decide⟩
  obtain ⟨bytes, hbytes⟩ := encoded_first
  have hregistered : Run (Step compactSerde 1024) (initial r)
      ([] ++ [.call 0 (.start "version" (.object []))] ++ [.call 0 .allocate] ++
        [.call 0 (.register 5)]) _ :=
    .snoc (.snoc (.snoc .nil ⟨trivial, rfl⟩)
      ⟨trivial, after_allocate rfl allocate_first hbytes⟩) ⟨trivial, rfl⟩
  have hclosed : Run (Step compactSerde 1024) (initial r)
      (_ ++ [.failClosed] ++ [.closeNext ["c:rpc-1"]] ++ [.closeNext ["c:rpc-1"]] ++
        [.closeNext ["c:rpc-1"]] ++ [.closeNext ["c:rpc-1"]]) _ :=
    .snoc (.snoc (.snoc (.snoc (.snoc hregistered ⟨trivial, rfl⟩) ⟨List.Perm.refl _, rfl⟩)
      ⟨List.Perm.refl _, rfl⟩) ⟨List.Perm.refl _, rfl⟩) ⟨List.Perm.refl _, rfl⟩
  have hcancelled : Run (Step compactSerde 1024) (initial r)
      (_ ++ [.call 0 .firstCheck] ++ [.call 0 .cancel]) _ :=
    .snoc (.snoc hclosed ⟨trivial, rfl⟩) ⟨trivial, rfl⟩
  have hreachable : Reachable compactSerde 1024 _ := ⟨1, 1, r, _, rfl, hcancelled⟩
  exact ⟨_, hreachable, rfl, rfl, noneStranded_of_reachable hreachable⟩

end RequestState

end JaDesktop.Host
