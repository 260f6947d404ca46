import JaDesktop.Lib.AssocMap
import JaDesktop.Sidecar.Envelope

/-!
# The request ledger of the sidecar

`PendingRequestRegistry` reserves every request id for the lifetime of a connection, in both
directions.  An id is pending until a response, the answer to it, a cancellation, its deadline or
the end of the connection retires it, and stays in the ledger as a tombstone.

A callback runs outside the monitor, so a call only says which callback it leaves to run.
-/

namespace JaDesktop.Sidecar

inductive RequestState
  | pending
  | responded
  | cancelled
  | deadline
  | disconnected
deriving DecidableEq

inductive InboundAdmission
  | accepted
  | pendingDuplicate
  | replay
deriving DecidableEq

/-- The limits that the constructor accepts. -/
structure RegistryLimits where
  maxPending : ℕ
  maxLifetimeIds : ℕ
  pending_bounds : 1 ≤ maxPending ∧ maxPending ≤ 1024
  lifetime_bounds : 1 ≤ maxLifetimeIds ∧ maxLifetimeIds ≤ 1048576

/-- A map with request ids as its keys. -/
abbrev IdMap (α : Type) := AssocMap JavaString α

/-- The registry; `H` is the type of its callbacks. -/
structure PendingRequestRegistry (H : Type) where
  pending : IdMap RpcDirection
  responseHandlers : IdMap H
  usedIds : IdMap RequestState
  rotationRequired : Bool

namespace PendingRequestRegistry

variable {H : Type} (limits : RegistryLimits) (registry : PendingRequestRegistry H)

def new : PendingRequestRegistry H := ⟨∅, ∅, ∅, false⟩

variable (id : JavaString)

/-- The id is in the ledger from now on. -/
def reserve (direction : RpcDirection) (handler : Option H) :
    PendingRequestRegistry H :=
  let usedIds : IdMap RequestState := registry.usedIds.insert id .pending
  { pending := registry.pending.insert id direction
    responseHandlers := handler.elim registry.responseHandlers fun handler =>
      registry.responseHandlers.insert id handler
    usedIds := usedIds
    rotationRequired := registry.rotationRequired || limits.maxLifetimeIds ≤ usedIds.size }

/-- The id is not pending any more. -/
def retire (state : RequestState) : PendingRequestRegistry H :=
  { registry with
    pending := registry.pending.erase id
    responseHandlers := registry.responseHandlers.erase id
    usedIds := registry.usedIds.insert id state }

def register (request : RpcRequest) (handler : Option H) :
    Except Thrown Unit × PendingRequestRegistry H :=
  if (registry.usedIds.lookup request.id).isSome then
    (.error (.protocol .duplicateRequest), registry)
  else if registry.rotationRequired || limits.maxLifetimeIds ≤ registry.usedIds.size then
    (.error (.protocol .resyncRequired), { registry with rotationRequired := true })
  else if limits.maxPending ≤ registry.pending.size then
    (.error (.protocol .pendingLimit), registry)
  else (.ok (), registry.reserve limits request.id request.direction handler)

def registerInbound (request : RpcRequest) :
    Except Thrown InboundAdmission × PendingRequestRegistry H :=
  match registry.usedIds.lookup request.id with
  | some .pending => (.ok .pendingDuplicate, registry)
  | some _ => (.ok .replay, registry)
  | none =>
    if registry.rotationRequired || limits.maxLifetimeIds ≤ registry.usedIds.size then
      (.error (.protocol .resyncRequired), { registry with rotationRequired := true })
    else (.ok .accepted, registry.reserve limits request.id request.direction none)

/-- `completeInbound`; a callback of the id stays. -/
def completeInbound : Except Thrown Bool × PendingRequestRegistry H :=
  if genericRequestId id = false then (.error (.protocol .invalidFrame), registry)
  else if registry.usedIds.lookup id ≠ some .pending then (.ok false, registry)
  else (.ok true, { registry with
    pending := registry.pending.erase id
    usedIds := registry.usedIds.insert id .responded })

/-- `accept`, with the callback that is left to run. -/
def accept (response : RpcResponse) : Except Thrown (Option H) × PendingRequestRegistry H :=
  match registry.usedIds.lookup response.id with
  | none => (.error (.protocol .unknownRequestId), registry)
  | some .pending =>
    match registry.pending.lookup response.id with
    | none => (.error (.protocol .lateResponse), registry)
    | some expected =>
      if requestId response.id expected = false then (.error (.protocol .invalidFrame), registry)
      else (.ok (registry.responseHandlers.lookup response.id),
        registry.retire response.id .responded)
  | some .responded => (.error (.protocol .duplicateResponse), registry)
  | some _ => (.error (.protocol .lateResponse), registry)

def closePending (terminal : RequestState) :
    Except Thrown Bool × PendingRequestRegistry H :=
  if genericRequestId id = false then (.error (.protocol .invalidFrame), registry)
  else if registry.usedIds.lookup id ≠ some .pending then (.ok false, registry)
  else (.ok true, registry.retire id terminal)

def cancel : Except Thrown Bool × PendingRequestRegistry H :=
  registry.closePending id .cancelled

def deadline : Except Thrown Bool × PendingRequestRegistry H :=
  registry.closePending id .deadline

def disconnect : Except Thrown Bool × PendingRequestRegistry H :=
  registry.closePending id .disconnected

def closeForRotation : PendingRequestRegistry H where
  pending := ∅
  responseHandlers := ∅
  usedIds := registry.pending.keys.foldl (fun used id => used.insert id .disconnected)
    registry.usedIds
  rotationRequired := true

end PendingRequestRegistry

/-! ## Calls -/

inductive RegistryCall (H : Type)
  | register (request : RpcRequest) (handler : Option H)
  | registerInbound (request : RpcRequest)
  | completeInbound (id : JavaString)
  | accept (response : RpcResponse)
  | cancel (id : JavaString)
  | deadline (id : JavaString)
  | disconnect (id : JavaString)
  | closeForRotation

/-- What a call returns. -/
inductive RegistryReply (H : Type)
  | registered
  | admission (admission : InboundAdmission)
  | retired (retired : Bool)
  | accepted (handler : Option H)
  | closed

namespace RegistryCall

variable {H : Type} (limits : RegistryLimits)

/-- The result of a method as a reply. -/
def reply {T : Type} (wrap : T → RegistryReply H)
    (outcome : Except Thrown T × PendingRequestRegistry H) :
    Except Thrown (RegistryReply H) × PendingRequestRegistry H :=
  (outcome.1.map wrap, outcome.2)

def run (registry : PendingRequestRegistry H) :
    RegistryCall H → Except Thrown (RegistryReply H) × PendingRequestRegistry H
  | .register request handler =>
    reply (fun _ => .registered) (registry.register limits request handler)
  | .registerInbound request => reply .admission (registry.registerInbound limits request)
  | .completeInbound id => reply .retired (registry.completeInbound id)
  | .accept response => reply .accepted (registry.accept response)
  | .cancel id => reply .retired (registry.cancel id)
  | .deadline id => reply .retired (registry.deadline id)
  | .disconnect id => reply .retired (registry.disconnect id)
  | .closeForRotation => (.ok .closed, registry.closeForRotation)

/-- The registry after some calls. -/
def after (calls : List (RegistryCall H)) : PendingRequestRegistry H :=
  calls.foldl (fun registry call => (call.run limits registry).2) .new

end RegistryCall

/-! ## What a call does -/

section Effects

variable {H : Type} {limits : RegistryLimits}

/-- What a call makes of the registry. -/
inductive RegistryEffect (limits : RegistryLimits) (registry : PendingRequestRegistry H) :
    RegistryCall H → Except Thrown (RegistryReply H) → PendingRequestRegistry H → Prop
  /-- nothing, or it notes that the ledger is full -/
  | kept {call : RegistryCall H} {result : Except Thrown (RegistryReply H)}
      (rotation : Bool) (hrotation : registry.rotationRequired = true → rotation = true)
      (hresult : ∀ reply, result = .ok reply → reply ≠ .registered ∧
        reply ≠ .admission .accepted ∧ reply ≠ .retired true ∧ ∀ handler, reply ≠ .accepted handler)
      (hcall : call ≠ .closeForRotation) :
      RegistryEffect limits registry call result { registry with rotationRequired := rotation }
  | registered {request : RpcRequest} {handler : Option H}
      (hnew : registry.usedIds.lookup request.id = none)
      (hrotation : registry.rotationRequired = false)
      (hroom : registry.usedIds.size < limits.maxLifetimeIds)
      (hpending : registry.pending.size < limits.maxPending) :
      RegistryEffect limits registry (.register request handler) (.ok .registered)
        (registry.reserve limits request.id request.direction handler)
  | admitted {request : RpcRequest} (hnew : registry.usedIds.lookup request.id = none)
      (hrotation : registry.rotationRequired = false)
      (hroom : registry.usedIds.size < limits.maxLifetimeIds) :
      RegistryEffect limits registry (.registerInbound request) (.ok (.admission .accepted))
        (registry.reserve limits request.id request.direction none)
  | completed {id : JavaString} (hpending : registry.usedIds.lookup id = some .pending) :
      RegistryEffect limits registry (.completeInbound id) (.ok (.retired true))
        { registry with
          pending := registry.pending.erase id
          usedIds := registry.usedIds.insert id .responded }
  | accepted {response : RpcResponse}
      (hpending : registry.usedIds.lookup response.id = some .pending) :
      RegistryEffect limits registry (.accept response)
        (.ok (.accepted (registry.responseHandlers.lookup response.id)))
        (registry.retire response.id .responded)
  | retired {call : RegistryCall H} {id : JavaString} {state : RequestState}
      (hcall : (call, state) ∈ [(.cancel id, .cancelled), (.deadline id, .deadline),
        (.disconnect id, RequestState.disconnected)])
      (hpending : registry.usedIds.lookup id = some .pending) :
      RegistryEffect limits registry call (.ok (.retired true)) (registry.retire id state)
  | closed : RegistryEffect limits registry .closeForRotation (.ok .closed)
      registry.closeForRotation

variable {registry : PendingRequestRegistry H}

lemma effect_kept_self {call : RegistryCall H} {result : Except Thrown (RegistryReply H)}
    (hresult : ∀ reply, result = .ok reply → reply ≠ .registered ∧
      reply ≠ .admission .accepted ∧ reply ≠ .retired true ∧ ∀ handler, reply ≠ .accepted handler)
    (hcall : call ≠ .closeForRotation) : RegistryEffect limits registry call result registry :=
  .kept registry.rotationRequired id hresult hcall

lemma effect_register (request : RpcRequest) (handler : Option H) :
    RegistryEffect limits registry (.register request handler)
      ((RegistryCall.register request handler).run limits registry).1
      ((RegistryCall.register request handler).run limits registry).2 := by
  unfold RegistryCall.run RegistryCall.reply PendingRequestRegistry.register
  dsimp only
  split_ifs with hused hfull hpending
  · exact effect_kept_self (by simp [Except.map]) (by simp)
  · exact .kept true (fun _ => rfl) (by simp [Except.map]) (by simp)
  · exact effect_kept_self (by simp [Except.map]) (by simp)
  · simp only [Bool.or_eq_true, decide_eq_true_eq, not_or, Nat.not_le, Bool.not_eq_true] at hfull
    exact .registered (Option.not_isSome_iff_eq_none.mp hused) hfull.1 hfull.2
      (Nat.lt_of_not_le hpending)

lemma effect_registerInbound (request : RpcRequest) :
    RegistryEffect limits registry (.registerInbound request)
      ((RegistryCall.registerInbound request : RegistryCall H).run limits registry).1
      ((RegistryCall.registerInbound request).run limits registry).2 := by
  unfold RegistryCall.run RegistryCall.reply PendingRequestRegistry.registerInbound
  dsimp only
  split
  · exact effect_kept_self (by simp [Except.map]) (by simp)
  · exact effect_kept_self (by simp [Except.map]) (by simp)
  · next hnew =>
    split_ifs with hfull
    · exact .kept true (fun _ => rfl) (by simp [Except.map]) (by simp)
    · simp only [Bool.or_eq_true, decide_eq_true_eq, not_or, Nat.not_le, Bool.not_eq_true] at hfull
      exact .admitted hnew hfull.1 hfull.2

lemma effect_closePending {call : RegistryCall H} {id : JavaString} {state : RequestState}
    (hcall : (call, state) ∈ [(.cancel id, .cancelled), (.deadline id, .deadline),
      (.disconnect id, RequestState.disconnected)]) :
    RegistryEffect limits registry call
      (RegistryCall.reply .retired (registry.closePending id state)).1
      (RegistryCall.reply .retired (registry.closePending id state)).2 := by
  have hne : call ≠ .closeForRotation := by
    rintro rfl
    simp at hcall
  unfold RegistryCall.reply PendingRequestRegistry.closePending
  dsimp only
  split_ifs with hid hpending
  · exact effect_kept_self (by simp [Except.map]) hne
  · exact effect_kept_self (by simp [Except.map]) hne
  · exact .retired hcall (not_not.mp hpending)

/-- **What a call does.** -/
theorem registry_effect (call : RegistryCall H) :
    RegistryEffect limits registry call (call.run limits registry).1
      (call.run limits registry).2 := by
  cases call with
  | register request handler => exact effect_register request handler
  | registerInbound request => exact effect_registerInbound request
  | completeInbound id =>
    unfold RegistryCall.run RegistryCall.reply PendingRequestRegistry.completeInbound
    dsimp only
    split_ifs with hid hpending
    · exact effect_kept_self (by simp [Except.map]) (by simp)
    · exact effect_kept_self (by simp [Except.map]) (by simp)
    · exact .completed (not_not.mp hpending)
  | accept response =>
    unfold RegistryCall.run RegistryCall.reply PendingRequestRegistry.accept
    dsimp only
    split
    · exact effect_kept_self (by simp [Except.map]) (by simp)
    · next hpending =>
      split
      · exact effect_kept_self (by simp [Except.map]) (by simp)
      · split_ifs
        · exact effect_kept_self (by simp [Except.map]) (by simp)
        · exact .accepted hpending
    · exact effect_kept_self (by simp [Except.map]) (by simp)
    · exact effect_kept_self (by simp [Except.map]) (by simp)
  | cancel id => exact effect_closePending (by simp)
  | deadline id => exact effect_closePending (by simp)
  | disconnect id => exact effect_closePending (by simp)
  | closeForRotation => exact .closed

end Effects

end JaDesktop.Sidecar
