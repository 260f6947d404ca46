import Mathlib.Data.List.AList
import JaDesktop.Host.Codec

/-!
# The registry of pending requests

`PendingRegistry` owns the requests of the host that wait for a response.  A request leaves the
map of active requests when a response, its deadline, a cancellation or the end of the session
completes it, and leaves a tombstone behind in a queue of bounded length.

The map of the source iterates in an unspecified order, so the two operations that walk over it
take the order as an argument.  Besides the new registry every operation returns what it did to
the outside: the completions it sent, and the tombstones it dropped.
-/

namespace JaDesktop.Host

/-! ## Errors -/

inductive QueueKind
  | control
  | data
  | stderr
deriving DecidableEq

/-- `AgentProcessError`; a duration is a number of nanoseconds. -/
inductive AgentProcessError
  | invalidConfig
  | invalidTimeout
  | codec (error : CodecError)
  | queueFull (kind : QueueKind)
  | queueClosed (kind : QueueKind)
  | pendingLimit
  | requestLedgerExhausted
  | duplicateRequest
  | unknownRequestId
  | duplicateResponse
  | lateResponse
  | deadlineExceeded
  | cancelled
  | sessionClosed
  | notReady
  | incompatible
  | invalidState
  | spawn
  | processTree
  | processExited
  | shuttingDown
  | handshakeFailed
  | protocolFault
  | invalidErrorCatalog
  | shutdownTimeout
  | backoff (retryAfter : ℕ)
  | restartLimitExceeded
  | faulted
deriving DecidableEq

/-! ## The registry -/

inductive PendingTerminal
  | resolved
  | timedOut
  | cancelled
deriving DecidableEq

inductive ResolveDisposition
  | delivered
  | duplicateResponse
  | lateResponse
  | unknownRequest
deriving DecidableEq

inductive PendingRegisterError
  | duplicateRequest
  | limitReached
deriving DecidableEq

/-- What a waiter receives. -/
abbrev Completion := Except AgentProcessError RpcFrame

/-- `PendingEntry`: a deadline on the monotone clock, and the number of the channel whose other
end the waiter holds. -/
structure PendingEntry where
  deadline : ℕ
  completion : ℕ
deriving DecidableEq

structure Tombstone where
  id : String
  terminal : PendingTerminal
deriving DecidableEq

def maxPendingEntries : ℕ := 1024
def maxTombstonesLimit : ℕ := 8192

/-- The limits that `PendingRegistry::new` accepts. -/
def validPendingLimits (maxActive maxTombstones : ℕ) : Bool :=
  !(maxActive == 0 || maxPendingEntries < maxActive || maxTombstones == 0 ||
    maxTombstonesLimit < maxTombstones)

structure PendingRegistry where
  active : AList fun _ : String => PendingEntry
  tombstones : List Tombstone
  maxActive : ℕ
  maxTombstones : ℕ
  limits : validPendingLimits maxActive maxTombstones = true

/-- What an operation does to the outside: it sends a completion on a channel, or it drops the
tombstone of a request. -/
inductive PendingEffect
  | completed (channel : ℕ) (result : Completion)
  | evicted (id : String)

namespace PendingRegistry

/-- `PendingRegistry::new`. -/
def new (maxActive maxTombstones : ℕ) : Except PendingRegisterError PendingRegistry :=
  if h : validPendingLimits maxActive maxTombstones = true then
    .ok ⟨∅, [], maxActive, maxTombstones, h⟩
  else .error .limitReached

variable (r : PendingRegistry)

/-- `PendingRegistry::register`, with the channel that it opens. -/
def register (id : String) (deadline channel : ℕ) :
    Except PendingRegisterError PendingRegistry :=
  if id ∈ r.active.keys || r.tombstones.any (fun item => item.id == id) then
    .error .duplicateRequest
  else if r.maxActive ≤ r.active.keys.length then .error .limitReached
  else .ok { r with active := r.active.insert id ⟨deadline, channel⟩ }

/-- The loop of `remember`: drop the oldest tombstones until there is room for one more. -/
def makeRoom (maxTombstones : ℕ) : List Tombstone → List Tombstone × List PendingEffect
  | [] => ([], [])
  | oldest :: rest =>
    if maxTombstones ≤ rest.length + 1 then
      let (kept, effects) := makeRoom maxTombstones rest
      (kept, .evicted oldest.id :: effects)
    else (oldest :: rest, [])

/-- `PendingRegistry::remember`. -/
def remember (id : String) (terminal : PendingTerminal) :
    PendingRegistry × List PendingEffect :=
  let (kept, effects) :=
    makeRoom r.maxTombstones (r.tombstones.eraseP fun item => item.id == id)
  ({ r with tombstones := kept ++ [⟨id, terminal⟩] }, effects)

/-- The step that ends a request, the same in all operations: take the entry out of the map, send
the completion, remember the request. -/
def settle (id : String) (terminal : PendingTerminal) (result : Completion) :
    Option (PendingRegistry × List PendingEffect) :=
  (r.active.lookup id).map fun entry =>
    let (r', effects) := { r with active := r.active.erase id }.remember id terminal
    (r', .completed entry.completion result :: effects)

/-- `PendingRegistry::tombstone_disposition`. -/
def tombstoneDisposition (id : String) : ResolveDisposition :=
  match r.tombstones.find? fun item => item.id == id with
  | some ⟨_, .resolved⟩ => .duplicateResponse
  | some ⟨_, .timedOut⟩ | some ⟨_, .cancelled⟩ => .lateResponse
  | none => .unknownRequest

/-- `RpcFrame::id`. -/
def frameId (frame : RpcFrame) : String := frame.id.getD ""

/-- `PendingRegistry::resolve`. -/
def resolve (frame : RpcFrame) :
    ResolveDisposition × PendingRegistry × List PendingEffect :=
  match r.settle (frameId frame) .resolved (.ok frame) with
  | some (r', effects) => (.delivered, r', effects)
  | none => (r.tombstoneDisposition (frameId frame), r, [])

/-- The loop of `expire` and `close` over the requests they end. -/
def settleAll (terminal : PendingTerminal) (result : Completion) :
    List String → PendingRegistry → PendingRegistry × List PendingEffect
  | [], r => (r, [])
  | id :: ids, r =>
    match r.settle id terminal result with
    | some (r', effects) =>
      let (r'', effects') := settleAll terminal result ids r'
      (r'', effects ++ effects')
    | none => settleAll terminal result ids r

/-- `PendingRegistry::expire`, where `order` lists the active requests as the map iterates. -/
def expire (order : List String) (now : ℕ) :
    ℕ × PendingRegistry × List PendingEffect :=
  let expired := order.filter fun id =>
    (r.active.lookup id).any fun entry => entry.deadline ≤ now
  (expired.length, settleAll .timedOut (.error .deadlineExceeded) expired r)

/-- `PendingRegistry::cancel`. -/
def cancel (id : String) : Bool × PendingRegistry × List PendingEffect :=
  match r.settle id .cancelled (.error .cancelled) with
  | some (r', effects) => (true, r', effects)
  | none => (false, r, [])

/-- `PendingRegistry::close`, where `order` lists the active requests as the map iterates. -/
def close (order : List String) : ℕ × PendingRegistry × List PendingEffect :=
  (order.length, settleAll .cancelled (.error .sessionClosed) order r)

end PendingRegistry

end JaDesktop.Host
