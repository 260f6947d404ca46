import Mathlib.Data.List.AList
import JaDesktop.Bridge.ApprovalRequest
import JaDesktop.Lib.Tombstones

/-!
# Correlation of approvals

The actor of the bridge keeps, for each approval that waits for a decision, the request of the
sidecar that asked for it.  An approval leaves this map by a decision, because it expired, because
its turn ended, or because the generation ends; each time its name goes to the tombstones.

All functions here run in the actor, one after the other.  What they meet outside is an argument:
the clock at each comparison, the order in which a hash map is walked, whether the session still
has a client, and whether a send succeeds.
-/

namespace JaDesktop.Bridge.Approvals

open Host (Value RpcFrame Respond)

def maxPendingApprovals : ℕ := 1024

def maxRetiredApprovals : ℕ := 1024

/-- The part of `RunningRuntime` that belongs to approvals.  `retired` is `retired_approvals` with
`retired_approval_order`. -/
structure RunningRuntime where
  generation : ℕ
  pendingApprovals : AList fun _ : String => PendingApproval
  retired : Tombstones String

/-- A runtime right after its start. -/
def RunningRuntime.start (generation : ℕ) : RunningRuntime := ⟨generation, ∅, ⟨∅, []⟩⟩

/-- What happened to the approvals of a runtime, in order. -/
inductive ApprovalEvent
  | registered (approvalId : String) (pending : PendingApproval)
  | refused (answer : Respond)
  | acknowledged (accepted : Bool)
  | sent (approvalId : String) (answer : Respond)
  | dropped (approvalId : String)
  | failed (approvalId : String) (answer : Respond)
  | turnTerminal (threadId turnId : String)
  | secret (frame : RpcFrame)

/-- What a sweep over the pending approvals meets. -/
structure Sweep where
  /-- `now_timestamp` when this approval is looked at. -/
  clock : String → String
  /-- The order in which the map is walked. -/
  arrange : List String → List String
  arranged : ∀ ids, (arrange ids).Perm ids
  /-- The session has a client. -/
  client : Bool
  /-- The answer to this approval goes out. -/
  delivers : String → Bool

/-! ## Retirement -/

namespace RunningRuntime

variable (current : RunningRuntime)

def retireApproval (approvalId : String) : RunningRuntime :=
  { current with retired := current.retired.record maxRetiredApprovals approvalId }

def retirePendingApproval (approvalId : String) : RunningRuntime :=
  { current with pendingApprovals := current.pendingApprovals.erase approvalId }.retireApproval
    approvalId

/-- The loop that `purge_expired_approvals`, `clear_turn_approvals` and
`clear_generation_approvals` share. -/
def retireAll (sweep : Sweep) (answer : String → Respond) :
    List String → RunningRuntime → RunningRuntime × List ApprovalEvent
  | [], current => (current, [])
  | approvalId :: ids, current =>
    let requestId := (current.pendingApprovals.lookup approvalId).map PendingApproval.requestId
    let rest := retireAll sweep answer ids (current.retirePendingApproval approvalId)
    match requestId with
    | some requestId =>
      if sweep.client && sweep.delivers approvalId then
        (rest.1, .sent approvalId (answer requestId) :: rest.2)
      else (rest.1, .dropped approvalId :: rest.2)
    | none => rest

/-- The approvals that satisfy a test, in the order of the sweep. -/
def select (sweep : Sweep) (test : String → PendingApproval → Bool) : List String :=
  (sweep.arrange current.pendingApprovals.keys).filter fun approvalId =>
    (current.pendingApprovals.lookup approvalId).any (test approvalId)

end RunningRuntime

variable (requestId : String)

def approvalExpiredAnswer : Respond :=
  .error requestId ⟨-32041, by decide⟩ "approval expired" "APPROVAL_EXPIRED" false

def approvalNotFoundAnswer : Respond :=
  .error requestId ⟨-32040, by decide⟩ "approval request was not found" "APPROVAL_NOT_FOUND" false

def alreadyResolvedAnswer : Respond :=
  .error requestId ⟨-32042, by decide⟩ "approval already resolved" "APPROVAL_ALREADY_RESOLVED" false

def invalidParamsAnswer : Respond :=
  .error requestId ⟨-32007, by decide⟩ "invalid params" "INVALID_PARAMS" false

def methodNotFoundAnswer : Respond :=
  .error requestId ⟨-32006, by decide⟩ "method not found" "METHOD_NOT_FOUND" false

variable (sweep : Sweep)

def purgeExpiredApprovals (current : RunningRuntime) :
    RunningRuntime × List ApprovalEvent :=
  current.retireAll sweep approvalExpiredAnswer
    (current.select sweep fun approvalId pending =>
      approvalExpired (sweep.clock approvalId) pending.expiresAt)

/-- `clear_turn_approvals`, with a mark at its end. -/
def clearTurnApprovals (threadId turnId : String) (current : RunningRuntime) :
    RunningRuntime × List ApprovalEvent :=
  let cleared := current.retireAll sweep approvalNotFoundAnswer
    (current.select sweep fun _ pending => pending.threadId = threadId && pending.turnId = turnId)
  (cleared.1, cleared.2 ++ [.turnTerminal threadId turnId])

def clearGenerationApprovals (current : RunningRuntime) :
    RunningRuntime × List ApprovalEvent :=
  current.retireAll sweep approvalNotFoundAnswer (sweep.arrange current.pendingApprovals.keys)

/-! ## Signals -/

/-- `register_approval_request`, with the result for its caller. -/
def registerApprovalRequest (client : Bool) (frame : RpcFrame) (current : RunningRuntime) :
    Bool × RunningRuntime × List ApprovalEvent :=
  if !client then (false, current, [])
  else if maxPendingApprovals ≤ current.pendingApprovals.keys.length then
    (false, current, [.refused (alreadyResolvedAnswer frame.idText)])
  else
    match pendingApprovalFromRequest frame with
    | none => (false, current, [.refused (invalidParamsAnswer frame.idText)])
    | some (approvalId, details) =>
      if approvalId ∈ current.pendingApprovals.keys ∨ approvalId ∈ current.retired.members then
        (false, current, [.refused (alreadyResolvedAnswer frame.idText)])
      else
        (true, { current with
          pendingApprovals := current.pendingApprovals.insert approvalId details },
          [.registered approvalId details])

inductive BridgeSignal
  | serverRequest (generation : ℕ) (frame : RpcFrame)
  | approvalRequest (generation : ℕ) (frame : RpcFrame)
  | turnTerminal (generation : ℕ) (threadId turnId : String)

def BridgeSignal.generation : BridgeSignal → ℕ
  | .serverRequest generation _ => generation
  | .approvalRequest generation _ => generation
  | .turnTerminal generation _ _ => generation

/-- A server request of the current generation; `client` and `later` are the two answers of
`supervisor.client()`. -/
def handleServerRequest (client later : Bool) (frame : RpcFrame) (current : RunningRuntime) :
    RunningRuntime × List ApprovalEvent :=
  if !client then (current, [])
  else if frame.method = some "secret/resolve" then (current, [.secret frame])
  else if frame.method = some "approval/request" then
    (registerApprovalRequest later frame current).2
  else (current, [.refused (methodNotFoundAnswer frame.idText)])

/-- One round of the loop of `drain_signals` while a runtime exists. -/
def handleCurrent (client later : Bool) (current : RunningRuntime) :
    BridgeSignal → RunningRuntime × List ApprovalEvent
  | .serverRequest generation frame =>
    if current.generation ≠ generation then (current, [])
    else handleServerRequest client later frame current
  | .approvalRequest generation frame =>
    if current.generation = generation then
      let registration := registerApprovalRequest client frame current
      (registration.2.1, registration.2.2 ++ [.acknowledged registration.1])
    else (current, [.acknowledged false])
  | .turnTerminal generation threadId turnId =>
    if current.generation = generation then clearTurnApprovals sweep threadId turnId current
    else (current, [])

/-- One round without a runtime. -/
def handleAbsent : BridgeSignal → List ApprovalEvent
  | .approvalRequest _ _ => [.acknowledged false]
  | _ => []

/-! ## Decisions -/

/-- `ApprovalResponseInput`, with what its function `result` builds. -/
structure ApprovalResponseInput where
  approvalId : String
  decision : String
  resolvedAt : String

def ApprovalResponseInput.result (input : ApprovalResponseInput) : Value :=
  .object (SortedMap.ofList [("decision", .string input.decision),
    ("resolvedAt", .string input.resolvedAt)])

/-- The errors of `respond_approval`. -/
inductive RespondError
  | shutdownTimeout
  | unavailable
  | alreadyResolved
  | notFound
  | process
deriving DecidableEq

/-- `respond_approval` while a runtime exists. -/
def respondCurrent (client delivers : Bool) (input : ApprovalResponseInput)
    (current : RunningRuntime) : Except RespondError Unit × RunningRuntime × List ApprovalEvent :=
  let purged := purgeExpiredApprovals sweep current
  match purged.1.pendingApprovals.lookup input.approvalId with
  | none =>
    (.error (if input.approvalId ∈ purged.1.retired.members then .alreadyResolved else .notFound),
      purged)
  | some pending =>
    let answer := Respond.result pending.requestId input.result
    if !client then (.error .process, purged)
    else if !delivers then
      (.error .process, purged.1, purged.2 ++ [.failed input.approvalId answer])
    else
      (.ok (), purged.1.retirePendingApproval input.approvalId,
        purged.2 ++ [.sent input.approvalId answer])

/-! ## Runs -/

/-- The runtime of the actor, and what happened so far. -/
structure Correlation where
  runtime : Option RunningRuntime
  history : List ApprovalEvent

/-- The calls of the actor that concern approvals. -/
inductive ApprovalAction
  | sweep (sweep : Sweep)
  | signal (sweep : Sweep) (client later : Bool) (signal : BridgeSignal)
  | respond (cancelled : Bool) (sweep : Sweep) (client delivers : Bool)
      (input : ApprovalResponseInput)
  | shutdown (sweep : Sweep)
  | release

namespace Correlation

variable (s : Correlation)

/-- The runtime goes on as it is left, with more history. -/
def proceed (outcome : RunningRuntime × List ApprovalEvent) : Correlation :=
  ⟨some outcome.1, s.history ++ outcome.2⟩

def respondApproval (cancelled : Bool) (sweep : Sweep) (client delivers : Bool)
    (input : ApprovalResponseInput) : Except RespondError Unit × Correlation :=
  if cancelled then (.error .shutdownTimeout, s)
  else
    match s.runtime with
    | none => (.error .unavailable, s)
    | some current =>
      let outcome := respondCurrent sweep client delivers input current
      (outcome.1, s.proceed outcome.2)

/-- What a call leaves behind. -/
def after : ApprovalAction → Correlation
  | .sweep sweep =>
    match s.runtime with
    | some current => s.proceed (purgeExpiredApprovals sweep current)
    | none => s
  | .signal sweep client later signal =>
    match s.runtime with
    | some current => s.proceed (handleCurrent sweep client later current signal)
    | none => { s with history := s.history ++ handleAbsent signal }
  | .respond cancelled sweep client delivers input =>
    (s.respondApproval cancelled sweep client delivers input).2
  | .shutdown sweep =>
    match s.runtime with
    | some current => s.proceed (clearGenerationApprovals sweep current)
    | none => s
  | .release => { s with runtime := none }

/-- `drain_signals`: a sweep, then the signals that wait. -/
def drainSignals (sweep : Sweep) (signals : List (Sweep × Bool × Bool × BridgeSignal)) :
    Correlation :=
  signals.foldl (fun s signal => s.after (.signal signal.1 signal.2.1 signal.2.2.1 signal.2.2.2))
    (s.after (.sweep sweep))

/-- The states of a generation after any sequence of calls. -/
def Reachable (generation : ℕ) (s : Correlation) : Prop :=
  ∃ actions : List ApprovalAction,
    s = actions.foldl after ⟨some (.start generation), []⟩

end Correlation

end JaDesktop.Bridge.Approvals
