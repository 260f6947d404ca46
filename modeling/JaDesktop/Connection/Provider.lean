import Mathlib
import JaDesktop.Connection.Inputs
import JaDesktop.Lib.SerialQueue

/-!
# The owner of the runtime connection

`ConnectionProvider` owns the lifecycle of the runtime for the WebView.  Its methods queue native
commands, one of which runs at a time, and go on when these settle; host events and the effect of
its component come between.  Each step here is one of these: a call, an event, the start or the
settling of a native command, one continuation, or a stage of the effect.

The references of the component are the fields of `Provider`.  An operation is in flight until it
has settled, so the map of operations in flight is the queue itself.  The projection into the
timeline store is left out.
-/

namespace JaDesktop.Connection

/-! ## State -/

inductive BootState
  | idle
  | connecting
  | ready
  | busy
  | stopped
  | recoveryRequired
  | degraded (message : String)
  | failed (message : String)
deriving DecidableEq

structure TurnAdmissionGate where
  lifecycleEpoch : ℕ
  generation : ℕ
deriving DecidableEq

/-- What `configureOperationKey` keeps of an input. -/
structure ConfigureKey where
  workspaceId : String
  trust : Trust
  revision : ℕ
  activeProfileRevision : String
  profileRevisions : List String
  mcpRevisions : List String
deriving DecidableEq

/-- The key of an operation; an identifier has no colon, so its text names the key. -/
inductive OperationKey
  | configureAndStart (key : ConfigureKey)
  /-- nothing is queued with this key -/
  | start
  | stop
  | state
  | recoveryState
  | acknowledgeRecovery
  | turnStart (threadId : String)
  | turnCancel (threadId turnId : String)
  | approvalRespond (approvalId : String)
  | runtimeQuery (input : RuntimeQueryInput)
deriving DecidableEq

/-- An operation, with what it has captured. -/
inductive Operation
  | configureAndStart (input : RuntimeConfigureInput) (lifecycleEpoch intent : ℕ)
  | stop
  | state
  | recoveryState
  | acknowledgeRecovery (confirmation : ManualRecoveryConfirmation)
  | turnStart (input : TurnStartInput) (lifecycleEpoch generation : ℕ)
  | turnCancel (input : TurnCancelInput) (expectedGeneration : Option ℕ)
  | approvalRespond (input : ApprovalResponseInput)
  | query (input : RuntimeQueryInput)
deriving DecidableEq

/-- A continuation, with what it has captured. -/
inductive Waiter
  | configureAndStart (input : RuntimeConfigureInput) (lifecycleEpoch intent : ℕ)
  /-- the rest of a start, after its sidecar has been stopped -/
  | lateStart (input : RuntimeConfigureInput) (epoch : ℕ) (status : RuntimeStatus)
  | stop (lifecycleEpoch : ℕ)
  /-- the end of the effect -/
  | cleanup
  | refresh (lifecycleEpoch : ℕ)
  | setup (lifecycleEpoch : ℕ)
  | recovery (lifecycleEpoch : ℕ)
  | submitTurn (input : TurnStartInput) (lifecycleEpoch generation : ℕ)
  | cancelTurn (input : TurnCancelInput)
  | approvalRespond (input : ApprovalResponseInput)
  | query (input : RuntimeQueryInput) (generation : ℕ)
  | acknowledgeRecovery (reason : RecoveryReason) (lifecycleEpoch : ℕ)
deriving DecidableEq

/-- How far the running operation is: `configureAndStart` has a second command. -/
inductive Phase
  | configuring
  | last
deriving DecidableEq

/-- A call of a method. -/
inductive Call
  | configureAndStart (input : RuntimeConfigureInput)
  | stop
  | submitTurn (input : TurnStartInput)
  | cancelTurn (input : TurnCancelInput)
  | approvalRespond (input : ApprovalResponseInput)
  | queryRuntime (input : RuntimeQueryInput)
  | acknowledgeRecovery (reason : RecoveryReason)
deriving DecidableEq

/-- An event of the host. -/
inductive HostEvent
  | status (status : RuntimeStatus)
  /-- an event of the timeline, which may complete a turn -/
  | timeline (completed : Bool)
deriving DecidableEq

/-- What is seen of the provider. -/
inductive Output
  /-- a call, with the epoch of the operation that it waits for -/
  | called (call : Call) (epoch : Option ℕ)
  | queue (event : QueueEvent)
  | native (epoch : ℕ) (call : NativeCall)
  /-- a status event comes -/
  | delivered (status : RuntimeStatus)
  /-- a status becomes the state of the runtime -/
  | took (status : RuntimeStatus)
  /-- a start is committed with a ready status, which binds the turn gate -/
  | opened (epoch generation : ℕ)
  | resolved (call : Call) (epoch : ℕ) (result : NativeResult)
  /-- a call is rejected, by the operation that it has waited for or at once -/
  | rejected (call : Call) (epoch : Option ℕ) (error : RuntimeHostError)
  | unmounted
deriving DecidableEq

/-- The stages of the effect. -/
inductive Setup
  | unmounted
  /-- the cleanup of the effect before is awaited -/
  | cleaning
  | recovering
  | subscribing (required : Bool)
  | subscribed
  /-- the setup has failed and gives up its subscription -/
  | failing
  | failed
deriving DecidableEq

abbrev Operations := SerialQueue OperationKey Operation Waiter Outcome Phase

/-- The provider; `log` is what has been seen of it. -/
structure Provider where
  boot : BootState
  runtimeState : Option RuntimeStatus
  recovery : Option RuntimeRecoveryState
  lifecycleEpoch : ℕ
  operations : Operations
  started : Bool
  turnGate : Option TurnAdmissionGate
  configurationIntent : ℕ
  setup : Setup
  log : List Output

namespace Provider

/-- The component before its effect. -/
def initial : Provider :=
  ⟨.idle, none, none, 0, ⟨0, [], none, []⟩, false, none, 0, .unmounted, []⟩

/-! ## Errors -/

def recoveryError : RuntimeHostError := ⟨"RECOVERY_REQUIRED", "需要先完成运行时恢复", false⟩

def unreadRecovery : RuntimeHostError := ⟨"RECOVERY_REQUIRED", "需要先读取运行时恢复状态", false⟩

def configInvalid : RuntimeHostError := ⟨"RUNTIME_CONFIG_INVALID", "运行时配置不可用", false⟩

def startCancelled : RuntimeHostError := ⟨"RUNTIME_UNAVAILABLE", "运行时启动已取消", true⟩

def unavailable : RuntimeHostError := ⟨"RUNTIME_UNAVAILABLE", "运行时暂不可用", true⟩

def notConfigured : RuntimeHostError := ⟨"RUNTIME_NOT_READY", "运行时尚未完成配置", true⟩

def stateChanged : RuntimeHostError := ⟨"RUNTIME_NOT_READY", "运行时状态已变化，请重试", true⟩

/-! ## Helpers of the component -/

def bootForStatus (status : RuntimeStatus) : BootState :=
  match status.status with
  | .ready => .ready
  | .busy => .busy
  | .recoveryRequired => .recoveryRequired
  | .stopped => .stopped
  | .starting | .stopping => .connecting
  | .crashed | .incompatible | .faulted => .degraded "运行时需要重新启动"

def statusBelongsToCurrentGeneration (status : RuntimeStatus) : Option RuntimeStatus → Bool
  | none => true
  | some current =>
    if status.generation = 0 then current.generation = 0
    else current.generation = 0 ∨ current.generation ≤ status.generation

def configureOperationKey (input : RuntimeConfigureInput) : ConfigureKey where
  workspaceId := input.workspaceId
  trust := input.trust
  revision := input.settings.revision.getD 0
  activeProfileRevision := input.settings.activeProfileRevision.getD ""
  profileRevisions := (input.settings.profiles.getD []).map ModelProfileSetting.profileRevision
  mcpRevisions := (input.settings.mcpServers.getD []).map McpServerSetting.mcpRevision

variable (s : Provider)

def emit (output : Output) : Provider := { s with log := s.log ++ [output] }

def updateBoot (next : BootState) : Provider := { s with boot := next }

def updateRuntimeState (next : RuntimeStatus) : Provider :=
  { s with runtimeState := some next, log := s.log ++ [.took next] }

def updateRecovery (next : RuntimeRecoveryState) : Provider := { s with recovery := some next }

def revokeTurnGate : Provider := { s with turnGate := none }

def isTurnGenerationCurrent (lifecycleEpoch generation : ℕ) : Bool :=
  s.turnGate = some ⟨lifecycleEpoch, generation⟩ ∧ s.lifecycleEpoch = lifecycleEpoch ∧
    s.runtimeState.map RuntimeStatus.generation = some generation

def isTurnGateCurrent (lifecycleEpoch generation : ℕ) : Bool :=
  s.isTurnGenerationCurrent lifecycleEpoch generation ∧ s.boot = .ready

def enqueueOperation (key : OperationKey) (operation : Operation) (waiter : Waiter) : Provider :=
  { s with
    operations := s.operations.enqueue key operation waiter
    log := s.log ++ if s.operations.has key then []
      else [.queue (.queued (s.operations.epoch + 1))] }

/-- A call that waits for an operation. -/
def call (call : Call) (key : OperationKey) (operation : Operation) (waiter : Waiter) : Provider :=
  (s.emit (.called call (some (s.operations.epochOf key)))).enqueueOperation key operation waiter

/-- A call that is refused at once. -/
def refuse (call : Call) (error : RuntimeHostError) : Provider :=
  (s.emit (.called call none)).emit (.rejected call none error)

def isCurrentOperation (operationEpoch lifecycleEpoch : ℕ) : Bool :=
  s.operations.epoch = operationEpoch ∧ s.lifecycleEpoch = lifecycleEpoch

/-- `commitStatus`; it returns `isCurrentOperation`. -/
def commitStatus (status : RuntimeStatus) (operationEpoch lifecycleEpoch : ℕ) : Provider :=
  if s.isCurrentOperation operationEpoch lifecycleEpoch then
    let s := if s.turnGate.any fun gate => gate.lifecycleEpoch ≠ lifecycleEpoch ∨
        gate.generation ≠ status.generation ∨ status.status.serves = false then s.revokeTurnGate
      else s
    (s.updateRuntimeState status).updateBoot (bootForStatus status)
  else s

/-- The boot state after a failure of a current operation. -/
def failCurrent (operationEpoch lifecycleEpoch : ℕ) (next : BootState) : Provider :=
  if s.isCurrentOperation operationEpoch lifecycleEpoch then s.updateBoot next else s

/-- Queue the state read of `refreshState`. -/
def refreshState (lifecycleEpoch : ℕ) : Provider :=
  s.enqueueOperation .state .state (.refresh lifecycleEpoch)

/-- The recovery blocks a method. -/
def blocked : Bool :=
  s.recovery.any RuntimeRecoveryState.required ∨ s.boot = .recoveryRequired

/-! ## Methods -/

variable (adapter : RuntimeHostAdapter)

def configureAndStart (input : RuntimeConfigureInput) : Provider :=
  let s := s.revokeTurnGate
  if s.blocked then s.refuse (.configureAndStart input) recoveryError
  else if adapter.configure = false then
    (s.updateBoot (.failed configInvalid.message)).refuse (.configureAndStart input) configInvalid
  else
    let s := s.updateBoot .connecting
    let key : OperationKey := .configureAndStart (configureOperationKey input)
    let intent := if s.operations.has key then s.configurationIntent else s.configurationIntent + 1
    { s with configurationIntent := intent }.call (.configureAndStart input) key
      (.configureAndStart input s.lifecycleEpoch intent)
      (.configureAndStart input s.lifecycleEpoch intent)

def stop : Provider :=
  (s.revokeTurnGate.updateBoot .connecting).call .stop .stop .stop (.stop s.lifecycleEpoch)

def submitTurn (input : TurnStartInput) : Provider :=
  match s.turnGate with
  | none => s.refuse (.submitTurn input) notConfigured
  | some gate =>
    if s.isTurnGateCurrent s.lifecycleEpoch gate.generation = false then
      s.refuse (.submitTurn input) notConfigured
    else s.call (.submitTurn input) (.turnStart input.threadId)
      (.turnStart input s.lifecycleEpoch gate.generation)
      (.submitTurn input s.lifecycleEpoch gate.generation)

def cancelTurn (input : TurnCancelInput) : Provider :=
  if s.blocked then s.refuse (.cancelTurn input) recoveryError
  else if adapter.turnCancel = false then s.refuse (.cancelTurn input) unavailable
  else s.call (.cancelTurn input) (.turnCancel input.threadId input.turnId)
    (.turnCancel input (s.runtimeState.map RuntimeStatus.generation)) (.cancelTurn input)

def approvalRespond (input : ApprovalResponseInput) : Provider :=
  if adapter.approvalRespond = false then s.refuse (.approvalRespond input) unavailable
  else s.call (.approvalRespond input) (.approvalRespond input.approvalId)
    (.approvalRespond input) (.approvalRespond input)

def queryRuntime (input : RuntimeQueryInput) : Provider :=
  let generation := (s.runtimeState.map RuntimeStatus.generation).getD 0
  if generation = 0 ∨ s.boot ≠ .ready then s.refuse (.queryRuntime input) notConfigured
  else if adapter.query = false then s.refuse (.queryRuntime input) unavailable
  else s.call (.queryRuntime input) (.runtimeQuery input) (.query input) (.query input generation)

def acknowledgeRecovery (reason : RecoveryReason) : Provider :=
  let s := s.revokeTurnGate
  match s.recovery with
  | some ⟨true, _, some recoveryId, some revision⟩ =>
    (s.updateBoot .connecting).call (.acknowledgeRecovery reason) .acknowledgeRecovery
      (.acknowledgeRecovery ⟨recoveryId, revision, reason⟩)
      (.acknowledgeRecovery reason s.lifecycleEpoch)
  | _ => s.refuse (.acknowledgeRecovery reason) unreadRecovery

def method : Call → Provider
  | .configureAndStart input => s.configureAndStart adapter input
  | .stop => s.stop
  | .submitTurn input => s.submitTurn input
  | .cancelTurn input => s.cancelTurn adapter input
  | .approvalRespond input => s.approvalRespond adapter input
  | .queryRuntime input => s.queryRuntime adapter input
  | .acknowledgeRecovery reason => s.acknowledgeRecovery reason

/-! ## Host events -/

/-- `handleEvent` drops a status. -/
def dropsStatus (status : RuntimeStatus) : Bool :=
  let stopPending := s.operations.has .stop
  let startPending := s.operations.has .start
  (stopPending ∧ (status.status = .starting ∨ status.status.serves)) ∨
    (startPending ∧ status.status = .stopped) ∨
    statusBelongsToCurrentGeneration status s.runtimeState = false

/-- `handleEvent` of a status. -/
def handleStatus (status : RuntimeStatus) : Provider :=
  let s := s.emit (.delivered status)
  let s := if s.turnGate.any fun gate => gate.lifecycleEpoch ≠ s.lifecycleEpoch ∨
      gate.generation ≠ status.generation ∨ status.status.serves = false then s.revokeTurnGate
    else s
  if s.dropsStatus status then s
  else
    let s := (s.updateRuntimeState status).updateBoot (bootForStatus status)
    if status.status = .recoveryRequired then
      s.enqueueOperation .recoveryState .recoveryState (.recovery s.lifecycleEpoch)
    else s

/-- `handleEvent`, while the effect is subscribed. -/
def handleEvent (event : HostEvent) : Provider :=
  match s.setup with
  | .subscribing _ | .subscribed | .failing =>
    match event with
    | .status status => s.handleStatus status
    | .timeline true => s.refreshState s.lifecycleEpoch
    | .timeline false => s
  | _ => s

/-! ## The queue -/

/-- The running operation settles. -/
def settleFirst (epoch : ℕ) (outcome : Outcome) : Provider :=
  { s.emit (.queue (.settled epoch)) with operations := s.operations.settle outcome }

/-- A native command of the running operation. -/
def invoke (epoch : ℕ) (native : NativeCall) (phase : Phase) : Provider :=
  { s.emit (.native epoch native) with operations := s.operations.advance phase }

/-- What the function of an operation does first. -/
def execute (epoch : ℕ) : Operation → Provider
  | .configureAndStart input _ _ => s.invoke epoch (.configure input) .configuring
  | .stop => s.invoke epoch .stop .last
  | .state => s.invoke epoch .state .last
  | .recoveryState => s.invoke epoch .recoveryState .last
  | .acknowledgeRecovery confirmation => s.invoke epoch (.acknowledgeRecovery confirmation) .last
  | .turnStart input lifecycleEpoch generation =>
    if s.isTurnGateCurrent lifecycleEpoch generation then s.invoke epoch (.turnStart input) .last
    else s.settleFirst epoch (.error stateChanged)
  | .turnCancel input expectedGeneration =>
    let currentGeneration := s.runtimeState.map RuntimeStatus.generation
    if expectedGeneration ≠ none ∧ currentGeneration ≠ none ∧
        currentGeneration ≠ expectedGeneration then s.settleFirst epoch (.error stateChanged)
    else s.invoke epoch (.turnCancel input) .last
  | .approvalRespond input => s.invoke epoch (.approvalRespond input) .last
  | .query input => s.invoke epoch (.query input) .last

/-- The first operation begins, when none runs. -/
def begin : Provider :=
  match s.operations.running, s.operations.queue with
  | none, first :: _ => (s.emit (.queue (.begun first.epoch))).execute first.epoch first.operation
  | _, _ => s

/-- A native command settles. -/
def settle (outcome : Outcome) : Provider :=
  match s.operations.running, s.operations.queue with
  | some .last, first :: _ => s.settleFirst first.epoch outcome
  | some .configuring, first :: _ =>
    match outcome, first.operation with
    | .ok _, .configureAndStart _ lifecycleEpoch intent =>
      if s.lifecycleEpoch ≠ lifecycleEpoch ∨ s.configurationIntent ≠ intent ∨
          s.operations.has .stop then s.settleFirst first.epoch (.error startCancelled)
      else { s with started := false }.invoke first.epoch .start .last
    | outcome, _ => s.settleFirst first.epoch outcome
  | _, _ => s

/-! ## Continuations -/

/-- The boot state after a start has failed. -/
def bootForError (error : RuntimeHostError) : BootState :=
  if error.code = "RECOVERY_REQUIRED" then .recoveryRequired else .failed error.message

/-- Stop what has been started. -/
def stopStarted : Provider :=
  if s.started then s.enqueueOperation .stop .stop .cleanup else s

/-- The setup fails; a subscription is given up first. -/
def failSetup (error : RuntimeHostError) (hasSubscribed : Bool) : Provider :=
  if error.code = "NOT_CONFIGURED" then
    { s.updateBoot .stopped with setup := if hasSubscribed then s.setup else .failed }
  else if hasSubscribed then { s.updateBoot (bootForError error) with setup := .failing }
  else { s.updateBoot (bootForError error) with setup := .failed }.stopStarted

/-- The rest of `configureAndStart` after a start. -/
def startSettled (input : RuntimeConfigureInput) (epoch lifecycleEpoch intent : ℕ)
    (status : RuntimeStatus) : Provider :=
  let started : Bool := status.status ≠ .stopped ∧ status.status ≠ .recoveryRequired
  let s := { s with started := started }
  if started ∧ s.lifecycleEpoch ≠ lifecycleEpoch then
    s.enqueueOperation .stop .stop (.lateStart input epoch status)
  else
    let committed : Bool := s.configurationIntent = intent ∧
      s.isCurrentOperation epoch lifecycleEpoch
    let s := if committed then s.commitStatus status epoch lifecycleEpoch else s
    let s := if committed ∧ status.status = .ready ∧ 0 < status.generation then
        { s with turnGate := some ⟨lifecycleEpoch, status.generation⟩ }.emit
          (.opened epoch status.generation)
      else s
    s.emit (.resolved (.configureAndStart input) epoch (.status status))

/-- A continuation goes on with the outcome of its operation; an outcome of another kind does not
come. -/
def goOn (epoch : ℕ) (waiter : Waiter) (outcome : Outcome) : Provider :=
  match waiter, outcome with
  | .configureAndStart input lifecycleEpoch intent, .ok (.status status) =>
    s.startSettled input epoch lifecycleEpoch intent status
  | .configureAndStart input lifecycleEpoch _, .error error =>
    (s.failCurrent epoch lifecycleEpoch (bootForError error)).emit
      (.rejected (.configureAndStart input) (some epoch) error)
  | .lateStart input epoch status, _ =>
    { s with started := false }.emit (.resolved (.configureAndStart input) epoch (.status status))
  | .stop lifecycleEpoch, .ok (.status status) =>
    ({ s with started := false }.commitStatus status epoch lifecycleEpoch).emit
      (.resolved .stop epoch (.status status))
  | .stop lifecycleEpoch, .error error =>
    (s.failCurrent epoch lifecycleEpoch (.failed error.message)).emit
      (.rejected .stop (some epoch) error)
  | .cleanup, _ => { s with started := false }
  | .refresh lifecycleEpoch, .ok (.status status) => s.commitStatus status epoch lifecycleEpoch
  | .refresh lifecycleEpoch, .error error =>
    if error.code = "NOT_CONFIGURED" then s.commitStatus ⟨.stopped, 0, none⟩ epoch lifecycleEpoch
    else s.failCurrent epoch lifecycleEpoch (.failed error.message)
  | .setup lifecycleEpoch, .ok (.status status) => s.commitStatus status epoch lifecycleEpoch
  | .setup lifecycleEpoch, .error error =>
    if s.lifecycleEpoch = lifecycleEpoch then s.failSetup error true else s
  | .recovery lifecycleEpoch, .ok (.recovery next) =>
    if s.isCurrentOperation epoch lifecycleEpoch then
      (s.updateRecovery next).updateBoot .recoveryRequired
    else s
  | .submitTurn input lifecycleEpoch generation, .ok result =>
    if s.isTurnGenerationCurrent lifecycleEpoch generation then
      s.emit (.resolved (.submitTurn input) epoch result)
    else s.emit (.rejected (.submitTurn input) (some epoch) stateChanged)
  | .submitTurn input _ _, .error error => s.emit (.rejected (.submitTurn input) (some epoch) error)
  | .cancelTurn input, .ok result => s.emit (.resolved (.cancelTurn input) epoch result)
  | .cancelTurn input, .error error => s.emit (.rejected (.cancelTurn input) (some epoch) error)
  | .approvalRespond input, .ok result => s.emit (.resolved (.approvalRespond input) epoch result)
  | .approvalRespond input, .error error =>
    s.emit (.rejected (.approvalRespond input) (some epoch) error)
  | .query input generation, .ok result =>
    if s.runtimeState.map RuntimeStatus.generation = some generation ∧ s.boot = .ready then
      s.emit (.resolved (.queryRuntime input) epoch result)
    else s.emit (.rejected (.queryRuntime input) (some epoch) stateChanged)
  | .query input _, .error error => s.emit (.rejected (.queryRuntime input) (some epoch) error)
  | .acknowledgeRecovery reason lifecycleEpoch, .ok (.recovery next) =>
    let s := if s.isCurrentOperation epoch lifecycleEpoch then
        (s.updateRecovery next).updateBoot
          (if next.required then .recoveryRequired else .stopped)
      else s
    s.emit (.resolved (.acknowledgeRecovery reason) epoch (.recovery next))
  | .acknowledgeRecovery reason lifecycleEpoch, .error error =>
    (s.failCurrent epoch lifecycleEpoch .recoveryRequired).emit
      (.rejected (.acknowledgeRecovery reason) (some epoch) error)
  | _, _ => s

/-- The first continuation goes on. -/
def resume : Provider :=
  match s.operations.settled with
  | [] => s
  | next :: _ =>
    { s with operations := s.operations.resume }.goOn next.epoch next.waiter next.result

/-! ## The effect -/

/-- The effect runs. -/
def mount : Provider :=
  if s.setup = .unmounted then
    { s with lifecycleEpoch := s.lifecycleEpoch + 1, setup := .cleaning }
  else s

/-- The setup goes on after the cleanup before it. -/
def cleaned : Provider :=
  if s.setup = .cleaning then
    { s.revokeTurnGate.updateBoot .idle with setup := .recovering }
  else s

/-- `runtime.recoveryState()` of the setup settles. -/
def recovered (outcome : Except RuntimeHostError RuntimeRecoveryState) : Provider :=
  if s.setup = .recovering then
    match outcome with
    | .ok current => { s.updateRecovery current with setup := .subscribing current.required }
    | .error error => s.failSetup error false
  else s

/-- `runtime.subscribe` settles. -/
def subscribed (outcome : Except RuntimeHostError Unit) : Provider :=
  match s.setup, outcome with
  | .subscribing true, .ok () => { s.updateBoot .recoveryRequired with setup := .subscribed }
  | .subscribing false, .ok () =>
    { s with setup := .subscribed }.enqueueOperation .state .state (.setup s.lifecycleEpoch)
  | .subscribing _, .error error => s.failSetup error false
  | _, _ => s

/-- A setup that fails has given up its subscription. -/
def unsubscribed : Provider :=
  if s.setup = .failing then { s with setup := .failed }.stopStarted else s

/-- The effect is cleaned up. -/
def unmount : Provider :=
  if s.setup = .unmounted then s
  else
    { s.revokeTurnGate.emit .unmounted with
      lifecycleEpoch := s.lifecycleEpoch + 1
      operations := s.operations.supersede
      configurationIntent := s.configurationIntent + 1
      setup := .unmounted }

/-- The rest of a cleanup, before the next setup goes on. -/
def cleanup : Provider :=
  if s.setup = .unmounted ∨ s.setup = .cleaning then s.stopStarted else s

end Provider

/-! ## Runs -/

/-- What happens to a provider. -/
inductive ProviderAction
  | call (call : Call)
  | event (event : HostEvent)
  | begin
  | settle (outcome : Outcome)
  | resume
  | mount
  | cleaned
  | recovered (outcome : Except RuntimeHostError RuntimeRecoveryState)
  | subscribed (outcome : Except RuntimeHostError Unit)
  | unsubscribed
  | unmount
  | cleanup

namespace Provider

def act (adapter : RuntimeHostAdapter) (s : Provider) : ProviderAction → Provider
  | .call call => s.method adapter call
  | .event event => s.handleEvent event
  | .begin => s.begin
  | .settle outcome => s.settle outcome
  | .resume => s.resume
  | .mount => s.mount
  | .cleaned => s.cleaned
  | .recovered outcome => s.recovered outcome
  | .subscribed outcome => s.subscribed outcome
  | .unsubscribed => s.unsubscribed
  | .unmount => s.unmount
  | .cleanup => s.cleanup

/-- The provider after some actions. -/
def after (adapter : RuntimeHostAdapter) (s : Provider) (actions : List ProviderAction) : Provider :=
  actions.foldl (act adapter) s

end Provider

end JaDesktop.Connection
