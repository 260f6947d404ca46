import JaDesktop.Host.Events
import JaDesktop.Host.Initialize
import JaDesktop.Host.Lifecycle

/-!
# The supervisor of the sidecar

`SidecarSupervisor` owns the process, the session and the event pump of one generation, and is the
only one that moves the lifecycle machine.  A cleanup that fails keeps every handle for the next
attempt, and the lifecycle is `exited` only when nothing is owned.

What the process, the session and the clock answer is an argument of each operation, and terminal
signals come in before every look at their queue.  The supervisor carries a log of what it did:
each change of the lifecycle and each cleanup with what was owned, and each spawn.
-/

namespace JaDesktop.Host

/-! ## The supervisor -/

inductive TerminalReason
  | fault
  | processExited
  | closed
deriving DecidableEq

structure TerminalSignal where
  generation : ℕ
  reason : TerminalReason

/-- A handle on a process, a session or an event pump, by its generation. -/
abbrev Handle := ℕ

/-- The handles of the supervisor. -/
structure Owned where
  process : Option Handle
  session : Option Handle
  eventPump : Option Handle
deriving DecidableEq

/-- No handle. -/
def Owned.nothing : Owned := ⟨none, none, none⟩

/-- An entry of the log. -/
inductive SupervisorEffect
  | spawn (owned : Owned)
  | lifecycle (before after : LifecycleState) (owned : Owned)
  | cleanup (failed : Bool) (before after : Owned)

/-- `SidecarSupervisor`, and its log. -/
structure SidecarSupervisor where
  lifecycle : LifecycleMachine
  owned : Owned
  expectedServerInstance : Option String
  terminalSignals : List TerminalSignal
  stopping : Bool
  log : List SupervisorEffect

/-- What the close of the session and the end of the process tree answer. -/
structure CleanupAnswers where
  close : Except AgentProcessError Unit
  terminateTree : Except AgentProcessError Unit

/-- The signals that come in before a look at the queue, and the clock while they are handled. -/
structure SyncAnswers where
  arrived : List TerminalSignal
  clock : ℕ → ℕ × ℕ

/-- What a start is answered: `events` are the events up to the deadline, and `promotion` is what
the session refuses the ready notification with. -/
structure StartAnswers where
  deadline : Except AgentProcessError Unit
  sync : SyncAnswers
  earlier : CleanupAnswers
  now : ℕ
  later : ℕ
  spawn : Except AgentProcessError Unit
  takeEventPump : Except AgentProcessError Unit
  nextReadyToken : Except AgentProcessError String
  installReadyTokenChallenge : Except AgentProcessError Unit
  timeLeft : Bool
  initializeResponse : Except AgentProcessError RpcFrame
  initializedParams : Except AgentProcessError Value
  notify : Except AgentProcessError Unit
  events : List SessionEvent
  promotion : Option AgentProcessError
  readyAt : ℕ
  cleanup : CleanupAnswers

/-- What a shutdown is answered. -/
structure ShutdownAnswers where
  deadline : Except AgentProcessError Unit
  sync : SyncAnswers
  cleanup : CleanupAnswers
  afterCleanup : SyncAnswers

namespace SidecarSupervisor

/-- The supervisor of a new machine. -/
def new (m : LifecycleMachine) : SidecarSupervisor := ⟨m, .nothing, none, [], false, []⟩

variable (s : SidecarSupervisor)

/-- The error of a result. -/
def failure? {α : Type} : Except AgentProcessError α → Option AgentProcessError
  | .ok _ => none
  | .error e => some e

/-- Move the lifecycle. -/
def setLifecycle (m : LifecycleMachine) : SidecarSupervisor :=
  { s with lifecycle := m, log := s.log ++ [.lifecycle s.lifecycle.state m.state s.owned] }

def ownsResources : Bool :=
  s.owned.process.isSome || s.owned.session.isSome || s.owned.eventPump.isSome

/-- The arm of `sync_terminal_signals` for a fault or the exit of the process. -/
def handleFault (generation now later : ℕ) : SidecarSupervisor :=
  match s.lifecycle.state with
  | .starting | .ready | .busy => s.setLifecycle (s.lifecycle.recordCrash generation now later).2
  | .stopping =>
    if !s.ownsResources then s.setLifecycle (s.lifecycle.markExited generation).2 else s
  | _ => s

/-- The part of `sync_terminal_signals` that handles one signal. -/
def handleSignal (signal : TerminalSignal) (now later : ℕ) : SidecarSupervisor :=
  if !s.lifecycle.isCurrent signal.generation then s
  else
    match signal.reason with
    | .fault | .processExited => s.handleFault signal.generation now later
    | .closed =>
      if s.lifecycle.state = .stopping ∧ !s.ownsResources then
        s.setLifecycle (s.lifecycle.markExited signal.generation).2
      else s

def syncTerminalSignals (answers : SyncAnswers) : SidecarSupervisor :=
  let signals := s.terminalSignals ++ answers.arrived
  signals.zipIdx.foldl
    (fun s signal => s.handleSignal signal.1 (answers.clock signal.2).1 (answers.clock signal.2).2)
    { s with terminalSignals := [] }

/-- `cleanup_owner_until`. -/
def cleanupOwner (answers : CleanupAnswers) : Except AgentProcessError Unit × SidecarSupervisor :=
  let closeError := if s.owned.session.isSome then failure? answers.close else none
  let treeError := if s.owned.process.isSome then failure? answers.terminateTree else none
  match closeError.or treeError with
  | some error => (.error error, { s with log := s.log ++ [.cleanup true s.owned s.owned] })
  | none =>
    (.ok (), { s with owned := .nothing, log := s.log ++ [.cleanup false s.owned .nothing] })

/-- `fail_process_only_until`. -/
def failProcessOnly (answers : CleanupAnswers) : SidecarSupervisor := (s.cleanupOwner answers).2

/-- `fail_generation_until`. -/
def failGeneration (generation : ℕ) (answers : CleanupAnswers) : SidecarSupervisor :=
  let s := s.failProcessOnly answers
  s.setLifecycle (s.lifecycle.markFaulted generation).2

/-- `fail_generation_until`, and the error that a start returns. -/
def failStart (generation : ℕ) (answers : CleanupAnswers) (error : AgentProcessError) :
    Except AgentProcessError Unit × SidecarSupervisor :=
  (.error error, s.failGeneration generation answers)

/-- The loop at the end of a start, over the events that come before the deadline. -/
def awaitReady (generation : ℕ) (answers : StartAnswers) :
    List SessionEvent → Except AgentProcessError Unit × SidecarSupervisor
  | [] => s.failStart generation answers.cleanup .deadlineExceeded
  | event :: events =>
    match event with
    | .notification frame =>
      if isRuntimeReadyNotification frame then
        if !isReadyNotification frame s.expectedServerInstance then
          s.failStart generation answers.cleanup .handshakeFailed
        else
          match answers.promotion with
          | some error => s.failStart generation answers.cleanup error
          | none =>
            match s.lifecycle.markReady generation answers.readyAt with
            | (.ok (), m) => (.ok (), s.setLifecycle m)
            | (.error error, _) => s.failStart generation answers.cleanup error
      else awaitReady generation answers events
    | .processExited _ _ | .eof => s.failStart generation answers.cleanup .processExited
    | .handshakeFailed => s.failStart generation answers.cleanup .handshakeFailed
    | .writerTimedOut => s.failStart generation answers.cleanup .deadlineExceeded
    | .protocolFault _ | .queueFatalOverflow _ | .responseRejected _ =>
      s.failStart generation answers.cleanup .protocolFault
    | .serverRequest _ | .stderrLine _ | .stderrTruncated | .queueOverflow _ =>
      awaitReady generation answers events

/-- The failing ends of a start that mark the generation incompatible or faulted after the
cleanup. -/
def refuseStart (generation : ℕ) (answers : CleanupAnswers) (incompatible : Bool)
    (error : AgentProcessError) : Except AgentProcessError Unit × SidecarSupervisor :=
  let s := s.failProcessOnly answers
  if incompatible then (.error error, s.setLifecycle (s.lifecycle.markIncompatible generation).2)
  else (.error error, s.setLifecycle (s.lifecycle.markFaulted generation).2)

variable (params : Value)

/-- The part of a start after the spawn: the handshake. -/
def handshake (limits : Limits) (generation : ℕ) (answers : StartAnswers) :
    Except AgentProcessError Unit × SidecarSupervisor :=
  let fail := s.failStart generation answers.cleanup
  match answers.takeEventPump with
  | .error error => fail error
  | .ok () =>
  let s := { s with owned := { s.owned with eventPump := some generation } }
  let fail := s.failStart generation answers.cleanup
  match answers.nextReadyToken with
  | .error error => fail error
  | .ok _ =>
  match answers.installReadyTokenChallenge with
  | .error error => fail error
  | .ok () =>
  if !answers.timeLeft then fail .deadlineExceeded
  else
  match answers.initializeResponse with
  | .error error => fail error
  | .ok response =>
  match response.error with
  | some error =>
    if errorIsIncompatible error.code error.data then
      s.refuseStart generation answers.cleanup true .incompatible
    else s.refuseStart generation answers.cleanup false .protocolFault
  | none =>
  let result :=
    match response.result.value with
    | some value => checkInitializeResult params limits value
    | none => .error .protocolFault
  match result with
  | .error error => s.refuseStart generation answers.cleanup (error = .incompatible) error
  | .ok serverInstance =>
  let s := { s with expectedServerInstance := some serverInstance }
  let fail := s.failStart generation answers.cleanup
  match answers.initializedParams with
  | .error error => fail error
  | .ok _ =>
  match answers.notify with
  | .error error => fail error
  | .ok () => s.awaitReady generation answers answers.events

/-- The part of a start after the earlier owner is gone: `begin_start` and the spawn. -/
def spawnGeneration (limits : Limits) (answers : StartAnswers) :
    Except AgentProcessError Unit × SidecarSupervisor :=
  match s.lifecycle.beginStart answers.now answers.later with
  | (.error error, _) => (.error error, s)
  | (.ok generation, m) =>
  let s := s.setLifecycle m
  let s := { s with
    expectedServerInstance := none
    log := s.log ++ [SupervisorEffect.spawn s.owned] }
  match answers.spawn with
  | .error error => (.error error, s.setLifecycle (s.lifecycle.markFaulted generation).2)
  | .ok () =>
  let s := { s with
    owned := { s.owned with process := some generation, session := some generation } }
  s.handshake params limits generation answers

def start (limits : Limits) (answers : StartAnswers) :
    Except AgentProcessError Unit × SidecarSupervisor :=
  match answers.deadline with
  | .error error => (.error error, s)
  | .ok () =>
  let s := { s.syncTerminalSignals answers.sync with stopping := false }
  if (s.lifecycle.state = .exited ∨ s.lifecycle.state = .backoff) ∧
      (s.owned.process.isSome ∨ s.owned.session.isSome) then
    let s := s.failProcessOnly answers.earlier
    if s.ownsResources then (.error .processTree, s)
    else s.spawnGeneration params limits answers
  else s.spawnGeneration params limits answers

def restart (limits : Limits) (sync : SyncAnswers) (now later : ℕ)
    (answers : StartAnswers) : Except AgentProcessError Unit × SidecarSupervisor :=
  let s := s.syncTerminalSignals sync
  if s.lifecycle.state = .backoff ∧ !s.lifecycle.backoffDue now then
    (.error (.backoff (s.lifecycle.retryAfter later)), s)
  else { s with stopping := false }.start params limits answers

variable (sync : SyncAnswers)

def scheduleRestart (now later : ℕ) (cleanup : CleanupAnswers) :
    LifecycleState × SidecarSupervisor :=
  let s := s.syncTerminalSignals sync
  let crash := s.lifecycle.recordCrash s.lifecycle.generation now later
  (crash.1, (s.setLifecycle crash.2).failProcessOnly cleanup)

/-- `shutdown`; the request to the sidecar leaves the supervisor alone, whatever its answer. -/
def shutdown (answers : ShutdownAnswers) : Except AgentProcessError Unit × SidecarSupervisor :=
  match answers.deadline with
  | .error error => (.error error, s)
  | .ok () =>
  let s := { s with stopping := true }.syncTerminalSignals answers.sync
  let generation := s.lifecycle.generation
  if ¬ s.lifecycle.Active ∧ s.lifecycle.state ≠ .stopping ∧ !s.ownsResources then (.ok (), s)
  else
  let begun : Except AgentProcessError SidecarSupervisor :=
    if s.lifecycle.Active then
      match s.lifecycle.beginStop generation with
      | (.ok (), m) => .ok (s.setLifecycle m)
      | (.error error, _) => .error error
    else .ok s
  match begun with
  | .error error => (.error error, s)
  | .ok s =>
  match s.cleanupOwner answers.cleanup with
  | (.error error, s) => (.error error, s)
  | (.ok (), s) =>
  let s := s.syncTerminalSignals answers.afterCleanup
  (.ok (), s.setLifecycle (s.lifecycle.markExited generation).2)

/-- `request`; the session answers with `result`. -/
def request (result : Except AgentProcessError RpcFrame)
    (afterRequest : SyncAnswers) : Except AgentProcessError RpcFrame × SidecarSupervisor :=
  let s := s.syncTerminalSignals sync
  if s.stopping then (.error .shuttingDown, s)
  else if s.lifecycle.state ≠ .ready then
    (.error (if s.lifecycle.state = .stopping then .shuttingDown else .notReady), s)
  else
  let generation := s.lifecycle.generation
  match s.lifecycle.markBusy generation with
  | (.error error, _) => (.error error, s)
  | (.ok (), m) =>
  let s := s.setLifecycle m
  match s.owned.session with
  | none => (.error .notReady, s)
  | some _ =>
  let s := s.setLifecycle (s.lifecycle.markReadyAgain generation).2
  (result, s.syncTerminalSignals afterRequest)

def takeEventPump : Except AgentProcessError Handle × SidecarSupervisor :=
  let s := s.syncTerminalSignals sync
  match s.owned.eventPump with
  | some pump => (.ok pump, { s with owned := { s.owned with eventPump := none } })
  | none => (.error .invalidState, s)

def state : LifecycleState × SidecarSupervisor :=
  let s := s.syncTerminalSignals sync
  (s.lifecycle.state, s)

def client : Except AgentProcessError (Handle × ℕ) × SidecarSupervisor :=
  let s := s.syncTerminalSignals sync
  if s.stopping then (.error .shuttingDown, s)
  else
    match s.lifecycle.state with
    | .ready | .busy =>
      match s.owned.session with
      | some session => (.ok (session, s.lifecycle.generation), s)
      | none => (.error .notReady, s)
    | .stopping => (.error .shuttingDown, s)
    | _ => (.error .notReady, s)

/-- `next_event`; the pump answers with `event`. -/
def nextEvent (event : Option SessionEvent) (afterEvent : SyncAnswers) :
    Option SessionEvent × SidecarSupervisor :=
  let s := s.syncTerminalSignals sync
  (if s.owned.eventPump.isSome then event else none, s.syncTerminalSignals afterEvent)

/-- The operations of the supervisor with what they are answered, and the arrival of a signal. -/
inductive Action
  | signal (signal : TerminalSignal)
  | start (answers : StartAnswers)
  | restart (sync : SyncAnswers) (now later : ℕ) (answers : StartAnswers)
  | scheduleRestart (sync : SyncAnswers) (now later : ℕ) (cleanup : CleanupAnswers)
  | shutdown (answers : ShutdownAnswers)
  | request (sync : SyncAnswers) (result : Except AgentProcessError RpcFrame)
      (afterRequest : SyncAnswers)
  | takeEventPump (sync : SyncAnswers)
  | state (sync : SyncAnswers)
  | client (sync : SyncAnswers)
  | nextEvent (sync : SyncAnswers) (event : Option SessionEvent) (afterEvent : SyncAnswers)

/-- The supervisor after an action. -/
def after (limits : Limits) : Action → SidecarSupervisor
  | .signal signal => { s with terminalSignals := s.terminalSignals ++ [signal] }
  | .start answers => (s.start params limits answers).2
  | .restart sync now later answers => (s.restart params limits sync now later answers).2
  | .scheduleRestart sync now later cleanup => (s.scheduleRestart sync now later cleanup).2
  | .shutdown answers => (s.shutdown answers).2
  | .request sync result afterRequest => (s.request sync result afterRequest).2
  | .takeEventPump sync => (s.takeEventPump sync).2
  | .state sync => (s.state sync).2
  | .client sync => (s.client sync).2
  | .nextEvent sync event afterEvent => (s.nextEvent sync event afterEvent).2

/-- An action, as a step of the system. -/
def Step (limits : Limits) (s : SidecarSupervisor) (action : Action)
    (s' : SidecarSupervisor) : Prop :=
  s' = s.after params limits action

end SidecarSupervisor

end JaDesktop.Host
