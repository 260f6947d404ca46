import Mathlib.Logic.Function.Basic
import JaDesktop.Bridge.EventDrain
import JaDesktop.Bridge.ExitControl

/-!
# The runtime actor

One actor thread of the bridge owns the sidecar processes: it starts them, stops them and keeps what
it could not stop.  Each runtime has a worker thread that drains its events to the sink, and any
number of callers ask for the exit and retry what the actor has left in the quarantine.

A step is one access to what the threads share, with the computation up to the next one.  What a
call into the supervisor or the sink answers, and whether a deadline has passed, is the `answer` of
a step.  The wake lanes are left out: the actor looks at the fault slot in every round.
-/

namespace JaDesktop.Bridge

/-- `RunningRuntime`.  The supervisors are numbered in the order of their creation. -/
structure RunningRuntime where
  supervisor : ℕ
  generation : ℕ
deriving DecidableEq

/-- Who has to be shut down. -/
inductive Owner
  | pending (supervisor : ℕ)
  | runtime (current : RunningRuntime)
deriving DecidableEq

def Owner.supervisor : Owner → ℕ
  | .pending supervisor => supervisor
  | .runtime current => current.supervisor

/-- The number that the fault ledger has for an owner.  A supervisor that never became a runtime
counts its own starts, and it was started once. -/
def Owner.generation : Owner → ℕ
  | .pending _ => 1
  | .runtime current => current.generation

/-- Where a thread stands in `shutdown_supervisor_until` or `shutdown_components`. -/
inductive Cleanup
  | process (supervisor : ℕ)
  | requestStop (current : RunningRuntime)
  | components (current : RunningRuntime)
  /-- in `EventDrain::finish`, with what the supervisor has answered -/
  | finish (current : RunningRuntime) (supervisorOk : Bool)
  /-- the worker has not ended in time -/
  | detach (current : RunningRuntime)
  | concluded (owner : Owner) (ok : Bool)
deriving DecidableEq

def Cleanup.owner : Cleanup → Owner
  | .process supervisor => .pending supervisor
  | .requestStop current | .components current | .finish current _ | .detach current =>
    .runtime current
  | .concluded owner _ => owner

/-- The begin of the cleanup of an owner. -/
def Cleanup.start : Owner → Cleanup
  | .pending supervisor => .process supervisor
  | .runtime current => .requestStop current

/-- Who has called `stop_runtime`. -/
inductive Errand
  | command
  | request
  | exit
  /-- the cleanup after the loop -/
  | last
deriving DecidableEq

/-- Why the actor cleans up. -/
inductive Purpose
  /-- `retain_failed_supervisor` -/
  | refused
  /-- the ready status could not be emitted -/
  | unprojected
  | terminal
  | stop (errand : Errand)
deriving DecidableEq

/-- What follows a `TerminalFault::clear`. -/
inductive AfterClear
  | spawn (current : RunningRuntime)
  | close (purpose : Purpose) (current : RunningRuntime)
  | stopped (errand : Errand)
  | complete
deriving DecidableEq

/-- Where the actor stands. -/
inductive ActorAt
  | loop
  | exitCheck
  | draining
  | receiving
  /-- `start_runtime` has found nothing in its way -/
  | checked
  | starting (supervisor : ℕ)
  | clearGeneration (next : AfterClear)
  | clearReason (next : AfterClear)
  | spawning (current : RunningRuntime)
  | projecting (current : RunningRuntime)
  | loadReason (generation : ℕ)
  | exchange (generation : ℕ) (reason : Option TerminalReason)
  | terminating
  | stop (errand : Errand)
  | stopCurrent (errand : Errand)
  | stopped (errand : Errand)
  | cleaning (purpose : Purpose) (cleanup : Cleanup)
  | returned (errand : Errand) (ok : Bool)
  | leaving
  | ending
  | retaining
  | sealed
  | completing
  | ended
deriving DecidableEq

/-- Where the actor goes on when a cleanup has succeeded. -/
def Purpose.cleaned (owner : Owner) : Purpose → ActorAt
  | .refused | .unprojected => .loop
  | .terminal => .receiving
  | .stop errand =>
    match owner with
    | .pending _ => .stopCurrent errand
    | .runtime _ => .stopped errand

/-- Where the actor goes on when it has failed. -/
def Purpose.failed : Purpose → ActorAt
  | .refused | .unprojected => .loop
  | .terminal => .receiving
  | .stop errand => .returned errand false

/-- Where a worker stands in `event_drain_loop` and after it. -/
inductive WorkerAt
  | top
  | polling
  | received
  | handling
  | emitted
  | publishing (reason : TerminalReason)
  | swapping
  | leaving
  | withdrawn
  /-- it has published its completion -/
  | ended
deriving DecidableEq

structure Worker where
  generation : ℕ
  /-- the cancel lane holds its signal -/
  cancel : Bool
  place : WorkerAt
deriving DecidableEq

/-- Where a caller stands in `shutdown_with_retry_until`. -/
inductive CallerAt
  | idle
  | waiting (explicitRetry : Bool)
  | answered (explicitRetry : Bool)
  | taking (explicitRetry : Bool)
  | cleaning (explicitRetry : Bool) (cleanup : Cleanup)
  | restoring (explicitRetry : Bool) (owner : Owner)
  | settled (explicitRetry : Bool)
  | promoting (explicitRetry : Bool)
deriving DecidableEq

structure TerminalFault where
  generation : ℕ
  reason : Option TerminalReason
deriving DecidableEq

/-- What happens to the sink and to the fault slot; a runtime is known by its supervisor. -/
inductive BridgeEvent
  | ready (supervisor generation : ℕ)
  /-- a frame or a status of a worker -/
  | emitted (supervisor generation : ℕ)
  | published (supervisor generation : ℕ)
  | taken (supervisor generation : ℕ)
  | cleared (next : AfterClear)
deriving DecidableEq

/-- The bridge with its threads. -/
structure RuntimeBridge where
  created : ℕ
  /-- the shutdown of the supervisor has succeeded -/
  down : ℕ → Bool
  worker : ℕ → Option Worker
  actor : ActorAt
  runtime : Option RunningRuntime
  pendingCleanup : Option ℕ
  nextGeneration : ℕ
  /-- the actor's own `shutdown_completed` -/
  confirmed : Bool
  currentGeneration : ℕ
  terminalFault : TerminalFault
  detachedEventGeneration : ℕ
  cleanupFault : ℕ
  /-- the exit control has an attempt -/
  exiting : Bool
  /-- the shutdown lane holds a request -/
  requested : Bool
  /-- a request has been answered with success -/
  acknowledged : Bool
  quarantine : Option Owner
  shutdownCompleted : Bool
  /-- the completion of the actor -/
  done : Bool
  caller : ℕ → CallerAt
  history : List BridgeEvent

/-- The commands, as far as they matter here; `other` is every other one, and none. -/
inductive BridgeCommand
  | start
  | stop
  | other
  | disconnected
deriving DecidableEq

inductive WorkerChoice
  | proceed
  | emit (ok : Bool)
  | fail (reason : TerminalReason)
deriving DecidableEq

inductive BridgeAction
  | command (command : BridgeCommand)
  | actor (answer : Bool)
  | worker (supervisor : ℕ) (choice : WorkerChoice)
  | call (caller : ℕ) (allowRetry : Bool)
  | caller (caller : ℕ) (answer : Bool)
deriving DecidableEq

namespace RuntimeBridge

/-- A new bridge. -/
def initial : RuntimeBridge where
  created := 0
  down := fun _ => false
  worker := fun _ => none
  actor := .loop
  runtime := none
  pendingCleanup := none
  nextGeneration := 1
  confirmed := false
  currentGeneration := 0
  terminalFault := ⟨0, none⟩
  detachedEventGeneration := 0
  cleanupFault := 0
  exiting := false
  requested := false
  acknowledged := false
  quarantine := none
  shutdownCompleted := false
  done := false
  caller := fun _ => .idle
  history := []

variable (s : RuntimeBridge)

def record (event : BridgeEvent) : RuntimeBridge := { s with history := s.history ++ [event] }

def setWorker (supervisor : ℕ) (worker : Worker) : RuntimeBridge :=
  { s with worker := Function.update s.worker supervisor (some worker) }

def setCaller (caller : ℕ) (place : CallerAt) : RuntimeBridge :=
  { s with caller := Function.update s.caller caller place }

def CleanupConfirmed : Prop :=
  s.runtime = none ∧ s.pendingCleanup = none ∧ s.cleanupFault = 0 ∧ s.detachedEventGeneration = 0

instance : Decidable s.CleanupConfirmed := inferInstanceAs (Decidable (_ ∧ _))

/-- `CleanupFault::clear` exchanges a number for zero. -/
def clearFault (generation : ℕ) : RuntimeBridge :=
  { s with cleanupFault := if s.cleanupFault = generation then 0 else s.cleanupFault }

/-- The worker of the runtime has published its completion. -/
def WorkerDone (current : RunningRuntime) : Prop :=
  (s.worker current.supervisor).any fun worker => worker.place = .ended

instance (current : RunningRuntime) : Decidable (s.WorkerDone current) :=
  inferInstanceAs (Decidable (_ = true))

/-! ## Cleaning up -/

/-- One step of a cleanup, and where it stands then. -/
def clean (answer : Bool) : Cleanup → RuntimeBridge × Cleanup
  | .process supervisor =>
    (if answer then { s with down := Function.update s.down supervisor true } else s,
      .concluded (.pending supervisor) answer)
  | .requestStop current =>
    (match s.worker current.supervisor with
      | some worker => s.setWorker current.supervisor { worker with cancel := true }
      | none => s, .components current)
  | .components current =>
    (if answer then { s with down := Function.update s.down current.supervisor true } else s,
      .finish current answer)
  | .finish current supervisorOk =>
    if s.WorkerDone current then (s, .concluded (.runtime current) supervisorOk)
    else (s, if answer then .detach current else .finish current supervisorOk)
  | .detach current =>
    ({ s with detachedEventGeneration := current.generation }, .concluded (.runtime current) false)
  | .concluded owner ok => (s, .concluded owner ok)

/-- The actor keeps an owner that it could not shut down. -/
def keep : Owner → RuntimeBridge
  | .pending supervisor => { s with pendingCleanup := some supervisor }
  | .runtime current => { s with runtime := some current }

/-- The end of a cleanup by the actor.  In `stop_runtime` a deadline of the exit that has passed
meanwhile makes a failure of it. -/
def settle (purpose : Purpose) (owner : Owner) (ok expired : Bool) : RuntimeBridge :=
  let late : Bool := match purpose with
    | .stop _ => s.exiting && expired
    | _ => false
  if ok ∧ late = false then
    { s.clearFault owner.generation with actor := purpose.cleaned owner }
  else { keep { s with cleanupFault := owner.generation } owner with actor := purpose.failed }

/-! ## The actor -/

/-- The guards of `start_runtime`. -/
def startRuntime : RuntimeBridge :=
  if s.exiting ∨ s.detachedEventGeneration ≠ 0 ∨ s.cleanupFault ≠ 0 ∨ s.pendingCleanup ≠ none then
    { s with actor := .loop }
  else if s.runtime ≠ none then { s with actor := .loop }
  else { s with actor := .checked }

/-- `stop_runtime` up to the cleanup of a supervisor that never became a runtime. -/
def stopRuntime (errand : Errand) (expired : Bool) : RuntimeBridge :=
  if s.exiting ∧ expired then { s with actor := .returned errand false }
  else
    match s.pendingCleanup with
    | some supervisor =>
      { s with pendingCleanup := none, actor := .cleaning (.stop errand) (.process supervisor) }
    | none => { s with actor := .stopCurrent errand }

/-- The rest of `stop_runtime` up to the cleanup of the runtime. -/
def stopCurrent (errand : Errand) : RuntimeBridge :=
  match s.runtime with
  | none =>
    if s.cleanupFault ≠ 0 then { s with actor := .returned errand false }
    else { s with currentGeneration := 0, actor := .clearGeneration (.stopped errand) }
  | some current =>
    { s with
      runtime := none
      currentGeneration := 0
      actor := .clearGeneration (.close (.stop errand) current) }

/-- The actor after `stop_runtime`. -/
def returnFrom (errand : Errand) (ok expired : Bool) : RuntimeBridge :=
  match errand with
  | .command | .exit => { s with actor := .loop }
  | .last => { s with actor := .ending }
  | .request =>
    let s := { s with acknowledged := s.acknowledged || ok }
    if s.CleanupConfirmed then
      if expired then { s with actor := .leaving }
      else { s with
        confirmed := true, shutdownCompleted := true, actor := .clearGeneration .complete }
    else { s with actor := .exitCheck }

/-- The actor retains in the quarantine what it has not shut down. -/
def retain : RuntimeBridge :=
  if s.CleanupConfirmed then { s with actor := .sealed }
  else
    let s := match s.runtime with
      | some current => { s with
        runtime := none, cleanupFault := current.generation, quarantine := some (.runtime current) }
      | none => s
    let s := match s.pendingCleanup with
      | some supervisor => { s with
        pendingCleanup := none
        cleanupFault := (Owner.pending supervisor).generation
        quarantine := some (.pending supervisor) }
      | none => s
    { s with actor := .sealed }

/-- A step of the actor. -/
def actorStep (answer : Bool) : RuntimeBridge :=
  match s.actor with
  | .loop =>
    if s.requested then { s with requested := false, actor := .stop .request }
    else { s with actor := .exitCheck }
  | .exitCheck =>
    if s.exiting = false then { s with actor := .draining }
    else if s.CleanupConfirmed ∧ answer = false then
      { s with confirmed := true, shutdownCompleted := true, actor := .clearGeneration .complete }
    else if answer then { s with actor := .leaving }
    else { s with actor := .stop .exit }
  -- `TerminalFault::take`: load the generation, load the reason, exchange.
  | .draining =>
    match s.runtime with
    | none => { s with actor := .receiving }
    | some current =>
      if s.terminalFault.generation = 0 ∨ s.terminalFault.generation ≠ current.generation then
        { s with actor := .receiving }
      else { s with actor := .loadReason current.generation }
  | .loadReason generation => { s with actor := .exchange generation s.terminalFault.reason }
  | .exchange generation _ =>
    if s.terminalFault.generation = generation then
      match s.runtime with
      | some current =>
        { s.record (.taken current.supervisor generation) with
          terminalFault := { s.terminalFault with generation := 0 }
          actor := .terminating }
      | none => { s with actor := .receiving }
    else { s with actor := .receiving }
  | .terminating =>
    match s.runtime with
    | some current => { s with
      runtime := none
      currentGeneration := 0
      actor := .clearGeneration (.close .terminal current) }
    | none => { s with actor := .receiving }
  | .receiving => s
  -- The starting status is emitted and the supervisor made, or one of them fails.
  | .checked =>
    if answer then { s with created := s.created + 1, actor := .starting s.created }
    else { s with actor := .loop }
  -- Every failure up to the event pump ends in `retain_failed_supervisor`.
  | .starting supervisor =>
    if answer then { s with
      nextGeneration := min (s.nextGeneration + 1) u64Max
      currentGeneration := s.nextGeneration
      actor := .clearGeneration (.spawn ⟨supervisor, s.nextGeneration⟩) }
    else { s with actor := .cleaning .refused (.process supervisor) }
  | .clearGeneration next =>
    { s.record (.cleared next) with
      terminalFault := { s.terminalFault with generation := 0 }
      actor := .clearReason next }
  | .clearReason next =>
    { s with
      terminalFault := { s.terminalFault with reason := none }
      actor := match next with
        | .spawn current => .spawning current
        | .close purpose current => .cleaning purpose (.requestStop current)
        | .stopped errand => .stopped errand
        | .complete => .completing }
  | .spawning current =>
    if answer then
      { s.setWorker current.supervisor ⟨current.generation, false, .top⟩ with
        actor := .projecting current }
    else { s with
      currentGeneration := 0, actor := .cleaning .refused (.process current.supervisor) }
  | .projecting current =>
    let s := s.record (.ready current.supervisor current.generation)
    if answer then { s with runtime := some current, actor := .loop }
    else { s with currentGeneration := 0, actor := .cleaning .unprojected (.requestStop current) }
  | .stop errand => s.stopRuntime errand answer
  | .stopCurrent errand => s.stopCurrent errand
  | .stopped errand => { s with actor := .returned errand answer }
  | .cleaning purpose (.concluded owner ok) => s.settle purpose owner ok answer
  | .cleaning purpose cleanup =>
    { (s.clean answer cleanup).1 with actor := .cleaning purpose (s.clean answer cleanup).2 }
  | .returned errand ok => s.returnFrom errand ok answer
  | .leaving => { s with exiting := true, actor := .ending }
  | .ending =>
    if ¬ s.CleanupConfirmed ∧ answer = false then { s with actor := .stop .last }
    else { s with actor := .retaining }
  | .retaining => s.retain
  | .sealed =>
    { s with
      shutdownCompleted := s.shutdownCompleted || (decide s.CleanupConfirmed && !answer)
      actor := .clearGeneration .complete }
  | .completing => { s with done := true, actor := .ended }
  | .ended => s

/-- A command, when the actor receives one. -/
def commandStep (command : BridgeCommand) : RuntimeBridge :=
  if s.actor = .receiving then
    match command with
    | .start => s.startRuntime
    | .stop => { s with actor := .stop .command }
    | .other => { s with actor := .loop }
    | .disconnected => { s with exiting := true, actor := .leaving }
  else s

/-! ## The workers and the callers -/

/-- `event_is_current` takes the cancel signal. -/
def testCurrent (supervisor : ℕ) (worker : Worker) (next : WorkerAt) : RuntimeBridge :=
  if worker.cancel then s.setWorker supervisor { worker with cancel := false, place := .leaving }
  else if s.currentGeneration ≠ worker.generation then
    s.setWorker supervisor { worker with place := .leaving }
  else s.setWorker supervisor { worker with place := next }

/-- A step of a worker. -/
def workerStep (supervisor : ℕ) (choice : WorkerChoice) : RuntimeBridge :=
  match s.worker supervisor with
  | none => s
  | some worker =>
    let move (place : WorkerAt) : RuntimeBridge := s.setWorker supervisor { worker with place := place }
    match worker.place, choice with
    | .top, _ => s.testCurrent supervisor worker .polling
    -- `next_event` returns no event or one.
    | .polling, .proceed => move .received
    | .polling, _ => move .top
    | .received, _ => s.testCurrent supervisor worker .handling
    | .handling, .proceed => move .top
    | .handling, .emit ok =>
      (move (if ok then .emitted else .publishing .eventDelivery)).record
        (.emitted supervisor worker.generation)
    | .handling, .fail reason | .emitted, .fail reason => move (.publishing reason)
    | .emitted, _ => move .top
    -- `TerminalFault::publish`: store the reason, swap the generation.
    | .publishing reason, _ =>
      { move .swapping with terminalFault := { s.terminalFault with reason := some reason } }
    | .swapping, _ =>
      { (move .leaving).record (.published supervisor worker.generation) with
        terminalFault := { s.terminalFault with generation := worker.generation } }
    | .leaving, _ =>
      { move .withdrawn with
        detachedEventGeneration :=
          if s.detachedEventGeneration = worker.generation then 0 else s.detachedEventGeneration }
    | .withdrawn, _ => move .ended
    | .ended, _ => s

def NeedsRetry : Prop :=
  s.done = true ∧ (s.shutdownCompleted = false ∨ s.cleanupFault ≠ 0 ∨ s.quarantine ≠ none ∨
    s.detachedEventGeneration ≠ 0)

instance : Decidable s.NeedsRetry := inferInstanceAs (Decidable (_ ∧ _))

/-- The begin of `shutdown_with_retry_until`. -/
def callStep (caller : ℕ) (allowRetry : Bool) : RuntimeBridge :=
  if s.caller caller = .idle then
    { s.setCaller caller (.waiting (allowRetry && decide s.NeedsRetry)) with
      exiting := true
      requested := s.requested || !s.done }
  else s

/-- A step of a caller. -/
def callerStep (caller : ℕ) (answer : Bool) : RuntimeBridge :=
  match s.caller caller with
  | .idle => s
  -- It goes on when its request has succeeded or the actor has completed, or it gives up.
  | .waiting explicitRetry =>
    if (s.done || s.acknowledged) && answer then s.setCaller caller (.answered explicitRetry)
    else s.setCaller caller .idle
  | .answered explicitRetry =>
    if s.cleanupFault ≠ 0 then s.setCaller caller (.taking explicitRetry)
    else s.setCaller caller (.promoting explicitRetry)
  | .taking explicitRetry =>
    match s.quarantine with
    | none => s.setCaller caller (.settled explicitRetry)
    | some owner =>
      { s.setCaller caller (.cleaning explicitRetry (.start owner)) with quarantine := none }
  | .cleaning explicitRetry (.concluded owner ok) =>
    if ok then (s.clearFault owner.generation).setCaller caller (.settled explicitRetry)
    else { s.setCaller caller (.restoring explicitRetry owner) with
      cleanupFault := owner.generation }
  | .cleaning explicitRetry cleanup =>
    (s.clean answer cleanup).1.setCaller caller
      (.cleaning explicitRetry (s.clean answer cleanup).2)
  | .restoring explicitRetry owner =>
    { s.setCaller caller (.settled explicitRetry) with quarantine := some owner }
  | .settled explicitRetry =>
    { s.setCaller caller (.promoting explicitRetry) with
      shutdownCompleted := s.shutdownCompleted ||
        decide (s.quarantine = none ∧ s.cleanupFault = 0 ∧ answer = false) }
  -- `can_promote_completed_retry`
  | .promoting explicitRetry =>
    { s.setCaller caller .idle with
      shutdownCompleted := s.shutdownCompleted ||
        decide (explicitRetry = true ∧ s.done = true ∧ s.quarantine = none ∧ s.cleanupFault = 0 ∧
          s.detachedEventGeneration = 0 ∧ answer = false) }

/-- One step of any thread. -/
def after : BridgeAction → RuntimeBridge
  | .command command => s.commandStep command
  | .actor answer => s.actorStep answer
  | .worker supervisor choice => s.workerStep supervisor choice
  | .call caller allowRetry => s.callStep caller allowRetry
  | .caller caller answer => s.callerStep caller answer

/-- The bridge after some steps. -/
def reached (actions : List BridgeAction) : RuntimeBridge := actions.foldl after initial

end RuntimeBridge

end JaDesktop.Bridge
