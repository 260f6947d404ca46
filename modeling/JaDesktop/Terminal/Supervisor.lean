import JaDesktop.Terminal.Session

/-!
# The supervisor of the terminals

The map of the sessions and the quota on it, the calls that close a session, and the tracker that
collects the workers of a session.  A step is one section under a mutex, or one step of a thread of a
session.  `open` holds the mutex of the map from its `retain` to its insertion, so it is one step.
What the process tree, the clock and the system answer is a part of the step; waits end at any moment.
The identifiers of the sessions are numbers, and a new one is always fresh.
-/

namespace JaDesktop.Terminal

/-! ## Workers -/

/-- The workers of a session. -/
inductive Worker
  | reader
  | writer
  | resize
  | child
deriving DecidableEq

namespace Worker

/-- The workers in the order in which `spawn_workers` registers them. -/
def all : List Worker := [reader, writer, resize, child]

/-- The thread of a worker. -/
def thread : Worker → Thread
  | reader => .reader
  | writer => .writer
  | resize => .resize
  | child => .child

end Worker

/-- The worker that a thread is. -/
def Thread.worker : Thread → Option Worker
  | reader => some .reader
  | writer => some .writer
  | resize => some .resize
  | child => some .child
  | caller _ => none

/-- How far the closure of a worker is: it runs, its `WorkerGuard` has been dropped, or the thread has
finished. -/
inductive Life
  | running
  | released (panicked : Bool)
  | finished (panicked : Bool)
deriving DecidableEq

/-- `JoinHandle::is_finished`. -/
def Life.isFinished : Life → Bool
  | finished _ => true
  | _ => false

/-- `JoinHandle::join` of a finished thread fails. -/
def Life.panicked : Life → Bool
  | finished panicked => panicked
  | _ => false

/-- `WorkerTracker`, with `WORKER_COUNT` slots and the four handles. -/
structure WorkerTracker where
  remaining : ℕ := 4
  handles : List Worker := Worker.all

/-- `WorkerTracker::done`. -/
def WorkerTracker.done (t : WorkerTracker) : WorkerTracker :=
  if t.remaining ≠ 0 then { t with remaining := t.remaining - 1 } else t

/-- `WorkerTracker::is_reaped`. -/
def WorkerTracker.isReaped (t : WorkerTracker) : Bool := t.remaining == 0 && t.handles.isEmpty

inductive WorkerReap
  | complete
  | timeout
  | joinFailed
deriving DecidableEq

/-! ## Sessions of the supervisor -/

/-- An `Arc<TerminalRuntime>`, with the threads that run in it. -/
structure SessionOwner where
  session : Session
  tracker : WorkerTracker := {}
  life : Worker → Life := fun _ => .running

namespace SessionOwner

/-- `TerminalRuntime::spawn`, when all workers have been started. -/
def spawn (id : ℕ) (limits : TerminalLimits) : SessionOwner where
  session := Session.spawn id limits

variable (t : SessionOwner)

/-- The session has chosen its terminal event. -/
def terminalSent : Bool := t.session.runtime.lifecycle.terminalSent

def isReclaimable : Bool := t.terminalSent && t.tracker.isReaped

def validateToken (generation : ℕ) : Except TerminalErrorCode Unit :=
  if generation ≠ t.session.runtime.events.generation then .error .staleGeneration else .ok ()

/-- All workers have ended. -/
def workersEnded : Bool := Worker.all.all fun worker => (t.life worker).isFinished

/-- The session has reached its terminal event, and all its workers have ended. -/
def hasEnded : Bool := t.terminalSent && t.workersEnded

/-- A step of a worker, or of a call on a handle other than `close`. -/
def sessionStep (action : Action) : Option SessionOwner :=
  match action with
  | (.caller _, .close _, _) => none
  | _ =>
    if action.1.worker.all fun worker => t.life worker = .running then
      (t.session.after? action).map fun session => { t with session }
    else none

/-- The closure of a worker returns, or panics: its guard is dropped. -/
def release (worker : Worker) (panicked : Bool) : Option SessionOwner :=
  if t.life worker = .running ∧ (panicked = true ∨ t.session.place worker.thread = .done) then
    some { t with
      tracker := t.tracker.done
      life := Function.update t.life worker (.released panicked) }
  else none

/-- The thread of a worker finishes. -/
def finish (worker : Worker) : Option SessionOwner :=
  match t.life worker with
  | .released panicked =>
    some { t with life := Function.update t.life worker (.finished panicked) }
  | _ => none

end SessionOwner

/-! ## Closing a session -/

/-- Where a call stands in `close_until`; `cleanup` is whether `request_stop` succeeded. -/
inductive CloseStage
  | closing (reason : CloseReason)
  | publishing (reason : CloseReason)
  | stopping
  /-- in `wait_until`: before the count is zero, before all handles are finished, before the handles are
  taken, and joining what was taken -/
  | counting (cleanup : Bool)
  | polling (cleanup : Bool)
  | taking (cleanup : Bool)
  | joining (cleanup : Bool) (handles : List Worker)
  | ending (cleanup : Bool) (reap : WorkerReap)

/-- What a stage learns from its surroundings: whether the cleanup has succeeded, or whether the deadline
has passed. -/
inductive CloseAnswer
  | nothing
  | cleanup (ok : Bool)
  | deadline (passed : Bool)

/-- What `close_until` returns. -/
def closeResult : Bool → WorkerReap → Except TerminalErrorCode Unit
  | true, .complete => .ok ()
  | false, _ => .error .processCleanupFailed
  | true, _ => .error .workerShutdownTimeout

/-- The next step of `close_until`: the next stage, or what it returns. -/
abbrev CloseNext := Option (SessionOwner × (CloseStage ⊕ Except TerminalErrorCode Unit))

/-- The steps of `close_until`. -/
def SessionOwner.closeStep (t : SessionOwner) : CloseStage → CloseAnswer → CloseNext
  | .closing reason, .nothing =>
    let (shouldPublish, runtime) := t.session.runtime.closeSection
    some ({ t with session := { t.session with runtime } },
      .inl (if shouldPublish then .publishing reason else .stopping))
  | .publishing reason, .nothing =>
    let events := (t.session.runtime.events.pushTerminal (.closed reason)).2
    some ({ t with session := { t.session with runtime := { t.session.runtime with events } } },
      .inl .stopping)
  | .stopping, .cleanup ok =>
    let runtime := t.session.runtime.requestStop true
    some ({ t with session := { t.session with runtime } }, .inl (.counting ok))
  | .counting cleanup, .deadline passed =>
    if t.tracker.remaining = 0 then some (t, .inl (.polling cleanup))
    else if passed then some (t, .inl (.ending cleanup .timeout)) else none
  | .polling cleanup, .deadline passed =>
    if t.tracker.handles.all fun worker => (t.life worker).isFinished then
      some (t, .inl (.taking cleanup))
    else if passed then some (t, .inl (.ending cleanup .timeout)) else none
  | .taking cleanup, .nothing =>
    some ({ t with tracker := { t.tracker with handles := [] } },
      .inl (.joining cleanup t.tracker.handles))
  | .joining cleanup handles, .nothing =>
    -- `join` waits for the thread
    if handles.all fun worker => (t.life worker).isFinished then
      some (t, .inl (.ending cleanup
        (if handles.any fun worker => (t.life worker).panicked then .joinFailed else .complete)))
    else none
  | .ending cleanup reap, .nothing =>
    let events := t.session.runtime.events.close
    some ({ t with session := { t.session with runtime := { t.session.runtime with events } } },
      .inr (closeResult cleanup reap))
  | _, _ => none

/-! ## The supervisor -/

/-- Who closes a session: a handle, `TerminalSupervisor::close`, or the loop of `shutdown_until` with the
sessions that it has still before it. -/
inductive Closer
  | handle
  | supervisor
  | shutdown (rest : List ℕ) (failed : Bool)

/-- Where a caller of the supervisor stands. -/
inductive Call
  | idle
  | closing (closer : Closer) (id : ℕ) (stage : CloseStage)
  | removing (closer : Closer) (id : ℕ)
  | shuttingDown (rest : List ℕ) (failed : Bool)

/-- What a caller does when `close_until` has returned. -/
def Closer.returned : Closer → ℕ → Except TerminalErrorCode Unit → Call
  | .handle, _, _ => .idle
  | .supervisor, id, .ok _ => .removing .supervisor id
  | .supervisor, _, .error _ => .idle
  | .shutdown rest failed, id, .ok _ => .removing (.shutdown rest failed) id
  | .shutdown rest _, _, .error _ => .shuttingDown rest true

/-- What a caller does behind the section that removes a session. -/
def Closer.removed : Closer → Call
  | .handle | .supervisor => .idle
  | .shutdown rest failed => .shuttingDown rest failed

/-- `TerminalSupervisor`: the keys of its map, and the sessions behind the `Arc`s. -/
structure Supervisor where
  limits : TerminalLimits
  nextId : ℕ := 0
  sessions : List ℕ := []
  owners : ℕ → SessionOwner
  call : ℕ → Call := fun _ => .idle

/-- Why `TerminalRuntime::spawn` fails; it knows no quota. -/
structure SpawnError where
  code : TerminalErrorCode
  ne_sessionLimit : code ≠ .sessionLimit

namespace Supervisor

/-- `TerminalSupervisor::new`. -/
def new (limits : TerminalLimits) : Supervisor where
  limits := limits
  owners id := SessionOwner.spawn id limits

variable (s : Supervisor)

/-- The sessions that `retain` leaves in the map. -/
def counted : List ℕ :=
  s.sessions.filter fun id => !(s.owners id).isReclaimable

/-- `TerminalSupervisor::open`. -/
def «open» (s : Supervisor) (spawned : Except SpawnError Unit) :
    Except TerminalErrorCode ℕ × Supervisor :=
  let s := { s with sessions := s.counted }
  if s.sessions.length ≥ s.limits.maxSessions then (.error .sessionLimit, s)
  else
    match spawned with
    | .error error => (.error error.code, s)
    | .ok _ =>
      (.ok s.nextId,
        { s with
          nextId := s.nextId + 1
          sessions := s.sessions ++ [s.nextId]
          owners := Function.update s.owners s.nextId (SessionOwner.spawn s.nextId s.limits) })

/-- `TerminalSupervisor::get`. -/
def get (id generation : ℕ) : Except TerminalErrorCode ℕ :=
  if id ∈ s.sessions then do
    (s.owners id).validateToken generation
    return id
  else .error .sessionNotFound

/-- A caller begins a call. -/
def goTo (caller : ℕ) (call : Call) : Supervisor :=
  { s with call := Function.update s.call caller call }

/-- A session takes a step. -/
def put (id : ℕ) (t : SessionOwner) : Supervisor :=
  { s with owners := Function.update s.owners id t }

/-- A caller goes on with its call. -/
def proceed (caller : ℕ) (answer : CloseAnswer) : Option Supervisor :=
  match s.call caller with
  | .idle => none
  | .closing closer id stage =>
    ((s.owners id).closeStep stage answer).map fun (t, next) =>
      (s.put id t).goTo caller (next.elim (.closing closer id) (closer.returned id))
  | .removing closer id =>
    some ({ s with sessions := s.sessions.filter (· ≠ id) }.goTo caller closer.removed)
  | .shuttingDown [] _ => some (s.goTo caller .idle)
  | .shuttingDown (id :: rest) failed =>
    some (s.goTo caller (.closing (.shutdown rest failed) id (.closing .shutdown)))

end Supervisor

/-- One step: a call of the supervisor or of a handle begins or goes on, or something happens in a
session. -/
inductive SupervisorAction
  | «open» (spawned : Except SpawnError Unit)
  | get (id generation : ℕ)
  | close (caller id generation : ℕ) (reason : CloseReason)
  | closeHandle (caller id : ℕ) (reason : CloseReason)
  /-- `shutdown_until`, with the order in which it finds the sessions in the map -/
  | shutdown (caller : ℕ) (order : List ℕ)
  | proceed (caller : ℕ) (answer : CloseAnswer)
  | session (id : ℕ) (action : Action)
  | release (id : ℕ) (worker : Worker) (panicked : Bool)
  | finish (id : ℕ) (worker : Worker)

namespace Supervisor

variable (s : Supervisor)

/-- A caller has no call. -/
def isIdle (caller : ℕ) : Bool :=
  match s.call caller with
  | .idle => true
  | _ => false

/-- Something happens in a session that has been opened. -/
def inside (id : ℕ) (step : SessionOwner → Option SessionOwner) : Option Supervisor :=
  if id < s.nextId then (step (s.owners id)).map (s.put id) else none

/-- The step of an action. -/
def after? : SupervisorAction → Option Supervisor
  | .open spawned => some (s.open spawned).2
  | .get _ _ => some s
  | .close caller id generation reason =>
    if s.isIdle caller then
      match s.get id generation with
      | .ok id => some (s.goTo caller (.closing .supervisor id (.closing reason)))
      | .error _ => some s
    else none
  | .closeHandle caller id reason =>
    -- `open` has handed out a handle to every session
    if s.isIdle caller ∧ id < s.nextId then
      some (s.goTo caller (.closing .handle id (.closing reason)))
    else none
  | .shutdown caller order =>
    if s.isIdle caller ∧ order.Perm s.sessions then
      some (s.goTo caller (.shuttingDown order false))
    else none
  | .proceed caller answer => s.proceed caller answer
  | .session id action => s.inside id (·.sessionStep action)
  | .release id worker panicked => s.inside id (·.release worker panicked)
  | .finish id worker => s.inside id (·.finish worker)

/-- A step of the supervisor. -/
def Step (action : SupervisorAction) (s' : Supervisor) : Prop :=
  s.after? action = some s'

end Supervisor

end JaDesktop.Terminal
