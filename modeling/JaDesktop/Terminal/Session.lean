import Mathlib.Logic.Function.Basic
import JaDesktop.Lib.Runs
import JaDesktop.Terminal.Queues

/-!
# A terminal session

The four workers of a terminal and the calls on its handle.  A step is one section under the lifecycle
mutex, one operation of a queue, one `request_stop` or one load of the stop flag, with the computation
up to the next of them.  What a pty, the child process or the clock says is the `Answer` of a step;
waits end at any moment.  Left out are the scrollback, which no step reads, what the operating system
does to the process tree, and the join handles, which only decide what `close` returns.
-/

namespace JaDesktop.Terminal

structure Lifecycle where
  terminalSent : Bool := false
  closed : Bool := false
  readerDone : Bool := false
  exitStatus : Option ExitStatus := none

/-- `TerminalRuntime`; of the master only remains whether it is there. -/
structure TerminalRuntime where
  limits : TerminalLimits
  input : InputQueue
  events : EventQueue
  resizeQueue : ResizeQueue := {}
  master : Bool := true
  stop : Bool := false
  lifecycle : Lifecycle := {}

/-- Where a worker goes on after `fail`. -/
inductive Back
  | reader
  | resize
  | ended
deriving DecidableEq

/-- Where a thread stands. -/
inductive Place
  /-- `reader_worker` before a read, and with what it has read -/
  | reading
  | readNothing
  | readOutput (data : List UInt8)
  | pushingOutput (data : List UInt8)
  | readFailed (again : Bool)
  | askingFinish
  /-- in `reader_finished`, before its section -/
  | finishing
  /-- `writer_worker` before `pop`, with an input, and after its write -/
  | popping
  | writing
  | written
  | writeFailed
  /-- `resize_worker` before `pop`, and with a size -/
  | awaitingSize
  | sizing (size : TerminalSize)
  | applying (size : TerminalSize)
  | publishingSize (size : TerminalSize)
  /-- `child_worker` before `try_wait`, and after it -/
  | polling
  | pollingStop
  | exited (status : ExitStatus)
  /-- in `child_exited` behind its section, with the status to publish -/
  | stoppingExit (status : Option ExitStatus)
  /-- in `child_exited` or `reader_finished`, with a status to publish -/
  | publishingExit (status : ExitStatus)
  | closingExit
  | droppingMaster
  /-- in `fail` -/
  | failing (code : TerminalErrorCode) (back : Back)
  | publishingError (code : TerminalErrorCode) (back : Back)
  | stoppingFail (back : Back)
  | closingFail (back : Back)
  /-- a caller between its calls, and in `send_input`, `resize`, `recv_until` and `close` -/
  | idle
  | sending (data : List UInt8)
  | pushingInput (data : List UInt8)
  | resizing (size : TerminalSize)
  | settingSize (size : TerminalSize)
  | receiving
  | closing (reason : CloseReason)
  | publishingClosed (reason : CloseReason)
  | stoppingClose
  | awaitingWorkers
  | closingQueue
  | done
deriving DecidableEq

/-- The place behind `fail`. -/
def Back.place : Back → Place
  | reader => .finishing
  | resize => .awaitingSize
  | ended => .done

/-- What a step learns from its surroundings. -/
inductive Answer
  | nothing
  /-- of a read: some bytes, none, or an error, which may say to read again -/
  | bytes (data : List UInt8)
  | noBytes
  | readError (again : Bool)
  /-- of a write, or of a resize of the master -/
  | applied (ok : Bool)
  /-- of `try_wait` -/
  | childExited (status : ExitStatus)
  | childRuns
  | childError
  /-- a deadline has passed, or not -/
  | deadline (passed : Bool)
  /-- a caller begins a call -/
  | send (data : List UInt8)
  | resize (size : TerminalSize)
  | receive
  | close (reason : CloseReason)
deriving DecidableEq

/-- What a step does to the events. -/
inductive Noted
  | accepted (event : TerminalEvent)
  | returned (event : TerminalEvent)
deriving DecidableEq

namespace TerminalRuntime

/-- `request_stop_inner`. -/
def requestStop (r : TerminalRuntime) (dropMaster : Bool) : TerminalRuntime :=
  { r with
    stop := true
    input := if r.stop then r.input else r.input.close
    resizeQueue := if r.stop then r.resizeQueue else r.resizeQueue.close
    master := r.master && !dropMaster }

/-- The section of `validate_open`; the handle of a session has its generation. -/
def validateOpen (r : TerminalRuntime) : Bool := !(r.lifecycle.closed || r.lifecycle.terminalSent)

/-- The section of `publish_output`. -/
def allowsOutput (r : TerminalRuntime) : Bool :=
  !r.lifecycle.closed && !r.lifecycle.terminalSent && (!r.stop || r.lifecycle.exitStatus.isSome)

def readerCanFinish (r : TerminalRuntime) : Bool :=
  r.lifecycle.terminalSent || r.lifecycle.closed || r.lifecycle.exitStatus.isSome

/-- The section of `fail`, with `should_publish`. -/
def failSection (r : TerminalRuntime) : Bool × TerminalRuntime :=
  if r.lifecycle.terminalSent then (false, r)
  else (true, { r with lifecycle := { r.lifecycle with terminalSent := true, closed := true } })

/-- The section of `child_exited`, with the status to publish. -/
def exitSection (r : TerminalRuntime) (status : ExitStatus) : Option ExitStatus × TerminalRuntime :=
  if r.lifecycle.terminalSent then (none, r)
  else if r.lifecycle.readerDone then
    (some status, { r with lifecycle := { r.lifecycle with terminalSent := true } })
  else (none, { r with lifecycle := { r.lifecycle with exitStatus := some status } })

/-- The section of `reader_finished`, with the status to publish. -/
def finishSection (r : TerminalRuntime) : Option ExitStatus × TerminalRuntime :=
  let lifecycle := { r.lifecycle with readerDone := true }
  if lifecycle.terminalSent then (none, { r with lifecycle })
  else
    match lifecycle.exitStatus with
    | some status =>
      (some status, { r with lifecycle := { lifecycle with exitStatus := none, terminalSent := true } })
    | none => (none, { r with lifecycle })

/-- The section of `close_until`, with `should_publish`. -/
def closeSection (r : TerminalRuntime) : Bool × TerminalRuntime :=
  if r.lifecycle.terminalSent then
    (false, { r with lifecycle := { r.lifecycle with closed := true } })
  else (true, { r with lifecycle := { r.lifecycle with terminalSent := true, closed := true } })

end TerminalRuntime

/-- The next step of a thread: the runtime and the place after it, and what it does to the events.  A
thread that waits has none. -/
abbrev Next := Option (TerminalRuntime × Place × Option Noted)

variable (r : TerminalRuntime)

/-- A step that leaves the events alone. -/
def goTo (place : Place) : Next := some (r, place, none)

/-- A step that pushes an event. -/
def pushed (outcome : Option TerminalEvent × EventQueue)
    (accepted refused : Place) : Next :=
  match outcome.1 with
  | some event => some ({ r with events := outcome.2 }, accepted, some (.accepted event))
  | none => some ({ r with events := outcome.2 }, refused, none)

/-- The steps of `reader_worker`. -/
def readerStep : Place → Answer → Next
  | .reading, .bytes data => if data = [] then goTo r .readNothing else goTo r (.readOutput data)
  | .reading, .noBytes => goTo r .readNothing
  | .reading, .readError again => goTo r (.readFailed again)
  | .readNothing, .nothing => goTo r (if r.readerCanFinish then .finishing else .reading)
  | .readOutput data, .nothing => goTo r (if r.allowsOutput then .pushingOutput data else .finishing)
  | .pushingOutput data, .nothing =>
    pushed r (r.events.pushKind (.output data)) .reading (.failing .outputLimitExceeded .reader)
  | .readFailed again, .nothing =>
    goTo r (if r.stop then .finishing else if again then .reading else .askingFinish)
  | .askingFinish, .nothing =>
    goTo r (if r.readerCanFinish then .finishing else .failing .ptyFailed .reader)
  | .finishing, .nothing =>
    let (status, r) := r.finishSection
    goTo r (status.elim .droppingMaster .publishingExit)
  | _, _ => none

/-- The steps of `writer_worker`. -/
def writerStep : Place → Answer → Next
  | .popping, .nothing => r.input.pop.bind fun (data, input) =>
      goTo { r with input } (if data.isSome then .writing else .done)
  | .writing, .nothing => goTo r (if r.stop then .done else .written)
  | .written, .applied ok => goTo r (if ok then .popping else .writeFailed)
  | .writeFailed, .nothing => goTo r (if r.stop then .done else .failing .ptyFailed .ended)
  | _, _ => none

/-- The steps of `resize_worker`. -/
def resizeStep : Place → Answer → Next
  | .awaitingSize, .nothing => r.resizeQueue.pop.bind fun (size, resizeQueue) =>
      goTo { r with resizeQueue } (size.elim .done .sizing)
  | .sizing size, .nothing => goTo r (if r.stop then .done else .applying size)
  | .applying size, .applied ok =>
    goTo r (if !r.master then .done else if ok then .publishingSize size
      else .failing .ptyFailed .ended)
  | .publishingSize size, .nothing =>
    pushed r (r.events.pushKind (.resized size)) .awaitingSize
      (.failing .outputLimitExceeded .resize)
  | _, _ => none

/-- The steps of `child_worker`, and of the end of `child_exited` and `reader_finished`. -/
def childStep : Place → Answer → Next
  | .polling, .childExited status => goTo r (.exited status)
  | .polling, .childRuns => goTo r .pollingStop
  | .polling, .childError => goTo r (.failing .ptyFailed .ended)
  | .pollingStop, .deadline passed =>
    goTo r (if r.stop && passed then .failing .workerShutdownTimeout .ended else .polling)
  | .exited status, .nothing =>
    let (status, r) := r.exitSection status
    goTo r (.stoppingExit status)
  | .stoppingExit status, .nothing =>
    goTo (r.requestStop false) (status.elim .droppingMaster .publishingExit)
  | .publishingExit status, .nothing =>
    pushed r (r.events.pushTerminal (.exited status)) .closingExit .closingExit
  | .closingExit, .nothing => goTo { r with events := r.events.close } .droppingMaster
  | .droppingMaster, .nothing => goTo { r with master := false } .done
  | _, _ => none

/-- The steps of `fail`. -/
def failStep : Place → Answer → Next
  | .failing code back, .nothing =>
    let (shouldPublish, r) := r.failSection
    goTo r (if shouldPublish then .publishingError code back else .stoppingFail back)
  | .publishingError code back, .nothing =>
    pushed r (r.events.pushTerminal (.error code.toUInt16)) (.stoppingFail back) (.stoppingFail back)
  | .stoppingFail back, .nothing => goTo (r.requestStop true) (.closingFail back)
  | .closingFail back, .nothing => goTo { r with events := r.events.close } back.place
  | _, _ => none

/-- The steps of the calls on a handle. -/
def callStep : Place → Answer → Next
  | .idle, .send data => goTo r (.sending data)
  | .idle, .resize size => goTo r (.resizing size)
  | .idle, .receive => goTo r .receiving
  | .idle, .close reason => goTo r (.closing reason)
  | .sending data, .deadline passed =>
    goTo r (if !r.validateOpen || passed || data.isEmpty ||
      decide (data.length > r.limits.maxInputChunkBytes) then .idle else .pushingInput data)
  | .pushingInput data, .nothing =>
    match r.input.push data with
    | .ok input => goTo { r with input } .idle
    | .error _ => goTo r .idle
  | .resizing size, .nothing =>
    goTo r (if r.validateOpen && size.validate then .settingSize size else .idle)
  | .settingSize size, .nothing =>
    match r.resizeQueue.set size with
    | .ok resizeQueue => goTo { r with resizeQueue } .idle
    | .error _ => goTo r .idle
  | .receiving, .deadline passed =>
    match r.events.recv with
    | some (event, events) => some ({ r with events }, .idle, some (.returned event))
    | none => if r.events.closed || passed then goTo r .idle else none
  | .closing reason, .nothing =>
    let (shouldPublish, r) := r.closeSection
    goTo r (if shouldPublish then .publishingClosed reason else .stoppingClose)
  | .publishingClosed reason, .nothing =>
    pushed r (r.events.pushTerminal (.closed reason)) .stoppingClose .stoppingClose
  | .stoppingClose, .nothing => goTo (r.requestStop true) .awaitingWorkers
  | .awaitingWorkers, .nothing => goTo r .closingQueue
  | .closingQueue, .nothing => goTo { r with events := r.events.close } .idle
  | _, _ => none

/-- The step of a thread at a place. -/
def advance (place : Place) (answer : Answer) : Next :=
  (readerStep r place answer).or <| (writerStep r place answer).or <|
    (resizeStep r place answer).or <| (childStep r place answer).or <|
      (failStep r place answer).or (callStep r place answer)

/-! ## Sessions -/

/-- The threads of a session. -/
inductive Thread
  | reader
  | writer
  | resize
  | child
  | caller (n : ℕ)
deriving DecidableEq

/-- A session. -/
structure Session where
  runtime : TerminalRuntime
  place : Thread → Place

/-- Where a thread begins. -/
def Thread.start : Thread → Place
  | reader => .reading
  | writer => .popping
  | resize => .awaitingSize
  | child => .polling
  | caller _ => .idle

/-- `TerminalRuntime::spawn`, when all workers have been started. -/
def Session.spawn (sessionId : ℕ) (limits : TerminalLimits) : Session where
  runtime :=
    { limits
      input := { maxBytes := limits.maxInputQueueBytes }
      events :=
        { sessionId, generation := 1, maxBytes := limits.maxOutputQueueBytes,
          maxCount := limits.maxEventCount } }
  place := Thread.start

/-- One step of a session: of whom, with which answer, and what it does to the events. -/
abbrev Action := Thread × Answer × Option Noted

/-- The step of a thread. -/
def Session.after? (s : Session) (action : Action) : Option Session :=
  (advance s.runtime (s.place action.1) action.2.1).bind fun (runtime, place, noted) =>
    if noted = action.2.2 then
      some ⟨runtime, Function.update s.place action.1 place⟩
    else none

/-- A step of the session. -/
def Session.Step (s : Session) (action : Action) (s' : Session) : Prop := s.after? action = some s'

end JaDesktop.Terminal
