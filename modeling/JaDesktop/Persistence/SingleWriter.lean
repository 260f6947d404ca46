import JaDesktop.Lib.Ledger

/-!
# The single database writer

`SingleWriter` of the persistence package: callers submit work from any thread, one writer thread
runs it, and `close` stops the thread.  A caller reserves a place in two budgets, the number of
tasks and their bytes, before it hands its task to the executor; the place is given back by
whoever gets to `Admission.release` first.

Each step of the model is one atomic action of one thread: a read or an update of one variable, an
entry into the admission monitor or an exit from it, one call of the executor.  What the executor
does inside such a call is its documented behaviour: one thread, a bounded queue in the order of
the calls, and `shutdownNow`, which gives back what is still in the queue.  Waits end at any moment:
by a notification, by their deadline or for no reason, so `notifyAll` and the clock are left out.
-/

namespace JaDesktop.Persistence.Writer

/-- `PersistenceException.Code`, as far as the writer uses it. -/
inductive Code
  | closed
  | queueFull
  | queueTimeout
  | transaction
deriving DecidableEq

/-- How a call of `execute` ends.  A call is *refused* before it has an admission and *rejected* when
the executor does not take its task; it is *abandoned* when it stops waiting for the task. -/
inductive Outcome
  | value
  | failed
  | refused (code : Code)
  | rejected (code : Code)
  | abandoned (code : Code)
deriving DecidableEq

/-- Why a caller releases its admission itself. -/
inductive Reason
  | rejected
  | timeout
  | interrupted
  | cancelled
deriving DecidableEq

/-- What the caller throws after it has released its admission. -/
def Reason.outcome (closed : Bool) : Reason → Outcome
  | rejected => .rejected (if closed then .closed else .queueFull)
  | timeout => .abandoned .queueTimeout
  | interrupted => .abandoned .transaction
  | cancelled => .abandoned (if closed then .closed else .queueTimeout)

/-- Where a call of `execute` is. -/
inductive Caller
  /-- before the first look at `closed` -/
  | start
  /-- about to enter the admission monitor in `reserve`, or waiting in it -/
  | entering
  | waiting
  /-- at the top of the loop, in the monitor -/
  | inside
  /-- it has seen that the writer is open -/
  | seenOpen
  /-- `pendingCount` was below its limit -/
  | countFree
  /-- both budgets have room -/
  | bytesFree
  /-- a budget has no room -/
  | full
  /-- `pendingCount` is incremented -/
  | counted
  /-- it has an admission, and the task is not handed over yet -/
  | admitted
  /-- waiting for the future -/
  | submitted
  /-- in `admission.release()` -/
  | releasing (reason : Reason)
  | done (outcome : Outcome)
deriving DecidableEq

/-- The `FutureTask` of a call. -/
inductive Future
  | new
  | finished (ok : Bool)
  | cancelled
deriving DecidableEq

/-- `FutureTask.cancel`: only a task that has not finished is cancelled. -/
def Future.cancel : Future → Future
  | new => cancelled
  | f => f

/-- `FutureTask.set` and `setException`: the result of a cancelled task is dropped. -/
def Future.finish (ok : Bool) : Future → Future
  | new => finished ok
  | f => f

/-- The executor: taking tasks, in the middle of `shutdownNow`, or past it. -/
inductive Phase
  | open
  | stopping
  | stopped
deriving DecidableEq

/-- The writer thread, and where it is in `TrackedTask.run`. -/
inductive Worker
  /-- no thread has been started -/
  | none
  | idle
  /-- before `activeTask.set` -/
  | took (task : ℕ)
  /-- before `delegate.run` -/
  | active (task : ℕ)
  /-- in the work of the task -/
  | running (task : ℕ)
  /-- before `activeTask.compareAndSet` -/
  | ran (task : ℕ)
  /-- in `admission.release()` -/
  | releasing (task : ℕ)
  | terminated
deriving DecidableEq

/-- Where `close` is.  The tasks to cancel are those that the executor gave back and after them, once
`activeRead` holds, the active one. -/
inductive Closer
  | idle
  /-- `closeInProgress` is set -/
  | marked
  /-- `closed` is set -/
  | closing
  /-- in `executor.shutdownNow()` -/
  | stopping
  | cancelling (tasks : List ℕ) (activeRead : Bool)
  /-- in `admission.release()` of a cancelled task -/
  | releasing (task : ℕ) (tasks : List ℕ) (activeRead : Bool)
  /-- waiting for the writer thread to end -/
  | joining
deriving DecidableEq

/-- Who may be in `Admission.release` of a task: its own caller, the writer thread or `close`. -/
inductive Actor
  | caller
  | writer
  | closer
deriving DecidableEq

/-- The budgets of a writer, and the bytes that each call estimates. -/
structure Budget where
  queueCapacity : ℕ
  maxPendingBytes : ℤ
  estimatedBytes : ℕ → ℤ
  capacity_pos : 0 < queueCapacity
  bytes_pos : 0 < maxPendingBytes

/-- `Math.addExact(queueCapacity, 1)`: the queue and the task that runs. -/
def Budget.maxPendingCount (b : Budget) : ℤ := b.queueCapacity + 1

/-- A writer with the calls of its `execute`; the ledger holds `pendingCount`, `pendingBytes` and
what became of each `Admission`. -/
structure SingleWriter where
  ledger : Ledger ℕ Actor
  closed : Bool
  closeConfirmed : Bool
  monitor : Option ℕ
  phase : Phase
  queue : List ℕ
  worker : Worker
  activeTask : Option ℕ
  future : ℕ → Future
  caller : ℕ → Caller
  closer : Closer

/-- What an observer sees of a run. -/
inductive Event
  | moved (movement : Movement ℕ Actor)
  | accepted (task : ℕ)
  | rejected (task : ℕ)
  | begun (task : ℕ)
  | ended (task : ℕ)
  | silent
deriving DecidableEq

namespace SingleWriter

/-- A new writer. -/
def initial : SingleWriter where
  ledger := .empty
  closed := false
  closeConfirmed := false
  monitor := none
  phase := .open
  queue := []
  worker := .none
  activeTask := none
  future _ := .new
  caller _ := .start
  closer := .idle

variable (w : SingleWriter)

/-- A call goes on to another place. -/
def goes (x : ℕ) (caller : Caller) : SingleWriter :=
  { w with caller := Function.update w.caller x caller }

def setFuture (x : ℕ) (future : Future) : SingleWriter :=
  { w with future := Function.update w.future x future }

/-- A call leaves the admission monitor. -/
def exits (x : ℕ) (caller : Caller) : SingleWriter :=
  { w.goes x caller with monitor := none }

/-- The actor is in `Admission.release` of the task. -/
def Releasing (x : ℕ) : Actor → Prop
  | .caller => ∃ reason, w.caller x = .releasing reason
  | .writer => w.worker = .releasing x
  | .closer => ∃ tasks activeRead, w.closer = .releasing x tasks activeRead

/-- `executor.execute` takes a task: a first thread starts with it, otherwise it goes to the end of
the queue. -/
def enqueue (x : ℕ) : SingleWriter :=
  match w.worker with
  | .none => { w with worker := .took x }
  | _ => { w with queue := w.queue ++ [x] }

@[simp] lemma enqueue_ledger (w : SingleWriter) (x : ℕ) : (w.enqueue x).ledger = w.ledger := by
  unfold enqueue
  split <;> rfl

@[simp] lemma enqueue_caller (w : SingleWriter) (x : ℕ) : (w.enqueue x).caller = w.caller := by
  unfold enqueue
  split <;> rfl

@[simp] lemma enqueue_monitor (w : SingleWriter) (x : ℕ) : (w.enqueue x).monitor = w.monitor := by
  unfold enqueue
  split <;> rfl

@[simp] lemma enqueue_phase (w : SingleWriter) (x : ℕ) : (w.enqueue x).phase = w.phase := by
  unfold enqueue
  split <;> rfl

@[simp] lemma enqueue_closer (w : SingleWriter) (x : ℕ) : (w.enqueue x).closer = w.closer := by
  unfold enqueue
  split <;> rfl

@[simp] lemma enqueue_closeConfirmed (w : SingleWriter) (x : ℕ) :
    (w.enqueue x).closeConfirmed = w.closeConfirmed := by
  unfold enqueue
  split <;> rfl

/-- The writer thread is gone, or was never there. -/
def WorkerGone : Prop := w.worker = .none ∨ w.worker = .terminated

/-- A step of a call of `execute`. -/
inductive CallerStep (b : Budget) (w : SingleWriter) (x : ℕ) : Event → SingleWriter → Prop
  /- line 74 -/
  | seesClosed (hpc : w.caller x = .start) (h : w.closed = true) :
      CallerStep b w x .silent (w.goes x (.done (.refused .closed)))
  /- line 78: work nested in a task runs within it -/
  | inline {task} {ok : Bool} (hpc : w.caller x = .start) (h : w.closed = false)
      (hworker : w.worker = .running task) :
      CallerStep b w x .silent (w.goes x (.done (if ok then .value else .failed)))
  | reserve (hpc : w.caller x = .start) (h : w.closed = false) :
      CallerStep b w x .silent (w.goes x .entering)
  | oversized (hpc : w.caller x = .entering)
      (h : b.estimatedBytes x < 1 ∨ b.maxPendingBytes < b.estimatedBytes x) :
      CallerStep b w x .silent (w.goes x (.done (.refused .queueFull)))
  | enter (hpc : w.caller x = .entering) (hmin : 1 ≤ b.estimatedBytes x)
      (hmax : b.estimatedBytes x ≤ b.maxPendingBytes) (hm : w.monitor = none) :
      CallerStep b w x .silent { w.goes x .inside with monitor := some x }
  | insideClosed (hpc : w.caller x = .inside) (h : w.closed = true) :
      CallerStep b w x .silent (w.exits x (.done (.refused .closed)))
  | insideOpen (hpc : w.caller x = .inside) (h : w.closed = false) :
      CallerStep b w x .silent (w.goes x .seenOpen)
  /- the two conjuncts of the test for room are read one after the other -/
  | countFree (hpc : w.caller x = .seenOpen) (h : w.ledger.pendingCount < b.maxPendingCount) :
      CallerStep b w x .silent (w.goes x .countFree)
  | countFull (hpc : w.caller x = .seenOpen) (h : ¬ w.ledger.pendingCount < b.maxPendingCount) :
      CallerStep b w x .silent (w.goes x .full)
  | bytesFree (hpc : w.caller x = .countFree)
      (h : w.ledger.pendingBytes ≤ b.maxPendingBytes - b.estimatedBytes x) :
      CallerStep b w x .silent (w.goes x .bytesFree)
  | bytesFull (hpc : w.caller x = .countFree)
      (h : ¬ w.ledger.pendingBytes ≤ b.maxPendingBytes - b.estimatedBytes x) :
      CallerStep b w x .silent (w.goes x .full)
  | count {ledger} (hpc : w.caller x = .bytesFree)
      (h : w.ledger.Step b.estimatedBytes (.counted x) ledger) :
      CallerStep b w x (.moved (.counted x)) { w.goes x .counted with ledger := ledger }
  | weigh {ledger} (hpc : w.caller x = .counted)
      (h : w.ledger.Step b.estimatedBytes (.weighed x) ledger) :
      CallerStep b w x (.moved (.weighed x)) { w.exits x .admitted with ledger := ledger }
  | late (hpc : w.caller x = .full) :
      CallerStep b w x .silent (w.exits x (.done (.refused .queueTimeout)))
  | wait (hpc : w.caller x = .full) : CallerStep b w x .silent (w.exits x .waiting)
  | wake (hpc : w.caller x = .waiting) (hm : w.monitor = none) :
      CallerStep b w x .silent { w.goes x .inside with monitor := some x }
  | waitInterrupted (hpc : w.caller x = .waiting) (hm : w.monitor = none) :
      CallerStep b w x .silent (w.goes x (.done (.refused .transaction)))
  /- line 86: the executor takes the task, or it does not -/
  | accept (hpc : w.caller x = .admitted) (hphase : w.phase ≠ .stopped)
      (hroom : w.worker = .none ∨ w.queue.length < b.queueCapacity) :
      CallerStep b w x (.accepted x) ((w.goes x .submitted).enqueue x)
  | reject (hpc : w.caller x = .admitted)
      (h : w.phase ≠ .open ∨ w.worker ≠ .none ∧ b.queueCapacity ≤ w.queue.length) :
      CallerStep b w x (.rejected x) (w.goes x (.releasing .rejected))
  /- lines 97 to 113: the deadline has passed, or the thread was interrupted -/
  | giveUp {reason} (hpc : w.caller x = .submitted)
      (h : reason = .timeout ∨ reason = .interrupted) :
      CallerStep b w x .silent
        ((w.goes x (.releasing reason)).setFuture x (w.future x).cancel)
  | getsCancelled (hpc : w.caller x = .submitted) (h : w.future x = .cancelled) :
      CallerStep b w x .silent (w.goes x (.releasing .cancelled))
  | gets {ok : Bool} (hpc : w.caller x = .submitted) (h : w.future x = .finished ok) :
      CallerStep b w x .silent (w.goes x (.done (if ok then .value else .failed)))
  | throws {reason} (hpc : w.caller x = .releasing reason) (h : ¬ w.ledger.Busy .caller x) :
      CallerStep b w x .silent (w.goes x (.done (reason.outcome w.closed)))

/-- A step of the writer thread. -/
inductive WriterStep (w : SingleWriter) : Event → SingleWriter → Prop
  | take {x rest} (hworker : w.worker = .idle) (hqueue : w.queue = x :: rest) :
      WriterStep w .silent { w with worker := .took x, queue := rest }
  | activate {x} (hworker : w.worker = .took x) :
      WriterStep w .silent { w with worker := .active x, activeTask := some x }
  | begin {x} (hworker : w.worker = .active x) (h : w.future x = .new) :
      WriterStep w (.begun x) { w with worker := .running x }
  /- `FutureTask.run` does nothing when the task was cancelled before -/
  | skip {x} (hworker : w.worker = .active x) (h : w.future x ≠ .new) :
      WriterStep w .silent { w with worker := .ran x }
  | finish {x ok} (hworker : w.worker = .running x) :
      WriterStep w (.ended x)
        { w.setFuture x ((w.future x).finish ok) with worker := .ran x }
  | deactivate {x} (hworker : w.worker = .ran x) :
      WriterStep w .silent
        { w with
          worker := .releasing x
          activeTask := if w.activeTask = some x then none else w.activeTask }
  | next {x} (hworker : w.worker = .releasing x) (h : ¬ w.ledger.Busy .writer x) :
      WriterStep w .silent { w with worker := .idle }
  | terminate (hworker : w.worker = .idle) (h : w.phase ≠ .open) :
      WriterStep w .silent { w with worker := .terminated }

/-- A step of `close`. -/
inductive CloserStep (w : SingleWriter) : SingleWriter → Prop
  | mark (hpc : w.closer = .idle) (h : w.closeConfirmed = false) :
      CloserStep w { w with closer := .marked }
  | setClosed (hpc : w.closer = .marked) : CloserStep w { w with closer := .closing, closed := true }
  | shutdown (hpc : w.closer = .closing) :
      CloserStep w
        { w with
          closer := .stopping
          phase := if w.phase = .open then .stopping else w.phase }
  | drain (hpc : w.closer = .stopping) :
      CloserStep w { w with closer := .cancelling w.queue false, queue := [], phase := .stopped }
  | cancel {x tasks activeRead} (hpc : w.closer = .cancelling (x :: tasks) activeRead) :
      CloserStep w
        { w.setFuture x (w.future x).cancel with closer := .releasing x tasks activeRead }
  | next {x tasks activeRead} (hpc : w.closer = .releasing x tasks activeRead)
      (h : ¬ w.ledger.Busy .closer x) :
      CloserStep w { w with closer := .cancelling tasks activeRead }
  | readActive (hpc : w.closer = .cancelling [] false) :
      CloserStep w { w with closer := .cancelling w.activeTask.toList true }
  | join (hpc : w.closer = .cancelling [] true) : CloserStep w { w with closer := .joining }
  | confirm (hpc : w.closer = .joining) (hphase : w.phase = .stopped) (hworker : w.WorkerGone) :
      CloserStep w { w with closer := .idle, closeConfirmed := true }
  /- `WRITER_CLOSE_UNCONFIRMED`: the deadline has passed, or the thread was interrupted -/
  | unconfirmed (hpc : w.closer = .joining) : CloserStep w { w with closer := .idle }

/-- One step of one of the threads. -/
inductive Step (b : Budget) (w : SingleWriter) : Event → SingleWriter → Prop
  | caller {x event w'} (h : CallerStep b w x event w') : Step b w event w'
  | writer {event w'} (h : WriterStep w event w') : Step b w event w'
  | closer {w'} (h : CloserStep w w') : Step b w .silent w'
  /- the part of `Admission.release` that comes next, in whichever thread is in it -/
  | release {stage actor x ledger} (hin : w.Releasing x actor)
      (h : w.ledger.Step b.estimatedBytes (.release stage actor x) ledger) :
      Step b w (.moved (.release stage actor x)) { w with ledger := ledger }

end SingleWriter

end JaDesktop.Persistence.Writer
