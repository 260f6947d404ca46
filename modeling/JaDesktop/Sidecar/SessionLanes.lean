import Mathlib.Logic.Function.Basic
import Mathlib.Data.Int.Notation
import Mathlib.Data.Nat.Notation

/-!
# The session lanes

`AgentScopeTurnRuntime` admits turns into one queue for each session, takes the first of a queue
when no turn of the session is running, and gives the lane back when the turn finishes.  Starting,
cancelling and finishing run on different threads; the sections under `admissionMonitor`, a lane or
a run are the atomic steps here, and every thread may take its next step at any time.

A lane is an object of its own.  The map `lanes` finds it by its session, and a thread may still
hold a lane that is no longer in the map.
-/

namespace JaDesktop.Sidecar

variable {κ : Type}

/-- How a run has left its queue, if it has. -/
inductive Position
  | queued
  /-- a cancellation has removed it, or the deadline scheduler has refused it -/
  | withdrawn
  | taken
deriving DecidableEq

/-- Where the one thread that cancels a run stands in `cancelMarkedRun`. -/
inductive Cancelling
  | idle
  | marked
  /-- it has looked the lane up and not yet searched its queue -/
  | found (lane : Option ℕ)
  | done
deriving DecidableEq

/-- Where the one thread that finishes a run stands in `finish`. -/
inductive Release
  | idle
  /-- it has set `finished` -/
  | claimed
  | unregistered
  | uncounted
  | unbilled
  /-- it has left the last section, that of the lane -/
  | left
deriving DecidableEq

/-- `Run`: what admission and scheduling use of it. -/
structure TurnRun (κ : Type) where
  sessionKey : κ
  inputBytes : ℕ
  position : Position := .queued
  cancelled : Bool := false
  /-- the deadline scheduler has taken no task for it -/
  schedulerRejected : Bool := false
  finished : Bool := false
  /-- `execute` has found it neither cancelled nor expired -/
  started : Bool := false
  cancelling : Cancelling := .idle
  release : Release := .idle
deriving DecidableEq

/-- A run that the deadline scheduler has refused, at the end of `start`. -/
def TurnRun.refused (sessionKey : κ) (inputBytes : ℕ) : TurnRun κ where
  sessionKey := sessionKey
  inputBytes := inputBytes
  position := .withdrawn
  schedulerRejected := true
  finished := true
  release := .left

structure SessionLane where
  queue : List ℕ := []
  running : Option ℕ := none
deriving DecidableEq

/-- What happens to the runs, which are numbered in the order of their admission. -/
inductive LaneEvent (κ : Type)
  | admitted (sessionKey : κ) (run : ℕ)
  | withdrawn (run : ℕ)
  | taken (sessionKey : κ) (run : ℕ)
  | published (run : ℕ)
  | finished (run : ℕ)
deriving DecidableEq

/-- The limits of `Config` that admission uses. -/
structure LaneConfig where
  maxAcceptedTurns : ℕ
  maxQueuedInputBytes : ℕ

/-- The runtime; `admitted` runs and `created` lanes have been made so far. -/
structure LaneRuntime (κ : Type) where
  accepting : Bool
  admitted : ℕ
  runs : ℕ → Option (TurnRun κ)
  created : ℕ
  laneAt : ℕ → SessionLane
  lanes : κ → Option ℕ
  acceptedCount : ℤ
  acceptedInputBytes : ℤ
  history : List (LaneEvent κ)

/-- The steps of the threads. -/
inductive LaneAction (κ : Type)
  /-- the section of `start`; `refused` when the deadline scheduler takes no task -/
  | start (sessionKey : κ) (inputBytes : ℕ) (refused : Bool)
  /-- `stopAccepting` and the section of `close` -/
  | stopAccepting
  /-- the section of `cancel` and `cancelInternal` -/
  | cancel (run : ℕ)
  | findLane (run : ℕ)
  | dequeue (run : ℕ)
  | scheduleNext (lane : ℕ)
  | execute (run : ℕ)
  | publish (run : ℕ)
  /-- the section of `finish` that claims the end of the run -/
  | finish (run : ℕ)
  | terminal (run : ℕ)
  | unregister (run : ℕ)
  | decrementCount (run : ℕ)
  | decrementBytes (run : ℕ)
  | leaveLane (run : ℕ)
deriving DecidableEq

namespace LaneRuntime

/-- A new runtime. -/
def initial (κ : Type) : LaneRuntime κ :=
  ⟨true, 0, fun _ => none, 0, fun _ => {}, fun _ => none, 0, 0, []⟩

variable [DecidableEq κ] (config : LaneConfig) (s : LaneRuntime κ)

/-- What a step writes to one run. -/
def setRun (run : ℕ) (value : TurnRun κ) : LaneRuntime κ :=
  { s with runs := Function.update s.runs run (some value) }

/-- What a step writes to one lane. -/
def setLane (lane : ℕ) (value : SessionLane) : LaneRuntime κ :=
  { s with laneAt := Function.update s.laneAt lane value }

def record (events : List (LaneEvent κ)) : LaneRuntime κ :=
  { s with history := s.history ++ events }

/-- `reserveAdmission` refuses. -/
def QueueFull (inputBytes : ℕ) : Prop :=
  s.acceptedCount ≥ config.maxAcceptedTurns ∨ inputBytes > config.maxQueuedInputBytes ∨
    s.acceptedInputBytes + inputBytes > config.maxQueuedInputBytes

instance (inputBytes : ℕ) : Decidable (s.QueueFull config inputBytes) :=
  inferInstanceAs (Decidable (_ ∨ _))

/-- `lanes.computeIfAbsent`: the lane of the session, and the runtime that has it. -/
def computeIfAbsent (sessionKey : κ) : ℕ × LaneRuntime κ :=
  match s.lanes sessionKey with
  | some lane => (lane, s)
  | none =>
    (s.created, { s with
      created := s.created + 1
      lanes := Function.update s.lanes sessionKey (some s.created) })

/-- The end of `finish` for the lane of a session: the run leaves the lane, and an empty lane
leaves the map. -/
def leave (sessionKey : κ) (run : ℕ) : LaneRuntime κ :=
  match s.lanes sessionKey with
  | none => s
  | some lane =>
    let queue := (s.laneAt lane).queue.erase run
    let running := if (s.laneAt lane).running = some run then none else (s.laneAt lane).running
    { s.setLane lane ⟨queue, running⟩ with
      lanes := if running = none ∧ queue = [] then Function.update s.lanes sessionKey none
        else s.lanes }

/-- The section of `start`.  A turn id that is in use leaves everything as it was; when the
deadline scheduler refuses the task, the run is finished within the section. -/
def start (sessionKey : κ) (inputBytes : ℕ) (refused : Bool) : LaneRuntime κ :=
  if s.accepting = false ∨ s.QueueFull config inputBytes then s
  else
    let run := s.admitted
    let (lane, s) := ({ s with admitted := s.admitted + 1 } : LaneRuntime κ).computeIfAbsent sessionKey
    if refused then
      ((s.setRun run (.refused sessionKey inputBytes)).record
        [.admitted sessionKey run, .withdrawn run, .finished run, .published run]).leave
          sessionKey run
    else
      { (s.setRun run { sessionKey, inputBytes }).setLane lane
          { s.laneAt lane with queue := (s.laneAt lane).queue ++ [run] } with
        acceptedCount := s.acceptedCount + 1
        acceptedInputBytes := s.acceptedInputBytes + inputBytes
        history := s.history ++ [.admitted sessionKey run] }

/-- `scheduleNext`: the first run of the queue is taken when none is running. -/
def scheduleNext (lane : ℕ) : LaneRuntime κ :=
  match (s.laneAt lane).running, (s.laneAt lane).queue with
  | none, run :: queue =>
    match s.runs run with
    | some value =>
      ((s.setLane lane ⟨queue, some run⟩).setRun run { value with position := .taken }).record
        [.taken value.sessionKey run]
    | none => s
  | _, _ => s

/-- A cancellation searches the queue of the lane that it found. -/
def dequeue (run : ℕ) (value : TurnRun κ) (lane : Option ℕ) : LaneRuntime κ :=
  match lane with
  | none => s.setRun run { value with cancelling := .done }
  | some lane =>
    if run ∈ (s.laneAt lane).queue then
      ((s.setLane lane { s.laneAt lane with queue := (s.laneAt lane).queue.erase run }).setRun run
        { value with cancelling := .done, position := .withdrawn }).record [.withdrawn run]
    else s.setRun run { value with cancelling := .done }

/-- A step of a thread that holds the run. -/
def runStep (action : LaneAction κ) (run : ℕ) (value : TurnRun κ) : LaneRuntime κ :=
  match action with
  | .cancel _ =>
    if value.finished = false ∧ value.cancelled = false then
      s.setRun run { value with cancelled := true, cancelling := .marked }
    else s
  | .findLane _ =>
    if value.cancelling = .marked then
      s.setRun run { value with cancelling := .found (s.lanes value.sessionKey) }
    else s
  | .dequeue _ =>
    match value.cancelling with
    | .found lane => s.dequeue run value lane
    | _ => s
  | .execute _ =>
    if value.position = .taken ∧ value.cancelled = false then
      s.setRun run { value with started := true }
    else s
  | .publish _ =>
    if value.started = true ∧ value.finished = false ∧ value.cancelled = false then
      s.record [.published run]
    else s
  -- Called for a run that was taken, or by its cancellation once the queue has been searched.
  | .finish _ =>
    if value.finished = false ∧ (value.position = .taken ∨ value.cancelling = .done) then
      (s.setRun run { value with finished := true, release := .claimed }).record [.finished run]
    else s
  | .terminal _ => if value.release = .claimed then s.record [.published run] else s
  | .unregister _ =>
    if value.release = .claimed then s.setRun run { value with release := .unregistered } else s
  | .decrementCount _ =>
    if value.release = .unregistered then
      { s.setRun run { value with release := .uncounted } with
        acceptedCount := s.acceptedCount - 1 }
    else s
  | .decrementBytes _ =>
    if value.release = .uncounted then
      { s.setRun run { value with release := .unbilled } with
        acceptedInputBytes := s.acceptedInputBytes - value.inputBytes }
    else s
  | .leaveLane _ =>
    if value.release = .unbilled then
      (s.setRun run { value with release := .left }).leave value.sessionKey run
    else s
  | _ => s

/-- The run whose thread takes a step. -/
def actor : LaneAction κ → Option ℕ
  | .start .. | .stopAccepting | .scheduleNext _ => none
  | .cancel run | .findLane run | .dequeue run | .execute run | .publish run | .finish run
  | .terminal run | .unregister run | .decrementCount run | .decrementBytes run
  | .leaveLane run => some run

/-- One step; a step that is not possible does nothing. -/
def after (action : LaneAction κ) : LaneRuntime κ :=
  match action with
  | .start sessionKey inputBytes refused => s.start config sessionKey inputBytes refused
  | .stopAccepting => { s with accepting := false }
  | .scheduleNext lane => s.scheduleNext lane
  | action =>
    match (actor action).bind fun run => (s.runs run).map fun value => (run, value) with
    | some (run, value) => s.runStep action run value
    | none => s

/-- The runtime after some steps. -/
def reached (actions : List (LaneAction κ)) : LaneRuntime κ :=
  actions.foldl (after config) (initial κ)

end LaneRuntime

end JaDesktop.Sidecar
