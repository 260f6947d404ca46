import Mathlib.Algebra.Order.Ring.Int
import Mathlib.Data.Nat.Notation
import Mathlib.Data.List.Basic

/-!
# The queues of a terminal

The bounded queues between the calls on a terminal and its workers, and the limits that a policy
accepts.  Each operation of a queue runs under the mutex of the queue.  The event queue makes room for
the one terminal event of a session by dropping the oldest events.
-/

namespace JaDesktop.Terminal

/-- `TerminalErrorCode`, as far as the session and its supervisor use it. -/
inductive TerminalErrorCode
  | invalidConfig
  | sessionLimit
  | sessionNotFound
  | staleGeneration
  | queueFull
  | queueClosed
  | outputLimitExceeded
  | spawnFailed
  | ptyFailed
  | processCleanupFailed
  | workerShutdownTimeout
deriving DecidableEq

/-- The number of a code. -/
def TerminalErrorCode.toUInt16 : TerminalErrorCode → UInt16
  | invalidConfig => 1
  | sessionLimit => 8
  | sessionNotFound => 9
  | staleGeneration => 10
  | queueFull => 12
  | queueClosed => 13
  | outputLimitExceeded => 15
  | spawnFailed => 18
  | ptyFailed => 19
  | processCleanupFailed => 20
  | workerShutdownTimeout => 21

inductive CloseReason
  | user
  | shutdown
  | timeout
  | queueOverflow
  | processExited
  | fault
deriving DecidableEq

structure TerminalSize where
  rows : UInt16
  cols : UInt16
  pixelWidth : UInt16
  pixelHeight : UInt16
deriving DecidableEq

/-- `TerminalSize::validate`. -/
def TerminalSize.validate (size : TerminalSize) : Bool :=
  (1 ≤ size.rows && size.rows ≤ 4096) && (1 ≤ size.cols && size.cols ≤ 4096)

/-! ## Limits -/

/-- `TerminalLimits`; the timeout is in nanoseconds. -/
structure TerminalLimits where
  maxSessions : ℕ
  maxInputChunkBytes : ℕ
  maxInputQueueBytes : ℕ
  maxOutputBatchBytes : ℕ
  maxOutputQueueBytes : ℕ
  maxEventCount : ℕ
  maxScrollbackBytes : ℕ
  maxEnvVars : ℕ
  maxEnvKeyBytes : ℕ
  maxEnvValueBytes : ℕ
  maxEnvTotalBytes : ℕ
  operationTimeout : ℕ
deriving DecidableEq

/-- `TerminalLimits::default`. -/
def TerminalLimits.default : TerminalLimits where
  maxSessions := 8
  maxInputChunkBytes := 64 * 1024
  maxInputQueueBytes := 1024 * 1024
  maxOutputBatchBytes := 64 * 1024
  maxOutputQueueBytes := 8 * 1024 * 1024
  maxEventCount := 2048
  maxScrollbackBytes := 4 * 1024 * 1024
  maxEnvVars := 64
  maxEnvKeyBytes := 128
  maxEnvValueBytes := 16 * 1024
  maxEnvTotalBytes := 256 * 1024
  operationTimeout := 30 * 1000000000

/-- `TerminalLimits::validate`. -/
def TerminalLimits.validate (limits : TerminalLimits) : Except TerminalErrorCode TerminalLimits :=
  if limits.maxSessions > 0 ∧ limits.maxSessions ≤ 64 ∧
      limits.maxInputChunkBytes > 0 ∧ limits.maxInputChunkBytes ≤ 4 * 1024 * 1024 ∧
      limits.maxInputQueueBytes ≥ limits.maxInputChunkBytes ∧
      limits.maxInputQueueBytes ≤ 64 * 1024 * 1024 ∧
      limits.maxOutputBatchBytes > 0 ∧ limits.maxOutputBatchBytes ≤ 4 * 1024 * 1024 ∧
      limits.maxOutputQueueBytes ≥ limits.maxOutputBatchBytes ∧
      limits.maxOutputQueueBytes ≥ 64 ∧ limits.maxOutputQueueBytes ≤ 256 * 1024 * 1024 ∧
      limits.maxEventCount > 0 ∧ limits.maxEventCount ≤ 65536 ∧
      limits.maxScrollbackBytes ≥ limits.maxOutputBatchBytes ∧
      limits.maxScrollbackBytes ≤ 256 * 1024 * 1024 ∧
      limits.maxEnvVars > 0 ∧ limits.maxEnvVars ≤ 64 ∧
      limits.maxEnvKeyBytes > 0 ∧ limits.maxEnvKeyBytes ≤ 128 ∧
      limits.maxEnvValueBytes > 0 ∧ limits.maxEnvValueBytes ≤ 16 * 1024 ∧
      limits.maxEnvTotalBytes ≥ limits.maxEnvValueBytes ∧
      limits.maxEnvTotalBytes ≤ 256 * 1024 ∧
      limits.operationTimeout ≠ 0 ∧ limits.operationTimeout ≤ 120 * 1000000000 then .ok limits
  else .error .invalidConfig

lemma TerminalLimits.bounds {limits checked : TerminalLimits} (h : limits.validate = .ok checked) :
    checked = limits ∧ 64 ≤ limits.maxOutputQueueBytes ∧ 0 < limits.maxEventCount := by
  rw [validate] at h
  split_ifs at h with hvalid
  obtain rfl := Except.ok.inj h
  obtain ⟨-, -, -, -, -, -, -, -, -, hbytes, -, hcount, -⟩ := hvalid
  exact ⟨rfl, hbytes, hcount⟩

/-! ## The arithmetic of the machine -/

/-- `usize::MAX`. -/
def usizeMax : ℕ := 2 ^ 64 - 1

/-- `usize::saturating_add`. -/
def saturatingAdd (a b : ℕ) : ℕ := min (a + b) usizeMax

/-- Below the largest number, a saturating sum exceeds a budget exactly when the sum does. -/
lemma lt_saturatingAdd_iff {a b budget : ℕ} (hbudget : budget < usizeMax) :
    budget < saturatingAdd a b ↔ budget < a + b := by
  rw [saturatingAdd, lt_min_iff]
  exact and_iff_left hbudget

lemma saturatingAdd_of_le {a b budget : ℕ} (hbudget : budget < usizeMax) (h : a + b ≤ budget) :
    saturatingAdd a b = a + b :=
  min_eq_left (h.trans hbudget.le)

/-! ## Input -/

structure InputQueue where
  maxBytes : ℕ
  queue : List (List UInt8) := []
  bytes : ℕ := 0
  closed : Bool := false

/-- `InputQueue::push`. -/
def InputQueue.push (q : InputQueue) (data : List UInt8) : Except TerminalErrorCode InputQueue :=
  if q.closed then .error .queueClosed
  else if data.length > q.maxBytes - q.bytes then .error .queueFull
  else .ok { q with bytes := q.bytes + data.length, queue := q.queue ++ [data] }

/-- `InputQueue::pop`, which waits while there is nothing in an open queue; a closed one answers
`none`. -/
def InputQueue.pop (q : InputQueue) : Option (Option (List UInt8) × InputQueue) :=
  match q.queue with
  | data :: rest => some (some data, { q with queue := rest, bytes := q.bytes - data.length })
  | [] => if q.closed then some (none, q) else none

/-- `InputQueue::close`. -/
def InputQueue.close (q : InputQueue) : InputQueue :=
  { q with closed := true, queue := [], bytes := 0 }

structure ResizeQueue where
  pending : Option TerminalSize := none
  closed : Bool := false

/-- `ResizeQueue::set`. -/
def ResizeQueue.set (q : ResizeQueue) (size : TerminalSize) : Except TerminalErrorCode ResizeQueue :=
  if q.closed then .error .queueClosed else .ok { q with pending := some size }

/-- `ResizeQueue::pop`, which waits as the one of the input does. -/
def ResizeQueue.pop (q : ResizeQueue) : Option (Option TerminalSize × ResizeQueue) :=
  match q.pending with
  | some size => some (some size, { q with pending := none })
  | none => if q.closed then some (none, q) else none

/-- `ResizeQueue::close`. -/
def ResizeQueue.close (q : ResizeQueue) : ResizeQueue := { q with closed := true, pending := none }

/-! ## Events -/

/-- `portable_pty::ExitStatus`. -/
structure ExitStatus where
  code : UInt32
  signal : Option String
deriving DecidableEq

inductive TerminalEventKind
  | output (data : List UInt8)
  | resized (size : TerminalSize)
  | exited (status : ExitStatus)
  | closed (reason : CloseReason)
  | error (code : UInt16)
  | outputDropped (bytes : ℕ)
deriving DecidableEq

/-- The kinds that end a terminal. -/
def TerminalEventKind.isTerminal : TerminalEventKind → Bool
  | exited _ | closed _ | error _ => true
  | output _ | resized _ | outputDropped _ => false

structure TerminalEvent where
  sessionId : ℕ
  generation : ℕ
  sequence : ℕ
  kind : TerminalEventKind
deriving DecidableEq

def eventSize : TerminalEventKind → ℕ
  | .output data => data.length + 64
  | .exited status => 96 + status.signal.elim 0 String.utf8ByteSize
  | .resized _ => 64
  | .closed _ | .error _ | .outputDropped _ => 64

structure EventQueue where
  sessionId : ℕ
  generation : ℕ
  maxBytes : ℕ
  maxCount : ℕ
  terminal : Bool := false
  queue : List TerminalEvent := []
  bytes : ℕ := 0
  nextSequence : ℕ := 1
  closed : Bool := false

/-- `u64::MAX`. -/
def maxSequence : ℕ := 2 ^ 64 - 1

namespace EventQueue

variable (q : EventQueue)

def makeEvent (kind : TerminalEventKind) : TerminalEvent × EventQueue :=
  (⟨q.sessionId, q.generation, q.nextSequence, kind⟩,
    { q with nextSequence := min (q.nextSequence + 1) maxSequence })

/-- `push_kind`, with the event that it has accepted. -/
def pushKind (kind : TerminalEventKind) : Option TerminalEvent × EventQueue :=
  if q.closed || q.terminal || decide (q.queue.length ≥ q.maxCount) then (none, q)
  else
    let (event, q) := q.makeEvent kind
    if q.bytes + eventSize event.kind > q.maxBytes then (none, q)
    else (some event,
      { q with bytes := q.bytes + eventSize event.kind, queue := q.queue ++ [event] })

/-- The loop of `push_terminal`: the oldest events go until there is room. -/
def evict (maxBytes maxCount size : ℕ) : List TerminalEvent → ℕ → List TerminalEvent × ℕ
  | [], bytes => ([], bytes)
  | event :: queue, bytes =>
    if bytes + size > maxBytes ∨ (event :: queue).length ≥ maxCount then
      evict maxBytes maxCount size queue (bytes - eventSize event.kind)
    else (event :: queue, bytes)

/-- `push_terminal`, with the event that it has accepted. -/
def pushTerminal (kind : TerminalEventKind) : Option TerminalEvent × EventQueue :=
  if q.terminal then (none, q)
  else if q.closed then (none, { q with terminal := true })
  else
    let (event, q) := { q with terminal := true }.makeEvent kind
    let size := eventSize event.kind
    if size > q.maxBytes ∨ q.maxCount = 0 then (none, { q with closed := true })
    else
      let (queue, bytes) := evict q.maxBytes q.maxCount size q.queue q.bytes
      if bytes + size > q.maxBytes ∨ queue.length ≥ q.maxCount then
        (none, { q with queue, bytes, closed := true })
      else (some event, { q with queue := queue ++ [event], bytes := bytes + size })

/-- The part of `recv_until` that takes an event. -/
def recv : Option (TerminalEvent × EventQueue) :=
  match q.queue with
  | event :: queue => some (event, { q with queue, bytes := q.bytes - eventSize event.kind })
  | [] => none

def close : EventQueue := { q with closed := true }

/-! ## What the operations keep -/

/-- The bytes of the queue are those of its events. -/
def Counted : Prop := q.bytes = (q.queue.map fun event => eventSize event.kind).sum

/-- The loop leaves the newest events, counted, and it leaves room or nothing. -/
lemma evict_spec (maxBytes maxCount size : ℕ) (queue : List TerminalEvent) {bytes : ℕ}
    (hbytes : bytes = (queue.map fun event => eventSize event.kind).sum) :
    ∃ kept, kept <:+ queue ∧ evict maxBytes maxCount size queue bytes =
        (kept, (kept.map fun event => eventSize event.kind).sum) ∧
      (kept = [] ∨ (kept.map fun event => eventSize event.kind).sum + size ≤ maxBytes ∧
        kept.length < maxCount) := by
  induction queue generalizing bytes with
  | nil => exact ⟨[], List.suffix_refl _, by rw [evict, hbytes], .inl rfl⟩
  | cons event queue ih =>
    rw [List.map_cons, List.sum_cons] at hbytes
    rw [evict]
    split_ifs with hfull
    · obtain ⟨kept, hsuffix, heq, hroom⟩ := @ih (bytes - eventSize event.kind) (by omega)
      exact ⟨kept, hsuffix.trans (List.suffix_cons _ _), heq, hroom⟩
    · refine ⟨event :: queue, List.suffix_refl _, by rw [hbytes]; rfl, .inr ?_⟩
      rw [not_or, Nat.not_lt, Nat.not_le] at hfull
      rw [List.map_cons, List.sum_cons]
      omega

/-- The event that a push of `kind` makes. -/
def nextEvent (kind : TerminalEventKind) : TerminalEvent :=
  ⟨q.sessionId, q.generation, q.nextSequence, kind⟩

/-- **The terminal event gets its place** in an open queue that is large enough for it. -/
lemma pushTerminal_accepts {q : EventQueue} {kind : TerminalEventKind} (hcounted : q.Counted)
    (hterminal : q.terminal = false) (hopen : q.closed = false) (hsize : eventSize kind ≤ q.maxBytes)
    (hcount : 0 < q.maxCount) :
    ∃ kept, kept <:+ q.queue ∧ q.pushTerminal kind = (some (q.nextEvent kind),
      { q with
        terminal := true
        nextSequence := min (q.nextSequence + 1) maxSequence
        queue := kept ++ [q.nextEvent kind]
        bytes := (kept.map fun event => eventSize event.kind).sum + eventSize kind }) := by
  obtain ⟨kept, hsuffix, heq, hroom⟩ :=
    evict_spec q.maxBytes q.maxCount (eventSize kind) q.queue hcounted
  refine ⟨kept, hsuffix, ?_⟩
  have hfits : ¬ ((kept.map fun event => eventSize event.kind).sum + eventSize kind > q.maxBytes ∨
      kept.length ≥ q.maxCount) := by
    rcases hroom with rfl | hroom
    · simp only [List.map_nil, List.sum_nil, List.length_nil]
      omega
    · omega
  simp only [pushTerminal, makeEvent, hterminal, hopen, Bool.false_eq_true, if_false, heq, hfits]
  rw [if_neg (by omega)]
  rfl

lemma pushTerminal_refuses {q : EventQueue} {kind : TerminalEventKind}
    (hterminal : q.terminal = false) (hopen : q.closed = false)
    (hsize : q.maxBytes < eventSize kind) :
    (q.pushTerminal kind).1 = none ∧ (q.pushTerminal kind).2.closed = true := by
  have hlarge : eventSize kind > q.maxBytes ∨ q.maxCount = 0 := .inl hsize
  simp [pushTerminal, makeEvent, hterminal, hopen, hlarge]

lemma pushKind_terminal {q : EventQueue} (kind : TerminalEventKind) (h : q.terminal = true) :
    q.pushKind kind = (none, q) := by
  simp [pushKind, h]

/-- A push of another event accepts the next event at the end of the queue, or nothing. -/
lemma pushKind_cases (q : EventQueue) (kind : TerminalEventKind) (hcounted : q.Counted) :
    (q.pushKind kind).2.Counted ∧ (q.pushKind kind).2.closed = q.closed ∧
      (q.pushKind kind).2.terminal = q.terminal ∧ (q.pushKind kind).2.maxBytes = q.maxBytes ∧
      (q.pushKind kind).2.maxCount = q.maxCount ∧
      ((q.pushKind kind).1 = none ∧ ((q.pushKind kind).2.nextSequence = q.nextSequence ∨
          (q.pushKind kind).2.nextSequence = min (q.nextSequence + 1) maxSequence) ∨
        (q.pushKind kind).1 = some (q.nextEvent kind) ∧
          (q.pushKind kind).2.nextSequence = min (q.nextSequence + 1) maxSequence) := by
  by_cases hrefused : (q.closed || q.terminal || decide (q.queue.length ≥ q.maxCount)) = true
  · rw [pushKind, if_pos hrefused]
    exact ⟨hcounted, rfl, rfl, rfl, rfl, .inl ⟨rfl, .inl rfl⟩⟩
  by_cases hlarge : q.bytes + eventSize kind > q.maxBytes
  · rw [pushKind, if_neg hrefused]
    simp only [makeEvent, hlarge, if_true, or_true, true_or, and_true]
    exact hcounted
  · rw [pushKind, if_neg hrefused]
    simp only [makeEvent, hlarge, if_false, true_and, and_true]
    refine ⟨?_, .inr rfl⟩
    rw [Counted] at hcounted ⊢
    simp [hcounted]

lemma recv_eq_some {q q' : EventQueue} {event : TerminalEvent} (h : q.recv = some (event, q')) :
    q.queue = event :: q'.queue ∧
      q' = { q with queue := q'.queue, bytes := q.bytes - eventSize event.kind } := by
  rw [recv] at h
  cases hqueue : q.queue with
  | nil =>
    rw [hqueue] at h
    cases h
  | cons first queue =>
    rw [hqueue] at h
    obtain ⟨rfl, rfl⟩ := Prod.mk.inj (Option.some_inj.mp h)
    exact ⟨rfl, rfl⟩

lemma Counted.recv {q q' : EventQueue} {event : TerminalEvent} (hq : q.Counted)
    (h : q.recv = some (event, q')) : q'.Counted := by
  obtain ⟨hqueue, hq'⟩ := recv_eq_some h
  rw [Counted, hqueue, List.map_cons, List.sum_cons] at hq
  rw [Counted, hq', hq]
  exact Nat.add_sub_cancel_left _ _

end EventQueue

end JaDesktop.Terminal
