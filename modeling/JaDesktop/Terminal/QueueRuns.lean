import JaDesktop.Lib.Runs
import JaDesktop.Terminal.Scrollback

/-!
# Runs of the event queue

The callers of one event queue, step by step.  The mutex of the queue guards everything but the
terminal bit, which `push_terminal` sets before it takes the mutex: the bit can change while a push
of another event holds it.  So a push of an ordinary event has two steps, up to the load of the
bit and from there to the release of the mutex, and a push of a terminal event has two, the swap of
the bit and the section behind it.  The sections compute as the machine does, with saturating
arithmetic.  A budget below the largest number keeps it from being seen: then two steps without a
third between them are the operations of `EventQueue` (`pushKind_eq`, `pushTerminal_eq`).
-/

namespace JaDesktop.Terminal

/-- `event_size`. -/
def eventBytes : TerminalEventKind → ℕ
  | .output data => saturatingAdd data.length 64
  | .outputDropped _ => 64
  | .exited status => saturatingAdd 96 (status.signal.elim 0 String.utf8ByteSize)
  | .resized _ => 64
  | .closed _ | .error _ => 64

/-! ## The sections -/

namespace EventQueue

/-- `EventQueue::new`. -/
def new (sessionId generation maxBytes maxCount : ℕ) : EventQueue :=
  { sessionId, generation, maxBytes, maxCount }

variable (q : EventQueue)

/-- The tests of `push_kind` before it makes an event; the last of them loads the bit. -/
def refuses : Bool :=
  q.closed || q.terminal || decide (q.queue.length ≥ q.maxCount)

/-- The rest of `push_kind`. -/
def finishPush (kind : TerminalEventKind) : Option TerminalEvent × EventQueue :=
  let (event, q) := q.makeEvent kind
  if saturatingAdd q.bytes (eventBytes event.kind) > q.maxBytes then (none, q)
  else (some event,
    { q with bytes := saturatingAdd q.bytes (eventBytes event.kind), queue := q.queue ++ [event] })

/-- The loop of `push_terminal`, with the events that it evicts, those that it keeps, and their
bytes. -/
def evictOldest (maxBytes maxCount size : ℕ) :
    List TerminalEvent → ℕ → List TerminalEvent × List TerminalEvent × ℕ
  | [], bytes => ([], [], bytes)
  | event :: queue, bytes =>
    if saturatingAdd bytes size > maxBytes ∨ (event :: queue).length ≥ maxCount then
      let (evicted, kept, bytes) :=
        evictOldest maxBytes maxCount size queue (bytes - eventBytes event.kind)
      (event :: evicted, kept, bytes)
    else ([], event :: queue, bytes)

/-- What the section of `push_terminal` does: the event that it has accepted, the events that it
has evicted, and the queue. -/
structure Reservation where
  event : Option TerminalEvent
  evicted : List TerminalEvent
  queue : EventQueue

/-- The section of `push_terminal`, behind the swap of the bit. -/
def reserve (kind : TerminalEventKind) : Reservation :=
  if q.closed then ⟨none, [], q⟩
  else
    let (event, q) := q.makeEvent kind
    let size := eventBytes event.kind
    if size > q.maxBytes ∨ q.maxCount = 0 then ⟨none, [], { q with closed := true }⟩
    else
      let (evicted, queue, bytes) := evictOldest q.maxBytes q.maxCount size q.queue q.bytes
      if saturatingAdd bytes size > q.maxBytes ∨ queue.length ≥ q.maxCount then
        ⟨none, evicted, { q with queue, bytes, closed := true }⟩
      else
        ⟨some event, evicted,
          { q with queue := queue ++ [event], bytes := saturatingAdd bytes size }⟩

/-- The part of `recv_until` that takes an event. -/
def recvOldest : Option (TerminalEvent × EventQueue) :=
  match q.queue with
  | event :: queue => some (event, { q with queue, bytes := q.bytes - eventBytes event.kind })
  | [] => none

end EventQueue

/-! ## The callers -/

/-- What a step of a caller is seen to do. -/
inductive QueueLabel
  /-- `push_output` or `push_control` has passed its tests and holds the mutex -/
  | admitted (kind : TerminalEventKind)
  /-- `push_output` or `push_control` returns whether there is an event -/
  | pushed (kind : TerminalEventKind) (event : Option TerminalEvent)
  /-- `push_terminal` has set the bit -/
  | swapped (kind : TerminalEventKind)
  /-- `push_terminal` returns whether there is an event -/
  | pushedTerminal (kind : TerminalEventKind) (event : Option TerminalEvent)
      (evicted : List TerminalEvent)
  /-- `recv_until` returns -/
  | received (event : Option TerminalEvent)
  /-- `close` -/
  | closed
deriving DecidableEq

/-- A queue with its callers: the push that holds the mutex, and the caller of `push_terminal` that
has set the bit and waits for the mutex. -/
structure QueueCallers where
  queue : EventQueue
  pushing : Option TerminalEventKind := none
  reserving : Option TerminalEventKind := none

/-- A step of a caller.  A caller that waits for an event has given the mutex back; when its time is
over it returns without another look at the queue. -/
inductive QueueCallers.Step : QueueCallers → QueueLabel → QueueCallers → Prop
  | admitted {s : QueueCallers} {kind : TerminalEventKind} (hfree : s.pushing = none)
      (haccepts : s.queue.refuses = false) :
      Step s (.admitted kind) { s with pushing := some kind }
  | refused {s : QueueCallers} {kind : TerminalEventKind} (hfree : s.pushing = none)
      (hrefuses : s.queue.refuses = true) : Step s (.pushed kind none) s
  | pushed {s : QueueCallers} {kind : TerminalEventKind} (hholds : s.pushing = some kind) :
      Step s (.pushed kind (s.queue.finishPush kind).1)
        { s with queue := (s.queue.finishPush kind).2, pushing := none }
  | late {s : QueueCallers} {kind : TerminalEventKind} (hset : s.queue.terminal = true) :
      Step s (.pushedTerminal kind none []) s
  | swapped {s : QueueCallers} {kind : TerminalEventKind} (hunset : s.queue.terminal = false) :
      Step s (.swapped kind)
        { s with queue := { s.queue with terminal := true }, reserving := some kind }
  | reserved {s : QueueCallers} {kind : TerminalEventKind} (hfree : s.pushing = none)
      (hwaits : s.reserving = some kind) :
      Step s (.pushedTerminal kind (s.queue.reserve kind).event (s.queue.reserve kind).evicted)
        { s with queue := (s.queue.reserve kind).queue, reserving := none }
  | received {s : QueueCallers} {event : TerminalEvent} {queue : EventQueue}
      (hfree : s.pushing = none) (hrecv : s.queue.recvOldest = some (event, queue)) :
      Step s (.received (some event)) { s with queue }
  | timedOut {s : QueueCallers} (hfree : s.pushing = none) : Step s (.received none) s
  | closed {s : QueueCallers} (hfree : s.pushing = none) :
      Step s .closed { s with queue := s.queue.close }

/-! ## What a trace says -/

namespace QueueLabel

/-- The event whose push has returned true. -/
def accepted : QueueLabel → List TerminalEvent
  | pushed _ event | pushedTerminal _ event _ => event.toList
  | _ => []

/-- The event that a receiver has got. -/
def got : QueueLabel → List TerminalEvent
  | received event => event.toList
  | _ => []

/-- The events that have left the queue, which a receiver has got or a terminal event has evicted. -/
def gone : QueueLabel → List TerminalEvent
  | received event => event.toList
  | pushedTerminal _ _ evicted => evicted
  | _ => []

/-- A push of a terminal event has returned true. -/
def endsQueue : QueueLabel → Bool
  | pushedTerminal _ event _ => event.isSome
  | _ => false

/-- A push has returned. -/
def isPush : QueueLabel → Bool
  | pushed _ _ | pushedTerminal _ _ _ => true
  | _ => false

end QueueLabel

/-- There is room for an event of a size behind the events. -/
def Room (maxBytes maxCount size : ℕ) (queue : List TerminalEvent) : Prop :=
  (queue.map fun event => eventBytes event.kind).sum + size ≤ maxBytes ∧ queue.length < maxCount

/-- The evicted events are the oldest ones of the queue, and no smaller number of them makes room. -/
structure SmallestEviction (maxBytes maxCount size : ℕ) (queue evicted : List TerminalEvent) :
    Prop where
  oldest : evicted <+: queue
  room : Room maxBytes maxCount size (queue.drop evicted.length)
  smallest : ∀ n < evicted.length, ¬ Room maxBytes maxCount size (queue.drop n)

/-- The events that are queued after a trace. -/
def queuedAfter (trace : List QueueLabel) : List TerminalEvent :=
  (trace.flatMap QueueLabel.accepted).drop (trace.flatMap QueueLabel.gone).length

/-- **What holds after every run** of the callers of one queue. -/
structure QueueKept (maxBytes maxCount : ℕ) (trace : List QueueLabel) (s : QueueCallers) :
    Prop where
  bytes : s.queue.bytes = (s.queue.queue.map fun event => eventBytes event.kind).sum
  bytes_le : s.queue.bytes ≤ maxBytes
  count_le : s.queue.queue.length ≤ maxCount
  /-- what was accepted has left in this order, or is still there -/
  order : trace.flatMap QueueLabel.accepted = trace.flatMap QueueLabel.gone ++ s.queue.queue
  /-- the receivers get the events in the order in which they were accepted -/
  fifo : (trace.flatMap QueueLabel.got).Sublist (trace.flatMap QueueLabel.accepted)
  increasing : (trace.filter QueueLabel.isPush).length < maxSequence →
    (trace.flatMap QueueLabel.accepted).Pairwise fun e e' => e.sequence < e'.sequence
  /-- nothing is accepted behind a terminal event, not even another one -/
  last : ∀ pre label post, trace = pre ++ label :: post → label.endsQueue = true →
    post.flatMap QueueLabel.accepted = []
  evicts : ∀ pre kind event evicted post,
    trace = pre ++ .pushedTerminal kind event evicted :: post →
      (event = none → evicted = []) ∧
      (event.isSome = true →
        SmallestEviction maxBytes maxCount (eventBytes kind) (queuedAfter pre) evicted)
  /-- a receiver that goes on gets every event that is queued -/
  drains : s.pushing = none → ∃ s', s'.queue.queue = [] ∧
    Run QueueCallers.Step s (s.queue.queue.map fun event => .received (some event)) s'

/-! ## What the sections keep -/

section Sections

variable {maxBytes maxCount : ℕ} {q : EventQueue} {kind : TerminalEventKind}

/-- A queue within its budgets. -/
structure EventQueue.Sound (maxBytes maxCount : ℕ) (q : EventQueue) : Prop where
  maxBytes_eq : q.maxBytes = maxBytes
  maxCount_eq : q.maxCount = maxCount
  bytes : q.bytes = (q.queue.map fun event => eventBytes event.kind).sum
  bytes_le : q.bytes ≤ maxBytes
  count_le : q.queue.length ≤ maxCount

namespace EventQueue

/-- What `finishPush` does to a queue that has a place left. -/
lemma finishPush_cases (hmax : maxBytes < usizeMax) (hq : q.Sound maxBytes maxCount)
    (hplace : q.queue.length < maxCount) :
    (q.finishPush kind).2.Sound maxBytes maxCount ∧
      (q.finishPush kind).2.terminal = q.terminal ∧
      (q.finishPush kind).2.nextSequence = min (q.nextSequence + 1) maxSequence ∧
      ((q.finishPush kind).1 = none ∧ (q.finishPush kind).2.queue = q.queue ∨
        (q.finishPush kind).1 = some (q.nextEvent kind) ∧
          (q.finishPush kind).2.queue = q.queue ++ [q.nextEvent kind]) := by
  have hbudget : q.maxBytes < usizeMax := by
    rw [hq.maxBytes_eq]
    exact hmax
  by_cases hlarge : q.maxBytes < saturatingAdd q.bytes (eventBytes kind)
  · simp only [finishPush, makeEvent, gt_iff_lt, hlarge, if_true, true_or, and_true]
    exact ⟨hq.maxBytes_eq, hq.maxCount_eq, hq.bytes, hq.bytes_le, hq.count_le⟩
  · have hfits : q.bytes + eventBytes kind ≤ q.maxBytes :=
      Nat.le_of_not_lt ((lt_saturatingAdd_iff hbudget).not.mp hlarge)
    simp only [finishPush, makeEvent, gt_iff_lt, hlarge, if_false, true_and]
    refine ⟨⟨hq.maxBytes_eq, hq.maxCount_eq, ?_, ?_, ?_⟩, .inr ⟨rfl, rfl⟩⟩
    · simp only [saturatingAdd_of_le hbudget hfits, List.map_append, List.sum_append, ← hq.bytes,
        List.map_cons, List.map_nil, List.sum_cons, List.sum_nil, Nat.add_zero]
    · simp only [saturatingAdd_of_le hbudget hfits]
      exact hfits.trans hq.maxBytes_eq.le
    · rw [List.length_append, List.length_singleton]
      exact hplace

lemma evictOldest_spec {size : ℕ} (hmax : maxBytes < usizeMax) (hsize : size ≤ maxBytes)
    (hcount : 0 < maxCount) (queue : List TerminalEvent) {bytes : ℕ}
    (hbytes : bytes = (queue.map fun event => eventBytes event.kind).sum) :
    ∃ evicted kept, evictOldest maxBytes maxCount size queue bytes =
        (evicted, kept, (kept.map fun event => eventBytes event.kind).sum) ∧
      queue = evicted ++ kept ∧ Room maxBytes maxCount size kept ∧
      ∀ n < evicted.length, ¬ Room maxBytes maxCount size (queue.drop n) := by
  induction queue generalizing bytes with
  | nil =>
    refine ⟨[], [], by rw [evictOldest, hbytes], rfl, ⟨?_, hcount⟩, fun n hn => absurd hn (by simp)⟩
    simpa using hsize
  | cons event queue ih =>
    have hfull : saturatingAdd bytes size > maxBytes ∨ (event :: queue).length ≥ maxCount ↔
        ¬ Room maxBytes maxCount size (event :: queue) := by
      rw [Room, ← hbytes, gt_iff_lt, lt_saturatingAdd_iff hmax, not_and_or, Nat.not_le, Nat.not_lt]
    rw [evictOldest]
    by_cases hroom : Room maxBytes maxCount size (event :: queue)
    · rw [if_neg (hfull.not.mpr (not_not_intro hroom)), hbytes]
      exact ⟨[], event :: queue, rfl, rfl, hroom, fun n hn => absurd hn (by simp)⟩
    · rw [if_pos (hfull.mpr hroom)]
      rw [List.map_cons, List.sum_cons] at hbytes
      obtain ⟨evicted, kept, heq, hqueue, hkept, hsmallest⟩ :=
        @ih (bytes - eventBytes event.kind) (by omega)
      refine ⟨event :: evicted, kept, by rw [heq], by rw [hqueue, List.cons_append], hkept, ?_⟩
      intro n hn
      cases n with
      | zero => exact hroom
      | succ n =>
        rw [List.drop_succ_cons]
        exact hsmallest n (Nat.lt_of_succ_lt_succ hn)

/-- What `reserve` does. -/
lemma reserve_cases (hmax : maxBytes < usizeMax) (hq : q.Sound maxBytes maxCount) :
    (q.reserve kind).queue.Sound maxBytes maxCount ∧
      (q.reserve kind).queue.terminal = q.terminal ∧
      ((q.reserve kind).event = none ∧ (q.reserve kind).evicted = [] ∧
          (q.reserve kind).queue.queue = q.queue ∧
          ((q.reserve kind).queue.nextSequence = q.nextSequence ∨
            (q.reserve kind).queue.nextSequence = min (q.nextSequence + 1) maxSequence) ∨
        (q.reserve kind).event = some (q.nextEvent kind) ∧
          (q.reserve kind).queue.nextSequence = min (q.nextSequence + 1) maxSequence ∧
          q.queue ++ [q.nextEvent kind] = (q.reserve kind).evicted ++ (q.reserve kind).queue.queue ∧
          SmallestEviction maxBytes maxCount (eventBytes kind) q.queue (q.reserve kind).evicted) := by
  obtain ⟨hbytes, hcount⟩ : q.maxBytes = maxBytes ∧ q.maxCount = maxCount :=
    ⟨hq.maxBytes_eq, hq.maxCount_eq⟩
  have hsame : ∀ {nextSequence : ℕ} {closed : Bool},
      ({ q with nextSequence, closed } : EventQueue).Sound maxBytes maxCount :=
    ⟨hq.maxBytes_eq, hq.maxCount_eq, hq.bytes, hq.bytes_le, hq.count_le⟩
  by_cases hclosed : q.closed = true
  · rw [reserve, if_pos hclosed]
    exact ⟨hq, rfl, .inl ⟨rfl, rfl, rfl, .inl rfl⟩⟩
  by_cases hlarge : eventBytes kind > q.maxBytes ∨ q.maxCount = 0
  · simp only [reserve, makeEvent, hclosed, hlarge, Bool.false_eq_true, if_false, if_true]
    exact ⟨hsame, trivial, .inl ⟨trivial, trivial, trivial, .inr trivial⟩⟩
  -- the loop ends where there is room, and so the test behind it lets the event in
  obtain ⟨hsize, hpositive⟩ := not_or.mp hlarge
  have hsize' : eventBytes kind ≤ maxBytes := by omega
  have hpositive' : 0 < maxCount := by omega
  obtain ⟨evicted, kept, heq, hqueue, hroom, hsmallest⟩ :=
    evictOldest_spec hmax hsize' hpositive' q.queue hq.bytes
  have hfits : ¬ (saturatingAdd (kept.map fun event => eventBytes event.kind).sum (eventBytes kind) >
      maxBytes ∨ kept.length ≥ maxCount) := by
    rw [gt_iff_lt, lt_saturatingAdd_iff hmax, not_or, Nat.not_lt, Nat.not_le]
    exact hroom
  have hreserve : q.reserve kind = ⟨some (q.nextEvent kind), evicted,
      { q with
        nextSequence := min (q.nextSequence + 1) maxSequence
        queue := kept ++ [q.nextEvent kind]
        bytes := (kept.map fun event => eventBytes event.kind).sum + eventBytes kind }⟩ := by
    rw [← saturatingAdd_of_le hmax hroom.1]
    rw [← hbytes, ← hcount] at heq hfits
    simp only [reserve, makeEvent, hclosed, hlarge, Bool.false_eq_true, if_false, heq, hfits]
    rfl
  rw [hreserve]
  refine ⟨⟨hbytes, hcount, ?_, hroom.1, ?_⟩, rfl, .inr ⟨rfl, rfl, ?_, ?_⟩⟩
  · simp only [List.map_append, List.sum_append, List.map_cons, List.map_nil, List.sum_cons,
      List.sum_nil, Nat.add_zero]
    rfl
  · rw [List.length_append, List.length_singleton]
    exact hroom.2
  · rw [hqueue, List.append_assoc]
  · refine ⟨⟨kept, hqueue.symm⟩, ?_, hsmallest⟩
    rw [hqueue, List.drop_left]
    exact hroom

/-- What `recvOldest` does. -/
lemma recvOldest_cases {q' : EventQueue} {event : TerminalEvent} (hq : q.Sound maxBytes maxCount)
    (h : q.recvOldest = some (event, q')) :
    q'.Sound maxBytes maxCount ∧ q.queue = event :: q'.queue ∧ q'.terminal = q.terminal ∧
      q'.nextSequence = q.nextSequence := by
  rw [recvOldest] at h
  cases hqueue : q.queue with
  | nil =>
    rw [hqueue] at h
    cases h
  | cons first queue =>
    rw [hqueue] at h
    obtain ⟨rfl, rfl⟩ := Prod.mk.inj (Option.some_inj.mp h)
    obtain ⟨hmaxBytes, hmaxCount, hbytes, hle, hcount⟩ := hq
    rw [hqueue, List.map_cons, List.sum_cons] at hbytes
    rw [hqueue, List.length_cons] at hcount
    refine ⟨⟨hmaxBytes, hmaxCount, ?_, (Nat.sub_le _ _).trans hle,
      Nat.le_of_succ_le hcount⟩, rfl, rfl, rfl⟩
    rw [hbytes]
    exact Nat.add_sub_cancel_left _ _

/-! ## The operations -/

lemma eventBytes_eq (kind : TerminalEventKind) : eventBytes kind = min (eventSize kind) usizeMax := by
  have h64 : (64 : ℕ) = min 64 usizeMax := by decide
  cases kind with
  | output | exited => rfl
  | resized | closed | error | outputDropped => exact h64

lemma lt_saturatingAdd_eventBytes_iff {a budget : ℕ} (hbudget : budget < usizeMax) :
    budget < saturatingAdd a (eventBytes kind) ↔ budget < a + eventSize kind := by
  rw [lt_saturatingAdd_iff hbudget, eventBytes_eq]
  omega

lemma saturatingAdd_eventBytes_of_le {a budget : ℕ} (hbudget : budget < usizeMax)
    (h : a + eventSize kind ≤ budget) : saturatingAdd a (eventBytes kind) = a + eventSize kind := by
  rw [saturatingAdd, eventBytes_eq]
  omega

/-- `pushKind` is a push without a step of another caller in it. -/
theorem pushKind_eq (hmax : q.maxBytes < usizeMax) :
    q.pushKind kind = if q.refuses then (none, q) else q.finishPush kind := by
  rw [pushKind, refuses]
  refine if_congr Iff.rfl rfl ?_
  by_cases hlarge : q.maxBytes < q.bytes + eventSize kind
  · simp only [finishPush, makeEvent, gt_iff_lt, lt_saturatingAdd_eventBytes_iff hmax, hlarge,
      if_true]
  · simp only [finishPush, makeEvent, gt_iff_lt, hlarge, if_false,
      saturatingAdd_eventBytes_of_le hmax (Nat.le_of_not_lt hlarge)]

lemma evict_eq_evictOldest (hmax : maxBytes < usizeMax) (queue : List TerminalEvent) {bytes : ℕ}
    (hbytes : bytes ≤ usizeMax) :
    evict maxBytes maxCount (eventSize kind) queue bytes =
      (evictOldest maxBytes maxCount (eventBytes kind) queue bytes).2 := by
  induction queue generalizing bytes with
  | nil => rfl
  | cons event queue ih =>
    rw [evict, evictOldest]
    by_cases hfull : bytes + eventSize kind > maxBytes ∨ (event :: queue).length ≥ maxCount
    · have hcut : bytes - eventSize event.kind = bytes - eventBytes event.kind := by
        rw [eventBytes_eq]
        omega
      rw [if_pos hfull, hcut, @ih (bytes - eventBytes event.kind) ((Nat.sub_le _ _).trans hbytes),
        if_pos (by rwa [gt_iff_lt, lt_saturatingAdd_eventBytes_iff hmax])]
    · rw [if_neg hfull, if_neg (by rwa [gt_iff_lt, lt_saturatingAdd_eventBytes_iff hmax])]

/-- `pushTerminal` is a swap of the bit with its section behind it. -/
theorem pushTerminal_eq (hmax : q.maxBytes < usizeMax) (hbytes : q.bytes ≤ q.maxBytes) :
    q.pushTerminal kind =
      if q.terminal then (none, q)
      else (({ q with terminal := true }.reserve kind).event,
        ({ q with terminal := true }.reserve kind).queue) := by
  rw [pushTerminal]
  refine if_congr Iff.rfl rfl ?_
  cases hclosed : q.closed with
  | true => simp only [reserve, if_true]
  | false =>
    have hlarge : eventBytes kind > q.maxBytes ↔ eventSize kind > q.maxBytes := by
      rw [eventBytes_eq]
      omega
    by_cases hrefused : eventSize kind > q.maxBytes ∨ q.maxCount = 0
    · simp only [reserve, makeEvent, hlarge, hrefused, Bool.false_eq_true, if_false, if_true]
    simp only [reserve, makeEvent, hlarge, hrefused, Bool.false_eq_true, if_false,
      evict_eq_evictOldest hmax q.queue (hbytes.trans hmax.le), gt_iff_lt,
      lt_saturatingAdd_eventBytes_iff hmax]
    split_ifs with hfull
    · rfl
    · rw [not_or, Nat.not_lt] at hfull
      rw [saturatingAdd_eventBytes_of_le hmax hfull.1]

/-- `recv` takes the oldest event. -/
theorem recv_eq (hbytes : q.bytes ≤ usizeMax) : q.recv = q.recvOldest := by
  rw [recv, recvOldest]
  cases q.queue with
  | nil => rfl
  | cons event queue =>
    have hcut : q.bytes - eventSize event.kind = q.bytes - eventBytes event.kind := by
      rw [eventBytes_eq]
      omega
    dsimp only
    rw [hcut]

end EventQueue

end Sections

/-! ## What a step keeps -/

section Runs

variable {maxBytes maxCount : ℕ} {trace : List QueueLabel} {s s' : QueueCallers}
  {label : QueueLabel}

/-- What holds of the state alone: a push that holds the mutex still has its place, and the caller
that waits for the mutex has set the bit. -/
structure QueueCallers.Sound (maxBytes maxCount : ℕ) (s : QueueCallers) : Prop where
  queue : s.queue.Sound maxBytes maxCount
  pushing : s.pushing.isSome = true → s.queue.queue.length < maxCount
  reserving : s.reserving.isSome = true → s.queue.terminal = true

/-- The bit is set, and nobody is about to push. -/
structure QueueCallers.Quiet (s : QueueCallers) : Prop where
  terminal : s.queue.terminal = true
  pushing : s.pushing = none
  reserving : s.reserving = none

/-- Everything that a step does to the queue. -/
structure QueueEffect (maxBytes maxCount : ℕ) (s : QueueCallers) (label : QueueLabel)
    (s' : QueueCallers) : Prop where
  sound : s'.Sound maxBytes maxCount
  order : s.queue.queue ++ label.accepted = label.gone ++ s'.queue.queue
  accepts : ∀ event ∈ label.accepted, label.accepted = [event] ∧ label.isPush = true ∧
    event.sequence = s.queue.nextSequence ∧
    s'.queue.nextSequence = min (s.queue.nextSequence + 1) maxSequence
  counts : s'.queue.nextSequence = s.queue.nextSequence ∨
    label.isPush = true ∧ s'.queue.nextSequence = min (s.queue.nextSequence + 1) maxSequence
  quiet : s.Quiet → s'.Quiet ∧ label.accepted = []
  ends : label.endsQueue = true → s'.Quiet
  evicts : ∀ kind event evicted, label = .pushedTerminal kind event evicted →
    (event = none → evicted = []) ∧
    (event.isSome = true →
      SmallestEviction maxBytes maxCount (eventBytes kind) s.queue.queue evicted)

lemma queueEffect_still (hs' : s'.Sound maxBytes maxCount) (haccepted : label.accepted = [])
    (hgone : label.gone = []) (hends : label.endsQueue = false)
    (hqueue : s'.queue.queue = s.queue.queue)
    (hnext : s'.queue.nextSequence = s.queue.nextSequence) (hquiet : s.Quiet → s'.Quiet) :
    QueueEffect maxBytes maxCount s label s' where
  sound := hs'
  order := by rw [haccepted, hgone, hqueue, List.append_nil, List.nil_append]
  accepts event hevent := by
    rw [haccepted] at hevent
    cases hevent
  counts := .inl hnext
  quiet h := ⟨hquiet h, haccepted⟩
  ends h := by
    rw [hends] at h
    cases h
  evicts kind event evicted h := by
    subst h
    exact ⟨fun _ => hgone, fun hsome => absurd (hends.symm.trans hsome) (by decide)⟩

lemma queueEffect_of_step (hmax : maxBytes < usizeMax) (hs : s.Sound maxBytes maxCount)
    (h : s.Step label s') : QueueEffect maxBytes maxCount s label s' := by
  cases h with
  | admitted hfree haccepts =>
    simp only [EventQueue.refuses, Bool.or_eq_false_iff, decide_eq_false_iff_not, ge_iff_le,
      Nat.not_le, hs.queue.maxCount_eq] at haccepts
    refine queueEffect_still ⟨hs.queue, fun _ => haccepts.2, hs.reserving⟩ rfl rfl rfl rfl rfl ?_
    exact fun hquiet => absurd hquiet.terminal (by simp [haccepts.1.2])
  | refused => exact queueEffect_still hs rfl rfl rfl rfl rfl id
  | @pushed kind hholds =>
    obtain ⟨hsound, hterminal, hnext, hresult⟩ := @EventQueue.finishPush_cases _ _ _ kind hmax
      hs.queue (hs.pushing (by rw [hholds]; rfl))
    refine
      { sound := ⟨hsound, fun h => absurd h (by simp), fun h => hterminal.trans (hs.reserving h)⟩
        order := ?_
        accepts := ?_
        counts := .inr ⟨rfl, hnext⟩
        quiet := fun hquiet => absurd (hholds.symm.trans hquiet.pushing) (Option.some_ne_none _)
        ends := fun h => by cases h
        evicts := fun _ _ _ h => by cases h }
    · rcases hresult with ⟨hnone, hqueue⟩ | ⟨hsome, hqueue⟩
      · simp [QueueLabel.accepted, QueueLabel.gone, hnone, hqueue]
      · simp [QueueLabel.accepted, QueueLabel.gone, hsome, hqueue]
    · intro event hevent
      rcases hresult with ⟨hnone, -⟩ | ⟨hsome, -⟩
      · simp [QueueLabel.accepted, hnone] at hevent
      · simp only [QueueLabel.accepted, hsome, Option.toList_some, List.mem_singleton] at hevent ⊢
        rw [hevent]
        exact ⟨rfl, rfl, rfl, hnext⟩
  | late => exact queueEffect_still hs rfl rfl rfl rfl rfl id
  | swapped hunset =>
    refine queueEffect_still ⟨⟨hs.queue.maxBytes_eq, hs.queue.maxCount_eq, hs.queue.bytes,
      hs.queue.bytes_le, hs.queue.count_le⟩, hs.pushing, fun _ => rfl⟩ rfl rfl rfl rfl rfl ?_
    exact fun hquiet => absurd hquiet.terminal (by simp [hunset])
  | @reserved kind hfree hwaits =>
    obtain ⟨hsound, hterminal, hresult⟩ := @EventQueue.reserve_cases _ _ _ kind hmax hs.queue
    have hset : (s.queue.reserve kind).queue.terminal = true :=
      hterminal.trans (hs.reserving (by rw [hwaits]; rfl))
    refine
      { sound := ⟨hsound, fun h => absurd h (by simp [hfree]), fun h => absurd h (by simp)⟩
        order := ?_
        accepts := ?_
        counts := ?_
        quiet := fun hquiet => absurd (hwaits.symm.trans hquiet.reserving) (Option.some_ne_none _)
        ends := fun _ => ⟨hset, hfree, rfl⟩
        evicts := ?_ }
    · rcases hresult with ⟨hnone, hevicted, hqueue, -⟩ | ⟨hsome, -, horder, -⟩
      · simp [QueueLabel.accepted, QueueLabel.gone, hnone, hevicted, hqueue]
      · simpa [QueueLabel.accepted, QueueLabel.gone, hsome] using horder
    · intro event hevent
      rcases hresult with ⟨hnone, -⟩ | ⟨hsome, hnext, -⟩
      · simp [QueueLabel.accepted, hnone] at hevent
      · simp only [QueueLabel.accepted, hsome, Option.toList_some, List.mem_singleton] at hevent ⊢
        rw [hevent]
        exact ⟨rfl, rfl, rfl, hnext⟩
    · rcases hresult with ⟨-, -, -, hsame | hnext⟩ | ⟨-, hnext, -⟩
      · exact .inl hsame
      · exact .inr ⟨rfl, hnext⟩
      · exact .inr ⟨rfl, hnext⟩
    · intro kind' event evicted h
      obtain ⟨rfl, rfl, rfl⟩ := QueueLabel.pushedTerminal.inj h
      rcases hresult with ⟨hnone, hevicted, -⟩ | ⟨hsome, -, -, hsmallest⟩
      · exact ⟨fun _ => hevicted, fun h => absurd h (by simp [hnone])⟩
      · exact ⟨fun h => absurd h (by simp [hsome]), fun _ => hsmallest⟩
  | @received event queue hfree hrecv =>
    obtain ⟨hsound, hqueue, hterminal, hnext⟩ := EventQueue.recvOldest_cases hs.queue hrecv
    exact
      { sound := ⟨hsound, fun h => absurd h (by simp [hfree]),
          fun h => hterminal.trans (hs.reserving h)⟩
        order := (List.append_nil _).trans hqueue
        accepts := fun event h => absurd h List.not_mem_nil
        counts := .inl hnext
        quiet := fun hquiet =>
          ⟨⟨hterminal.trans hquiet.terminal, hquiet.pushing, hquiet.reserving⟩, rfl⟩
        ends := fun h => by cases h
        evicts := fun _ _ _ h => by cases h }
  | timedOut => exact queueEffect_still hs rfl rfl rfl rfl rfl id
  | closed =>
    refine queueEffect_still ⟨⟨hs.queue.maxBytes_eq, hs.queue.maxCount_eq, hs.queue.bytes,
      hs.queue.bytes_le, hs.queue.count_le⟩, hs.pushing, hs.reserving⟩ rfl rfl rfl rfl rfl ?_
    exact fun hquiet => ⟨hquiet.terminal, hquiet.pushing, hquiet.reserving⟩

/-! ## Runs -/

/-- The invariant of the runs. -/
structure QueueTracked (maxBytes maxCount : ℕ) (trace : List QueueLabel) (s : QueueCallers) :
    Prop where
  sound : s.Sound maxBytes maxCount
  order : trace.flatMap QueueLabel.accepted = trace.flatMap QueueLabel.gone ++ s.queue.queue
  counter : s.queue.nextSequence ≤ (trace.filter QueueLabel.isPush).length + 1
  increasing : (trace.filter QueueLabel.isPush).length < maxSequence →
    (∀ event ∈ trace.flatMap QueueLabel.accepted, event.sequence < s.queue.nextSequence) ∧
      (trace.flatMap QueueLabel.accepted).Pairwise fun e e' => e.sequence < e'.sequence
  quiet : ∀ label ∈ trace, label.endsQueue = true → s.Quiet
  last : ∀ pre label post, trace = pre ++ label :: post → label.endsQueue = true →
    post.flatMap QueueLabel.accepted = []
  evicts : ∀ pre kind event evicted post,
    trace = pre ++ .pushedTerminal kind event evicted :: post →
      (event = none → evicted = []) ∧
      (event.isSome = true →
        SmallestEviction maxBytes maxCount (eventBytes kind) (queuedAfter pre) evicted)

lemma queueTracked_new (sessionId generation maxBytes maxCount : ℕ) :
    QueueTracked maxBytes maxCount [] ⟨.new sessionId generation maxBytes maxCount, none, none⟩ where
  sound := ⟨⟨rfl, rfl, rfl, Nat.zero_le _, Nat.zero_le _⟩, fun h => absurd h (by simp),
    fun h => absurd h (by simp)⟩
  order := rfl
  counter := le_rfl
  increasing _ := ⟨fun event h => absurd h List.not_mem_nil, List.Pairwise.nil⟩
  quiet label h := absurd h List.not_mem_nil
  last pre label post h := by simp at h
  evicts pre kind event evicted post h := by simp at h

lemma QueueTracked.queuedAfter_eq (h : QueueTracked maxBytes maxCount trace s) :
    queuedAfter trace = s.queue.queue := by
  rw [queuedAfter, h.order, List.drop_left]

lemma QueueTracked.increasing_step (h : QueueTracked maxBytes maxCount trace s)
    (heffect : QueueEffect maxBytes maxCount s label s')
    (hcount : ((trace ++ [label]).filter QueueLabel.isPush).length < maxSequence) :
    (∀ event ∈ (trace ++ [label]).flatMap QueueLabel.accepted,
        event.sequence < s'.queue.nextSequence) ∧
      ((trace ++ [label]).flatMap QueueLabel.accepted).Pairwise
        fun e e' => e.sequence < e'.sequence := by
  rw [List.filter_append, List.length_append] at hcount
  obtain ⟨hbelow, hpairwise⟩ := h.increasing (Nat.lt_of_le_of_lt (Nat.le_add_right _ _) hcount)
  have hcounter := h.counter
  rw [List.flatMap_append, List.flatMap_singleton]
  cases haccepted : label.accepted with
  | nil =>
    rw [List.append_nil]
    refine ⟨fun event hevent => (hbelow event hevent).trans_le ?_, hpairwise⟩
    rcases heffect.counts with hsame | ⟨hpush, hnext⟩
    · exact hsame.ge
    · rw [List.filter_cons_of_pos hpush, List.length_cons] at hcount
      rw [hnext]
      omega
  | cons event rest =>
    obtain ⟨hsingle, hpush, hsequence, hnext⟩ :=
      heffect.accepts event (by rw [haccepted]; exact List.mem_cons_self)
    rw [List.filter_cons_of_pos hpush, List.length_cons] at hcount
    rw [← haccepted, hsingle]
    refine ⟨?_, ?_⟩
    · intro other hother
      rw [hnext]
      rcases List.mem_append.mp hother with hold | hnew
      · have := hbelow other hold
        omega
      · rw [List.mem_singleton.mp hnew, hsequence]
        omega
    · rw [List.pairwise_append]
      refine ⟨hpairwise, List.pairwise_singleton _ _, fun old hold new hnew => ?_⟩
      rw [List.mem_singleton.mp hnew, hsequence]
      exact hbelow old hold

lemma QueueTracked.step (hmax : maxBytes < usizeMax) (h : QueueTracked maxBytes maxCount trace s)
    (hstep : s.Step label s') : QueueTracked maxBytes maxCount (trace ++ [label]) s' := by
  have heffect := queueEffect_of_step hmax h.sound hstep
  refine ⟨heffect.sound, ?_, ?_, h.increasing_step heffect, ?_, ?_, ?_⟩
  · rw [List.flatMap_append, List.flatMap_append, List.flatMap_singleton, List.flatMap_singleton,
      h.order, List.append_assoc, heffect.order, List.append_assoc]
  · rw [List.filter_append, List.length_append]
    have hcounter := h.counter
    rcases heffect.counts with hsame | ⟨hpush, hnext⟩
    · omega
    · rw [List.filter_cons_of_pos hpush, List.length_cons]
      omega
  · intro other hother hends
    rcases List.mem_append.mp hother with hold | hnew
    · exact (heffect.quiet (h.quiet other hold hends)).1
    · exact heffect.ends (by rwa [List.mem_singleton.mp hnew] at hends)
  · intro pre other post heq hends
    rcases concat_eq_append_cons heq with ⟨-, -, rfl⟩ | ⟨post', rfl, htrace⟩
    · rfl
    · have hquiet : s.Quiet := h.quiet other (by rw [htrace]; simp) hends
      rw [List.flatMap_append, h.last pre other post' htrace hends, List.flatMap_singleton,
        (heffect.quiet hquiet).2, List.append_nil]
  · intro pre kind event evicted post heq
    rcases concat_eq_append_cons heq with ⟨rfl, hlabel, -⟩ | ⟨post', -, htrace⟩
    · rw [h.queuedAfter_eq]
      exact heffect.evicts kind event evicted hlabel
    · exact h.evicts pre kind event evicted post' htrace

lemma sublist_gone (trace : List QueueLabel) :
    (trace.flatMap QueueLabel.got).Sublist (trace.flatMap QueueLabel.gone) := by
  induction trace with
  | nil => exact List.Sublist.refl _
  | cons label trace ih =>
    rw [List.flatMap_cons, List.flatMap_cons]
    refine List.Sublist.append ?_ ih
    cases label with
    | received event => exact List.Sublist.refl _
    | _ => exact List.nil_sublist _

lemma drains (queue : List TerminalEvent) (hqueue : s.queue.queue = queue)
    (hfree : s.pushing = none) : ∃ s', s'.queue.queue = [] ∧
      Run QueueCallers.Step s (queue.map fun event => .received (some event)) s' := by
  induction queue generalizing s with
  | nil => exact ⟨s, hqueue, .nil⟩
  | cons event queue ih =>
    have hstep : s.Step (.received (some event))
        { s with queue := { s.queue with queue, bytes := s.queue.bytes - eventBytes event.kind } } :=
      .received hfree (by rw [EventQueue.recvOldest, hqueue])
    obtain ⟨s', hempty, hrun⟩ := @ih { s with queue := { s.queue with
      queue, bytes := s.queue.bytes - eventBytes event.kind } } rfl hfree
    have hfirst := Run.snoc Run.nil hstep
    exact ⟨s', hempty, hfirst.append hrun⟩

lemma QueueTracked.kept (h : QueueTracked maxBytes maxCount trace s) :
    QueueKept maxBytes maxCount trace s where
  __ := h
  bytes := h.sound.queue.bytes
  bytes_le := h.sound.queue.bytes_le
  count_le := h.sound.queue.count_le
  fifo := by
    rw [h.order]
    exact (sublist_gone trace).trans (List.sublist_append_left _ _)
  increasing hcount := (h.increasing hcount).2
  drains := drains _ rfl

/-- **The queue and the scrollback of a terminal.**  After every run of the callers of an event
queue its events are counted, in order, numbered in order and within the budgets; an event that was
accepted has been returned, was evicted as one of the fewest oldest ones by the one terminal event,
or waits to be returned; and nothing is accepted behind the terminal event.  After every sequence
of appends the scrollback holds the end of what was appended, counted and within its limit. -/
theorem queue_and_scrollback (hmax : maxBytes < usizeMax) {limit : ℕ} (hlimit : limit ≤ isizeMax) :
    (∀ sessionId generation trace s,
      Run QueueCallers.Step ⟨.new sessionId generation maxBytes maxCount, none, none⟩ trace s →
        QueueKept maxBytes maxCount trace s) ∧
      ∀ appended : List (List UInt8),
        Scrollback.Kept limit appended (appended.foldl Scrollback.append { limit }) := by
  refine ⟨fun sessionId generation trace s hrun => ?_, Scrollback.kept_foldl hlimit⟩
  exact (hrun.invariant (queueTracked_new sessionId generation maxBytes maxCount)
    fun h hstep => h.step hmax hstep).kept

/-- The budgets that a terminal has by default. -/
theorem queue_and_scrollback_default :
    (∀ sessionId generation trace s,
      Run QueueCallers.Step
          ⟨.new sessionId generation TerminalLimits.default.maxOutputQueueBytes
            TerminalLimits.default.maxEventCount, none, none⟩ trace s →
        QueueKept TerminalLimits.default.maxOutputQueueBytes TerminalLimits.default.maxEventCount
          trace s) ∧
      ∀ appended : List (List UInt8),
        Scrollback.Kept TerminalLimits.default.maxScrollbackBytes appended
          (appended.foldl Scrollback.append
            { limit := TerminalLimits.default.maxScrollbackBytes }) :=
  queue_and_scrollback (by decide) (by decide)

end Runs

end JaDesktop.Terminal
