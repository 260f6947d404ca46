import JaDesktop.Host.Events
import JaDesktop.Host.Requests
import JaDesktop.Lib.Counts
import JaDesktop.Lib.Runs

/-!
# The lanes of the writer

`WriterHandle::send` is called from many threads; it reserves the bytes of a frame in the counter of
its lane, puts the frame into the lane's channel, and takes the reservation back where that fails.
One thread, `writer_loop`, takes the frames out, releases their bytes and writes them.  Here every
atomic operation is a step, so the calls and the writer are interleaved in any way.
-/

namespace JaDesktop.Host.Writer

/-! ## Lanes -/

def maxControlBurst : ℕ := 8

def maxWriterDataQueueBytes : ℕ := 64 * 1024 * 1024

def controlQueueCapacity : ℕ := 64

/-- `AtomicUsize::fetch_sub`, which wraps around. -/
def fetchSub (a b : ℕ) : ℕ := if b ≤ a then a - b else a + (usizeMax + 1) - b

/-- A channel of frames, with the counter and the bound of its bytes. -/
structure Lane where
  queuedBytes : ℕ
  maxBytes : ℕ
  capacity : ℕ
  queue : List (List UInt8)

/-- How far a call of `send` is. -/
inductive Stage
  | called
  | loading
  | swapping (current : ℕ)
  | reserved
  | sending
  | undoing (error : AgentProcessError)
  | notifying
  | returned (result : Except AgentProcessError Unit)

/-- A call of `send`. -/
structure Send where
  frame : List UInt8
  priority : EventPriority
  stage : Stage

/-- How far `writer_loop` is; `bursting`, `control` and `data` are the three places in `next_frame`
where a channel is tried. -/
inductive Turn
  | looping
  | bursting
  | control
  | data
  | waiting
  | releasing (frame : List UInt8) (priority : EventPriority)
  | writing (frame : List UInt8) (priority : EventPriority)
  | leaving
  | dropping
  | ended

/-- The frames with their lanes, in some order. -/
abbrev Entries := List (EventPriority × List UInt8)

/-- The calls, the lanes and the writer, with what was accepted, taken and written so far. -/
structure WriterState where
  closed : Bool
  connected : Bool
  control : Lane
  data : Lane
  sends : List Send
  turn : Turn
  controlBurst : ℕ
  accepted : Entries
  taken : Entries
  written : Entries

/-- A step of a call, of the writer, or of whoever closes the session. -/
inductive Action
  | call (frame : List UInt8) (priority : EventPriority)
  | send (place : ℕ)
  | sendSpurious (place : ℕ)
  | writer
  | wrote (ok : Bool)
  | close

namespace WriterState

/-- A session whose writer has not begun. -/
def start (limits : Limits) : WriterState where
  closed := false
  connected := true
  control := ⟨0, controlQueueByteBudget limits.maxFrameBytes, controlQueueCapacity, []⟩
  data := ⟨0, maxWriterDataQueueBytes, limits.outboundQueueFrames, []⟩
  sends := []
  turn := .looping
  controlBurst := 0
  accepted := []
  taken := []
  written := []

variable (s : WriterState)

def lane : EventPriority → Lane
  | .control => s.control
  | .data => s.data

def setLane (lane : Lane) : EventPriority → WriterState
  | .control => { s with control := lane }
  | .data => { s with data := lane }

/-- The counter of a lane changes. -/
def setBytes (priority : EventPriority) (bytes : ℕ) : WriterState :=
  s.setLane { s.lane priority with queuedBytes := bytes } priority

/-- The channel of a lane changes. -/
def setQueue (priority : EventPriority) (queue : List (List UInt8)) :
    WriterState :=
  s.setLane { s.lane priority with queue := queue } priority

/-- A call goes on. -/
def goto (place : ℕ) (send : Send) (stage : Stage) : WriterState :=
  { s with sends := s.sends.set place { send with stage := stage } }

def trySend (place : ℕ) (send : Send) : WriterState :=
  let lane := s.lane send.priority
  if !s.connected then s.goto place send (.undoing (.queueClosed send.priority.kind))
  else if lane.capacity ≤ lane.queue.length then
    s.goto place send (.undoing (.queueFull send.priority.kind))
  else
    { s.setQueue send.priority (lane.queue ++ [send.frame]) with
      accepted := s.accepted ++ [(send.priority, send.frame)] }.goto place send .notifying

/-- One step of `send`; the exchange in `reserve_bytes` may fail although the counter is as it was
read. -/
def sendStep (place : ℕ) (send : Send) (spurious : Bool) : Option WriterState :=
  let lane := s.lane send.priority
  match send.stage with
  | .called =>
    some (s.goto place send (if s.closed then .returned (.error .sessionClosed) else .loading))
  | .loading => some (s.goto place send (.swapping lane.queuedBytes))
  | .swapping current =>
    if send.frame.length > lane.maxBytes - current then
      some (s.goto place send (.returned (.error (.queueFull send.priority.kind))))
    else if lane.queuedBytes = current ∧ spurious = false then
      some ((s.setBytes send.priority (saturatingAdd current send.frame.length)).goto place send
        .reserved)
    else some (s.goto place send (.swapping lane.queuedBytes))
  | .reserved => some (s.goto place send (if s.closed then .undoing .sessionClosed else .sending))
  | .sending => some (s.trySend place send)
  | .undoing error =>
    some ((s.setBytes send.priority (fetchSub lane.queuedBytes send.frame.length)).goto place send
      (.returned (.error error)))
  | .notifying => some (s.goto place send (.returned (.ok ())))
  | .returned _ => none

/-- `try_recv` in `next_frame`, with the place where an empty channel leads. -/
def tryRecv (priority : EventPriority) (next : Turn) : WriterState :=
  match (s.lane priority).queue with
  | [] => { s with turn := next }
  | frame :: rest =>
    { s.setQueue priority rest with
      turn := .releasing frame priority
      controlBurst := match priority with
        | .control => saturatingAdd s.controlBurst 1
        | .data => 0
      taken := s.taken ++ [(priority, frame)] }

/-- One step of `writer_loop`; the write itself is not its own. -/
def writerStep : Option WriterState :=
  match s.turn with
  | .looping =>
    some { s with
      turn := if s.closed then .leaving
        else if maxControlBurst ≤ s.controlBurst then .bursting else .control }
  | .bursting => some (s.tryRecv .data .control)
  | .control => some (s.tryRecv .control .data)
  | .data => some (s.tryRecv .data .waiting)
  | .waiting => some { s with turn := if s.closed then .leaving else .looping }
  | .releasing frame priority =>
    some { s.setBytes priority (fetchSub (s.lane priority).queuedBytes frame.length) with
      turn := .writing frame priority }
  | .writing _ _ => none
  | .leaving => some { s with closed := true, turn := .dropping }
  | .dropping => some { s with connected := false, turn := .ended }
  | .ended => none

/-- The write of a frame ends; where it fails, the session is closed and the loop is left. -/
def wroteStep (ok : Bool) : Option WriterState :=
  match s.turn with
  | .writing frame priority =>
    some (if ok then { s with turn := .looping, written := s.written ++ [(priority, frame)] }
      else { s with closed := true, turn := .dropping })
  | _ => none

/-- One step. -/
def act : Action → Option WriterState
  | .call frame priority => some { s with sends := s.sends ++ [⟨frame, priority, .called⟩] }
  | .send place => s.sends[place]?.bind fun send => s.sendStep place send false
  | .sendSpurious place => s.sends[place]?.bind fun send => s.sendStep place send true
  | .writer => s.writerStep
  | .wrote ok => s.wroteStep ok
  | .close => some { s with closed := true }

/-- The steps. -/
def Step (action : Action) (s' : WriterState) : Prop :=
  s.act action = some s'

end WriterState

/-! ## What is reserved -/

/-- The call has reserved its bytes, and its frame is not in the channel. -/
def Stage.holds : Stage → Bool
  | .reserved | .sending | .undoing _ => true
  | _ => false

/-- The frame of the call is, or was, in the channel. -/
def Stage.accepted : Stage → Bool
  | .notifying | .returned (.ok _) => true
  | _ => false

/-- The bytes that a call holds in a lane. -/
def Send.held (send : Send) (priority : EventPriority) : ℕ :=
  if send.priority = priority ∧ send.stage.holds = true then send.frame.length else 0

/-- The bytes of the frame that the writer has taken and not yet released. -/
def Turn.held (turn : Turn) (priority : EventPriority) : ℕ :=
  match turn with
  | .releasing frame lane => if lane = priority then frame.length else 0
  | _ => 0

namespace WriterState

/-- The bytes that calls hold in a lane. -/
def heldBySends (s : WriterState) (priority : EventPriority) : ℕ :=
  (s.sends.map fun send => send.held priority).sum

/-- The bytes of a lane that are reserved and not yet released: by calls, in the channel, and in the
hand of the writer. -/
def unreleased (s : WriterState) (priority : EventPriority) : ℕ :=
  s.heldBySends priority + ((s.lane priority).queue.map List.length).sum + s.turn.held priority

/-- The frames of one lane, in their order. -/
def framesOf (priority : EventPriority) (entries : Entries) : List (List UInt8) :=
  (entries.filter fun entry => entry.1 = priority).map Prod.snd

/-! ## The lanes after a step -/

section Lanes

variable {s : WriterState} {p q : EventPriority} {lane : Lane} {place : ℕ} {send : Send}
  {stage : Stage}

@[simp] lemma lane_setLane_self : (s.setLane lane p).lane p = lane := by
  cases p <;> rfl

lemma lane_setLane_of_ne (h : q ≠ p) : (s.setLane lane p).lane q = s.lane q := by
  cases p with
  | control =>
    cases q with
    | control => exact absurd rfl h
    | data => rfl
  | data =>
    cases q with
    | control => rfl
    | data => exact absurd rfl h

@[simp] lemma sends_setLane : (s.setLane lane p).sends = s.sends := by
  cases p <;> rfl

@[simp] lemma turn_setLane : (s.setLane lane p).turn = s.turn := by
  cases p <;> rfl

@[simp] lemma accepted_setLane : (s.setLane lane p).accepted = s.accepted := by
  cases p <;> rfl

@[simp] lemma taken_setLane : (s.setLane lane p).taken = s.taken := by
  cases p <;> rfl

@[simp] lemma written_setLane : (s.setLane lane p).written = s.written := by
  cases p <;> rfl

@[simp] lemma lane_goto : (s.goto place send stage).lane p = s.lane p := by
  cases p <;> rfl

lemma heldBySends_goto (h : s.sends[place]? = some send) (stage : Stage) (p : EventPriority) :
    (s.goto place send stage).heldBySends p + send.held p =
      s.heldBySends p + Send.held { send with stage := stage } p :=
  sum_map_set (fun send => send.held p) h

lemma held_le (h : s.sends[place]? = some send) (p : EventPriority) :
    send.held p ≤ s.heldBySends p :=
  le_sum_map (fun send => send.held p) h

lemma held_of_holds (h : send.stage.holds = true) : send.held send.priority = send.frame.length :=
  if_pos ⟨rfl, h⟩

lemma held_of_ne (h : p ≠ send.priority) : send.held p = 0 :=
  if_neg fun hboth => h hboth.1.symm

lemma held_of_not_holds (h : send.stage.holds = false) : send.held p = 0 :=
  if_neg fun hboth => absurd hboth.2 (h ▸ Bool.false_ne_true)

lemma framesOf_concat (p : EventPriority) (entries : Entries) (q : EventPriority)
    (frame : List UInt8) :
    framesOf p (entries ++ [(q, frame)]) =
      framesOf p entries ++ if q = p then [frame] else [] := by
  rw [framesOf, List.filter_append, List.map_append]
  by_cases h : q = p
  · simp [h, framesOf]
  · simp [h, framesOf]

end Lanes

/-! ## The invariant -/

/-- The writer has written what it has taken, but for the frame in its hand. -/
def Ordered (turn : Turn) (taken written : Entries) : Prop :=
  match turn with
  | .releasing frame priority | .writing frame priority => taken = written ++ [(priority, frame)]
  | .dropping | .ended => written <+: taken
  | _ => taken = written

/-- What holds of the lanes, the calls and the writer at all times. -/
structure Sound (limits : Limits) (s : WriterState) : Prop where
  maxBytes : ∀ p, (s.lane p).maxBytes = ((start limits).lane p).maxBytes
  counter : ∀ p, (s.lane p).queuedBytes = s.unreleased p
  bound : ∀ p, (s.lane p).queuedBytes ≤ (s.lane p).maxBytes
  fifo : ∀ p, framesOf p s.accepted = framesOf p s.taken ++ (s.lane p).queue
  order : Ordered s.turn s.taken s.written

section Steps

variable {limits : Limits} {s s' : WriterState} {p : EventPriority} {place : ℕ} {send : Send}
  {stage : Stage} {action : Action}

/-- What one step of `send` does: the call goes on, it reserves its bytes, it puts its frame into the
channel, or it takes its reservation back. -/
lemma sendStep_cases {spurious : Bool} (hstep : s.sendStep place send spurious = some s') :
    (∃ stage, s' = s.goto place send stage ∧ stage.holds = send.stage.holds ∧
      stage.accepted = send.stage.accepted) ∨
    (s' = (s.setBytes send.priority
        (saturatingAdd (s.lane send.priority).queuedBytes send.frame.length)).goto place send
          .reserved ∧
      send.stage.holds = false ∧ send.stage.accepted = false ∧
      send.frame.length ≤ (s.lane send.priority).maxBytes - (s.lane send.priority).queuedBytes) ∨
    (s' = { s.setQueue send.priority ((s.lane send.priority).queue ++ [send.frame]) with
        accepted := s.accepted ++ [(send.priority, send.frame)] }.goto place send .notifying ∧
      send.stage.holds = true ∧ send.stage.accepted = false) ∨
    ∃ error, s' = (s.setBytes send.priority
        (fetchSub (s.lane send.priority).queuedBytes send.frame.length)).goto place send
          (.returned (.error error)) ∧
      send.stage.holds = true ∧ send.stage.accepted = false := by
  obtain ⟨frame, priority, stage⟩ := send
  cases stage with
  | called | reserved =>
    refine .inl ⟨_, (Option.some_inj.mp hstep).symm, ?_, ?_⟩
    all_goals cases s.closed <;> rfl
  | loading | notifying => exact .inl ⟨_, (Option.some_inj.mp hstep).symm, rfl, rfl⟩
  | swapping current =>
    unfold sendStep at hstep
    dsimp only at hstep
    split_ifs at hstep with hlarge hswap
    · exact .inl ⟨_, (Option.some_inj.mp hstep).symm, rfl, rfl⟩
    · obtain ⟨rfl, -⟩ := hswap
      exact .inr (.inl ⟨(Option.some_inj.mp hstep).symm, rfl, rfl, Nat.not_lt.mp hlarge⟩)
    · exact .inl ⟨_, (Option.some_inj.mp hstep).symm, rfl, rfl⟩
  | sending =>
    obtain rfl := Option.some_inj.mp hstep
    unfold trySend
    dsimp only
    split_ifs
    · exact .inl ⟨_, rfl, rfl, rfl⟩
    · exact .inl ⟨_, rfl, rfl, rfl⟩
    · exact .inr (.inr (.inl ⟨rfl, rfl, rfl⟩))
  | undoing error =>
    exact .inr (.inr (.inr ⟨error, (Option.some_inj.mp hstep).symm, rfl, rfl⟩))
  | returned result => cases hstep

lemma sound_start (limits : Limits) : Sound limits (start limits) := by
  refine ⟨fun _ => rfl, ?_, ?_, ?_, rfl⟩
  · intro p
    cases p <;> rfl
  · intro p
    cases p <;> exact Nat.zero_le _
  · intro p
    cases p <;> rfl

lemma Sound.maxBytes_le (h : Sound limits s) (p : EventPriority) :
    (s.lane p).maxBytes ≤ usizeMax := by
  rw [h.maxBytes]
  cases p with
  | control => exact Nat.min_le_right _ _
  | data => exact (by decide : maxWriterDataQueueBytes ≤ usizeMax)

/-- Only the turn of the writer changes, and nothing is in its hand before or after. -/
lemma Sound.turn (h : Sound limits s) {turn : Turn} (hbefore : ∀ p, s.turn.held p = 0)
    (hafter : ∀ p, turn.held p = 0) (horder : Ordered turn s.taken s.written)
    (closed connected : Bool) :
    Sound limits { s with closed := closed, connected := connected, turn := turn } := by
  refine ⟨h.maxBytes, ?_, h.bound, h.fifo, horder⟩
  intro p
  have hcounter := h.counter p
  rw [unreleased, hbefore] at hcounter
  rw [unreleased, hafter]
  exact hcounter

lemma Sound.goto (h : Sound limits s) (hsend : s.sends[place]? = some send)
    (hholds : stage.holds = send.stage.holds) : Sound limits (s.goto place send stage) := by
  have hsame (p : EventPriority) : (s.goto place send stage).heldBySends p = s.heldBySends p := by
    have hgoto := heldBySends_goto hsend stage p
    have hheld : Send.held { send with stage := stage } p = send.held p := by
      rw [Send.held, Send.held, hholds]
    omega
  refine ⟨?_, ?_, ?_, ?_, h.order⟩
  · intro p
    rw [lane_goto]
    exact h.maxBytes p
  · intro p
    rw [unreleased, lane_goto, hsame]
    exact h.counter p
  · intro p
    rw [lane_goto]
    exact h.bound p
  · intro p
    rw [lane_goto]
    exact h.fifo p

/-- One lane changes, and nothing that belongs to the other one does. -/
lemma Sound.change (h : Sound limits s) {l : Lane}
    (hlane : ∀ q, s'.lane q = (s.setLane l p).lane q)
    (hsends : ∀ q, q ≠ p → s'.heldBySends q = s.heldBySends q)
    (hturn : ∀ q, q ≠ p → s'.turn.held q = s.turn.held q)
    (haccepted : ∀ q, q ≠ p → framesOf q s'.accepted = framesOf q s.accepted)
    (htaken : ∀ q, q ≠ p → framesOf q s'.taken = framesOf q s.taken)
    (hmax : l.maxBytes = (s.lane p).maxBytes)
    (hcounter : l.queuedBytes =
      s'.heldBySends p + (l.queue.map List.length).sum + s'.turn.held p)
    (hbound : l.queuedBytes ≤ (s.lane p).maxBytes)
    (hfifo : framesOf p s'.accepted = framesOf p s'.taken ++ l.queue)
    (horder : Ordered s'.turn s'.taken s'.written) : Sound limits s' := by
  have hself : s'.lane p = l := (hlane p).trans lane_setLane_self
  have hother {q : EventPriority} (hq : q ≠ p) : s'.lane q = s.lane q :=
    (hlane q).trans (lane_setLane_of_ne hq)
  refine ⟨?_, ?_, ?_, ?_, horder⟩
  · intro q
    by_cases hq : q = p
    · rw [hq, hself, hmax, h.maxBytes]
    · rw [hother hq, h.maxBytes]
  · intro q
    by_cases hq : q = p
    · rw [hq, unreleased, hself, hcounter]
    · rw [unreleased, hother hq, hsends q hq, hturn q hq]
      exact h.counter q
  · intro q
    by_cases hq : q = p
    · rw [hq, hself, hmax]
      exact hbound
    · rw [hother hq]
      exact h.bound q
  · intro q
    by_cases hq : q = p
    · rw [hq, hself, hfifo]
    · rw [haccepted q hq, htaken q hq, hother hq]
      exact h.fifo q

/-- What the calls hold in a lane that is not the one of the call that goes on. -/
lemma heldBySends_goto_of_ne (hsend : s.sends[place]? = some send) (hp : p ≠ send.priority) :
    (s.goto place send stage).heldBySends p = s.heldBySends p := by
  have hgoto := heldBySends_goto hsend stage p
  have hnew : Send.held { send with stage := stage } p = 0 := held_of_ne hp
  rw [hnew, held_of_ne hp] at hgoto
  exact hgoto

/-- A call goes on, and its own lane changes. -/
lemma Sound.change_goto (h : Sound limits s) (hsend : s.sends[place]? = some send)
    {t : WriterState} {l : Lane} (hlane : ∀ q, t.lane q = (s.setLane l send.priority).lane q)
    (hsends : t.sends = s.sends) (hturn : t.turn = s.turn) (htaken : t.taken = s.taken)
    (hwritten : t.written = s.written)
    (haccepted : ∀ q, q ≠ send.priority → framesOf q t.accepted = framesOf q s.accepted)
    (hmax : l.maxBytes = (s.lane send.priority).maxBytes)
    (hbytes : l.queuedBytes + send.held send.priority +
        ((s.lane send.priority).queue.map List.length).sum =
      (s.lane send.priority).queuedBytes + Send.held { send with stage := stage } send.priority +
        (l.queue.map List.length).sum)
    (hbound : l.queuedBytes ≤ (s.lane send.priority).maxBytes)
    (hfifo : framesOf send.priority t.accepted = framesOf send.priority s.taken ++ l.queue) :
    Sound limits (t.goto place send stage) := by
  have hgoto (q : EventPriority) :
      (t.goto place send stage).heldBySends q = (s.goto place send stage).heldBySends q := by
    show ((t.sends.set place _).map _).sum = _
    rw [hsends]
    rfl
  refine h.change (fun q => lane_goto.trans (hlane q)) ?_ ?_ haccepted ?_ hmax ?_ hbound ?_ ?_
  · intro q hq
    rw [hgoto, heldBySends_goto_of_ne hsend hq]
  · intro q _
    show t.turn.held q = _
    rw [hturn]
  · intro q _
    show framesOf q t.taken = _
    rw [htaken]
  · have hheld := heldBySends_goto hsend stage send.priority
    have hcounter := h.counter send.priority
    rw [unreleased] at hcounter
    rw [hgoto]
    show _ = _ + t.turn.held send.priority
    rw [hturn]
    omega
  · show framesOf send.priority t.accepted = framesOf send.priority t.taken ++ _
    rw [htaken, hfifo]
  · show Ordered t.turn t.taken t.written
    rw [hturn, htaken, hwritten]
    exact h.order

lemma Sound.setBytes_goto (h : Sound limits s) (hsend : s.sends[place]? = some send) {bytes : ℕ}
    (hbytes : bytes + send.held send.priority =
      (s.lane send.priority).queuedBytes +
        Send.held { send with stage := stage } send.priority)
    (hbound : bytes ≤ (s.lane send.priority).maxBytes) :
    Sound limits ((s.setBytes send.priority bytes).goto place send stage) := by
  refine h.change_goto hsend (fun _ => rfl) sends_setLane turn_setLane taken_setLane written_setLane
    ?_ rfl ?_ hbound ?_
  · intro q _
    rw [setBytes, accepted_setLane]
  · dsimp only
    omega
  · rw [setBytes, accepted_setLane]
    exact h.fifo send.priority

/-- The exchange of `reserve_bytes` succeeds. -/
lemma Sound.reserve (h : Sound limits s) (hsend : s.sends[place]? = some send)
    (hholds : send.stage.holds = false)
    (hroom : send.frame.length ≤
      (s.lane send.priority).maxBytes - (s.lane send.priority).queuedBytes) :
    Sound limits ((s.setBytes send.priority
      (saturatingAdd (s.lane send.priority).queuedBytes send.frame.length)).goto place send
        .reserved) := by
  have hbound := h.bound send.priority
  have hmax := h.maxBytes_le send.priority
  have hsum : saturatingAdd (s.lane send.priority).queuedBytes send.frame.length =
      (s.lane send.priority).queuedBytes + send.frame.length := by
    rw [saturatingAdd]
    omega
  rw [hsum]
  refine h.setBytes_goto hsend ?_ (by omega)
  have hheld : Send.held { send with stage := .reserved } send.priority = send.frame.length :=
    held_of_holds rfl
  rw [held_of_not_holds hholds, hheld, Nat.add_zero]

lemma Sound.held_le_queuedBytes (h : Sound limits s) (hsend : s.sends[place]? = some send) :
    send.held p ≤ (s.lane p).queuedBytes := by
  have hle := held_le hsend p
  have hcounter := h.counter p
  rw [unreleased] at hcounter
  omega

lemma Sound.undo (h : Sound limits s) (hsend : s.sends[place]? = some send)
    (hholds : send.stage.holds = true) (hstage : stage.holds = false) :
    Sound limits ((s.setBytes send.priority
      (fetchSub (s.lane send.priority).queuedBytes send.frame.length)).goto place send stage) := by
  have hheld := held_of_holds hholds
  have hle := h.held_le_queuedBytes (p := send.priority) hsend
  rw [hheld] at hle
  have hbound := h.bound send.priority
  rw [fetchSub, if_pos hle]
  refine h.setBytes_goto hsend ?_ (by omega)
  have hnew : Send.held { send with stage := stage } send.priority = 0 := held_of_not_holds hstage
  rw [hheld, hnew]
  omega

section

variable (h : Sound limits s)
include h

lemma Sound.push (hsend : s.sends[place]? = some send)
    (hholds : send.stage.holds = true) :
    Sound limits ({ s.setQueue send.priority ((s.lane send.priority).queue ++ [send.frame]) with
      accepted := s.accepted ++ [(send.priority, send.frame)] }.goto place send .notifying) := by
  refine h.change_goto hsend
    (l := { s.lane send.priority with queue := (s.lane send.priority).queue ++ [send.frame] })
    ?_ sends_setLane turn_setLane taken_setLane written_setLane ?_ rfl ?_ (h.bound send.priority) ?_
  · intro q
    cases q <;> rfl
  · intro q hq
    show framesOf q (s.accepted ++ [(send.priority, send.frame)]) = _
    rw [framesOf_concat, if_neg (Ne.symm hq), List.append_nil]
  · have hnew : Send.held { send with stage := .notifying } send.priority = 0 :=
      held_of_not_holds rfl
    rw [held_of_holds hholds, hnew]
    dsimp only
    rw [sum_map_concat]
    omega
  · show framesOf send.priority (s.accepted ++ [(send.priority, send.frame)]) = _
    rw [framesOf_concat, if_pos rfl, h.fifo, List.append_assoc]

lemma Sound.pop (hturn : ∀ p, s.turn.held p = 0)
    (horder : s.taken = s.written) {frame : List UInt8} {rest : List (List UInt8)}
    (hqueue : (s.lane p).queue = frame :: rest) (burst : ℕ) :
    Sound limits { s.setQueue p rest with
      turn := .releasing frame p, controlBurst := burst, taken := s.taken ++ [(p, frame)] } := by
  have hcounter := h.counter p
  rw [unreleased, hturn, hqueue, List.map_cons, List.sum_cons] at hcounter
  have hsends (q : EventPriority) : heldBySends { s.setQueue p rest with
      turn := .releasing frame p, controlBurst := burst, taken := s.taken ++ [(p, frame)] } q =
      s.heldBySends q := by
    show ((s.setQueue p rest).sends.map _).sum = _
    rw [setQueue, sends_setLane]
    rfl
  have haccepted : (s.setQueue p rest).accepted = s.accepted := accepted_setLane
  refine h.change (p := p) (l := { s.lane p with queue := rest }) ?_ (fun q _ => hsends q) ?_ ?_ ?_
    rfl ?_ (h.bound p) ?_ ?_
  · intro q
    cases q <;> rfl
  · intro q hq
    rw [hturn]
    exact if_neg (Ne.symm hq)
  · intro q _
    show framesOf q (s.setQueue p rest).accepted = _
    rw [haccepted]
  · intro q hq
    show framesOf q (s.taken ++ [(p, frame)]) = _
    rw [framesOf_concat, if_neg (Ne.symm hq), List.append_nil]
  · have hheld : (Turn.releasing frame p).held p = frame.length := if_pos rfl
    rw [hsends]
    show (s.lane p).queuedBytes =
      s.heldBySends p + (rest.map List.length).sum + (Turn.releasing frame p).held p
    omega
  · show framesOf p (s.setQueue p rest).accepted = framesOf p (s.taken ++ [(p, frame)]) ++ rest
    rw [haccepted, framesOf_concat, if_pos rfl, h.fifo, hqueue, List.append_assoc,
      List.singleton_append]
  · show s.taken ++ [(p, frame)] = (s.setQueue p rest).written ++ [(p, frame)]
    rw [setQueue, written_setLane, horder]

lemma Sound.tryRecv {turn : Turn} (hturn : ∀ p, s.turn.held p = 0)
    (horder : s.taken = s.written) (hnext : ∀ p, turn.held p = 0)
    (hordered : Ordered turn s.taken s.written) : Sound limits (s.tryRecv p turn) := by
  unfold WriterState.tryRecv
  split
  next => exact h.turn hturn hnext hordered s.closed s.connected
  next frame rest hqueue => exact h.pop hturn horder hqueue _

lemma Sound.release {frame : List UInt8}
    (hturn : s.turn = .releasing frame p) :
    Sound limits { s.setBytes p (fetchSub (s.lane p).queuedBytes frame.length) with
      turn := .writing frame p } := by
  have hcounter := h.counter p
  have hheld : s.turn.held p = frame.length := by
    rw [hturn]
    exact if_pos rfl
  rw [unreleased, hheld] at hcounter
  have hbound := h.bound p
  have hsub : fetchSub (s.lane p).queuedBytes frame.length =
      (s.lane p).queuedBytes - frame.length := if_pos (by omega)
  have hsends (bytes : ℕ) (q : EventPriority) :
      heldBySends { s.setBytes p bytes with turn := .writing frame p } q = s.heldBySends q := by
    show ((s.setBytes p bytes).sends.map _).sum = _
    rw [setBytes, sends_setLane]
    rfl
  have haccepted (bytes : ℕ) : (s.setBytes p bytes).accepted = s.accepted := accepted_setLane
  have htaken (bytes : ℕ) : (s.setBytes p bytes).taken = s.taken := taken_setLane
  rw [hsub]
  refine h.change (p := p)
    (l := { s.lane p with queuedBytes := (s.lane p).queuedBytes - frame.length })
    ?_ (fun q _ => hsends _ q) ?_ ?_ ?_ rfl ?_ ?_ ?_ ?_
  · intro q
    cases q <;> rfl
  · intro q hq
    rw [hturn]
    exact (if_neg (Ne.symm hq)).symm
  · intro q _
    show framesOf q (s.setBytes p _).accepted = _
    rw [haccepted]
  · intro q _
    show framesOf q (s.setBytes p _).taken = _
    rw [htaken]
  · rw [hsends]
    show (s.lane p).queuedBytes - frame.length =
      s.heldBySends p + ((s.lane p).queue.map List.length).sum + 0
    omega
  · show (s.lane p).queuedBytes - frame.length ≤ _
    omega
  · show framesOf p (s.setBytes p _).accepted = framesOf p (s.setBytes p _).taken ++ _
    rw [haccepted, htaken]
    exact h.fifo p
  · have horder := h.order
    rw [hturn] at horder
    show (s.setBytes p _).taken = (s.setBytes p _).written ++ [(p, frame)]
    rw [htaken, setBytes, written_setLane]
    exact horder

lemma Sound.call (frame : List UInt8) (priority : EventPriority) :
    Sound limits { s with sends := s.sends ++ [⟨frame, priority, .called⟩] } := by
  refine ⟨h.maxBytes, ?_, h.bound, h.fifo, h.order⟩
  intro p
  have hsends : heldBySends { s with sends := s.sends ++ [⟨frame, priority, .called⟩] } p =
      s.heldBySends p := by
    rw [heldBySends, sum_map_concat, held_of_not_holds rfl, Nat.add_zero]
    rfl
  rw [unreleased, hsends]
  exact h.counter p

lemma Sound.sendStep (hsend : s.sends[place]? = some send) {spurious : Bool}
    (hstep : s.sendStep place send spurious = some s') : Sound limits s' := by
  rcases sendStep_cases hstep with ⟨stage, rfl, hholds, -⟩ | ⟨rfl, hholds, -, hroom⟩ |
    ⟨rfl, hholds, -⟩ | ⟨error, rfl, hholds, -⟩
  · exact h.goto hsend hholds
  · exact h.reserve hsend hholds hroom
  · exact h.push hsend hholds
  · exact h.undo hsend hholds rfl

lemma Sound.writerStep (hstep : s.writerStep = some s') : Sound limits s' := by
  have horder := h.order
  have hidle {turn : Turn} (hturn : s.turn = turn) (hnone : ∀ p, turn.held p = 0)
      (p : EventPriority) : s.turn.held p = 0 := by
    rw [hturn]
    exact hnone p
  unfold WriterState.writerStep at hstep
  cases hturn : s.turn with
  | looping | waiting =>
    rw [hturn] at hstep horder
    obtain rfl := Option.some_inj.mp hstep
    refine h.turn (hidle hturn fun _ => rfl) ?_ ?_ s.closed s.connected
    · intro p
      split_ifs <;> rfl
    · split_ifs
      all_goals exact horder
  | bursting | control | data =>
    rw [hturn] at hstep horder
    obtain rfl := Option.some_inj.mp hstep
    exact h.tryRecv (hidle hturn fun _ => rfl) horder (fun _ => rfl) horder
  | releasing frame priority =>
    rw [hturn] at hstep
    obtain rfl := Option.some_inj.mp hstep
    exact h.release hturn
  | leaving =>
    rw [hturn] at hstep horder
    obtain rfl := Option.some_inj.mp hstep
    have heq : s.taken = s.written := horder
    exact h.turn (hidle hturn fun _ => rfl) (fun _ => rfl) (heq ▸ List.prefix_rfl) true s.connected
  | dropping =>
    rw [hturn] at hstep horder
    obtain rfl := Option.some_inj.mp hstep
    have hended : Ordered .ended s.taken s.written := horder
    exact h.turn (hidle hturn fun _ => rfl) (fun _ => rfl) hended s.closed false
  | writing _ _ | ended =>
    rw [hturn] at hstep
    cases hstep

lemma Sound.wroteStep {ok : Bool} (hstep : s.wroteStep ok = some s') :
    Sound limits s' := by
  have horder := h.order
  unfold WriterState.wroteStep at hstep
  cases hturn : s.turn with
  | writing frame priority =>
    rw [hturn] at hstep horder
    have hidle (p : EventPriority) : s.turn.held p = 0 := by
      rw [hturn]
      rfl
    have htaken : s.taken = s.written ++ [(priority, frame)] := horder
    cases ok with
    | true =>
      obtain rfl := Option.some_inj.mp hstep
      refine ⟨h.maxBytes, ?_, h.bound, h.fifo, htaken⟩
      intro p
      have hcounter := h.counter p
      rw [unreleased, hidle] at hcounter
      exact hcounter
    | false =>
      obtain rfl := Option.some_inj.mp hstep
      refine h.turn hidle (fun _ => rfl) ?_ true s.connected
      show s.written <+: s.taken
      rw [htaken]
      exact List.prefix_append _ _
  | _ =>
    rw [hturn] at hstep
    cases hstep

/-- **One step** keeps what holds. -/
lemma Sound.step (hstep : s.Step action s') : Sound limits s' := by
  cases action with
  | call frame priority =>
    cases hstep
    exact h.call frame priority
  | send place | sendSpurious place =>
    obtain ⟨send, hsend, hnext⟩ := Option.bind_eq_some_iff.mp hstep
    exact h.sendStep hsend hnext
  | writer => exact h.writerStep hstep
  | wrote ok => exact h.wroteStep hstep
  | close =>
    cases hstep
    exact ⟨h.maxBytes, h.counter, h.bound, h.fifo, h.order⟩

end

end Steps

end WriterState

end JaDesktop.Host.Writer
