import JaDesktop.Host.WriterLanes

/-!
# Waking the writer

The writer sleeps on a condition variable while both channels are empty.  `WriterWake` counts the
notifications: the writer remembers the count that it has read before it tries the channels, and
sleeps only if the count is still the same.  The system of the lanes is extended here by the count,
by the sleep and by the closers of the session that have not notified yet.  No notification is lost:
a writer that sleeps has nothing to do, or a call that will wake it is on its way.
-/

namespace JaDesktop.Host.Writer

/-- What the writer does beside its turn. -/
inductive Rest
  /-- its next step reads the count of notifications -/
  | reading
  | awake
  | asleep
deriving DecidableEq

/-- The writer and the calls, with the number of notifications, which the source keeps in 64 bits,
and the closers between the store and the notification. -/
structure WriterWake where
  writer : WriterState
  sequence : ℕ
  observedSequence : ℕ
  rest : Rest
  closers : ℕ

/-- A step of the lanes, a read of the count, the notification of a closer, or an awakening for no
reason. -/
inductive WakeAction
  | lanes (action : Action)
  | snapshot
  | notifyClosed
  | spurious

/-- A step of the writer, or the end of its write. -/
def Action.isOwn : Action → Bool
  | .writer | .wrote _ => true
  | _ => false

/-- A bound of the steps that the writer of a closed session has left. -/
def Turn.stepsLeft : Turn → ℕ
  | .bursting => 8
  | .control => 7
  | .data => 6
  | .releasing _ _ => 5
  | .writing _ _ => 4
  | .looping | .waiting => 3
  | .leaving => 2
  | .dropping => 1
  | .ended => 0

def Stage.isNotifying : Stage → Bool
  | .notifying => true
  | _ => false

/-- The call is about to notify the writer. -/
def WriterState.isNotifying (s : WriterState) (place : ℕ) : Bool :=
  s.sends[place]?.any fun send => send.stage.isNotifying

namespace WriterWake

def new (limits : Limits) : WriterWake := ⟨.start limits, 0, 0, .reading, 0⟩

variable (s : WriterWake)

def notify : WriterWake :=
  { s with sequence := s.sequence + 1, rest := if s.rest = .asleep then .reading else s.rest }

/-- What a step of the lanes does to the count and to the sleep.  Under the lock of the count, the
writer compares after it has found the session open; only the first closer notifies. -/
def noted (action : Action) (writer : WriterState) : WriterWake :=
  match action with
  | .call _ _ => { s with writer }
  | .send place | .sendSpurious place =>
    if s.writer.isNotifying place then notify { s with writer } else { s with writer }
  | .writer =>
    match s.writer.turn, writer.turn with
    | .waiting, .looping =>
      if s.sequence % 2 ^ 64 = s.observedSequence % 2 ^ 64 then { s with writer, rest := .asleep }
      else { s with writer, observedSequence := s.sequence }
    | _, _ => { s with writer }
  | .wrote true => { s with writer, rest := .reading }
  | .wrote false | .close =>
    { s with writer, closers := if s.writer.closed then s.closers else s.closers + 1 }

def act : WakeAction → Option WriterWake
  | .lanes action =>
    if action.isOwn = true ∧ s.rest ≠ .awake then none
    else (s.writer.act action).map (s.noted action)
  | .snapshot =>
    if s.rest = .reading then some { s with observedSequence := s.sequence, rest := .awake }
    else none
  | .notifyClosed =>
    if s.closers = 0 then none else some (notify { s with closers := s.closers - 1 })
  | .spurious => if s.rest = .asleep then some { s with rest := .reading } else none

/-- The steps. -/
def Step (action : WakeAction) (s' : WriterWake) : Prop := s.act action = some s'

end WriterWake

/-! ## What the writer has found -/

namespace WriterState

variable {s s' : WriterState} {p : EventPriority} {place : ℕ} {send : Send} {stage : Stage}

/-- A call is about to notify the writer. -/
def Notifies (s : WriterState) : Prop := ∃ place, s.isNotifying place = true

/-- A channel is empty, or a call is about to notify the writer. -/
def Told (s : WriterState) (p : EventPriority) : Prop := (s.lane p).queue = [] ∨ s.Notifies

/-- What the writer has found on its way through the channels. -/
def Tried (s : WriterState) : Prop :=
  match s.turn with
  | .data => s.Told .control
  | .waiting => ∀ p, s.Told p
  | _ => True

lemma Notifies.set (h : s.Notifies) (hnot : s.isNotifying place = false)
    (hsends : s'.sends = s.sends.set place { send with stage := stage }) : s'.Notifies := by
  obtain ⟨other, hother⟩ := h
  have hne : place ≠ other := by
    rintro rfl
    exact Bool.false_ne_true (hnot.symm.trans hother)
  exact ⟨other, by rwa [isNotifying, hsends, List.getElem?_set_ne hne]⟩

@[simp] lemma closed_setLane {lane : Lane} : (s.setLane lane p).closed = s.closed := by
  cases p <;> rfl

lemma queue_setBytes {bytes : ℕ} (q : EventPriority) :
    ((s.setBytes p bytes).lane q).queue = (s.lane q).queue := by
  cases p <;> cases q <;> rfl

/-- A step of a call leaves the writer what it has found, unless it notifies. -/
lemma sendStep_told {spurious : Bool} (hsend : s.sends[place]? = some send)
    (hstep : s.sendStep place send spurious = some s') :
    s'.turn = s.turn ∧ s'.closed = s.closed ∧
      (s.isNotifying place = false → ∀ p, s.Told p → s'.Told p) := by
  have htold {stage : Stage} (hsends : s'.sends = s.sends.set place { send with stage := stage })
      (hqueue : s'.Notifies ∨ ∀ p, (s'.lane p).queue = (s.lane p).queue)
      (hnot : s.isNotifying place = false) (p : EventPriority) (h : s.Told p) : s'.Told p := by
    rcases h with hempty | hnotifies
    · exact hqueue.elim .inr fun hsame => .inl ((hsame p).trans hempty)
    · exact .inr (hnotifies.set hnot hsends)
  have hlane {lane : Lane} : (s.setLane lane send.priority).sends = s.sends := sends_setLane
  rcases sendStep_cases hstep with ⟨stage, rfl, -⟩ | ⟨rfl, -⟩ | ⟨rfl, -⟩ | ⟨error, rfl, -⟩
  · exact ⟨rfl, rfl, htold rfl (.inr fun p => by rw [lane_goto])⟩
  · exact ⟨turn_setLane, closed_setLane, htold (congrArg (List.set · place _) hlane)
      (.inr fun p => by rw [lane_goto, queue_setBytes])⟩
  · refine ⟨turn_setLane, closed_setLane, htold (congrArg (List.set · place _) hlane)
      (.inl ⟨place, ?_⟩)⟩
    show ((s.setLane _ _).sends.set place _)[place]?.any _ = true
    rw [sends_setLane, List.getElem?_set_self (List.getElem?_eq_some_iff.mp hsend).1]
    rfl
  · exact ⟨turn_setLane, closed_setLane, htold (congrArg (List.set · place _) hlane)
      (.inr fun p => by rw [lane_goto, queue_setBytes])⟩

lemma tryRecv_tried {next : Turn} (h : (s.lane p).queue = [] → Tried { s with turn := next }) :
    (s.tryRecv p next).Tried := by
  unfold tryRecv
  cases hqueue : (s.lane p).queue with
  | nil => exact h hqueue
  | cons frame rest => trivial

/-- A step of the loop finds out about the channel that it tries. -/
lemma writerStep_tried (htried : s.Tried) (hstep : s.writerStep = some s') : s'.Tried := by
  unfold writerStep at hstep
  unfold Tried at htried
  cases hturn : s.turn with
  | bursting =>
    rw [hturn] at hstep
    obtain rfl := Option.some_inj.mp hstep
    exact tryRecv_tried fun _ => trivial
  | control =>
    rw [hturn] at hstep
    obtain rfl := Option.some_inj.mp hstep
    exact tryRecv_tried fun hempty => .inl hempty
  | data =>
    rw [hturn] at hstep htried
    obtain rfl := Option.some_inj.mp hstep
    refine tryRecv_tried fun hempty p => ?_
    cases p with
    | control => exact htried
    | data => exact .inl hempty
  | looping | waiting =>
    rw [hturn] at hstep
    obtain rfl := Option.some_inj.mp hstep
    unfold Tried
    dsimp only
    split_ifs <;> trivial
  | releasing | leaving | dropping =>
    rw [hturn] at hstep
    obtain rfl := Option.some_inj.mp hstep
    trivial
  | writing | ended =>
    rw [hturn] at hstep
    cases hstep

/-- The writer goes back to the start of the loop where it has found the session open. -/
lemma writerStep_waiting (hturn : s.turn = .waiting) (hstep : s.writerStep = some s')
    (hback : s'.turn = .looping) : s'.closed = false ∧ ∀ p, s.Told p → s'.Told p := by
  rw [writerStep, hturn] at hstep
  obtain rfl := Option.some_inj.mp hstep
  cases hclosed : s.closed with
  | true =>
    rw [hclosed] at hback
    cases hback
  | false => exact ⟨rfl, fun p htold => htold⟩

/-! ## The end of the writer -/

lemma tryRecv_left {next : Turn} {n : ℕ} (hclosed : s.closed = true) (hn : 5 ≤ n)
    (hnext : next.stepsLeft ≤ n) :
    (s.tryRecv p next).closed = true ∧ (s.tryRecv p next).turn.stepsLeft + 1 ≤ n + 1 := by
  unfold tryRecv
  cases (s.lane p).queue with
  | nil => exact ⟨hclosed, Nat.succ_le_succ hnext⟩
  | cons frame rest => exact ⟨closed_setLane.trans hclosed, Nat.succ_le_succ hn⟩

lemma step_left {action : Action} (hclosed : s.closed = true) (hstep : s.Step action s') :
    s'.closed = true ∧
      s'.turn.stepsLeft + (if action.isOwn then 1 else 0) ≤ s.turn.stepsLeft := by
  cases action with
  | call frame priority =>
    cases hstep
    exact ⟨hclosed, le_rfl⟩
  | send place | sendSpurious place =>
    obtain ⟨send, hsend, hnext⟩ := Option.bind_eq_some_iff.mp hstep
    obtain ⟨hturn, hsame, -⟩ := sendStep_told hsend hnext
    exact ⟨hsame.trans hclosed, by rw [hturn]; exact le_rfl⟩
  | writer =>
    have hnext : s.writerStep = some s' := hstep
    rw [writerStep, hclosed] at hnext
    cases hturn : s.turn with
    | writing | ended =>
      rw [hturn] at hnext
      cases hnext
    | bursting | control | data =>
      rw [hturn] at hnext
      obtain rfl := Option.some_inj.mp hnext
      exact tryRecv_left hclosed (by decide) (by decide)
    | releasing =>
      rw [hturn] at hnext
      obtain rfl := Option.some_inj.mp hnext
      exact ⟨closed_setLane.trans hclosed, le_rfl⟩
    | looping | waiting | leaving | dropping =>
      rw [hturn] at hnext
      obtain rfl := Option.some_inj.mp hnext
      exact ⟨rfl, le_rfl⟩
  | wrote ok =>
    have hnext : s.wroteStep ok = some s' := hstep
    unfold wroteStep at hnext
    split at hnext
    next hturn =>
      obtain rfl := Option.some_inj.mp hnext
      rw [hturn]
      cases ok with
      | true => exact ⟨hclosed, le_rfl⟩
      | false => exact ⟨rfl, Nat.le_add_left _ _⟩
    next => cases hnext
  | close =>
    cases hstep
    exact ⟨rfl, le_rfl⟩

end WriterState

/-! ## The invariant -/

namespace WriterWake

variable {limits : Limits} {s s' : WriterWake} {action : WakeAction}

/-- The count that the writer knows tells it whether what it has found is still true. -/
structure Watchful (s : WriterWake) : Prop where
  read : s.observedSequence ≤ s.sequence
  begins : s.rest ≠ .awake → s.writer.turn = .looping
  tried : s.rest = .awake → s.observedSequence = s.sequence → s.writer.Tried
  quiet : s.rest = .asleep → (∀ p, s.writer.Told p) ∨ 2 ^ 64 ≤ s.sequence
  closing : s.rest = .asleep → s.writer.closed = true → 0 < s.closers

lemma lanes_step {action : Action} (hstep : s.Step (.lanes action) s') :
    (action.isOwn = true → s.rest = .awake) ∧
      ∃ writer, s.writer.Step action writer ∧ s' = s.noted action writer := by
  obtain ⟨hfree, hnext⟩ := Option.ite_none_left_eq_some.mp (show s.act _ = some s' from hstep)
  obtain ⟨writer, hlanes, rfl⟩ := Option.map_eq_some_iff.mp hnext
  exact ⟨fun hwriter => not_not.mp fun hrest => hfree ⟨hwriter, hrest⟩, writer, hlanes, rfl⟩

lemma watchful_new (limits : Limits) : (new limits).Watchful :=
  ⟨le_rfl, fun _ => rfl, nofun, nofun, nofun⟩

lemma watchful_awake (hread : s.observedSequence ≤ s.sequence) (hrest : s.rest = .awake)
    (htried : s.observedSequence = s.sequence → s.writer.Tried) : s.Watchful :=
  ⟨hread, fun hnot => absurd hrest hnot, fun _ => htried,
    fun hnot => absurd (hrest.symm.trans hnot) nofun,
    fun hnot => absurd (hrest.symm.trans hnot) nofun⟩

lemma notify_rest : s.notify.rest ≠ .asleep := by
  rw [notify]
  split_ifs <;> simp_all

/-- A notification makes up for whatever has happened before it. -/
lemma watchful_notify (hread : s.observedSequence ≤ s.sequence)
    (hbegins : s.rest ≠ .awake → s.writer.turn = .looping) : s.notify.Watchful := by
  refine ⟨hread.trans (Nat.le_succ _), ?_, ?_, fun hrest => absurd hrest notify_rest,
    fun hrest => absurd hrest notify_rest⟩
  · intro hrest
    refine hbegins fun hawake => hrest ?_
    show (if s.rest = .asleep then _ else s.rest) = _
    rw [hawake, if_neg nofun]
  · intro _ heq
    change s.observedSequence = s.sequence + 1 at heq
    omega

/-- The calls change what they share with the writer. -/
lemma Watchful.congr (h : s.Watchful) {writer : WriterState} {closers : ℕ}
    (hturn : writer.turn = s.writer.turn) (htold : ∀ p, s.writer.Told p → writer.Told p)
    (hclosed : writer.closed = true → s.writer.closed = true ∧ s.closers ≤ closers ∨ 0 < closers) :
    Watchful { s with writer, closers } := by
  refine ⟨h.read, fun hrest => hturn.trans (h.begins hrest), ?_, ?_, ?_⟩
  · intro hrest heq
    have htried := h.tried hrest heq
    unfold WriterState.Tried at htried ⊢
    dsimp only
    rw [hturn]
    split
    next hdata =>
      rw [hdata] at htried
      exact htold _ htried
    next hwaiting =>
      rw [hwaiting] at htried
      exact fun p => htold p (htried p)
    next => trivial
  · exact fun hrest => (h.quiet hrest).imp_left fun hquiet p => htold p (hquiet p)
  · intro hrest hnow
    rcases hclosed hnow with ⟨hbefore, hle⟩ | hpos
    · exact (h.closing hrest hbefore).trans_le hle
    · exact hpos

lemma Watchful.sendStep (h : s.Watchful) {place : ℕ} {spurious : Bool} {writer : WriterState}
    (hstep : s.writer.sends[place]?.bind (s.writer.sendStep place · spurious) = some writer) :
    (s.noted (.send place) writer).Watchful := by
  obtain ⟨send, hsend, hnext⟩ := Option.bind_eq_some_iff.mp hstep
  obtain ⟨hturn, hclosed, htold⟩ := WriterState.sendStep_told hsend hnext
  unfold noted
  dsimp only
  split_ifs with hstage
  · exact watchful_notify h.read fun hrest => hturn.trans (h.begins hrest)
  · have hnot : s.writer.isNotifying place = false := Bool.not_eq_true _ ▸ hstage
    exact h.congr hturn (htold hnot) fun hnow => .inl ⟨hclosed ▸ hnow, le_rfl⟩

lemma Watchful.writerStep (h : s.Watchful) (hrest : s.rest = .awake) {writer : WriterState}
    (hstep : s.writer.writerStep = some writer) : (s.noted .writer writer).Watchful := by
  unfold noted
  dsimp only
  split
  next hwaiting hlooping =>
    obtain ⟨hopen, htold⟩ := WriterState.writerStep_waiting hwaiting hstep hlooping
    have hread := h.read
    split_ifs with hcount
    · refine ⟨hread, fun _ => hlooping, nofun, fun _ => ?_, fun _ hclosed => ?_⟩
      · by_cases heq : s.observedSequence = s.sequence
        · have hfound := h.tried hrest heq
          rw [WriterState.Tried, hwaiting] at hfound
          exact .inl fun p => htold p (hfound p)
        · -- equal counts of 64 bits that are not equal
          refine .inr ?_
          show 2 ^ 64 ≤ s.sequence
          omega
      · exact absurd hclosed (hopen ▸ Bool.false_ne_true)
    · refine watchful_awake le_rfl hrest fun _ => ?_
      rw [WriterState.Tried, hlooping]
      trivial
  next =>
    refine watchful_awake h.read hrest fun heq => ?_
    exact WriterState.writerStep_tried (h.tried hrest heq) hstep

/-- **One step** keeps the writer watchful. -/
lemma Watchful.step (h : s.Watchful) (hstep : s.Step action s') : s'.Watchful := by
  cases action with
  | lanes action =>
    obtain ⟨hawake, writer, hnext, rfl⟩ := lanes_step hstep
    cases action with
    | call frame priority =>
      cases hnext
      refine h.congr rfl (fun p => Or.imp_right ?_) fun hnow => .inl ⟨hnow, le_rfl⟩
      rintro ⟨place, hstage⟩
      obtain ⟨send, hsend, -⟩ := (Option.any_eq_true _ _).mp hstage
      have hlt := (List.getElem?_eq_some_iff.mp hsend).1
      exact ⟨place, (congrArg (Option.any _) (List.getElem?_append_left hlt)).trans hstage⟩
    | send place | sendSpurious place => exact h.sendStep hnext
    | writer => exact h.writerStep (hawake rfl) hnext
    | wrote ok =>
      have hnext : s.writer.wroteStep ok = some writer := hnext
      unfold WriterState.wroteStep at hnext
      cases hturn : s.writer.turn with
      | writing frame priority =>
        rw [hturn] at hnext
        obtain rfl := Option.some_inj.mp hnext
        cases ok with
        | true => exact ⟨h.read, fun _ => rfl, nofun, nofun, nofun⟩
        | false => exact watchful_awake h.read (hawake rfl) fun _ => trivial
      | _ =>
        rw [hturn] at hnext
        cases hnext
    | close =>
      cases hnext
      refine h.congr rfl (fun p htold => htold) fun _ => ?_
      split_ifs with hclosed
      · exact .inl ⟨hclosed, le_rfl⟩
      · exact .inr (Nat.succ_pos _)
  | snapshot =>
    obtain ⟨hrest, hread⟩ := Option.ite_none_right_eq_some.mp hstep
    cases hread
    refine watchful_awake le_rfl rfl fun _ => ?_
    rw [WriterState.Tried, h.begins (hrest ▸ nofun)]
    trivial
  | notifyClosed =>
    obtain ⟨-, hnotify⟩ := Option.ite_none_left_eq_some.mp hstep
    cases hnotify
    exact watchful_notify h.read h.begins
  | spurious =>
    obtain ⟨hasleep, hread⟩ := Option.ite_none_right_eq_some.mp hstep
    cases hread
    exact ⟨h.read, fun _ => h.begins (hasleep ▸ nofun), nofun, nofun, nofun⟩

lemma writer_noted (s : WriterWake) (action : Action) (writer : WriterState) :
    (s.noted action writer).writer = writer := by
  unfold noted notify
  split
  · rfl
  · split_ifs <;> rfl
  · split_ifs <;> rfl
  · split
    · split_ifs <;> rfl
    · rfl
  all_goals rfl

/-- A run of the extended system is a run of the lanes. -/
lemma run_writer {actions : List WakeAction} (h : Run Step (new limits) actions s) :
    ∃ lanes, Run WriterState.Step (.start limits) lanes s.writer := by
  induction h with
  | nil => exact ⟨[], .nil⟩
  | @snoc actions t action s hrun hstep ih =>
    obtain ⟨lanes, hlanes⟩ := ih
    cases action with
    | lanes action =>
      obtain ⟨-, writer, hnext, rfl⟩ := lanes_step hstep
      rw [writer_noted]
      exact ⟨lanes ++ [action], hlanes.snoc hnext⟩
    | notifyClosed =>
      obtain ⟨-, hnext⟩ := Option.ite_none_left_eq_some.mp hstep
      exact ⟨lanes, Option.some_inj.mp hnext ▸ hlanes⟩
    | snapshot | spurious =>
      obtain ⟨-, hnext⟩ := Option.ite_none_right_eq_some.mp hstep
      exact ⟨lanes, Option.some_inj.mp hnext ▸ hlanes⟩

/-- The writer finds nothing and falls asleep. -/
def fallingAsleep : List WakeAction := .snapshot :: List.replicate 4 (.lanes .writer)

end WriterWake

end JaDesktop.Host.Writer
