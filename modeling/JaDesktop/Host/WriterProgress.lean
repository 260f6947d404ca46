import JaDesktop.Host.WriterLanes
import Mathlib.Data.List.TakeWhile

/-!
# The progress of the writer

Control frames are preferred, but only eight of them are taken while a data frame waits.  With what
holds of the lanes at all times, this is all that a caller relies on.
-/

namespace JaDesktop.Host.Writer

/-! ## What a call has put into its channel -/

/-- The bytes that a call has put into the channel of a lane. -/
def Send.accepted (send : Send) (priority : EventPriority) : ℕ :=
  if send.priority = priority ∧ send.stage.accepted = true then send.frame.length else 0

namespace WriterState

section Steps

variable {limits : Limits} {s s' : WriterState} {p : EventPriority} {place : ℕ} {send : Send}
  {stage : Stage} {action : Action}

/-! ## The burst -/

/-- How many control frames may still be taken while a data frame is in its channel. -/
def burstLeft (s : WriterState) : ℕ :=
  match s.turn with
  | .bursting | .data | .leaving | .dropping | .ended => 0
  | .control => max 1 (maxControlBurst - s.controlBurst)
  | _ => maxControlBurst - s.controlBurst

lemma burstLeft_le (s : WriterState) : s.burstLeft ≤ maxControlBurst := by
  rw [burstLeft]
  split
  all_goals first | exact Nat.zero_le _ | skip
  all_goals rw [maxControlBurst]; omega

/-- What is taken in a step while a data frame is in its channel. -/
structure Progress (s s' : WriterState) (more : Entries) : Prop where
  taken : s'.taken = s.taken ++ more
  first : (more.takeWhile fun entry => entry.1 = .control).length ≤ s.burstLeft
  left : (∀ entry ∈ more, entry.1 = .control) →
    s'.data.queue ≠ [] ∧ s'.burstLeft + more.length ≤ s.burstLeft

lemma progress_of_idle (htaken : s'.taken = s.taken) (hqueue : s'.data.queue ≠ [])
    (hleft : s'.burstLeft ≤ s.burstLeft) : Progress s s' [] := by
  refine ⟨?_, Nat.zero_le _, fun _ => ⟨hqueue, hleft⟩⟩
  rw [htaken, List.append_nil]

/-- A step of a call leaves the writer as it is, and takes nothing out of a channel. -/
structure Kept (s s' : WriterState) : Prop where
  taken : s'.taken = s.taken
  turn : s'.turn = s.turn
  controlBurst : s'.controlBurst = s.controlBurst
  queue : s.data.queue <+: s'.data.queue

lemma Kept.of_setBytes (s : WriterState) (p : EventPriority) (bytes place : ℕ) (send : Send)
    (stage : Stage) : Kept s ((s.setBytes p bytes).goto place send stage) := by
  cases p with
  | control => exact ⟨rfl, rfl, rfl, List.prefix_rfl⟩
  | data => exact ⟨rfl, rfl, rfl, List.prefix_rfl⟩

lemma sendStep_keeps {spurious : Bool} (hstep : s.sendStep place send spurious = some s') :
    Kept s s' := by
  rcases sendStep_cases hstep with ⟨stage, rfl, -⟩ | ⟨rfl, -⟩ | ⟨rfl, -⟩ | ⟨error, rfl, -⟩
  · exact ⟨rfl, rfl, rfl, List.prefix_rfl⟩
  · exact Kept.of_setBytes s _ _ place send _
  · cases send.priority with
    | control => exact ⟨rfl, rfl, rfl, List.prefix_rfl⟩
    | data => exact ⟨rfl, rfl, rfl, List.prefix_append _ _⟩
  · exact Kept.of_setBytes s _ _ place send _

lemma burstLeft_congr (hturn : s'.turn = s.turn) (hburst : s'.controlBurst = s.controlBurst) :
    s'.burstLeft = s.burstLeft := by
  rw [burstLeft, burstLeft, hturn, hburst]

lemma Kept.progress (h : Kept s s') (hqueue : s.data.queue ≠ []) : Progress s s' [] := by
  refine progress_of_idle h.taken ?_ (burstLeft_congr h.turn h.controlBurst).le
  intro hnil
  have hprefix := h.queue
  rw [hnil, List.prefix_nil] at hprefix
  exact hqueue hprefix

section

variable (hqueue : s.data.queue ≠ [])
include hqueue

lemma progress_of_data (next : Turn) :
    ∃ more, Progress s (s.tryRecv .data next) more := by
  obtain ⟨frame, rest, hdata⟩ := List.exists_cons_of_ne_nil hqueue
  refine ⟨[(.data, frame)], ?_, Nat.zero_le _, ?_⟩
  · have hlane : (s.lane .data).queue = frame :: rest := hdata
    unfold tryRecv
    rw [hlane]
  · intro hcontrol
    exact absurd (hcontrol _ List.mem_cons_self) nofun

lemma progress_of_control (hturn : s.turn = .control) :
    ∃ more, Progress s (s.tryRecv .control .data) more := by
  have hleft : s.burstLeft = max 1 (maxControlBurst - s.controlBurst) := by
    rw [burstLeft, hturn]
  cases hcontrol : (s.lane .control).queue with
  | nil =>
    refine ⟨[], ?_⟩
    unfold tryRecv
    rw [hcontrol]
    exact progress_of_idle rfl hqueue (Nat.zero_le _)
  | cons frame rest =>
    unfold tryRecv
    rw [hcontrol]
    refine ⟨[(.control, frame)], rfl, ?_, fun _ => ⟨hqueue, ?_⟩⟩
    · rw [hleft]
      exact Nat.le_max_left _ _
    · rw [hleft]
      show maxControlBurst - saturatingAdd s.controlBurst 1 + 1 ≤ _
      have hmax : maxControlBurst ≤ usizeMax := by decide
      rw [saturatingAdd]
      omega

lemma writerStep_progress (hstep : s.writerStep = some s') :
    ∃ more, Progress s s' more := by
  have hleft {turn : Turn} (hturn : s.turn = turn) :
      s.burstLeft = burstLeft { s with turn := turn } := burstLeft_congr hturn rfl
  unfold writerStep at hstep
  cases hturn : s.turn with
  | looping =>
    rw [hturn] at hstep
    obtain rfl := Option.some_inj.mp hstep
    refine ⟨[], progress_of_idle rfl hqueue ?_⟩
    rw [hleft hturn]
    split_ifs
    · exact Nat.zero_le _
    · exact Nat.zero_le _
    · show max 1 (maxControlBurst - s.controlBurst) ≤ maxControlBurst - s.controlBurst
      omega
  | bursting | data =>
    rw [hturn] at hstep
    obtain rfl := Option.some_inj.mp hstep
    exact progress_of_data hqueue _
  | control =>
    rw [hturn] at hstep
    obtain rfl := Option.some_inj.mp hstep
    exact progress_of_control hqueue hturn
  | waiting =>
    rw [hturn] at hstep
    obtain rfl := Option.some_inj.mp hstep
    refine ⟨[], progress_of_idle rfl hqueue ?_⟩
    rw [hleft hturn]
    split_ifs
    · exact Nat.zero_le _
    · exact le_rfl
  | releasing frame priority =>
    rw [hturn] at hstep
    obtain rfl := Option.some_inj.mp hstep
    have hwriting := (hleft hturn).ge
    cases priority with
    | control => exact ⟨[], progress_of_idle rfl hqueue hwriting⟩
    | data => exact ⟨[], progress_of_idle rfl hqueue hwriting⟩
  | leaving | dropping =>
    rw [hturn] at hstep
    obtain rfl := Option.some_inj.mp hstep
    exact ⟨[], progress_of_idle rfl hqueue (Nat.zero_le _)⟩
  | writing _ _ | ended =>
    rw [hturn] at hstep
    cases hstep

lemma wroteStep_progress {ok : Bool}
    (hstep : s.wroteStep ok = some s') : ∃ more, Progress s s' more := by
  unfold wroteStep at hstep
  cases hturn : s.turn with
  | writing frame priority =>
    rw [hturn] at hstep
    have hleft : s.burstLeft = maxControlBurst - s.controlBurst := by
      rw [burstLeft, hturn]
    cases ok with
    | true =>
      obtain rfl := Option.some_inj.mp hstep
      exact ⟨[], progress_of_idle rfl hqueue hleft.ge⟩
    | false =>
      obtain rfl := Option.some_inj.mp hstep
      exact ⟨[], progress_of_idle rfl hqueue (Nat.zero_le _)⟩
  | _ =>
    rw [hturn] at hstep
    cases hstep

/-- **One step** while a data frame is in its channel. -/
lemma step_progress (hstep : s.Step action s') :
    ∃ more, Progress s s' more := by
  cases action with
  | call frame priority =>
    cases hstep
    exact ⟨[], progress_of_idle rfl hqueue le_rfl⟩
  | send place | sendSpurious place =>
    obtain ⟨send, -, hnext⟩ := Option.bind_eq_some_iff.mp hstep
    exact ⟨[], (sendStep_keeps hnext).progress hqueue⟩
  | writer => exact writerStep_progress hqueue hstep
  | wrote ok => exact wroteStep_progress hqueue hstep
  | close =>
    cases hstep
    exact ⟨[], progress_of_idle rfl hqueue le_rfl⟩

end

lemma tryRecv_taken (s : WriterState) (p : EventPriority) (next : Turn) :
    s.taken <+: (s.tryRecv p next).taken := by
  unfold tryRecv
  split
  · exact List.prefix_rfl
  · exact List.prefix_append _ _

lemma step_taken (hstep : s.Step action s') : s.taken <+: s'.taken := by
  cases action with
  | call frame priority =>
    cases hstep
    exact List.prefix_rfl
  | send place | sendSpurious place =>
    obtain ⟨send, -, hnext⟩ := Option.bind_eq_some_iff.mp hstep
    rw [(sendStep_keeps hnext).taken]
  | writer =>
    have hnext : s.writerStep = some s' := hstep
    unfold writerStep at hnext
    split at hnext
    case h_2 | h_3 | h_4 =>
      obtain rfl := Option.some_inj.mp hnext
      exact tryRecv_taken s _ _
    case h_6 frame priority _ =>
      obtain rfl := Option.some_inj.mp hnext
      show s.taken <+: (s.setBytes priority _).taken
      rw [setBytes, taken_setLane]
    case h_7 | h_10 => cases hnext
    all_goals
      obtain rfl := Option.some_inj.mp hnext
      exact List.prefix_rfl
  | wrote ok =>
    have hnext : s.wroteStep ok = some s' := hstep
    unfold wroteStep at hnext
    split at hnext
    next frame priority _ =>
      obtain rfl := Option.some_inj.mp hnext
      cases ok with
      | true => exact List.prefix_rfl
      | false => exact List.prefix_rfl
    next => cases hnext
  | close =>
    cases hstep
    exact List.prefix_rfl

/-- **All steps** while a data frame is in its channel. -/
lemma run_progress {actions : List Action} (hqueue : s.data.queue ≠ [])
    (h : Run Step s actions s') : ∃ more, Progress s s' more := by
  induction h with
  | nil => exact ⟨[], progress_of_idle rfl hqueue le_rfl⟩
  | snoc hrun hstep ih =>
    obtain ⟨more, hmore⟩ := ih
    by_cases hcontrol : ∀ entry ∈ more, entry.1 = .control
    · obtain ⟨hmid, hleft⟩ := hmore.left hcontrol
      obtain ⟨last, hlast⟩ := step_progress hmid hstep
      have hwhile : more.takeWhile (fun entry => entry.1 = .control) = more :=
        List.takeWhile_eq_self_iff.mpr fun entry hentry => decide_eq_true (hcontrol entry hentry)
      refine ⟨more ++ last, ?_, ?_, ?_⟩
      · rw [hlast.taken, hmore.taken, List.append_assoc]
      · have hfirst := hlast.first
        rw [List.takeWhile_append, hwhile, if_pos rfl, List.length_append]
        omega
      · intro hall
        obtain ⟨hend, hless⟩ := hlast.left fun entry hentry =>
          hall entry (List.mem_append_right more hentry)
        refine ⟨hend, ?_⟩
        rw [List.length_append]
        omega
    · obtain ⟨last, hlast⟩ := step_taken hstep
      have hwhile : (more.takeWhile fun entry => entry.1 = .control).length ≠ more.length := by
        intro heq
        apply hcontrol
        intro entry hentry
        have hself := (List.takeWhile_prefix fun entry : EventPriority × List UInt8 =>
          decide (entry.1 = .control)).eq_of_length heq
        exact of_decide_eq_true (List.takeWhile_eq_self_iff.mp hself entry hentry)
      refine ⟨more ++ last, ?_, ?_, ?_⟩
      · rw [← hlast, hmore.taken, List.append_assoc]
      · rw [List.takeWhile_append, if_neg hwhile]
        exact hmore.first
      · intro hall
        exact absurd (fun entry hentry => hall entry (List.mem_append_left last hentry)) hcontrol

end Steps

/-! ## What the calls have put into a lane -/

/-- The bytes that calls have put into the channel of a lane. -/
def acceptedBySends (s : WriterState) (p : EventPriority) : ℕ :=
  (s.sends.map fun send => send.accepted p).sum

/-- All that a lane has ever accepted was put there by calls that did not fail. -/
def Accounted (s : WriterState) : Prop :=
  ∀ p, ((framesOf p s.accepted).map List.length).sum = s.acceptedBySends p

section Accounting

variable {s s' : WriterState} {p : EventPriority} {place : ℕ} {send : Send} {stage : Stage}
  {action : Action}

lemma acceptedBySends_goto (h : s.sends[place]? = some send) (stage : Stage) (p : EventPriority) :
    (s.goto place send stage).acceptedBySends p + send.accepted p =
      s.acceptedBySends p + Send.accepted { send with stage := stage } p :=
  sum_map_set (fun send => send.accepted p) h

lemma Accounted.congr (h : Accounted s) (haccepted : s'.accepted = s.accepted)
    (hsends : s'.sends = s.sends) : Accounted s' := by
  intro p
  rw [acceptedBySends, haccepted, hsends]
  exact h p

lemma Accounted.goto (h : Accounted s) (hsend : s.sends[place]? = some send)
    (hstage : stage.accepted = send.stage.accepted) : Accounted (s.goto place send stage) := by
  intro p
  have hgoto := acceptedBySends_goto hsend stage p
  have hsame : Send.accepted { send with stage := stage } p = send.accepted p := by
    rw [Send.accepted, Send.accepted, hstage]
  have hbefore := h p
  show ((framesOf p s.accepted).map List.length).sum = _
  omega

lemma Accounted.setBytes_goto (h : Accounted s) (hsend : s.sends[place]? = some send)
    (q : EventPriority) (bytes : ℕ) (hstage : stage.accepted = send.stage.accepted) :
    Accounted ((s.setBytes q bytes).goto place send stage) := by
  have hbytes : Accounted (s.setBytes q bytes) :=
    h.congr (by rw [setBytes, accepted_setLane]) (by rw [setBytes, sends_setLane])
  have hsends : (s.setBytes q bytes).sends[place]? = some send := by
    rw [setBytes, sends_setLane]
    exact hsend
  exact hbytes.goto hsends hstage

lemma Accounted.push (h : Accounted s) (hsend : s.sends[place]? = some send)
    (hstage : send.stage.accepted = false) :
    Accounted ({ s.setQueue send.priority ((s.lane send.priority).queue ++ [send.frame]) with
      accepted := s.accepted ++ [(send.priority, send.frame)] }.goto place send .notifying) := by
  intro p
  have hgoto := acceptedBySends_goto hsend .notifying p
  have hold : send.accepted p = 0 := if_neg fun hboth => absurd hboth.2 (hstage ▸ nofun)
  have hbefore := h p
  show ((framesOf p (s.accepted ++ [(send.priority, send.frame)])).map List.length).sum =
    (((s.setQueue send.priority _).sends.set place _).map _).sum
  rw [setQueue, sends_setLane, framesOf_concat, List.map_append, List.sum_append]
  show _ = (s.goto place send .notifying).acceptedBySends p
  by_cases hp : send.priority = p
  · have hnew : Send.accepted { send with stage := .notifying } p = send.frame.length :=
      if_pos ⟨hp, rfl⟩
    rw [if_pos hp]
    simp only [List.map_cons, List.map_nil, List.sum_cons, List.sum_nil]
    omega
  · have hnew : Send.accepted { send with stage := .notifying } p = 0 :=
      if_neg fun hboth => hp hboth.1
    rw [if_neg hp]
    simp only [List.map_nil, List.sum_nil]
    omega

lemma Accounted.sendStep (h : Accounted s) (hsend : s.sends[place]? = some send) {spurious : Bool}
    (hstep : s.sendStep place send spurious = some s') : Accounted s' := by
  rcases sendStep_cases hstep with ⟨stage, rfl, -, haccepted⟩ | ⟨rfl, -, haccepted, -⟩ |
    ⟨rfl, -, haccepted⟩ | ⟨error, rfl, -, haccepted⟩
  · exact h.goto hsend haccepted
  · exact h.setBytes_goto hsend _ _ haccepted.symm
  · exact h.push hsend haccepted
  · exact h.setBytes_goto hsend _ _ haccepted.symm

lemma tryRecv_accepted (s : WriterState) (p : EventPriority) (next : Turn) :
    (s.tryRecv p next).accepted = s.accepted ∧ (s.tryRecv p next).sends = s.sends := by
  unfold tryRecv
  split
  · exact ⟨rfl, rfl⟩
  · exact ⟨accepted_setLane, sends_setLane⟩

lemma writerStep_accepted (hstep : s.writerStep = some s') :
    s'.accepted = s.accepted ∧ s'.sends = s.sends := by
  unfold writerStep at hstep
  split at hstep
  case h_2 | h_3 | h_4 =>
    obtain rfl := Option.some_inj.mp hstep
    exact tryRecv_accepted s _ _
  case h_6 frame priority _ =>
    obtain rfl := Option.some_inj.mp hstep
    exact ⟨accepted_setLane, sends_setLane⟩
  case h_7 | h_10 => cases hstep
  all_goals
    obtain rfl := Option.some_inj.mp hstep
    exact ⟨rfl, rfl⟩

lemma wroteStep_accepted {ok : Bool} (hstep : s.wroteStep ok = some s') :
    s'.accepted = s.accepted ∧ s'.sends = s.sends := by
  unfold wroteStep at hstep
  split at hstep
  next =>
    obtain rfl := Option.some_inj.mp hstep
    cases ok with
    | true => exact ⟨rfl, rfl⟩
    | false => exact ⟨rfl, rfl⟩
  next => cases hstep

lemma Accounted.step (h : Accounted s) (hstep : s.Step action s') : Accounted s' := by
  cases action with
  | call frame priority =>
    cases hstep
    intro p
    have hnew : Send.accepted ⟨frame, priority, .called⟩ p = 0 :=
      if_neg fun hboth => Bool.false_ne_true hboth.2
    have hbefore := h p
    show ((framesOf p s.accepted).map List.length).sum = _
    rw [acceptedBySends, sum_map_concat, hnew]
    exact hbefore
  | send place | sendSpurious place =>
    obtain ⟨send, hsend, hnext⟩ := Option.bind_eq_some_iff.mp hstep
    exact h.sendStep hsend hnext
  | writer =>
    obtain ⟨haccepted, hsends⟩ := writerStep_accepted hstep
    exact h.congr haccepted hsends
  | wrote ok =>
    obtain ⟨haccepted, hsends⟩ := wroteStep_accepted hstep
    exact h.congr haccepted hsends
  | close =>
    cases hstep
    exact h

end Accounting

/-! ## All runs -/

section Runs

variable {limits : Limits} {s s' : WriterState} {p : EventPriority} {actions more : List Action}

lemma sound_of_run (h : Run Step (start limits) actions s) : Sound limits s :=
  h.stateInvariant (sound_start limits) Sound.step

lemma accounted_start (limits : Limits) : Accounted (start limits) := by
  intro p
  cases p <;> rfl

lemma accounted_of_run (h : Run Step (start limits) actions s) : Accounted s :=
  h.stateInvariant (accounted_start limits) Accounted.step

lemma Sound.written_prefix (h : Sound limits s) : s.written <+: s.taken := by
  have horder := h.order
  cases hturn : s.turn with
  | releasing frame priority | writing frame priority =>
    rw [hturn] at horder
    have htaken : s.taken = s.written ++ [(priority, frame)] := horder
    rw [htaken]
    exact List.prefix_append _ _
  | dropping | ended =>
    rw [hturn] at horder
    exact horder
  | _ =>
    rw [hturn] at horder
    have htaken : s.taken = s.written := horder
    rw [htaken]

/-- The frames of a lane are written in the order in which they were accepted. -/
lemma Sound.written_accepted (h : Sound limits s) (p : EventPriority) :
    framesOf p s.written <+: framesOf p s.accepted := by
  obtain ⟨last, hlast⟩ := h.written_prefix
  rw [h.fifo, ← hlast]
  refine List.IsPrefix.trans ?_ (List.prefix_append _ _)
  rw [framesOf, framesOf, List.filter_append, List.map_append]
  exact List.prefix_append _ _

/-- The session without one of its calls. -/
def without (s : WriterState) (place : ℕ) : WriterState :=
  { s with sends := s.sends.eraseIdx place }

lemma Sound.counter_total (h : Sound limits s) (ha : Accounted s) (p : EventPriority) :
    (s.lane p).queuedBytes + ((framesOf p s.taken).map List.length).sum =
      s.heldBySends p + s.acceptedBySends p + s.turn.held p := by
  have hcounter := h.counter p
  have haccounted := ha p
  rw [h.fifo, List.map_append, List.sum_append] at haccounted
  rw [unreleased] at hcounter
  omega

lemma heldBySends_without (place : ℕ) {send : Send} (h : s.sends[place]? = some send)
    (hnot : send.stage.holds = false) : (s.without place).heldBySends p = s.heldBySends p := by
  have herase := sum_map_eraseIdx (fun send : Send => send.held p) h
  rw [held_of_not_holds hnot] at herase
  exact herase

lemma acceptedBySends_without (place : ℕ) {send : Send} (h : s.sends[place]? = some send)
    (hnot : send.stage.accepted = false) :
    (s.without place).acceptedBySends p = s.acceptedBySends p := by
  have hzero : send.accepted p = 0 := if_neg fun hboth => absurd hboth.2 (hnot ▸ nofun)
  have herase := sum_map_eraseIdx (fun send : Send => send.accepted p) h
  rw [hzero] at herase
  exact herase

/-- **The lanes of the writer** in every interleaving of the calls and of the writer: a counter is
what is reserved and not yet released, and stays within its bound; a call that failed has no part in
it; the frames of a lane are written as they were accepted; and of the frames that are taken from
now on, at most eight control frames come before the first data frame, where a data frame waits. -/
theorem writer_lanes (h : Run Step (start limits) actions s) :
    (∀ p, (s.lane p).queuedBytes = s.unreleased p) ∧
    (s.lane .control).queuedBytes ≤ limits.maxFrameBytes + 1 ∧
    (s.lane .data).queuedBytes ≤ 64 * 1024 * 1024 ∧
    (∀ (place : ℕ) (send : Send) (error : AgentProcessError), s.sends[place]? = some send →
      send.stage = .returned (.error error) → ∀ p,
        (s.lane p).queuedBytes = (s.without place).unreleased p ∧
        (s.lane p).queuedBytes + ((framesOf p s.taken).map List.length).sum =
          (s.without place).heldBySends p + (s.without place).acceptedBySends p +
            s.turn.held p) ∧
    (∀ p, framesOf p s.written <+: framesOf p s.accepted) ∧
    (s.data.queue ≠ [] → ∀ (further : List Action) (s' : WriterState), Run Step s further s' →
      ∃ more, s'.taken = s.taken ++ more ∧
        (more.takeWhile fun entry => entry.1 = .control).length ≤ 8) := by
  have hsound := sound_of_run h
  refine ⟨hsound.counter, ?_, ?_, ?_, hsound.written_accepted, ?_⟩
  · have hbound := hsound.bound .control
    rw [hsound.maxBytes] at hbound
    exact hbound.trans (Nat.min_le_left _ _)
  · have hbound := hsound.bound .data
    rw [hsound.maxBytes] at hbound
    exact hbound
  · intro place send error hsend hstage p
    have hheld := heldBySends_without (p := p) place hsend (by rw [hstage]; rfl)
    have haccepted := acceptedBySends_without (p := p) place hsend (by rw [hstage]; rfl)
    refine ⟨?_, ?_⟩
    · rw [unreleased, hheld]
      exact hsound.counter p
    · rw [hheld, haccepted]
      exact hsound.counter_total (accounted_of_run h) p
  · intro hqueue further s' hfurther
    obtain ⟨more, hmore⟩ := run_progress hqueue hfurther
    exact ⟨more, hmore.taken, hmore.first.trans (burstLeft_le s)⟩

end Runs

/-- A call for a data frame, all the way to its return. -/
def oneCall : List Action :=
  .call [1, 2] .data :: List.replicate 6 (.send 0)

/-- The frame waits for the writer. -/
def oneWaiting : WriterState :=
  { start {} with
    data := ⟨2, maxWriterDataQueueBytes, 1024, [[1, 2]]⟩
    sends := [⟨[1, 2], .data, .returned (.ok ())⟩]
    accepted := [(.data, [1, 2])] }

lemma run_oneCall : Run Step (start {}) oneCall oneWaiting := by
  have hlast : oneCall.foldlM act (start {}) = some oneWaiting := rfl
  exact .of_foldlM hlast fun _ _ _ _ hact => hact

theorem writer_lanes_oneWaiting :
    (oneWaiting.lane .data).queuedBytes = oneWaiting.unreleased .data ∧
    ∀ (further : List Action) (s' : WriterState), Run Step oneWaiting further s' →
      ∃ more, s'.taken = [] ++ more ∧
        (more.takeWhile fun entry => entry.1 = .control).length ≤ 8 :=
  ⟨(writer_lanes run_oneCall).1 .data, (writer_lanes run_oneCall).2.2.2.2.2 (List.cons_ne_nil _ _)⟩

end WriterState

end JaDesktop.Host.Writer
