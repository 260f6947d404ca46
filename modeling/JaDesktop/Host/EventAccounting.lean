import Mathlib.Algebra.Order.BigOperators.Group.List
import JaDesktop.Host.Events
import JaDesktop.Lib.Runs

/-!
# The accounts of the event queue

The byte counters of the queue are the sums of the sizes of the events in the lanes, the lanes
keep their bounds, each lane is served in the order in which it was filled, and the loss of data
is reported once.  The saturating additions never saturate, because the test for room comes first
and the budgets are below the largest machine integer.
-/

namespace JaDesktop.Host

/-! ## Histories -/

/-- The state of a queue and the log of what happened to events, oldest first. -/
structure EventHistory where
  state : EventQueueState
  log : List QueueEffect

/-- The calls into the queue. -/
inductive QueueCall
  | push (event : SessionEvent) (priority : EventPriority) (kind : QueueKind)
  | pop
  | popServerRequest
  | close

/-- Requests of the server are pushed with control priority, as the session does. -/
def QueueCall.Routed : QueueCall → Prop
  | .push event priority _ => isServerRequest event = true → priority = .control
  | _ => True

namespace EventHistory

variable (S : SerdeJson) (q : EventQueue)

/-- The history after a call. -/
def after (h : EventHistory) : QueueCall → EventHistory
  | .push event priority kind =>
    let outcome := q.push S h.state event priority kind
    ⟨outcome.1, h.log ++ outcome.2⟩
  | .pop =>
    let outcome := q.pop S h.state
    ⟨outcome.2.1, h.log ++ outcome.2.2⟩
  | .popServerRequest =>
    let outcome := q.popServerRequest S h.state
    ⟨outcome.2.1, h.log ++ outcome.2.2⟩
  | .close => ⟨q.close S h.state, h.log⟩

/-- One call, as a step of the system. -/
def Step (h : EventHistory) (call : QueueCall) (h' : EventHistory) : Prop :=
  call.Routed ∧ h' = h.after S q call

/-- A history that some sequence of calls produces from the empty queue. -/
def Reachable (h : EventHistory) : Prop :=
  ∃ calls, Run (Step S q) ⟨.empty, []⟩ calls h

end EventHistory

/-! ## Accounts -/

section Accounts

variable (S : SerdeJson) (q : EventQueue)

/-- The sizes of some events together. -/
def totalSize (events : List SessionEvent) : ℕ :=
  (events.map fun event => eventSize S event q.maxFrameBytes).sum

lemma totalSize_cons (event : SessionEvent) (events : List SessionEvent) :
    totalSize S q (event :: events) =
      eventSize S event q.maxFrameBytes + totalSize S q events := by
  simp [totalSize]

lemma totalSize_concat (event : SessionEvent) (events : List SessionEvent) :
    totalSize S q (events ++ [event]) =
      totalSize S q events + eventSize S event q.maxFrameBytes := by
  simp [totalSize]

lemma totalSize_filter_le (p : SessionEvent → Bool) (events : List SessionEvent) :
    totalSize S q (events.filter p) ≤ totalSize S q events :=
  (List.filter_sublist.map _).sum_le_sum fun _ _ => Nat.zero_le _

/-- The events that a lane accepted. -/
def acceptedIn (lane : Lane) (log : List QueueEffect) : List SessionEvent :=
  log.filterMap fun
    | .accepted l event => if l = lane then some event else none
    | _ => none

/-- The events that a lane returned. -/
def returnedFrom (lane : Lane) (log : List QueueEffect) : List SessionEvent :=
  log.filterMap fun
    | .returned l event => if l = lane then some event else none
    | _ => none

/-- How often the loss of data was reported: by a notice, or by a fatal mark. -/
def overflowReports (log : List QueueEffect) : ℕ :=
  log.countP fun
    | .overflowNotice _ | .overflowMark => true
    | _ => false

end Accounts

/-- A sum that passed the test against a limit below the largest integer is exact. -/
lemma saturatingAdd_eq {a b limit : ℕ} (hlimit : limit < usizeMax)
    (h : saturatingAdd a b ≤ limit) : saturatingAdd a b = a + b ∧ a + b ≤ limit := by
  unfold saturatingAdd at *
  omega

lemma saturatingAdd_shared {a b c limit : ℕ} (hlimit : limit < usizeMax)
    (h : saturatingAdd (saturatingAdd a b) c ≤ limit) :
    a + b + c ≤ limit ∧ saturatingAdd a c = a + c ∧ saturatingAdd b c = b + c := by
  unfold saturatingAdd at *
  omega

/-! ## Lanes and counters -/

section Lanes

variable (S : SerdeJson) (q : EventQueue)

/-- The lanes and counters are in order: the counters are the sums of the sizes, the budgets and
the bounds of the lanes are kept, and the lane for requests holds requests only. -/
structure Accounted (s : EventQueueState) : Prop where
  serverRequestBytes : s.serverRequestBytes = totalSize S q s.serverRequests
  controlBytes : s.controlBytes = totalSize S q s.control
  dataBytes : s.dataBytes = totalSize S q s.data
  controlBudget : s.serverRequestBytes + s.controlBytes ≤ q.maxControlBytes
  dataBudget : s.dataBytes ≤ q.maxDataBytes
  serverRequests_le : s.serverRequests.length ≤ q.controlCapacity
  control_le : s.control.length ≤ q.controlCapacity
  data_le : s.data.length ≤ q.dataCapacity
  requests : ∀ event ∈ s.serverRequests, isServerRequest event = true

variable {S q} {s : EventQueueState}

lemma Accounted.mark (h : Accounted S q s) (fatal : Option QueueKind) (fatalReported : Bool)
    (dataOverflowReported : Bool) :
    Accounted S q { s with
      fatal := fatal, fatalReported := fatalReported
      dataOverflowReported := dataOverflowReported } :=
  ⟨h.serverRequestBytes, h.controlBytes, h.dataBytes, h.controlBudget, h.dataBudget,
    h.serverRequests_le, h.control_le, h.data_le, h.requests⟩

variable {event : SessionEvent} {rest : List SessionEvent}

section

variable (h : Accounted S q s)
include h

lemma Accounted.fillControl (hlimit : q.maxControlBytes < usizeMax)
    (hlen : s.control.length < q.controlCapacity)
    (hbytes : saturatingAdd (saturatingAdd s.serverRequestBytes s.controlBytes)
      (eventSize S event q.maxFrameBytes) ≤ q.maxControlBytes) :
    Accounted S q { s with
      control := s.control ++ [event]
      controlBytes := saturatingAdd s.controlBytes (eventSize S event q.maxFrameBytes) } := by
  obtain ⟨hsum, -, hexact⟩ := saturatingAdd_shared hlimit hbytes
  refine ⟨h.serverRequestBytes, ?_, h.dataBytes, ?_, h.dataBudget, h.serverRequests_le, ?_,
    h.data_le, h.requests⟩
  · rw [hexact, totalSize_concat, h.controlBytes]
  · simp only [hexact]
    omega
  · rw [List.length_append, List.length_singleton]
    omega

lemma Accounted.fillServerRequests (hlimit : q.maxControlBytes < usizeMax)
    (hevent : isServerRequest event = true) (hlen : s.serverRequests.length < q.controlCapacity)
    (hbytes : saturatingAdd (saturatingAdd s.serverRequestBytes s.controlBytes)
      (eventSize S event q.maxFrameBytes) ≤ q.maxControlBytes) :
    Accounted S q { s with
      serverRequests := s.serverRequests ++ [event]
      serverRequestBytes :=
        saturatingAdd s.serverRequestBytes (eventSize S event q.maxFrameBytes) } := by
  obtain ⟨hsum, hexact, -⟩ := saturatingAdd_shared hlimit hbytes
  refine ⟨?_, h.controlBytes, h.dataBytes, ?_, h.dataBudget, ?_, h.control_le, h.data_le, ?_⟩
  · rw [hexact, totalSize_concat, h.serverRequestBytes]
  · simp only [hexact]
    omega
  · rw [List.length_append, List.length_singleton]
    omega
  · exact List.forall_mem_append.mpr ⟨h.requests, List.forall_mem_singleton.mpr hevent⟩

lemma Accounted.fillData (hlimit : q.maxDataBytes < usizeMax)
    (hlen : s.data.length < q.dataCapacity)
    (hbytes : saturatingAdd s.dataBytes (eventSize S event q.maxFrameBytes) ≤ q.maxDataBytes) :
    Accounted S q { s with
      data := s.data ++ [event]
      dataBytes := saturatingAdd s.dataBytes (eventSize S event q.maxFrameBytes) } := by
  obtain ⟨hexact, hsum⟩ := saturatingAdd_eq hlimit hbytes
  refine ⟨h.serverRequestBytes, h.controlBytes, ?_, h.controlBudget, ?_, h.serverRequests_le,
    h.control_le, ?_, h.requests⟩
  · rw [hexact, totalSize_concat, h.dataBytes]
  · rw [hexact]
    exact hsum
  · rw [List.length_append, List.length_singleton]
    omega

lemma Accounted.popData (hdata : s.data = event :: rest) :
    Accounted S q (q.popData S s event rest) := by
  have hbytes := h.dataBytes
  have hbudget := h.dataBudget
  have hlen := h.data_le
  rw [hdata, totalSize_cons] at hbytes
  rw [hdata, List.length_cons] at hlen
  refine ⟨h.serverRequestBytes, h.controlBytes, ?_, h.controlBudget, ?_, h.serverRequests_le,
    h.control_le, ?_, h.requests⟩
  · simp only [EventQueue.popData]
    omega
  · simp only [EventQueue.popData]
    omega
  · simp only [EventQueue.popData]
    omega

lemma Accounted.takeControl (hcontrol : s.control = event :: rest) :
    Accounted S q (q.takeControl S s event rest) := by
  have hbytes := h.controlBytes
  have hbudget := h.controlBudget
  have hlen := h.control_le
  rw [hcontrol, totalSize_cons] at hbytes
  rw [hcontrol, List.length_cons] at hlen
  refine ⟨h.serverRequestBytes, ?_, h.dataBytes, ?_, h.dataBudget, h.serverRequests_le, ?_,
    h.data_le, h.requests⟩
  · simp only [EventQueue.takeControl]
    omega
  · simp only [EventQueue.takeControl]
    omega
  · simp only [EventQueue.takeControl]
    omega

lemma Accounted.takeServerRequest
    (hrequests : s.serverRequests = event :: rest) :
    Accounted S q (q.takeServerRequest S s event rest) := by
  have hbytes := h.serverRequestBytes
  have hbudget := h.controlBudget
  have hlen := h.serverRequests_le
  rw [hrequests, totalSize_cons] at hbytes
  rw [hrequests, List.length_cons] at hlen
  refine ⟨?_, h.controlBytes, h.dataBytes, ?_, h.dataBudget, ?_, h.control_le, h.data_le, ?_⟩
  · simp only [EventQueue.takeServerRequest]
    omega
  · simp only [EventQueue.takeServerRequest]
    omega
  · simp only [EventQueue.takeServerRequest]
    omega
  · intro other hmem
    exact h.requests other (by rw [hrequests]; exact List.mem_cons_of_mem _ hmem)

lemma Accounted.close : Accounted S q (q.close S s) := by
  have hle := totalSize_filter_le S q isTerminalEvent s.control
  have hbudget := h.controlBudget
  have hbytes := h.controlBytes
  refine ⟨rfl, rfl, rfl, ?_, Nat.zero_le _, Nat.zero_le _, ?_, Nat.zero_le _, ?_⟩
  · have hclose : (q.close S s).serverRequestBytes + (q.close S s).controlBytes =
        totalSize S q (s.control.filter isTerminalEvent) := Nat.zero_add _
    omega
  · exact (List.length_filter_le _ _).trans h.control_le
  · simp [EventQueue.close]

end

end Lanes

/-! ## Calls are sequences of changes -/

namespace EventHistory

section Changes

variable (S : SerdeJson) (q : EventQueue)

/-- There is room in the budget that requests of the server and control facts share. -/
def FitsControl (s : EventQueueState) (event : SessionEvent) : Prop :=
  saturatingAdd (saturatingAdd s.serverRequestBytes s.controlBytes)
    (eventSize S event q.maxFrameBytes) ≤ q.maxControlBytes

/-- The changes that the calls consist of. -/
inductive Change : EventHistory → EventHistory → Prop
  | fillServerRequests {s : EventQueueState} {log : List QueueEffect} {event : SessionEvent} :
      isServerRequest event = true → s.serverRequests.length < q.controlCapacity →
      FitsControl S q s event →
      Change ⟨s, log⟩ ⟨(q.accept S s event .control).1, log ++ [.accepted .serverRequests event]⟩
  | fillControl {s : EventQueueState} {log : List QueueEffect} {event : SessionEvent} :
      isServerRequest event = false → s.control.length < q.controlCapacity →
      FitsControl S q s event →
      Change ⟨s, log⟩ ⟨(q.accept S s event .control).1, log ++ [.accepted .control event]⟩
  | fillData {s : EventQueueState} {log : List QueueEffect} {event : SessionEvent} :
      isServerRequest event = false → s.data.length < q.dataCapacity →
      saturatingAdd s.dataBytes (eventSize S event q.maxFrameBytes) ≤ q.maxDataBytes →
      Change ⟨s, log⟩ ⟨(q.accept S s event .data).1, log ++ [.accepted .data event]⟩
  | loseData {s : EventQueueState} {log : List QueueEffect} {event : SessionEvent} :
      s.dataOverflowReported = true → Change ⟨s, log⟩ ⟨s, log ++ [.rejected event .data]⟩
  | markLoss {s : EventQueueState} {log : List QueueEffect} {event : SessionEvent} :
      s.dataOverflowReported = false →
      Change ⟨s, log⟩ ⟨{ s with
        dataOverflowReported := true, fatal := some (s.fatal.getD .control) },
        log ++ [.rejected event .data, .overflowMark]⟩
  | noticeLoss {s : EventQueueState} {log : List QueueEffect} {event : SessionEvent}
      {kind : QueueKind} :
      s.dataOverflowReported = false → s.control.length < q.controlCapacity →
      FitsControl S q s (.queueOverflow kind) →
      Change ⟨s, log⟩ ⟨{ s with
        dataOverflowReported := true
        control := s.control ++ [.queueOverflow kind]
        controlBytes := saturatingAdd s.controlBytes
          (eventSize S (.queueOverflow kind) q.maxFrameBytes) },
        log ++ [.rejected event .data, .overflowNotice kind,
          .accepted .control (.queueOverflow kind)]⟩
  | loseControl {s : EventQueueState} {log : List QueueEffect} {event : SessionEvent}
      {kind : QueueKind} :
      Change ⟨s, log⟩ ⟨{ s with fatal := some (s.fatal.getD kind) },
        log ++ [.rejected event .control]⟩
  | serveServerRequests {s : EventQueueState} {log : List QueueEffect} {event : SessionEvent}
      {rest : List SessionEvent} :
      s.serverRequests = event :: rest →
      Change ⟨s, log⟩ ⟨q.takeServerRequest S s event rest,
        log ++ [.returned .serverRequests event]⟩
  | serveControl {s : EventQueueState} {log : List QueueEffect} {event : SessionEvent}
      {rest : List SessionEvent} :
      s.control = event :: rest →
      Change ⟨s, log⟩ ⟨q.takeControl S s event rest, log ++ [.returned .control event]⟩
  | serveData {s : EventQueueState} {log : List QueueEffect} {event : SessionEvent}
      {rest : List SessionEvent} :
      s.data = event :: rest →
      Change ⟨s, log⟩ ⟨q.popData S s event rest, log ++ [.returned .data event]⟩
  | takeMark {s : EventQueueState} {log : List QueueEffect} {fatalReported : Bool} :
      Change ⟨s, log⟩ ⟨{ s with fatal := none, fatalReported := fatalReported }, log⟩
  | close {s : EventQueueState} {log : List QueueEffect} :
      Change ⟨s, log⟩ ⟨q.close S s, log⟩

variable {S q}

lemma isFull_eq_false {s : EventQueueState} {event : SessionEvent} {priority : EventPriority} :
    q.isFull S s event priority = false ↔
      match priority with
      | .control =>
        (if isServerRequest event then s.serverRequests.length else s.control.length) <
          q.controlCapacity ∧ FitsControl S q s event
      | .data =>
        (if isServerRequest event then s.serverRequests.length else s.data.length) <
          q.dataCapacity ∧
        saturatingAdd s.dataBytes (eventSize S event q.maxFrameBytes) ≤ q.maxDataBytes := by
  cases priority <;>
    simp [EventQueue.isFull, FitsControl]

lemma change_push {h : EventHistory} {event : SessionEvent} {priority : EventPriority}
    {kind : QueueKind} (hrouted : isServerRequest event = true → priority = .control) :
    Change S q h (h.after S q (.push event priority kind)) := by
  obtain ⟨s, log⟩ := h
  simp only [after, EventQueue.push]
  cases hfull : q.isFull S s event priority with
  | false =>
    rw [isFull_eq_false] at hfull
    cases hrequest : isServerRequest event with
    | true =>
      cases hrouted hrequest
      simp only [hrequest, if_true] at hfull
      have hchange : Change S q ⟨s, log⟩ _ := .fillServerRequests hrequest hfull.1 hfull.2
      simpa [EventQueue.accept, hrequest] using hchange
    | false =>
      cases priority with
      | control =>
        simp only [hrequest, Bool.false_eq_true, if_false] at hfull
        have hchange : Change S q ⟨s, log⟩ _ := .fillControl hrequest hfull.1 hfull.2
        simpa [EventQueue.accept, hrequest] using hchange
      | data =>
        simp only [hrequest, Bool.false_eq_true, if_false] at hfull
        have hchange : Change S q ⟨s, log⟩ _ := .fillData hrequest hfull.1 hfull.2
        simpa [EventQueue.accept, hrequest] using hchange
  | true =>
    cases priority with
    | control => exact .loseControl
    | data =>
      simp only [if_true, EventQueue.rejectData]
      cases hreported : s.dataOverflowReported with
      | true => exact .loseData hreported
      | false =>
        simp only [Bool.false_eq_true, if_false]
        split_ifs with hcontrol
        · exact .markLoss hreported
        · simp only [Bool.or_eq_true, decide_eq_true_eq, not_or, not_le, not_lt] at hcontrol
          exact .noticeLoss hreported hcontrol.1 hcontrol.2

lemma changes_popLanes (s : EventQueueState) (log : List QueueEffect) :
    Relation.ReflTransGen (Change S q) ⟨s, log⟩
      ⟨(q.popLanes S s).2.1, log ++ (q.popLanes S s).2.2⟩ := by
  unfold EventQueue.popLanes
  split
  · exact .single (.serveData (by assumption))
  · exact .single (.serveServerRequests (by assumption))
  · exact .single (.serveControl (by assumption))
  · exact .single (.serveData (by assumption))
  · rw [List.append_nil]

/-- **Every call is a sequence of changes**, as long as the lane for requests holds requests. -/
theorem changes_after {h : EventHistory}
    (hrequests : ∀ event ∈ h.state.serverRequests, isServerRequest event = true)
    {call : QueueCall} (hrouted : call.Routed) :
    Relation.ReflTransGen (Change S q) h (h.after S q call) := by
  obtain ⟨s, log⟩ := h
  cases call with
  | push event priority kind => exact .single (change_push hrouted)
  | pop =>
    simp only [after, EventQueue.pop]
    cases hfatal : s.fatal with
    | none => exact changes_popLanes s log
    | some kind =>
      cases hreported : s.fatalReported with
      | true =>
        have htake : Change S q ⟨s, log⟩
            ⟨{ s with fatal := none, fatalReported := true }, log⟩ := .takeMark
        exact .head htake (changes_popLanes _ log)
      | false =>
        simp only [Bool.false_eq_true, if_false, List.append_nil]
        exact .single .takeMark
  | popServerRequest =>
    simp only [after, EventQueue.popServerRequest]
    cases hlane : s.serverRequests with
    | nil =>
      simp only [List.append_nil]
      exact .refl
    | cons event rest =>
      have hevent : isServerRequest event = true :=
        hrequests event (by simp [hlane])
      cases event with
      | serverRequest frame => exact .single (.serveServerRequests hlane)
      | _ => cases hevent
  | close => exact .single .close

end Changes

/-! ## The invariant -/

section Invariant

variable (S : SerdeJson) (q : EventQueue)

/-- Each lane returned its oldest events, in their order, and holds what is left of the others. -/
def Served (h : EventHistory) : Prop :=
  ∀ lane, (returnedFrom lane h.log ++ h.state.lane lane).Sublist (acceptedIn lane h.log)

/-- The loss of data was reported once, if there was one. -/
structure Reported (h : EventHistory) : Prop where
  once : overflowReports h.log = if h.state.dataOverflowReported then 1 else 0
  lost : ∀ event, .rejected event .data ∈ h.log → h.state.dataOverflowReported = true

variable {S q} {h h' : EventHistory}

lemma accounted_of_change (hcontrol : q.maxControlBytes < usizeMax)
    (hdata : q.maxDataBytes < usizeMax) (hchange : Change S q h h')
    (haccounted : Accounted S q h.state) : Accounted S q h'.state := by
  cases hchange with
  | fillServerRequests hrequest hlen hfits =>
    simpa [EventQueue.accept, hrequest] using
      haccounted.fillServerRequests hcontrol hrequest hlen hfits
  | fillControl hrequest hlen hfits =>
    simpa [EventQueue.accept, hrequest] using haccounted.fillControl hcontrol hlen hfits
  | fillData hrequest hlen hfits =>
    simpa [EventQueue.accept, hrequest] using haccounted.fillData hdata hlen hfits
  | loseData => exact haccounted
  | markLoss => exact haccounted.mark _ _ _
  | noticeLoss _ hlen hfits =>
    exact (haccounted.fillControl hcontrol hlen hfits).mark _ _ true
  | loseControl => exact haccounted.mark _ _ _
  | serveServerRequests hlane => exact haccounted.takeServerRequest hlane
  | serveControl hlane => exact haccounted.takeControl hlane
  | serveData hlane => exact haccounted.popData hlane
  | takeMark => exact haccounted.mark _ _ _
  | close => exact haccounted.close

lemma acceptedIn_append (lane : Lane) (log effects : List QueueEffect) :
    acceptedIn lane (log ++ effects) = acceptedIn lane log ++ acceptedIn lane effects :=
  List.filterMap_append

lemma returnedFrom_append (lane : Lane) (log effects : List QueueEffect) :
    returnedFrom lane (log ++ effects) = returnedFrom lane log ++ returnedFrom lane effects :=
  List.filterMap_append

variable {s s' : EventQueueState} {effects log : List QueueEffect}

lemma Served.fill (hserved : Served ⟨s, log⟩) (hreturned : ∀ lane, returnedFrom lane effects = [])
    (hlane : ∀ lane, s'.lane lane = s.lane lane ++ acceptedIn lane effects) :
    Served ⟨s', log ++ effects⟩ := by
  intro lane
  have hle : (returnedFrom lane log ++ s.lane lane).Sublist (acceptedIn lane log) := hserved lane
  simp only [returnedFrom_append, acceptedIn_append, hreturned, hlane, List.append_nil]
  rw [← List.append_assoc]
  exact hle.append (List.Sublist.refl _)

lemma Served.serve (hserved : Served ⟨s, log⟩) (haccepted : ∀ lane, acceptedIn lane effects = [])
    (hlane : ∀ lane, s.lane lane = returnedFrom lane effects ++ s'.lane lane) :
    Served ⟨s', log ++ effects⟩ := by
  intro lane
  have hle : (returnedFrom lane log ++ s.lane lane).Sublist (acceptedIn lane log) := hserved lane
  simp only [returnedFrom_append, acceptedIn_append, haccepted, List.append_nil,
    List.append_assoc]
  rwa [hlane] at hle

lemma served_of_change (hchange : Change S q h h') (hserved : Served h) : Served h' := by
  cases hchange with
  | fillServerRequests hrequest =>
    refine hserved.fill (fun _ => rfl) fun lane => ?_
    cases lane <;> simp [EventQueue.accept, hrequest, EventQueueState.lane, acceptedIn]
  | fillControl hrequest =>
    refine hserved.fill (fun _ => rfl) fun lane => ?_
    cases lane <;> simp [EventQueue.accept, hrequest, EventQueueState.lane, acceptedIn]
  | fillData hrequest =>
    refine hserved.fill (fun _ => rfl) fun lane => ?_
    cases lane <;> simp [EventQueue.accept, hrequest, EventQueueState.lane, acceptedIn]
  | loseData =>
    refine hserved.fill (fun _ => rfl) fun lane => ?_
    simp [acceptedIn]
  | markLoss =>
    refine hserved.fill (fun _ => rfl) fun lane => ?_
    cases lane <;> simp [EventQueueState.lane, acceptedIn]
  | noticeLoss =>
    refine hserved.fill (fun _ => rfl) fun lane => ?_
    cases lane <;> simp [EventQueueState.lane, acceptedIn]
  | loseControl =>
    refine hserved.fill (fun _ => rfl) fun lane => ?_
    cases lane <;> simp [EventQueueState.lane, acceptedIn]
  | serveServerRequests hlane =>
    refine hserved.serve (fun _ => rfl) fun lane => ?_
    cases lane <;> simp [EventQueue.takeServerRequest, EventQueueState.lane, returnedFrom, hlane]
  | serveControl hlane =>
    refine hserved.serve (fun _ => rfl) fun lane => ?_
    cases lane <;> simp [EventQueue.takeControl, EventQueueState.lane, returnedFrom, hlane]
  | serveData hlane =>
    refine hserved.serve (fun _ => rfl) fun lane => ?_
    cases lane <;> simp [EventQueue.popData, EventQueueState.lane, returnedFrom, hlane]
  | takeMark => exact fun lane => by cases lane <;> exact hserved _
  | @close s log =>
    intro lane
    refine List.Sublist.trans (List.Sublist.append_left ?_ _) (hserved lane)
    cases lane with
    | serverRequests => exact List.nil_sublist _
    | data => exact List.nil_sublist _
    | control => exact List.filter_sublist

lemma Reported.keep (hreported : Reported ⟨s, log⟩)
    (hflag : s'.dataOverflowReported = s.dataOverflowReported)
    (hcount : overflowReports effects = 0) (hlost : ∀ event, .rejected event .data ∉ effects) :
    Reported ⟨s', log ++ effects⟩ := by
  constructor
  · rw [overflowReports, List.countP_append]
    simp only [hflag]
    exact hreported.once ▸ congrArg _ hcount
  · intro event hmem
    rcases List.mem_append.mp hmem with hmem | hmem
    · exact hflag.trans (hreported.lost event hmem)
    · exact absurd hmem (hlost event)

lemma Reported.first (hreported : Reported ⟨s, log⟩) (hbefore : s.dataOverflowReported = false)
    (hafter : s'.dataOverflowReported = true) (hcount : overflowReports effects = 1) :
    Reported ⟨s', log ++ effects⟩ := by
  constructor
  · have honce := hreported.once
    simp only [hbefore, Bool.false_eq_true, if_false] at honce
    simp only [hafter, if_true]
    rw [overflowReports, List.countP_append]
    change overflowReports log + overflowReports effects = 1
    rw [honce, hcount]
  · exact fun _ _ => hafter

lemma reported_of_change (hchange : Change S q h h') (hreported : Reported h) : Reported h' := by
  cases hchange with
  | fillServerRequests hrequest =>
    exact hreported.keep (by simp [EventQueue.accept, hrequest]) rfl (by simp)
  | fillControl hrequest =>
    exact hreported.keep (by simp [EventQueue.accept, hrequest]) rfl (by simp)
  | fillData hrequest =>
    exact hreported.keep (by simp [EventQueue.accept, hrequest]) rfl (by simp)
  | @loseData s log event hflag =>
    refine ⟨?_, fun _ _ => hflag⟩
    rw [overflowReports, List.countP_append]
    exact hreported.once
  | markLoss hflag => exact hreported.first hflag rfl rfl
  | noticeLoss hflag => exact hreported.first hflag rfl rfl
  | loseControl => exact hreported.keep rfl rfl (by simp)
  | serveServerRequests => exact hreported.keep rfl rfl (by simp)
  | serveControl => exact hreported.keep rfl rfl (by simp)
  | serveData => exact hreported.keep rfl rfl (by simp)
  | takeMark => exact ⟨hreported.once, hreported.lost⟩
  | close => exact ⟨hreported.once, hreported.lost⟩

/-- **The invariant holds along every history.** -/
theorem invariant_of_reachable (hcontrol : q.maxControlBytes < usizeMax)
    (hdata : q.maxDataBytes < usizeMax) (hh : h.Reachable S q) :
    Accounted S q h.state ∧ Served h ∧ Reported h := by
  obtain ⟨calls, hrun⟩ := hh
  refine hrun.stateInvariant (I := fun h => Accounted S q h.state ∧ Served h ∧ Reported h) ?_ ?_
  · refine ⟨?_, ?_, ?_⟩
    · refine ⟨rfl, rfl, rfl, ?_, ?_, ?_, ?_, ?_, ?_⟩ <;> simp [EventQueueState.empty]
    · intro lane
      cases lane <;> exact List.Sublist.refl _
    · exact ⟨rfl, fun _ hmem => by simp at hmem⟩
  · rintro h call _ hinv ⟨hrouted, rfl⟩
    have hchanges : Relation.ReflTransGen (Change S q) h (h.after S q call) :=
      changes_after hinv.1.requests hrouted
    generalize h.after S q call = h' at hchanges
    induction hchanges with
    | refl => exact hinv
    | tail _ hchange ih =>
      exact ⟨accounted_of_change hcontrol hdata hchange ih.1, served_of_change hchange ih.2.1,
        reported_of_change hchange ih.2.2⟩

end Invariant

/-- What the queue of a history promises: the lanes and counters are in order, with the capacities
that the session gives the queue, and two facts about the whole life of the queue. -/
structure WellKept (S : SerdeJson) (q : EventQueue) (h : EventHistory) : Prop
    extends Accounted S q h.state where
  controlCapacity_eq : q.controlCapacity = 64
  /-- What a lane returned, followed by what it holds, is part of what it accepted, in the order
  of acceptance: no event is returned twice, and none overtakes another. -/
  served : ∀ lane, (returnedFrom lane h.log ++ h.state.lane lane).Sublist (acceptedIn lane h.log)
  /-- The loss of data is reported at most once in the life of the queue, and has been reported,
  by a notice or by a fatal mark, as soon as a data event was lost. -/
  reports_le : overflowReports h.log ≤ 1
  reported : ∀ event, .rejected event .data ∈ h.log → overflowReports h.log = 1

end EventHistory

end JaDesktop.Host
