import Mathlib.Algebra.BigOperators.Group.Multiset.Basic
import Mathlib.Tactic.Abel
import JaDesktop.Host.Events

/-!
# Tallies of the queue

What waits in the three lanes of the event queue, counted by a weight of events: a multiset for
each event, added up.  A push adds the weight of its event or drops it, and what is taken has left.
-/

namespace JaDesktop.Host

variable {β : Type*} {weigh : SessionEvent → Multiset β}

/-- The weight of some events. -/
def tally (weigh : SessionEvent → Multiset β) (events : List SessionEvent) : Multiset β :=
  (events.map weigh).sum

/-- The weight of what waits in the queue. -/
def queuedTally (weigh : SessionEvent → Multiset β) (s : EventQueueState) : Multiset β :=
  tally weigh s.serverRequests + tally weigh s.control + tally weigh s.data

@[simp] lemma tally_nil : tally weigh [] = 0 := rfl

@[simp] lemma tally_append (events more : List SessionEvent) :
    tally weigh (events ++ more) = tally weigh events + tally weigh more := by
  simp [tally]

@[simp] lemma tally_cons (event : SessionEvent) (events : List SessionEvent) :
    tally weigh (event :: events) = weigh event + tally weigh events := by
  simp [tally]

section

variable {S : SerdeJson} {q : EventQueue} {s t : EventQueueState}

lemma queuedTally_push_other (hoverflow : ∀ kind, weigh (.queueOverflow kind) = 0)
    {event : SessionEvent} (hevent : weigh event = 0) (priority : EventPriority)
    (kind : QueueKind) :
    queuedTally weigh (q.push S s event priority kind).1 = queuedTally weigh s := by
  unfold EventQueue.push
  split_ifs
  · cases priority with
    | data =>
      unfold EventQueue.rejectData
      dsimp only
      split_ifs <;> simp [queuedTally, hoverflow]
    | control => rfl
  · unfold EventQueue.accept
    dsimp only
    split_ifs
    · simp [queuedTally, hevent]
    · cases priority <;> simp [queuedTally, hevent]

lemma queuedTally_push_request (weigh : SessionEvent → Multiset β) (S : SerdeJson)
    (q : EventQueue) (s : EventQueueState) (frame : RpcFrame) :
    queuedTally weigh (q.push S s (.serverRequest frame) .control .control).1 =
        weigh (.serverRequest frame) + queuedTally weigh s ∨
      (queuedTally weigh (q.push S s (.serverRequest frame) .control .control).1 =
          queuedTally weigh s ∧
        (q.push S s (.serverRequest frame) .control .control).1.fatal.isSome = true) := by
  unfold EventQueue.push
  split_ifs
  · exact Or.inr ⟨rfl, rfl⟩
  · refine Or.inl ?_
    simp only [EventQueue.accept, isServerRequest, if_true, queuedTally, tally_append, tally_cons,
      tally_nil]
    abel

lemma queuedTally_takes {event : SessionEvent} (h : EventQueue.Takes s event t) :
    queuedTally weigh s = weigh event + queuedTally weigh t := by
  obtain ⟨lane, rest, hs, ht, hother⟩ := h
  cases lane with
  | serverRequests =>
    have hcontrol : t.control = s.control := hother .control (by simp)
    have hdata : t.data = s.data := hother .data (by simp)
    change s.serverRequests = _ at hs
    change t.serverRequests = _ at ht
    rw [queuedTally, queuedTally, hs, ht, hcontrol, hdata, tally_cons]
    abel
  | control =>
    have hrequests : t.serverRequests = s.serverRequests := hother .serverRequests (by simp)
    have hdata : t.data = s.data := hother .data (by simp)
    change s.control = _ at hs
    change t.control = _ at ht
    rw [queuedTally, queuedTally, hs, ht, hrequests, hdata, tally_cons]
    abel
  | data =>
    have hrequests : t.serverRequests = s.serverRequests := hother .serverRequests (by simp)
    have hcontrol : t.control = s.control := hother .control (by simp)
    change s.data = _ at hs
    change t.data = _ at ht
    rw [queuedTally, queuedTally, hs, ht, hrequests, hcontrol, tally_cons]
    abel

lemma queuedTally_lanes (h : ∀ lane, t.lane lane = s.lane lane) :
    queuedTally weigh t = queuedTally weigh s := by
  have hrequests : t.serverRequests = s.serverRequests := h .serverRequests
  have hcontrol : t.control = s.control := h .control
  have hdata : t.data = s.data := h .data
  rw [queuedTally, queuedTally, hrequests, hcontrol, hdata]

end

end JaDesktop.Host
