import Mathlib.Algebra.Order.Group.Multiset
import Mathlib.Tactic.Abel
import JaDesktop.Host.EventTallies
import JaDesktop.Host.CodecSpec
import JaDesktop.Host.ServerRequests

/-!
# At most one answer for a request of the sidecar

An identifier is registered once, and from then on it is in one place: the reader holds its
request, the queue holds it, or the consumer has it.  It is active until the ledger step of one
call spends it, and only that call hands a response to the writer.  Both facts are invariants of
the single steps of the reader, the responders and the consumer.
-/

namespace JaDesktop.Host

/-! ## The ledger -/

namespace InboundServerRequests

variable {r r' : InboundServerRequests} {id : String} {max : ℕ}

/-- A registered identifier that no longer waits for an answer. -/
def Spent (r : InboundServerRequests) (id : String) : Prop := id ∈ r.seen ∧ id ∉ r.active

/-- The limits of the ledger hold, and what is active was registered. -/
structure Kept (max : ℕ) (r : InboundServerRequests) : Prop where
  limit : r.max = max
  active_seen : r.active ⊆ r.seen
  active_le : r.active.card ≤ max
  seen_le : r.seen.card ≤ maxInboundServerRequestLedger

lemma register_ok (h : r.register id = (.ok (), r')) :
    id ∉ r.seen ∧ r.active.card < r.max ∧ r.seen.card < maxInboundServerRequestLedger ∧
      r' = { r with seen := insert id r.seen, active := insert id r.active } := by
  unfold register at h
  split_ifs at h with hseen hactive hledger
  · cases h
  · cases h
  · cases h
  · cases h
    exact ⟨hseen, not_le.mp hactive, not_le.mp hledger, rfl⟩

lemma resolve_ok (h : r.resolve id = (.ok (), r')) :
    id ∈ r.active ∧ r' = { r with active := r.active.erase id } := by
  unfold resolve at h
  split_ifs at h with hactive
  · cases h
    exact ⟨hactive, rfl⟩
  · cases h
  · cases h

lemma resolve_error (h : id ∉ r.active) : ∃ e, r.resolve id = (.error e, r) := by
  unfold resolve
  rw [if_neg h]
  split_ifs
  · exact ⟨_, rfl⟩
  · exact ⟨_, rfl⟩

lemma resolve_active (h : id ∈ r.active) :
    r.resolve id = (.ok (), { r with active := r.active.erase id }) := by
  rw [resolve, if_pos h]

lemma Kept.register (h : Kept max r) (hr : r.register id = (.ok (), r')) : Kept max r' := by
  obtain ⟨hseen, hactive, hledger, rfl⟩ := register_ok hr
  refine ⟨h.limit, Finset.insert_subset_insert id h.active_seen, ?_, ?_⟩
  · calc (insert id r.active).card ≤ r.active.card + 1 := Finset.card_insert_le _ _
      _ ≤ max := h.limit ▸ hactive
  · calc (insert id r.seen).card ≤ r.seen.card + 1 := Finset.card_insert_le _ _
      _ ≤ maxInboundServerRequestLedger := hledger

lemma Kept.resolve (h : Kept max r) (hr : r.resolve id = (.ok (), r')) : Kept max r' := by
  obtain ⟨-, rfl⟩ := resolve_ok hr
  exact ⟨h.limit, (Finset.erase_subset _ _).trans h.active_seen,
    (Finset.card_le_card (Finset.erase_subset _ _)).trans h.active_le, h.seen_le⟩

lemma Spent.register {other : String} (h : r.Spent other) (hr : r.register id = (.ok (), r')) :
    r'.Spent other := by
  obtain ⟨hseen, -, -, rfl⟩ := register_ok hr
  refine ⟨Finset.mem_insert_of_mem h.1, fun hmem => ?_⟩
  rcases Finset.mem_insert.mp hmem with rfl | hmem
  · exact hseen h.1
  · exact h.2 hmem

lemma Spent.resolve {other : String} (h : r.Spent other) (hr : r.resolve id = (.ok (), r')) :
    r'.Spent other := by
  obtain ⟨-, rfl⟩ := resolve_ok hr
  exact ⟨h.1, fun hmem => h.2 (Finset.mem_of_mem_erase hmem)⟩

end InboundServerRequests

/-! ## Requests in the queue -/

/-- The request that an event carries. -/
def requestOf : SessionEvent → Option RpcFrame
  | .serverRequest frame => some frame
  | _ => none

/-- The identifiers of the requests among some events. -/
def requestIds (events : List SessionEvent) : Multiset String :=
  ((events.filterMap requestOf).map RpcFrame.idText : List String)

/-- The identifiers of the requests that wait in the queue. -/
def queuedIds (t : EventQueueState) : Multiset String :=
  requestIds t.serverRequests + requestIds t.control + requestIds t.data

@[simp] lemma requestIds_nil : requestIds [] = 0 := rfl

@[simp] lemma requestIds_append (events more : List SessionEvent) :
    requestIds (events ++ more) = requestIds events + requestIds more := by
  simp [requestIds]

lemma requestIds_cons (event : SessionEvent) (events : List SessionEvent) :
    requestIds (event :: events) = requestIds [event] + requestIds events :=
  requestIds_append [event] events

lemma requestIds_other {event : SessionEvent} (h : isServerRequest event = false) :
    requestIds [event] = 0 := by
  cases event with
  | serverRequest frame => cases h
  | _ => rfl

lemma requestIds_request (frame : RpcFrame) :
    requestIds [.serverRequest frame] = {frame.idText} := rfl

section

variable {S : SerdeJson} {q : EventQueue} {s t : EventQueueState}

lemma queuedIds_eq_tally (t : EventQueueState) :
    queuedIds t = queuedTally (fun event => requestIds [event]) t := by
  have hevents : ∀ events, requestIds events = tally (fun event => requestIds [event]) events := by
    intro events
    induction events with
    | nil => rfl
    | cons event events ih => rw [requestIds_cons, tally_cons, ih]
  rw [queuedIds, queuedTally, hevents t.serverRequests, hevents t.control, hevents t.data]

lemma queuedIds_push_other {event : SessionEvent} (h : isServerRequest event = false)
    (priority : EventPriority) (kind : QueueKind) :
    queuedIds (q.push S s event priority kind).1 = queuedIds s := by
  rw [queuedIds_eq_tally, queuedIds_eq_tally]
  exact queuedTally_push_other (fun _ => rfl) (requestIds_other h) priority kind

lemma queuedIds_push_request (frame : RpcFrame) :
    queuedIds (q.push S s (.serverRequest frame) .control .control).1 ≤
      {frame.idText} + queuedIds s := by
  rw [queuedIds_eq_tally, queuedIds_eq_tally, ← requestIds_request]
  rcases queuedTally_push_request _ _ _ _ frame with htaken | ⟨hdropped, -⟩
  · exact le_of_eq htaken
  · rw [hdropped]
    exact Multiset.le_add_left _ _

lemma queuedIds_takes {event : SessionEvent} (h : EventQueue.Takes s event t) :
    queuedIds s = requestIds [event] + queuedIds t := by
  rw [queuedIds_eq_tally, queuedIds_eq_tally]
  exact queuedTally_takes h

lemma queuedIds_lanes (h : ∀ lane, t.lane lane = s.lane lane) : queuedIds t = queuedIds s := by
  rw [queuedIds_eq_tally, queuedIds_eq_tally]
  exact queuedTally_lanes h

lemma queuedIds_close : queuedIds (q.close S s) ≤ queuedIds s := by
  have hcontrol : requestIds (s.control.filter isTerminalEvent) ≤ requestIds s.control :=
    Multiset.coe_le.mpr
      (((List.filter_sublist).filterMap requestOf).map RpcFrame.idText).subperm
  calc queuedIds (q.close S s) = requestIds (s.control.filter isTerminalEvent) := by
        simp [queuedIds, EventQueue.close]
    _ ≤ requestIds s.control := hcontrol
    _ ≤ queuedIds s := by
      exact (Multiset.le_add_left _ _).trans (Multiset.le_add_right _ _)

end

/-! ## The calls of a responder -/

/-- The identifier that a call answers. -/
def Respond.id : Respond → String
  | .result id _ => id
  | .error id _ _ _ _ => id

namespace RespondCall

/-- The call has not come to the ledger step. -/
def BeforeLedger : RespondCall → Prop
  | .called _ | .checked _ | .framed _ | .ready _ => True
  | _ => False

/-- The call answers the identifier, has not come past the ledger step, or has failed. -/
def Refused (id : String) : RespondCall → Prop
  | .called respond | .checked respond => respond.id = id
  | .framed frame | .ready frame | .encoded frame _ => frame.idText = id
  | .returned result => ∃ e, result = .error e
  | _ => False

end RespondCall

namespace ServerRequestState

open InboundServerRequests (Spent Kept register_ok resolve_ok resolve_error)

variable {frame : RpcFrame} {thread : ℕ} {sendAnswer : Except AgentProcessError Unit}
  {action : ServerRequestAction}

lemma idText_of_buildFrame {forbidden : List String} {respond : Respond}
    (h : buildFrame forbidden respond = .ok frame) : frame.idText = respond.id := by
  cases respond with
  | result id value =>
    rw [buildFrame] at h
    split_ifs at h
    split at h
    · rename_i built hbuilt
      cases h
      rw [(RpcFrame.validated_eq_ok.mp hbuilt).1]
      rfl
    · cases h
  | error id code message jaCode retryable =>
    rw [buildFrame] at h
    split at h
    · cases h
    · split at h
      · rename_i built hbuilt
        cases h
        rw [(RpcFrame.validated_eq_ok.mp hbuilt).1]
        rfl
      · cases h

/-! ## The invariants -/

/-- The identifier of the request that the reader holds between the ledger and the queue. -/
def heldIds : ServerRequestReader → Multiset String
  | .registered frame | .admitted frame => {frame.idText}
  | _ => 0

/-- The identifiers on their way to the consumer, and those that arrived. -/
def issuedIds (s : ServerRequestState) : Multiset String :=
  heldIds s.reader + queuedIds s.queue + (s.delivered.map RpcFrame.idText : List String)

/-- The identifiers of the responses that were handed to the writer. -/
def sentIds (s : ServerRequestState) : List String := s.sent.map RpcFrame.idText

/-- Every identifier is in one place at most, and registered. -/
structure IssuedOnce (s : ServerRequestState) : Prop where
  nodup : s.issuedIds.Nodup
  seen : ∀ id ∈ s.issuedIds, id ∈ s.requests.seen

/-- A response that was sent, or that a call is about to send, has spent its identifier, and no
two have the same. -/
structure SentOnce (s : ServerRequestState) : Prop where
  nodup : s.sentIds.Nodup
  spent : ∀ id ∈ s.sentIds, s.requests.Spent id
  resolved_spent : ∀ {thread frame bytes}, s.calls thread = .resolved frame bytes →
    s.requests.Spent frame.idText
  resolved_unsent : ∀ {thread frame bytes}, s.calls thread = .resolved frame bytes →
    frame.idText ∉ s.sentIds
  resolved_unique : ∀ {thread other frame frame' bytes bytes'},
    s.calls thread = .resolved frame bytes → s.calls other = .resolved frame' bytes' →
    frame.idText = frame'.idText → thread = other

variable {S : SerdeJson} {q : EventQueue} {max : ℕ} {s s' : ServerRequestState}

@[simp] lemma goto_self (thread : ℕ) (call : RespondCall) :
    (s.goto thread call).calls thread = call := Function.update_self ..

lemma goto_of_ne {other : ℕ} (h : other ≠ thread) (call : RespondCall) :
    (s.goto thread call).calls other = s.calls other := Function.update_of_ne h ..

@[simp] lemma goto_sent (thread : ℕ) (call : RespondCall) :
    (s.goto thread call).sent = s.sent := rfl

lemma goto_issuedIds (thread : ℕ) (call : RespondCall) :
    (s.goto thread call).issuedIds = s.issuedIds := rfl

/-! ### Delivery -/

lemma IssuedOnce.of_le (h : IssuedOnce s) (hle : s'.issuedIds ≤ s.issuedIds)
    (hseen : s.requests.seen ⊆ s'.requests.seen) : IssuedOnce s' :=
  ⟨Multiset.nodup_of_le hle h.nodup, fun id hid => hseen (h.seen id (Multiset.mem_of_le hle hid))⟩

lemma issuedIds_push_other {event : SessionEvent} (hother : isServerRequest event = false)
    (priority : EventPriority) (kind : QueueKind) :
    (s.push S q event priority kind).issuedIds = s.issuedIds := by
  unfold issuedIds push
  rw [queuedIds_push_other hother]

lemma issuedIds_deliver {t : EventQueueState} {event : SessionEvent}
    (h : EventQueue.Takes s.queue event t) :
    ({ s with queue := t, delivered := s.deliver (some event) } : ServerRequestState).issuedIds =
      s.issuedIds := by
  unfold issuedIds
  rw [queuedIds_takes h]
  cases event with
  | serverRequest frame =>
    have hdelivered : ((s.delivered ++ [frame]).map RpcFrame.idText : Multiset String) =
        (s.delivered.map RpcFrame.idText : Multiset String) + {frame.idText} := by
      rw [List.map_append, ← Multiset.coe_add]
      rfl
    simp only [deliver, hdelivered, requestIds_request]
    abel
  | _ =>
    rw [requestIds_other rfl, zero_add]
    rfl

lemma issuedIds_pop :
    ({ s with queue := (q.pop S s.queue).2.1,
              delivered := s.deliver (q.pop S s.queue).1 } : ServerRequestState).issuedIds =
      s.issuedIds := by
  rcases EventQueue.pop_cases S q s.queue with ⟨event, hevent, htake⟩ | ⟨hlanes, hevent⟩
  · rw [hevent]
    exact issuedIds_deliver htake
  · have hdeliver : s.deliver (q.pop S s.queue).1 = s.delivered := by
      rcases hevent with hevent | ⟨kind, hevent⟩ <;> rw [hevent] <;> rfl
    unfold issuedIds
    rw [hdeliver, queuedIds_lanes hlanes]

lemma issuedIds_popServerRequest :
    ({ s with queue := (q.popServerRequest S s.queue).2.1,
              delivered := s.deliver ((q.popServerRequest S s.queue).1.map .serverRequest) } :
        ServerRequestState).issuedIds = s.issuedIds := by
  rcases EventQueue.popServerRequest_cases S q s.queue with
    ⟨frame, hframe, htake⟩ | ⟨hnone, hsame | ⟨event, hother, htake⟩⟩
  · rw [hframe]
    exact issuedIds_deliver htake
  · rw [hnone, hsame]
    rfl
  · rw [hnone]
    have hqueue := queuedIds_takes htake
    rw [requestIds_other hother, zero_add] at hqueue
    unfold issuedIds
    rw [hqueue]
    rfl

lemma IssuedOnce.readerNext (h : IssuedOnce s) (hnext : s.readerNext S q = some s') :
    IssuedOnce s' := by
  unfold ServerRequestState.readerNext at hnext
  have hlose : ∀ reader, heldIds reader = 0 →
      ({ s with reader := reader } : ServerRequestState).issuedIds ≤ s.issuedIds := by
    intro reader hreader
    unfold issuedIds
    rw [hreader, zero_add, add_assoc]
    exact Multiset.le_add_left _ _
  cases hreader : s.reader with
  | idle => simp [hreader] at hnext
  | received frame =>
    simp only [hreader] at hnext
    split_ifs at hnext <;> cases hnext
    · exact h.of_le (hlose _ rfl) subset_rfl
    · exact h.of_le (hlose _ rfl) subset_rfl
  | audited frame =>
    simp only [hreader] at hnext
    split at hnext
    · rename_i requests hregister
      cases hnext
      obtain ⟨hfresh, -, -, rfl⟩ := register_ok hregister
      -- a new identifier is in no place yet, since all of those are registered
      have hissued : ({ s with
          requests := { s.requests with
            seen := insert frame.idText s.requests.seen
            active := insert frame.idText s.requests.active }
          reader := .registered frame } : ServerRequestState).issuedIds =
          frame.idText ::ₘ s.issuedIds := by
        simp only [issuedIds, hreader, heldIds, zero_add]
        rw [add_assoc, Multiset.singleton_add]
      refine ⟨?_, fun id hid => ?_⟩
      · rw [hissued]
        exact Multiset.nodup_cons.mpr ⟨fun hmem => hfresh (h.seen _ hmem), h.nodup⟩
      · rw [hissued, Multiset.mem_cons] at hid
        rcases hid with rfl | hid
        · exact Finset.mem_insert_self _ _
        · exact Finset.mem_insert_of_mem (h.seen id hid)
    · cases hnext
      exact h.of_le (hlose _ rfl) subset_rfl
  | registered frame =>
    simp only [hreader] at hnext
    split_ifs at hnext <;> cases hnext
    · exact h.of_le (hlose _ rfl) subset_rfl
    · refine h.of_le (le_of_eq ?_) subset_rfl
      simp only [issuedIds, hreader, heldIds]
  | admitted frame =>
    simp only [hreader, Option.some.injEq] at hnext
    subst hnext
    refine h.of_le ?_ subset_rfl
    simp only [issuedIds, hreader, heldIds, push, zero_add]
    exact add_le_add_left (queuedIds_push_request frame) _
  | pushed =>
    -- the reader holds nothing any more, whether the queue has taken the event or not
    simp only [hreader] at hnext
    split_ifs at hnext <;> cases hnext
    · exact h.of_le (hlose _ rfl) subset_rfl
    · exact h.of_le (hlose _ rfl) subset_rfl
  | faulty =>
    simp only [hreader, Option.some.injEq] at hnext
    subst hnext
    have hother : isServerRequest (.protocolFault .invalidEnvelope) = false := rfl
    refine h.of_le (le_of_eq ?_) subset_rfl
    simp only [issuedIds, hreader, heldIds, push, queuedIds_push_other hother]
  | closing =>
    simp only [hreader, Option.some.injEq] at hnext
    subst hnext
    exact h.of_le (hlose _ rfl) subset_rfl

/-! ### Answers -/

lemma SentOnce.of_calls (h : SentOnce s) (hsent : s'.sent = s.sent)
    (hcalls : ∀ {thread frame bytes}, s'.calls thread = .resolved frame bytes →
      s.calls thread = .resolved frame bytes)
    (hspent : ∀ id, s.requests.Spent id → s'.requests.Spent id) : SentOnce s' := by
  have hids : s'.sentIds = s.sentIds := congrArg (List.map RpcFrame.idText) hsent
  refine ⟨hids ▸ h.nodup, fun id hid => hspent id (h.spent id (hids ▸ hid)),
    fun hcall => hspent _ (h.resolved_spent (hcalls hcall)), fun hcall => ?_,
    fun hcall hother => h.resolved_unique (hcalls hcall) (hcalls hother)⟩
  rw [hids]
  exact h.resolved_unsent (hcalls hcall)

lemma SentOnce.goto (h : SentOnce s) {call : RespondCall}
    (hcall : ∀ frame bytes, call ≠ .resolved frame bytes) : SentOnce (s.goto thread call) := by
  refine h.of_calls rfl (fun {other frame bytes} hother => ?_) fun _ => id
  by_cases heq : other = thread
  · subst heq
    rw [goto_self] at hother
    exact absurd hother (hcall frame bytes)
  · rwa [goto_of_ne heq] at hother

lemma SentOnce.resolve (h : SentOnce s) {bytes : List UInt8} {requests : InboundServerRequests}
    (hkept : s.requests.active ⊆ s.requests.seen)
    (hresolve : s.requests.resolve frame.idText = (.ok (), requests)) :
    SentOnce ({ s with requests := requests }.goto thread (.resolved frame bytes)) := by
  obtain ⟨hactive, hrequests⟩ := resolve_ok hresolve
  have hspent : requests.Spent frame.idText := by
    subst hrequests
    exact ⟨hkept hactive, Finset.notMem_erase _ _⟩
  have hunsent : frame.idText ∉ s.sentIds := fun hmem => (h.spent _ hmem).2 hactive
  have hunresolved : ∀ {other frame' bytes'}, s.calls other = .resolved frame' bytes' →
      frame'.idText ≠ frame.idText := by
    intro other frame' bytes' hother heq
    exact (h.resolved_spent hother).2 (heq ▸ hactive)
  -- the call that resolves is the only one that has changed
  refine ⟨h.nodup, fun id hid => (h.spent id hid).resolve hresolve, ?_, ?_, ?_⟩
  · intro other frame' bytes' hother
    by_cases heq : other = thread
    · subst heq
      rw [goto_self] at hother
      cases hother
      exact hspent
    · rw [goto_of_ne heq] at hother
      exact (h.resolved_spent hother).resolve hresolve
  · intro other frame' bytes' hother
    by_cases heq : other = thread
    · subst heq
      rw [goto_self] at hother
      cases hother
      exact hunsent
    · rw [goto_of_ne heq] at hother
      exact h.resolved_unsent hother
  · intro other other' frame' frame'' bytes' bytes'' hother hother' heq
    -- two different calls cannot share the identifier: the older one has spent it
    by_cases hself : other = thread <;> by_cases hself' : other' = thread
    · rw [hself, hself']
    · subst hself
      rw [goto_self] at hother
      rw [goto_of_ne hself'] at hother'
      cases hother
      exact absurd heq.symm (hunresolved hother')
    · subst hself'
      rw [goto_self] at hother'
      rw [goto_of_ne hself] at hother
      cases hother'
      exact absurd heq (hunresolved hother)
    · rw [goto_of_ne hself] at hother
      rw [goto_of_ne hself'] at hother'
      exact h.resolved_unique hother hother' heq

lemma SentOnce.send (h : SentOnce s) {bytes : List UInt8}
    (hfrom : s.calls thread = .resolved frame bytes) {call : RespondCall}
    (hcall : ∀ frame bytes, call ≠ .resolved frame bytes) :
    SentOnce ({ s with sent := s.sent ++ [frame] }.goto thread call) := by
  have hids : ({ s with sent := s.sent ++ [frame] }.goto thread call).sentIds =
      s.sentIds ++ [frame.idText] := by
    simp [sentIds]
  have hmoved : ∀ {other frame' bytes'},
      ({ s with sent := s.sent ++ [frame] }.goto thread call).calls other =
        .resolved frame' bytes' →
      other ≠ thread ∧ s.calls other = .resolved frame' bytes' := by
    intro other frame' bytes' hother
    by_cases heq : other = thread
    · subst heq
      rw [goto_self] at hother
      exact absurd hother (hcall frame' bytes')
    · rw [goto_of_ne heq] at hother
      exact ⟨heq, hother⟩
  refine ⟨?_, fun id hid => ?_, fun hother => h.resolved_spent (hmoved hother).2,
    fun {other frame' bytes'} hother => ?_,
    fun hother hother' => h.resolved_unique (hmoved hother).2 (hmoved hother').2⟩
  · rw [hids]
    refine List.Nodup.append h.nodup (List.nodup_singleton _) ?_
    simpa using h.resolved_unsent hfrom
  · rw [hids, List.mem_append, List.mem_singleton] at hid
    rcases hid with hid | rfl
    · exact h.spent id hid
    · exact h.resolved_spent hfrom
  · obtain ⟨hne, hother⟩ := hmoved hother
    rw [hids, List.mem_append, List.mem_singleton]
    -- a call that still has to send would have resolved the identifier a second time
    rintro (hsent | heq)
    · exact h.resolved_unsent hother hsent
    · exact hne (h.resolved_unique hother hfrom heq)

/-! ### The steps -/

/-- What a step of a responder can do: it moves on, spends an identifier, hands its frame to the
writer, reports a full writer, or closes the session. -/
lemma respondNext_cases (h : s.respondNext S q thread sendAnswer = some s') :
    (∃ call, (∀ frame bytes, call ≠ .resolved frame bytes) ∧ s' = s.goto thread call) ∨
    (∃ frame bytes requests, s.calls thread = .encoded frame bytes ∧
      s.requests.resolve frame.idText = (.ok (), requests) ∧
      s' = { s with requests := requests }.goto thread (.resolved frame bytes)) ∨
    (∃ frame bytes call, s.calls thread = .resolved frame bytes ∧
      (∀ frame bytes, call ≠ .resolved frame bytes) ∧
      s' = { s with sent := s.sent ++ [frame] }.goto thread call) ∨
    (∃ kind call, (∀ frame bytes, call ≠ .resolved frame bytes) ∧
      s' = (s.push S q (.queueFatalOverflow kind) .control .control).goto thread call) ∨
    ∃ call, (∀ frame bytes, call ≠ .resolved frame bytes) ∧
      s' = { s with closed := true }.goto thread call := by
  unfold respondNext at h
  cases hcall : s.calls thread with
  | idle => simp [hcall] at h
  | returned result => simp [hcall] at h
  | called respond =>
    simp only [hcall] at h
    split_ifs at h <;> cases h <;> exact Or.inl ⟨_, by simp, rfl⟩
  | checked respond =>
    simp only [hcall] at h
    split at h <;> cases h <;> exact Or.inl ⟨_, by simp, rfl⟩
  | framed frame =>
    simp only [hcall] at h
    split_ifs at h <;> cases h <;> exact Or.inl ⟨_, by simp, rfl⟩
  | ready frame =>
    simp only [hcall] at h
    split at h <;> cases h <;> exact Or.inl ⟨_, by simp, rfl⟩
  | encoded frame bytes =>
    simp only [hcall] at h
    split at h
    · rename_i requests hresolve
      cases h
      exact Or.inr (Or.inl ⟨frame, bytes, requests, rfl, hresolve, rfl⟩)
    · cases h
      exact Or.inl ⟨_, by simp, rfl⟩
  | resolved frame bytes =>
    simp only [hcall] at h
    split at h <;> cases h <;>
      exact Or.inr (Or.inr (Or.inl ⟨frame, bytes, _, rfl, by simp, rfl⟩))
  | failedSend e =>
    simp only [hcall] at h
    split_ifs at h <;> cases h
    · exact Or.inr (Or.inr (Or.inr (Or.inl ⟨.control, _, by simp, rfl⟩)))
    · exact Or.inl ⟨_, by simp, rfl⟩
    · exact Or.inl ⟨_, by simp, rfl⟩
  | closing e =>
    simp only [hcall, Option.some.injEq] at h
    subst h
    exact Or.inr (Or.inr (Or.inr (Or.inr ⟨_, by simp, rfl⟩)))

lemma readerNext_cases (h : s.readerNext S q = some s') :
    s'.calls = s.calls ∧ s'.sent = s.sent ∧ (s'.requests = s.requests ∨
      ∃ frame : RpcFrame, s.requests.register frame.idText = (.ok (), s'.requests)) := by
  unfold ServerRequestState.readerNext at h
  split at h
  · cases h
  · split_ifs at h <;> cases h <;> exact ⟨rfl, rfl, Or.inl rfl⟩
  · split at h
    · rename_i frame _ _ requests hregister
      cases h
      exact ⟨rfl, rfl, Or.inr ⟨frame, hregister⟩⟩
    · cases h
      exact ⟨rfl, rfl, Or.inl rfl⟩
  · split_ifs at h <;> cases h <;> exact ⟨rfl, rfl, Or.inl rfl⟩
  · cases h
    exact ⟨rfl, rfl, Or.inl rfl⟩
  · split_ifs at h <;> cases h <;> exact ⟨rfl, rfl, Or.inl rfl⟩
  · cases h
    exact ⟨rfl, rfl, Or.inl rfl⟩
  · cases h
    exact ⟨rfl, rfl, Or.inl rfl⟩

section

variable (h : Step S q s action s')
include h

/-- What a step can do to the ledger: nothing, the registration by the reader, or the ledger step
of a call. -/
lemma requests_cases :
    s'.requests = s.requests ∨
    (∃ frame : RpcFrame, s.requests.register frame.idText = (.ok (), s'.requests)) ∨
    ∃ thread frame bytes, s.calls thread = .encoded frame bytes ∧
      s'.calls thread = .resolved frame bytes ∧
      s.requests.resolve frame.idText = (.ok (), s'.requests) := by
  cases h with
  | readerNext hnext =>
    obtain ⟨-, -, hsame | hregister⟩ := readerNext_cases hnext
    · exact Or.inl hsame
    · exact Or.inr (Or.inl hregister)
  | respondNext thread sendAnswer hnext =>
    rcases respondNext_cases hnext with ⟨_, -, rfl⟩ | ⟨frame, bytes, requests, hcall, hresolve, rfl⟩
      | ⟨_, _, _, -, -, rfl⟩ | ⟨_, _, -, rfl⟩ | ⟨_, -, rfl⟩
    · exact Or.inl rfl
    · exact Or.inr (Or.inr ⟨thread, frame, bytes, hcall, goto_self _ _, hresolve⟩)
    · exact Or.inl rfl
    · exact Or.inl rfl
    · exact Or.inl rfl
  | _ => exact Or.inl rfl

lemma seen_subset :
    s.requests.seen ⊆ s'.requests.seen := by
  rcases requests_cases h with hsame | ⟨frame, hregister⟩ | ⟨thread, frame, bytes, -, -, hresolve⟩
  · rw [hsame]
  · obtain ⟨-, -, -, heq⟩ := register_ok hregister
    rw [heq]
    exact Finset.subset_insert _ _
  · obtain ⟨-, heq⟩ := resolve_ok hresolve
    rw [heq]

/-- An identifier stays answerable until the ledger step of a call that answers it. -/
lemma active_or_resolved {id : String} (hid : id ∈ s.requests.active) :
    id ∈ s'.requests.active ∨ ∃ thread frame bytes, frame.idText = id ∧
      s.calls thread = .encoded frame bytes ∧ s'.calls thread = .resolved frame bytes := by
  rcases requests_cases h with hsame | ⟨frame, hregister⟩ |
    ⟨thread, frame, bytes, hfrom, hto, hresolve⟩
  · exact Or.inl (hsame ▸ hid)
  · obtain ⟨-, -, -, heq⟩ := register_ok hregister
    rw [heq]
    exact Or.inl (Finset.mem_insert_of_mem hid)
  · obtain ⟨-, heq⟩ := resolve_ok hresolve
    by_cases hsame : frame.idText = id
    · exact Or.inr ⟨thread, frame, bytes, hsame, hfrom, hto⟩
    · rw [heq]
      exact Or.inl (Finset.mem_erase.mpr ⟨fun h => hsame h.symm, hid⟩)

lemma kept_step (hkept : Kept max s.requests) :
    Kept max s'.requests := by
  rcases requests_cases h with hsame | ⟨frame, hregister⟩ | ⟨thread, frame, bytes, -, -, hresolve⟩
  · rwa [hsame]
  · exact hkept.register hregister
  · exact hkept.resolve hresolve

end

/-- **Every step keeps every identifier in one place at most.** -/
lemma IssuedOnce.step (h : IssuedOnce s) (hstep : Step S q s action s') : IssuedOnce s' := by
  have hseen := seen_subset hstep
  have hsame : s'.issuedIds = s.issuedIds → IssuedOnce s' := fun heq => h.of_le heq.le hseen
  cases hstep with
  | dispatch frame hidle hkind =>
    refine hsame ?_
    simp only [issuedIds, hidle, heldIds]
  | readerNext hnext => exact h.readerNext hnext
  | respond thread respond hrests => exact hsame rfl
  | respondNext thread sendAnswer hnext =>
    refine hsame ?_
    rcases respondNext_cases hnext with ⟨_, -, rfl⟩ | ⟨_, _, _, -, -, rfl⟩ |
      ⟨_, _, _, -, -, rfl⟩ | ⟨kind, _, -, rfl⟩ | ⟨_, -, rfl⟩
    · rfl
    · rfl
    · rfl
    · rw [goto_issuedIds]
      exact issuedIds_push_other rfl .control .control
    · rfl
  | pop => exact hsame issuedIds_pop
  | popServerRequest => exact hsame issuedIds_popServerRequest
  | pushOther event priority kind hother => exact hsame (issuedIds_push_other hother _ _)
  | raiseClosed => exact hsame rfl
  | closeQueue hclosed =>
    refine h.of_le ?_ hseen
    unfold issuedIds
    exact add_le_add_left (add_le_add_right queuedIds_close _) _
  | setForbidden forbidden => exact hsame rfl

/-- **Every step keeps the answers apart.** -/
lemma SentOnce.step (h : SentOnce s) (hkept : Kept max s.requests) (hstep : Step S q s action s') :
    SentOnce s' := by
  cases hstep with
  | readerNext hnext =>
    obtain ⟨hcalls, hsent, hrequests⟩ := readerNext_cases hnext
    refine h.of_calls hsent (fun hcall => hcalls ▸ hcall) fun id hspent => ?_
    rcases hrequests with hsame | ⟨frame, hregister⟩
    · rwa [hsame]
    · exact hspent.register hregister
  | respond thread respond hrests => exact h.goto (by simp)
  | respondNext thread sendAnswer hnext =>
    rcases respondNext_cases hnext with ⟨_, hcall, rfl⟩ | ⟨_, _, _, hfrom, hresolve, rfl⟩ |
      ⟨_, _, _, hfrom, hcall, rfl⟩ | ⟨kind, _, hcall, rfl⟩ | ⟨_, hcall, rfl⟩
    · exact h.goto hcall
    · exact h.resolve hkept.active_seen hresolve
    · exact h.send hfrom hcall
    · have hpush : SentOnce (s.push S q (.queueFatalOverflow kind) .control .control) :=
        h.of_calls rfl id fun _ => id
      exact hpush.goto hcall
    · have hclose : SentOnce { s with closed := true } := h.of_calls rfl id fun _ => id
      exact hclose.goto hcall
  | _ => exact h.of_calls rfl id fun _ => id

/-! ### Refused calls -/

/-- A call with an identifier that is not active does not come past the ledger step. -/
lemma refused_respondNext {id : String} (h : s.respondNext S q thread sendAnswer = some s')
    (hid : id ∉ s.requests.active) (hrefused : (s.calls thread).Refused id) :
    (s'.calls thread).Refused id := by
  unfold respondNext at h
  cases hcall : s.calls thread with
  | idle => simp [hcall] at h
  | returned result => simp [hcall] at h
  | called respond =>
    simp only [hcall] at h hrefused
    split_ifs at h <;> cases h <;> rw [goto_self]
    · exact ⟨_, rfl⟩
    · exact hrefused
  | checked respond =>
    simp only [hcall] at h hrefused
    split at h <;> cases h <;> rw [goto_self]
    · rename_i frame hframe
      exact (idText_of_buildFrame hframe).trans hrefused
    · exact ⟨_, rfl⟩
  | framed frame =>
    simp only [hcall] at h hrefused
    split_ifs at h <;> cases h <;> rw [goto_self]
    · exact ⟨_, rfl⟩
    · exact hrefused
  | ready frame =>
    simp only [hcall] at h hrefused
    split at h <;> cases h <;> rw [goto_self]
    · exact hrefused
    · exact ⟨_, rfl⟩
  | encoded frame bytes =>
    simp only [hcall] at h hrefused
    have hinactive : frame.idText ∉ s.requests.active := hrefused ▸ hid
    obtain ⟨e, he⟩ := resolve_error hinactive
    simp only [he, Option.some.injEq] at h
    rw [← h, goto_self]
    exact ⟨e, rfl⟩
  | resolved frame bytes => simp [hcall, RespondCall.Refused] at hrefused
  | failedSend e => simp [hcall, RespondCall.Refused] at hrefused
  | closing e => simp [hcall, RespondCall.Refused] at hrefused

/-- A call that was refused so far stays so in every step but a new call of its thread. -/
lemma refused_step {id : String} (h : Step S q s action s')
    (hagain : ∀ respond, action ≠ .respond thread respond) (hid : id ∉ s.requests.active)
    (hrefused : (s.calls thread).Refused id) :
    (s'.calls thread).Refused id := by
  cases h with
  | readerNext hnext => rwa [(readerNext_cases hnext).1]
  | respond other respond hrests =>
    rw [goto_of_ne (fun heq => hagain respond (by rw [heq]))]
    exact hrefused
  | respondNext other sendAnswer hnext =>
    by_cases heq : thread = other
    · subst heq
      exact refused_respondNext hnext hid hrefused
    · rcases respondNext_cases hnext with ⟨_, -, rfl⟩ | ⟨_, _, _, -, -, rfl⟩ |
        ⟨_, _, _, -, -, rfl⟩ | ⟨_, _, -, rfl⟩ | ⟨_, -, rfl⟩ <;>
      · rw [goto_of_ne heq]
        exact hrefused
  | _ => exact hrefused

/-- Before the ledger step a call changes neither the ledger nor what was sent. -/
lemma respondNext_beforeLedger (hbefore : (s.calls thread).BeforeLedger)
    (h : s.respondNext S q thread sendAnswer = some s') :
    s'.requests = s.requests ∧ s'.sent = s.sent := by
  rcases respondNext_cases h with ⟨_, -, rfl⟩ | ⟨_, _, _, hcall, -, rfl⟩ |
    ⟨_, _, _, hcall, -, rfl⟩ | ⟨_, _, -, rfl⟩ | ⟨_, -, rfl⟩
  · exact ⟨rfl, rfl⟩
  · simp [hcall, RespondCall.BeforeLedger] at hbefore
  · simp [hcall, RespondCall.BeforeLedger] at hbefore
  · exact ⟨rfl, rfl⟩
  · exact ⟨rfl, rfl⟩

/-! ## Reachable states -/

/-- The invariant of a session. -/
structure Once (max : ℕ) (s : ServerRequestState) : Prop where
  kept : Kept max s.requests
  issued : IssuedOnce s
  sent : SentOnce s

lemma once_initial : Once max (initial max) :=
  ⟨⟨rfl, subset_rfl, Nat.zero_le _, Nat.zero_le _⟩,
    ⟨Multiset.nodup_zero, fun id hid => absurd hid (Multiset.notMem_zero id)⟩,
    ⟨List.nodup_nil, by rintro id ⟨⟩, by rintro _ _ _ ⟨⟩, by rintro _ _ _ ⟨⟩,
      by rintro _ _ _ _ _ _ ⟨⟩⟩⟩

lemma Once.step (h : Once max s) (hstep : Step S q s action s') :
    Once max s' :=
  ⟨kept_step hstep h.kept, h.issued.step hstep, h.sent.step h.kept hstep⟩

lemma once_of_reachable (h : Reachable S q max s) : Once max s := by
  obtain ⟨actions, hrun⟩ := h
  exact hrun.stateInvariant once_initial fun hs hstep => hs.step hstep

/-- A call with an identifier that is spent, or that no request has until the end of the run, is
refused. -/
lemma Once.refused {id : String} {actions : List ServerRequestAction} (h : Once max s)
    (hrun : Run (Step S q) s actions s') (hrefused : (s.calls thread).Refused id)
    (hagain : ∀ respond, .respond thread respond ∉ actions)
    (hid : s.requests.Spent id ∨ id ∉ s'.requests.seen) : (s'.calls thread).Refused id := by
  have hinactive : ∀ {t : ServerRequestState}, Once max t → t.requests.Spent id ∨
      id ∉ t.requests.seen → id ∉ t.requests.active := by
    rintro t ht (hspent | hunseen) hactive
    · exact hspent.2 hactive
    · exact hunseen (ht.kept.active_seen hactive)
  suffices hall : Once max s' ∧ (s.requests.Spent id → s'.requests.Spent id) ∧
      (s'.calls thread).Refused id from hall.2.2
  induction hrun with
  | nil => exact ⟨h, fun hspent => hspent, hrefused⟩
  | @snoc actions t action t' hrun hstep ih =>
    have hseen := seen_subset hstep
    obtain ⟨ht, hkeeps, htrefused⟩ := ih
      (fun respond hmem => hagain respond (List.mem_append_left _ hmem))
      (hid.imp_right fun hunseen hmem => hunseen (hseen hmem))
    have hlast : ∀ respond, action ≠ .respond thread respond := fun respond heq =>
      hagain respond (by simp [heq])
    have htid : t.requests.Spent id ∨ id ∉ t.requests.seen :=
      hid.imp hkeeps fun hunseen hmem => hunseen (hseen hmem)
    refine ⟨ht.step hstep, fun hspent => ?_,
      refused_step hstep hlast (hinactive ht htid) htrefused⟩
    rcases requests_cases hstep with hsame | ⟨frame, hregister⟩ | ⟨_, frame, _, -, -, hresolve⟩
    · rw [hsame]
      exact hkeeps hspent
    · exact (hkeeps hspent).register hregister
    · exact (hkeeps hspent).resolve hresolve

/-- What a session never does twice, and what it never exceeds. -/
structure AtMostOnce (max : ℕ) (s : ServerRequestState) : Prop where
  delivered_nodup : (s.delivered.map RpcFrame.idText).Nodup
  sent_nodup : s.sentIds.Nodup
  sent_spent : ∀ id ∈ s.sentIds, s.requests.Spent id
  active_le : s.requests.active.card ≤ max
  seen_le : s.requests.seen.card ≤ maxInboundServerRequestLedger

lemma Once.atMostOnce (h : Once max s) : s.AtMostOnce max where
  delivered_nodup := Multiset.coe_nodup.mp
    (Multiset.nodup_of_le (Multiset.le_add_left _ _) h.issued.nodup)
  sent_nodup := h.sent.nodup
  sent_spent := h.sent.spent
  active_le := h.kept.active_le
  seen_le := h.kept.seen_le

/-- **At most one answer for a request of the sidecar**, in every order of the steps: no
identifier is delivered twice or answered twice, the ledger keeps its limits and forgets nothing,
an identifier stays answerable until the ledger step of a call that answers it, a call that fails
before changes nothing, and a call with an identifier that is spent or was never registered does
not come to send. -/
theorem answered_once (h : Reachable S q max s) :
    s.AtMostOnce max ∧
    (∀ action s', Step S q s action s' → s.requests.seen ⊆ s'.requests.seen ∧
      ∀ id ∈ s.requests.active, id ∈ s'.requests.active ∨ ∃ thread frame bytes,
        frame.idText = id ∧ s.calls thread = .encoded frame bytes ∧
        s'.calls thread = .resolved frame bytes) ∧
    (∀ thread frame bytes sendAnswer, s.calls thread = .encoded frame bytes →
      frame.idText ∈ s.requests.active →
      ∃ s', s.respondNext S q thread sendAnswer = some s' ∧
        s'.calls thread = .resolved frame bytes) ∧
    (∀ thread sendAnswer s', (s.calls thread).BeforeLedger →
      s.respondNext S q thread sendAnswer = some s' →
      s'.requests = s.requests ∧ s'.sent = s.sent) ∧
    ∀ thread respond actions s', s.calls thread = .called respond →
      Run (Step S q) s actions s' → (∀ again, .respond thread again ∉ actions) →
      s.requests.Spent respond.id ∨ respond.id ∉ s'.requests.seen →
      (s'.calls thread).Refused respond.id := by
  have honce := once_of_reachable h
  refine ⟨honce.atMostOnce, fun action s' hstep => ⟨seen_subset hstep, fun id hid =>
    active_or_resolved hstep hid⟩, ?_, fun thread sendAnswer s' => respondNext_beforeLedger, ?_⟩
  · intro thread frame bytes sendAnswer hcall hactive
    refine ⟨{ s with requests := { s.requests with
      active := s.requests.active.erase frame.idText } }.goto thread (.resolved frame bytes),
      ?_, goto_self _ _⟩
    simp only [respondNext, hcall, InboundServerRequests.resolve_active hactive]
  · intro thread respond actions s' hcall hrun hagain hid
    refine honce.refused hrun ?_ hagain hid
    rw [hcall]
    exact rfl

/-- A request of the sidecar for an approval. -/
def approvalRequest : RpcFrame :=
  ⟨some "s:1", some "approval/request", some (.object []), .missing, none⟩

/-- The reader registers a request, a call answers it, and the session is closed before the reader
comes to push the request. -/
lemma exists_answered :
    ∃ s, Reachable compactSerde (.new 256 (4 * 1024 * 1024)) 32 s ∧ s.delivered = [] ∧
      s.issuedIds = 0 ∧ s.sentIds = ["s:1"] ∧ s.calls 0 = .returned (.ok ()) :=
  ⟨_, ⟨_, (((((((((((Run.nil.snoc (.dispatch approvalRequest rfl rfl)).snoc
    (.readerNext rfl)).snoc (.readerNext rfl)).snoc
    (.respond 0 (.result "s:1" .null) (Or.inl rfl))).snoc
    (.respondNext 0 (.ok ()) rfl)).snoc (.respondNext 0 (.ok ()) rfl)).snoc
    (.respondNext 0 (.ok ()) rfl)).snoc (.respondNext 0 (.ok ()) rfl)).snoc
    (.respondNext 0 (.ok ()) rfl)).snoc (.respondNext 0 (.ok ()) rfl)).snoc
    .raiseClosed).snoc (.readerNext rfl)⟩, rfl, rfl, rfl, rfl⟩

/-- A session with one answer. -/
theorem answered_once_sent :
    ∃ s, Reachable compactSerde (.new 256 (4 * 1024 * 1024)) 32 s ∧ s.sentIds = ["s:1"] ∧
      s.AtMostOnce 32 := by
  obtain ⟨s, hreachable, -, -, hsent, -⟩ := exists_answered
  exact ⟨s, hreachable, hsent, (answered_once hreachable).1⟩

/-- **A request that is answered and never delivered**: the call got the identifier from nowhere,
and the ledger knew it already. -/
theorem answered_undelivered :
    ∃ s, Reachable compactSerde (.new 256 (4 * 1024 * 1024)) 32 s ∧ s.delivered = [] ∧
      s.issuedIds = 0 ∧ s.sentIds = ["s:1"] ∧ s.calls 0 = .returned (.ok ()) :=
  exists_answered

end ServerRequestState

end JaDesktop.Host
