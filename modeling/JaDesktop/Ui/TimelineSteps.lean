import JaDesktop.Ui.Timeline

/-!
# What a call of the timeline reducer can do

One lemma for each entry point says which guards a call has passed and what it makes of the state.
Everything that is proved about runs of the reducer goes through these lemmas.
-/

namespace JaDesktop.Ui

variable {Params Raw : Type}

/-- The turn that a turn event carries. -/
def EventSchemas.turnOf (schemas : EventSchemas Params Raw) (event : ThreadEvent Params) :
    Option Turn :=
  match event.method with
  | .turnStarted | .turnWaiting => schemas.turnEvent event.params
  | .turnCompleted => schemas.turnCompleted event.params
  | _ => none

namespace TimelineState

variable {schemas : EventSchemas Params Raw} {state next : TimelineState}
  {event : ThreadEvent Params} {threadId key : String}

/-! ## Refused input -/

/-- The result is the previous state but for the outcome and one mark at most. -/
def Refused (state next : TimelineState) : Prop :=
  ∃ result, result ≠ .applied ∧
    (next = state.outcome result ∨ ∃ key reason, next = state.resync key reason result)

lemma refused_outcome {result : ApplyOutcome} (h : result ≠ .applied) :
    Refused state (state.outcome result) := ⟨result, h, Or.inl rfl⟩

lemma refused_resync {reason : ResyncReason} {result : ApplyOutcome} (h : result ≠ .applied) :
    Refused state (state.resync key reason result) := ⟨result, h, Or.inr ⟨key, reason, rfl⟩⟩

lemma Refused.lastOutcome_ne (h : Refused state next) : next.lastOutcome ≠ some .applied := by
  obtain ⟨result, hresult, rfl | ⟨key, reason, rfl⟩⟩ := h
  · simpa [outcome] using hresult
  · simpa [resync, outcome] using hresult

/-! ## The projection of a thread event -/

/-- What one thread event makes of the projection. -/
inductive Change (schemas : EventSchemas Params Raw) (state : TimelineState)
    (event : ThreadEvent Params) : TimelineState → Prop
  | thread (thread : Thread) :
      Change schemas state event
        { state with threads := state.threads.insert event.threadId thread }
  | turn (turn : Turn) (hparsed : schemas.turnOf event = some turn)
      (howner : turn.threadId = event.threadId)
      (hitems : state.turnItemsBelongToThread turn.turnId event.threadId = true) :
      Change schemas state event (state.applyTurn turn)
  | item (item : Item)
      (hturn : ∀ existing, state.items.lookup item.itemId = some existing →
        existing.turnId = item.turnId)
      (howner : ∀ owner, state.itemThreadById.lookup item.itemId = some owner →
        owner = event.threadId)
      (hbytes : utf8ByteLength (textOf item) ≤ maxItemTextBytes) :
      Change schemas state event (state.applyItem item event.threadId)
  | delta (itemId : String) (item : Item) (delta : JsString)
      (hitem : state.items.lookup itemId = some item)
      (howner : state.itemThreadById.lookup itemId = some event.threadId) (bytes : ℕ)
      (hbytes : (state.itemUtf8BytesById.lookup itemId).getD (utf8ByteLength (textOf item)) +
        utf8ByteLength delta = bytes)
      (hmax : bytes ≤ maxItemTextBytes) :
      Change schemas state event { state with
        items := state.items.insert itemId { item with text := some (textOf item ++ delta) }
        itemUtf8BytesById := state.itemUtf8BytesById.insert itemId bytes }
  | approvalRequested (approval : ApprovalSummary) (hthread : approval.threadId = event.threadId)
      (howner : ∀ existing, state.approvalsById.lookup approval.approvalId = some existing →
        existing.threadId = event.threadId) :
      Change schemas state event (state.applyApprovalRequested approval)
  | approvalResolved (approvalId : String) (decision : ApprovalDecision) (resolvedAt : String)
      (howner : ∀ existing, state.approvalsById.lookup approvalId = some existing →
        existing.threadId = event.threadId) :
      Change schemas state event
        (state.applyApprovalResolved approvalId decision resolvedAt event.threadId)
  | externalTool : Change schemas state event state

lemma turnCase_ok {parsed : Option Turn} (h : state.turnCase threadId parsed = .ok next) :
    ∃ turn, parsed = some turn ∧ turn.threadId = threadId ∧
      state.turnItemsBelongToThread turn.turnId threadId = true ∧ next = state.applyTurn turn := by
  cases parsed with
  | none => simp [turnCase] at h
  | some turn =>
    simp only [turnCase] at h
    split at h
    · simp at h
    · next howner =>
      split at h
      · simp at h
      · next hitems =>
        refine ⟨turn, rfl, ?_, ?_, ?_⟩
        · simpa using howner
        · simpa using hitems
        · simpa using h.symm

lemma any_eq_false {α : Type} {o : Option α} {p : α → Bool} (h : ¬ o.any p = true) {a : α}
    (ha : o = some a) : p a = false := by
  subst ha
  simpa using h

lemma itemCase_ok {method : ThreadEventMethod} {parsed : Option Item}
    (h : state.itemCase method threadId parsed = .ok next) :
    ∃ item, parsed = some item ∧
      (∀ existing, state.items.lookup item.itemId = some existing →
        existing.turnId = item.turnId) ∧
      (∀ owner, state.itemThreadById.lookup item.itemId = some owner → owner = threadId) ∧
      utf8ByteLength (textOf item) ≤ maxItemTextBytes ∧ next = state.applyItem item threadId := by
  cases parsed with
  | none => simp [itemCase] at h
  | some item =>
    simp only [itemCase] at h
    split at h
    · simp at h
    next hturn =>
    split at h
    · simp at h
    next howner =>
    -- the two checks on the turn of a new item restrict the event, not the change
    split at h
    · simp at h
    split at h
    · simp at h
    split at h
    · simp at h
    next hbytes =>
    refine ⟨item, rfl, ?_, ?_, Nat.le_of_not_lt hbytes, ?_⟩
    · intro existing hexisting
      simpa using any_eq_false hturn hexisting
    · intro owner hlookup
      simpa using any_eq_false howner hlookup
    · simpa using h.symm

lemma deltaCase_ok {parsed : Option (String × JsString)}
    (h : state.deltaCase threadId parsed = .ok next) :
    ∃ itemId item delta bytes, parsed = some (itemId, delta) ∧
      state.items.lookup itemId = some item ∧
      state.itemThreadById.lookup itemId = some threadId ∧
      (state.itemUtf8BytesById.lookup itemId).getD (utf8ByteLength (textOf item)) +
        utf8ByteLength delta = bytes ∧
      bytes ≤ maxItemTextBytes ∧
      next = { state with
        items := state.items.insert itemId { item with text := some (textOf item ++ delta) }
        itemUtf8BytesById := state.itemUtf8BytesById.insert itemId bytes } := by
  rcases parsed with _ | ⟨itemId, delta⟩
  · simp [deltaCase] at h
  cases hitem : state.items.lookup itemId with
  | none => simp [deltaCase, hitem] at h
  | some item =>
    simp only [deltaCase, hitem] at h
    split at h
    · simp at h
    next howner =>
    split at h
    · simp at h
    next hbytes =>
    refine ⟨itemId, item, delta, _, rfl, hitem, by simpa using howner, rfl, ?_,
      by simpa using h.symm⟩
    omega

lemma approvalRequestedCase_ok {parsed : Option ApprovalSummary}
    (h : state.approvalRequestedCase threadId parsed = .ok next) :
    ∃ approval, approval.threadId = threadId ∧
      (∀ existing, state.approvalsById.lookup approval.approvalId = some existing →
        existing.threadId = threadId) ∧ next = state.applyApprovalRequested approval := by
  cases parsed with
  | none => simp [approvalRequestedCase] at h
  | some approval =>
    simp only [approvalRequestedCase] at h
    split at h
    · simp at h
    next hthread =>
    split at h
    · simp at h
    next howner =>
    split at h
    · simp at h
    refine ⟨approval, by simpa using hthread, ?_, by simpa using h.symm⟩
    intro existing hexisting
    simpa using any_eq_false howner hexisting

lemma approvalResolvedCase_ok {parsed : Option (String × ApprovalDecision × String)}
    (h : state.approvalResolvedCase threadId parsed = .ok next) :
    ∃ approvalId decision resolvedAt,
      (∀ existing, state.approvalsById.lookup approvalId = some existing →
        existing.threadId = threadId) ∧
      next = state.applyApprovalResolved approvalId decision resolvedAt threadId := by
  rcases parsed with _ | ⟨approvalId, decision, resolvedAt⟩
  · simp [approvalResolvedCase] at h
  simp only [approvalResolvedCase] at h
  split at h
  · simp at h
  next howner =>
  refine ⟨approvalId, decision, resolvedAt, ?_, by simpa using h.symm⟩
  intro existing hexisting
  simpa using any_eq_false howner hexisting

/-- The switch of `applyThreadEvent`, all kinds of events in one list of changes. -/
lemma change_of_project (h : state.projectThreadEvent schemas event = .ok next) :
    Change schemas state event next := by
  unfold projectThreadEvent at h
  split at h
  case h_1 =>
    split at h
    · simp at h
    split at h
    · simp at h
    · obtain rfl : _ = next := by simpa using h
      exact .thread _
  case h_2 hmethod | h_3 hmethod | h_4 hmethod =>
    obtain ⟨turn, hparsed, howner, hitems, rfl⟩ := turnCase_ok h
    exact .turn turn (by simpa [EventSchemas.turnOf, hmethod] using hparsed) howner hitems
  case h_5 | h_6 | h_7 =>
    obtain ⟨item, -, hturn, howner, hbytes, rfl⟩ := itemCase_ok h
    exact .item item hturn howner hbytes
  case h_8 =>
    obtain ⟨itemId, item, delta, bytes, -, hitem, howner, hbytes, hmax, rfl⟩ := deltaCase_ok h
    exact .delta itemId item delta hitem howner bytes hbytes hmax
  case h_9 =>
    obtain ⟨approval, hthread, howner, rfl⟩ := approvalRequestedCase_ok h
    exact .approvalRequested approval hthread howner
  case h_10 =>
    obtain ⟨approvalId, decision, resolvedAt, howner, rfl⟩ := approvalResolvedCase_ok h
    exact .approvalResolved approvalId decision resolvedAt howner
  case h_11 =>
    split at h
    · simp at h
    split at h
    · simp at h
    · obtain rfl : state = next := by simpa using h
      exact .externalTool

/-! ## Thread events -/

/-- The guards of `applyThreadEvent` let the event through to the switch. -/
structure Admits (state : TimelineState) (event : ThreadEvent Params) : Prop where
  ready : state.handshake.phase = .ready
  unseen : ¬ (state.seenEventIds.lookup (eventKey (.thread event))).isSome
  sameInstance : state.serverInstanceId = some event.serverInstanceId
  unmarked : ¬ (state.resyncRequired.lookup event.threadId).isSome
  nextSeq : event.seq = (state.lastSeqByThread.lookup event.threadId).getD 0 + 1

lemma applyThreadEvent_of_admits (h : state.Admits event)
    (hnext : state.projectThreadEvent schemas event = .ok next) :
    state.applyThreadEvent schemas event = next.advance event := by
  have hlate : ¬ event.seq ≤ (state.lastSeqByThread.lookup event.threadId).getD 0 := by
    rw [h.nextSeq]
    omega
  simp only [applyThreadEvent, h.ready, h.sameInstance, hnext, if_neg h.unseen, if_neg h.unmarked,
    if_neg hlate, if_neg (not_not_intro h.nextSeq), ne_eq, not_true_eq_false, if_false]

lemma applyThreadEvent_cases (schemas : EventSchemas Params Raw) (state : TimelineState)
    (event : ThreadEvent Params) :
    Refused state (state.applyThreadEvent schemas event) ∨
      state.Admits event ∧ ∃ next, state.projectThreadEvent schemas event = .ok next ∧
        state.applyThreadEvent schemas event = next.advance event := by
  -- the guards one after the other, in the order of the source
  by_cases hready : state.handshake.phase = .ready
  case neg =>
    rw [applyThreadEvent, if_pos hready]
    exact Or.inl (refused_resync (by decide))
  by_cases hseen : (state.seenEventIds.lookup (eventKey (.thread event))).isSome
  case pos =>
    rw [applyThreadEvent, if_neg (not_not_intro hready), if_pos hseen]
    exact Or.inl (refused_outcome (by decide))
  by_cases hinstance : state.serverInstanceId = some event.serverInstanceId
  case neg =>
    rw [applyThreadEvent, if_neg (not_not_intro hready), if_neg hseen, if_pos hinstance]
    exact Or.inl (refused_resync (by decide))
  by_cases hmark : (state.resyncRequired.lookup event.threadId).isSome
  case pos =>
    rw [applyThreadEvent, if_neg (not_not_intro hready), if_neg hseen,
      if_neg (not_not_intro hinstance), if_pos hmark]
    exact Or.inl (refused_outcome (by decide))
  by_cases hlate : event.seq ≤ (state.lastSeqByThread.lookup event.threadId).getD 0
  case pos =>
    rw [applyThreadEvent, if_neg (not_not_intro hready), if_neg hseen,
      if_neg (not_not_intro hinstance), if_neg hmark, if_pos hlate]
    exact Or.inl (refused_resync (by decide))
  by_cases hseq : event.seq = (state.lastSeqByThread.lookup event.threadId).getD 0 + 1
  case neg =>
    rw [applyThreadEvent, if_neg (not_not_intro hready), if_neg hseen,
      if_neg (not_not_intro hinstance), if_neg hmark, if_neg hlate, if_pos hseq]
    exact Or.inl (refused_resync (by decide))
  -- the event is admitted, and the switch decides
  have hadmits : state.Admits event := ⟨hready, hseen, hinstance, hmark, hseq⟩
  cases hnext : state.projectThreadEvent schemas event with
  | ok next => exact Or.inr ⟨hadmits, next, rfl, applyThreadEvent_of_admits hadmits hnext⟩
  | error reason =>
    rw [applyThreadEvent, if_neg (not_not_intro hready), if_neg hseen,
      if_neg (not_not_intro hinstance), if_neg hmark, if_neg hlate, if_neg (not_not_intro hseq),
      hnext]
    exact Or.inl (refused_resync (by decide))

lemma applyLiveEvent_thread :
    state.applyLiveEvent schemas (.thread event) = state.applyThreadEvent schemas event := by
  by_cases hready : state.handshake.phase = .ready
  · rw [applyLiveEvent, if_neg (not_not_intro hready)]
  · rw [applyLiveEvent, applyThreadEvent, if_pos hready, if_pos hready]

lemma rememberEvent_eq (state : TimelineState) (scope fingerprint : String) :
    ∃ seen order, state.rememberEvent scope fingerprint =
      { state with seenEventIds := seen, seenEventOrderByScope := order } := ⟨_, _, rfl⟩

/-- The entity of the thread with the sequence number, if the thread is known. -/
def threadsWithSeq (threads : Record Thread) (threadId : String) (seq : ℕ) : Record Thread :=
  match threads.lookup threadId with
  | some thread => threads.insert threadId { thread with lastSeq := seq }
  | none => threads

lemma advance_eq (next : TimelineState) (event : ThreadEvent Params) :
    ∃ seen order, next.advance event =
      { next with
        seenEventIds := seen
        seenEventOrderByScope := order
        threads := threadsWithSeq next.threads event.threadId event.seq
        lastSeqByThread := next.lastSeqByThread.insert event.threadId event.seq
        lastOutcome := some .applied } := by
  obtain ⟨seen, order, hremembered⟩ :=
    next.rememberEvent_eq event.threadId (eventKey (.thread event))
  refine ⟨seen, order, ?_⟩
  simp only [advance, hremembered]
  rfl

/-! ## Runtime events -/

/-- A runtime event that is applied leaves the projection of the threads alone. -/
structure RuntimeApplied (state next : TimelineState) : Prop where
  ready : state.handshake.phase = .ready
  handshake : next.handshake = state.handshake
  threads : next.threads = state.threads
  turns : next.turns = state.turns
  items : next.items = state.items
  itemThreadById : next.itemThreadById = state.itemThreadById
  itemUtf8BytesById : next.itemUtf8BytesById = state.itemUtf8BytesById
  itemIdsByThread : next.itemIdsByThread = state.itemIdsByThread
  approvalsById : next.approvalsById = state.approvalsById
  lastSeqByThread : next.lastSeqByThread = state.lastSeqByThread
  resyncRequired : next.resyncRequired = state.resyncRequired
  outcome : next.lastOutcome = some .applied

lemma applyLiveEvent_runtime (schemas : EventSchemas Params Raw) (state : TimelineState)
    (event : RuntimeEvent Params) :
    Refused state (state.applyLiveEvent schemas (.runtime event)) ∨
      RuntimeApplied state (state.applyLiveEvent schemas (.runtime event)) := by
  by_cases hready : state.handshake.phase = .ready
  case neg =>
    rw [applyLiveEvent, if_pos hready]
    exact Or.inl (refused_resync (by decide))
  rw [applyLiveEvent, if_neg (not_not_intro hready)]
  obtain ⟨seen, order, hremembered⟩ :=
    state.rememberEvent_eq "runtime" (eventKey (.runtime event))
  simp only [applyRuntimeEvent, hremembered]
  split
  · exact Or.inl (refused_outcome (by decide))
  split
  · split
    · exact Or.inl (refused_resync (by decide))
    split
    · exact Or.inl (refused_resync (by decide))
    · exact Or.inr ⟨hready, rfl, rfl, rfl, rfl, rfl, rfl, rfl, rfl, rfl, rfl, rfl⟩
  split
  · exact Or.inl (refused_resync (by decide))
  · exact Or.inr ⟨hready, rfl, rfl, rfl, rfl, rfl, rfl, rfl, rfl, rfl, rfl, rfl⟩

/-! ## Snapshots -/

/-- The guards of `applySnapshot` let the snapshot through. -/
structure Accepts (schemas : EventSchemas Params Raw) (state : TimelineState)
    (snapshot : ThreadReadResult Raw) : Prop where
  ready : state.handshake.phase = .ready
  sameInstance : state.serverInstanceId = none ∨
    state.serverInstanceId = some snapshot.serverInstanceId
  structureValid : state.hasValidSnapshotStructure snapshot = true
  eventsValid : hasValidSnapshotEvents schemas snapshot = true
  text : ∀ item ∈ snapshot.items, utf8ByteLength (textOf item) ≤ maxItemTextBytes

variable {snapshot : ThreadReadResult Raw}

lemma not_foreign_iff : ¬ (state.serverInstanceId.isSome ∧
      state.serverInstanceId ≠ some snapshot.serverInstanceId) ↔
    state.serverInstanceId = none ∨ state.serverInstanceId = some snapshot.serverInstanceId := by
  cases state.serverInstanceId <;> simp

lemma applySnapshot_of_accepts (h : Accepts schemas state snapshot) :
    state.applySnapshot schemas snapshot = state.installSnapshot snapshot := by
  have htext : ¬ (snapshot.items.any fun item =>
      maxItemTextBytes < utf8ByteLength (textOf item)) = true := by
    simpa using h.text
  simp only [applySnapshot, if_neg (not_not_intro h.ready),
    if_neg (not_foreign_iff.mpr h.sameInstance), h.structureValid, h.eventsValid, if_neg htext,
    Bool.not_true, Bool.false_eq_true, if_false]

lemma applySnapshot_cases (schemas : EventSchemas Params Raw) (state : TimelineState)
    (snapshot : ThreadReadResult Raw) :
    Refused state (state.applySnapshot schemas snapshot) ∨
      Accepts schemas state snapshot ∧
        state.applySnapshot schemas snapshot = state.installSnapshot snapshot := by
  by_cases hready : state.handshake.phase = .ready
  case neg =>
    rw [applySnapshot, if_pos hready]
    exact Or.inl (refused_resync (by decide))
  by_cases hforeign : state.serverInstanceId.isSome ∧
      state.serverInstanceId ≠ some snapshot.serverInstanceId
  case pos =>
    rw [applySnapshot, if_neg (not_not_intro hready), if_pos hforeign]
    exact Or.inl (refused_resync (by decide))
  cases hstructure : state.hasValidSnapshotStructure snapshot with
  | false =>
    simp only [applySnapshot, if_neg (not_not_intro hready), if_neg hforeign, hstructure,
      Bool.not_false, if_true]
    exact Or.inl (refused_resync (by decide))
  | true =>
    cases hevents : hasValidSnapshotEvents schemas snapshot with
    | false =>
      simp only [applySnapshot, if_neg (not_not_intro hready), if_neg hforeign, hstructure, hevents,
        Bool.not_false, Bool.not_true, Bool.false_eq_true, if_true, if_false]
      exact Or.inl (refused_resync (by decide))
    | true =>
      by_cases htext : (snapshot.items.any fun item =>
          maxItemTextBytes < utf8ByteLength (textOf item)) = true
      case pos =>
        simp only [applySnapshot, if_neg (not_not_intro hready), if_neg hforeign, hstructure,
          hevents, if_pos htext, Bool.not_true, Bool.false_eq_true, if_false]
        exact Or.inl (refused_resync (by decide))
      have haccepts : Accepts schemas state snapshot :=
        ⟨hready, not_foreign_iff.mp hforeign, hstructure, hevents, by simpa using htext⟩
      exact Or.inr ⟨haccepts, applySnapshot_of_accepts haccepts⟩

/-! ## The status of the host -/

/-- The status clears the business projection: it stops the host or starts a generation. -/
def Clears (state : TimelineState) (status : HostRuntimeStatus) : Prop :=
  isSafeInteger status.generation = true ∧ 0 < status.generation ∧
    state.handshake.generation ≤ status.generation ∧
    ¬ (isReady status ∧ status.generation = state.handshake.generation)

/-- The marker that a status leaves. -/
def handshakeOf (status : HostRuntimeStatus) : HostProjection :=
  ⟨if isReady status then .ready else .disconnected, status.generation⟩

lemma applyRuntimeStatus_cases (state : TimelineState) (status : HostRuntimeStatus)
    (now : String) :
    (¬ state.Clears status ∧ Refused state (state.applyRuntimeStatus status now)) ∨
    (state.Clears status ∧ ∃ serverInstanceId runtime, state.applyRuntimeStatus status now =
      { createTimelineState with
        handshake := handshakeOf status
        serverInstanceId := serverInstanceId
        runtime := runtime
        lastOutcome := some .applied }) ∨
    (¬ state.Clears status ∧ ∃ serverInstanceId runtime, state.applyRuntimeStatus status now =
      { state with
        handshake := handshakeOf status
        serverInstanceId := serverInstanceId
        runtime := runtime
        lastOutcome := some .applied }) := by
  by_cases hinvalid : (!isSafeInteger status.generation || decide (status.generation ≤ 0)) = true
  case pos =>
    refine Or.inl ⟨?_, ?_⟩
    · rintro ⟨hsafe, hpositive, -⟩
      rw [hsafe, decide_eq_false (Int.not_le.mpr hpositive)] at hinvalid
      exact absurd hinvalid (by decide)
    · rw [applyRuntimeStatus, if_pos hinvalid]
      exact refused_outcome (by decide)
  by_cases hold : status.generation < state.handshake.generation
  case pos =>
    refine Or.inl ⟨fun h => Int.not_le.mpr hold h.2.2.1, ?_⟩
    rw [applyRuntimeStatus, if_neg hinvalid, if_pos hold]
    exact refused_outcome (by decide)
  -- what is left is a ready host of the same generation, or the base is cleared
  have hvalid : isSafeInteger status.generation = true ∧ 0 < status.generation := by
    simpa using hinvalid
  by_cases hsame : isReady status = true ∧ status.generation = state.handshake.generation
  · refine Or.inr (Or.inr ⟨fun h => h.2.2.2 hsame, ?_⟩)
    have hcase : isReady status = true ∧ ¬ status.generation ≠ state.handshake.generation :=
      ⟨hsame.1, not_not_intro hsame.2⟩
    simp only [applyRuntimeStatus, if_neg hinvalid, if_neg hold, if_pos hcase]
    exact ⟨_, _, rfl⟩
  · refine Or.inr (Or.inl ⟨⟨hvalid.1, hvalid.2, Int.not_lt.mp hold, hsame⟩, ?_⟩)
    have hcase : ¬ (isReady status = true ∧ ¬ status.generation ≠ state.handshake.generation) := by
      simpa using hsame
    simp only [applyRuntimeStatus, if_neg hinvalid, if_neg hold, if_neg hcase]
    exact ⟨_, _, rfl⟩

end TimelineState

end JaDesktop.Ui
