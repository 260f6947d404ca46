import JaDesktop.Ui.TimelineSequence

/-!
# Owners in the timeline

Every turn, item and approval of the state belongs to a thread.  A live event keeps the owners, the
turns of items and the decisions, and does not touch items and approvals of other threads, unless it
is the event of a turn that another thread has: such an event moves the turn to its own thread
(`ownership_kept_iff`).
-/

namespace JaDesktop.Ui.TimelineState

variable {Params Raw : Type} {schemas : EventSchemas Params Raw} {state next : TimelineState}
  {event : ThreadEvent Params} {threadId : String} {source : Option String}

/-- The thread of an event. -/
def sourceOf : JaEvent Params → Option String
  | .thread event => some event.threadId
  | .runtime _ => none

/-- What an event of a thread keeps of the state. -/
structure KeepsOwners (source : Option String) (state next : TimelineState) : Prop where
  turns : ∀ turnId turn, state.turns.lookup turnId = some turn →
    ∃ turn', next.turns.lookup turnId = some turn' ∧ turn'.threadId = turn.threadId
  items : ∀ itemId owner, state.itemThreadById.lookup itemId = some owner →
    next.itemThreadById.lookup itemId = some owner
  approvals : ∀ approvalId projection, state.approvalsById.lookup approvalId = some projection →
    ∃ projection', next.approvalsById.lookup approvalId = some projection' ∧
      projection'.threadId = projection.threadId
  itemTurns : ∀ itemId item, state.items.lookup itemId = some item →
    ∃ item', next.items.lookup itemId = some item' ∧ item'.turnId = item.turnId
  otherItems : ∀ itemId owner, state.itemThreadById.lookup itemId = some owner →
    source ≠ some owner → next.items.lookup itemId = state.items.lookup itemId ∧
      next.itemUtf8BytesById.lookup itemId = state.itemUtf8BytesById.lookup itemId
  otherApprovals : ∀ approvalId projection,
    state.approvalsById.lookup approvalId = some projection →
      source ≠ some projection.threadId →
        next.approvalsById.lookup approvalId = some projection
  decisions : ∀ approvalId projection decision,
    state.approvalsById.lookup approvalId = some projection →
      projection.decision = some decision →
        ∃ projection', next.approvalsById.lookup approvalId = some projection' ∧
          projection'.decision = some decision ∧ projection'.resolvedAt = projection.resolvedAt

namespace KeepsOwners

lemma refl (source : Option String) (state : TimelineState) : KeepsOwners source state state where
  turns _ turn h := ⟨turn, h, rfl⟩
  items _ _ h := h
  approvals _ projection h := ⟨projection, h, rfl⟩
  itemTurns _ item h := ⟨item, h, rfl⟩
  otherItems _ _ _ _ := ⟨rfl, rfl⟩
  otherApprovals _ _ h _ := h
  decisions _ projection _ h hdecision := ⟨projection, h, hdecision, rfl⟩

lemma congr {after : TimelineState} (h : KeepsOwners source state next)
    (hturns : after.turns = next.turns) (hitems : after.items = next.items)
    (howners : after.itemThreadById = next.itemThreadById)
    (hbytes : after.itemUtf8BytesById = next.itemUtf8BytesById)
    (happrovals : after.approvalsById = next.approvalsById) : KeepsOwners source state after where
  turns := by
    rw [hturns]
    exact h.turns
  items := by
    rw [howners]
    exact h.items
  approvals := by
    rw [happrovals]
    exact h.approvals
  itemTurns := by
    rw [hitems]
    exact h.itemTurns
  otherItems := by
    rw [hitems, hbytes]
    exact h.otherItems
  otherApprovals := by
    rw [happrovals]
    exact h.otherApprovals
  decisions := by
    rw [happrovals]
    exact h.decisions

lemma of_refused (h : Refused state next) : KeepsOwners source state next := by
  obtain ⟨result, -, rfl | ⟨key, reason, rfl⟩⟩ := h
  · exact (refl source state).congr rfl rfl rfl rfl rfl
  · exact (refl source state).congr rfl rfl rfl rfl rfl

lemma applyTurn {turn : Turn}
    (howner : ∀ old, state.turns.lookup turn.turnId = some old → old.threadId = turn.threadId) :
    KeepsOwners source state (state.applyTurn turn) :=
  { refl source state with
    turns := by
      intro turnId old hold
      show ∃ turn', (state.turns.insert turn.turnId turn).lookup turnId = some turn' ∧ _
      rw [Record.lookup_insert]
      split
      · next hid =>
        subst hid
        exact ⟨turn, rfl, (howner old hold).symm⟩
      · exact ⟨old, hold, rfl⟩ }

lemma replaceItem {itemId : String} {item : Item} {bytes : ℕ} {owners : Record String}
    {lists : Record (List String)}
    (hturn : ∀ existing, state.items.lookup itemId = some existing →
      existing.turnId = item.turnId)
    (howner : ∀ owner, state.itemThreadById.lookup itemId = some owner → owner = threadId)
    (howners : owners = state.itemThreadById ∨
      owners = state.itemThreadById.insert itemId threadId) :
    KeepsOwners (some threadId) state { state with
      items := state.items.insert itemId item
      itemThreadById := owners
      itemUtf8BytesById := state.itemUtf8BytesById.insert itemId bytes
      itemIdsByThread := lists } :=
  { refl (some threadId) state with
    items := by
      intro other owner h
      rcases howners with rfl | rfl
      · exact h
      · rw [Record.lookup_insert]
        split
        · next hid =>
          subst hid
          rw [howner owner h]
        · exact h
    itemTurns := by
      intro other existing h
      rw [Record.lookup_insert]
      split
      · next hid =>
        subst hid
        exact ⟨item, rfl, (hturn existing h).symm⟩
      · exact ⟨existing, h, rfl⟩
    otherItems := by
      intro other owner h hsource
      have hid : other ≠ itemId := by
        rintro rfl
        exact hsource (congrArg some (howner owner h).symm)
      rw [AList.lookup_insert_ne hid, AList.lookup_insert_ne hid]
      exact ⟨rfl, rfl⟩ }

/-- A replaced approval of the thread of the event, with the decision it has. -/
lemma replaceApproval {approvalId : String} {projection : TimelineApprovalState}
    (howner : ∀ existing, state.approvalsById.lookup approvalId = some existing →
      existing.threadId = threadId ∧ projection.threadId = threadId)
    (hdecision : ∀ existing decision, state.approvalsById.lookup approvalId = some existing →
      existing.decision = some decision →
        projection.decision = some decision ∧ projection.resolvedAt = existing.resolvedAt) :
    KeepsOwners (some threadId) state
      { state with approvalsById := state.approvalsById.insert approvalId projection } :=
  { refl (some threadId) state with
    approvals := by
      intro other existing h
      rw [Record.lookup_insert]
      split
      · next hid =>
        subst hid
        obtain ⟨hold, hnew⟩ := howner existing h
        exact ⟨projection, rfl, hnew.trans hold.symm⟩
      · exact ⟨existing, h, rfl⟩
    otherApprovals := by
      intro other existing h hsource
      have hid : other ≠ approvalId := by
        rintro rfl
        exact hsource (congrArg some (howner existing h).1.symm)
      rw [AList.lookup_insert_ne hid]
      exact h
    decisions := by
      intro other existing decision h hdecided
      rw [Record.lookup_insert]
      split
      · next hid =>
        subst hid
        exact ⟨projection, rfl, hdecision existing decision h hdecided⟩
      · exact ⟨existing, h, hdecided, rfl⟩ }

lemma applyApprovalRequested {approval : ApprovalSummary}
    (howner : ∀ existing, state.approvalsById.lookup approval.approvalId = some existing →
      existing.threadId = threadId) :
    KeepsOwners (some threadId) state (state.applyApprovalRequested approval) := by
  refine replaceApproval (fun existing h => ⟨howner existing h, ?_⟩)
    (fun existing decision h hd => ?_)
  · simp [h, howner existing h]
  · simp [h, hd]

lemma applyApprovalResolved {approvalId : String} {decision : ApprovalDecision}
    {resolvedAt : String}
    (howner : ∀ existing, state.approvalsById.lookup approvalId = some existing →
      existing.threadId = threadId) :
    KeepsOwners (some threadId) state
      (state.applyApprovalResolved approvalId decision resolvedAt threadId) := by
  rw [TimelineState.applyApprovalResolved]
  split
  · exact refl _ _
  next hundecided =>
  refine replaceApproval (fun existing h => ⟨howner existing h, ?_⟩)
    (fun existing decided h hd => ?_)
  · simp [h, howner existing h]
  · -- a decision that exists is kept by the first branch
    rw [h, Option.bind_some, hd] at hundecided
    exact absurd rfl hundecided

lemma change (h : Change schemas state event next)
    (hturn : ∀ turn old, schemas.turnOf event = some turn → turn.threadId = event.threadId →
      state.turnItemsBelongToThread turn.turnId event.threadId = true →
        state.turns.lookup turn.turnId = some old → old.threadId = event.threadId) :
    KeepsOwners (some event.threadId) state next := by
  cases h with
  | thread thread => exact (refl _ _).congr rfl rfl rfl rfl rfl
  | turn turn hparsed howner hitems =>
    refine applyTurn fun old hold => ?_
    rw [hturn turn old hparsed howner hitems hold, howner]
  | item item hturn howner => exact replaceItem hturn howner (Or.inr rfl)
  | delta itemId item delta hitem howner bytes =>
    -- the text of the item grows, its turn stays
    refine replaceItem (fun existing h => ?_) (fun owner h => ?_) (Or.inl rfl)
    · rw [hitem] at h
      rw [Option.some_inj.mp h]
    · rw [howner] at h
      exact (Option.some_inj.mp h).symm
  | approvalRequested approval hthread howner => exact applyApprovalRequested howner
  | approvalResolved approvalId decision resolvedAt howner => exact applyApprovalResolved howner
  | externalTool => exact refl _ _

end KeepsOwners

/-- The event is applied to a turn that the state has under another thread. -/
def Rebinds (schemas : EventSchemas Params Raw) (state : TimelineState) : JaEvent Params → Prop
  | .thread event => state.Admits event ∧ ∃ turn old, schemas.turnOf event = some turn ∧
      turn.threadId = event.threadId ∧
      state.turnItemsBelongToThread turn.turnId event.threadId = true ∧
      state.turns.lookup turn.turnId = some old ∧ old.threadId ≠ event.threadId
  | .runtime _ => False

lemma projectThreadEvent_turn {turn : Turn} (hparsed : schemas.turnOf event = some turn)
    (howner : turn.threadId = event.threadId)
    (hitems : state.turnItemsBelongToThread turn.turnId event.threadId = true) :
    state.projectThreadEvent schemas event = .ok (state.applyTurn turn) := by
  have hcase : state.turnCase event.threadId (some turn) = .ok (state.applyTurn turn) := by
    simp only [turnCase, howner, hitems, ne_eq, not_true_eq_false, Bool.not_true,
      Bool.false_eq_true, if_false]
  rw [EventSchemas.turnOf] at hparsed
  rw [projectThreadEvent]
  split at hparsed
  · next hmethod => simp only [hmethod, hparsed, hcase]
  · next hmethod => simp only [hmethod, hparsed, hcase]
  · next hmethod => simp only [hmethod, hparsed, hcase]
  · simp at hparsed

lemma not_keepsOwners_of_rebinds {event : JaEvent Params} (h : Rebinds schemas state event) :
    ¬ KeepsOwners source state (state.applyLiveEvent schemas event) := by
  cases event with
  | runtime event => exact h.elim
  | thread event =>
    obtain ⟨hadmits, turn, old, hparsed, howner, hitems, hold, hother⟩ := h
    -- the event is applied, and the turn it writes belongs to its own thread
    intro hkeeps
    obtain ⟨turn', hturn', hthread⟩ := hkeeps.turns turn.turnId old hold
    rw [applyLiveEvent_thread,
      applyThreadEvent_of_admits hadmits (projectThreadEvent_turn hparsed howner hitems)] at hturn'
    obtain ⟨seen, order, hadvance⟩ := (state.applyTurn turn).advance_eq event
    rw [hadvance] at hturn'
    have hturn' : (state.turns.insert turn.turnId turn).lookup turn.turnId = some turn' := hturn'
    rw [AList.lookup_insert, Option.some_inj] at hturn'
    rw [← hturn', howner] at hthread
    exact hother hthread.symm

lemma keepsOwners_of_not_rebinds {event : JaEvent Params} (h : ¬ Rebinds schemas state event) :
    KeepsOwners (sourceOf event) state (state.applyLiveEvent schemas event) := by
  cases event with
  | runtime event =>
    rcases applyLiveEvent_runtime schemas state event with hrefused | hnext
    · exact .of_refused hrefused
    · exact (KeepsOwners.refl _ _).congr hnext.turns hnext.items hnext.itemThreadById
        hnext.itemUtf8BytesById hnext.approvalsById
  | thread event =>
    rw [applyLiveEvent_thread]
    rcases applyThreadEvent_cases schemas state event with hrefused | ⟨hadmits, next, hnext, heq⟩
    · exact .of_refused hrefused
    · obtain ⟨seen, order, hadvance⟩ := next.advance_eq event
      rw [heq, hadvance]
      refine (KeepsOwners.change (change_of_project hnext) ?_).congr rfl rfl rfl rfl rfl
      intro turn old hparsed howner hitems hold
      by_contra hother
      exact h ⟨hadmits, turn, old, hparsed, howner, hitems, hold, hother⟩

/-- **Owners of the timeline.**  In every state, a live event keeps the owners of turns, items and
approvals, the turns of items, the decisions, and the items and approvals of other threads, exactly
when it is not applied to a turn of another thread. -/
theorem ownership_kept_iff (schemas : EventSchemas Params Raw) (state : TimelineState)
    (event : JaEvent Params) :
    KeepsOwners (sourceOf event) state (state.applyLiveEvent schemas event) ↔
      ¬ Rebinds schemas state event :=
  ⟨fun hkeeps hrebinds => not_keepsOwners_of_rebinds hrebinds hkeeps, keepsOwners_of_not_rebinds⟩

/-- One thread has started the turn. -/
def startedState : TimelineState :=
  readyState.applyLiveEvent projectedSchemas (.thread (turnStarted "thr_a" 1 "evt_1"))

/-- The other thread starts it again, and has it. -/
theorem started_twice_rebinds :
    Reachable projectedSchemas startedState ∧
      ¬ KeepsOwners (some "thr_b") startedState
        (startedState.applyLiveEvent projectedSchemas
          (.thread (turnStarted "thr_b" 1 "evt_2"))) := by
  refine ⟨⟨[.runtimeStatus readyStatus "", .event (.thread (turnStarted "thr_a" 1 "evt_1"))],
    .snoc (.snoc .nil rfl) rfl⟩, fun h => ?_⟩
  obtain ⟨turn, hturn, hthread⟩ :=
    h.turns "turn_a" (sampleTurn "turn_a" "thr_a") (by decide +kernel)
  have hmoved : (startedState.applyLiveEvent projectedSchemas
      (.thread (turnStarted "thr_b" 1 "evt_2"))).turns.lookup "turn_a" =
      some (sampleTurn "turn_a" "thr_b") := by decide +kernel
  rw [hmoved, Option.some_inj] at hturn
  rw [← hturn] at hthread
  exact absurd hthread (by decide)

end JaDesktop.Ui.TimelineState
