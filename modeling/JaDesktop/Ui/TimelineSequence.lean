import JaDesktop.Ui.TimelineSteps

/-!
# Sequence numbers and marks of the timeline

A thread event is applied only as the next one of its thread, so between two snapshots of a thread
the events applied to it are numbered without a gap (`sequence_contiguity`).  Input that is not
applied leaves the state alone but for the outcome and one mark, and a marked thread waits for its
snapshot (`refused_input`).
-/

namespace JaDesktop.Ui.TimelineState

variable {Params Raw : Type} {schemas : EventSchemas Params Raw} {state next final : TimelineState}
  {event : ThreadEvent Params} {threadId : String} {action : Action Params Raw}
  {actions : List (Action Params Raw)}

/-! ## One thread event -/

/-- What every kind of thread event leaves alone. -/
structure SameSequencing (state next : TimelineState) : Prop where
  handshake : next.handshake = state.handshake
  serverInstanceId : next.serverInstanceId = state.serverInstanceId
  lastSeqByThread : next.lastSeqByThread = state.lastSeqByThread
  resyncRequired : next.resyncRequired = state.resyncRequired

lemma Change.sameSequencing (h : Change schemas state event next) : SameSequencing state next := by
  cases h with
  | approvalResolved approvalId decision resolvedAt =>
    rw [applyApprovalResolved]
    split
    · exact ⟨rfl, rfl, rfl, rfl⟩
    · exact ⟨rfl, rfl, rfl, rfl⟩
  | _ => exact ⟨rfl, rfl, rfl, rfl⟩

lemma lookup_isSome_insert {ν : Type} {r : Record ν} {k l : String} {v : ν}
    (h : (r.lookup l).isSome) : ((r.insert k v).lookup l).isSome := by
  rw [Record.lookup_insert]
  split
  · rfl
  · exact h

lemma Change.threads_isSome (h : Change schemas state event next)
    (hknown : (state.threads.lookup threadId).isSome) : (next.threads.lookup threadId).isSome := by
  cases h with
  | thread thread => exact lookup_isSome_insert hknown
  | turn turn =>
    simp only [applyTurn]
    split
    · exact lookup_isSome_insert hknown
    · exact hknown
  | approvalResolved approvalId decision resolvedAt =>
    rw [applyApprovalResolved]
    split
    · exact hknown
    · exact hknown
  | _ => exact hknown

lemma lookup_threadsWithSeq {threads : Record Thread} {seq : ℕ} :
    (threadsWithSeq threads threadId seq).lookup threadId =
      (threads.lookup threadId).map fun thread => { thread with lastSeq := seq } := by
  rw [threadsWithSeq]
  split
  · next thread hthread => simp [hthread]
  · next hthread => simp [hthread]

/-- The event is the next one of an unmarked thread, and the state counts it. -/
structure AppliedNext (state : TimelineState) (event : ThreadEvent Params)
    (next : TimelineState) : Prop where
  ready : state.handshake.phase = .ready
  sameInstance : state.serverInstanceId = some event.serverInstanceId
  unmarked : state.resyncRequired.lookup event.threadId = none
  nextSeq : event.seq = (state.lastSeqByThread.lookup event.threadId).getD 0 + 1
  cursor : next.lastSeqByThread.lookup event.threadId = some event.seq
  threadKnown : (state.threads.lookup event.threadId).isSome →
    (next.threads.lookup event.threadId).isSome
  threadSeq : ∀ thread, next.threads.lookup event.threadId = some thread →
    thread.lastSeq = event.seq
  otherCursors : ∀ other, other ≠ event.threadId →
    next.lastSeqByThread.lookup other = state.lastSeqByThread.lookup other
  marks : next.resyncRequired = state.resyncRequired
  outcome : next.lastOutcome = some .applied

lemma appliedNext_of_change (hadmits : state.Admits event)
    (hchange : Change schemas state event next) :
    AppliedNext state event (next.advance event) := by
  have hsame := hchange.sameSequencing
  obtain ⟨seen, order, hadvance⟩ := next.advance_eq event
  rw [hadvance]
  refine ⟨hadmits.ready, hadmits.sameInstance, by simpa using hadmits.unmarked, hadmits.nextSeq,
    AList.lookup_insert _, ?_, ?_, ?_, hsame.resyncRequired, rfl⟩
  · intro hknown
    show ((threadsWithSeq next.threads event.threadId event.seq).lookup event.threadId).isSome
    rw [lookup_threadsWithSeq, Option.isSome_map]
    exact hchange.threads_isSome hknown
  · intro thread hthread
    have hthread : (threadsWithSeq next.threads event.threadId event.seq).lookup event.threadId =
        some thread := hthread
    rw [lookup_threadsWithSeq, Option.map_eq_some_iff] at hthread
    obtain ⟨known, -, rfl⟩ := hthread
    rfl
  · intro other hother
    show (next.lastSeqByThread.insert event.threadId event.seq).lookup other = _
    rw [AList.lookup_insert_ne hother, hsame.lastSeqByThread]

lemma applyLiveEvent_thread_cases (schemas : EventSchemas Params Raw) (state : TimelineState)
    (event : ThreadEvent Params) :
    Refused state (state.applyLiveEvent schemas (.thread event)) ∨
      AppliedNext state event (state.applyLiveEvent schemas (.thread event)) := by
  rw [applyLiveEvent_thread]
  rcases applyThreadEvent_cases schemas state event with hrefused | ⟨hadmits, next, hnext, heq⟩
  · exact Or.inl hrefused
  · rw [heq]
    exact Or.inr (appliedNext_of_change hadmits (change_of_project hnext))

/-! ## Runs between two snapshots of a thread -/

/-- The sequence number of the event of the thread that a call applies. -/
def appliedSeq (schemas : EventSchemas Params Raw) (threadId : String) (state : TimelineState) :
    Action Params Raw → Option ℕ
  | .event (.thread event) =>
    if event.threadId = threadId ∧
        (state.applyLiveEvent schemas (.thread event)).lastOutcome = some .applied then
      some event.seq
    else none
  | _ => none

/-- The sequence numbers of the events of the thread that a run applies, oldest first. -/
def appliedSeqs (schemas : EventSchemas Params Raw) (threadId : String) :
    TimelineState → List (Action Params Raw) → List ℕ
  | _, [] => []
  | state, action :: actions =>
    (appliedSeq schemas threadId state action).toList ++
      appliedSeqs schemas threadId (state.after schemas action) actions

/-- The call installs a snapshot of the thread or resets the projection. -/
def Restarts (schemas : EventSchemas Params Raw) (threadId : String) (state : TimelineState) :
    Action Params Raw → Prop
  | .runtimeStatus status _ => state.Clears status
  | .snapshot snapshot => snapshot.thread.threadId = threadId ∧
      (state.applySnapshot schemas snapshot).lastOutcome = some .applied
  | .event _ => False

/-- A call that does not restart the thread. -/
def Undisturbed (schemas : EventSchemas Params Raw) (threadId : String) (state : TimelineState)
    (action : Action Params Raw) (next : TimelineState) : Prop :=
  Step schemas state action next ∧ ¬ Restarts schemas threadId state action

lemma eq_foldl_of_run (h : Run (Undisturbed schemas threadId) state actions final) :
    final = actions.foldl (after schemas) state := by
  induction h with
  | nil => rfl
  | snoc _ hstep ih =>
    rw [List.foldl_append, ← ih]
    exact hstep.1

lemma run_of_events (events : List (JaEvent Params)) :
    Run (Undisturbed schemas threadId) state (events.map .event)
      ((events.map .event).foldl (after schemas) state) := by
  induction events using List.reverseRecOn with
  | nil => exact .nil
  | append_singleton events event ih =>
    rw [List.map_append, List.foldl_append]
    exact ih.snoc ⟨rfl, id⟩

lemma run_foldl (schemas : EventSchemas Params Raw) (state : TimelineState)
    (actions : List (Action Params Raw)) :
    Run (Step schemas) state actions (actions.foldl (after schemas) state) := by
  induction actions using List.reverseRecOn with
  | nil => exact .nil
  | append_singleton actions action ih =>
    rw [List.foldl_append]
    exact ih.snoc rfl

lemma appliedSeqs_concat (state : TimelineState) (actions : List (Action Params Raw))
    (action : Action Params Raw) :
    appliedSeqs schemas threadId state (actions ++ [action]) =
      appliedSeqs schemas threadId state actions ++
        (appliedSeq schemas threadId (actions.foldl (after schemas) state) action).toList := by
  induction actions generalizing state with
  | nil => simp [appliedSeqs]
  | cons first actions ih =>
    simp only [List.cons_append, appliedSeqs, ih, List.foldl_cons, List.append_assoc]

/-- The call leaves the cursor and the mark of the thread, or applies its next event. -/
inductive CursorStep (threadId : String) (state next : TimelineState) : Option ℕ → Prop
  | kept (hcursor : next.lastSeqByThread.lookup threadId = state.lastSeqByThread.lookup threadId)
      (hmark : (state.resyncRequired.lookup threadId).isSome →
        (next.resyncRequired.lookup threadId).isSome) : CursorStep threadId state next none
  | applied (hunmarked : state.resyncRequired.lookup threadId = none)
      (hcursor : next.lastSeqByThread.lookup threadId =
        some ((state.lastSeqByThread.lookup threadId).getD 0 + 1)) :
      CursorStep threadId state next (some ((state.lastSeqByThread.lookup threadId).getD 0 + 1))

lemma Refused.cursorStep (h : Refused state next) : CursorStep threadId state next none := by
  obtain ⟨result, -, rfl | ⟨key, reason, rfl⟩⟩ := h
  · exact .kept rfl id
  · exact .kept rfl fun hmark => lookup_isSome_insert hmark

lemma cursorStep_thread :
    CursorStep threadId state (state.applyLiveEvent schemas (.thread event))
      (appliedSeq schemas threadId state (.event (.thread event))) := by
  rcases applyLiveEvent_thread_cases schemas state event with hrefused | happlied
  · simp only [appliedSeq, hrefused.lastOutcome_ne, and_false, if_false]
    exact hrefused.cursorStep
  · by_cases hthread : event.threadId = threadId
    · subst hthread
      simp only [appliedSeq, happlied.outcome, and_self, if_true]
      rw [happlied.nextSeq]
      exact .applied happlied.unmarked (happlied.nextSeq ▸ happlied.cursor)
    · -- an event of another thread moves neither the cursor nor the mark
      simp only [appliedSeq, hthread, false_and, if_false]
      refine .kept (happlied.otherCursors threadId (Ne.symm hthread)) fun hmark => ?_
      rw [happlied.marks]
      exact hmark

lemma cursorStep_runtime {event : RuntimeEvent Params} :
    CursorStep threadId state (state.applyLiveEvent schemas (.runtime event)) none := by
  rcases applyLiveEvent_runtime schemas state event with hrefused | happlied
  · exact hrefused.cursorStep
  · refine .kept (by rw [happlied.lastSeqByThread]) fun hmark => ?_
    rw [happlied.resyncRequired]
    exact hmark

variable {snapshot : ThreadReadResult Raw}

lemma installSnapshot_lastSeqByThread (h : Accepts schemas state snapshot) :
    (state.installSnapshot snapshot).lastSeqByThread =
      state.lastSeqByThread.insert snapshot.thread.threadId snapshot.snapshotSeq := by
  rw [installSnapshot, if_neg (not_foreign_iff.mpr h.sameInstance)]
  rfl

lemma installSnapshot_resyncRequired (h : Accepts schemas state snapshot) :
    (state.installSnapshot snapshot).resyncRequired =
      state.resyncRequired.filter fun key _ => key != snapshot.thread.threadId := by
  rw [installSnapshot, if_neg (not_foreign_iff.mpr h.sameInstance)]
  rfl

lemma cursorStep_snapshot (hother : ¬ Restarts schemas threadId state (.snapshot snapshot)) :
    CursorStep threadId state (state.applySnapshot schemas snapshot) none := by
  rcases applySnapshot_cases schemas state snapshot with hrefused | ⟨haccepts, heq⟩
  · exact hrefused.cursorStep
  · -- an installed snapshot is one of another thread
    have hne : snapshot.thread.threadId ≠ threadId := by
      intro hthread
      refine hother ⟨hthread, ?_⟩
      rw [heq]
      rfl
    rw [heq]
    refine .kept ?_ fun hmark => ?_
    · rw [installSnapshot_lastSeqByThread haccepts, AList.lookup_insert_ne hne.symm]
    · rw [installSnapshot_resyncRequired haccepts, Record.lookup_filter]
      obtain ⟨reason, hreason⟩ := Option.isSome_iff_exists.mp hmark
      simp [hreason, hne.symm]

lemma cursorStep_runtimeStatus {status : HostRuntimeStatus} {now : String}
    (hclears : ¬ state.Clears status) :
    CursorStep threadId state (state.applyRuntimeStatus status now) none := by
  rcases applyRuntimeStatus_cases state status now with ⟨-, hrefused⟩ | ⟨hcleared, -⟩ |
    ⟨-, serverInstanceId, runtime, heq⟩
  · exact hrefused.cursorStep
  · exact absurd hcleared hclears
  · rw [heq]
    exact .kept rfl id

lemma cursorStep_of_undisturbed (h : Undisturbed schemas threadId state action next) :
    CursorStep threadId state next (appliedSeq schemas threadId state action) := by
  obtain ⟨rfl, hrestarts⟩ := h
  cases action with
  | runtimeStatus status now => exact cursorStep_runtimeStatus hrestarts
  | snapshot snapshot => exact cursorStep_snapshot hrestarts
  | event event =>
    cases event with
    | thread event => exact cursorStep_thread
    | runtime event => exact cursorStep_runtime

lemma appliedSeqs_of_run {seq : ℕ} (h : Run (Undisturbed schemas threadId) state actions final)
    (hseq : state.lastSeqByThread.lookup threadId = some seq) :
    ∃ n, appliedSeqs schemas threadId state actions = List.range' (seq + 1) n ∧
      final.lastSeqByThread.lookup threadId = some (seq + n) := by
  induction h with
  | nil => exact ⟨0, rfl, hseq⟩
  | @snoc actions before action after hrun hstep ih =>
    obtain ⟨n, hseqs, hcursor⟩ := ih
    rw [appliedSeqs_concat, ← eq_foldl_of_run hrun, hseqs]
    have hcase := cursorStep_of_undisturbed hstep
    generalize appliedSeq schemas threadId before action = applied at hcase
    cases hcase with
    | kept hkept hmark => exact ⟨n, by simp, hkept.trans hcursor⟩
    | applied hunmarked hnext =>
      -- the event continues the range by one
      rw [hcursor, Option.getD_some] at hnext ⊢
      refine ⟨n + 1, ?_, hnext⟩
      rw [Option.toList_some, List.range'_concat]
      congr 2
      omega

/-- A marked thread stays marked in an undisturbed run, and none of its events is applied. -/
lemma appliedSeqs_of_marked (h : Run (Undisturbed schemas threadId) state actions final)
    (hmark : (state.resyncRequired.lookup threadId).isSome) :
    appliedSeqs schemas threadId state actions = [] ∧
      (final.resyncRequired.lookup threadId).isSome := by
  induction h with
  | nil => exact ⟨rfl, hmark⟩
  | @snoc actions before action after hrun hstep ih =>
    obtain ⟨hseqs, hstill⟩ := ih
    rw [appliedSeqs_concat, ← eq_foldl_of_run hrun, hseqs, List.nil_append]
    have hcase := cursorStep_of_undisturbed hstep
    generalize appliedSeq schemas threadId before action = applied at hcase
    cases hcase with
    | kept hkept hmarked => exact ⟨rfl, hmarked hstill⟩
    | applied hunmarked hnext =>
      rw [hunmarked] at hstill
      exact absurd hstill (by decide)

/-- **Sequence contiguity.**  In every state, an event that is applied is the next one of an
unmarked thread of the installed sidecar, and it moves the cursor of its thread only.  After a
snapshot of a thread, what a run applies to the thread up to its next snapshot or a reset is
numbered from the snapshot on without a gap. -/
theorem sequence_contiguity (schemas : EventSchemas Params Raw) (state : TimelineState) :
    (∀ event : ThreadEvent Params,
      (state.applyLiveEvent schemas (.thread event)).lastOutcome = some .applied →
        AppliedNext state event (state.applyLiveEvent schemas (.thread event))) ∧
    ∀ snapshot : ThreadReadResult Raw,
      (state.applySnapshot schemas snapshot).lastOutcome = some .applied →
        ∀ actions final,
          Run (Undisturbed schemas snapshot.thread.threadId)
              (state.applySnapshot schemas snapshot) actions final →
            ∃ n, appliedSeqs schemas snapshot.thread.threadId
                (state.applySnapshot schemas snapshot) actions =
                List.range' (snapshot.snapshotSeq + 1) n ∧
              final.lastSeqByThread.lookup snapshot.thread.threadId =
                some (snapshot.snapshotSeq + n) := by
  refine ⟨fun event happlied => ?_, fun snapshot happlied actions final hrun => ?_⟩
  · rcases applyLiveEvent_thread_cases schemas state event with hrefused | hnext
    · exact absurd happlied hrefused.lastOutcome_ne
    · exact hnext
  · refine appliedSeqs_of_run hrun ?_
    rcases applySnapshot_cases schemas state snapshot with hrefused | ⟨haccepts, heq⟩
    · exact absurd happlied hrefused.lastOutcome_ne
    · rw [heq, installSnapshot_lastSeqByThread haccepts, AList.lookup_insert]

/-- A sidecar that is ready. -/
def readyStatus : HostRuntimeStatus where
  status := .ready
  generation := 1
  serverInstanceId := some "srv_a"
  eventId := none
  occurredAt := none
  reason := none

/-- The state when the sidecar has become ready. -/
def readyState : TimelineState := createTimelineState.applyRuntimeStatus readyStatus ""

/-- A snapshot of a thread. -/
def sampleSnapshot (threadId : String) (seq : ℕ) (items : List Item) :
    ThreadReadResult (JaEvent ProjectedParams) where
  serverInstanceId := "srv_a"
  thread := ⟨threadId, "ws_a", [], .idle, seq, none⟩
  items := items
  snapshotSeq := seq
  events := none
  nextSeq := none

/-- An event of a thread. -/
def sampleEvent (method : ThreadEventMethod) (threadId : String) (seq : ℕ) (eventId : String)
    (params : ProjectedParams) : ThreadEvent ProjectedParams where
  method := method
  serverInstanceId := "srv_a"
  threadId := threadId
  seq := seq
  eventId := eventId
  occurredAt := "2026-01-01T00:00:00Z"
  params := params

/-- A turn that runs. -/
def sampleTurn (turnId threadId : String) : Turn :=
  ⟨turnId, threadId, .running, .workspace, none, none, none⟩

/-- An event that starts a turn. -/
def turnStarted (threadId : String) (seq : ℕ) (eventId : String) : ThreadEvent ProjectedParams :=
  sampleEvent .turnStarted threadId seq eventId (.turn (sampleTurn "turn_a" threadId) none)

/-- A thread at its snapshot. -/
def resumedState : TimelineState :=
  readyState.applySnapshot projectedSchemas (sampleSnapshot "thr_a" 5 [])

/-- An event that is delivered twice. -/
def deliveredTwice : List (Action ProjectedParams (JaEvent ProjectedParams)) :=
  [.thread (turnStarted "thr_a" 6 "evt_6"), .thread (turnStarted "thr_a" 6 "evt_6")].map .event

theorem sequence_contiguity_resumed :
    AppliedNext resumedState (turnStarted "thr_a" 6 "evt_6")
      (resumedState.applyLiveEvent projectedSchemas (.thread (turnStarted "thr_a" 6 "evt_6"))) ∧
    ∃ n, appliedSeqs projectedSchemas "thr_a" resumedState deliveredTwice = List.range' 6 n ∧
      (deliveredTwice.foldl (after projectedSchemas) resumedState).lastSeqByThread.lookup "thr_a" =
        some (5 + n) :=
  ⟨(sequence_contiguity projectedSchemas resumedState).1 _ (by decide +kernel),
    (sequence_contiguity projectedSchemas readyState).2 (sampleSnapshot "thr_a" 5 [])
      (by decide +kernel) deliveredTwice _ (run_of_events _)⟩

/-! ## Refused input -/

/-- The result equals the previous state but for the outcome and one entry of the marks at most. -/
def SameButMark (state next : TimelineState) : Prop :=
  ∃ lastOutcome, next = { state with lastOutcome := lastOutcome } ∨
    ∃ key reason, next = { state with
      resyncRequired := state.resyncRequired.insert key reason
      lastOutcome := lastOutcome }

lemma Refused.sameButMark (h : Refused state next) : SameButMark state next := by
  obtain ⟨result, -, heq⟩ := h
  exact ⟨some result, heq⟩

lemma applySnapshot_sameButMark
    (h : (state.applySnapshot schemas snapshot).lastOutcome ≠ some .applied) :
    SameButMark state (state.applySnapshot schemas snapshot) := by
  rcases applySnapshot_cases schemas state snapshot with hrefused | ⟨-, heq⟩
  · exact hrefused.sameButMark
  · rw [heq] at h
    exact absurd rfl h

lemma applyLiveEvent_sameButMark {event : JaEvent Params}
    (h : (state.applyLiveEvent schemas event).lastOutcome ≠ some .applied) :
    SameButMark state (state.applyLiveEvent schemas event) := by
  cases event with
  | thread event =>
    rcases applyLiveEvent_thread_cases schemas state event with hrefused | hnext
    · exact hrefused.sameButMark
    · exact absurd hnext.outcome h
  | runtime event =>
    rcases applyLiveEvent_runtime schemas state event with hrefused | hnext
    · exact hrefused.sameButMark
    · exact absurd hnext.outcome h

/-- **Rejected input is atomic and sticky.**  A snapshot or an event that is not applied changes
nothing but the outcome and one mark; and of a marked thread nothing is applied in a run that
neither installs a snapshot of the thread nor clears the projection. -/
theorem refused_input (schemas : EventSchemas Params Raw) (state : TimelineState) :
    (∀ snapshot, (state.applySnapshot schemas snapshot).lastOutcome ≠ some .applied →
      SameButMark state (state.applySnapshot schemas snapshot)) ∧
    (∀ event, (state.applyLiveEvent schemas event).lastOutcome ≠ some .applied →
      SameButMark state (state.applyLiveEvent schemas event)) ∧
    ∀ threadId, (state.resyncRequired.lookup threadId).isSome → ∀ actions final,
      Run (Undisturbed schemas threadId) state actions final →
        appliedSeqs schemas threadId state actions = [] ∧
          (final.resyncRequired.lookup threadId).isSome :=
  ⟨fun _ => applySnapshot_sameButMark, fun _ => applyLiveEvent_sameButMark,
    fun _ hmark _ _ hrun => appliedSeqs_of_marked hrun hmark⟩

/-- A thread that waits for its snapshot behind a gap. -/
def gappedState : TimelineState :=
  resumedState.applyLiveEvent projectedSchemas (.thread (turnStarted "thr_a" 8 "evt_8"))

theorem refused_input_gap :
    SameButMark gappedState
      (gappedState.applySnapshot projectedSchemas
        { sampleSnapshot "thr_a" 9 [] with serverInstanceId := "srv_b" }) ∧
    SameButMark resumedState gappedState ∧
    appliedSeqs projectedSchemas "thr_a" gappedState deliveredTwice = [] ∧
      ((deliveredTwice.foldl (after projectedSchemas) gappedState).resyncRequired.lookup
        "thr_a").isSome :=
  ⟨(refused_input projectedSchemas gappedState).1 _ (by decide +kernel),
    (refused_input projectedSchemas resumedState).2.1 _ (by decide +kernel),
    (refused_input projectedSchemas gappedState).2.2 _ (by decide +kernel) deliveredTwice _
      (run_of_events _)⟩

end JaDesktop.Ui.TimelineState
