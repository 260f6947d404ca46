import JaDesktop.Ui.TimelineSequence

/-!
# The actions of the timeline store

The store of the interface wraps the reducer: an action parses what it is given, runs the reducer
on the state of the store, and tells its caller an outcome.  The state that the reducer leaves
behind records an outcome of its own.  Every action but one hands the recorded outcome on; the
action for snapshots answers before it has looked at the state, and so the two agree exactly where
the guards of the reducer let the snapshot through.
-/

namespace JaDesktop.Ui

variable {Value Params Raw : Type}

/-- The event is one that only the runtime host may report. -/
def JaEvent.isStatusChanged : JaEvent Params → Bool
  | .thread _ => false
  | .runtime event => event.method == .statusChanged

variable (Params) in
inductive RuntimeHostEvent
  | status (status : HostRuntimeStatus)
  | timeline (event : JaEvent Params)

variable (Value Params Raw) in
/-- The parsers of the store: `ThreadReadResultSchema.safeParse` and `parseEvent`, `none` where
they fail or throw. -/
structure StoreParsers where
  threadReadResult : Value → Option (ThreadReadResult Raw)
  event : Value → Option (JaEvent Params)

variable (Value Params) in
/-- A call of the store; `now` is the time that the reducer reads. -/
inductive StoreCall
  | applySnapshot (value : Value)
  | applyEvent (value : Value)
  | applyHostEvent (event : RuntimeHostEvent Params) (now : String)
  | applyRuntimeStatus (status : HostRuntimeStatus) (now : String)

/-- The answer to the caller, and the state of the store after the call. -/
structure StoreResult where
  outcome : Option ApplyOutcome
  state : TimelineState

namespace StoreResult

/-- The outcome that the state records is handed on. -/
def recorded (next : TimelineState) : StoreResult := ⟨next.lastOutcome, next⟩

/-- The input did not parse. -/
def invalid (state : TimelineState) : StoreResult := ⟨some .invalid, state.outcome .invalid⟩

end StoreResult

/-! ## The actions -/

namespace TimelineStore

variable (schemas : EventSchemas Params Raw) (parsers : StoreParsers Value Params Raw)

/-- `applySnapshot` of the store. -/
def applySnapshot (state : TimelineState) (value : Value) : StoreResult :=
  match parsers.threadReadResult value with
  | none => .invalid state
  | some snapshot => ⟨some .applied, state.applySnapshot schemas snapshot⟩

/-- `applyEvent` of the store. -/
def applyEvent (state : TimelineState) (value : Value) : StoreResult :=
  match parsers.event value with
  | none => .invalid state
  | some event =>
    .recorded <|
      -- a status without the projection of its generation must not reach the timeline
      if event.isStatusChanged then state.outcome .rejected
      else state.applyLiveEvent schemas event

/-- `applyHostEvent` of the store. -/
def applyHostEvent (state : TimelineState) (event : RuntimeHostEvent Params) (now : String) :
    StoreResult :=
  .recorded <|
    match event with
    | .status status => state.applyRuntimeStatus status now
    | .timeline event => state.applyLiveEvent schemas event

/-- `applyRuntimeStatus` of the store. -/
def applyRuntimeStatus (state : TimelineState) (status : HostRuntimeStatus) (now : String) :
    StoreResult :=
  .recorded (state.applyRuntimeStatus status now)

/-- What a call answers and leaves behind. -/
def call (state : TimelineState) : StoreCall Value Params → StoreResult
  | .applySnapshot value => applySnapshot schemas parsers state value
  | .applyEvent value => applyEvent schemas parsers state value
  | .applyHostEvent event now => applyHostEvent schemas state event now
  | .applyRuntimeStatus status now => applyRuntimeStatus state status now

/-! ## Truthful answers -/

variable {schemas parsers} {state : TimelineState}

/-- The call is one for a snapshot, which parses. -/
def Reads (parsers : StoreParsers Value Params Raw) (input : StoreCall Value Params)
    (snapshot : ThreadReadResult Raw) : Prop :=
  ∃ value, input = .applySnapshot value ∧ parsers.threadReadResult value = some snapshot

/-- The thread of the snapshot is where the snapshot says, and nothing asks for another one. -/
def AtSnapshot (snapshot : ThreadReadResult Raw) (state : TimelineState) : Prop :=
  state.resyncRequired.lookup snapshot.thread.threadId = none ∧
    state.lastSeqByThread.lookup snapshot.thread.threadId = some snapshot.snapshotSeq

/-- The answer is the outcome that the state records, and a snapshot that the caller is told was
applied is in the state. -/
def Truthful (parsers : StoreParsers Value Params Raw) (input : StoreCall Value Params)
    (result : StoreResult) : Prop :=
  result.outcome = result.state.lastOutcome ∧
    ∀ snapshot, Reads parsers input snapshot → result.outcome = some .applied →
      AtSnapshot snapshot result.state

lemma truthful_recorded {input : StoreCall Value Params} {next : TimelineState}
    (h : ∀ snapshot, ¬ Reads parsers input snapshot) :
    Truthful parsers input (.recorded next) :=
  ⟨rfl, fun snapshot hreads => absurd hreads (h snapshot)⟩

lemma truthful_invalid {input : StoreCall Value Params}
    (h : ∀ snapshot, ¬ Reads parsers input snapshot) :
    Truthful parsers input (.invalid state) :=
  ⟨rfl, fun snapshot hreads => absurd hreads (h snapshot)⟩

lemma atSnapshot_of_accepts {snapshot : ThreadReadResult Raw}
    (h : TimelineState.Accepts schemas state snapshot) :
    AtSnapshot snapshot (state.applySnapshot schemas snapshot) := by
  rw [TimelineState.applySnapshot_of_accepts h]
  refine ⟨?_, ?_⟩
  · rw [TimelineState.installSnapshot_resyncRequired h, Record.lookup_filter]
    simp
  · rw [TimelineState.installSnapshot_lastSeqByThread h, AList.lookup_insert]

/-- The reducer records that it applied a snapshot exactly when its guards let it through. -/
lemma lastOutcome_applySnapshot_iff {snapshot : ThreadReadResult Raw} :
    (state.applySnapshot schemas snapshot).lastOutcome = some .applied ↔
      TimelineState.Accepts schemas state snapshot := by
  constructor
  · intro happlied
    rcases TimelineState.applySnapshot_cases schemas state snapshot with hrefused | ⟨haccepts, -⟩
    · exact absurd happlied hrefused.lastOutcome_ne
    · exact haccepts
  · intro haccepts
    rw [TimelineState.applySnapshot_of_accepts haccepts]
    rfl

/-- The call for a snapshot tells the truth when the value does not parse, or when it parses and
the reducer accepts it. -/
lemma truthful_applySnapshot_iff {value : Value} :
    Truthful parsers (.applySnapshot value) (applySnapshot schemas parsers state value) ↔
      ∀ snapshot, parsers.threadReadResult value = some snapshot →
        TimelineState.Accepts schemas state snapshot := by
  cases hparsed : parsers.threadReadResult value with
  | none =>
    have hnever : ∀ snapshot, ¬ Reads parsers (.applySnapshot value : StoreCall Value Params)
        snapshot := by
      rintro snapshot ⟨other, heq, hsome⟩
      obtain rfl := StoreCall.applySnapshot.inj heq
      rw [hparsed] at hsome
      cases hsome
    simp only [applySnapshot, hparsed]
    refine iff_of_true (truthful_invalid hnever) fun snapshot hsome => ?_
    cases hsome
  | some parsed =>
    simp only [applySnapshot, hparsed]
    constructor
    · rintro ⟨hrecorded, -⟩ snapshot hsnapshot
      obtain rfl := Option.some.inj hsnapshot
      exact lastOutcome_applySnapshot_iff.mp hrecorded.symm
    · intro haccepts
      refine ⟨(lastOutcome_applySnapshot_iff.mpr (haccepts parsed rfl)).symm, ?_⟩
      rintro snapshot ⟨other, heq, hsome⟩ -
      obtain rfl := StoreCall.applySnapshot.inj heq
      obtain rfl := Option.some.inj (hparsed.symm.trans hsome)
      exact atSnapshot_of_accepts (haccepts parsed rfl)

/-- **Truthful answers.**  In every state, the store tells its caller what the state records, and
keeps its promise about a snapshot, exactly when the call is not one for a snapshot that parses and
that a guard of the reducer turns away: the handshake with the sidecar, the instance of the
sidecar, the structure of the snapshot, its events, or the size of a text. -/
theorem truthful_iff (schemas : EventSchemas Params Raw) (parsers : StoreParsers Value Params Raw)
    (state : TimelineState) (input : StoreCall Value Params) :
    Truthful parsers input (call schemas parsers state input) ↔
      ∀ snapshot, Reads parsers input snapshot → TimelineState.Accepts schemas state snapshot := by
  cases input with
  | applySnapshot value =>
    rw [call, truthful_applySnapshot_iff]
    constructor
    · rintro haccepts snapshot ⟨other, heq, hsome⟩
      obtain rfl := StoreCall.applySnapshot.inj heq
      exact haccepts snapshot hsome
    · intro haccepts snapshot hsome
      exact haccepts snapshot ⟨value, rfl, hsome⟩
  | applyEvent value =>
    have hnever : ∀ snapshot, ¬ Reads parsers (.applyEvent value : StoreCall Value Params)
        snapshot := by
      rintro snapshot ⟨other, heq, -⟩
      cases heq
    refine iff_of_true ?_ fun snapshot hreads => absurd hreads (hnever snapshot)
    cases hparsed : parsers.event value with
    | none =>
      simp only [call, applyEvent, hparsed]
      exact truthful_invalid hnever
    | some event =>
      simp only [call, applyEvent, hparsed]
      exact truthful_recorded hnever
  | applyHostEvent event now =>
    have hnever : ∀ snapshot, ¬ Reads parsers (.applyHostEvent event now : StoreCall Value Params)
        snapshot := by
      rintro snapshot ⟨other, heq, -⟩
      cases heq
    exact iff_of_true (truthful_recorded hnever) fun snapshot hreads => absurd hreads
      (hnever snapshot)
  | applyRuntimeStatus status now =>
    have hnever : ∀ snapshot, ¬ Reads parsers
        (.applyRuntimeStatus status now : StoreCall Value Params) snapshot := by
      rintro snapshot ⟨other, heq, -⟩
      cases heq
    exact iff_of_true (truthful_recorded hnever) fun snapshot hreads => absurd hreads
      (hnever snapshot)

/-- Values that are parsed already. -/
def parsedValues : StoreParsers (ThreadReadResult (JaEvent ProjectedParams)) ProjectedParams
    (JaEvent ProjectedParams) where
  threadReadResult := some
  event := fun _ => none

/-- A snapshot that arrives before the sidecar is ready is turned away, and its caller is told that
it was applied. -/
theorem truthful_disconnected :
    ¬ Truthful parsedValues (.applySnapshot (TimelineState.sampleSnapshot "thr_a" 5 []))
        (call projectedSchemas parsedValues createTimelineState
          (.applySnapshot (TimelineState.sampleSnapshot "thr_a" 5 []))) := by
  rintro ⟨hrecorded, -⟩
  revert hrecorded
  decide +kernel

end TimelineStore

end JaDesktop.Ui
