import JaDesktop.Connection.LifecycleQueue

/-!
# Results of the lifecycle

The result of a lifecycle call is committed only while its operation is the newest one, and every
kind of call makes a newest operation.  `lifecycle_kept` says what a lifecycle call achieves in the
runs where no other operation is queued before it has gone on.
-/

namespace JaDesktop.Connection

variable {log outputs : List Output} {epoch : ℕ} {operations : Operations}
  {lifecycleEpoch intent : ℕ}

/-! ## The boot state and the gate -/

/-- The runtime is on its way to another status. -/
def RuntimeStatus.isChanging (status : RuntimeStatus) : Bool :=
  status.status = .starting ∨ status.status = .stopping

lemma isChanging_of_bootForStatus {status : RuntimeStatus}
    (h : Provider.bootForStatus status = .connecting) : status.isChanging = true := by
  cases hkind : status.status <;>
    simp [Provider.bootForStatus, RuntimeStatus.isChanging, hkind] at h ⊢

/-- The boot state connects while the lifecycle is waited for, or the runtime is changing. -/
def Connects (boot : BootState) (runtimeState : Option RuntimeStatus) (operations : Operations)
    (log : List Output) : Prop :=
  boot = .connecting → Waiting operations log ∨
    ∃ status, runtimeState = some status ∧ status.isChanging = true

/-- A start that was called last and has resolved ready has opened the gate, if every status since
it has settled keeps its generation able to take turns. -/
def Opens (log : List Output) (gate : Option TurnAdmissionGate)
    (runtimeState : Option RuntimeStatus) (lifecycleEpoch : ℕ) : Prop :=
  ∀ input epoch input' status, lastCall log = some (.configureAndStart input, some epoch) →
    .resolved (.configureAndStart input') epoch (.status status) ∈ log →
    status.status = .ready → 0 < status.generation →
    (∀ o ∈ sinceSettled epoch log, o.serves status.generation = true) →
      gate = some ⟨lifecycleEpoch, status.generation⟩ ∧
        runtimeState.map RuntimeStatus.generation = some status.generation

variable {gate gate' : Option TurnAdmissionGate} {runtimeState runtimeState' : Option RuntimeStatus}

lemma answered_of_resolved {input : RuntimeConfigureInput} {result : NativeResult}
    (h : .resolved (.configureAndStart input) epoch result ∈ log) : Answered log epoch :=
  ⟨_, h, by simp [Output.answers, Call.isLifecycle]⟩

lemma not_beside_resolved {input : RuntimeConfigureInput} {result : NativeResult} :
    ¬ (Output.resolved (.configureAndStart input) epoch result).beside :=
  fun h => by simpa [Output.answers, Call.isLifecycle] using h.2 epoch

lemma Opens.extend (h : Opens log gate runtimeState lifecycleEpoch)
    (htracked : Tracked operations log lifecycleEpoch intent)
    (hcalls : ∀ o ∈ outputs, o.lifecycleCall = none)
    (hresolved : ∀ input e input' status, lastCall log = some (.configureAndStart input, some e) →
      .resolved (.configureAndStart input') e (.status status) ∈ outputs → status.status = .ready →
        0 < status.generation →
          ∃ known, .resolved (.configureAndStart known) e (.status status) ∈ log)
    (hgate : ∀ generation, (∀ o ∈ outputs, o.serves generation = true) →
      gate = some ⟨lifecycleEpoch, generation⟩ →
      runtimeState.map RuntimeStatus.generation = some generation →
        gate' = some ⟨lifecycleEpoch, generation⟩ ∧
          runtimeState'.map RuntimeStatus.generation = some generation) :
    Opens (log ++ outputs) gate' runtimeState' lifecycleEpoch := by
  intro input e input' status hlast hmem hready hpos hserves
  rw [lastCall_append hcalls] at hlast
  obtain ⟨known, hold⟩ : ∃ known, .resolved (.configureAndStart known) e (.status status) ∈ log := by
    rcases List.mem_append.mp hmem with hold | hnew
    · exact ⟨input', hold⟩
    · exact hresolved input e input' status hlast hnew hready hpos
  have hmarked := (htracked.older e (answered_of_resolved hold)).2.2
  rw [sinceSettled_append hmarked] at hserves
  obtain ⟨hopen, hgeneration⟩ := h input e known status hlast hold hready hpos
    fun o ho => hserves o (List.mem_append_left _ ho)
  exact hgate _ (fun o ho => hserves o (List.mem_append_right _ ho)) hopen hgeneration

lemma Opens.of_call {call : Call} {waits : Option ℕ} (hcall : call.isLifecycle = true)
    (hwaits : ∀ e, waits = some e → ¬ Answered log e)
    (hnone : ∀ o ∈ outputs, o.lifecycleCall = none ∧ ∀ e, o.answers e = false) :
    Opens (log ++ (.called call waits :: outputs)) gate runtimeState lifecycleEpoch := by
  intro input e input' status hlast hmem
  have hlast' : lastCall (log ++ [.called call waits]) =
      some (.configureAndStart input, some e) := by
    rw [List.append_cons, lastCall_append fun o ho => (hnone o ho).1] at hlast
    exact hlast
  have hwaits' : waits = some e := by
    have hboth : call = .configureAndStart input ∧ waits = some e := by
      simpa [lastCall, Output.lifecycleCall, hcall] using hlast'
    exact hboth.2
  refine absurd ?_ (hwaits e hwaits')
  rcases List.mem_append.mp hmem with hold | hnew
  · exact answered_of_resolved hold
  · rcases List.mem_cons.mp hnew with hfirst | hrest
    · cases hfirst
    · have hno := (hnone _ hrest).2 e
      simp [Output.answers, Call.isLifecycle] at hno

namespace Provider

variable {s : Provider} {adapter : RuntimeHostAdapter}

/-- **What holds of a mounted provider whose lifecycle is undisturbed.** -/
structure Kept (s : Provider) : Prop where
  tracked : Tracked s.operations s.log s.lifecycleEpoch s.configurationIntent
  connects : Connects s.boot s.runtimeState s.operations s.log
  opens : Opens s.log s.turnGate s.runtimeState s.lifecycleEpoch

variable {s' : Provider} {status : RuntimeStatus}

lemma Kept.beside (h : Kept s) (hoperations : s'.operations = s.operations)
    (hlog : s'.log = s.log ++ outputs) (hlifecycle : s'.lifecycleEpoch = s.lifecycleEpoch)
    (hintent : s'.configurationIntent = s.configurationIntent) (hbeside : ∀ o ∈ outputs, o.beside)
    (hboot : s'.boot = .connecting → s.boot = .connecting ∧ s'.runtimeState = s.runtimeState ∨
      ∃ status, s'.runtimeState = some status ∧ status.isChanging = true)
    (hgate : ∀ generation, (∀ o ∈ outputs, o.serves generation = true) →
      s.turnGate = some ⟨s.lifecycleEpoch, generation⟩ →
      s.runtimeState.map RuntimeStatus.generation = some generation →
        s'.turnGate = some ⟨s.lifecycleEpoch, generation⟩ ∧
          s'.runtimeState.map RuntimeStatus.generation = some generation) : Kept s' := by
  constructor
  · rw [hoperations, hlog, hlifecycle, hintent]
    exact h.tracked.beside hbeside
  · intro hconnecting
    rw [hoperations, hlog]
    rcases hboot hconnecting with ⟨hwas, hstate⟩ | hchanging
    · rw [hstate]
      rcases h.connects hwas with hwaiting | hchanging
      · exact Or.inl (hwaiting.append fun o ho => (hbeside o ho).2 _)
      · exact Or.inr hchanging
    · exact Or.inr hchanging
  · rw [hlog, hlifecycle]
    exact h.opens.extend h.tracked (fun o ho => (hbeside o ho).1)
      (fun _ _ _ _ _ hmem => absurd (hbeside _ hmem) not_beside_resolved) hgate

lemma Kept.emit (h : Kept s) {output : Output} (hbeside : output.beside) :
    Kept (s.emit output) := by
  have hlog : (s.emit output).log = s.log ++ [output] := rfl
  exact h.beside rfl hlog rfl rfl (by simpa using hbeside) (fun hwas => Or.inl ⟨hwas, rfl⟩)
    fun _ _ hopen hstate => ⟨hopen, hstate⟩

/-- A status is taken: the gate stays open for a status that serves its generation. -/
lemma commitStatus_gate (status : RuntimeStatus) {generation : ℕ}
    (hcurrent : s.isCurrentOperation epoch lifecycleEpoch = true)
    (hopen : s.turnGate = some ⟨s.lifecycleEpoch, generation⟩)
    (hserves : (Output.took status).serves generation = true) :
    (s.commitStatus status epoch lifecycleEpoch).turnGate = some ⟨s.lifecycleEpoch, generation⟩ ∧
      (s.commitStatus status epoch lifecycleEpoch).runtimeState.map RuntimeStatus.generation =
        some generation := by
  obtain ⟨hstatus, hgeneration⟩ : status.status.serves = true ∧ status.generation = generation := by
    simpa [Output.serves] using hserves
  have hboth : s.operations.epoch = epoch ∧ s.lifecycleEpoch = lifecycleEpoch :=
    of_decide_eq_true hcurrent
  have hkept : (s.turnGate.any fun gate => gate.lifecycleEpoch ≠ lifecycleEpoch ∨
      gate.generation ≠ status.generation ∨ status.status.serves = false) = false := by
    rw [hopen]
    simp [hboth.2, hgeneration, hstatus]
  unfold commitStatus
  rw [if_pos hcurrent, hkept]
  exact ⟨hopen, congrArg some hgeneration⟩

lemma commitStatus_stale (hstale : ¬ s.isCurrentOperation epoch lifecycleEpoch = true) :
    s.commitStatus status epoch lifecycleEpoch = s := if_neg hstale

lemma Kept.commitStatus (h : Kept s) (status : RuntimeStatus) (epoch lifecycleEpoch : ℕ) :
    Kept (s.commitStatus status epoch lifecycleEpoch) := by
  by_cases hcurrent : s.isCurrentOperation epoch lifecycleEpoch = true
  · obtain ⟨hoperations, hlog, hlifecycle, hstate, hboot, hintent⟩ :=
      commitStatus_current status hcurrent
    refine h.beside hoperations hlog hlifecycle hintent ?_ ?_ ?_
    · exact List.forall_mem_singleton.mpr ⟨rfl, fun _ => rfl⟩
    · rw [hboot, hstate]
      exact fun hconnecting => Or.inr ⟨status, rfl, isChanging_of_bootForStatus hconnecting⟩
    · exact fun _ hserves hopen _ => commitStatus_gate status hcurrent hopen (hserves _ (by simp))
  · rw [commitStatus_stale hcurrent]
    exact h

lemma Kept.failCurrent (h : Kept s) (epoch lifecycleEpoch : ℕ) {next : BootState}
    (hnext : next ≠ .connecting) : Kept (s.failCurrent epoch lifecycleEpoch next) := by
  unfold Provider.failCurrent
  split_ifs
  · exact ⟨h.tracked, fun hconnecting => absurd hconnecting hnext, h.opens⟩
  · exact h

lemma Kept.enqueueOperation (h : Kept s) (operation : Operation) {waiter : Waiter}
    (hfits : Fits s.lifecycleEpoch operation waiter) (hwaiter : waiter.isLifecycle = false)
    (hwaiting : s.operations.has operation.key = false → ¬ Waiting s.operations s.log) :
    Kept (s.enqueueOperation operation.key operation waiter) := by
  have hbeside : ∀ o ∈ queuedOutputs s.operations operation.key, o.beside := by
    intro o ho
    rw [eq_of_mem_queuedOutputs ho]
    exact ⟨rfl, fun _ => rfl⟩
  constructor
  · exact h.tracked.enqueue operation hfits hwaiter hwaiting
  · intro hconnecting
    rcases h.connects hconnecting with hwas | hchanging
    · by_cases hhas : s.operations.has operation.key = true
      · have hwas' := hwas.append fun o ho => (hbeside o ho).2 _
        refine Or.inl ⟨?_, ?_⟩
        · simp only [Provider.enqueueOperation, SerialQueue.enqueue, if_pos hhas]
          exact hwas.1.join
        · have hepoch : (s.enqueueOperation operation.key operation waiter).operations.epoch =
              s.operations.epoch := by
            rw [Provider.enqueueOperation, SerialQueue.epoch_enqueue, if_pos hhas]
          rw [hepoch]
          exact hwas'.2
      · exact absurd hwas (hwaiting (by simpa using hhas))
    · exact Or.inr hchanging
  · exact h.opens.extend h.tracked (fun o ho => (hbeside o ho).1)
      (fun _ _ _ _ _ hmem => absurd (hbeside _ hmem) not_beside_resolved)
      fun _ _ hopen hstate => ⟨hopen, hstate⟩

lemma Kept.call (h : Kept s) {call : Call} (hcall : call.isLifecycle = false)
    (operation : Operation) {waiter : Waiter} (hfits : Fits s.lifecycleEpoch operation waiter)
    (hwaiter : waiter.isLifecycle = false)
    (hwaiting : s.operations.has operation.key = false → ¬ Waiting s.operations s.log) :
    Kept (s.call call operation.key operation waiter) := by
  have hbeside : (Output.called call (some (s.operations.epochOf operation.key))).beside :=
    ⟨by simp [Output.lifecycleCall, hcall], fun _ => rfl⟩
  refine Kept.enqueueOperation (h.emit hbeside) operation hfits hwaiter fun hhas hwas => ?_
  refine hwaiting hhas ⟨hwas.1, fun hanswered => hwas.2 hanswered.append⟩

lemma Kept.refuse (h : Kept s) {call : Call} (hcall : call.isLifecycle = false)
    (error : RuntimeHostError) : Kept (s.refuse call error) := by
  have hbeside : (Output.called call none).beside :=
    ⟨by simp [Output.lifecycleCall, hcall], fun _ => rfl⟩
  exact (h.emit hbeside).emit ⟨rfl, fun _ => rfl⟩

/-! ## Actions -/

lemma Tracked.refused (h : Tracked operations log lifecycleEpoch intent) {call : Call}
    (hcall : call.isLifecycle = true) (error : RuntimeHostError) :
    Tracked operations (log ++ (.called call none :: [.rejected call none error])) lifecycleEpoch
      intent where
  __ := h
  older e hanswered := by
    rw [answered_append (by simp [Output.answers])] at hanswered
    obtain ⟨hle, hlt, hmarked⟩ := h.older e hanswered
    exact ⟨hle, hlt, List.mem_append_left _ hmarked⟩
  marked r hr := List.mem_append_left _ (h.marked r hr)
  last input e hlast := by
    rw [List.append_cons, lastCall_append (by simp [Output.lifecycleCall])] at hlast
    simp [lastCall, Output.lifecycleCall, hcall] at hlast
  answers r hr o ho hanswers := by
    rcases List.mem_append.mp ho with hold | hnew
    · exact h.answers r hr o hold hanswers
    · have hno : o.answers r.epoch = false := by
        rcases List.mem_cons.mp hnew with rfl | hrest
        · rfl
        · rw [List.mem_singleton.mp hrest]
          rfl
      rw [hno] at hanswers
      cases hanswers

lemma Kept.refuseLifecycle (h : Kept s) {call : Call} (hcall : call.isLifecycle = true)
    (error : RuntimeHostError) (next : BootState) (hnext : next = s.boot ∨ next ≠ .connecting) :
    Kept ((s.revokeTurnGate.updateBoot next).refuse call error) := by
  have hlog : ((s.revokeTurnGate.updateBoot next).refuse call error).log =
      s.log ++ (.called call none :: [.rejected call none error]) := by
    rw [List.append_cons]
    rfl
  constructor
  · rw [hlog]
    exact Tracked.refused h.tracked hcall error
  · intro hconnecting
    rcases hnext with rfl | hne
    · rw [hlog]
      rcases h.connects hconnecting with hwas | hchanging
      · exact Or.inl (hwas.append (by simp [Output.answers]))
      · exact Or.inr hchanging
    · exact absurd hconnecting hne
  · rw [hlog]
    exact Opens.of_call hcall (fun e he => by cases he)
      (by simp [Output.lifecycleCall, Output.answers])

lemma Kept.lifecycle (h : Kept s) (call : Call) (operation : Operation) (waiter : Waiter)
    (hfits : Fits s.lifecycleEpoch operation waiter) (hcall : call.isLifecycle = true)
    (hwaiter : waiter.isLifecycle = true)
    (hintent : ∀ input e i, waiter = .configureAndStart input e i → i = s'.configurationIntent)
    (hsame : s.operations.has operation.key = true → s'.configurationIntent = s.configurationIntent)
    (hjoin : call.isConfigure = true → s.operations.has operation.key = true →
      s.operations.epochOf operation.key = s.operations.epoch)
    (hoperations : s'.operations = s.operations.enqueue operation.key operation waiter)
    (hlog : s'.log = s.log ++ ([.called call (some (s.operations.epochOf operation.key))] ++
      queuedOutputs s.operations operation.key))
    (hlifecycle : s'.lifecycleEpoch = s.lifecycleEpoch) : Kept s' := by
  have htracked : Tracked s'.operations s'.log s'.lifecycleEpoch s'.configurationIntent := by
    rw [hoperations, hlog, hlifecycle]
    exact h.tracked.lifecycle operation hfits hcall hwaiter hintent hsame hjoin
  refine ⟨htracked, fun _ => Or.inl ?_, ?_⟩
  · obtain ⟨o, ho, hw⟩ : ∃ o ∈ (s.operations.enqueue operation.key operation waiter).queue,
        waiter ∈ o.waiters := SerialQueue.exists_waiter_enqueue
    exact htracked.waiting_of_mem (by rw [hoperations]; exact ho) ⟨waiter, hw, hwaiter⟩
  · rw [hlog, List.singleton_append]
    refine Opens.of_call hcall ?_ ?_
    · rintro e ⟨⟩ hanswered
      obtain ⟨hle, hlt, -⟩ := h.tracked.older _ hanswered
      by_cases hhas : s.operations.has operation.key = true
      · obtain ⟨joined, hjoined, -, hof⟩ := SerialQueue.exists_of_has hhas
        have := hlt joined hjoined
        omega
      · have hof := SerialQueue.epochOf_of_not_has (q := s.operations) (by simpa using hhas)
        omega
    · intro o ho
      rw [eq_of_mem_queuedOutputs ho]
      exact ⟨rfl, fun _ => rfl⟩

/-- **The condition**: an operation is queued beside the lifecycle only while no lifecycle operation
is waited for, and a start joins the newest operation only. -/
def Undisturbed (adapter : RuntimeHostAdapter) (s : Provider) : ProviderAction → Prop
  | .call (.configureAndStart input) =>
    s.accepts adapter (.configureAndStart input) = true →
      s.operations.has (Call.configureAndStart input).key = true →
        s.operations.epochOf (Call.configureAndStart input).key = s.operations.epoch
  | .call .stop | .call (.acknowledgeRecovery _) => True
  | .call call => s.accepts adapter call = true → s.operations.has call.key = false →
      ¬ Waiting s.operations s.log
  | .event (.timeline completed) => completed = true → s.operations.has .state = false →
      ¬ Waiting s.operations s.log
  | .event (.status status) => status.status = .recoveryRequired → s.dropsStatus status = false →
      s.operations.has .recoveryState = false → ¬ Waiting s.operations s.log
  | _ => True

/-- What happens to a mounted provider: calls, events, and settlements of the running command. -/
def Happens (s : Provider) : ProviderAction → Prop
  | .call _ | .event _ | .begin | .resume => True
  | .settle outcome => s.operations.running = some .last → ∀ first ∈ s.operations.queue.head?,
      ∀ result, outcome = .ok result → first.operation.returns result = true
  | _ => False

section

variable (h : Kept s)
include h

lemma Kept.method {call : Call} (hundisturbed : Undisturbed adapter s (.call call)) :
    Kept (s.method adapter call) := by
  cases hcall : call.isLifecycle with
  | true =>
    rcases s.method_lifecycle adapter hcall with ⟨-, boot, error, hboot, hmethod⟩ |
      ⟨haccepts, intent, operation, waiter, hqueues, hsame, hmethod⟩
    · rw [hmethod]
      exact h.refuseLifecycle hcall error boot hboot
    · rw [hmethod]
      refine h.lifecycle call operation waiter ?_ hcall ?_ ?_ hsame ?_ rfl ?_ rfl
      · cases hqueues <;> first | rfl | cases hcall
      · cases hqueues <;> first | rfl | cases hcall
      · cases hqueues with
        | configureAndStart input =>
          intro input' e i heq
          obtain ⟨-, rfl, rfl⟩ := Waiter.configureAndStart.inj heq
          rfl
        | _ => simp
      · intro hconfigure hhas
        cases hqueues with
        | configureAndStart input => exact hundisturbed haccepts hhas
        | _ => cases hconfigure
      · rw [← List.append_assoc]
        rfl
  | false =>
    rcases s.method_beside adapter hcall with ⟨error, hmethod⟩ |
      ⟨haccepts, operation, waiter, hqueues, hmethod⟩
    · rw [hmethod]
      exact h.refuse hcall error
    · rw [hmethod]
      cases hqueues with
      | submitTurn => exact h.call rfl (.turnStart _ _ _) trivial rfl (hundisturbed haccepts)
      | cancelTurn => exact h.call rfl (.turnCancel _ _) trivial rfl (hundisturbed haccepts)
      | approvalRespond => exact h.call rfl (.approvalRespond _) trivial rfl (hundisturbed haccepts)
      | query => exact h.call rfl (.query _) trivial rfl (hundisturbed haccepts)
      | _ => cases hcall

lemma Kept.handleStatus
    (hundisturbed : Undisturbed adapter s (.event (.status status))) :
    Kept (s.handleStatus status) := by
  obtain ⟨t, ht, hcases⟩ := s.handleStatus_cases status
  have hdelivered : ∀ o ∈ [Output.delivered status], o.beside :=
    List.forall_mem_singleton.mpr ⟨rfl, fun _ => rfl⟩
  have hsame : t.operations = s.operations ∧ t.log = s.log ++ [.delivered status] ∧ Kept t := by
    rcases ht with ⟨rfl, gate, hgate, hother⟩ | ⟨rfl, -⟩
    · refine ⟨rfl, rfl, h.beside rfl rfl rfl rfl hdelivered (fun hwas => Or.inl ⟨hwas, rfl⟩) ?_⟩
      intro generation hserves hopen _
      obtain ⟨hstatus, hgeneration⟩ : status.status.serves = true ∧ status.generation = generation := by
        simpa [Output.serves] using hserves _ List.mem_cons_self
      obtain rfl := Option.some.inj (hopen.symm.trans hgate)
      rcases hother with hne | hne | hno
      · exact absurd rfl hne
      · exact absurd hgeneration.symm hne
      · rw [hno] at hstatus
        cases hstatus
    · exact ⟨rfl, rfl, h.beside rfl rfl rfl rfl hdelivered (fun hwas => Or.inl ⟨hwas, rfl⟩)
        fun _ _ hopen hstate => ⟨hopen, hstate⟩⟩
  obtain ⟨hoperations, hlog, hkept⟩ := hsame
  have htook : Kept ((t.updateRuntimeState status).updateBoot (bootForStatus status)) := by
    refine hkept.beside rfl (show _ = t.log ++ [.took status] from rfl) rfl rfl ?_ ?_ ?_
    · exact List.forall_mem_singleton.mpr ⟨rfl, fun _ => rfl⟩
    · exact fun hconnecting => Or.inr ⟨status, rfl, isChanging_of_bootForStatus hconnecting⟩
    · intro generation hserves hopen _
      obtain ⟨-, hsame⟩ : status.status.serves = true ∧ status.generation = generation := by
        simpa [Output.serves] using hserves _ List.mem_cons_self
      exact ⟨hopen, congrArg some hsame⟩
  rcases hcases with hsame | hsame | ⟨hrecovery, hdrops, hsame⟩
  · rwa [hsame]
  · rwa [hsame]
  · rw [hsame]
    refine htook.enqueueOperation .recoveryState trivial rfl fun hhas hwaiting => ?_
    have hwas : Waiting t.operations (t.log ++ [.took status]) := hwaiting
    rw [hoperations, hlog] at hwas
    exact hundisturbed hrecovery hdrops (hoperations ▸ hhas)
      ⟨hwas.1, fun hanswered => hwas.2 hanswered.append.append⟩

lemma Kept.handleEvent {event : HostEvent}
    (hundisturbed : Undisturbed adapter s (.event event)) : Kept (s.handleEvent event) := by
  unfold Provider.handleEvent
  cases s.setup with
  | unmounted | cleaning | recovering | failed => exact h
  | subscribing | subscribed | failing =>
    rcases event with status | _ | _
    · exact h.handleStatus hundisturbed
    · exact h
    · exact h.enqueueOperation .state trivial rfl (hundisturbed rfl)

lemma Kept.settleFirst {first : QueuedOperation OperationKey Operation Waiter}
    (hfirst : s.operations.queue.head? = some first) {outcome : Outcome}
    (hreturns : ∀ result, outcome = .ok result → first.operation.returns result = true) :
    Kept (s.settleFirst first.epoch outcome) := by
  constructor
  · exact h.tracked.settle hfirst hreturns
  · intro hconnecting
    rcases h.connects hconnecting with hwas | hchanging
    · refine Or.inl ⟨hwas.1.settle outcome, ?_⟩
      have hnot : ¬ Answered (s.log ++ [.queue (.settled first.epoch)]) s.operations.epoch :=
        (hwas.append (by simp [Output.answers])).2
      have hepoch : (s.settleFirst first.epoch outcome).operations.epoch = s.operations.epoch :=
        SerialQueue.epoch_settle outcome
      rw [hepoch]
      exact hnot
    · exact Or.inr hchanging
  · exact h.opens.extend h.tracked (by simp [Output.lifecycleCall]) (by simp)
      fun _ _ hopen hstate => ⟨hopen, hstate⟩

lemma Kept.invoke {first : QueuedOperation OperationKey Operation Waiter}
    (hfirst : s.operations.queue.head? = some first) (native : NativeCall) {phase : Phase}
    (hphase : phase = .configuring → first.operation.isConfigure = true) :
    Kept (s.invoke first.epoch native phase) := by
  have hemit : Kept (s.emit (.native first.epoch native)) := h.emit ⟨rfl, fun _ => rfl⟩
  refine ⟨hemit.tracked.advance ?_ ?_, hemit.connects, hemit.opens⟩
  · intro hnil
    rw [show (s.emit (.native first.epoch native)).operations.queue = s.operations.queue from rfl]
      at hnil
    rw [hnil] at hfirst
    cases hfirst
  · intro hconfiguring first' hfirst'
    obtain rfl := Option.some.inj (hfirst.symm.trans hfirst')
    exact hphase hconfiguring

lemma Kept.begin : Kept s.begin := by
  rcases s.begin_cases with ⟨hsame, -⟩ |
    ⟨first, -, hfirst, ⟨phase, hbegin, hphase, -⟩ | ⟨error, hbegin⟩⟩
  · rwa [hsame]
  · rw [hbegin]
    refine Kept.invoke (h.emit ⟨rfl, fun _ => rfl⟩) hfirst _ fun hconfiguring => ?_
    obtain ⟨_, _, _, hoperation⟩ := hphase hconfiguring
    rw [hoperation]
    rfl
  · rw [hbegin]
    exact Kept.settleFirst (h.emit ⟨rfl, fun _ => rfl⟩) hfirst (by simp)

lemma Kept.settle {outcome : Outcome} (hhappens : Happens s (.settle outcome)) :
    Kept (s.settle outcome) := by
  rcases s.settle_cases outcome with hsame |
    ⟨first, hrunning, hfirst, ⟨outcome', hsettle, hresult⟩ | ⟨-, hsettle⟩⟩
  · rwa [hsame]
  · rw [hsettle]
    refine h.settleFirst hfirst fun result hok => ?_
    obtain ⟨hsame, hlast | ⟨hconfiguring, hother⟩⟩ := hresult result hok
    · exact hhappens hlast first hfirst result hsame
    · -- Only a failure is left: a start has been configured otherwise.
      have hconfigure := h.tracked.configures hconfiguring first hfirst
      cases hoperation : first.operation <;> rw [hoperation] at hconfigure <;>
        first | exact (hother _ _ _ hoperation).elim | cases hconfigure
  · rw [hsettle]
    exact Kept.invoke (s := { s with started := false }) ⟨h.tracked, h.connects, h.opens⟩ hfirst _
      (by simp)

end

variable {r : Resumption Operation Waiter Outcome}
  {rest : List (Resumption Operation Waiter Outcome)}

/-- The first settled waiter goes on: a lifecycle waiter of the newest operation settles the boot
state, and every other waiter leaves it. -/
lemma Kept.answer (h : Kept s) (outputs : List Output) (hsettled : s.operations.settled = r :: rest)
    (hoperations : s'.operations = s.operations.resume) (hlog : s'.log = s.log ++ outputs)
    (hlifecycle : s'.lifecycleEpoch = s.lifecycleEpoch)
    (hintent : s'.configurationIntent = s.configurationIntent)
    (hcalls : ∀ o ∈ outputs, o.lifecycleCall = none)
    (houtputs : ∀ o ∈ outputs, ∀ e, o.answers e = true → o.fits r ∧ r.waiter.isLifecycle = true)
    (hanswer : r.waiter.isLifecycle = true → ∃ o ∈ outputs, o.answers r.epoch = true)
    (hcurrent : r.epoch = s.operations.epoch → r.waiter.isLifecycle = true →
      s'.boot = .connecting → ∃ status, s'.runtimeState = some status ∧ status.isChanging = true)
    (hother : ¬ (r.epoch = s.operations.epoch ∧ r.waiter.isLifecycle = true) →
      s'.boot = s.boot ∧ s'.runtimeState = s.runtimeState)
    (hopens : Opens (s.log ++ outputs) s'.turnGate s'.runtimeState s.lifecycleEpoch) :
    Kept s' := by
  constructor
  · rw [hoperations, hlog, hlifecycle, hintent]
    refine h.tracked.resume hsettled hcalls (fun o ho e he => (houtputs o ho e he).1)
      fun hwaiter => ?_
    obtain ⟨o, ho, hanswers⟩ := hanswer hwaiter
    exact ⟨o, List.mem_append_right _ ho, hanswers⟩
  · intro hconnecting
    rw [hoperations, hlog]
    by_cases hboth : r.epoch = s.operations.epoch ∧ r.waiter.isLifecycle = true
    · exact Or.inr (hcurrent hboth.1 hboth.2 hconnecting)
    · obtain ⟨hboot, hstate⟩ := hother hboth
      rw [hstate]
      rcases h.connects (hboot.symm.trans hconnecting) with hwas | hchanging
      · refine Or.inl (hwas.resume hsettled ?_ ?_)
        · by_cases hepoch : r.epoch = s.operations.epoch
          · exact Or.inr (Bool.eq_false_iff.mpr fun hyes => hboth ⟨hepoch, hyes⟩)
          · exact Or.inl hepoch
        · intro o ho
          refine Bool.eq_false_iff.mpr fun hanswers => ?_
          obtain ⟨hfits, hwaiter⟩ := houtputs o ho _ hanswers
          exact hboth ⟨(Output.epoch_of_fits hfits hanswers).symm, hwaiter⟩
      · exact Or.inr hchanging
  · rw [hlog, hlifecycle]
    exact hopens

lemma Kept.pass (h : Kept s) (hsettled : s.operations.settled = r :: rest)
    (hwaiter : r.waiter.isLifecycle = false) :
    Kept { s with operations := s.operations.resume } := by
  have hlog : ({ s with operations := s.operations.resume } : Provider).log = s.log ++ [] :=
    (List.append_nil _).symm
  refine h.answer [] hsettled rfl hlog rfl rfl (by simp) (by simp) ?_ ?_ (fun _ => ⟨rfl, rfl⟩) ?_
  · rw [hwaiter]
    intro hno
    cases hno
  · rw [hwaiter]
    intro _ hno
    cases hno
  · rw [List.append_nil]
    exact h.opens

lemma Kept.resolved_before (h : Kept s) (hr : r ∈ s.operations.settled)
    (hwaiter : r.operation.isConfigure = true) (hresult : r.result = .ok (.status status))
    (hstale : r.epoch ≠ s.operations.epoch) {input : RuntimeConfigureInput}
    (hlast : lastCall s.log = some (.configureAndStart input, some r.epoch)) :
    ∃ input', .resolved (.configureAndStart input') r.epoch (.status status) ∈ s.log := by
  rcases h.tracked.last input r.epoch hlast with ⟨o, ho, hanswers⟩ | ⟨hepoch, -⟩
  · have hfits := h.tracked.answers r hr o ho hanswers
    cases o with
    | resolved call epoch result =>
      obtain ⟨rfl, hsame, hconfigure⟩ := hfits
      obtain rfl : result = .status status := by simpa using hsame.symm.trans hresult
      cases call with
      | configureAndStart input' => exact ⟨input', ho⟩
      | _ => exact absurd (hconfigure.trans hwaiter) (by simp [Call.isConfigure])
    | rejected call epoch error =>
      cases epoch with
      | none => exact hfits.elim
      | some epoch =>
        obtain ⟨-, hsame, -⟩ := hfits
        cases hsame.symm.trans hresult
    | _ => exact hfits.elim
  · exact absurd hepoch hstale

/-- A waiter of the newest operation takes a status before its call resolves. -/
lemma Kept.commit (h : Kept s) (hsettled : s.operations.settled = r :: rest)
    (between : List Output) (call : Call) (hlifecycle : r.waiter.isLifecycle = true)
    (hresult : r.result = .ok (.status status)) (hcall : call.isLifecycle = true)
    (hconfigure : call.isConfigure = r.operation.isConfigure) (hepoch : r.epoch = s.operations.epoch)
    (hbetween : ∀ o ∈ between, o.beside) (hoperations : s'.operations = s.operations.resume)
    (hlog : s'.log = s.log ++ [.took status] ++ between ++ [.resolved call r.epoch (.status status)])
    (hmount : s'.lifecycleEpoch = s.lifecycleEpoch)
    (hintent : s'.configurationIntent = s.configurationIntent)
    (hstate : s'.runtimeState = some status) (hboot : s'.boot = bootForStatus status)
    (hopens : (∀ o ∈ .took status :: (between ++ [.resolved call r.epoch (.status status)]),
        o.lifecycleCall = none) →
      Opens (s.log ++ .took status :: (between ++ [.resolved call r.epoch (.status status)]))
        s'.turnGate s'.runtimeState s.lifecycleEpoch) : Kept s' := by
  have hfits : (Output.resolved call r.epoch (.status status)).fits r := ⟨rfl, hresult, hconfigure⟩
  have hcalls : ∀ o ∈ .took status :: (between ++ [.resolved call r.epoch (.status status)]),
      o.lifecycleCall = none := by
    simp only [List.forall_mem_cons, List.forall_mem_append]
    exact ⟨rfl, fun o ho => (hbetween o ho).1, rfl, by simp⟩
  refine h.answer (.took status :: (between ++ [.resolved call r.epoch (.status status)])) hsettled
    hoperations (by simpa using hlog) hmount hintent hcalls ?_ ?_ ?_
    (fun hno => absurd ⟨hepoch, hlifecycle⟩ hno) (hopens hcalls)
  · simp only [List.forall_mem_cons, List.forall_mem_append]
    refine ⟨by simp [Output.answers], fun o ho e he => ?_, fun _ _ => ⟨hfits, hlifecycle⟩, by simp⟩
    cases ((hbetween o ho).2 e).symm.trans he
  · exact fun _ => ⟨.resolved call r.epoch (.status status), by simp, by simp [Output.answers, hcall]⟩
  · exact fun _ _ hconnecting =>
      ⟨status, hstate, isChanging_of_bootForStatus (hboot.symm.trans hconnecting)⟩

lemma Kept.startSettled (h : Kept s) (hsettled : s.operations.settled = r :: rest)
    {input : RuntimeConfigureInput}
    (hwaiter : r.waiter = .configureAndStart input lifecycleEpoch intent)
    (hresult : r.result = .ok (.status status)) :
    Kept (Provider.startSettled { s with operations := s.operations.resume } input r.epoch
      lifecycleEpoch intent status) := by
  have hr : r ∈ s.operations.settled := by rw [hsettled]; exact List.mem_cons_self
  obtain ⟨-, hfits, hintent⟩ := h.tracked.suited.settled r hr
  rw [hwaiter] at hfits hintent
  obtain ⟨rfl, hconfigure⟩ : lifecycleEpoch = s.lifecycleEpoch ∧ r.operation.isConfigure = true := by
    cases hoperation : r.operation <;> rw [hoperation] at hfits <;>
      first | exact hfits.elim | exact ⟨hfits, rfl⟩
  have hlifecycle : r.waiter.isLifecycle = true := by rw [hwaiter]; rfl
  obtain ⟨_, started, rfl, ⟨-, hlate⟩ | ⟨t, hgoesOn, ht⟩⟩ := startSettled_cases
    { s with operations := s.operations.resume } input r.epoch s.lifecycleEpoch intent status
  · exact absurd rfl hlate
  rw [hgoesOn]
  rcases ht with ⟨rfl, hstale⟩ | ⟨⟨-, hcurrent⟩, ht⟩
  · -- A newer operation has superseded the start.
    have hstale : r.epoch ≠ s.operations.epoch := fun hepoch =>
      hstale ⟨(hintent input _ intent rfl hepoch).symm, decide_eq_true ⟨hepoch.symm, rfl⟩⟩
    refine h.answer [.resolved (.configureAndStart input) r.epoch (.status status)] hsettled rfl rfl
      rfl rfl (by simp [Output.lifecycleCall]) ?_
      (fun _ => ⟨_, List.mem_cons_self, by simp [Output.answers, Call.isLifecycle]⟩)
      (fun hepoch => absurd hepoch hstale) (fun _ => ⟨rfl, rfl⟩) ?_
    · exact List.forall_mem_singleton.mpr fun _ _ => ⟨⟨rfl, hresult, hconfigure.symm⟩, hlifecycle⟩
    · refine h.opens.extend h.tracked (by simp [Output.lifecycleCall]) ?_
        fun _ _ hopen hgeneration => ⟨hopen, hgeneration⟩
      intro input' e input'' status' hlast hmem _ _
      obtain ⟨-, rfl, rfl⟩ : input'' = input ∧ e = r.epoch ∧ status' = status := by simpa using hmem
      exact h.resolved_before hr hconfigure hresult hstale hlast
  · have hepoch : r.epoch = s.operations.epoch := (of_decide_eq_true hcurrent).1.symm
    obtain ⟨hoperations, hlog, hmount, hstate, hboot, hkept⟩ := commitStatus_current
      (s := { s with operations := s.operations.resume, started }) status hcurrent
    rcases ht with ⟨rfl, hready⟩ | ⟨rfl, -⟩
    · refine h.commit hsettled [] (.configureAndStart input) hlifecycle hresult rfl hconfigure.symm
        hepoch (by simp) hoperations ?_ hmount hkept hstate hboot fun hcalls => ?_
      · rw [List.append_nil]
        exact congrArg (fun log =>
          log ++ [.resolved (.configureAndStart input) r.epoch (.status status)]) hlog
      · refine h.opens.extend h.tracked hcalls ?_ fun _ hserves hopen _ =>
          commitStatus_gate status hcurrent hopen (hserves _ List.mem_cons_self)
        -- The status that is committed is not ready, so an earlier waiter has resolved.
        intro input' e input'' status' _ hmem hready' hpos
        obtain ⟨-, -, rfl⟩ : input'' = input ∧ e = r.epoch ∧ status' = status := by simpa using hmem
        exact absurd ⟨hready', hpos⟩ hready
    · refine h.commit hsettled [.opened r.epoch status.generation] (.configureAndStart input)
        hlifecycle hresult rfl hconfigure.symm hepoch ?_ hoperations ?_ hmount hkept hstate hboot ?_
      · exact List.forall_mem_singleton.mpr ⟨rfl, fun _ => rfl⟩
      · exact congrArg (fun log => log ++ [.opened r.epoch status.generation] ++
          [.resolved (.configureAndStart input) r.epoch (.status status)]) hlog
      · intro _ input' e input'' status' hlast hmem _ _ hserves
        have hmarked : .queue (.settled e) ∈ s.log := by
          rcases List.mem_append.mp hmem with hold | hnew
          · exact (h.tracked.older e (answered_of_resolved hold)).2.2
          · obtain ⟨-, rfl, -⟩ : input'' = input ∧ e = r.epoch ∧ status' = status := by
              simpa using hnew
            exact h.tracked.marked r hr
        rw [sinceSettled_append hmarked] at hserves
        obtain ⟨-, hsame⟩ : status.status.serves = true ∧ status.generation = status'.generation := by
          simpa [Output.serves] using hserves (.took status) (by simp)
        rw [← hsame]
        exact ⟨rfl, congrArg (Option.map RuntimeStatus.generation) hstate⟩

/-- A lifecycle call goes on without a status: with the newest operation the boot state settles. -/
lemma Kept.conclude (h : Kept s) (hsettled : s.operations.settled = r :: rest) {output : Output}
    (hlifecycle : r.waiter.isLifecycle = true) (hfits : output.fits r)
    (hanswers : output.answers r.epoch = true) (hcall : output.lifecycleCall = none)
    (hresolved : ∀ input e status, output ≠ .resolved (.configureAndStart input) e (.status status))
    (hoperations : s'.operations = s.operations.resume) (hlog : s'.log = s.log ++ [output])
    (hmount : s'.lifecycleEpoch = s.lifecycleEpoch)
    (hintent : s'.configurationIntent = s.configurationIntent)
    (hstate : s'.runtimeState = s.runtimeState) (hgate : s'.turnGate = s.turnGate)
    (hcurrent : r.epoch = s.operations.epoch → s'.boot ≠ .connecting)
    (hstale : r.epoch ≠ s.operations.epoch → s'.boot = s.boot) : Kept s' := by
  refine h.answer [output] hsettled hoperations hlog hmount hintent (by simpa using hcall) ?_
    (fun _ => ⟨_, List.mem_cons_self, hanswers⟩) ?_ ?_ ?_
  · intro o ho e _
    rw [List.mem_singleton.mp ho]
    exact ⟨hfits, hlifecycle⟩
  · exact fun hepoch _ hconnecting => absurd hconnecting (hcurrent hepoch)
  · intro hno
    exact ⟨hstale fun hepoch => hno ⟨hepoch, hlifecycle⟩, hstate⟩
  · rw [hgate, hstate]
    refine h.opens.extend h.tracked (by simpa using hcall) ?_
      fun _ _ hopen hgeneration => ⟨hopen, hgeneration⟩
    intro input e input' status _ hmem
    exact absurd (List.mem_singleton.mp hmem).symm (hresolved input' e status)

lemma failCurrent_spec (epoch : ℕ) (next : BootState) :
    (s.failCurrent epoch s.lifecycleEpoch next).operations = s.operations ∧
      (s.failCurrent epoch s.lifecycleEpoch next).log = s.log ∧
      (s.failCurrent epoch s.lifecycleEpoch next).lifecycleEpoch = s.lifecycleEpoch ∧
      (s.failCurrent epoch s.lifecycleEpoch next).configurationIntent = s.configurationIntent ∧
      (s.failCurrent epoch s.lifecycleEpoch next).runtimeState = s.runtimeState ∧
      (s.failCurrent epoch s.lifecycleEpoch next).turnGate = s.turnGate ∧
      (s.failCurrent epoch s.lifecycleEpoch next).boot =
        if epoch = s.operations.epoch then next else s.boot := by
  have hiff : s.isCurrentOperation epoch s.lifecycleEpoch = true ↔ epoch = s.operations.epoch := by
    simp [isCurrentOperation, eq_comm]
  unfold Provider.failCurrent
  simp only [hiff]
  split_ifs <;> exact ⟨rfl, rfl, rfl, rfl, rfl, rfl, rfl⟩

lemma Kept.reject (h : Kept s) (hsettled : s.operations.settled = r :: rest) {call : Call}
    {error : RuntimeHostError} (hlifecycle : r.waiter.isLifecycle = true)
    (hcall : call.isLifecycle = true) (hconfigure : call.isConfigure = r.operation.isConfigure)
    (hresult : r.result = .error error) {next : BootState} (hnext : next ≠ .connecting) :
    Kept ((Provider.failCurrent { s with operations := s.operations.resume } r.epoch s.lifecycleEpoch
      next).emit (.rejected call (some r.epoch) error)) := by
  obtain ⟨hoperations, hlog, hmount, hintent, hstate, hgate, hboot⟩ :=
    failCurrent_spec (s := { s with operations := s.operations.resume }) r.epoch next
  have hfits : (Output.rejected call (some r.epoch) error).fits r := ⟨rfl, hresult, hconfigure⟩
  refine h.conclude hsettled hlifecycle hfits (by simp [Output.answers, hcall]) rfl (by simp)
    hoperations ?_ hmount hintent hstate hgate ?_ ?_
  · exact congrArg (fun log => log ++ [Output.rejected call (some r.epoch) error]) hlog
  · intro hepoch
    have hnow := hboot.trans (if_pos hepoch)
    exact fun hconnecting => hnext (hnow.symm.trans hconnecting)
  · exact fun hepoch => hboot.trans (if_neg hepoch)

lemma Kept.stopSettled (h : Kept s) (hsettled : s.operations.settled = r :: rest)
    (hlifecycle : r.waiter.isLifecycle = true) (hconfigure : r.operation.isConfigure = false)
    (hresult : r.result = .ok (.status status)) :
    Kept ((Provider.commitStatus { s with operations := s.operations.resume, started := false }
      status r.epoch s.lifecycleEpoch).emit (.resolved .stop r.epoch (.status status))) := by
  have hfits : (Output.resolved .stop r.epoch (.status status)).fits r :=
    ⟨rfl, hresult, hconfigure.symm⟩
  have hanswers : (Output.resolved .stop r.epoch (.status status)).answers r.epoch = true := by
    simp [Output.answers, Call.isLifecycle]
  by_cases hcurrent : Provider.isCurrentOperation
      { s with operations := s.operations.resume, started := false } r.epoch s.lifecycleEpoch = true
  · have hepoch : r.epoch = s.operations.epoch := (of_decide_eq_true hcurrent).1.symm
    obtain ⟨hoperations, hlog, hmount, hstate, hboot, hintent⟩ := commitStatus_current status hcurrent
    refine h.commit hsettled [] .stop hlifecycle hresult rfl hconfigure.symm hepoch (by simp)
      hoperations ?_ hmount hintent hstate hboot fun hcalls => ?_
    · rw [List.append_nil]
      exact congrArg (fun log => log ++ [.resolved .stop r.epoch (.status status)]) hlog
    · exact h.opens.extend h.tracked hcalls (by simp) fun _ hserves hopen _ =>
        commitStatus_gate status hcurrent hopen (hserves _ List.mem_cons_self)
  · rw [commitStatus_stale hcurrent]
    have hstale : r.epoch ≠ s.operations.epoch := fun hepoch =>
      hcurrent (decide_eq_true ⟨hepoch.symm, rfl⟩)
    exact h.conclude hsettled hlifecycle hfits hanswers rfl (by simp) rfl rfl rfl rfl rfl rfl
      (fun hepoch => absurd hepoch hstale) fun _ => rfl

lemma bootForError_ne (error : RuntimeHostError) : bootForError error ≠ .connecting := by
  unfold bootForError
  split_ifs <;> simp

lemma Kept.resume (h : Kept s) : Kept s.resume := by
  unfold Provider.resume
  split
  · exact h
  next r rest hsettled =>
  have hr : r ∈ s.operations.settled := by rw [hsettled]; exact List.mem_cons_self
  obtain ⟨-, hfits, -⟩ := h.tracked.suited.settled r hr
  have hreturned := h.tracked.returned r hr
  have hpass := h.pass hsettled
  cases hwaiter : r.waiter with
  | configureAndStart input lifecycleEpoch intent =>
    rw [hwaiter] at hfits
    obtain ⟨rfl, hconfigure⟩ : lifecycleEpoch = s.lifecycleEpoch ∧
        ∃ input e i, r.operation = .configureAndStart input e i := by
      cases hoperation : r.operation <;> rw [hoperation] at hfits <;>
        first | exact hfits.elim | exact ⟨hfits, _, _, _, rfl⟩
    obtain ⟨_, _, _, hoperation⟩ := hconfigure
    cases hresult : r.result with
    | error error =>
      exact h.reject hsettled (by rw [hwaiter]; rfl) rfl (by rw [hoperation]; rfl) hresult
        (bootForError_ne error)
    | ok result =>
      have hstatus := hreturned result hresult
      rw [hoperation] at hstatus
      cases result with
      | status status => exact h.startSettled hsettled hwaiter hresult
      | _ => cases hstatus
  | stop lifecycleEpoch =>
    rw [hwaiter] at hfits
    obtain ⟨rfl, hoperation⟩ : lifecycleEpoch = s.lifecycleEpoch ∧ r.operation = .stop := by
      cases hoperation : r.operation <;> rw [hoperation] at hfits <;>
        first | exact hfits.elim | exact ⟨hfits, rfl⟩
    cases hresult : r.result with
    | error error =>
      exact h.reject hsettled (by rw [hwaiter]; rfl) rfl (by rw [hoperation]; rfl) hresult (by simp)
    | ok result =>
      have hstatus := hreturned result hresult
      rw [hoperation] at hstatus
      cases result with
      | status status =>
        exact h.stopSettled hsettled (by rw [hwaiter]; rfl) (by rw [hoperation]; rfl) hresult
      | _ => cases hstatus
  | acknowledgeRecovery reason lifecycleEpoch =>
    rw [hwaiter] at hfits
    obtain ⟨rfl, hconfirmation⟩ : lifecycleEpoch = s.lifecycleEpoch ∧
        ∃ confirmation, r.operation = .acknowledgeRecovery confirmation := by
      cases hoperation : r.operation <;> rw [hoperation] at hfits <;>
        first | exact hfits.elim | exact ⟨hfits, _, rfl⟩
    obtain ⟨_, hoperation⟩ := hconfirmation
    cases hresult : r.result with
    | error error =>
      exact h.reject hsettled (by rw [hwaiter]; rfl) rfl (by rw [hoperation]; rfl) hresult (by simp)
    | ok result =>
      have hrecovery := hreturned result hresult
      rw [hoperation] at hrecovery
      cases result with
      | recovery next =>
        have hfitsAnswer : (Output.resolved (.acknowledgeRecovery reason) r.epoch
            (.recovery next)).fits r := ⟨rfl, hresult, by rw [hoperation]; rfl⟩
        have hanswers : (Output.resolved (.acknowledgeRecovery reason) r.epoch
            (.recovery next)).answers r.epoch = true := by
          simp [Output.answers, Call.isLifecycle]
        have hlifecycle : r.waiter.isLifecycle = true := by rw [hwaiter]; rfl
        simp only [goOn]
        split_ifs with hcurrent hrequired
        · have hepoch : r.epoch = s.operations.epoch := (of_decide_eq_true hcurrent).1.symm
          exact h.conclude hsettled hlifecycle hfitsAnswer hanswers rfl (by simp) rfl rfl rfl rfl
            rfl rfl (fun _ => by simp [Provider.emit, updateBoot])
            fun hstale => absurd hepoch hstale
        · have hepoch : r.epoch = s.operations.epoch := (of_decide_eq_true hcurrent).1.symm
          exact h.conclude hsettled hlifecycle hfitsAnswer hanswers rfl (by simp) rfl rfl rfl rfl
            rfl rfl (fun _ => by simp [Provider.emit, updateBoot])
            fun hstale => absurd hepoch hstale
        · have hstale : r.epoch ≠ s.operations.epoch := fun hepoch =>
            hcurrent (decide_eq_true ⟨hepoch.symm, rfl⟩)
          exact h.conclude hsettled hlifecycle hfitsAnswer hanswers rfl (by simp) rfl rfl rfl rfl
            rfl rfl (fun hepoch => absurd hepoch hstale) fun _ => rfl
      | _ => cases hrecovery
  | refresh lifecycleEpoch =>
    have hs := hpass (by rw [hwaiter]; rfl)
    cases hresult : r.result with
    | error error =>
      simp only [goOn]
      split_ifs
      · exact hs.commitStatus _ _ _
      · exact hs.failCurrent _ _ (by simp)
    | ok result =>
      cases result with
      | status status => exact hs.commitStatus _ _ _
      | _ => exact hs
  | recovery lifecycleEpoch =>
    have hs := hpass (by rw [hwaiter]; rfl)
    cases hresult : r.result with
    | error error => exact hs
    | ok result =>
      cases result with
      | recovery next =>
        simp only [goOn]
        split_ifs
        · exact ⟨hs.tracked, fun hconnecting => absurd hconnecting (by simp [updateBoot]), hs.opens⟩
        · exact hs
      | _ => exact hs
  | submitTurn | query =>
    have hs := hpass (by rw [hwaiter]; rfl)
    cases r.result with
    | error error => exact hs.emit ⟨rfl, fun _ => rfl⟩
    | ok result =>
      simp only [goOn]
      split_ifs
      · exact hs.emit ⟨rfl, fun _ => rfl⟩
      · exact hs.emit ⟨rfl, fun _ => rfl⟩
  | cancelTurn | approvalRespond =>
    have hs := hpass (by rw [hwaiter]; rfl)
    cases r.result with
    | error error => exact hs.emit ⟨rfl, fun _ => rfl⟩
    | ok result => exact hs.emit ⟨rfl, fun _ => rfl⟩
  | lateStart | cleanup | setup =>
    -- These waiters belong to the effect and to a mount that is over.
    rw [hwaiter] at hfits
    cases hoperation : r.operation <;> rw [hoperation] at hfits <;> exact hfits.elim

/-- **What happens to a mounted provider keeps the results of its lifecycle.** -/
theorem Kept.act (h : Kept s) {action : ProviderAction} (hhappens : Happens s action)
    (hundisturbed : Undisturbed adapter s action) : Kept (s.act adapter action) := by
  cases action with
  | call call => exact h.method hundisturbed
  | event event => exact h.handleEvent hundisturbed
  | begin => exact h.begin
  | settle outcome => exact h.settle hhappens
  | resume => exact h.resume
  | _ => exact hhappens.elim

/-! ## Runs -/

/-- A provider whose setup is over and that waits for nothing; what it does is seen from here on. -/
structure Mounted (s : Provider) : Prop where
  subscribed : s.setup = .subscribed
  queue : s.operations.queue = []
  settled : s.operations.settled = []
  running : s.operations.running = none
  boot : s.boot = .connecting → ∃ status, s.runtimeState = some status ∧ status.isChanging = true
  log : s.log = []

/-- **What the lifecycle achieves.** -/
structure LifecycleKept (adapter : RuntimeHostAdapter) (s : Provider) : Prop where
  /-- a start that was called last and has resolved ready has opened the gate, and a turn is
  accepted while the boot state is ready -/
  opens : Opens s.log s.turnGate s.runtimeState s.lifecycleEpoch
  accepts : ∀ input epoch input' status,
    lastCall s.log = some (.configureAndStart input, some epoch) →
    .resolved (.configureAndStart input') epoch (.status status) ∈ s.log →
    status.status = .ready → 0 < status.generation →
    (∀ o ∈ sinceSettled epoch s.log, o.serves status.generation = true) →
      s.boot = .ready → ∀ turn, s.accepts adapter (.submitTurn turn) = true
  /-- when nothing is in flight the boot state connects for a status only -/
  connects : s.operations.queue = [] → s.operations.settled = [] → s.boot = .connecting →
    ∃ status, s.runtimeState = some status ∧ status.isChanging = true

lemma Mounted.kept (h : s.Mounted) : Kept s := by
  have hnone : ∀ o, o ∉ s.operations.queue := by simp [h.queue]
  have hsettled : ∀ r, r ∉ s.operations.settled := by simp [h.settled]
  have hlog : ∀ o, o ∉ s.log := by simp [h.log]
  refine ⟨?_, fun hconnecting => Or.inr (h.boot hconnecting), ?_⟩
  · constructor
    case ordered =>
      refine ⟨?_, ?_, fun o ho => absurd ho (hnone o), fun r hr => absurd hr (hsettled r),
        fun r hr => absurd hr (hsettled r), fun r hr => absurd hr (hsettled r)⟩
      · rw [h.queue]
        exact List.Pairwise.nil
      · rw [h.queue]
        exact List.nodup_nil
    case keyed => exact fun o ho => absurd ho (hnone o)
    case suited =>
      exact ⟨fun o ho => absurd ho (hnone o), fun r hr => absurd hr (hsettled r)⟩
    case waited => exact fun o ho => absurd ho (hnone o)
    case runs => simp [h.running]
    case configures => simp [h.running]
    case older => exact fun e ⟨o, ho, _⟩ => absurd ho (hlog o)
    case marked => exact fun r hr => absurd hr (hsettled r)
    case behind => exact fun o ho => absurd ho (hnone o)
    case last =>
      rw [h.log]
      intro input e hlast
      cases hlast
    case answers => exact fun r hr => absurd hr (hsettled r)
    case returned => exact fun r hr => absurd hr (hsettled r)
  · intro input e input' status _ hmem
    exact absurd hmem (hlog _)

lemma Kept.lifecycleKept (h : Kept s) : LifecycleKept adapter s := by
  constructor
  case opens => exact h.opens
  case accepts =>
    intro input epoch input' status hlast hmem hready hpos hserves hboot turn
    obtain ⟨hopen, hgeneration⟩ := h.opens input epoch input' status hlast hmem hready hpos hserves
    simp [accepts, hopen, isTurnGateCurrent, isTurnGenerationCurrent, hgeneration, hboot]
  case connects =>
    intro hqueue hsettled hconnecting
    rcases h.connects hconnecting with ⟨hnewest, -⟩ | hchanging
    · rcases hnewest with ⟨o, ho, -⟩ | ⟨r, hr, -⟩
      · rw [hqueue] at ho
        cases ho
      · rw [hsettled] at hr
        cases hr
    · exact hchanging

/-- A provider after its setup, with a runtime that is stopped. -/
def mountedProvider : Provider :=
  { initial.after fullAdapter [.mount, .cleaned, .recovered (.ok ⟨false, false, none, none⟩),
      .subscribed (.ok ()), .begin, .settle (.ok (.status ⟨.stopped, 0, none⟩)), .resume] with
    log := [] }

lemma mounted_mountedProvider : mountedProvider.Mounted where
  subscribed := rfl
  queue := rfl
  settled := rfl
  running := rfl
  boot := fun hconnecting => absurd hconnecting (by decide +kernel)
  log := rfl

/-- A runtime is configured and starts. -/
def startedActions : List ProviderAction :=
  [.call (.configureAndStart plainConfiguration), .begin, .settle (.ok .configured),
    .settle (.ok (.status ⟨.ready, 1, none⟩)), .resume]

/-- An approval is answered while a runtime starts. -/
def disturbedActions : List ProviderAction :=
  [.call (.configureAndStart plainConfiguration), .call (.approvalRespond approveOnce), .begin,
    .settle (.ok .configured), .settle (.ok (.status ⟨.ready, 1, none⟩)), .resume, .begin,
    .settle (.ok .responded), .resume]

end Provider

end JaDesktop.Connection
