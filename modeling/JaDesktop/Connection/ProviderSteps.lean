import JaDesktop.Connection.Provider

/-!
# What a step of the provider can do

One lemma for each kind of step says what it can do.  An invariant that rests on the queue, on what is
seen, and on the gate, the mount and the status alone is `Stable`: the parts of the steps that all of
these invariants pass in the same way are passed here.
-/

namespace JaDesktop.Connection

/-- The key that an operation is queued with. -/
def Operation.key : Operation → OperationKey
  | .configureAndStart input _ _ => .configureAndStart (Provider.configureOperationKey input)
  | .stop => .stop
  | .state => .state
  | .recoveryState => .recoveryState
  | .acknowledgeRecovery _ => .acknowledgeRecovery
  | .turnStart input _ _ => .turnStart input.threadId
  | .turnCancel input _ => .turnCancel input.threadId input.turnId
  | .approvalRespond input => .approvalRespond input.approvalId
  | .query input => .runtimeQuery input

/-- The native command that an operation begins with. -/
def Operation.native : Operation → NativeCall
  | .configureAndStart input _ _ => .configure input
  | .stop => .stop
  | .state => .state
  | .recoveryState => .recoveryState
  | .acknowledgeRecovery confirmation => .acknowledgeRecovery confirmation
  | .turnStart input _ _ => .turnStart input
  | .turnCancel input _ => .turnCancel input
  | .approvalRespond input => .approvalRespond input
  | .query input => .query input

def Call.isLifecycle : Call → Bool
  | .configureAndStart _ | .stop | .acknowledgeRecovery _ => true
  | _ => false

/-- The actions of the effect. -/
def ProviderAction.ofEffect : ProviderAction → Bool
  | .call _ | .event _ | .begin | .settle _ | .resume => false
  | _ => true

/-- An operation is queued, unless it joins one that is. -/
def queuedOutputs (operations : Operations) (key : OperationKey) : List Output :=
  if operations.has key then [] else [.queue (.queued (operations.epoch + 1))]

lemma eq_of_mem_queuedOutputs {operations : Operations} {key : OperationKey} {o : Output}
    (h : o ∈ queuedOutputs operations key) : o = .queue (.queued (operations.epoch + 1)) := by
  unfold queuedOutputs at h
  split_ifs at h
  · cases h
  · exact List.mem_singleton.mp h

namespace Provider

variable (s : Provider) {adapter : RuntimeHostAdapter}

/-- A recovery that has been read and is required. -/
def acknowledgeable : Bool :=
  s.recovery.any fun recovery =>
    recovery.required && recovery.recoveryId.isSome && recovery.revision.isSome

/-- A call that is not refused. -/
def accepts (adapter : RuntimeHostAdapter) : Call → Bool
  | .configureAndStart _ => !s.blocked && adapter.configure
  | .stop => true
  | .submitTurn _ => s.turnGate.any fun gate => s.isTurnGateCurrent s.lifecycleEpoch gate.generation
  | .cancelTurn _ => !s.blocked && adapter.turnCancel
  | .approvalRespond _ => adapter.approvalRespond
  | .queryRuntime _ => decide (0 < (s.runtimeState.map RuntimeStatus.generation).getD 0) &&
      s.boot = .ready && adapter.query
  | .acknowledgeRecovery _ => s.acknowledgeable

/-! ## Cases -/

/-- What a call queues, and who waits for it. -/
inductive Queues (intent : ℕ) : Call → Operation → Waiter → Prop
  | configureAndStart (input : RuntimeConfigureInput) :
      Queues intent (.configureAndStart input) (.configureAndStart input s.lifecycleEpoch intent)
        (.configureAndStart input s.lifecycleEpoch intent)
  | stop : Queues intent .stop .stop (.stop s.lifecycleEpoch)
  | acknowledgeRecovery (reason : RecoveryReason) (confirmation : ManualRecoveryConfirmation) :
      Queues intent (.acknowledgeRecovery reason) (.acknowledgeRecovery confirmation)
        (.acknowledgeRecovery reason s.lifecycleEpoch)
  | submitTurn (input : TurnStartInput) {generation : ℕ}
      (hgate : s.turnGate = some ⟨s.lifecycleEpoch, generation⟩) :
      Queues intent (.submitTurn input) (.turnStart input s.lifecycleEpoch generation)
        (.submitTurn input s.lifecycleEpoch generation)
  | cancelTurn (input : TurnCancelInput) (expected : Option ℕ) :
      Queues intent (.cancelTurn input) (.turnCancel input expected) (.cancelTurn input)
  | approvalRespond (input : ApprovalResponseInput) :
      Queues intent (.approvalRespond input) (.approvalRespond input) (.approvalRespond input)
  | query (input : RuntimeQueryInput) (generation : ℕ) :
      Queues intent (.queryRuntime input) (.query input) (.query input generation)

variable (adapter) in
/-- A call of the lifecycle closes the gate, and is refused or queued. -/
lemma method_lifecycle {call : Call} (hcall : call.isLifecycle = true) :
    (s.accepts adapter call = false ∧ ∃ boot error, (boot = s.boot ∨ boot ≠ .connecting) ∧
      s.method adapter call = (s.revokeTurnGate.updateBoot boot).refuse call error) ∨
    s.accepts adapter call = true ∧ ∃ intent operation waiter, s.Queues intent call operation waiter ∧
      (s.operations.has operation.key = true → intent = s.configurationIntent) ∧
      s.method adapter call = Provider.call { s.revokeTurnGate.updateBoot .connecting with
        configurationIntent := intent } call operation.key operation waiter := by
  cases call with
  | configureAndStart input =>
    simp only [method, configureAndStart]
    by_cases hblocked : s.revokeTurnGate.blocked = true
    · rw [if_pos hblocked]
      rw [show s.revokeTurnGate.blocked = s.blocked from rfl] at hblocked
      exact Or.inl ⟨by simp [accepts, hblocked], s.boot, _, Or.inl rfl, rfl⟩
    rw [if_neg hblocked]
    rw [show s.revokeTurnGate.blocked = s.blocked from rfl] at hblocked
    by_cases hadapter : adapter.configure = false
    · rw [if_pos hadapter]
      exact Or.inl ⟨by simp [accepts, hadapter], _, _, Or.inr (by simp), rfl⟩
    · rw [if_neg hadapter]
      exact Or.inr ⟨by simp [accepts, hblocked, hadapter], _, _, _, .configureAndStart input,
        fun hhas => if_pos hhas, rfl⟩
  | stop => exact Or.inr ⟨rfl, _, _, _, .stop, fun _ => rfl, rfl⟩
  | acknowledgeRecovery reason =>
    simp only [method, acknowledgeRecovery, accepts, acknowledgeable]
    split
    · next hrecovery =>
      rw [show s.recovery = s.revokeTurnGate.recovery from rfl, hrecovery]
      exact Or.inr ⟨rfl, _, _, _, .acknowledgeRecovery reason _, fun _ => rfl, rfl⟩
    · next hnone =>
      refine Or.inl ⟨Bool.eq_false_iff.mpr fun hack => ?_, s.boot, _, Or.inl rfl, rfl⟩
      simp only [Option.any_eq_true, Bool.and_eq_true, Option.isSome_iff_exists] at hack
      obtain ⟨⟨required, acknowledgeable, recoveryId, revision⟩, hrecovery,
        ⟨hrequired, id, hid⟩, rev, hrev⟩ := hack
      dsimp only at hrequired hid hrev
      subst hrequired hid hrev
      exact hnone _ _ _ hrecovery
  | _ => cases hcall

variable (adapter) in
/-- Any other call is refused or queued. -/
lemma method_beside {call : Call} (hcall : call.isLifecycle = false) :
    (∃ error, s.method adapter call = s.refuse call error) ∨
    s.accepts adapter call = true ∧ ∃ operation waiter, s.Queues 0 call operation waiter ∧
      s.method adapter call = s.call call operation.key operation waiter := by
  cases call with
  | submitTurn input =>
    simp only [method, submitTurn]
    cases hgate : s.turnGate with
    | none => exact Or.inl ⟨_, rfl⟩
    | some gate =>
      dsimp only
      split_ifs with hcurrent
      · exact Or.inl ⟨_, rfl⟩
      · rw [Bool.not_eq_false] at hcurrent
        have hopen : s.turnGate = some ⟨s.lifecycleEpoch, gate.generation⟩ :=
          (of_decide_eq_true (of_decide_eq_true hcurrent).1).1
        exact Or.inr ⟨by simpa [accepts, hgate] using hcurrent, _, _, .submitTurn input hopen, rfl⟩
  | cancelTurn input =>
    simp only [method, cancelTurn]
    split_ifs with hblocked hadapter
    · exact Or.inl ⟨_, rfl⟩
    · exact Or.inl ⟨_, rfl⟩
    · exact Or.inr ⟨by simp [accepts, hblocked, hadapter], _, _, .cancelTurn input _, rfl⟩
  | approvalRespond input =>
    simp only [method, approvalRespond]
    split_ifs with hadapter
    · exact Or.inl ⟨_, rfl⟩
    · exact Or.inr ⟨by simp [accepts, hadapter], _, _, .approvalRespond input, rfl⟩
  | queryRuntime input =>
    simp only [method, queryRuntime]
    split_ifs with hready hadapter
    · exact Or.inl ⟨_, rfl⟩
    · exact Or.inl ⟨_, rfl⟩
    · obtain ⟨hgeneration, hboot⟩ := not_or.mp hready
      exact Or.inr ⟨by simp [accepts, Nat.pos_of_ne_zero hgeneration, not_not.mp hboot, hadapter],
        _, _, .query input _, rfl⟩
  | _ => cases hcall

/-- A status that is delivered closes the gate, unless it serves the generation of the gate. -/
lemma handleStatus_cases (status : RuntimeStatus) : ∃ t : Provider,
    (t = (s.emit (.delivered status)).revokeTurnGate ∧ (∃ gate ∈ s.turnGate,
        gate.lifecycleEpoch ≠ s.lifecycleEpoch ∨ gate.generation ≠ status.generation ∨
          status.status.serves = false) ∨
      t = s.emit (.delivered status) ∧ ∀ gate ∈ s.turnGate, status.status.serves = true) ∧
    (s.handleStatus status = t ∨
      s.handleStatus status = (t.updateRuntimeState status).updateBoot (bootForStatus status) ∨
      status.status = .recoveryRequired ∧ s.dropsStatus status = false ∧
        s.handleStatus status = ((t.updateRuntimeState status).updateBoot
          (bootForStatus status)).enqueueOperation .recoveryState .recoveryState
            (.recovery s.lifecycleEpoch)) := by
  unfold handleStatus
  dsimp only
  generalize hgate : (if Option.any _ _ = true then _ else _ : Provider) = t
  have ht : t.dropsStatus status = s.dropsStatus status := by
    rw [← hgate]
    split_ifs <;> rfl
  refine ⟨t, ?_, ?_⟩
  · split_ifs at hgate with hany
    · obtain ⟨gate, hopen, hother⟩ := (Option.any_eq_true _ _).mp hany
      exact Or.inl ⟨hgate.symm, gate, hopen, of_decide_eq_true hother⟩
    · refine Or.inr ⟨hgate.symm, fun gate hopen => ?_⟩
      by_contra hserves
      refine hany ((Option.any_eq_true _ _).mpr ⟨gate, hopen, ?_⟩)
      exact decide_eq_true (Or.inr (Or.inr (Bool.eq_false_iff.mpr hserves)))
  · rw [ht]
    have hlifecycle : t.lifecycleEpoch = s.lifecycleEpoch := by
      rw [← hgate]
      split_ifs <;> rfl
    split_ifs with hdrops hrecovery
    · exact Or.inl rfl
    · exact Or.inr (Or.inr ⟨hrecovery, Bool.eq_false_iff.mpr hdrops, by rw [← hlifecycle]; rfl⟩)
    · exact Or.inr (Or.inl rfl)

lemma begin_cases : s.begin = s ∧ (s.operations.running = none → s.operations.queue = []) ∨
    ∃ first, s.operations.running = none ∧ s.operations.queue.head? = some first ∧
      ((∃ phase, s.begin = (s.emit (.queue (.begun first.epoch))).invoke first.epoch
          first.operation.native phase ∧
          (phase = .configuring → ∃ input e i, first.operation = .configureAndStart input e i) ∧
          ∀ input turnEpoch generation, first.operation = .turnStart input turnEpoch generation →
            s.isTurnGateCurrent turnEpoch generation = true) ∨
        ∃ error, s.begin = (s.emit (.queue (.begun first.epoch))).settleFirst first.epoch
          (.error error)) := by
  unfold begin
  split
  · next first rest hrunning hqueue =>
    refine Or.inr ⟨first, hrunning, by rw [hqueue]; rfl, ?_⟩
    unfold execute
    cases hoperation : first.operation with
    | configureAndStart input e i =>
      exact Or.inl ⟨_, rfl, fun _ => ⟨_, _, _, rfl⟩, by simp⟩
    | turnStart input turnEpoch generation =>
      dsimp only
      split_ifs with hcurrent
      · refine Or.inl ⟨_, rfl, by simp, fun _ _ _ heq => ?_⟩
        obtain ⟨-, rfl, rfl⟩ := Operation.turnStart.inj heq
        exact hcurrent
      · exact Or.inr ⟨_, rfl⟩
    | turnCancel input expected =>
      dsimp only
      split_ifs
      · exact Or.inr ⟨_, rfl⟩
      · exact Or.inl ⟨_, rfl, by simp, by simp⟩
    | _ => exact Or.inl ⟨_, rfl, by simp, by simp⟩
  · next hother =>
    refine Or.inl ⟨rfl, fun hrunning => ?_⟩
    cases hqueue : s.operations.queue with
    | nil => rfl
    | cons first rest => exact (hother first rest hrunning hqueue).elim

lemma settle_cases (outcome : Outcome) : s.settle outcome = s ∨
    ∃ first, s.operations.running.isSome ∧ s.operations.queue.head? = some first ∧
      ((∃ outcome', s.settle outcome = s.settleFirst first.epoch outcome' ∧
          ∀ result, outcome' = .ok result → outcome = .ok result ∧
            (s.operations.running = some .last ∨ s.operations.running = some .configuring ∧
              ∀ input e i, first.operation ≠ .configureAndStart input e i)) ∨
        (∃ input e i, first.operation = .configureAndStart input e i) ∧
          s.settle outcome = { s with started := false }.invoke first.epoch .start .last) := by
  unfold settle
  split
  · next first rest hrunning hqueue =>
    exact Or.inr ⟨first, by rw [hrunning]; rfl, by rw [hqueue]; rfl,
      Or.inl ⟨outcome, rfl, fun _ hresult => ⟨hresult, Or.inl hrunning⟩⟩⟩
  · next first rest hrunning hqueue =>
    refine Or.inr ⟨first, by rw [hrunning]; rfl, by rw [hqueue]; rfl, ?_⟩
    split
    · next hoperation =>
      split_ifs
      · exact Or.inl ⟨_, rfl, by simp⟩
      · exact Or.inr ⟨⟨_, _, _, hoperation⟩, rfl⟩
    · next hother =>
      exact Or.inl ⟨_, rfl, fun result hresult => ⟨hresult, Or.inr ⟨hrunning, fun _ _ _ hoperation =>
        hother _ _ _ _ hresult hoperation⟩⟩⟩
  · exact Or.inl rfl

/-- A start settles: it is too late for its mount, or its result is committed when it belongs to the
newest configuration. -/
lemma startSettled_cases (input : RuntimeConfigureInput) (epoch lifecycleEpoch intent : ℕ)
    (status : RuntimeStatus) : ∃ t started, t = { s with started } ∧
    (s.startSettled input epoch lifecycleEpoch intent status =
        t.enqueueOperation .stop .stop (.lateStart input epoch status) ∧
        s.lifecycleEpoch ≠ lifecycleEpoch ∨
      ∃ u : Provider, s.startSettled input epoch lifecycleEpoch intent status =
          u.emit (.resolved (.configureAndStart input) epoch (.status status)) ∧
        (u = t ∧ ¬ (s.configurationIntent = intent ∧
            s.isCurrentOperation epoch lifecycleEpoch = true) ∨
          (s.configurationIntent = intent ∧ s.isCurrentOperation epoch lifecycleEpoch = true) ∧
            (u = t.commitStatus status epoch lifecycleEpoch ∧
                ¬ (status.status = .ready ∧ 0 < status.generation) ∨
              u = Provider.emit { t.commitStatus status epoch lifecycleEpoch with
                  turnGate := some ⟨lifecycleEpoch, status.generation⟩ }
                  (.opened epoch status.generation) ∧
                status.status = .ready ∧ 0 < status.generation))) := by
  refine ⟨_, decide (status.status ≠ .stopped ∧ status.status ≠ .recoveryRequired), rfl, ?_⟩
  simp only [startSettled]
  split_ifs with hlate hboth hcommitted hcommitted
  · exact Or.inl ⟨rfl, hlate.2⟩
  · exact Or.inr ⟨_, rfl, Or.inr ⟨of_decide_eq_true hboth.1, Or.inr ⟨rfl, hboth.2⟩⟩⟩
  · exact absurd hboth.1 hcommitted
  · exact Or.inr ⟨_, rfl, Or.inr ⟨of_decide_eq_true hcommitted,
      Or.inl ⟨rfl, fun hready => hboth ⟨hcommitted, hready⟩⟩⟩⟩
  · exact Or.inr ⟨_, rfl, Or.inl ⟨rfl, fun hnow => hcommitted (decide_eq_true hnow)⟩⟩

/-! ## Invariants -/

/-- What the provider queues by itself. -/
inductive Internal : Operation → Waiter → Prop
  | cleanup : Internal .stop .cleanup
  | refresh (lifecycleEpoch : ℕ) : Internal .state (.refresh lifecycleEpoch)
  | setup (lifecycleEpoch : ℕ) : Internal .state (.setup lifecycleEpoch)
  | recovery (lifecycleEpoch : ℕ) : Internal .recoveryState (.recovery lifecycleEpoch)

/-- **An invariant of the queue, of what is seen, and of the gate, the mount and the status**, with
what the parts keep that its steps have in common. -/
structure Stable (I : Operations → List Output → Option TurnAdmissionGate → ℕ →
    Option RuntimeStatus → Prop) : Prop where
  took {operations log gate lifecycleEpoch runtimeState} (status : RuntimeStatus) :
    I operations log gate lifecycleEpoch runtimeState →
      I operations (log ++ [.took status]) gate lifecycleEpoch (some status)
  revoke {operations log gate lifecycleEpoch runtimeState} :
    I operations log gate lifecycleEpoch runtimeState → I operations log none lifecycleEpoch runtimeState
  internal {operations log gate lifecycleEpoch runtimeState operation waiter} :
    I operations log gate lifecycleEpoch runtimeState → Internal operation waiter →
      I (operations.enqueue operation.key operation waiter)
        (log ++ queuedOutputs operations operation.key) gate lifecycleEpoch runtimeState
  mount {operations log gate lifecycleEpoch runtimeState} :
    I operations log gate lifecycleEpoch runtimeState →
      I operations log gate (lifecycleEpoch + 1) runtimeState
  unmount {operations log lifecycleEpoch runtimeState} :
    I operations log none lifecycleEpoch runtimeState →
      I operations.supersede (log ++ [.unmounted]) none (lifecycleEpoch + 1) runtimeState

variable {s} {I : Operations → List Output → Option TurnAdmissionGate → ℕ → Option RuntimeStatus → Prop}

abbrev Holds (I : Operations → List Output → Option TurnAdmissionGate → ℕ → Option RuntimeStatus → Prop)
    (s : Provider) : Prop := I s.operations s.log s.turnGate s.lifecycleEpoch s.runtimeState

section

variable (hI : Stable I) (h : s.Holds I)
include hI h

lemma Stable.commitStatus (status : RuntimeStatus) (operationEpoch lifecycleEpoch : ℕ) :
    (s.commitStatus status operationEpoch lifecycleEpoch).Holds I := by
  unfold Provider.commitStatus
  split_ifs
  · exact hI.took status (hI.revoke h)
  · exact hI.took status h
  · exact h

omit hI in
lemma Holds.failCurrent (operationEpoch lifecycleEpoch : ℕ) (next : BootState) :
    (s.failCurrent operationEpoch lifecycleEpoch next).Holds I := by
  unfold Provider.failCurrent
  split_ifs <;> exact h

lemma Stable.stopStarted : s.stopStarted.Holds I := by
  unfold Provider.stopStarted
  split_ifs
  · exact hI.internal h .cleanup
  · exact h

lemma Stable.failSetup (error : RuntimeHostError) (hasSubscribed : Bool) :
    (s.failSetup error hasSubscribed).Holds I := by
  unfold Provider.failSetup
  split_ifs
  · exact h
  · exact h
  · exact h
  · exact hI.stopStarted (s := { s.updateBoot _ with setup := .failed }) h

lemma Stable.handleEvent (event : HostEvent)
    (hdelivered : ∀ status gate, (gate = none ∨
        gate = s.turnGate ∧ ∀ g ∈ s.turnGate, status.status.serves = true) →
      I s.operations (s.log ++ [.delivered status]) gate s.lifecycleEpoch s.runtimeState) :
    (s.handleEvent event).Holds I := by
  have hstatus : ∀ status, (s.handleStatus status).Holds I := by
    intro status
    obtain ⟨t, ht, hcases⟩ := s.handleStatus_cases status
    have hgate : t.Holds I := by
      rcases ht with ⟨rfl, -⟩ | ⟨rfl, hserves⟩
      · exact hdelivered status none (Or.inl rfl)
      · exact hdelivered status s.turnGate (Or.inr ⟨rfl, hserves⟩)
    have htook : ((t.updateRuntimeState status).updateBoot (bootForStatus status)).Holds I :=
      hI.took status hgate
    rcases hcases with hsame | hsame | ⟨-, -, hsame⟩
    · rwa [hsame]
    · rwa [hsame]
    · rw [hsame]
      exact hI.internal htook (.recovery _)
  have hrefresh : (s.refreshState s.lifecycleEpoch).Holds I := hI.internal h (.refresh _)
  unfold Provider.handleEvent
  cases s.setup with
  | unmounted | cleaning | recovering | failed => exact h
  | subscribing | subscribed | failing =>
    rcases event with status | _ | _
    · exact hstatus status
    · exact h
    · exact hrefresh

/-- What happens to the effect keeps a stable invariant. -/
lemma Stable.effect {action : ProviderAction} (haction : action.ofEffect = true) :
    (s.act adapter action).Holds I := by
  cases action with
  | mount =>
    simp only [Provider.act, Provider.mount]
    split_ifs
    · exact hI.mount h
    · exact h
  | cleaned =>
    simp only [Provider.act, Provider.cleaned]
    split_ifs
    · exact hI.revoke h
    · exact h
  | recovered outcome =>
    simp only [Provider.act, Provider.recovered]
    split_ifs
    · cases outcome with
      | ok current => exact h
      | error error => exact hI.failSetup h error false
    · exact h
  | subscribed outcome =>
    simp only [Provider.act, Provider.subscribed]
    split
    · exact h
    · exact hI.internal h (.setup _)
    · exact hI.failSetup h _ false
    · exact h
  | unsubscribed =>
    simp only [Provider.act, Provider.unsubscribed]
    split_ifs
    · exact hI.stopStarted (s := { s with setup := _ }) h
    · exact h
  | unmount =>
    simp only [Provider.act, Provider.unmount]
    split_ifs
    · exact h
    · exact hI.unmount (hI.revoke h)
  | cleanup =>
    simp only [Provider.act, Provider.cleanup]
    split_ifs
    · exact hI.stopStarted h
    · exact h
  | _ => cases haction

end

end Provider

end JaDesktop.Connection
