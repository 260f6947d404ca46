import JaDesktop.Connection.OwnInput

/-!
# Turns of the configured generation

`turns_admitted`: a turn is started only under the newest `configureAndStart`, after its start has
been committed with a ready status, while nothing has ended this generation.  Two steps could break
this and are excluded: the commit of a ready status that comes after the end of its generation, and
a call that leaves a pending start the newest operation.
-/

namespace JaDesktop.Connection

/-! ## What a turn rests on -/

/-- A generation in this status takes no turns any more. -/
def RuntimeStatusKind.ends : RuntimeStatusKind → Bool
  | .crashed | .faulted | .incompatible | .stopped | .recoveryRequired => true
  | _ => false

def Waiter.isConfigure : Waiter → Bool
  | .configureAndStart _ _ _ => true
  | _ => false

/-- An output after which a configuration is not the newest any more. -/
def Output.interrupts : Output → Bool
  | .called call _ => call.isLifecycle
  | .unmounted => true
  | _ => false

/-- A status event ends a generation. -/
def Output.endsGeneration (generation : ℕ) : Output → Bool
  | .delivered status => status.generation = generation ∧ status.status.ends
  | _ => false

/-- The newest lifecycle call is a `configureAndStart` that waits for an operation. -/
def Latest (log : List Output) (epoch : ℕ) (since : List Output) : Prop :=
  ∃ before input, log = before ++ .called (.configureAndStart input) (some epoch) :: since ∧
    ∀ o ∈ since, o.interrupts = false

/-- No status event has ended a generation. -/
def Healthy (log : List Output) (generation : ℕ) : Prop :=
  ∀ o ∈ log, o.endsGeneration generation = false

instance (log : List Output) (generation : ℕ) : Decidable (Healthy log generation) :=
  inferInstanceAs (Decidable (∀ o ∈ log, _))

/-- **The newest configuration has been started in a generation that can take turns.** -/
def Admitted (log : List Output) (generation : ℕ) : Prop :=
  0 < generation ∧ Healthy log generation ∧
    ∃ epoch since, Latest log epoch since ∧ .opened epoch generation ∈ since

def Output.taken : Output → Option RuntimeStatus
  | .took status => some status
  | _ => none

/-- The state of the runtime. -/
def lastTaken (log : List Output) : Option RuntimeStatus := (log.filterMap Output.taken).getLast?

/-- **What a turn needs**: it is admitted when it is sent, and when its call resolves its generation
is still the one of the runtime, under the same mount. -/
def Admits (past : List Output) : Output → Prop
  | .native _ (.turnStart _) => ∃ generation, Admitted past generation
  | .resolved (.submitTurn _) epoch _ => ∃ generation before input after,
      past = before ++ .native epoch (.turnStart input) :: after ∧ Admitted before generation ∧
        .unmounted ∉ after ∧
        (lastTaken past).map RuntimeStatus.generation = some generation
  | _ => True

variable {log outputs since : List Output} {epoch generation : ℕ}

lemma Latest.append (h : Latest log epoch since) (hnone : ∀ o ∈ outputs, o.interrupts = false) :
    Latest (log ++ outputs) epoch (since ++ outputs) := by
  obtain ⟨before, input, rfl, hsince⟩ := h
  refine ⟨before, input, by simp, fun o ho => ?_⟩
  rcases List.mem_append.mp ho with hold | hnew
  · exact hsince o hold
  · exact hnone o hnew

lemma Healthy.append (h : Healthy log generation)
    (hnone : ∀ o ∈ outputs, o.endsGeneration generation = false) :
    Healthy (log ++ outputs) generation := by
  intro o ho
  rcases List.mem_append.mp ho with hold | hnew
  · exact h o hold
  · exact hnone o hnew

lemma Admitted.append (h : Admitted log generation) (hnone : ∀ o ∈ outputs, o.interrupts = false)
    (hhealthy : ∀ o ∈ outputs, o.endsGeneration generation = false) :
    Admitted (log ++ outputs) generation := by
  obtain ⟨hpos, hlog, epoch, since, hlatest, hopened⟩ := h
  exact ⟨hpos, hlog.append hhealthy, epoch, _, hlatest.append hnone,
    List.mem_append_left _ hopened⟩

lemma lastTaken_append (hnone : ∀ o ∈ outputs, o.taken = none) :
    lastTaken (log ++ outputs) = lastTaken log := by
  rw [lastTaken, List.filterMap_append, List.filterMap_eq_nil_iff.mpr hnone, List.append_nil]
  rfl

lemma lastTaken_took (status : RuntimeStatus) : lastTaken (log ++ [.took status]) = some status := by
  simp [lastTaken, Output.taken]

/-- A turn that has been sent under a lifecycle epoch and a generation. -/
def SentUnder (log : List Output) (current epoch lifecycleEpoch generation : ℕ) : Prop :=
  lifecycleEpoch ≤ current ∧ ∃ before input after,
    log = before ++ .native epoch (.turnStart input) :: after ∧ Admitted before generation ∧
      (current = lifecycleEpoch → .unmounted ∉ after)

lemma SentUnder.append {current lifecycleEpoch : ℕ}
    (h : SentUnder log current epoch lifecycleEpoch generation)
    (hnone : Output.unmounted ∉ outputs) :
    SentUnder (log ++ outputs) current epoch lifecycleEpoch generation := by
  obtain ⟨hle, before, input, after, rfl, hadmitted, hafter⟩ := h
  refine ⟨hle, before, input, after ++ outputs, by simp, hadmitted, fun hcurrent hmem => ?_⟩
  rcases List.mem_append.mp hmem with hold | hnew
  · exact hafter hcurrent hold
  · exact hnone hnew

lemma SentUnder.succ {current lifecycleEpoch : ℕ}
    (h : SentUnder log current epoch lifecycleEpoch generation) :
    SentUnder (log ++ outputs) (current + 1) epoch lifecycleEpoch generation := by
  obtain ⟨hle, before, input, after, rfl, hadmitted, -⟩ := h
  refine ⟨Nat.le_succ_of_le hle, before, input, after ++ outputs, by simp, hadmitted, ?_⟩
  intro hcurrent
  omega

/-! ## The invariant -/

/-- The waiter of a pending start that is the newest operation, and the waiter of a turn. -/
def Waits (log : List Output) (newest epoch : ℕ) (operation : Operation) (waiter : Waiter) : Prop :=
  epoch ≤ newest ∧
    (waiter.isConfigure = true → epoch = newest → ∃ since, Latest log epoch since) ∧
    ∀ input lifecycleEpoch generation, waiter = .submitTurn input lifecycleEpoch generation →
      ∃ input', operation = .turnStart input' lifecycleEpoch generation

/-- **What guards a turn**: an open gate admits its generation, and the turns in flight were called
under this gate. -/
structure Guarded (operations : Operations) (log : List Output) (gate : Option TurnAdmissionGate)
    (lifecycleEpoch : ℕ) (runtimeState : Option RuntimeStatus) : Prop where
  ordered : operations.Ordered
  keyed : operations.Keyed Operation.key
  runs : operations.running.isSome → operations.queue ≠ []
  gate_le : ∀ g ∈ gate, g.lifecycleEpoch ≤ lifecycleEpoch
  admitted : ∀ g ∈ gate, g.lifecycleEpoch = lifecycleEpoch → Admitted log g.generation
  waits : operations.Each (Waits log operations.epoch)
  turns : ∀ o ∈ operations.queue, ∀ input turnEpoch generation,
    o.operation = .turnStart input turnEpoch generation →
      turnEpoch ≤ lifecycleEpoch ∧ ∀ g ∈ gate, g = ⟨turnEpoch, generation⟩
  running : operations.running.isSome → ∀ first ∈ operations.queue.head?,
    ∀ input turnEpoch generation, first.operation = .turnStart input turnEpoch generation →
      SentUnder log lifecycleEpoch first.epoch turnEpoch generation
  settled : ∀ r ∈ operations.settled, ∀ input turnEpoch generation result,
    r.operation = .turnStart input turnEpoch generation → r.result = .ok result →
      SentUnder log lifecycleEpoch r.epoch turnEpoch generation
  runtime : runtimeState = lastTaken log
  history : Justified Admits log

variable {operations : Operations} {gate : Option TurnAdmissionGate} {lifecycleEpoch : ℕ}
  {runtimeState : Option RuntimeStatus}

lemma guarded_initial : Guarded Provider.initial.operations Provider.initial.log
    Provider.initial.turnGate Provider.initial.lifecycleEpoch Provider.initial.runtimeState where
  ordered := served_initial.ordered
  keyed := served_initial.keyed
  runs := by simp [Provider.initial]
  gate_le := by simp [Provider.initial]
  admitted := by simp [Provider.initial]
  waits := ⟨by simp [Provider.initial], by simp [Provider.initial]⟩
  turns := by simp [Provider.initial]
  running := by simp [Provider.initial]
  settled := by simp [Provider.initial]
  runtime := rfl
  history := Justified.nil

variable {waiter : Waiter}

lemma Waits.append {newest : ℕ} {operation : Operation}
    (h : Waits log newest epoch operation waiter) (hnone : ∀ o ∈ outputs, o.interrupts = false) :
    Waits (log ++ outputs) newest epoch operation waiter := by
  obtain ⟨hle, hlatest, hturn⟩ := h
  refine ⟨hle, fun hconfigure hnewest => ?_, hturn⟩
  obtain ⟨since, hsince⟩ := hlatest hconfigure hnewest
  exact ⟨_, hsince.append hnone⟩

lemma Waits.succ {newest : ℕ} {operation : Operation} (h : Waits log newest epoch operation waiter) :
    Waits outputs (newest + 1) epoch operation waiter := by
  refine ⟨Nat.le_succ_of_le h.1, fun _ hnewest => ?_, h.2.2⟩
  have hle := h.1
  omega

/-! ## Outputs -/

/-- An output that neither calls a method of the lifecycle nor says anything about a status or a
turn. -/
def Output.plain : Output → Bool
  | .called call _ => !call.isLifecycle
  | .native _ (.turnStart _) | .resolved (.submitTurn _) _ _ => false
  | .delivered _ | .took _ | .unmounted => false
  | _ => true

lemma Output.plain_spec {o : Output} (h : o.plain = true) :
    o.interrupts = false ∧ (∀ generation, o.endsGeneration generation = false) ∧ o.taken = none ∧
      o ≠ .unmounted ∧ ∀ past, Admits past o := by
  cases o with
  | called call waits =>
    exact ⟨by simpa [plain, interrupts] using h, fun _ => rfl, rfl, by simp, fun _ => trivial⟩
  | native epoch native =>
    cases native with
    | turnStart input => cases h
    | _ => exact ⟨rfl, fun _ => rfl, rfl, by simp, fun _ => trivial⟩
  | resolved call epoch result =>
    cases call with
    | submitTurn input => cases h
    | _ => exact ⟨rfl, fun _ => rfl, rfl, by simp, fun _ => trivial⟩
  | delivered status => cases h
  | took status => cases h
  | unmounted => cases h
  | _ => exact ⟨rfl, fun _ => rfl, rfl, by simp, fun _ => trivial⟩

section

variable (h : Guarded operations log gate lifecycleEpoch runtimeState)

include h

lemma Guarded.extend (hinterrupts : ∀ o ∈ outputs, o.interrupts = false)
    (hends : ∀ g ∈ gate, g.lifecycleEpoch = lifecycleEpoch →
      ∀ o ∈ outputs, o.endsGeneration g.generation = false) {runtimeState' : Option RuntimeStatus}
    (hruntime : runtimeState' = lastTaken (log ++ outputs))
    (hhistory : Justified Admits (log ++ outputs)) :
    Guarded operations (log ++ outputs) gate lifecycleEpoch runtimeState' where
  __ := h
  admitted g hg hcurrent := (h.admitted g hg hcurrent).append hinterrupts (hends g hg hcurrent)
  waits := h.waits.mono fun _ _ _ hwaits => hwaits.append hinterrupts
  running hsome first hfirst input turnEpoch generation hoperation :=
    (h.running hsome first hfirst input turnEpoch generation hoperation).append
      fun hmem => by cases hinterrupts _ hmem
  settled r hr input turnEpoch generation result hoperation hresult :=
    (h.settled r hr input turnEpoch generation result hoperation hresult).append
      fun hmem => by cases hinterrupts _ hmem
  runtime := hruntime
  history := hhistory

lemma Guarded.plain (hplain : ∀ o ∈ outputs, o.plain = true) :
    Guarded operations (log ++ outputs) gate lifecycleEpoch runtimeState := by
  refine h.extend (fun o ho => (Output.plain_spec (hplain o ho)).1) ?_ ?_ ?_
  · exact fun g _ _ o ho => (Output.plain_spec (hplain o ho)).2.1 g.generation
  · rw [lastTaken_append fun o ho => (Output.plain_spec (hplain o ho)).2.2.1]
    exact h.runtime
  · exact (Justified.append_iff fun o ho => (Output.plain_spec (hplain o ho)).2.2.2.2).mpr h.history

lemma Guarded.emit {output : Output} (hplain : output.plain = true) :
    Guarded operations (log ++ [output]) gate lifecycleEpoch runtimeState :=
  h.plain (by simpa using hplain)

lemma Guarded.took (status : RuntimeStatus) :
    Guarded operations (log ++ [.took status]) gate lifecycleEpoch (some status) := by
  refine h.extend ?_ ?_ (lastTaken_took status).symm ?_
  · exact List.forall_mem_singleton.mpr rfl
  · exact fun g _ _ => List.forall_mem_singleton.mpr rfl
  · exact h.history.snoc trivial

lemma Guarded.revoke :
    Guarded operations log none lifecycleEpoch runtimeState where
  __ := h
  gate_le := by simp
  admitted := by simp
  turns o ho input turnEpoch generation hoperation :=
    ⟨(h.turns o ho input turnEpoch generation hoperation).1, by simp⟩

/-! ## Operations -/

lemma Guarded.enqueue (operation : Operation) (hconfigure : waiter.isConfigure = false)
    (hturn : ∀ input turnEpoch generation, operation = .turnStart input turnEpoch generation →
      gate = some ⟨turnEpoch, generation⟩)
    (hwaiter : ∀ input turnEpoch generation, waiter = .submitTurn input turnEpoch generation →
      ∃ input', operation = .turnStart input' turnEpoch generation) :
    Guarded (operations.enqueue operation.key operation waiter)
      (log ++ queuedOutputs operations operation.key) gate lifecycleEpoch runtimeState := by
  have hplain : ∀ o ∈ queuedOutputs operations operation.key, o.plain = true := by
    intro o ho
    rw [eq_of_mem_queuedOutputs ho]
    rfl
  have h' := h.plain hplain
  have hjoined : ∀ o ∈ operations.queue, o.key = operation.key →
      ∀ input turnEpoch generation, operation = .turnStart input turnEpoch generation →
        ∃ input', o.operation = .turnStart input' turnEpoch generation := by
    rintro o ho hkey input turnEpoch generation rfl
    -- Both turns were called under the open gate.
    have hkind : o.operation.key = .turnStart input.threadId := (h.keyed o ho).symm.trans hkey
    cases hoperation : o.operation <;> rw [hoperation] at hkind <;>
      simp only [Operation.key, reduceCtorEq] at hkind
    next input' turnEpoch' generation' =>
      have hgate := hturn input turnEpoch generation rfl
      have hsame := (h.turns o ho _ _ _ hoperation).2 _ hgate
      obtain ⟨rfl, rfl⟩ := TurnAdmissionGate.mk.inj hsame
      exact ⟨input', rfl⟩
  constructor
  case ordered => exact h.ordered.enqueue
  case keyed => exact h.keyed.enqueue
  case runs =>
    intro hsome hnil
    rw [SerialQueue.running_enqueue] at hsome
    exact SerialQueue.queue_enqueue_ne_nil (h.runs hsome) hnil
  case gate_le => exact h.gate_le
  case admitted => exact h'.admitted
  case waits =>
    rw [SerialQueue.epoch_enqueue]
    have hturns : ∀ input turnEpoch generation, waiter = .submitTurn input turnEpoch generation →
        ∀ o ∈ operations.queue, o.key = operation.key →
          ∃ input', o.operation = .turnStart input' turnEpoch generation := by
      intro input turnEpoch generation hw o ho hkey
      obtain ⟨input', hoperation⟩ := hwaiter input turnEpoch generation hw
      exact hjoined o ho hkey _ _ _ hoperation
    split_ifs with hhas
    · refine h'.waits.enqueue ?_ fun hno => absurd hhas (by simp [hno])
      intro o ho hkey
      refine ⟨h.ordered.le_epoch o ho, fun hw => ?_, fun input turnEpoch generation hw =>
        hturns input turnEpoch generation hw o ho hkey⟩
      rw [hconfigure] at hw
      cases hw
    · refine (h.waits.mono fun _ _ _ hwaits => hwaits.succ).enqueue ?_ ?_
      · exact fun o ho hkey => absurd (SerialQueue.has_of_mem ho hkey) hhas
      · refine fun _ => ⟨Nat.le_refl _, fun hw => ?_, hwaiter⟩
        rw [hconfigure] at hw
        cases hw
  case turns =>
    intro o ho input turnEpoch generation hoperation
    rcases SerialQueue.mem_enqueue ho with ⟨old, hold, -, -, hsame, -⟩ | ⟨-, rfl⟩
    · exact h.turns old hold input turnEpoch generation (hsame.symm.trans hoperation)
    · have hgate := hturn input turnEpoch generation hoperation
      refine ⟨h.gate_le _ hgate, fun g hg => ?_⟩
      exact Option.some.inj (hg.symm.trans hgate)
  case running =>
    intro hsome first hfirst input turnEpoch generation hoperation
    rw [SerialQueue.running_enqueue] at hsome
    obtain ⟨old, hold, hepoch, hsame⟩ := SerialQueue.head_enqueue (h.runs hsome) hfirst
    rw [hepoch]
    exact h'.running hsome old hold input turnEpoch generation (hsame.symm.trans hoperation)
  case settled =>
    rw [SerialQueue.settled_enqueue]
    exact h'.settled
  case runtime => exact h'.runtime
  case history => exact h'.history

end

/-- A lifecycle call, which has closed the gate, is queued or joins: a pending start that stays the
newest operation is the one that it waits for. -/
lemma Guarded.lifecycle (h : Guarded operations log none lifecycleEpoch runtimeState)
    (operation : Operation) {call : Call}
    (hwaits : waiter.isConfigure = true → ∃ input, call = .configureAndStart input)
    (hoperation : ∀ input turnEpoch generation, operation ≠ .turnStart input turnEpoch generation)
    (hwaiter : ∀ input turnEpoch generation, waiter ≠ .submitTurn input turnEpoch generation)
    (hnewest : operations.has operation.key = true → operations.Newest Waiter.isConfigure →
      operations.epochOf operation.key = operations.epoch ∧ ∃ input, call = .configureAndStart input) :
    Guarded (operations.enqueue operation.key operation waiter)
      (log ++ [.called call (some (operations.epochOf operation.key))] ++
        queuedOutputs operations operation.key)
      none lifecycleEpoch runtimeState := by
  have hmounted : Output.unmounted ∉ [Output.called call (some (operations.epochOf operation.key))] ++
      queuedOutputs operations operation.key := by
    intro hmem
    rcases List.mem_append.mp hmem with hcall | hqueued
    · cases List.mem_singleton.mp hcall
    · cases eq_of_mem_queuedOutputs hqueued
  rw [List.append_assoc]
  constructor
  case ordered => exact h.ordered.enqueue
  case keyed => exact h.keyed.enqueue
  case runs =>
    intro hsome hnil
    rw [SerialQueue.running_enqueue] at hsome
    exact SerialQueue.queue_enqueue_ne_nil (h.runs hsome) hnil
  case gate_le => exact h.gate_le
  case admitted => exact fun g hg => by cases hg
  case waits =>
    have hlatest : ∀ epoch, (∃ input, call = .configureAndStart input) →
        operations.epochOf operation.key = epoch →
          ∃ since, Latest (log ++ ([.called call (some (operations.epochOf operation.key))] ++
            queuedOutputs operations operation.key)) epoch since := by
      rintro epoch ⟨input, rfl⟩ rfl
      refine ⟨_, log, input, rfl, fun o ho => ?_⟩
      rw [eq_of_mem_queuedOutputs ho]
      rfl
    rw [SerialQueue.epoch_enqueue]
    split_ifs with hhas
    · -- The newest operation stays the newest.
      have hold : operations.Each (Waits (log ++
          ([.called call (some (operations.epochOf operation.key))] ++
            queuedOutputs operations operation.key)) operations.epoch) := by
        refine (h.waits.newest Waiter.isConfigure).mono ?_
        rintro epoch operation' waiter' ⟨⟨hle, -, hturn⟩, hkind⟩
        refine ⟨hle, fun hw hepoch => ?_, hturn⟩
        obtain ⟨hof, hcall⟩ := hnewest hhas (hkind hw hepoch)
        exact hlatest epoch hcall (hof.trans hepoch.symm)
      refine hold.enqueue ?_ fun hno => absurd hhas (by simp [hno])
      intro o ho hkey
      refine ⟨h.ordered.le_epoch o ho, fun hw hepoch => ?_, fun input turnEpoch generation hw =>
        absurd hw (hwaiter input turnEpoch generation)⟩
      exact hlatest o.epoch (hwaits hw) (h.ordered.epochOf_of_mem ho hkey)
    · refine (h.waits.mono fun _ _ _ hwaits => hwaits.succ).enqueue ?_ ?_
      · exact fun o ho hkey => absurd (SerialQueue.has_of_mem ho hkey) hhas
      · refine fun _ => ⟨Nat.le_refl _, fun hw _ => ?_, fun input turnEpoch generation hw =>
          absurd hw (hwaiter input turnEpoch generation)⟩
        have hof : operations.epochOf operation.key = operations.epoch + 1 :=
          SerialQueue.epochOf_of_not_has (by simpa using hhas)
        exact hlatest _ (hwaits hw) hof
  case turns =>
    intro o ho input turnEpoch generation ho'
    rcases SerialQueue.mem_enqueue ho with ⟨old, hold, -, -, hsame, -⟩ | ⟨-, rfl⟩
    · exact h.turns old hold input turnEpoch generation (hsame.symm.trans ho')
    · exact absurd ho' (hoperation input turnEpoch generation)
  case running =>
    intro hsome first hfirst input turnEpoch generation ho'
    rw [SerialQueue.running_enqueue] at hsome
    obtain ⟨old, hold, hepoch, hsame⟩ := SerialQueue.head_enqueue (h.runs hsome) hfirst
    rw [hepoch]
    exact (h.running hsome old hold input turnEpoch generation (hsame.symm.trans ho')).append hmounted
  case settled =>
    rw [SerialQueue.settled_enqueue]
    exact fun r hr input turnEpoch generation result hr' hresult =>
      (h.settled r hr input turnEpoch generation result hr' hresult).append hmounted
  case runtime =>
    rw [lastTaken_append, h.runtime]
    intro o ho
    rcases List.mem_append.mp ho with hcall | hqueued
    · rw [List.mem_singleton.mp hcall]
      rfl
    · rw [eq_of_mem_queuedOutputs hqueued]
      rfl
  case history =>
    refine (Justified.append_iff fun o ho past => ?_).mpr h.history
    rcases List.mem_append.mp ho with hcall | hqueued
    · rw [List.mem_singleton.mp hcall]
      trivial
    · rw [eq_of_mem_queuedOutputs hqueued]
      trivial

/-- A lifecycle call, which has closed the gate, is refused while no start is the newest
operation. -/
lemma Guarded.refused (h : Guarded operations log none lifecycleEpoch runtimeState) {call : Call}
    (hnewest : ¬ operations.Newest Waiter.isConfigure) :
    Guarded operations (log ++ [.called call none]) none lifecycleEpoch runtimeState where
  __ := h
  admitted g hg := by cases hg
  waits := (h.waits.newest Waiter.isConfigure).mono fun _ _ _ ⟨⟨hle, _, hturn⟩, hkind⟩ =>
    ⟨hle, fun hw hepoch => absurd (hkind hw hepoch) hnewest, hturn⟩
  running hsome first hfirst input turnEpoch generation hoperation :=
    (h.running hsome first hfirst input turnEpoch generation hoperation).append (by simp)
  settled r hr input turnEpoch generation result hoperation hresult :=
    (h.settled r hr input turnEpoch generation result hoperation hresult).append (by simp)
  runtime := by
    rw [lastTaken_append (by simp [Output.taken])]
    exact h.runtime
  history := h.history.snoc trivial

section

variable (h : Guarded operations log gate lifecycleEpoch runtimeState)

include h

/-- The running operation is at a command; a turn among them has been sent. -/
lemma Guarded.advance {first : QueuedOperation OperationKey Operation Waiter}
    (hfirst : operations.queue.head? = some first)
    (hsent : ∀ input turnEpoch generation, first.operation = .turnStart input turnEpoch generation →
      SentUnder log lifecycleEpoch first.epoch turnEpoch generation) (phase : Phase) :
    Guarded (operations.advance phase) log gate lifecycleEpoch runtimeState where
  __ := h
  ordered := h.ordered.advance phase
  runs _ hnil := by
    rw [show (operations.advance phase).queue = operations.queue from rfl] at hnil
    rw [hnil] at hfirst
    cases hfirst
  waits := h.waits.advance phase
  running _ first' hfirst' := by
    obtain rfl := Option.some.inj (hfirst.symm.trans hfirst')
    exact hsent

lemma Guarded.settle {first : QueuedOperation OperationKey Operation Waiter}
    (hfirst : operations.queue.head? = some first) {outcome : Outcome}
    (hrunning : operations.running.isSome ∨ ∃ error, outcome = .error error) :
    Guarded (operations.settle outcome) (log ++ [.queue (.settled first.epoch)]) gate lifecycleEpoch
      runtimeState := by
  have h' : Guarded operations (log ++ [.queue (.settled first.epoch)]) gate lifecycleEpoch
      runtimeState := h.emit rfl
  have hnone : (operations.settle outcome).running = none := by
    obtain ⟨rest, hqueue⟩ : ∃ rest, operations.queue = first :: rest :=
      List.head?_eq_some_iff.mp hfirst
    rw [SerialQueue.settle, hqueue]
  constructor
  case ordered => exact h.ordered.settle outcome
  case keyed => exact h.keyed.settle outcome
  case runs =>
    intro hsome
    rw [hnone] at hsome
    cases hsome
  case gate_le => exact h.gate_le
  case admitted => exact h'.admitted
  case waits =>
    rw [SerialQueue.epoch_settle]
    exact h'.waits.settle outcome
  case turns =>
    rw [SerialQueue.queue_settle]
    exact fun o ho => h.turns o (List.mem_of_mem_tail ho)
  case running =>
    intro hsome
    rw [hnone] at hsome
    cases hsome
  case settled =>
    intro r hr input turnEpoch generation result hoperation hresult
    rcases SerialQueue.mem_settle hr with hold | ⟨first', hfirst', waiter, -, rfl⟩
    · exact h'.settled r hold input turnEpoch generation result hoperation hresult
    · rcases hrunning with hsome | ⟨error, rfl⟩
      · exact h'.running hsome first' hfirst' input turnEpoch generation hoperation
      · cases hresult
  case runtime => exact h'.runtime
  case history => exact h'.history

lemma Guarded.resume :
    Guarded operations.resume log gate lifecycleEpoch runtimeState where
  __ := h
  ordered := h.ordered.resume
  waits := h.waits.resume
  settled r hr := h.settled r (List.mem_of_mem_tail hr)

lemma Guarded.bind (hqueue : operations.queue = []) {turnEpoch : ℕ}
    (hcurrent : lifecycleEpoch = turnEpoch) (generation : ℕ) (hadmitted : Admitted log generation) :
    Guarded operations log (some ⟨turnEpoch, generation⟩) lifecycleEpoch runtimeState where
  __ := h
  gate_le g hg := by
    obtain rfl := Option.some.inj hg
    exact Nat.le_of_eq hcurrent.symm
  admitted g hg _ := by
    obtain rfl := Option.some.inj hg
    exact hadmitted
  turns o ho := by
    rw [hqueue] at ho
    cases ho

lemma Guarded.mount :
    Guarded operations log gate (lifecycleEpoch + 1) runtimeState where
  __ := h
  gate_le g hg := Nat.le_succ_of_le (h.gate_le g hg)
  admitted g hg hcurrent := by
    have hle := h.gate_le g hg
    omega
  turns o ho input turnEpoch generation hoperation :=
    ⟨Nat.le_succ_of_le (h.turns o ho input turnEpoch generation hoperation).1,
      (h.turns o ho input turnEpoch generation hoperation).2⟩
  running hsome first hfirst input turnEpoch generation hoperation := by
    have hsent : SentUnder (log ++ []) (lifecycleEpoch + 1) first.epoch turnEpoch generation :=
      (h.running hsome first hfirst input turnEpoch generation hoperation).succ
    rwa [List.append_nil] at hsent
  settled r hr input turnEpoch generation result hoperation hresult := by
    have hsent : SentUnder (log ++ []) (lifecycleEpoch + 1) r.epoch turnEpoch generation :=
      (h.settled r hr input turnEpoch generation result hoperation hresult).succ
    rwa [List.append_nil] at hsent

end

lemma Guarded.unmount (h : Guarded operations log none lifecycleEpoch runtimeState) :
    Guarded operations.supersede (log ++ [.unmounted]) none (lifecycleEpoch + 1) runtimeState where
  __ := h
  ordered := h.ordered.supersede
  gate_le g hg := by cases hg
  admitted g hg := by cases hg
  waits := h.waits.supersede.mono fun _ _ _ hwaits => hwaits.succ
  turns o ho input turnEpoch generation hoperation :=
    ⟨Nat.le_succ_of_le (h.turns o ho input turnEpoch generation hoperation).1, by simp⟩
  running hsome first hfirst input turnEpoch generation hoperation :=
    (h.running hsome first hfirst input turnEpoch generation hoperation).succ
  settled r hr input turnEpoch generation result hoperation hresult :=
    (h.settled r hr input turnEpoch generation result hoperation hresult).succ
  runtime := by
    rw [lastTaken_append (by simp [Output.taken])]
    exact h.runtime
  history := h.history.snoc trivial

/-! ## Actions -/

namespace Provider

variable {s : Provider} {adapter : RuntimeHostAdapter}

abbrev IsGuarded (s : Provider) : Prop :=
  Guarded s.operations s.log s.turnGate s.lifecycleEpoch s.runtimeState

/-- **The condition**: while a pending start is the newest operation, a lifecycle call is accepted
and makes or joins the newest operation; and a ready status is not committed after a status event
has ended its generation. -/
def Orderly (adapter : RuntimeHostAdapter) (s : Provider) : ProviderAction → Prop
  | .call (.configureAndStart input) => s.operations.Newest Waiter.isConfigure →
      s.accepts adapter (.configureAndStart input) = true ∧
        (s.operations.has (.configureAndStart (configureOperationKey input)) = true →
          s.operations.epochOf (.configureAndStart (configureOperationKey input)) =
            s.operations.epoch)
  | .call .stop => s.operations.Newest Waiter.isConfigure → s.operations.has .stop = false
  | .call (.acknowledgeRecovery _) => s.operations.Newest Waiter.isConfigure →
      s.acknowledgeable = true ∧ s.operations.has .acknowledgeRecovery = false
  | .resume => match s.operations.settled with
    | ⟨epoch, _, .configureAndStart _ lifecycleEpoch intent, .ok (.status status)⟩ :: _ =>
      s.isCurrentOperation epoch lifecycleEpoch = true → s.configurationIntent = intent →
        status.status = .ready → Healthy s.log status.generation
    | _ => True
  | _ => True

lemma stable_guarded : Stable Guarded where
  took status h := h.took status
  revoke h := h.revoke
  internal h hinternal := by
    refine h.enqueue _ ?_ ?_ ?_ <;> cases hinternal <;> simp [Waiter.isConfigure]
  mount h := h.mount
  unmount h := h.unmount

section

variable (h : s.IsGuarded)
include h

lemma IsGuarded.method {call : Call} (horderly : Orderly adapter s (.call call)) :
    (s.method adapter call).IsGuarded := by
  cases hcall : call.isLifecycle with
  | true =>
    rcases s.method_lifecycle adapter hcall with ⟨hrefused, boot, error, -, hmethod⟩ |
      ⟨-, intent, operation, waiter, hqueues, -, hmethod⟩
    · have hnewest : ¬ s.operations.Newest Waiter.isConfigure := by
        intro hnewest
        have haccepts : s.accepts adapter call = true := by
          cases call with
          | configureAndStart input => exact (horderly hnewest).1
          | stop => rfl
          | acknowledgeRecovery reason => exact (horderly hnewest).1
          | _ => cases hcall
        rw [hrefused] at haccepts
        cases haccepts
      rw [hmethod]
      exact Guarded.emit (h.revoke.refused hnewest) rfl
    · rw [hmethod]
      refine Guarded.lifecycle h.revoke operation ?_ ?_ ?_ fun hhas hnewest => ?_
      · cases hqueues <;> simp [Waiter.isConfigure]
      · cases hqueues <;> first | (cases hcall; done) | simp
      · cases hqueues <;> first | (cases hcall; done) | simp
      · cases hqueues with
        | configureAndStart input => exact ⟨(horderly hnewest).2 hhas, input, rfl⟩
        | stop => exact absurd hhas (Bool.eq_false_iff.mp (horderly hnewest))
        | acknowledgeRecovery => exact absurd hhas (Bool.eq_false_iff.mp (horderly hnewest).2)
        | _ => cases hcall
  | false =>
    rcases s.method_beside adapter hcall with ⟨error, hmethod⟩ |
      ⟨-, operation, waiter, hqueues, hmethod⟩
    · rw [hmethod]
      refine (Guarded.emit h ?_).emit rfl
      simp [Output.plain, hcall]
    · rw [hmethod]
      refine Guarded.enqueue (Guarded.emit h ?_) operation ?_ ?_ ?_
      · simp [Output.plain, hcall]
      · cases hqueues <;> first | rfl | cases hcall
      · cases hqueues with
        | submitTurn input hgate =>
          intro input' turnEpoch generation heq
          obtain ⟨-, rfl, rfl⟩ := Operation.turnStart.inj heq
          exact hgate
        | _ => simp
      · cases hqueues with
        | submitTurn input hgate =>
          intro input' turnEpoch generation heq
          obtain ⟨-, rfl, rfl⟩ := Waiter.submitTurn.inj heq
          exact ⟨input, rfl⟩
        | _ => simp

/-- A status closes the gate unless it serves the generation of the gate. -/
lemma IsGuarded.delivered (status : RuntimeStatus) {gate : Option TurnAdmissionGate}
    (hgate : gate = none ∨ gate = s.turnGate ∧ ∀ g ∈ s.turnGate, status.status.serves = true) :
    Guarded s.operations (s.log ++ [.delivered status]) gate s.lifecycleEpoch s.runtimeState := by
  have hwas : Guarded s.operations s.log gate s.lifecycleEpoch s.runtimeState := by
    rcases hgate with rfl | ⟨rfl, -⟩
    · exact h.revoke
    · exact h
  refine hwas.extend (by simp [Output.interrupts]) ?_ ?_ (h.history.snoc trivial)
  · intro g hg _ o ho
    rw [List.mem_singleton.mp ho]
    rcases hgate with rfl | ⟨rfl, hserves⟩
    · cases hg
    · have hends : status.status.ends = false := by
        have := hserves g hg
        cases hkind : status.status <;> rw [hkind] at this <;> first | rfl | cases this
      simp [Output.endsGeneration, hends]
  · rw [lastTaken_append (by simp [Output.taken])]
    exact h.runtime

lemma IsGuarded.begin : s.begin.IsGuarded := by
  rcases s.begin_cases with ⟨hsame, -⟩ |
    ⟨first, hrunning, hfirst, ⟨phase, hbegin, -, hcurrent⟩ | ⟨error, hbegin⟩⟩
  · rwa [hsame]
  · have hbegun : Guarded s.operations (s.log ++ [.queue (.begun first.epoch)]) s.turnGate
        s.lifecycleEpoch s.runtimeState := Guarded.emit h rfl
    rw [hbegin]
    cases hoperation : first.operation with
    | turnStart input turnEpoch generation =>
      -- The gate is open, so it admits the turn.
      obtain ⟨⟨hopen, hlifecycle, -⟩, -⟩ : (s.turnGate = some ⟨turnEpoch, generation⟩ ∧
          s.lifecycleEpoch = turnEpoch ∧ s.runtimeState.map RuntimeStatus.generation =
            some generation) ∧ s.boot = .ready := by
        simpa [isTurnGateCurrent, isTurnGenerationCurrent] using hcurrent _ _ _ hoperation
      have hadmitted := hbegun.admitted _ hopen hlifecycle.symm
      have hsent : Guarded s.operations (s.log ++ [.queue (.begun first.epoch)] ++
          [.native first.epoch (.turnStart input)]) s.turnGate s.lifecycleEpoch s.runtimeState := by
        refine hbegun.extend (by simp [Output.interrupts]) ?_ ?_
          (hbegun.history.snoc ⟨_, hadmitted⟩)
        · exact fun g _ _ => List.forall_mem_singleton.mpr rfl
        · rw [lastTaken_append (by simp [Output.taken])]
          exact hbegun.runtime
      refine Guarded.advance hsent hfirst ?_ phase
      intro input' turnEpoch' generation' heq
      obtain ⟨rfl, rfl, rfl⟩ := Operation.turnStart.inj (hoperation.symm.trans heq)
      exact ⟨hbegun.gate_le _ hopen, _, input, [], rfl, hadmitted, by simp⟩
    | _ =>
      refine Guarded.advance (Guarded.emit hbegun rfl) hfirst ?_ phase
      rw [hoperation]
      simp
  · rw [hbegin]
    exact Guarded.settle (Guarded.emit h rfl) hfirst (Or.inr ⟨error, rfl⟩)

lemma IsGuarded.settle (outcome : Outcome) : (s.settle outcome).IsGuarded := by
  rcases s.settle_cases outcome with hsame |
    ⟨first, hrunning, hfirst, ⟨outcome', hsettle, -⟩ | ⟨⟨_, _, _, hoperation⟩, hsettle⟩⟩
  · rwa [hsame]
  · rw [hsettle]
    exact Guarded.settle h hfirst (Or.inl hrunning)
  · rw [hsettle]
    refine Guarded.advance (Guarded.emit h rfl) hfirst ?_ .last
    rw [hoperation]
    simp

end

lemma commitStatus_current (status : RuntimeStatus) {operationEpoch : ℕ}
    (h : s.isCurrentOperation operationEpoch lifecycleEpoch = true) :
    (s.commitStatus status operationEpoch lifecycleEpoch).operations = s.operations ∧
      (s.commitStatus status operationEpoch lifecycleEpoch).log = s.log ++ [.took status] ∧
      (s.commitStatus status operationEpoch lifecycleEpoch).lifecycleEpoch = s.lifecycleEpoch ∧
      (s.commitStatus status operationEpoch lifecycleEpoch).runtimeState = some status ∧
      (s.commitStatus status operationEpoch lifecycleEpoch).boot = bootForStatus status ∧
      (s.commitStatus status operationEpoch lifecycleEpoch).configurationIntent =
        s.configurationIntent := by
  unfold commitStatus
  rw [if_pos h]
  dsimp only
  split_ifs <;> exact ⟨rfl, rfl, rfl, rfl, rfl, rfl⟩

/-- A start settles: when it is committed nothing is in flight, and a ready one opens the gate. -/
lemma IsGuarded.startSettled (h : s.IsGuarded) {input : RuntimeConfigureInput} {intent : ℕ}
    {status : RuntimeStatus} (hnewest : s.operations.epoch = epoch →
      s.operations.queue = [] ∧ ∃ since, Latest s.log epoch since)
    (hhealthy : s.isCurrentOperation epoch lifecycleEpoch = true → s.configurationIntent = intent →
      status.status = .ready → Healthy s.log status.generation) :
    (s.startSettled input epoch lifecycleEpoch intent status).IsGuarded := by
  obtain ⟨_, started, rfl, ⟨hlate, -⟩ | ⟨t, hsettle, ht⟩⟩ :=
    s.startSettled_cases input epoch lifecycleEpoch intent status
  · rw [hlate]
    exact Guarded.enqueue h .stop rfl (by simp) (by simp)
  have hcommit := stable_guarded.commitStatus (s := { s with started }) h status epoch lifecycleEpoch
  rw [hsettle]
  refine Guarded.emit ?_ rfl
  rcases ht with ⟨rfl, -⟩ | ⟨⟨hintent, hcurrent⟩, ⟨rfl, -⟩ | ⟨rfl, hready, hpos⟩⟩
  · exact h
  · exact hcommit
  · have hboth : s.operations.epoch = epoch ∧ s.lifecycleEpoch = lifecycleEpoch :=
      of_decide_eq_true hcurrent
    obtain ⟨hoperations, hlog, hlifecycle, -⟩ := commitStatus_current (s := { s with started })
      status hcurrent
    obtain ⟨hqueue, since, hlatest⟩ := hnewest hboth.1
    have hopened : Guarded _ (_ ++ [.opened epoch status.generation]) _ _ _ := hcommit.emit rfl
    refine hopened.bind (by rw [hoperations, hqueue]) (hlifecycle.trans hboth.2) status.generation ?_
    rw [hlog, List.append_assoc]
    refine ⟨hpos, (hhealthy hcurrent hintent hready).append (by simp [Output.endsGeneration]), epoch,
      _, hlatest.append (by simp [Output.interrupts]), ?_⟩
    exact List.mem_append_right _ (by simp)

/-- The call of a turn resolves in the generation in which it has been sent. -/
lemma IsGuarded.resolveTurn (h : s.IsGuarded) {input : TurnStartInput} {turnEpoch : ℕ}
    {result : NativeResult} (hcurrent : s.isTurnGenerationCurrent turnEpoch generation = true)
    (hsent : SentUnder s.log s.lifecycleEpoch epoch turnEpoch generation) :
    (s.emit (.resolved (.submitTurn input) epoch result)).IsGuarded := by
  obtain ⟨-, hlifecycle, hgeneration⟩ : s.turnGate = some ⟨turnEpoch, generation⟩ ∧
      s.lifecycleEpoch = turnEpoch ∧
      s.runtimeState.map RuntimeStatus.generation = some generation := of_decide_eq_true hcurrent
  obtain ⟨-, before, sent, after, hlog, hadmitted, hmounted⟩ := hsent
  have hgeneration' : (lastTaken s.log).map RuntimeStatus.generation = some generation := by
    rw [← h.runtime]
    exact hgeneration
  refine Guarded.extend h (by simp [Output.interrupts]) ?_ ?_ (h.history.snoc ?_)
  · exact fun g _ _ => List.forall_mem_singleton.mpr rfl
  · rw [lastTaken_append (by simp [Output.taken])]
    exact h.runtime
  · exact ⟨generation, before, sent, after, hlog, hadmitted, hmounted hlifecycle, hgeneration'⟩

lemma IsGuarded.goOn (h : s.IsGuarded) {waiter : Waiter} {outcome : Outcome}
    (hnewest : waiter.isConfigure = true → s.operations.epoch = epoch →
      s.operations.queue = [] ∧ ∃ since, Latest s.log epoch since)
    (hhealthy : ∀ input lifecycleEpoch intent status,
      waiter = .configureAndStart input lifecycleEpoch intent → outcome = .ok (.status status) →
        s.isCurrentOperation epoch lifecycleEpoch = true → s.configurationIntent = intent →
          status.status = .ready → Healthy s.log status.generation)
    (hsent : ∀ input turnEpoch generation result,
      waiter = .submitTurn input turnEpoch generation → outcome = .ok result →
        SentUnder s.log s.lifecycleEpoch epoch turnEpoch generation) :
    (s.goOn epoch waiter outcome).IsGuarded := by
  have hfail : ∀ lifecycleEpoch next, (s.failCurrent epoch lifecycleEpoch next).IsGuarded :=
    Holds.failCurrent (I := Guarded) h epoch
  have hcommit : ∀ status lifecycleEpoch,
      (s.commitStatus status epoch lifecycleEpoch).IsGuarded := fun status lifecycleEpoch =>
    stable_guarded.commitStatus h status epoch lifecycleEpoch
  unfold Provider.goOn
  split
  · exact h.startSettled (hnewest rfl) (hhealthy _ _ _ _ rfl rfl)
  · exact Guarded.emit (hfail _ _) rfl
  · exact Guarded.emit h rfl
  · exact Guarded.emit (stable_guarded.commitStatus (s := { s with started := false }) h _ _ _) rfl
  · exact Guarded.emit (hfail _ _) rfl
  · exact h
  · exact hcommit _ _
  · split_ifs
    · exact hcommit _ _
    · exact hfail _ _
  · exact hcommit _ _
  · split_ifs
    · exact stable_guarded.failSetup h _ true
    · exact h
  · split_ifs <;> exact h
  · split_ifs with hcurrent
    · exact h.resolveTurn hcurrent (hsent _ _ _ _ rfl rfl)
    · exact Guarded.emit h rfl
  · exact Guarded.emit h rfl
  · exact Guarded.emit h rfl
  · exact Guarded.emit h rfl
  · exact Guarded.emit h rfl
  · exact Guarded.emit h rfl
  · split_ifs
    · exact Guarded.emit h rfl
    · exact Guarded.emit h rfl
  · exact Guarded.emit h rfl
  · dsimp only
    split_ifs <;> exact Guarded.emit h rfl
  · exact Guarded.emit (hfail _ _) rfl
  · exact h

lemma IsGuarded.resume (h : s.IsGuarded) (horderly : Orderly adapter s .resume) :
    s.resume.IsGuarded := by
  unfold Provider.resume
  split
  · exact h
  · next first rest hsettled =>
    have hfirst : first ∈ s.operations.settled := by simp [hsettled]
    obtain ⟨-, hlatest, hturn⟩ := h.waits.settled first hfirst
    refine IsGuarded.goOn (s := { s with operations := s.operations.resume }) (Guarded.resume h)
      ?_ ?_ ?_
    · intro hw hepoch
      exact ⟨h.ordered.queue_eq_nil hfirst hepoch.symm, hlatest hw hepoch.symm⟩
    · intro input lifecycleEpoch intent status hw hresult
      rw [Orderly, hsettled] at horderly
      obtain ⟨epoch, operation, waiter, result⟩ := first
      dsimp only at hw hresult
      subst hw hresult
      exact horderly
    · intro input turnEpoch generation result hw hresult
      obtain ⟨input', hoperation⟩ := hturn input turnEpoch generation hw
      exact h.settled first hfirst input' turnEpoch generation result hoperation hresult

/-- **An orderly action keeps what guards a turn.** -/
theorem IsGuarded.act (h : s.IsGuarded) {action : ProviderAction}
    (horderly : Orderly adapter s action) : (s.act adapter action).IsGuarded := by
  cases action with
  | call call => exact h.method horderly
  | event event => exact stable_guarded.handleEvent h event fun status _ => h.delivered status
  | begin => exact h.begin
  | settle outcome => exact h.settle outcome
  | resume => exact h.resume horderly
  | _ => exact stable_guarded.effect h rfl

/-! ## Runs -/

/-- **Every turn is admitted by the configured generation**, in every orderly run. -/
theorem turns_admitted (adapter : RuntimeHostAdapter) (actions : List ProviderAction)
    (horderly : EachStep (act adapter) (Orderly adapter) initial actions) :
    Justified Admits (initial.after adapter actions).log :=
  (horderly.invariant (I := IsGuarded) guarded_initial fun _ _ h horderly => h.act horderly).history

/-- A runtime is configured and a turn is sent. -/
def firstTurn : List ProviderAction :=
  configured ⟨.ready, 1, none⟩ ++ [.call (.submitTurn (prompt "a")), .begin]

/-- The turn of a runtime that is ready is admitted. -/
theorem first_turn_admitted : Justified Admits (initial.after fullAdapter firstTurn).log := by
  refine turns_admitted fullAdapter firstTurn ?_
  refine ⟨trivial, trivial, trivial, trivial, trivial, trivial, trivial, fun hnewest => ?_, trivial,
    trivial, trivial, ?_, trivial, trivial, trivial⟩
  · exact absurd hnewest (by decide +kernel)
  · intro _ _ _
    decide +kernel

/-- The generation of a start crashes before its result is handled. -/
def crashedBeforeReady : List ProviderAction :=
  [.mount, .cleaned, .recovered (.ok ⟨false, false, none, none⟩), .subscribed (.ok ()), .begin,
    .settle (.ok (.status ⟨.stopped, 0, none⟩)), .resume,
    .call (.configureAndStart plainConfiguration), .begin, .settle (.ok .configured),
    .event (.status ⟨.crashed, 1, none⟩), .settle (.ok (.status ⟨.ready, 1, none⟩)), .resume,
    .call (.submitTurn (prompt "a")), .begin]

/-- A turn is sent to a generation that has crashed. -/
theorem turn_sent_to_crashed_generation :
    ¬ Justified Admits (initial.after fullAdapter crashedBeforeReady).log := by
  intro h
  have hlog : (initial.after fullAdapter crashedBeforeReady).log =
      (initial.after fullAdapter crashedBeforeReady).log.dropLast ++
        [.native 3 (.turnStart (prompt "a"))] := by decide +kernel
  obtain ⟨generation, -, hhealthy, epoch, since, ⟨before, input, hpast, -⟩, hopened⟩ :=
    h _ _ [] hlog
  have hmem : .opened epoch generation ∈
      (initial.after fullAdapter crashedBeforeReady).log.dropLast.filter
        fun o => o matches .opened _ _ := by
    rw [List.mem_filter, hpast]
    exact ⟨by simp [hopened], rfl⟩
  have honly : (initial.after fullAdapter crashedBeforeReady).log.dropLast.filter
      (fun o => o matches .opened _ _) = [.opened 2 1] := by decide +kernel
  rw [honly, List.mem_singleton] at hmem
  obtain ⟨-, rfl⟩ := Output.opened.inj hmem
  have hends : ¬ Healthy (initial.after fullAdapter crashedBeforeReady).log.dropLast 1 := by
    decide +kernel
  exact hends hhealthy

end Provider

end JaDesktop.Connection
