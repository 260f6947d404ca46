import JaDesktop.Connection.ProviderSteps
import JaDesktop.Lib.Runs

/-!
# Whose input a native command carries

A call joins an operation in flight when their keys are equal, and most keys hold a part of the
input only.  `resolves_own_input` says what a call that resolves can rely on when every call that
joins has the input of the operation, and `second_prompt_not_sent` what happens to another call.
-/

namespace JaDesktop.Connection

/-! ## Inputs -/

/-- The native command that a call with an input stands for. -/
def Call.native : Call → Option NativeCall
  | .configureAndStart input => some (.configure input)
  | .submitTurn input => some (.turnStart input)
  | .cancelTurn input => some (.turnCancel input)
  | .approvalRespond input => some (.approvalRespond input)
  | .queryRuntime input => some (.query input)
  | .stop | .acknowledgeRecovery _ => none

/-- The call of a waiter that has one with an input. -/
def Waiter.call : Waiter → Option Call
  | .configureAndStart input _ _ => some (.configureAndStart input)
  | .submitTurn input _ _ => some (.submitTurn input)
  | .cancelTurn input => some (.cancelTurn input)
  | .approvalRespond input => some (.approvalRespond input)
  | .query input _ => some (.queryRuntime input)
  | _ => none

/-- The waiter waits for the command of its own call, and a late start was configured with its
input. -/
def Owns (log : List Output) (_epoch : ℕ) (operation : Operation) (waiter : Waiter) : Prop :=
  (∀ call ∈ waiter.call, call.native = some operation.native) ∧
    ∀ input epoch status, waiter = .lateStart input epoch status →
      .native epoch (.configure input) ∈ log

/-- The events of the queue. -/
def queueEvent : Output → Option QueueEvent
  | .queue event => some event
  | _ => none

/-- The operations that have begun, in this order. -/
def begunOf (log : List Output) : List ℕ := (log.filterMap queueEvent).filterMap QueueEvent.begunEpoch

def queuedOf (log : List Output) : List ℕ :=
  (log.filterMap queueEvent).filterMap QueueEvent.queuedEpoch

def settledOf (log : List Output) : List ℕ :=
  (log.filterMap queueEvent).filterMap QueueEvent.settledEpoch

/-- An operation sends one command, and a start after it. -/
structure Sent (log : List Output) : Prop where
  begun : ∀ epoch native, .native epoch native ∈ log → epoch ∈ begunOf log
  single : ∀ epoch native other, .native epoch native ∈ log → .native epoch other ∈ log →
    native = other ∨ native = .start ∨ other = .start

/-- **What the queue has served**: an operation runs its own command, and a call that has resolved
had its own input sent. -/
structure Served (operations : Operations) (log : List Output) : Prop where
  fifo : Fifo (log.filterMap queueEvent) operations
  ordered : operations.Ordered
  keyed : operations.Keyed Operation.key
  owned : operations.Each (Owns log)
  running : operations.running.isSome → ∀ first ∈ operations.queue.head?,
    .native first.epoch first.operation.native ∈ log
  settled : ∀ r ∈ operations.settled, ∀ result, r.result = .ok result →
    .native r.epoch r.operation.native ∈ log
  resolved : ∀ call epoch result, .resolved call epoch result ∈ log → ∀ native ∈ call.native,
    .native epoch native ∈ log
  sent : Sent log

variable {operations : Operations} {log outputs : List Output}

lemma served_initial : Served Provider.initial.operations Provider.initial.log where
  fifo := ⟨rfl, rfl, by simp [Provider.initial], by simp [Provider.initial],
    by simp [Provider.initial]⟩
  ordered := ⟨List.Pairwise.nil, List.nodup_nil, by simp [Provider.initial],
    by simp [Provider.initial], by simp [Provider.initial],
    by simp [Provider.initial]⟩
  keyed := by simp [Provider.initial, SerialQueue.Keyed]
  owned := ⟨by simp [Provider.initial], by simp [Provider.initial]⟩
  running := by simp [Provider.initial]
  settled := by simp [Provider.initial]
  resolved := by simp [Provider.initial]
  sent := ⟨by simp [Provider.initial], by simp [Provider.initial]⟩

lemma Sent.append (h : Sent log) (hnone : ∀ epoch native, .native epoch native ∉ outputs) :
    Sent (log ++ outputs) := by
  have hwas : ∀ epoch native, .native epoch native ∈ log ++ outputs → .native epoch native ∈ log := by
    intro epoch native hmem
    rcases List.mem_append.mp hmem with hold | hnew
    · exact hold
    · exact absurd hnew (hnone epoch native)
  constructor
  · intro epoch native hmem
    rw [begunOf, List.filterMap_append, List.filterMap_append]
    exact List.mem_append_left _ (h.begun epoch native (hwas epoch native hmem))
  · intro epoch native other hnative hother
    exact h.single epoch native other (hwas _ _ hnative) (hwas _ _ hother)

variable {epoch : ℕ} {first : QueuedOperation OperationKey Operation Waiter}

/-- A command of an operation that has begun, and has sent none before it or is started. -/
lemma Sent.native (h : Sent log) {native : NativeCall} (hbegun : epoch ∈ begunOf log)
    (hfirst : native = .start ∨ ∀ other, .native epoch other ∉ log) :
    Sent (log ++ [.native epoch native]) := by
  constructor
  · intro epoch' native' hmem
    rw [begunOf, List.filterMap_append, List.filterMap_append]
    refine List.mem_append_left _ ?_
    rcases List.mem_append.mp hmem with hold | hnew
    · exact h.begun epoch' native' hold
    · obtain ⟨rfl, -⟩ : epoch' = epoch ∧ native' = native := by simpa using hnew
      exact hbegun
  · intro epoch' one other hone hother
    rcases List.mem_append.mp hone with holdOne | hnewOne <;>
      rcases List.mem_append.mp hother with holdOther | hnewOther
    · exact h.single epoch' one other holdOne holdOther
    · obtain ⟨rfl, rfl⟩ : epoch' = epoch ∧ other = native := by simpa using hnewOther
      rcases hfirst with hstart | hnone
      · exact Or.inr (Or.inr hstart)
      · exact absurd holdOne (hnone one)
    · obtain ⟨rfl, rfl⟩ : epoch' = epoch ∧ one = native := by simpa using hnewOne
      rcases hfirst with hstart | hnone
      · exact Or.inr (Or.inl hstart)
      · exact absurd holdOther (hnone other)
    · obtain ⟨-, rfl⟩ : epoch' = epoch ∧ one = native := by simpa using hnewOne
      obtain ⟨-, rfl⟩ : epoch' = epoch ∧ other = one := by simpa using hnewOther
      exact Or.inl rfl

lemma Owns.mono {operation : Operation} {waiter : Waiter} (h : Owns log epoch operation waiter)
    (hlog : log ⊆ outputs) :
    Owns outputs epoch operation waiter :=
  ⟨h.1, fun input e status hwaiter => hlog (h.2 input e status hwaiter)⟩

/-- An output that says nothing about the queue. -/
def Output.quiet : Output → Bool
  | .queue _ | .native _ _ | .resolved _ _ _ => false
  | _ => true

section

variable (h : Served operations log)
include h

/-- A step that takes nothing back: what has been sent stays sent, and what resolves has been sent. -/
lemma Served.grow {operations' : Operations}
    (hfifo : Fifo ((log ++ outputs).filterMap queueEvent) operations')
    (hordered : operations'.Ordered) (hkeyed : operations'.Keyed Operation.key)
    (howned : operations'.Each (Owns log))
    (hrunning : operations'.running.isSome → ∀ first ∈ operations'.queue.head?,
      .native first.epoch first.operation.native ∈ log ++ outputs)
    (hsettled : ∀ r ∈ operations'.settled, ∀ result, r.result = .ok result →
      .native r.epoch r.operation.native ∈ log)
    (hresolved : ∀ call epoch result, .resolved call epoch result ∈ outputs →
      ∀ native ∈ call.native, .native epoch native ∈ log)
    (hsent : Sent (log ++ outputs)) : Served operations' (log ++ outputs) where
  fifo := hfifo
  ordered := hordered
  keyed := hkeyed
  owned := howned.mono fun _ _ _ howns => howns.mono (List.subset_append_left _ _)
  running := hrunning
  settled r hr result hresult := List.mem_append_left _ (hsettled r hr result hresult)
  resolved call epoch result hmem native hnative := by
    refine List.mem_append_left _ ?_
    rcases List.mem_append.mp hmem with hold | hnew
    · exact h.resolved call epoch result hold native hnative
    · exact hresolved call epoch result hnew native hnative
  sent := hsent

lemma Served.quiet (hquiet : ∀ o ∈ outputs, o.quiet = true) :
    Served operations (log ++ outputs) := by
  have hevents : outputs.filterMap queueEvent = [] := by
    rw [List.filterMap_eq_nil_iff]
    intro o ho
    have := hquiet o ho
    cases o <;> first | rfl | cases this
  refine h.grow ?_ h.ordered h.keyed h.owned ?_ h.settled ?_ ?_
  · rw [List.filterMap_append, hevents, List.append_nil]
    exact h.fifo
  · exact fun hsome first hfirst => List.mem_append_left _ (h.running hsome first hfirst)
  · exact fun call epoch result hnew => by cases hquiet _ hnew
  · exact h.sent.append fun epoch native hmem => by cases hquiet _ hmem

lemma Served.emit {output : Output} (hquiet : output.quiet = true) :
    Served operations (log ++ [output]) :=
  h.quiet (by simpa using hquiet)

lemma Served.enqueue (operation : Operation) {waiter : Waiter}
    (hjoin : ∀ o ∈ operations.queue, o.key = operation.key → Owns log o.epoch o.operation waiter)
    (hnew : Owns log (operations.epoch + 1) operation waiter) :
    Served (operations.enqueue operation.key operation waiter)
      (log ++ queuedOutputs operations operation.key) := by
  refine h.grow ?_ h.ordered.enqueue h.keyed.enqueue (h.owned.enqueue hjoin fun _ => hnew) ?_ ?_ ?_ ?_
  · have hevents : (log ++ queuedOutputs operations operation.key).filterMap queueEvent =
        log.filterMap queueEvent ++ if operations.has operation.key then []
          else [.queued (operations.epoch + 1)] := by
      unfold queuedOutputs
      split_ifs <;> simp [queueEvent]
    rw [hevents]
    exact h.fifo.enqueue
  · intro hsome first hfirst
    -- The first operation is not a new one, since one is running.
    rw [SerialQueue.running_enqueue] at hsome
    obtain ⟨head, hhead, hepoch, hoperation⟩ := SerialQueue.head_enqueue (h.fifo.runs hsome) hfirst
    rw [hepoch, hoperation]
    exact List.mem_append_left _ (h.running hsome head hhead)
  · rw [SerialQueue.settled_enqueue]
    exact h.settled
  · intro call epoch result hmem
    cases eq_of_mem_queuedOutputs hmem
  · exact h.sent.append fun epoch native hmem => by cases eq_of_mem_queuedOutputs hmem

/-- An operation in flight has begun when it is the running one, and only then. -/
lemma Served.running_begun (hrunning : operations.running.isSome)
    (hfirst : operations.queue.head? = some first) : first.epoch ∈ begunOf log := by
  rw [begunOf, h.fifo.begun, SerialQueue.runningEpoch, if_pos hrunning, hfirst]
  simp

lemma Served.first_not_begun (hrunning : operations.running = none)
    (hfirst : operations.queue.head? = some first) : first.epoch ∉ begunOf log := by
  have hbegun : begunOf log = settledOf log := by
    rw [begunOf, h.fifo.begun, SerialQueue.runningEpoch, hrunning]
    simp [settledOf]
  have hincreasing : (settledOf log ++ operations.queue.map QueuedOperation.epoch).Pairwise
      (· < ·) := by
    rw [settledOf, ← h.fifo.queued]
    exact h.fifo.increasing
  have hmem : first.epoch ∈ operations.queue.map QueuedOperation.epoch :=
    List.mem_map.mpr ⟨first, List.mem_of_mem_head? hfirst, rfl⟩
  rw [hbegun]
  intro hwas
  exact Nat.lt_irrefl _ ((List.pairwise_append.mp hincreasing).2.2 _ hwas _ hmem)

lemma Served.begin (hrunning : operations.running = none)
    (hfirst : operations.queue.head? = some first) (phase : Phase) :
    Served (operations.advance phase) (log ++ [.queue (.begun first.epoch)] ++
      [.native first.epoch first.operation.native]) := by
  rw [List.append_assoc]
  refine h.grow ?_ (h.ordered.advance phase) h.keyed (h.owned.advance phase) ?_ h.settled (by simp) ?_
  · have hevents : (log ++ ([Output.queue (.begun first.epoch)] ++
        [Output.native first.epoch first.operation.native])).filterMap queueEvent =
        log.filterMap queueEvent ++ [.begun first.epoch] := by
      simp [queueEvent, List.filterMap_cons]
    rw [hevents]
    exact h.fifo.begin hrunning hfirst phase
  · intro _ first' hfirst'
    obtain rfl := Option.some.inj (hfirst.symm.trans hfirst')
    simp
  · have hbegan : Sent (log ++ [.queue (.begun first.epoch)]) := h.sent.append (by simp)
    rw [← List.append_assoc]
    refine hbegan.native (by simp [begunOf, queueEvent, QueueEvent.begunEpoch]) (Or.inr ?_)
    intro other hother
    have hwas : .native first.epoch other ∈ log := by simpa using hother
    exact h.first_not_begun hrunning hfirst (h.sent.begun _ _ hwas)

lemma Served.settle (hrunning : operations.running.isSome)
    (hfirst : operations.queue.head? = some first) (outcome : Outcome) :
    Served (operations.settle outcome) (log ++ [.queue (.settled first.epoch)]) := by
  have hfifo := h.fifo.settle hrunning hfirst outcome
  refine h.grow ?_ (h.ordered.settle outcome) (h.keyed.settle _) (h.owned.settle outcome) ?_ ?_
    (by simp) (h.sent.append (by simp))
  · rw [List.filterMap_append]
    exact hfifo
  · intro hsome
    obtain ⟨rest, hqueue⟩ := List.head?_eq_some_iff.mp hfirst
    rw [SerialQueue.settle, hqueue] at hsome
    cases hsome
  · intro r hr result hresult
    rcases SerialQueue.mem_settle hr with hold | ⟨first', hfirst', waiter, -, rfl⟩
    · exact h.settled r hold result hresult
    · obtain rfl := Option.some.inj (hfirst.symm.trans hfirst')
      exact h.running hrunning first hfirst

lemma Served.throw (hrunning : operations.running = none)
    (hfirst : operations.queue.head? = some first) (error : RuntimeHostError) :
    Served (operations.settle (.error error))
      (log ++ [.queue (.begun first.epoch)] ++ [.queue (.settled first.epoch)]) := by
  obtain ⟨rest, hqueue⟩ := List.head?_eq_some_iff.mp hfirst
  have hsame : (operations.advance .last).settle (.error error) =
      operations.settle (.error error) := by
    unfold SerialQueue.settle SerialQueue.advance
    rw [hqueue]
  have hfifo := (h.fifo.begin hrunning hfirst .last).settle (q := operations.advance .last) rfl
    hfirst (.error error)
  rw [hsame] at hfifo
  rw [List.append_assoc]
  refine h.grow ?_ (h.ordered.settle _) (h.keyed.settle _) (h.owned.settle _) ?_ ?_ (by simp)
    (h.sent.append (by simp))
  · rw [← List.append_assoc, List.filterMap_append, List.filterMap_append]
    exact hfifo
  · intro hsome
    rw [SerialQueue.settle, hqueue] at hsome
    cases hsome
  · intro r hr result hresult
    rcases SerialQueue.mem_settle hr with hold | ⟨first', -, waiter, -, rfl⟩
    · exact h.settled r hold result hresult
    · cases hresult

lemma Served.resolve {call : Call} {result : NativeResult}
    (hsent : ∀ native ∈ call.native, .native epoch native ∈ log) :
    Served operations (log ++ [.resolved call epoch result]) := by
  refine h.grow ?_ h.ordered h.keyed h.owned ?_ h.settled ?_ (h.sent.append (by simp))
  · rw [List.filterMap_append]
    simpa [queueEvent, List.filterMap_cons] using h.fifo
  · exact fun hsome first hfirst => List.mem_append_left _ (h.running hsome first hfirst)
  · intro call' epoch' result' hadded native hnative
    obtain ⟨rfl, rfl, rfl⟩ : call' = call ∧ epoch' = epoch ∧ result' = result := by
      simpa using hadded
    exact hsent native hnative

lemma Served.resume : Served operations.resume log where
  __ := h
  fifo := h.fifo.congr (Nat.le_refl _) rfl rfl
  ordered := h.ordered.resume
  owned := h.owned.resume
  settled r hr := h.settled r (List.mem_of_mem_tail hr)

lemma Served.supersede : Served operations.supersede log where
  __ := h
  fifo := h.fifo.congr (Nat.le_succ _) rfl rfl
  ordered := h.ordered.supersede
  owned := h.owned.supersede

end

/-! ## Actions -/

namespace Provider

variable {s : Provider} {adapter : RuntimeHostAdapter}

/-- **The condition**: an accepted call that joins an operation in flight has its input. -/
def Suits (adapter : RuntimeHostAdapter) (s : Provider) : ProviderAction → Prop
  | .call call => s.accepts adapter call = true → ∀ o ∈ s.operations.queue,
    match call, o.operation with
    | .configureAndStart input, .configureAndStart other _ _ =>
      configureOperationKey other = configureOperationKey input → other = input
    | .submitTurn input, .turnStart other _ _ => other.threadId = input.threadId → other = input
    | .cancelTurn input, .turnCancel other _ =>
      other.threadId = input.threadId → other.turnId = input.turnId → other = input
    | .approvalRespond input, .approvalRespond other =>
      other.approvalId = input.approvalId → other = input
    | _, _ => True
  | _ => True

abbrev IsServed (s : Provider) : Prop := Served s.operations s.log

lemma stable_served : Stable fun operations log _ _ _ => Served operations log where
  took _ h := h.emit rfl
  revoke h := h
  internal h hinternal :=
    have howns : ∀ {epoch operation}, Owns _ epoch operation _ := by
      cases hinternal <;> exact ⟨by simp [Waiter.call], by simp⟩
    h.enqueue _ (fun _ _ _ => howns) howns
  mount h := h
  unmount h := (h.emit rfl).supersede

lemma log_subset_commitStatus (status : RuntimeStatus) (operationEpoch lifecycleEpoch : ℕ) :
    s.log ⊆ (s.commitStatus status operationEpoch lifecycleEpoch).log := by
  unfold commitStatus
  split_ifs
  · exact List.subset_append_left _ _
  · exact List.subset_append_left _ _
  · exact List.Subset.refl _

variable {operation : Operation} {waiter : Waiter} {epoch : ℕ}

/-- What suits joins operations with the same native command; the key of a query holds all of its
input. -/
lemma native_of_suits {call : Call} {operation : Operation}
    {o : QueuedOperation OperationKey Operation Waiter} (hsuits : Suits adapter s (.call call))
    (haccepts : s.accepts adapter call = true) (hcall : call.native = some operation.native)
    (ho : o ∈ s.operations.queue) (hkey : o.operation.key = operation.key) :
    o.operation.native = operation.native := by
  have hjoins := hsuits haccepts o ho
  cases call <;> cases operation <;> cases hcall <;>
    cases hother : o.operation <;> rw [hother] at hjoins hkey <;>
    simp only [Operation.key, reduceCtorEq, OperationKey.configureAndStart.injEq,
      OperationKey.turnStart.injEq, OperationKey.turnCancel.injEq,
      OperationKey.approvalRespond.injEq, OperationKey.runtimeQuery.injEq] at hkey
  case configureAndStart => rw [hjoins hkey]; rfl
  case turnStart => rw [hjoins hkey]; rfl
  case turnCancel => rw [hjoins hkey.1 hkey.2]; rfl
  case approvalRespond => rw [hjoins hkey]
  case query => rw [hkey]

section

variable (h : s.IsServed)
include h

lemma IsServed.refuse (call : Call) (error : RuntimeHostError) :
    (s.refuse call error).IsServed := (h.emit rfl).emit rfl

/-- A call that is queued waits for its own native command, or for none. -/
lemma IsServed.call {call : Call} {intent : ℕ} (hqueues : s.Queues intent call operation waiter)
    (hsuits : Suits adapter s (.call call)) (haccepts : s.accepts adapter call = true) :
    (s.call call operation.key operation waiter).IsServed := by
  have hown : ∀ call' ∈ waiter.call, call' = call ∧ call.native = some operation.native := by
    cases hqueues <;> simp [Waiter.call, Call.native, Operation.native]
  have hlate : ∀ input epoch status, waiter ≠ .lateStart input epoch status := by
    cases hqueues <;> simp
  have hemit : (s.emit (.called call (some (s.operations.epochOf operation.key)))).IsServed :=
    h.emit rfl
  refine Served.enqueue hemit _ (fun o ho hkey => ⟨fun call' hcall => ?_, ?_⟩) ⟨fun call' hcall => ?_, ?_⟩
  · obtain ⟨rfl, hnative⟩ := hown call' hcall
    rw [hnative, native_of_suits hsuits haccepts hnative ho ((h.keyed o ho).symm.trans hkey)]
  · exact fun input epoch status hw => absurd hw (hlate input epoch status)
  · obtain ⟨rfl, hnative⟩ := hown call' hcall
    exact hnative
  · exact fun input epoch status hw => absurd hw (hlate input epoch status)

lemma IsServed.method {call : Call} (hsuits : Suits adapter s (.call call)) :
    (s.method adapter call).IsServed := by
  cases hcall : call.isLifecycle with
  | true =>
    rcases s.method_lifecycle adapter hcall with ⟨-, boot, error, -, hmethod⟩ |
      ⟨haccepts, intent, operation, waiter, hqueues, -, hmethod⟩
    · rw [hmethod]
      exact IsServed.refuse (s := s.revokeTurnGate.updateBoot boot) h _ _
    · rw [hmethod]
      exact h.call hqueues hsuits haccepts
  | false =>
    rcases s.method_beside adapter hcall with ⟨error, hmethod⟩ |
      ⟨haccepts, operation, waiter, hqueues, hmethod⟩
    · rw [hmethod]
      exact h.refuse _ _
    · rw [hmethod]
      exact h.call hqueues hsuits haccepts

lemma IsServed.begin : s.begin.IsServed := by
  rcases s.begin_cases with ⟨hsame, -⟩ |
    ⟨first, hrunning, hfirst, ⟨phase, hbegin, -⟩ | ⟨error, hbegin⟩⟩
  · rwa [hsame]
  · rw [hbegin]
    exact Served.begin h hrunning hfirst phase
  · rw [hbegin]
    exact Served.throw h hrunning hfirst error

lemma IsServed.settle (outcome : Outcome) : (s.settle outcome).IsServed := by
  rcases s.settle_cases outcome with hsame |
    ⟨first, hrunning, hfirst, ⟨outcome', hsettle, -⟩ | ⟨-, hsettle⟩⟩
  · rwa [hsame]
  · rw [hsettle]
    exact Served.settle h hrunning hfirst outcome'
  · -- The second command of the running operation.
    rw [hsettle]
    have hfifo : Fifo (s.log.filterMap queueEvent) (s.operations.advance .last) :=
      h.fifo.congr (Nat.le_refl _) rfl hrunning.symm
    show Served (s.operations.advance .last) (s.log ++ [.native first.epoch .start])
    refine h.grow ?_ (h.ordered.advance .last) h.keyed (h.owned.advance .last) ?_ h.settled
      (by simp) ?_
    · rw [List.filterMap_append]
      simpa [queueEvent, List.filterMap_cons] using hfifo
    · exact fun _ first hfirst => List.mem_append_left _ (h.running hrunning first hfirst)
    · exact h.sent.native (h.running_begun hrunning hfirst) (Or.inl rfl)

lemma IsServed.startSettled {input : RuntimeConfigureInput}
    {lifecycleEpoch intent : ℕ} {status : RuntimeStatus}
    (hsent : .native epoch (.configure input) ∈ s.log) :
    (s.startSettled input epoch lifecycleEpoch intent status).IsServed := by
  obtain ⟨_, started, rfl, ⟨hlate, -⟩ | ⟨t, hsettle, ht⟩⟩ :=
    s.startSettled_cases input epoch lifecycleEpoch intent status
  · rw [hlate]
    have howns : ∀ {e operation}, Owns s.log e operation (.lateStart input epoch status) := by
      refine ⟨by simp [Waiter.call], fun input' epoch' status' heq => ?_⟩
      obtain ⟨rfl, rfl, rfl⟩ := Waiter.lateStart.inj heq
      exact hsent
    exact Served.enqueue h .stop (fun _ _ _ => howns) howns
  · have hcommit := stable_served.commitStatus (s := { s with started }) h status epoch lifecycleEpoch
    have hlog : s.log ⊆ (Provider.commitStatus { s with started } status epoch lifecycleEpoch).log :=
      log_subset_commitStatus (s := { s with started }) status epoch lifecycleEpoch
    obtain ⟨hserved, hgrows⟩ : t.IsServed ∧ s.log ⊆ t.log := by
      rcases ht with ⟨rfl, -⟩ | ⟨-, ⟨rfl, -⟩ | ⟨rfl, -⟩⟩
      · exact ⟨h, List.Subset.refl _⟩
      · exact ⟨hcommit, hlog⟩
      · exact ⟨hcommit.emit rfl, List.Subset.trans hlog (List.subset_append_left _ _)⟩
    rw [hsettle]
    refine Served.resolve hserved fun native hnative => ?_
    obtain rfl := Option.some.inj hnative
    exact hgrows hsent

lemma IsServed.goOn {outcome : Outcome} (howns : Owns s.log epoch operation waiter)
    (hsent : ∀ result, outcome = .ok result → .native epoch operation.native ∈ s.log) :
    (s.goOn epoch waiter outcome).IsServed := by
  -- What a waiter resolves with has been sent.
  have hown : ∀ call result, waiter.call = some call → outcome = .ok result →
      ∀ native ∈ call.native, .native epoch native ∈ s.log := by
    intro call result hcall hok native hnative
    have hsame := howns.1 call hcall
    obtain rfl := Option.some.inj (hnative.symm.trans hsame)
    exact hsent result hok
  have hfail : ∀ lifecycleEpoch next, (s.failCurrent epoch lifecycleEpoch next).IsServed :=
    Holds.failCurrent (I := fun operations log _ _ _ => Served operations log) h epoch
  have hcommit : ∀ status lifecycleEpoch,
      (s.commitStatus status epoch lifecycleEpoch).IsServed := fun status lifecycleEpoch =>
    stable_served.commitStatus h status epoch lifecycleEpoch
  unfold Provider.goOn
  split
  · exact h.startSettled (hown _ _ rfl rfl _ rfl)
  · exact Served.emit (hfail _ _) rfl
  · refine Served.resolve h fun native hnative => ?_
    obtain rfl := Option.some.inj hnative
    exact howns.2 _ _ _ rfl
  · exact Served.resolve (stable_served.commitStatus (s := { s with started := false }) h _ _ _)
      (by simp [Call.native])
  · exact Served.emit (hfail _ _) rfl
  · exact h
  · exact hcommit _ _
  · split_ifs
    · exact hcommit _ _
    · exact hfail _ _
  · exact hcommit _ _
  · split_ifs
    · exact stable_served.failSetup h _ true
    · exact h
  · split_ifs <;> exact h
  · split_ifs
    · exact Served.resolve h (hown _ _ rfl rfl)
    · exact Served.emit h rfl
  · exact Served.emit h rfl
  · exact Served.resolve h (hown _ _ rfl rfl)
  · exact Served.emit h rfl
  · exact Served.resolve h (hown _ _ rfl rfl)
  · exact Served.emit h rfl
  · split_ifs
    · exact Served.resolve h (hown _ _ rfl rfl)
    · exact Served.emit h rfl
  · exact Served.emit h rfl
  · dsimp only
    split_ifs <;> exact Served.resolve h (by simp [Call.native])
  · exact Served.emit (hfail _ _) rfl
  · exact h

lemma IsServed.resume : s.resume.IsServed := by
  unfold Provider.resume
  split
  · exact h
  · next first rest hsettled =>
    have hfirst : first ∈ s.operations.settled := by simp [hsettled]
    exact IsServed.goOn (s := { s with operations := s.operations.resume }) (Served.resume h)
      (h.owned.settled first hfirst) (h.settled first hfirst)

/-- **An action that suits keeps what has been served.** -/
theorem IsServed.act {action : ProviderAction} (hsuits : Suits adapter s action) :
    (s.act adapter action).IsServed := by
  cases action with
  | call call => exact h.method hsuits
  | event event => exact stable_served.handleEvent h event fun _ _ _ => h.emit rfl
  | begin => exact h.begin
  | settle outcome => exact h.settle outcome
  | resume => exact h.resume
  | _ => exact stable_served.effect h rfl

end

/-! ## Runs -/

/-- **What a call can rely on.** -/
structure OwnInput (s : Provider) : Prop where
  /-- one operation runs at a time -/
  one_runs : begunOf s.log = settledOf s.log ∨
    ∃ epoch, begunOf s.log = settledOf s.log ++ [epoch]
  /-- operations begin in the order in which they have been queued -/
  in_order : begunOf s.log <+: queuedOf s.log ∧ (queuedOf s.log).Pairwise (· < ·)
  /-- a failure ends the running operation alone -/
  released : ∀ error, s.operations.running.isSome →
    (s.settle (.error error)).operations.running = none ∧
      queuedOf (s.settle (.error error)).log = queuedOf s.log
  /-- an operation that has been queued can begin when none runs -/
  begins : s.operations.running = none → begunOf s.log ≠ queuedOf s.log →
    ∃ epoch, begunOf s.begin.log = begunOf s.log ++ [epoch]
  /-- the command of a call that has resolved carried the input of this call and no other -/
  own_input : ∀ call epoch result, .resolved call epoch result ∈ s.log →
    ∀ native ∈ call.native, .native epoch native ∈ s.log ∧
      ∀ other, .native epoch other ∈ s.log → other = native ∨ other = .start

lemma native_ne_start {call : Call} {native : NativeCall} (h : native ∈ call.native) :
    native ≠ .start := by
  rintro rfl
  cases call <;> cases h

lemma settle_error (h : s.IsServed) (hrunning : s.operations.running.isSome)
    (error : RuntimeHostError) : ∃ first, s.operations.queue.head? = some first ∧
      s.settle (.error error) = s.settleFirst first.epoch (.error error) := by
  obtain ⟨first, rest, hqueue⟩ := List.exists_cons_of_ne_nil (h.fifo.runs hrunning)
  obtain ⟨phase, hphase⟩ := Option.isSome_iff_exists.mp hrunning
  refine ⟨first, by rw [hqueue]; rfl, ?_⟩
  rw [Provider.settle, hqueue, hphase]
  cases phase <;> rfl

lemma begunOf_begin (hrunning : s.operations.running = none) (hqueue : s.operations.queue ≠ []) :
    ∃ epoch, begunOf s.begin.log = begunOf s.log ++ [epoch] := by
  rcases s.begin_cases with ⟨-, hnone⟩ | ⟨first, -, -, ⟨phase, hbegin, -⟩ | ⟨error, hbegin⟩⟩
  · exact absurd (hnone hrunning) hqueue
  · refine ⟨first.epoch, ?_⟩
    rw [hbegin]
    simp [begunOf, invoke, emit, queueEvent, List.filterMap_cons, QueueEvent.begunEpoch]
  · refine ⟨first.epoch, ?_⟩
    rw [hbegin]
    simp [begunOf, settleFirst, emit, queueEvent, List.filterMap_cons, QueueEvent.begunEpoch]

lemma IsServed.ownInput (h : s.IsServed) : s.OwnInput := by
  have hbegun : begunOf s.log = settledOf s.log ++ s.operations.runningEpoch := h.fifo.begun
  have hqueued : queuedOf s.log =
      settledOf s.log ++ s.operations.queue.map QueuedOperation.epoch := h.fifo.queued
  constructor
  case one_runs =>
    rw [hbegun, SerialQueue.runningEpoch]
    split_ifs
    · cases s.operations.queue.head? with
      | none => simp
      | some first => exact Or.inr ⟨first.epoch, rfl⟩
    · exact Or.inl (List.append_nil _)
  case in_order =>
    refine ⟨?_, h.fifo.increasing⟩
    rw [hbegun, hqueued]
    refine (List.prefix_append_right_inj _).mpr ?_
    rw [SerialQueue.runningEpoch]
    split_ifs
    · cases s.operations.queue with
      | nil => simp
      | cons first rest => simp
    · exact List.nil_prefix
  case released =>
    intro error hrunning
    obtain ⟨first, hfirst, hsettle⟩ := settle_error h hrunning error
    obtain ⟨rest, hqueue⟩ : ∃ rest, s.operations.queue = first :: rest :=
      List.head?_eq_some_iff.mp hfirst
    rw [hsettle]
    constructor
    · rw [settleFirst]
      dsimp only
      rw [SerialQueue.settle, hqueue]
    · simp [queuedOf, settleFirst, emit, queueEvent, QueueEvent.queuedEpoch, List.filterMap_cons]
  case begins =>
    intro hrunning hne
    refine begunOf_begin hrunning fun hqueue => ?_
    rw [hbegun, hqueued, hqueue, SerialQueue.runningEpoch, hrunning] at hne
    exact absurd rfl hne
  case own_input =>
    intro call epoch result hresolved native hnative
    have hsent := h.resolved call epoch result hresolved native hnative
    refine ⟨hsent, fun other hother => ?_⟩
    rcases h.sent.single epoch other native hother hsent with hsame | hstart | hstart
    · exact Or.inl hsame
    · exact Or.inr hstart
    · exact absurd hstart (native_ne_start hnative)

/-- **Operations run one at a time and in order, and a call that resolves had its own input sent**,
in every run where a call joins operations with its own input only. -/
theorem resolves_own_input (adapter : RuntimeHostAdapter) (actions : List ProviderAction)
    (hsuits : EachStep (act adapter) (Suits adapter) initial actions) :
    (initial.after adapter actions).OwnInput :=
  IsServed.ownInput (hsuits.invariant (I := IsServed) served_initial
    fun _ _ h hsuits => h.act hsuits)

/-- An adapter with every method. -/
def fullAdapter : RuntimeHostAdapter := ⟨true, true, true, true⟩

def approveOnce : ApprovalResponseInput := ⟨"apr_1", .allowOnce, "2026-01-01T00:00:00Z"⟩

/-- An approval that is sent and settles. -/
def approvalActions : List ProviderAction :=
  [.call (.approvalRespond approveOnce), .begin, .settle (.ok .responded), .resume]

/-- An approval that resolves has been sent. -/
theorem approval_resolves_own_input :
    Output.native 1 (.approvalRespond approveOnce) ∈
      (initial.after fullAdapter approvalActions).log :=
  have hsuits : EachStep (act fullAdapter) (Suits fullAdapter) initial approvalActions :=
    ⟨fun _ o ho => absurd ho List.not_mem_nil, trivial, trivial, trivial, trivial⟩
  ((resolves_own_input fullAdapter approvalActions hsuits).own_input
    (.approvalRespond approveOnce) 1 .responded (by decide) (.approvalRespond approveOnce) rfl).1

/-- A configuration without models. -/
def plainConfiguration : RuntimeConfigureInput where
  workspaceId := "ws_1"
  rootPath := "/work"
  displayName := none
  trust := .trusted
  settings := ⟨1, some 1, none, none, none, none, ⟨none, none, none⟩⟩

/-- A runtime is configured and its start gives a status. -/
def configured (status : RuntimeStatus) : List ProviderAction :=
  [.mount, .cleaned, .recovered (.ok ⟨false, false, none, none⟩), .subscribed (.ok ()), .begin,
    .settle (.ok (.status ⟨.stopped, 0, none⟩)), .resume,
    .call (.configureAndStart plainConfiguration), .begin, .settle (.ok .configured),
    .settle (.ok (.status status)), .resume]

def prompt (text : String) : TurnStartInput := ⟨"thr_1", .workspace, "rev_1", [text]⟩

/-- Two prompts of a thread, the second before the first has settled. -/
def overlappingPrompts : List ProviderAction :=
  configured ⟨.ready, 1, none⟩ ++
    [.call (.submitTurn (prompt "a")), .call (.submitTurn (prompt "b")), .begin,
      .settle (.ok (.turnAccepted ⟨true, "turn_1", false, "accepted"⟩)), .resume, .resume]

/-- The second prompt is accepted and has not been sent. -/
theorem second_prompt_not_sent : ¬ (initial.after fullAdapter overlappingPrompts).OwnInput := by
  intro h
  have hresolved : Output.resolved (.submitTurn (prompt "b")) 3
      (.turnAccepted ⟨true, "turn_1", false, "accepted"⟩) ∈
        (initial.after fullAdapter overlappingPrompts).log := by decide +kernel
  have hsent := (h.own_input _ _ _ hresolved (.turnStart (prompt "b")) rfl).1
  have hnot : Output.native 3 (.turnStart (prompt "b")) ∉
      (initial.after fullAdapter overlappingPrompts).log := by decide +kernel
  exact hnot hsent

end Provider

end JaDesktop.Connection
