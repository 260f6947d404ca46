import Mathlib.Data.List.TakeWhile
import JaDesktop.Connection.TurnAdmission

/-!
# Lifecycle operations in the queue

A lifecycle call is waited for from the time it is queued until one of its waiters has gone on.
`Tracked` relates the queue to what has been seen of these calls; each operation of the queue keeps
it.
-/

namespace JaDesktop.Connection

/-! ## Waiters and their operations -/

def Waiter.isLifecycle : Waiter → Bool
  | .configureAndStart _ _ _ | .stop _ | .acknowledgeRecovery _ _ => true
  | _ => false

def Call.isConfigure : Call → Bool
  | .configureAndStart _ => true
  | _ => false

def Operation.isConfigure : Operation → Bool
  | .configureAndStart _ _ _ => true
  | _ => false

/-- The key of the operation that a call waits for. -/
def Call.key : Call → OperationKey
  | .configureAndStart input => .configureAndStart (Provider.configureOperationKey input)
  | .stop => .stop
  | .submitTurn input => .turnStart input.threadId
  | .cancelTurn input => .turnCancel input.threadId input.turnId
  | .approvalRespond input => .approvalRespond input.approvalId
  | .queryRuntime input => .runtimeQuery input
  | .acknowledgeRecovery _ => .acknowledgeRecovery

/-- The kind of result that the last command of an operation gives. -/
def Operation.returns : Operation → NativeResult → Bool
  | .configureAndStart _ _ _, .status _ | .stop, .status _ | .state, .status _ => true
  | .recoveryState, .recovery _ | .acknowledgeRecovery _, .recovery _ => true
  | .turnStart _ _ _, .turnAccepted _ => true
  | .turnCancel _ _, .turnCancelled _ => true
  | .approvalRespond _, .responded => true
  | .query _, .answered _ => true
  | _, _ => false

/-- A waiter for an operation, under one mount. -/
def Fits (lifecycleEpoch : ℕ) : Operation → Waiter → Prop
  | .configureAndStart _ _ _, .configureAndStart _ epoch _ => epoch = lifecycleEpoch
  | .stop, .stop epoch => epoch = lifecycleEpoch
  | .acknowledgeRecovery _, .acknowledgeRecovery _ epoch => epoch = lifecycleEpoch
  | .state, .refresh _ | .recoveryState, .recovery _ => True
  | .turnStart _ _ _, .submitTurn _ _ _ | .turnCancel _ _, .cancelTurn _ => True
  | .approvalRespond _, .approvalRespond _ | .query _, .query _ _ => True
  | _, _ => False

variable {waiter : Waiter} {r : Resumption Operation Waiter Outcome}

lemma Fits.of_key {lifecycleEpoch : ℕ} {operation other : Operation}
    (h : Fits lifecycleEpoch operation waiter) (hkey : other.key = operation.key) :
    Fits lifecycleEpoch other waiter := by
  cases operation <;> cases waiter <;> first
    | exact h.elim
    | cases other <;> first | exact h | simp [Operation.key] at hkey

lemma Fits.isLifecycle_eq {lifecycleEpoch : ℕ} {operation : Operation} {other : Waiter}
    (h : Fits lifecycleEpoch operation waiter) (h' : Fits lifecycleEpoch operation other) :
    waiter.isLifecycle = other.isLifecycle := by
  cases operation <;> cases waiter <;> first
    | exact h.elim
    | cases other <;> first | exact h'.elim | rfl

/-! ## What has been seen -/

def Output.lifecycleCall : Output → Option (Call × Option ℕ)
  | .called call epoch => if call.isLifecycle then some (call, epoch) else none
  | _ => none

/-- The newest lifecycle call, with the epoch of the operation that it waits for. -/
def lastCall (log : List Output) : Option (Call × Option ℕ) :=
  (log.filterMap Output.lifecycleCall).getLast?

/-- A lifecycle call goes on from an operation. -/
def Output.answers (epoch : ℕ) : Output → Bool
  | .resolved call e _ => call.isLifecycle && e = epoch
  | .rejected call (some e) _ => call.isLifecycle && e = epoch
  | _ => false

/-- A lifecycle call has gone on from an operation. -/
def Answered (log : List Output) (epoch : ℕ) : Prop := ∃ o ∈ log, o.answers epoch = true

instance (log : List Output) (epoch : ℕ) : Decidable (Answered log epoch) :=
  inferInstanceAs (Decidable (∃ o ∈ log, _))

/-- What has been seen since an operation has settled. -/
def sinceSettled (epoch : ℕ) (log : List Output) : List Output :=
  (log.dropWhile fun o => o ≠ .queue (.settled epoch)).tail

/-- A status that the provider learns keeps a generation able to take turns. -/
def Output.serves (generation : ℕ) : Output → Bool
  | .delivered status | .took status => status.status.serves && status.generation = generation
  | _ => true

/-- **The newest operation is a lifecycle operation, and none of its calls has gone on.** -/
def Waiting (operations : Operations) (log : List Output) : Prop :=
  operations.Newest Waiter.isLifecycle ∧ ¬ Answered log operations.epoch

instance (operations : Operations) (log : List Output) : Decidable (Waiting operations log) :=
  inferInstanceAs (Decidable (_ ∧ _))

variable {log outputs : List Output} {epoch : ℕ}

lemma lastCall_append (hnone : ∀ o ∈ outputs, o.lifecycleCall = none) :
    lastCall (log ++ outputs) = lastCall log := by
  rw [lastCall, List.filterMap_append, List.filterMap_eq_nil_iff.mpr hnone, List.append_nil]
  rfl

lemma sinceSettled_append (h : .queue (.settled epoch) ∈ log) :
    sinceSettled epoch (log ++ outputs) = sinceSettled epoch log ++ outputs := by
  have hne : log.dropWhile (fun o => decide (o ≠ .queue (.settled epoch))) ≠ [] := by
    intro hnil
    have hall := List.dropWhile_eq_nil_iff.mp hnil _ h
    simp at hall
  rw [sinceSettled, List.dropWhile_append, if_neg (by simpa using hne), sinceSettled,
    List.tail_append_of_ne_nil hne]

lemma Answered.append (h : Answered log epoch) : Answered (log ++ outputs) epoch := by
  obtain ⟨o, ho, hanswers⟩ := h
  exact ⟨o, List.mem_append_left _ ho, hanswers⟩

lemma answered_append (hnone : ∀ o ∈ outputs, o.answers epoch = false) :
    Answered (log ++ outputs) epoch ↔ Answered log epoch := by
  refine ⟨?_, Answered.append⟩
  rintro ⟨o, ho, hanswers⟩
  rcases List.mem_append.mp ho with hold | hnew
  · exact ⟨o, hold, hanswers⟩
  · rw [hnone o hnew] at hanswers
    cases hanswers

/-- How a call goes on from a settled operation. -/
def Output.fits (r : Resumption Operation Waiter Outcome) : Output → Prop
  | .resolved call epoch result => epoch = r.epoch ∧ r.result = .ok result ∧
      call.isConfigure = r.operation.isConfigure
  | .rejected call (some epoch) error => epoch = r.epoch ∧ r.result = .error error ∧
      call.isConfigure = r.operation.isConfigure
  | _ => False

/-! ## The queue -/

/-- The waiter fits, and a start that is the newest operation has the newest intent. -/
def Suited (lifecycleEpoch intent newest epoch : ℕ) (operation : Operation) (waiter : Waiter) :
    Prop :=
  epoch ≤ newest ∧ Fits lifecycleEpoch operation waiter ∧
    ∀ input e i, waiter = .configureAndStart input e i → epoch = newest → i = intent

/-- **What the queue says about the calls of the lifecycle.** -/
structure Tracked (operations : Operations) (log : List Output) (lifecycleEpoch intent : ℕ) :
    Prop where
  ordered : operations.Ordered
  keyed : operations.Keyed Operation.key
  suited : operations.Each (Suited lifecycleEpoch intent operations.epoch)
  waited : ∀ o ∈ operations.queue, o.waiters ≠ []
  runs : operations.running.isSome → operations.queue ≠ []
  configures : operations.running = some .configuring → ∀ first ∈ operations.queue.head?,
    first.operation.isConfigure = true
  /-- what has gone on is older than what is in flight -/
  older : ∀ e, Answered log e → e ≤ operations.epoch ∧ (∀ o ∈ operations.queue, e < o.epoch) ∧
    .queue (.settled e) ∈ log
  marked : ∀ r ∈ operations.settled, .queue (.settled r.epoch) ∈ log
  /-- behind a lifecycle operation there are only lifecycle operations -/
  behind : ∀ o ∈ operations.queue, (∃ waiter ∈ o.waiters, waiter.isLifecycle = true) →
    ∃ newest ∈ operations.queue, newest.epoch = operations.epoch ∧
      ∃ waiter ∈ newest.waiters, waiter.isLifecycle = true
  last : ∀ input e, lastCall log = some (.configureAndStart input, some e) →
    Answered log e ∨ e = operations.epoch ∧ operations.Newest Waiter.isLifecycle
  answers : ∀ r ∈ operations.settled, ∀ o ∈ log, o.answers r.epoch = true → o.fits r
  returned : ∀ r ∈ operations.settled, ∀ result, r.result = .ok result →
    r.operation.returns result = true

variable {operations : Operations} {lifecycleEpoch intent : ℕ}

/-- An output that neither makes nor answers a call of the lifecycle. -/
def Output.beside (o : Output) : Prop := o.lifecycleCall = none ∧ ∀ e, o.answers e = false

section

variable (h : Tracked operations log lifecycleEpoch intent)

include h

lemma Tracked.beside (hbeside : ∀ o ∈ outputs, o.beside) :
    Tracked operations (log ++ outputs) lifecycleEpoch intent
    where
  __ := h
  older e hanswered := by
    rw [answered_append fun o ho => (hbeside o ho).2 e] at hanswered
    obtain ⟨hle, hlt, hmarked⟩ := h.older e hanswered
    exact ⟨hle, hlt, List.mem_append_left _ hmarked⟩
  marked r hr := List.mem_append_left _ (h.marked r hr)
  last input e hlast := by
    rw [lastCall_append fun o ho => (hbeside o ho).1] at hlast
    rcases h.last input e hlast with hanswered | hnewest
    · exact Or.inl hanswered.append
    · exact Or.inr hnewest
  answers r hr o ho hanswers := by
    rcases List.mem_append.mp ho with hold | hnew
    · exact h.answers r hr o hold hanswers
    · rw [(hbeside o hnew).2] at hanswers
      cases hanswers

lemma Tracked.waiting_of_mem {o : QueuedOperation OperationKey Operation Waiter}
    (ho : o ∈ operations.queue) (hlifecycle : ∃ waiter ∈ o.waiters, waiter.isLifecycle = true) :
    Waiting operations log := by
  obtain ⟨newest, hnewest, hepoch, hwaiter⟩ := h.behind o ho hlifecycle
  refine ⟨Or.inl ⟨newest, hnewest, hepoch, hwaiter⟩, fun hanswered => ?_⟩
  have hlt := (h.older _ hanswered).2.1 newest hnewest
  omega

lemma Tracked.queued (operation : Operation) {intent' : ℕ}
    (houtputs : ∀ o ∈ outputs, ∀ e, o.answers e = false)
    (hsuited : (operations.enqueue operation.key operation waiter).Each (Suited lifecycleEpoch
      intent' (operations.enqueue operation.key operation waiter).epoch))
    (hbehind : ∀ o ∈ (operations.enqueue operation.key operation waiter).queue,
      (∃ waiter ∈ o.waiters, waiter.isLifecycle = true) →
        ∃ newest ∈ (operations.enqueue operation.key operation waiter).queue,
          newest.epoch = (operations.enqueue operation.key operation waiter).epoch ∧
            ∃ waiter ∈ newest.waiters, waiter.isLifecycle = true)
    (hlast : ∀ input e, lastCall (log ++ outputs) = some (.configureAndStart input, some e) →
      Answered (log ++ outputs) e ∨
        e = (operations.enqueue operation.key operation waiter).epoch ∧
          (operations.enqueue operation.key operation waiter).Newest Waiter.isLifecycle) :
    Tracked (operations.enqueue operation.key operation waiter) (log ++ outputs) lifecycleEpoch
      intent' where
  ordered := h.ordered.enqueue
  keyed := h.keyed.enqueue
  suited := hsuited
  waited o ho := by
    rcases SerialQueue.mem_enqueue ho with ⟨old, hold, -, -, -, hsame | ⟨-, hmore⟩⟩ | ⟨-, rfl⟩
    · rw [hsame]
      exact h.waited old hold
    · rw [hmore]
      simp
    · simp
  runs hsome := by
    rw [SerialQueue.running_enqueue] at hsome
    exact SerialQueue.queue_enqueue_ne_nil (h.runs hsome)
  configures hrunning first hfirst := by
    rw [SerialQueue.running_enqueue] at hrunning
    obtain ⟨old, hold, -, hsame⟩ :=
      SerialQueue.head_enqueue (h.runs (by rw [hrunning]; rfl)) hfirst
    rw [hsame]
    exact h.configures hrunning old hold
  older e hanswered := by
    rw [answered_append fun o ho => houtputs o ho e] at hanswered
    obtain ⟨hle, hlt, hmarked⟩ := h.older e hanswered
    refine ⟨?_, fun o ho => ?_, List.mem_append_left _ hmarked⟩
    · rw [SerialQueue.epoch_enqueue]
      split_ifs
      · exact hle
      · exact Nat.le_succ_of_le hle
    · rcases SerialQueue.mem_enqueue ho with ⟨old, hold, hepoch, -⟩ | ⟨-, rfl⟩
      · rw [hepoch]
        exact hlt old hold
      · exact Nat.lt_succ_of_le hle
  marked r hr := by
    rw [SerialQueue.settled_enqueue] at hr
    exact List.mem_append_left _ (h.marked r hr)
  behind := hbehind
  last := hlast
  answers r hr o ho hanswers := by
    rw [SerialQueue.settled_enqueue] at hr
    rcases List.mem_append.mp ho with hold | hnew
    · exact h.answers r hr o hold hanswers
    · rw [houtputs o hnew] at hanswers
      cases hanswers
  returned r hr := by
    rw [SerialQueue.settled_enqueue] at hr
    exact h.returned r hr

/-- An operation that is not of the lifecycle is joined, or queued while nothing waits for the
lifecycle. -/
lemma Tracked.enqueue (operation : Operation) (hfits : Fits lifecycleEpoch operation waiter)
    (hwaiter : waiter.isLifecycle = false)
    (hwaiting : operations.has operation.key = false → ¬ Waiting operations log) :
    Tracked (operations.enqueue operation.key operation waiter)
      (log ++ queuedOutputs operations operation.key) lifecycleEpoch intent := by
  have hbeside : ∀ o ∈ queuedOutputs operations operation.key, o.beside := by
    intro o ho
    rw [eq_of_mem_queuedOutputs ho]
    exact ⟨rfl, fun _ => rfl⟩
  have hconfigure : ∀ input e i, waiter ≠ .configureAndStart input e i := by
    rintro input e i rfl
    cases hwaiter
  refine h.queued operation (fun o ho => (hbeside o ho).2) ?_ ?_ ?_
  · rw [SerialQueue.epoch_enqueue]
    split_ifs with hhas
    · refine h.suited.enqueue ?_ fun hno => absurd hhas (by simp [hno])
      intro o ho hkey
      refine ⟨h.ordered.le_epoch o ho, ?_, fun input e i hw => absurd hw (hconfigure input e i)⟩
      exact hfits.of_key ((h.keyed o ho).symm.trans hkey)
    · refine (h.suited.mono fun epoch _ _ hsuited => ?_).enqueue ?_ ?_
      · refine ⟨Nat.le_succ_of_le hsuited.1, hsuited.2.1, fun _ _ _ _ hepoch => ?_⟩
        have hle := hsuited.1
        omega
      · exact fun o ho hkey => absurd (SerialQueue.has_of_mem ho hkey) hhas
      · exact fun _ => ⟨Nat.le_refl _, hfits, fun input e i hw => absurd hw (hconfigure input e i)⟩
  · -- A lifecycle waiter was one before.
    rintro o ho ⟨w, hw, hlifecycle⟩
    have hold : ∃ old ∈ operations.queue, ∃ waiter ∈ old.waiters, waiter.isLifecycle = true := by
      rcases SerialQueue.mem_enqueue ho with ⟨old, hold, -, -, -, hsame | ⟨-, hmore⟩⟩ | ⟨-, rfl⟩
      · rw [hsame] at hw
        exact ⟨old, hold, w, hw, hlifecycle⟩
      · rw [hmore] at hw
        rcases List.mem_append.mp hw with hwas | hadded
        · exact ⟨old, hold, w, hwas, hlifecycle⟩
        · rw [List.mem_singleton.mp hadded, hwaiter] at hlifecycle
          cases hlifecycle
      · rw [List.mem_singleton.mp hw, hwaiter] at hlifecycle
        cases hlifecycle
    obtain ⟨old, hold, hwas⟩ := hold
    rw [SerialQueue.epoch_enqueue]
    split_ifs with hhas
    · obtain ⟨newest, hnewest, hepoch, w', hw', hlifecycle'⟩ := h.behind old hold hwas
      obtain ⟨new, hnew, hsame, hsub⟩ := SerialQueue.mem_enqueue_of_mem hnewest
      exact ⟨new, hnew, hsame.trans hepoch, w', hsub hw', hlifecycle'⟩
    · exact absurd (h.waiting_of_mem hold hwas) (hwaiting (by simpa using hhas))
  · intro input e hlast
    rw [lastCall_append fun o ho => (hbeside o ho).1] at hlast
    by_cases hanswered : Answered log e
    · exact Or.inl hanswered.append
    rcases h.last input e hlast with hyes | ⟨rfl, hnewest⟩
    · exact absurd hyes hanswered
    refine Or.inr ?_
    by_cases hhas : operations.has operation.key = true
    · rw [SerialQueue.epoch_enqueue, if_pos hhas, SerialQueue.enqueue, if_pos hhas]
      exact ⟨rfl, hnewest.join⟩
    · exact absurd ⟨hnewest, hanswered⟩ (hwaiting (by simpa using hhas))

/-- A lifecycle call is queued or joins; a start joins the newest operation only. -/
lemma Tracked.lifecycle (operation : Operation) {call : Call} {intent' : ℕ}
    (hfits : Fits lifecycleEpoch operation waiter) (hcall : call.isLifecycle = true)
    (hwaiter : waiter.isLifecycle = true)
    (hintent : ∀ input e i, waiter = .configureAndStart input e i → i = intent')
    (hsame : operations.has operation.key = true → intent' = intent)
    (hjoin : call.isConfigure = true → operations.has operation.key = true →
      operations.epochOf operation.key = operations.epoch) :
    Tracked (operations.enqueue operation.key operation waiter)
      (log ++ ([.called call (some (operations.epochOf operation.key))] ++
        queuedOutputs operations operation.key))
      lifecycleEpoch intent' := by
  have hqueued : ∀ o ∈ queuedOutputs operations operation.key, o.beside := by
    intro o ho
    rw [eq_of_mem_queuedOutputs ho]
    exact ⟨rfl, fun _ => rfl⟩
  refine h.queued operation ?_ ?_ ?_ ?_
  · intro o ho e
    rcases List.mem_append.mp ho with hcalled | hnew
    · rw [List.mem_singleton.mp hcalled]
      rfl
    · exact (hqueued o hnew).2 e
  · rw [SerialQueue.epoch_enqueue]
    split_ifs with hhas
    · obtain rfl := hsame hhas
      refine h.suited.enqueue ?_ fun hno => absurd hhas (by simp [hno])
      intro o ho hkey
      refine ⟨h.ordered.le_epoch o ho, ?_, fun input e i hw _ => hintent input e i hw⟩
      exact hfits.of_key ((h.keyed o ho).symm.trans hkey)
    · refine (h.suited.mono fun epoch _ _ hsuited => ?_).enqueue ?_ ?_
      · refine ⟨Nat.le_succ_of_le hsuited.1, hsuited.2.1, fun _ _ _ _ hepoch => ?_⟩
        have hle := hsuited.1
        omega
      · exact fun o ho hkey => absurd (SerialQueue.has_of_mem ho hkey) hhas
      · exact fun _ => ⟨Nat.le_refl _, hfits, fun input e i hw _ => hintent input e i hw⟩
  · intro o ho _
    rw [SerialQueue.epoch_enqueue]
    split_ifs with hhas
    · -- The operation that is joined has a waiter of the lifecycle, so it is not alone.
      obtain ⟨joined, hjoined, hkey, -⟩ := SerialQueue.exists_of_has hhas
      obtain ⟨w, hw⟩ := List.exists_mem_of_ne_nil _ (h.waited joined hjoined)
      have hfits' : Fits lifecycleEpoch joined.operation waiter :=
        hfits.of_key ((h.keyed joined hjoined).symm.trans hkey)
      have hlifecycle : w.isLifecycle = true :=
        ((h.suited.waiting joined hjoined w hw).2.1.isLifecycle_eq hfits').trans hwaiter
      obtain ⟨newest, hnewest, hepoch, w', hw', hlifecycle'⟩ :=
        h.behind joined hjoined ⟨w, hw, hlifecycle⟩
      obtain ⟨new, hnew, hsame, hsub⟩ := SerialQueue.mem_enqueue_of_mem hnewest
      exact ⟨new, hnew, hsame.trans hepoch, w', hsub hw', hlifecycle'⟩
    · rw [SerialQueue.enqueue, if_neg hhas]
      exact ⟨_, List.mem_append_right _ List.mem_cons_self, rfl, waiter, List.mem_cons_self,
        hwaiter⟩
  · intro input e hlast
    rw [← List.append_assoc, lastCall_append fun o ho => (hqueued o ho).1] at hlast
    have hlast' : call = .configureAndStart input ∧ operations.epochOf operation.key = e := by
      simpa [lastCall, Output.lifecycleCall, hcall] using hlast
    obtain ⟨rfl, rfl⟩ := hlast'
    refine Or.inr ⟨?_, SerialQueue.newest_enqueue hwaiter fun hhas => ?_⟩
    · rw [SerialQueue.epoch_enqueue]
      split_ifs with hhas
      · exact hjoin rfl hhas
      · exact SerialQueue.epochOf_of_not_has (by simpa using hhas)
    · obtain ⟨joined, hjoined, hkey, hof⟩ := SerialQueue.exists_of_has hhas
      exact ⟨joined, hjoined, hkey, hof.symm.trans (hjoin rfl hhas)⟩

lemma Tracked.advance {phase : Phase} (hne : operations.queue ≠ [])
    (hconfigure : phase = .configuring →
      ∀ first ∈ operations.queue.head?, first.operation.isConfigure = true) :
    Tracked (operations.advance phase) log lifecycleEpoch intent where
  __ := h
  ordered := h.ordered.advance phase
  suited := h.suited.advance phase
  runs _ := hne
  configures hphase := hconfigure (Option.some.inj hphase)

lemma Tracked.settle {first : QueuedOperation OperationKey Operation Waiter}
    (hfirst : operations.queue.head? = some first) {outcome : Outcome}
    (hreturns : ∀ result, outcome = .ok result → first.operation.returns result = true) :
    Tracked (operations.settle outcome) (log ++ [.queue (.settled first.epoch)]) lifecycleEpoch
      intent := by
  obtain ⟨rest, hqueue⟩ : ∃ rest, operations.queue = first :: rest :=
    List.head?_eq_some_iff.mp hfirst
  have hmem : first ∈ operations.queue := List.mem_of_mem_head? hfirst
  have hbeside : ∀ o ∈ [Output.queue (.settled first.epoch)], o.beside := by
    exact List.forall_mem_singleton.mpr ⟨rfl, fun _ => rfl⟩
  have h' := h.beside hbeside
  have hrunning : (operations.settle outcome).running = none := by
    rw [SerialQueue.settle, hqueue]
  constructor
  case ordered => exact h.ordered.settle outcome
  case keyed => exact h.keyed.settle outcome
  case suited =>
    rw [SerialQueue.epoch_settle]
    exact h.suited.settle outcome
  case waited =>
    rw [SerialQueue.queue_settle]
    exact fun o ho => h.waited o (List.mem_of_mem_tail ho)
  case runs =>
    rw [hrunning]
    intro hsome
    cases hsome
  case configures =>
    rw [hrunning]
    intro hsome
    cases hsome
  case older =>
    intro e hanswered
    obtain ⟨hle, hlt, hmarked⟩ := h'.older e hanswered
    rw [SerialQueue.epoch_settle, SerialQueue.queue_settle]
    exact ⟨hle, fun o ho => hlt o (List.mem_of_mem_tail ho), hmarked⟩
  case marked =>
    intro r hr
    rcases SerialQueue.mem_settle hr with hold | ⟨first', hfirst', waiter, -, rfl⟩
    · exact h'.marked r hold
    · obtain rfl := Option.some.inj (hfirst.symm.trans hfirst')
      exact List.mem_append_right _ List.mem_cons_self
  case behind =>
    rw [SerialQueue.queue_settle, SerialQueue.epoch_settle]
    intro o ho hlifecycle
    obtain ⟨newest, hnewest, hepoch, hwaiter⟩ :=
      h.behind o (List.mem_of_mem_tail ho) hlifecycle
    refine ⟨newest, ?_, hepoch, hwaiter⟩
    -- The first operation is older than another one, so it is not the newest.
    rw [hqueue] at hnewest ho ⊢
    rcases List.mem_cons.mp hnewest with rfl | hrest
    · have hincreasing := h.ordered.increasing
      rw [hqueue, List.map_cons, List.pairwise_cons] at hincreasing
      have hlt := hincreasing.1 o.epoch (List.mem_map.mpr ⟨o, ho, rfl⟩)
      have hle := h.ordered.le_epoch o (by rw [hqueue]; exact List.mem_cons_of_mem _ ho)
      omega
    · exact hrest
  case last =>
    intro input e hlast
    rw [SerialQueue.epoch_settle]
    rcases h'.last input e hlast with hanswered | ⟨hepoch, hnewest⟩
    · exact Or.inl hanswered
    · exact Or.inr ⟨hepoch, hnewest.settle outcome⟩
  case answers =>
    intro r hr o ho hanswers
    rcases SerialQueue.mem_settle hr with hold | ⟨first', hfirst', waiter, -, rfl⟩
    · exact h'.answers r hold o ho hanswers
    · obtain rfl := Option.some.inj (hfirst.symm.trans hfirst')
      have hlt := (h'.older first.epoch ⟨o, ho, hanswers⟩).2.1 first hmem
      exact absurd hlt (Nat.lt_irrefl _)
  case returned =>
    intro r hr result hresult
    rcases SerialQueue.mem_settle hr with hold | ⟨first', hfirst', waiter, -, rfl⟩
    · exact h.returned r hold result hresult
    · obtain rfl := Option.some.inj (hfirst.symm.trans hfirst')
      exact hreturns result hresult

end

lemma Output.epoch_of_fits {o : Output} {e : ℕ} (h : o.fits r) (hanswers : o.answers e = true) :
    e = r.epoch := by
  cases o with
  | resolved call epoch result =>
    have hsame : epoch = e := by simpa using (Bool.and_eq_true_iff.mp hanswers).2
    exact hsame.symm.trans h.1
  | rejected call epoch error =>
    cases epoch with
    | none => exact h.elim
    | some epoch =>
      have hsame : epoch = e := by simpa using (Bool.and_eq_true_iff.mp hanswers).2
      exact hsame.symm.trans h.1
  | _ => exact h.elim

lemma Output.fits_of_agree {o : Output} {r' : Resumption Operation Waiter Outcome} (h : o.fits r)
    (hepoch : r.epoch = r'.epoch) (hoperation : r.operation = r'.operation)
    (hresult : r.result = r'.result) : o.fits r' := by
  cases o with
  | resolved call epoch result => exact ⟨h.1.trans hepoch, hresult ▸ h.2.1, hoperation ▸ h.2.2⟩
  | rejected call epoch error =>
    cases epoch with
    | none => exact h.elim
    | some epoch => exact ⟨h.1.trans hepoch, hresult ▸ h.2.1, hoperation ▸ h.2.2⟩
  | _ => exact h.elim

lemma Tracked.resume (h : Tracked operations log lifecycleEpoch intent)
    {rest : List (Resumption Operation Waiter Outcome)} (hsettled : operations.settled = r :: rest)
    (hcalls : ∀ o ∈ outputs, o.lifecycleCall = none)
    (houtputs : ∀ o ∈ outputs, ∀ e, o.answers e = true → o.fits r)
    (hanswer : r.waiter.isLifecycle = true → Answered (log ++ outputs) r.epoch) :
    Tracked operations.resume (log ++ outputs) lifecycleEpoch intent := by
  have hr : r ∈ operations.settled := by rw [hsettled]; exact List.mem_cons_self
  constructor
  case ordered => exact h.ordered.resume
  case keyed => exact h.keyed
  case suited => exact h.suited.resume
  case waited => exact h.waited
  case runs => exact h.runs
  case configures => exact h.configures
  case older =>
    rintro e ⟨o, ho, hanswers⟩
    rcases List.mem_append.mp ho with hold | hnew
    · obtain ⟨hle, hlt, hmarked⟩ := h.older e ⟨o, hold, hanswers⟩
      exact ⟨hle, hlt, List.mem_append_left _ hmarked⟩
    · obtain rfl := Output.epoch_of_fits (houtputs o hnew e hanswers) hanswers
      exact ⟨h.ordered.settled_le r hr, h.ordered.settled_lt r hr,
        List.mem_append_left _ (h.marked r hr)⟩
  case marked =>
    exact fun r' hr' => List.mem_append_left _ (h.marked r' (List.mem_of_mem_tail hr'))
  case behind => exact h.behind
  case last =>
    intro input e hlast
    rw [lastCall_append hcalls] at hlast
    rcases h.last input e hlast with hanswered | ⟨rfl, hnewest⟩
    · exact Or.inl hanswered.append
    by_cases hgone : r.epoch = operations.epoch ∧ r.waiter.isLifecycle = true
    · rw [← hgone.1]
      exact Or.inl (hanswer hgone.2)
    · refine Or.inr ⟨rfl, hnewest.resume fun r' hr' => ?_⟩
      rw [hsettled] at hr'
      obtain rfl := Option.some.inj hr'
      by_cases hepoch : r.epoch = operations.epoch
      · exact Or.inr (Bool.eq_false_iff.mpr fun hyes => hgone ⟨hepoch, hyes⟩)
      · exact Or.inl hepoch
  case answers =>
    intro r' hr' o ho hanswers
    have hmem : r' ∈ operations.settled := List.mem_of_mem_tail hr'
    rcases List.mem_append.mp ho with hold | hnew
    · exact h.answers r' hmem o hold hanswers
    · have hfits := houtputs o hnew _ hanswers
      have hepoch := Output.epoch_of_fits hfits hanswers
      obtain ⟨hoperation, hresult⟩ := h.ordered.agree r hr r' hmem hepoch.symm
      exact Output.fits_of_agree hfits hepoch.symm hoperation hresult
  case returned => exact fun r' hr' => h.returned r' (List.mem_of_mem_tail hr')

lemma Waiting.append (h : Waiting operations log)
    (hnone : ∀ o ∈ outputs, o.answers operations.epoch = false) :
    Waiting operations (log ++ outputs) :=
  ⟨h.1, fun hanswered => h.2 ((answered_append hnone).mp hanswered)⟩

lemma Waiting.resume (h : Waiting operations log)
    {rest : List (Resumption Operation Waiter Outcome)} (hsettled : operations.settled = r :: rest)
    (hother : r.epoch ≠ operations.epoch ∨ r.waiter.isLifecycle = false)
    (hnone : ∀ o ∈ outputs, o.answers operations.epoch = false) :
    Waiting operations.resume (log ++ outputs) := by
  refine ⟨h.1.resume fun r' hr' => ?_, (h.append hnone).2⟩
  rw [hsettled] at hr'
  obtain rfl := Option.some.inj hr'
  exact hother

end JaDesktop.Connection
