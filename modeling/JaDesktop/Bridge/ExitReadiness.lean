import JaDesktop.Bridge.OwnerSteps

/-!
# Exit readiness

`exit_ready` loads five flags, one after the other, while callers may retry a cleanup.  What it
promises rests on the one owner: with the actor gone and the ledger clear nothing is owned, so that
every process has been shut down and every worker has ended, and this stays so.
-/

namespace JaDesktop.Bridge.RuntimeBridge

variable {s s' : RuntimeBridge}

/-- Every supervisor has been shut down, and every worker has completed. -/
def AllReleased (s : RuntimeBridge) : Prop :=
  (∀ n < s.created, s.down n = true) ∧
    ∀ n worker, s.worker n = some worker → worker.place = .ended

/-- The five loads of `exit_ready`, in the states in which they are made. -/
def ExitReady (s₁ s₂ s₃ s₄ s₅ : RuntimeBridge) : Prop :=
  s₁.done = true ∧ s₂.shutdownCompleted = true ∧ s₃.cleanupFault = 0 ∧
    s₄.detachedEventGeneration = 0 ∧ s₅.quarantine = none

/-! ## What a step takes back -/

lemma Grows.refl (s : RuntimeBridge) : s.Grows s := .of_eq rfl id rfl rfl

lemma Grows.trans {t : RuntimeBridge} (h : s.Grows t) (h' : t.Grows s') : s.Grows s' where
  created := h'.created.trans h.created
  next hpos := h'.next (h.next hpos)
  down n hdown := h'.down n (h.down n hdown)
  worker n worker hworker := by
    obtain ⟨other, hother, hgeneration, hended⟩ := h.worker n worker hworker
    obtain ⟨last, hlast, hgeneration', hended'⟩ := h'.worker n other hother
    exact ⟨last, hlast, hgeneration'.trans hgeneration, hended' ∘ hended⟩
  worker_back n last hlast := by
    obtain ⟨other, hother, hended'⟩ := h'.worker_back n last hlast
    obtain ⟨worker, hworker, hended⟩ := h.worker_back n other hother
    exact ⟨worker, hworker, hended' ∘ hended⟩

lemma Grows.allReleased (h : s.Grows s') (hall : s.AllReleased) : s'.AllReleased := by
  constructor
  · intro n hn
    rw [h.created] at hn
    exact h.down n (hall.1 n hn)
  · intro n worker' hworker'
    obtain ⟨worker, hworker, hended⟩ := h.worker_back n worker' hworker'
    exact hended (hall.2 n worker hworker)

lemma grows_testCurrent {n : ℕ} {worker : Worker} (hworker : s.worker n = some worker)
    (hplace : worker.place ≠ .ended) (next : WorkerAt) : s.Grows (s.testCurrent n worker next) := by
  have hmove : ∀ cancel place,
      s.Grows (s.setWorker n { worker with cancel := cancel, place := place }) :=
    fun cancel place => grows_setWorker hworker rfl fun hended => absurd hended hplace
  unfold testCurrent
  split_ifs
  · exact hmove false .leaving
  · exact hmove worker.cancel .leaving
  · exact hmove worker.cancel next

lemma grows_workerStep (s : RuntimeBridge) (n : ℕ) (choice : WorkerChoice) :
    s.Grows (s.workerStep n choice) := by
  unfold workerStep
  split
  · exact .refl s
  · next worker hworker =>
    have hmove : ∀ place, worker.place ≠ .ended →
        s.Grows (s.setWorker n { worker with place := place }) :=
      fun place hplace => grows_setWorker hworker rfl fun hended => absurd hended hplace
    dsimp only
    cases hplace : worker.place with
    | top | received => exact grows_testCurrent hworker (by simp [hplace]) _
    | polling | emitted => cases choice <;> exact hmove _ (by simp [hplace])
    | handling =>
      cases choice with
      | proceed => exact hmove .top (by simp [hplace])
      | fail reason => exact hmove (.publishing reason) (by simp [hplace])
      | emit ok => exact (hmove _ (by simp [hplace])).trans (.of_eq rfl id rfl rfl)
    | publishing reason => exact (hmove .swapping (by simp [hplace])).trans (.of_eq rfl id rfl rfl)
    | swapping => exact (hmove .leaving (by simp [hplace])).trans (.of_eq rfl id rfl rfl)
    | leaving => exact (hmove .withdrawn (by simp [hplace])).trans (.of_eq rfl id rfl rfl)
    | withdrawn => exact hmove .ended (by simp [hplace])
    | ended => exact .refl s

lemma grows_callerStep (s : RuntimeBridge) (i : ℕ) (answer : Bool) :
    s.Grows (s.callerStep i answer) := by
  have hset : ∀ place, s.Grows (s.setCaller i place) := fun place => .of_eq rfl id rfl rfl
  unfold callerStep
  cases hcaller : s.caller i with
  | idle => exact .refl s
  | waiting explicitRetry | answered explicitRetry =>
    dsimp only
    split_ifs
    · exact hset _
    · exact hset _
  | taking explicitRetry =>
    dsimp only
    split
    · exact hset _
    · exact .of_eq rfl id rfl rfl
  | cleaning explicitRetry cleanup =>
    have hclean := (cleans_clean s answer cleanup).grows
    cases cleanup with
    | concluded owner ok =>
      dsimp only
      split_ifs
      · exact .of_eq rfl id rfl rfl
      · exact .of_eq rfl id rfl rfl
    | process | requestStop | components | finish | detach =>
      exact hclean.trans (.of_eq rfl id rfl rfl)
  | restoring | settled | promoting => exact .of_eq rfl id rfl rfl

/-- The actor takes nothing back, and makes supervisors only where `start_runtime` has found nothing
in its way. -/
lemma grows_actorStep (answer : Bool) (hbegins : ¬ s.Begins) : s.Grows (s.actorStep answer) := by
  unfold actorStep
  cases hplace : s.actor with
  | checked => exact absurd (Or.inl hplace) hbegins
  | spawning current => exact absurd (Or.inr ⟨current, hplace⟩) hbegins
  | starting supervisor =>
    dsimp only
    split_ifs
    · exact .of_eq rfl (fun _ => Nat.lt_min.mpr ⟨Nat.succ_pos _, by decide⟩) rfl rfl
    · exact .of_eq rfl id rfl rfl
  | cleaning purpose cleanup =>
    have hclean := (cleans_clean s answer cleanup).grows
    cases cleanup with
    | concluded owner ok =>
      dsimp only
      unfold RuntimeBridge.settle
      dsimp only
      split_ifs
      · exact .of_eq rfl id rfl rfl
      · cases owner <;> exact .of_eq rfl id rfl rfl
    | process | requestStop | components | finish | detach =>
      exact hclean.trans (.of_eq rfl id rfl rfl)
  | stop errand =>
    dsimp only
    unfold RuntimeBridge.stopRuntime
    split_ifs
    · exact .of_eq rfl id rfl rfl
    · split <;> exact .of_eq rfl id rfl rfl
  | stopCurrent errand =>
    dsimp only
    unfold RuntimeBridge.stopCurrent
    split
    · split_ifs <;> exact .of_eq rfl id rfl rfl
    · exact .of_eq rfl id rfl rfl
  | returned errand ok =>
    dsimp only
    unfold RuntimeBridge.returnFrom
    cases errand with
    | request =>
      dsimp only
      split_ifs <;> exact .of_eq rfl id rfl rfl
    | command | exit | last => exact .of_eq rfl id rfl rfl
  | retaining =>
    dsimp only
    unfold RuntimeBridge.retain
    split_ifs
    · exact .of_eq rfl id rfl rfl
    · cases hruntime : s.runtime <;> cases hpending : s.pendingCleanup <;> simp only [hpending] <;>
        exact .of_eq rfl id rfl rfl
  | draining =>
    dsimp only
    split
    · exact .of_eq rfl id rfl rfl
    · split_ifs <;> exact .of_eq rfl id rfl rfl
  | exchange generation reason =>
    dsimp only
    split_ifs
    · split <;> exact .of_eq rfl id rfl rfl
    · exact .of_eq rfl id rfl rfl
  | terminating =>
    dsimp only
    split <;> exact .of_eq rfl id rfl rfl
  | loop | exitCheck | projecting | ending =>
    dsimp only
    split_ifs <;> exact .of_eq rfl id rfl rfl
  | receiving | ended => exact .refl s
  | clearGeneration | clearReason | loadReason | stopped | leaving | sealed | completing =>
    exact .of_eq rfl id rfl rfl

lemma grows_commandStep (s : RuntimeBridge) (command : BridgeCommand) :
    s.Grows (s.commandStep command) := by
  unfold commandStep
  split_ifs
  · cases command with
    | start =>
      unfold RuntimeBridge.startRuntime
      split_ifs <;> exact .of_eq rfl id rfl rfl
    | stop | other | disconnected => exact .of_eq rfl id rfl rfl
  · exact .refl s

lemma grows_callStep (s : RuntimeBridge) (i : ℕ) (allowRetry : Bool) :
    s.Grows (s.callStep i allowRetry) := by
  unfold callStep
  split_ifs
  · exact .of_eq rfl id rfl rfl
  · exact .refl s

lemma actor_clean (s : RuntimeBridge) (answer : Bool) (cleanup : Cleanup) :
    (s.clean answer cleanup).1.actor = s.actor := (cleans_clean s answer cleanup).actor

lemma actor_workerStep (s : RuntimeBridge) (n : ℕ) (choice : WorkerChoice) :
    (s.workerStep n choice).actor = s.actor := by
  unfold workerStep
  split
  · rfl
  · next worker hworker =>
    have htest : ∀ next, (s.testCurrent n worker next).actor = s.actor := by
      intro next
      unfold testCurrent
      split_ifs <;> rfl
    dsimp only
    cases worker.place with
    | top | received => exact htest _
    | _ => cases choice <;> rfl

lemma actor_callerStep (s : RuntimeBridge) (i : ℕ) (answer : Bool) :
    (s.callerStep i answer).actor = s.actor := by
  unfold callerStep
  cases s.caller i with
  | waiting | answered =>
    dsimp only
    split_ifs <;> rfl
  | taking =>
    dsimp only
    split <;> rfl
  | cleaning explicitRetry cleanup =>
    cases cleanup with
    | concluded owner ok =>
      dsimp only
      split_ifs <;> rfl
    | process | requestStop | components | finish | detach => exact actor_clean s answer _
  | idle | restoring | settled | promoting => rfl

lemma grows_after_of_ended (hactor : s.actor = .ended) (action : BridgeAction) :
    s.Grows (s.after action) ∧ (s.after action).actor = .ended := by
  cases action with
  | command command =>
    have hsame : s.commandStep command = s := by
      unfold commandStep
      rw [if_neg (by simp [hactor])]
    change s.Grows (s.commandStep command) ∧ (s.commandStep command).actor = _
    rw [hsame]
    exact ⟨.refl s, hactor⟩
  | actor answer =>
    have hsame : s.actorStep answer = s := by simp only [actorStep, hactor]
    change s.Grows (s.actorStep answer) ∧ (s.actorStep answer).actor = _
    rw [hsame]
    exact ⟨.refl s, hactor⟩
  | worker n choice =>
    exact ⟨grows_workerStep s n choice, (actor_workerStep s n choice).trans hactor⟩
  | call i allowRetry =>
    unfold after callStep
    dsimp only
    split_ifs
    · exact ⟨.of_eq rfl id rfl rfl, hactor⟩
    · exact ⟨.refl s, hactor⟩
  | caller i answer =>
    exact ⟨grows_callerStep s i answer, (actor_callerStep s i answer).trans hactor⟩

lemma grows_foldl_of_ended (hactor : s.actor = .ended) (actions : List BridgeAction) :
    s.Grows (actions.foldl after s) ∧ (actions.foldl after s).actor = .ended := by
  induction actions generalizing s with
  | nil => exact ⟨.refl s, hactor⟩
  | cons action actions ih =>
    obtain ⟨hgrows, hended⟩ := grows_after_of_ended hactor action
    obtain ⟨hrest, hlast⟩ := ih hended
    exact ⟨hgrows.trans hrest, hlast⟩

/-! ## Nothing owned, nothing left -/

lemma Owned.allReleased (h : s.Owned none) : s.AllReleased := by
  constructor
  · intro n hn
    rcases h.down n hn with hdown | ⟨_, _, hheld, -⟩
    · exact hdown
    · cases hheld
  · intro n worker hworker
    rcases h.worker n worker hworker with hended | ⟨_, _, hheld, -⟩
    · exact hended
    · cases hheld

variable {held : Option (Place × Owner)}

lemma Owned.none_of_ended (h : s.Owned held) (hactor : s.actor = .ended)
    (hfault : s.cleanupFault = 0) : held = none := by
  have hsound := h.actor
  rw [hactor] at hsound
  exact h.nothing (by rw [hactor]; rfl) hsound.1 hsound.2 hfault

/-- What the ownership in the bridge guarantees, at every moment of a run. -/
structure Guarded (s : RuntimeBridge) : Prop where
  one_slot : s.runtime = none ∨ s.pendingCleanup = none
  /-- What has not been shut down, and whose worker has not completed, is still held. -/
  kept : ∀ n < s.created, s.down n = true ∨
    ∃ place owner, s.holder place = some owner ∧ owner.supervisor = n
  worker_kept : ∀ n worker, s.worker n = some worker → worker.place = .ended ∨
    ∃ place current, s.holder place = some (.runtime current) ∧ current.supervisor = n
  quarantine_marked : s.quarantine ≠ none → s.cleanupFault ≠ 0

lemma Owned.guarded (h : s.Owned held) : s.Guarded where
  one_slot := by
    by_contra hboth
    push Not at hboth
    obtain ⟨current, hruntime⟩ := Option.ne_none_iff_exists'.mp hboth.1
    have hholder : s.holder .runtime = some (.runtime current) := by
      rw [holder, hruntime]
      rfl
    exact hboth.2 (h.located.pending_eq_none hholder (by simp))
  kept n hn := by
    rcases h.down n hn with hdown | ⟨place, owner, hheld, hsame⟩
    · exact Or.inl hdown
    · exact Or.inr ⟨place, owner, (h.located place owner).mpr hheld, hsame⟩
  worker_kept n worker hworker := by
    rcases h.worker n worker hworker with hended | ⟨place, current, hheld, hsame⟩
    · exact Or.inl hended
    · exact Or.inr ⟨place, current, (h.located place _).mpr hheld, hsame⟩
  quarantine_marked hquarantine := by
    obtain ⟨owner, howner⟩ := Option.ne_none_iff_exists'.mp hquarantine
    have hholder : s.holder .quarantine = some owner := howner
    rw [h.marked .quarantine owner (h.located.eq hholder) (by simp) (by simp)]
    exact h.generation_ne_zero hholder

lemma created_after (action : BridgeAction) (hcreated : (s.after action).created ≠ s.created) :
    s.actor = .checked ∧ (s.after action).created = s.created + 1 := by
  cases action with
  | command command => exact absurd (grows_commandStep s command).created hcreated
  | worker n choice => exact absurd (grows_workerStep s n choice).created hcreated
  | caller i answer => exact absurd (grows_callerStep s i answer).created hcreated
  | call i allowRetry => exact absurd (grows_callStep s i allowRetry).created hcreated
  | actor answer =>
    have hactor : s.actor = .checked := by
      by_contra hchecked
      refine hcreated ?_
      by_cases hbegins : s.Begins
      · obtain ⟨current, hspawning⟩ := hbegins.resolve_left hchecked
        change (s.actorStep answer).created = s.created
        simp only [actorStep, hspawning]
        split_ifs <;> rfl
      · exact (grows_actorStep answer hbegins).created
    refine ⟨hactor, ?_⟩
    change (s.actorStep answer).created ≠ s.created at hcreated
    change (s.actorStep answer).created = s.created + 1
    simp only [actorStep, hactor] at hcreated ⊢
    split_ifs at hcreated ⊢ with hanswer
    · rfl
    · exact absurd rfl hcreated

lemma created_le_after (action : BridgeAction) : s.created ≤ (s.after action).created := by
  by_cases hcreated : (s.after action).created = s.created
  · exact Nat.le_of_eq hcreated.symm
  · rw [(created_after action hcreated).2]
    exact Nat.le_succ _

/-- What the bridge guarantees after a run, and what it does next. -/
structure OwnedThroughout (actions : List BridgeAction) : Prop where
  guarded : (reached actions).Guarded
  /-- A supervisor is made only when nothing is left of those before it. -/
  created : ∀ action, (reached (actions ++ [action])).created ≠ (reached actions).created →
    (reached actions).runtime = none ∧ (reached actions).pendingCleanup = none ∧
      (reached actions).cleanupFault = 0 ∧ (reached actions).detachedEventGeneration = 0 ∧
      (reached actions).AllReleased
  /-- An owner is dropped only once its shutdown has succeeded. -/
  dropped : ∀ action place owner, (reached actions).holder place = some owner →
    (∀ place' owner', (reached (actions ++ [action])).holder place' = some owner' →
      owner'.supervisor ≠ owner.supervisor) →
    (reached (actions ++ [action])).down owner.supervisor = true ∧
      ∀ worker, (reached (actions ++ [action])).worker owner.supervisor = some worker →
        worker.place = .ended
  /-- The exit is ready only when everything has been shut down. -/
  ready : ∀ more₁ more₂ more₃ more₄, ExitReady (reached actions) (reached (actions ++ more₁))
    (reached (actions ++ more₁ ++ more₂)) (reached (actions ++ more₁ ++ more₂ ++ more₃))
    (reached (actions ++ more₁ ++ more₂ ++ more₃ ++ more₄)) →
      (reached (actions ++ more₁ ++ more₂ ++ more₃ ++ more₄)).AllReleased

lemma reached_append (actions more : List BridgeAction) :
    reached (actions ++ more) = more.foldl after (reached actions) :=
  List.foldl_append ..

/-- **Every process has one owner until it is shut down**, whatever the threads do, and the exit is
ready only when no process and no worker is left. -/
theorem owned_throughout (actions : List BridgeAction) : OwnedThroughout actions := by
  obtain ⟨held, h⟩ := owned_reached actions
  refine ⟨h.guarded, ?_, ?_, ?_⟩
  · intro action hcreated
    rw [reached_append] at hcreated
    obtain ⟨hactor, -⟩ := created_after action hcreated
    have hsound := h.actor
    rw [hactor] at hsound
    obtain ⟨rfl, hfault, hdetached⟩ := hsound
    have hnone : ∀ place, (reached actions).holder place = none := by
      intro place
      by_contra hsome
      obtain ⟨owner, howner⟩ := Option.ne_none_iff_exists'.mp hsome
      cases h.located.eq howner
    exact ⟨Option.map_eq_none_iff.mp (hnone .runtime), Option.map_eq_none_iff.mp (hnone .pending),
      hfault, hdetached, h.allReleased⟩
  · intro action place owner hholder hgone
    obtain ⟨held', h'⟩ := owned_reached (actions ++ [action])
    have hlt : owner.supervisor < (reached (actions ++ [action])).created := by
      rw [reached_append]
      refine Nat.lt_of_lt_of_le ?_ (created_le_after action)
      rw [← h.newest place owner (h.located.eq hholder)]
      exact Nat.lt_succ_self _
    constructor
    · rcases h'.guarded.kept owner.supervisor hlt with hdown | ⟨place', owner', hholder', hsame⟩
      · exact hdown
      · exact absurd hsame (hgone place' owner' hholder')
    · intro worker hworker
      rcases h'.guarded.worker_kept _ worker hworker with hended | ⟨place', current, hholder', hsame⟩
      · exact hended
      · exact absurd hsame (hgone place' _ hholder')
  · rintro more₁ more₂ more₃ more₄ ⟨hdone, -, hfault, -, -⟩
    have hended : (reached actions).actor = .ended := h.done hdone
    -- The actor stays gone, so that the clear ledger means that nothing is owned.
    have hended₂ : (reached (actions ++ more₁ ++ more₂)).actor = .ended := by
      rw [List.append_assoc, reached_append]
      exact (grows_foldl_of_ended hended _).2
    obtain ⟨held₂, h₂⟩ := owned_reached (actions ++ more₁ ++ more₂)
    obtain rfl := h₂.none_of_ended hended₂ hfault
    rw [List.append_assoc, reached_append]
    exact (grows_foldl_of_ended hended₂ _).1.allReleased h₂.allReleased

end JaDesktop.Bridge.RuntimeBridge
