import JaDesktop.Bridge.RuntimeActor

/-!
# The owner of a process

A supervisor that was made and not shut down has one owner: the actor while it works on it, one of
the actor's two slots, the quarantine, or a caller that retries it.  There is never a second one,
and its number is the only one that the fault ledger can hold.
-/

namespace JaDesktop.Bridge

/-- Where an owner can be. -/
inductive Place
  | actor
  | runtime
  | pending
  | quarantine
  | caller (caller : ℕ)
deriving DecidableEq

/-- What the actor works on. -/
def ActorAt.owner : ActorAt → Option Owner
  | .starting supervisor => some (.pending supervisor)
  | .clearGeneration (.spawn current) | .clearReason (.spawn current) | .spawning current =>
    some (.pending current.supervisor)
  | .clearGeneration (.close _ current) | .clearReason (.close _ current) | .projecting current =>
    some (.runtime current)
  | .cleaning _ cleanup => some cleanup.owner
  | _ => none

/-- What a caller works on. -/
def CallerAt.owner : CallerAt → Option Owner
  | .cleaning _ cleanup => some cleanup.owner
  | .restoring _ owner => some owner
  | _ => none

namespace RuntimeBridge

variable {s s' : RuntimeBridge}

/-- What a place holds. -/
def holder (s : RuntimeBridge) : Place → Option Owner
  | .actor => s.actor.owner
  | .runtime => s.runtime.map .runtime
  | .pending => s.pendingCleanup.map .pending
  | .quarantine => s.quarantine
  | .caller caller => (s.caller caller).owner

/-- The one owner, if there is one, with its place. -/
def Located (s : RuntimeBridge) (held : Option (Place × Owner)) : Prop :=
  ∀ place owner, s.holder place = some owner ↔ held = some (place, owner)

/-- A cleanup has done what it says. -/
def CleanupSound (s : RuntimeBridge) : Cleanup → Prop
  | .finish current true => s.down current.supervisor = true
  | .concluded (.pending supervisor) true => s.down supervisor = true
  | .concluded (.runtime current) true => s.down current.supervisor = true ∧ s.WorkerDone current
  | _ => True

/-- What holds where the actor stands. -/
def ActorSound (s : RuntimeBridge) (held : Option (Place × Owner)) : ActorAt → Prop
  | .checked => held = none ∧ s.cleanupFault = 0 ∧ s.detachedEventGeneration = 0
  | .stopCurrent _ => s.pendingCleanup = none
  | .clearGeneration (.stopped _) => held = none
  | .starting _ => s.cleanupFault = 0
  | .clearGeneration (.spawn current) | .clearReason (.spawn current) | .spawning current =>
    s.cleanupFault = 0 ∧ 0 < current.generation
  | .cleaning _ cleanup => s.CleanupSound cleanup
  | .sealed | .clearGeneration .complete | .clearReason .complete | .completing | .ended =>
    s.runtime = none ∧ s.pendingCleanup = none
  | _ => True

/-- The owner of every process and every worker that is left. -/
structure Owned (s : RuntimeBridge) (held : Option (Place × Owner)) : Prop where
  located : s.Located held
  down : ∀ n < s.created, s.down n = true ∨ ∃ place owner, held = some (place, owner) ∧
    owner.supervisor = n
  worker : ∀ n worker, s.worker n = some worker → worker.place = .ended ∨
    ∃ place current, held = some (place, .runtime current) ∧ current.supervisor = n
  spawned : ∀ place current, held = some (place, .runtime current) → 0 < current.generation ∧
    ∃ worker, s.worker current.supervisor = some worker ∧ worker.generation = current.generation
  newest : ∀ place owner, held = some (place, owner) → owner.supervisor + 1 = s.created
  next_pos : 0 < s.nextGeneration
  fault : s.cleanupFault = 0 ∨
    ∃ place owner, held = some (place, owner) ∧ s.cleanupFault = owner.generation
  marked : ∀ place owner, held = some (place, owner) → place ≠ .actor → place ≠ .runtime →
    s.cleanupFault = owner.generation
  actor : s.ActorSound held s.actor
  caller : ∀ i explicitRetry cleanup, s.caller i = .cleaning explicitRetry cleanup →
    s.CleanupSound cleanup
  done : s.done = true → s.actor = .ended

variable {held held' : Option (Place × Owner)}

lemma owned_initial : Owned initial none := by
  constructor
  case located =>
    rintro (_ | _ | _ | _ | i) owner <;> simp [initial, holder, ActorAt.owner, CallerAt.owner]
  all_goals simp [initial, ActorSound]

/-- Whatever is owned now was owned before. -/
def Kept (held held' : Option (Place × Owner)) : Prop :=
  ∀ place' owner, held' = some (place', owner) → ∃ place, held = some (place, owner)

lemma Kept.refl (held : Option (Place × Owner)) : Kept held held := fun place _ h => ⟨place, h⟩

lemma Kept.none (held : Option (Place × Owner)) : Kept held none := by
  intro place owner h
  cases h

variable {place : Place}

lemma Located.kept (h : s.Located held) {owner : Owner} (hholder : s.holder place = some owner)
    (place' : Place) :
    Kept held (some (place', owner)) := by
  intro other o hother
  obtain ⟨-, rfl⟩ := Prod.mk.inj (Option.some.inj hother)
  exact ⟨place, (h place owner).mp hholder⟩

/-- Nothing that matters for an owner is taken back. -/
structure Grows (s s' : RuntimeBridge) : Prop where
  created : s'.created = s.created
  next : 0 < s.nextGeneration → 0 < s'.nextGeneration
  down : ∀ n, s.down n = true → s'.down n = true
  worker : ∀ n worker, s.worker n = some worker → ∃ worker', s'.worker n = some worker' ∧
    worker'.generation = worker.generation ∧ (worker.place = .ended → worker'.place = .ended)
  worker_back : ∀ n worker', s'.worker n = some worker' → ∃ worker, s.worker n = some worker ∧
    (worker.place = .ended → worker'.place = .ended)

lemma Grows.of_eq (hcreated : s'.created = s.created)
    (hnext : 0 < s.nextGeneration → 0 < s'.nextGeneration) (hdown : s'.down = s.down)
    (hworker : s'.worker = s.worker) : s.Grows s' where
  created := hcreated
  next := hnext
  down n hn := by rw [hdown]; exact hn
  worker n worker hn := ⟨worker, by rw [hworker, hn], rfl, id⟩
  worker_back n worker hn := ⟨worker, by rw [← hworker, hn], id⟩

lemma workerDone_iff {current : RunningRuntime} : s.WorkerDone current ↔
    ∃ worker, s.worker current.supervisor = some worker ∧ worker.place = .ended := by
  simp [WorkerDone, Option.any_eq_true]

lemma Grows.workerDone (h : s.Grows s') {current : RunningRuntime} (hdone : s.WorkerDone current) :
    s'.WorkerDone current := by
  obtain ⟨worker, hworker, hended⟩ := workerDone_iff.mp hdone
  obtain ⟨worker', hworker', -, hstays⟩ := h.worker _ worker hworker
  exact workerDone_iff.mpr ⟨worker', hworker', hstays hended⟩

lemma Grows.cleanupSound (h : s.Grows s') {cleanup : Cleanup} (hsound : s.CleanupSound cleanup) :
    s'.CleanupSound cleanup := by
  cases cleanup with
  | finish current supervisorOk =>
    cases supervisorOk with
    | false => trivial
    | true => exact h.down _ hsound
  | concluded owner ok =>
    cases ok with
    | false => cases owner <;> trivial
    | true =>
      cases owner with
      | pending supervisor => exact h.down _ hsound
      | runtime current => exact ⟨h.down _ hsound.1, h.workerDone hsound.2⟩
  | process | requestStop | components | detach => trivial

/-- What holds where the actor stands goes on holding while others move on. -/
lemma ActorSound.mono {place : ActorAt} (hgrows : s.Grows s') (hruntime : s'.runtime = s.runtime)
    (hpending : s'.pendingCleanup = s.pendingCleanup) (hfault : s'.cleanupFault = s.cleanupFault)
    (hdetached : s.detachedEventGeneration = 0 → s'.detachedEventGeneration = 0)
    (h : s.ActorSound held place) : s'.ActorSound held place := by
  cases place with
  | checked => exact ⟨h.1, hfault.trans h.2.1, hdetached h.2.2⟩
  | stopCurrent => exact hpending.trans h
  | starting => exact hfault.trans h
  | spawning => exact ⟨hfault.trans h.1, h.2⟩
  | cleaning => exact hgrows.cleanupSound h
  | sealed | completing | ended => exact ⟨hruntime.trans h.1, hpending.trans h.2⟩
  | clearGeneration next =>
    cases next with
    | spawn => exact ⟨hfault.trans h.1, h.2⟩
    | stopped => exact h
    | complete => exact ⟨hruntime.trans h.1, hpending.trans h.2⟩
    | close => trivial
  | clearReason next =>
    cases next with
    | spawn => exact ⟨hfault.trans h.1, h.2⟩
    | complete => exact ⟨hruntime.trans h.1, hpending.trans h.2⟩
    | close | stopped => trivial
  | _ => trivial

/-- The owner has been shut down. -/
def Released (s : RuntimeBridge) (owner : Owner) : Prop :=
  s.down owner.supervisor = true ∧ ∀ current, owner = .runtime current → s.WorkerDone current

/-- **The owner is kept** by a step that moves it or, once it is shut down, drops it. -/
theorem Owned.step (h : s.Owned held) (hgrows : s.Grows s') (hlocated : s'.Located held')
    (hmoved : ∀ place owner, held = some (place, owner) →
      (∃ place', held' = some (place', owner)) ∨ s'.Released owner)
    (hkept : Kept held held')
    (hfault : s'.cleanupFault = 0 ∨
      ∃ place owner, held' = some (place, owner) ∧ s'.cleanupFault = owner.generation)
    (hmarked : ∀ place owner, held' = some (place, owner) → place ≠ .actor → place ≠ .runtime →
      s'.cleanupFault = owner.generation)
    (hactor : s'.ActorSound held' s'.actor)
    (hcaller : ∀ i explicitRetry cleanup, s'.caller i = .cleaning explicitRetry cleanup →
      s'.CleanupSound cleanup)
    (hdone : s'.done = true → s'.actor = .ended) : s'.Owned held' where
  located := hlocated
  down n hn := by
    rw [hgrows.created] at hn
    rcases h.down n hn with hdown | ⟨place, owner, hheld, rfl⟩
    · exact Or.inl (hgrows.down n hdown)
    · rcases hmoved place owner hheld with ⟨place', hheld'⟩ | hreleased
      · exact Or.inr ⟨place', owner, hheld', rfl⟩
      · exact Or.inl hreleased.1
  worker n worker' hworker' := by
    obtain ⟨worker, hworker, hstays⟩ := hgrows.worker_back n worker' hworker'
    rcases h.worker n worker hworker with hended | ⟨place, current, hheld, rfl⟩
    · exact Or.inl (hstays hended)
    · rcases hmoved place _ hheld with ⟨place', hheld'⟩ | hreleased
      · exact Or.inr ⟨place', current, hheld', rfl⟩
      · obtain ⟨other, hother, hended⟩ := workerDone_iff.mp (hreleased.2 current rfl)
        obtain rfl := Option.some.inj (hworker'.symm.trans hother)
        exact Or.inl hended
  spawned place' current hheld' := by
    obtain ⟨place, hheld⟩ := hkept place' _ hheld'
    obtain ⟨hpos, worker, hworker, hgeneration⟩ := h.spawned place current hheld
    obtain ⟨worker', hworker', hsame, -⟩ := hgrows.worker _ worker hworker
    exact ⟨hpos, worker', hworker', hsame.trans hgeneration⟩
  newest place' owner hheld' := by
    obtain ⟨place, hheld⟩ := hkept place' owner hheld'
    rw [hgrows.created]
    exact h.newest place owner hheld
  next_pos := hgrows.next h.next_pos
  fault := hfault
  marked := hmarked
  actor := hactor
  caller := hcaller
  done := hdone

/-- A step that leaves the owner where it is, and the fault ledger as it is. -/
theorem Owned.stay (h : s.Owned held) (hgrows : s.Grows s')
    (hholder : ∀ place, s'.holder place = s.holder place)
    (hfault : s'.cleanupFault = s.cleanupFault) (hactor : s'.ActorSound held s'.actor)
    (hcaller : ∀ i explicitRetry cleanup, s'.caller i = .cleaning explicitRetry cleanup →
      s'.CleanupSound cleanup)
    (hdone : s'.done = true → s'.actor = .ended) : s'.Owned held := by
  refine h.step hgrows ?_ (fun place owner hheld => Or.inl ⟨place, hheld⟩)
    (fun place owner hheld => ⟨place, hheld⟩) ?_ ?_ hactor hcaller hdone
  · intro place owner
    rw [hholder]
    exact h.located place owner
  · rw [hfault]
    exact h.fault
  · rw [hfault]
    exact h.marked

/-! ## Places over a step -/

section

variable (h : s.Located held)
include h

lemma Located.eq {owner : Owner} (hholder : s.holder place = some owner) :
    held = some (place, owner) :=
  (h place owner).mp hholder

lemma Located.none_of_ne {place' : Place} {owner : Owner}
    (hholder : s.holder place = some owner) (hne : place' ≠ place) : s.holder place' = none := by
  by_contra hsome
  obtain ⟨owner', howner'⟩ := Option.ne_none_iff_exists'.mp hsome
  have hsame := Option.some.inj ((h.eq hholder).symm.trans (h.eq howner'))
  exact hne (congrArg Prod.fst hsame).symm

lemma Located.pending_eq_none {owner : Owner}
    (hholder : s.holder place = some owner) (hne : .pending ≠ place) :
    s.pendingCleanup = none :=
  Option.map_eq_none_iff.mp (h.none_of_ne hholder hne)

lemma Located.move {place' : Place} {owner owner' : Owner}
    (hholder : s.holder place = some owner) (hholder' : s'.holder place' = some owner')
    (hleft : place ≠ place' → s'.holder place = none)
    (hothers : ∀ other, other ≠ place → other ≠ place' → s'.holder other = s.holder other) :
    s'.Located (some (place', owner')) := by
  intro other o
  by_cases hnew : other = place'
  · subst hnew
    rw [hholder']
    simp
  · have hnone : s'.holder other = none := by
      by_cases hold : other = place
      · subst hold
        exact hleft hnew
      · rw [hothers other hold hnew]
        exact h.none_of_ne hholder hold
    rw [hnone]
    simp [Ne.symm hnew]

lemma Located.drop {owner : Owner} (hholder : s.holder place = some owner)
    (hleft : s'.holder place = none)
    (hothers : ∀ other, other ≠ place → s'.holder other = s.holder other) : s'.Located none := by
  intro other o
  have hnone : s'.holder other = none := by
    by_cases hold : other = place
    · subst hold
      exact hleft
    · rw [hothers other hold]
      exact h.none_of_ne hholder hold
  rw [hnone]
  simp

end

/-- What an owner needs is as it was, but for the actor's place. -/
structure Keeps (s s' : RuntimeBridge) : Prop where
  created : s'.created = s.created
  next : 0 < s.nextGeneration → 0 < s'.nextGeneration
  down : s'.down = s.down
  worker : s'.worker = s.worker
  runtime : s'.runtime = s.runtime
  pending : s'.pendingCleanup = s.pendingCleanup
  quarantine : s'.quarantine = s.quarantine
  caller : s'.caller = s.caller
  fault : s'.cleanupFault = s.cleanupFault
  done : s'.done = s.done

lemma Keeps.of_eq (hnext : 0 < s.nextGeneration → 0 < s'.nextGeneration)
    (h : (s'.created, s'.down, s'.worker, s'.runtime, s'.pendingCleanup, s'.quarantine, s'.caller,
      s'.cleanupFault, s'.done) = (s.created, s.down, s.worker, s.runtime, s.pendingCleanup,
      s.quarantine, s.caller, s.cleanupFault, s.done)) : s.Keeps s' := by
  simp only [Prod.mk.injEq] at h
  obtain ⟨hcreated, hdown, hworker, hruntime, hpending, hquarantine, hcaller, hfault, hdone⟩ := h
  exact ⟨hcreated, hnext, hdown, hworker, hruntime, hpending, hquarantine, hcaller, hfault, hdone⟩

lemma Keeps.grows (h : s.Keeps s') : s.Grows s' := .of_eq h.created h.next h.down h.worker

lemma holder_eq (hactor : s'.actor.owner = s.actor.owner) (hruntime : s'.runtime = s.runtime)
    (hpending : s'.pendingCleanup = s.pendingCleanup) (hquarantine : s'.quarantine = s.quarantine)
    (hcaller : ∀ i, (s'.caller i).owner = (s.caller i).owner) (place : Place) :
    s'.holder place = s.holder place := by
  cases place with
  | actor => exact hactor
  | runtime => exact congrArg (Option.map Owner.runtime) hruntime
  | pending => exact congrArg (Option.map Owner.pending) hpending
  | quarantine => exact hquarantine
  | caller i => exact hcaller i

lemma Keeps.holder_eq (h : s.Keeps s') (hactor : s'.actor.owner = s.actor.owner) (place : Place) :
    s'.holder place = s.holder place :=
  RuntimeBridge.holder_eq hactor h.runtime h.pending h.quarantine
    (fun i => congrArg CallerAt.owner (congrFun h.caller i)) place

/-- The actor goes on from where it is, with what it works on. -/
lemma Owned.goto (h : s.Owned held) {at' : ActorAt} (hat : s.actor = at') (hended : at' ≠ .ended)
    (hkeeps : s.Keeps s') (howner : s'.actor.owner = at'.owner)
    (hactor : s'.ActorSound held s'.actor) : s'.Owned held := by
  subst hat
  refine h.stay hkeeps.grows (hkeeps.holder_eq howner) hkeeps.fault hactor ?_ ?_
  · intro i explicitRetry cleanup hcaller
    rw [hkeeps.caller] at hcaller
    exact hkeeps.grows.cleanupSound (h.caller i explicitRetry cleanup hcaller)
  · intro hdone
    rw [hkeeps.done] at hdone
    exact absurd (h.done hdone) hended

/-! ## Cleaning up -/

/-- What a step of a cleanup leaves as it is. -/
structure Cleans (s s' : RuntimeBridge) : Prop where
  grows : s.Grows s'
  actor : s'.actor = s.actor
  runtime : s'.runtime = s.runtime
  pending : s'.pendingCleanup = s.pendingCleanup
  quarantine : s'.quarantine = s.quarantine
  caller : s'.caller = s.caller
  fault : s'.cleanupFault = s.cleanupFault
  done : s'.done = s.done

lemma grows_setDown (s : RuntimeBridge) (supervisor : ℕ) :
    s.Grows { s with down := Function.update s.down supervisor true } where
  created := rfl
  next := id
  down n hn := by
    change Function.update s.down supervisor true n = true
    rw [Function.update_apply]
    split_ifs
    · rfl
    · exact hn
  worker n worker hn := ⟨worker, hn, rfl, id⟩
  worker_back n worker hn := ⟨worker, hn, id⟩

lemma worker_setWorker (s : RuntimeBridge) (n other : ℕ) (worker : Worker) :
    (s.setWorker n worker).worker other = if other = n then some worker else s.worker other :=
  Function.update_apply ..

lemma grows_setWorker {n : ℕ} {worker worker' : Worker} (hworker : s.worker n = some worker)
    (hgeneration : worker'.generation = worker.generation)
    (hended : worker.place = .ended → worker'.place = .ended) :
    s.Grows (s.setWorker n worker') where
  created := rfl
  next := id
  down _ hn := hn
  worker other w hother := by
    rw [worker_setWorker]
    split_ifs with hsame
    · subst hsame
      obtain rfl := Option.some.inj (hworker.symm.trans hother)
      exact ⟨worker', rfl, hgeneration, hended⟩
    · exact ⟨w, hother, rfl, id⟩
  worker_back other w' hother := by
    rw [worker_setWorker] at hother
    split_ifs at hother with hsame
    · subst hsame
      obtain rfl := Option.some.inj hother
      exact ⟨worker, hworker, hended⟩
    · exact ⟨w', hother, id⟩

lemma cleans_clean (s : RuntimeBridge) (answer : Bool) (cleanup : Cleanup) :
    s.Cleans (s.clean answer cleanup).1 := by
  have hdown : ∀ n, s.Cleans (if answer then { s with down := Function.update s.down n true }
      else s) := by
    intro n
    split_ifs
    · exact ⟨grows_setDown s n, rfl, rfl, rfl, rfl, rfl, rfl, rfl⟩
    · exact ⟨.of_eq rfl id rfl rfl, rfl, rfl, rfl, rfl, rfl, rfl, rfl⟩
  have hstill : s.Cleans s := ⟨.of_eq rfl id rfl rfl, rfl, rfl, rfl, rfl, rfl, rfl, rfl⟩
  cases cleanup with
  | process n => exact hdown n
  | components current => exact hdown current.supervisor
  | requestStop current =>
    unfold clean
    dsimp only
    split
    · next worker hworker =>
      exact ⟨grows_setWorker hworker rfl id, rfl, rfl, rfl, rfl, rfl, rfl, rfl⟩
    · exact hstill
  | finish current supervisorOk =>
    unfold clean
    dsimp only
    split_ifs <;> exact hstill
  | detach current => exact ⟨.of_eq rfl id rfl rfl, rfl, rfl, rfl, rfl, rfl, rfl, rfl⟩
  | concluded owner ok => exact hstill

lemma owner_clean (s : RuntimeBridge) (answer : Bool) (cleanup : Cleanup) :
    (s.clean answer cleanup).2.owner = cleanup.owner := by
  cases cleanup with
  | finish current supervisorOk =>
    unfold clean
    dsimp only
    split_ifs <;> rfl
  | process | requestStop | components | detach | concluded => rfl

lemma cleanupSound_clean (answer : Bool) {cleanup : Cleanup} (h : s.CleanupSound cleanup) :
    (s.clean answer cleanup).1.CleanupSound (s.clean answer cleanup).2 := by
  cases cleanup with
  | process n =>
    cases answer with
    | false => trivial
    | true => exact Function.update_self ..
  | components current =>
    cases answer with
    | false => trivial
    | true => exact Function.update_self ..
  | requestStop | detach => trivial
  | finish current supervisorOk =>
    unfold clean
    dsimp only
    split_ifs with hdone hanswer
    · cases supervisorOk with
      | false => trivial
      | true => exact ⟨h, hdone⟩
    · trivial
    · exact h
  | concluded owner ok => exact h

lemma CleanupSound.released {owner : Owner} (h : s.CleanupSound (.concluded owner true)) :
    s.Released owner := by
  cases owner with
  | pending supervisor => exact ⟨h, by simp⟩
  | runtime current =>
    refine ⟨h.1, ?_⟩
    rintro _ heq
    cases heq
    exact h.2

end RuntimeBridge

end JaDesktop.Bridge
