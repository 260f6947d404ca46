import JaDesktop.Bridge.RuntimeOwners

/-!
# The owner over a step

Every step of the actor, of a worker and of a caller keeps the one owner of what is left.
-/

namespace JaDesktop.Bridge.RuntimeBridge

variable {s s' : RuntimeBridge} {held : Option (Place × Owner)}

/-! ## The steps of the actor -/

variable {place : Place} {owner : Owner} {ok explicitRetry : Bool} {errand : Errand}
  {current : RunningRuntime} {i : ℕ}

lemma holder_actor {a : ActorAt} (hactor : s.actor = a) : s.holder .actor = a.owner :=
  congrArg ActorAt.owner hactor

lemma holder_runtime (hruntime : s.runtime = some current) :
    s.holder .runtime = some (.runtime current) := by
  rw [holder, hruntime, Option.map_some]

lemma holder_pending {supervisor : ℕ} (hpending : s.pendingCleanup = some supervisor) :
    s.holder .pending = some (.pending supervisor) := by
  rw [holder, hpending, Option.map_some]

lemma holder_caller {c : CallerAt} (hcaller : s.caller i = c) : s.holder (.caller i) = c.owner :=
  congrArg CallerAt.owner hcaller

lemma Owned.carry (h : s.Owned held) (hgrows : s.Grows s') {place' : Place}
    (hholder : s.holder place = some owner) (hholder' : s'.holder place' = some owner)
    (hleft : place ≠ place' → s'.holder place = none)
    (hothers : ∀ other, other ≠ place → other ≠ place' → s'.holder other = s.holder other)
    (hfault : s'.cleanupFault = owner.generation ∨
      s'.cleanupFault = s.cleanupFault ∧ (place' = .actor ∨ place' = .runtime))
    (hactor : s'.ActorSound (some (place', owner)) s'.actor)
    (hcaller : ∀ i explicitRetry cleanup, s'.caller i = .cleaning explicitRetry cleanup →
      s'.CleanupSound cleanup) (hdone : s'.done = true → s'.actor = .ended) :
    s'.Owned (some (place', owner)) := by
  have hheld := h.located.eq hholder
  refine h.step hgrows (h.located.move hholder hholder' hleft hothers) ?_ ?_ ?_ ?_ hactor hcaller
    hdone
  · intro other o hother
    obtain rfl : owner = o :=
      congrArg Prod.snd (Option.some.inj (hheld.symm.trans hother))
    exact Or.inl ⟨place', rfl⟩
  · intro other o hother
    obtain rfl : owner = o := congrArg Prod.snd (Option.some.inj hother)
    exact ⟨place, hheld⟩
  · rcases hfault with hmark | ⟨hsame, -⟩
    · exact Or.inr ⟨place', owner, rfl, hmark⟩
    · rcases h.fault with hzero | ⟨other, o, hother, hmark⟩
      · exact Or.inl (hsame.trans hzero)
      · obtain rfl : owner = o :=
          congrArg Prod.snd (Option.some.inj (hheld.symm.trans hother))
        exact Or.inr ⟨place', owner, rfl, hsame.trans hmark⟩
  · intro other o hother hne hne'
    obtain ⟨rfl, rfl⟩ := Prod.mk.inj (Option.some.inj hother)
    rcases hfault with hmark | ⟨-, hplace | hplace⟩
    · exact hmark
    · exact absurd hplace hne
    · exact absurd hplace hne'

/-- The owner has been shut down and is dropped, with its number in the ledger. -/
lemma Owned.release (h : s.Owned held) (hgrows : s.Grows s') (hholder : s.holder place = some owner)
    (hleft : s'.holder place = none)
    (hothers : ∀ other, other ≠ place → s'.holder other = s.holder other)
    (hreleased : s'.Released owner)
    (hfault : s'.cleanupFault = if s.cleanupFault = owner.generation then 0 else s.cleanupFault)
    (hactor : s'.ActorSound none s'.actor)
    (hcaller : ∀ i explicitRetry cleanup, s'.caller i = .cleaning explicitRetry cleanup →
      s'.CleanupSound cleanup) (hdone : s'.done = true → s'.actor = .ended) : s'.Owned none := by
  have hheld := h.located.eq hholder
  refine h.step hgrows (h.located.drop hholder hleft hothers) ?_ (.none _) ?_ (by simp) hactor
    hcaller hdone
  · intro other o hother
    obtain rfl : owner = o :=
      congrArg Prod.snd (Option.some.inj (hheld.symm.trans hother))
    exact Or.inr hreleased
  · left
    rw [hfault]
    split_ifs with hsame
    · rfl
    · rcases h.fault with hzero | ⟨other, o, hother, hmark⟩
      · exact hzero
      · obtain rfl : owner = o :=
          congrArg Prod.snd (Option.some.inj (hheld.symm.trans hother))
        exact absurd hmark hsame

lemma owner_cleaned (owner : Owner) (purpose : Purpose) :
    (purpose.cleaned owner).owner = none := by
  cases purpose <;> cases owner <;> rfl

lemma owner_failed (purpose : Purpose) : purpose.failed.owner = none := by
  cases purpose <;> rfl

lemma actorSound_cleaned (owner : Owner) (purpose : Purpose) (hpending : s.pendingCleanup = none) :
    s.ActorSound held (purpose.cleaned owner) := by
  cases purpose with
  | stop errand =>
    cases owner with
    | pending supervisor => exact hpending
    | runtime current => trivial
  | refused | unprojected | terminal => trivial

lemma actorSound_failed (purpose : Purpose) : s.ActorSound held purpose.failed := by
  cases purpose <;> trivial

section

variable (h : s.Owned held)
include h

/-- The end of a cleanup: the owner is dropped when it is shut down, and kept otherwise. -/
lemma Owned.settle {purpose : Purpose}
    (hactor : s.actor = .cleaning purpose (.concluded owner ok)) (expired : Bool) :
    ∃ held', (s.settle purpose owner ok expired).Owned held' ∧ Kept held held' := by
  have hholder : s.holder .actor = some owner := holder_actor hactor
  have hrunning : ∀ {p : Prop}, s.done = true → p := by
    intro p hdone
    have hended := h.done hdone
    rw [hactor] at hended
    cases hended
  have hsound : s.CleanupSound (.concluded owner ok) := by
    have := h.actor
    rw [hactor] at this
    exact this
  have hcaller := h.caller
  unfold RuntimeBridge.settle
  dsimp only
  split_ifs with hok
  · obtain ⟨rfl, -⟩ := hok
    refine ⟨none, h.release ?_ hholder ?_ ?_ hsound.released rfl ?_ hcaller hrunning, .none _⟩
    · exact .of_eq rfl id rfl rfl
    · exact owner_cleaned owner purpose
    · rintro (_ | _ | _ | _ | i) hother
      · exact absurd rfl hother
      all_goals rfl
    · exact actorSound_cleaned owner purpose (h.located.pending_eq_none hholder (by simp))
  · cases owner with
    | pending supervisor =>
      change ∃ held', Owned { s with
        cleanupFault := (Owner.pending supervisor).generation
        pendingCleanup := some supervisor
        actor := purpose.failed } held' ∧ Kept held held'
      refine ⟨some (.pending, .pending supervisor), h.carry ?_ hholder rfl ?_ ?_ (Or.inl rfl)
        (actorSound_failed purpose) hcaller hrunning, h.located.kept hholder _⟩
      · exact .of_eq rfl id rfl rfl
      · intro _
        exact owner_failed purpose
      · rintro (_ | _ | _ | _ | i) hother hother'
        · exact absurd rfl hother
        · rfl
        · exact absurd rfl hother'
        all_goals rfl
    | runtime current =>
      change ∃ held', Owned { s with
        cleanupFault := (Owner.runtime current).generation
        runtime := some current
        actor := purpose.failed } held' ∧ Kept held held'
      refine ⟨some (.runtime, .runtime current), h.carry ?_ hholder rfl ?_ ?_ (Or.inl rfl)
        (actorSound_failed purpose) hcaller hrunning, h.located.kept hholder _⟩
      · exact .of_eq rfl id rfl rfl
      · intro _
        exact owner_failed purpose
      · rintro (_ | _ | _ | _ | i) hother hother'
        · exact absurd rfl hother
        · exact absurd rfl hother'
        all_goals rfl

lemma Owned.generation_ne_zero (hholder : s.holder place = some owner) :
    owner.generation ≠ 0 := by
  cases owner with
  | pending supervisor => exact Nat.one_ne_zero
  | runtime current => exact Nat.ne_of_gt (h.spawned place current (h.located.eq hholder)).1

/-- Nothing is held when both slots of the actor are empty, the ledger is clear and the actor works
on nothing. -/
lemma Owned.nothing (hactor : s.actor.owner = none) (hruntime : s.runtime = none)
    (hpending : s.pendingCleanup = none) (hfault : s.cleanupFault = 0) : held = none := by
  by_contra hsome
  obtain ⟨⟨place, owner⟩, rfl⟩ := Option.ne_none_iff_exists'.mp hsome
  have hholder := (h.located place owner).mpr rfl
  have hpos : owner.generation ≠ 0 := h.generation_ne_zero hholder
  cases place with
  | actor =>
    rw [holder, hactor] at hholder
    cases hholder
  | runtime =>
    rw [holder, hruntime] at hholder
    cases hholder
  | pending =>
    rw [holder, hpending] at hholder
    cases hholder
  | quarantine =>
    exact hpos ((h.marked _ _ rfl (by simp) (by simp)).symm.trans hfault)
  | caller i =>
    exact hpos ((h.marked _ _ rfl (by simp) (by simp)).symm.trans hfault)

lemma Owned.startRuntime (hactor : s.actor = .receiving) :
    s.startRuntime.Owned held := by
  have howner : s.actor.owner = none := by rw [hactor]; rfl
  unfold RuntimeBridge.startRuntime
  split_ifs with hguard hruntime
  · exact h.goto hactor nofun (.of_eq id rfl) rfl trivial
  · exact h.goto hactor nofun (.of_eq id rfl) rfl trivial
  · push Not at hguard hruntime
    obtain ⟨-, hdetached, hfault, hpending⟩ := hguard
    exact h.goto hactor nofun (.of_eq id rfl) rfl
      ⟨h.nothing howner hruntime hpending hfault, hfault, hdetached⟩

lemma Owned.stopRuntime (hactor : s.actor = .stop errand) (expired : Bool) :
    ∃ held', (s.stopRuntime errand expired).Owned held' ∧ Kept held held' := by
  have hended : s.actor ≠ .ended := by simp [hactor]
  unfold RuntimeBridge.stopRuntime
  split_ifs with hexpired
  · exact ⟨held, h.goto hactor nofun (.of_eq id rfl) rfl trivial, .refl _⟩
  · split
    · next supervisor hpending =>
      have hholder : s.holder .pending = some (.pending supervisor) := holder_pending hpending
      refine ⟨some (.actor, .pending supervisor), h.carry ?_ hholder rfl ?_ ?_ ?_ trivial h.caller
        ?_, h.located.kept hholder _⟩
      · exact .of_eq rfl id rfl rfl
      · exact fun _ => rfl
      · rintro (_ | _ | _ | _ | i) hother hother'
        · exact absurd rfl hother'
        · rfl
        · exact absurd rfl hother
        all_goals rfl
      · exact Or.inr ⟨rfl, Or.inl rfl⟩
      · exact fun hdone => absurd (h.done hdone) hended
    · next hpending =>
      exact ⟨held, h.goto hactor nofun (.of_eq id rfl) rfl hpending, .refl _⟩

lemma Owned.takeRuntime (hruntime : s.runtime = some current)
    (hended : s.actor ≠ .ended) (purpose : Purpose) :
    ∃ held', Owned { s with
      runtime := none
      currentGeneration := 0
      actor := .clearGeneration (.close purpose current) } held' ∧ Kept held held' := by
  have hholder : s.holder .runtime = some (.runtime current) := holder_runtime hruntime
  refine ⟨some (.actor, .runtime current), h.carry ?_ hholder rfl ?_ ?_ ?_ trivial h.caller ?_,
    h.located.kept hholder _⟩
  · exact .of_eq rfl id rfl rfl
  · exact fun _ => rfl
  · rintro (_ | _ | _ | _ | i) hother hother'
    · exact absurd rfl hother'
    · exact absurd rfl hother
    all_goals rfl
  · exact Or.inr ⟨rfl, Or.inl rfl⟩
  · exact fun hdone => absurd (h.done hdone) hended

lemma Owned.stopCurrent (hactor : s.actor = .stopCurrent errand) :
    ∃ held', (s.stopCurrent errand).Owned held' ∧ Kept held held' := by
  have hended : s.actor ≠ .ended := by simp [hactor]
  have howner : s.actor.owner = none := by rw [hactor]; rfl
  have hpending : s.pendingCleanup = none := by
    have hsound := h.actor
    rw [hactor] at hsound
    exact hsound
  unfold RuntimeBridge.stopCurrent
  split
  · next hruntime =>
    split_ifs with hfault
    · exact ⟨held, h.goto hactor nofun (.of_eq id rfl) rfl trivial, .refl _⟩
    · push Not at hfault
      have hsound := h.nothing howner hruntime hpending hfault
      exact ⟨held, h.goto hactor nofun (.of_eq id rfl) rfl hsound, .refl _⟩
  · next current hruntime =>
    exact h.takeRuntime hruntime hended (.stop errand)

lemma Owned.retain (hactor : s.actor = .retaining) :
    ∃ held', s.retain.Owned held' ∧ Kept held held' := by
  have hended : s.actor ≠ .ended := by simp [hactor]
  have howner : s.actor.owner = none := by rw [hactor]; rfl
  have hdone : s.done = true → ActorAt.sealed = .ended := fun hdone => absurd (h.done hdone) hended
  unfold RuntimeBridge.retain
  split_ifs with hconfirmed
  · exact ⟨held, h.goto hactor nofun (.of_eq id rfl) rfl ⟨hconfirmed.1, hconfirmed.2.1⟩, .refl _⟩
  · cases hruntime : s.runtime with
    | some current =>
      have hholder : s.holder .runtime = some (.runtime current) := holder_runtime hruntime
      have hpending := h.located.pending_eq_none hholder (by simp)
      simp only [hpending]
      refine ⟨some (.quarantine, .runtime current), h.carry ?_ hholder rfl ?_ ?_ (Or.inl rfl) ?_
        h.caller hdone, h.located.kept hholder _⟩
      · exact .of_eq rfl id rfl rfl
      · exact fun _ => rfl
      · rintro (_ | _ | _ | _ | i) hother hother'
        · exact howner.symm
        · exact absurd rfl hother
        · simp [holder, hpending]
        · exact absurd rfl hother'
        · rfl
      · exact ⟨rfl, rfl⟩
    | none =>
      cases hpending : s.pendingCleanup with
      | some supervisor =>
        have hholder : s.holder .pending = some (.pending supervisor) := holder_pending hpending
        simp only [hpending]
        refine ⟨some (.quarantine, .pending supervisor), h.carry ?_ hholder rfl ?_ ?_ (Or.inl rfl)
          ?_ h.caller hdone, h.located.kept hholder _⟩
        · exact .of_eq rfl id rfl rfl
        · exact fun _ => rfl
        · rintro (_ | _ | _ | _ | i) hother hother'
          · exact howner.symm
          · simp [holder, hruntime]
          · exact absurd rfl hother
          · exact absurd rfl hother'
          · rfl
        · exact ⟨hruntime, rfl⟩
      | none =>
        simp only [hpending]
        exact ⟨held, h.goto hactor nofun (.of_eq id (by rw [hpending])) rfl ⟨hruntime, rfl⟩,
          .refl _⟩

lemma Owned.create (hactor : s.actor = .checked) :
    ∃ held', Owned { s with created := s.created + 1, actor := .starting s.created } held' := by
  have hsound := h.actor
  rw [hactor] at hsound
  obtain ⟨rfl, hfault, -⟩ := hsound
  have hnone : ∀ place, s.holder place = none := by
    intro place
    by_contra hsome
    obtain ⟨owner, howner⟩ := Option.ne_none_iff_exists'.mp hsome
    cases h.located.eq howner
  refine ⟨some (.actor, .pending s.created), ?_⟩
  constructor
  case located =>
    rintro (_ | _ | _ | _ | i) owner
    · change some (Owner.pending s.created) = some owner ↔ _
      simp
    · change s.holder .runtime = some owner ↔ _
      simp [hnone]
    · change s.holder .pending = some owner ↔ _
      simp [hnone]
    · change s.holder .quarantine = some owner ↔ _
      simp [hnone]
    · change s.holder (.caller i) = some owner ↔ _
      simp [hnone]
  case down =>
    intro n hn
    rcases Nat.lt_succ_iff_lt_or_eq.mp hn with hlt | rfl
    · rcases h.down n hlt with hdown | ⟨_, _, hheld, -⟩
      · exact Or.inl hdown
      · cases hheld
    · exact Or.inr ⟨_, _, rfl, rfl⟩
  case worker =>
    intro n worker hworker
    rcases h.worker n worker hworker with hended | ⟨_, _, hheld, -⟩
    · exact Or.inl hended
    · cases hheld
  case spawned => simp
  case newest =>
    intro place owner hheld
    obtain ⟨-, rfl⟩ := Prod.mk.inj (Option.some.inj hheld)
    rfl
  case next_pos => exact h.next_pos
  case fault => exact Or.inl hfault
  case marked =>
    intro place owner hheld hne
    obtain ⟨rfl, -⟩ := Prod.mk.inj (Option.some.inj hheld)
    exact absurd rfl hne
  case actor => exact hfault
  case caller => exact h.caller
  case done =>
    intro hdone
    have hended := h.done hdone
    rw [hactor] at hended
    cases hended

lemma Owned.spawn (hactor : s.actor = .spawning current) :
    ∃ held', Owned { s.setWorker current.supervisor ⟨current.generation, false, .top⟩ with
      actor := .projecting current } held' := by
  have hsound := h.actor
  rw [hactor] at hsound
  obtain ⟨hfault, hpos⟩ := hsound
  have hholder : s.holder .actor = some (.pending current.supervisor) := holder_actor hactor
  have hheld := h.located.eq hholder
  subst hheld
  set t : RuntimeBridge := { s.setWorker current.supervisor ⟨current.generation, false, .top⟩ with
    actor := .projecting current } with ht
  have hworkers : ∀ n, t.worker n = if n = current.supervisor then
      some ⟨current.generation, false, .top⟩ else s.worker n := fun n => worker_setWorker ..
  have hfree : ∀ i explicitRetry cleanup, s.caller i ≠ .cleaning explicitRetry cleanup := by
    intro i explicitRetry cleanup hcaller
    have hnone := h.located.none_of_ne hholder (show Place.caller i ≠ .actor by simp)
    rw [holder, hcaller] at hnone
    cases hnone
  refine ⟨some (.actor, .runtime current), ?_⟩
  constructor
  case located =>
    refine h.located.move hholder rfl (fun hne => absurd rfl hne) ?_
    rintro (_ | _ | _ | _ | i) hother -
    · exact absurd rfl hother
    all_goals rfl
  case down =>
    intro n hn
    rcases h.down n hn with hdown | ⟨place, owner, hheld, rfl⟩
    · exact Or.inl hdown
    · obtain ⟨-, rfl⟩ := Prod.mk.inj (Option.some.inj hheld)
      exact Or.inr ⟨_, _, rfl, rfl⟩
  case worker =>
    intro n worker hworker
    rw [hworkers] at hworker
    split_ifs at hworker with hsame
    · exact Or.inr ⟨_, current, rfl, hsame.symm⟩
    · rcases h.worker n worker hworker with hended | ⟨place, other, hheld, -⟩
      · exact Or.inl hended
      · obtain ⟨-, hother⟩ := Prod.mk.inj (Option.some.inj hheld)
        cases hother
  case spawned =>
    intro place other hheld
    obtain ⟨-, hother⟩ := Prod.mk.inj (Option.some.inj hheld)
    cases hother
    exact ⟨hpos, _, (hworkers _).trans (if_pos rfl), rfl⟩
  case newest =>
    intro place owner hheld
    obtain ⟨-, rfl⟩ := Prod.mk.inj (Option.some.inj hheld)
    exact h.newest .actor (.pending current.supervisor) rfl
  case next_pos => exact h.next_pos
  case fault => exact Or.inl hfault
  case marked =>
    intro place owner hheld hne
    obtain ⟨rfl, -⟩ := Prod.mk.inj (Option.some.inj hheld)
    exact absurd rfl hne
  case actor => trivial
  case caller =>
    intro i explicitRetry cleanup hcaller
    exact absurd hcaller (hfree i explicitRetry cleanup)
  case done =>
    intro hdone
    have hended := h.done hdone
    rw [hactor] at hended
    cases hended

/-- The actor returns from `stop_runtime`. -/
lemma Owned.returnFrom (hactor : s.actor = .returned errand ok) (expired : Bool) :
    (s.returnFrom errand ok expired).Owned held := by
  unfold RuntimeBridge.returnFrom
  cases errand with
  | command | exit | last =>
    exact h.goto hactor nofun (.of_eq id rfl) rfl trivial
  | request =>
    dsimp only
    split_ifs with hconfirmed hexpired
    · exact h.goto hactor nofun (.of_eq id rfl) rfl trivial
    · exact h.goto hactor nofun (.of_eq id rfl) rfl ⟨hconfirmed.1, hconfirmed.2.1⟩
    · exact h.goto hactor nofun (.of_eq id rfl) rfl trivial

lemma Owned.clean {purpose : Purpose} {cleanup : Cleanup}
    (hactor : s.actor = .cleaning purpose cleanup) (answer : Bool) :
    Owned { (s.clean answer cleanup).1 with
      actor := .cleaning purpose (s.clean answer cleanup).2 } held := by
  have hcleans := cleans_clean s answer cleanup
  have hsound := h.actor
  rw [hactor] at hsound
  have hended : s.actor ≠ .ended := by simp [hactor]
  have hgrows : s.Grows { (s.clean answer cleanup).1 with
      actor := .cleaning purpose (s.clean answer cleanup).2 } :=
    ⟨hcleans.grows.created, hcleans.grows.next, hcleans.grows.down, hcleans.grows.worker,
      hcleans.grows.worker_back⟩
  refine h.stay hgrows ?_ hcleans.fault (cleanupSound_clean answer hsound) ?_ ?_
  · refine holder_eq ?_ hcleans.runtime hcleans.pending hcleans.quarantine fun i =>
      congrArg CallerAt.owner (congrFun hcleans.caller i)
    rw [hactor]
    exact congrArg some (owner_clean s answer cleanup)
  · intro i explicitRetry other hcaller
    refine hgrows.cleanupSound (h.caller i explicitRetry other ?_)
    rw [← hcleans.caller]
    exact hcaller
  · intro hdone
    exact absurd (h.done (hcleans.done ▸ hdone)) hended

lemma Owned.project (hactor : s.actor = .projecting current) (answer : Bool) :
    ∃ held', (s.actorStep answer).Owned held' ∧ Kept held held' := by
  have hended : s.actor ≠ .ended := by simp [hactor]
  have hholder : s.holder .actor = some (.runtime current) := holder_actor hactor
  simp only [actorStep, hactor]
  split_ifs
  · refine ⟨some (.runtime, .runtime current), h.carry ?_ hholder rfl ?_ ?_ ?_ trivial h.caller ?_,
      h.located.kept hholder _⟩
    · exact .of_eq rfl id rfl rfl
    · exact fun _ => rfl
    · rintro (_ | _ | _ | _ | i) hother hother'
      · exact absurd rfl hother
      · exact absurd rfl hother'
      all_goals rfl
    · exact Or.inr ⟨rfl, Or.inr rfl⟩
    · exact fun hdone => absurd (h.done hdone) hended
  · exact ⟨held, h.goto hactor nofun (.of_eq id rfl) rfl trivial, .refl _⟩

end

/-- A supervisor is made, or becomes a runtime. -/
def Begins (s : RuntimeBridge) : Prop := s.actor = .checked ∨ ∃ current, s.actor = .spawning current

/-- **The actor keeps the owner.** -/
theorem Owned.actorStep (h : s.Owned held) (answer : Bool) :
    ∃ held', (s.actorStep answer).Owned held' ∧ (s.Begins ∨ Kept held held') := by
  have hstays : ∀ {t : RuntimeBridge}, t.Owned held →
      ∃ held', t.Owned held' ∧ (s.Begins ∨ Kept held held') :=
    fun ht => ⟨held, ht, Or.inr (.refl _)⟩
  have hkept : ∀ {t : RuntimeBridge}, (∃ held', t.Owned held' ∧ Kept held held') →
      ∃ held', t.Owned held' ∧ (s.Begins ∨ Kept held held') := by
    rintro t ⟨held', ht, hkept⟩
    exact ⟨held', ht, Or.inr hkept⟩
  have hsound := h.actor
  unfold RuntimeBridge.actorStep
  cases hactor : s.actor <;> dsimp only <;> rw [hactor] at hsound
  case loop | draining | loadReason | exchange | stopped | leaving | ending =>
    -- The actor only goes on.
    repeat' split
    all_goals exact hstays (h.goto hactor nofun (.of_eq id rfl) rfl trivial)
  case exitCheck =>
    split_ifs with hexiting hconfirmed
    · exact hstays (h.goto hactor nofun (.of_eq id rfl) rfl trivial)
    · exact hstays (h.goto hactor nofun (.of_eq id rfl) rfl ⟨hconfirmed.1.1, hconfirmed.1.2.1⟩)
    · exact hstays (h.goto hactor nofun (.of_eq id rfl) rfl trivial)
    · exact hstays (h.goto hactor nofun (.of_eq id rfl) rfl trivial)
  case terminating =>
    split
    · next current hruntime => exact hkept (h.takeRuntime hruntime (by simp [hactor]) .terminal)
    · exact hstays (h.goto hactor nofun (.of_eq id rfl) rfl trivial)
  case receiving => exact hstays h
  case checked =>
    split_ifs
    · obtain ⟨held', h'⟩ := h.create hactor
      exact ⟨held', h', Or.inl (Or.inl hactor)⟩
    · exact hstays (h.goto hactor nofun (.of_eq id rfl) rfl trivial)
  case starting supervisor =>
    split_ifs
    · have hnext : 0 < min (s.nextGeneration + 1) u64Max :=
        Nat.lt_min.mpr ⟨Nat.succ_pos _, by decide⟩
      exact hstays (h.goto hactor nofun (.of_eq (fun _ => hnext) rfl) rfl ⟨hsound, h.next_pos⟩)
    · exact hstays (h.goto hactor nofun (.of_eq id rfl) rfl trivial)
  case clearGeneration next | clearReason next =>
    refine hstays (h.goto hactor nofun (.of_eq id rfl) ?_ ?_)
    · cases next <;> rfl
    · cases next with
      | spawn | complete => exact hsound
      | close | stopped => trivial
  case spawning current =>
    split_ifs
    · obtain ⟨held', h'⟩ := h.spawn hactor
      exact ⟨held', h', Or.inl (Or.inr ⟨current, hactor⟩)⟩
    · exact hstays (h.goto hactor nofun (.of_eq id rfl) rfl trivial)
  case projecting current =>
    have hproject := h.project hactor answer
    rw [RuntimeBridge.actorStep, hactor] at hproject
    exact hkept hproject
  case stop errand => exact hkept (h.stopRuntime hactor answer)
  case stopCurrent errand => exact hkept (h.stopCurrent hactor)
  case cleaning purpose cleanup =>
    cases cleanup with
    | concluded owner ok => exact hkept (h.settle hactor answer)
    | process | requestStop | components | finish | detach => exact hstays (h.clean hactor answer)
  case returned errand ok => exact hstays (h.returnFrom hactor answer)
  case retaining => exact hkept (h.retain hactor)
  case sealed => exact hstays (h.goto hactor nofun (.of_eq id rfl) rfl hsound)
  case completing =>
    refine hstays (h.stay (.of_eq rfl id rfl rfl) ?_ rfl hsound h.caller fun _ => rfl)
    exact holder_eq (congrArg ActorAt.owner hactor).symm rfl rfl rfl fun _ => rfl
  case ended => exact hstays h

lemma Owned.commandStep (h : s.Owned held) (command : BridgeCommand) :
    (s.commandStep command).Owned held := by
  unfold RuntimeBridge.commandStep
  split_ifs with hactor
  · cases command with
    | start => exact h.startRuntime hactor
    | stop | other | disconnected => exact h.goto hactor nofun (.of_eq id rfl) rfl trivial
  · exact h

/-! ## The steps of the workers and of the callers -/

lemma Owned.moveWorker (h : s.Owned held) {n : ℕ} {worker : Worker} {t : RuntimeBridge}
    (hworker : s.worker n = some worker) (hplace : worker.place ≠ .ended) (cancel : Bool)
    (place : WorkerAt)
    (hkeeps : (s.setWorker n { worker with cancel := cancel, place := place }).Keeps t)
    (hactor : t.actor = s.actor)
    (hdetached : s.detachedEventGeneration = 0 → t.detachedEventGeneration = 0) :
    t.Owned held := by
  have hset : s.Grows (s.setWorker n { worker with cancel := cancel, place := place }) :=
    grows_setWorker hworker rfl fun hended => absurd hended hplace
  have hgrows : s.Grows t := by
    refine ⟨hkeeps.created, hkeeps.next, ?_, ?_, ?_⟩
    · rw [hkeeps.down]
      exact hset.down
    · rw [hkeeps.worker]
      exact hset.worker
    · rw [hkeeps.worker]
      exact hset.worker_back
  refine h.stay hgrows (hkeeps.holder_eq (congrArg ActorAt.owner hactor)) hkeeps.fault ?_ ?_ ?_
  · rw [hactor]
    exact h.actor.mono hgrows hkeeps.runtime hkeeps.pending hkeeps.fault hdetached
  · intro i explicitRetry cleanup hcaller
    rw [hkeeps.caller] at hcaller
    exact hgrows.cleanupSound (h.caller i explicitRetry cleanup hcaller)
  · intro hdone
    rw [hkeeps.done] at hdone
    exact hactor.trans (h.done hdone)

lemma Owned.testCurrent (h : s.Owned held) {n : ℕ} {worker : Worker} (next : WorkerAt)
    (hworker : s.worker n = some worker) (hplace : worker.place ≠ .ended) :
    (s.testCurrent n worker next).Owned held := by
  unfold RuntimeBridge.testCurrent
  split_ifs
  · exact h.moveWorker hworker hplace false .leaving (.of_eq id rfl) rfl id
  · exact h.moveWorker hworker hplace worker.cancel .leaving (.of_eq id rfl) rfl id
  · exact h.moveWorker hworker hplace worker.cancel next (.of_eq id rfl) rfl id

/-- **A worker keeps the owner.** -/
theorem Owned.workerStep (h : s.Owned held) (n : ℕ) (choice : WorkerChoice) :
    (s.workerStep n choice).Owned held := by
  unfold RuntimeBridge.workerStep
  split
  · exact h
  · next worker hworker =>
    have hmove : ∀ place : WorkerAt, worker.place ≠ .ended →
        (s.setWorker n { worker with place := place }).Owned held :=
      fun place hplace => h.moveWorker hworker hplace worker.cancel place (.of_eq id rfl) rfl id
    dsimp only
    cases hplace : worker.place with
    | top => exact h.testCurrent .polling hworker (by simp [hplace])
    | polling => cases choice <;> exact hmove _ (by simp [hplace])
    | received => exact h.testCurrent .handling hworker (by simp [hplace])
    | handling =>
      cases choice with
      | proceed => exact hmove .top (by simp [hplace])
      | fail reason => exact hmove (.publishing reason) (by simp [hplace])
      | emit ok =>
        exact h.moveWorker hworker (by simp [hplace]) worker.cancel _ (.of_eq id rfl) rfl id
    | emitted => cases choice <;> exact hmove _ (by simp [hplace])
    | publishing reason =>
      exact h.moveWorker hworker (by simp [hplace]) worker.cancel .swapping (.of_eq id rfl) rfl id
    | swapping =>
      exact h.moveWorker hworker (by simp [hplace]) worker.cancel .leaving (.of_eq id rfl) rfl id
    | leaving =>
      refine h.moveWorker hworker (by simp [hplace]) worker.cancel .withdrawn (.of_eq id rfl) rfl ?_
      intro hzero
      dsimp only
      split_ifs
      · rfl
      · exact hzero
    | withdrawn => exact hmove .ended (by simp [hplace])
    | ended => exact h

lemma caller_setCaller (s : RuntimeBridge) (i j : ℕ) (place : CallerAt) :
    (s.setCaller i place).caller j = if j = i then place else s.caller j :=
  Function.update_apply ..

lemma holder_setCaller_self (s : RuntimeBridge) (i : ℕ) (place : CallerAt) :
    (s.setCaller i place).holder (.caller i) = place.owner :=
  congrArg CallerAt.owner (Function.update_self ..)

lemma holder_setCaller_of_ne {other : Place} (hother : other ≠ .caller i) (place : CallerAt) :
    (s.setCaller i place).holder other = s.holder other := by
  cases other with
  | caller j => exact congrArg CallerAt.owner (Function.update_of_ne (by simpa using hother) ..)
  | _ => rfl

section

variable (h : s.Owned held)
include h

/-- What holds where the actor stands, when the owner is with a caller or in the quarantine and
goes to another of these places or is dropped. -/
lemma Owned.actorSound_elsewhere (hholder : s.holder place = some owner)
    (hplace : place ≠ .actor) (held' : Option (Place × Owner)) (hruntime : s'.runtime = s.runtime)
    (hpending : s'.pendingCleanup = s.pendingCleanup) :
    s'.ActorSound held' s.actor := by
  have hsound := h.actor
  have hnone : s.actor.owner = none := h.located.none_of_ne hholder (Ne.symm hplace)
  have hheld : held ≠ none := by
    rw [h.located.eq hholder]
    simp
  cases hactor : s.actor with
  | checked =>
    rw [hactor] at hsound
    exact absurd hsound.1 hheld
  | stopCurrent errand =>
    rw [hactor] at hsound
    exact hpending.trans hsound
  | starting | spawning | projecting | cleaning =>
    rw [hactor] at hnone
    cases hnone
  | sealed | completing | ended =>
    rw [hactor] at hsound
    exact ⟨hruntime.trans hsound.1, hpending.trans hsound.2⟩
  | clearGeneration next =>
    rw [hactor] at hsound hnone
    cases next with
    | spawn | close => cases hnone
    | stopped => exact absurd hsound hheld
    | complete => exact ⟨hruntime.trans hsound.1, hpending.trans hsound.2⟩
  | clearReason next =>
    rw [hactor] at hsound hnone
    cases next with
    | spawn | close => cases hnone
    | stopped => trivial
    | complete => exact ⟨hruntime.trans hsound.1, hpending.trans hsound.2⟩
  | _ => trivial

lemma Owned.gotoCaller (i : ℕ) (place : CallerAt) {t : RuntimeBridge}
    (howner : place.owner = (s.caller i).owner)
    (hclean : ∀ explicitRetry cleanup, place = .cleaning explicitRetry cleanup →
      s.CleanupSound cleanup)
    (hkeeps : (s.setCaller i place).Keeps t) (hactor : t.actor = s.actor)
    (hdetached : t.detachedEventGeneration = s.detachedEventGeneration) : t.Owned held := by
  have hgrows : s.Grows t := .of_eq hkeeps.created hkeeps.next hkeeps.down hkeeps.worker
  have hcallers : ∀ j, t.caller j = if j = i then place else s.caller j := by
    intro j
    rw [hkeeps.caller]
    exact caller_setCaller s i j place
  refine h.stay hgrows ?_ hkeeps.fault ?_ ?_ ?_
  · refine holder_eq (congrArg ActorAt.owner hactor) hkeeps.runtime hkeeps.pending
      hkeeps.quarantine fun j => ?_
    rw [hcallers]
    split_ifs with hsame
    · rw [hsame, howner]
    · rfl
  · rw [hactor]
    exact h.actor.mono hgrows hkeeps.runtime hkeeps.pending hkeeps.fault hdetached.trans
  · intro j explicitRetry cleanup hcaller
    rw [hcallers] at hcaller
    split_ifs at hcaller
    · exact hgrows.cleanupSound (hclean explicitRetry cleanup hcaller)
    · exact hgrows.cleanupSound (h.caller j explicitRetry cleanup hcaller)
  · intro hdone
    rw [hkeeps.done] at hdone
    exact hactor.trans (h.done hdone)

lemma Owned.callers_setCaller {place : CallerAt}
    (hclean : ∀ explicitRetry cleanup, place = .cleaning explicitRetry cleanup →
      s.CleanupSound cleanup) :
    ∀ j explicitRetry cleanup, (s.setCaller i place).caller j = .cleaning explicitRetry cleanup →
      s.CleanupSound cleanup := by
  intro j explicitRetry cleanup hcaller
  rw [caller_setCaller] at hcaller
  split_ifs at hcaller
  · exact hclean explicitRetry cleanup hcaller
  · exact h.caller j explicitRetry cleanup hcaller

lemma Owned.callStep (i : ℕ) (allowRetry : Bool) :
    (s.callStep i allowRetry).Owned held := by
  unfold RuntimeBridge.callStep
  split_ifs with hidle
  · exact h.gotoCaller i (.waiting (allowRetry && decide s.NeedsRetry)) (by rw [hidle]; rfl)
      (by simp) (.of_eq id rfl) rfl rfl
  · exact h

lemma Owned.takeQuarantine (hquarantine : s.quarantine = some owner) (i : ℕ)
    (explicitRetry : Bool) :
    ∃ held', Owned { s.setCaller i (.cleaning explicitRetry (.start owner)) with
      quarantine := none } held' ∧ Kept held held' := by
  have hstart : s.CleanupSound (.start owner) := by cases owner <;> trivial
  have howner : (Cleanup.start owner).owner = owner := by cases owner <;> rfl
  have hholder : s.holder .quarantine = some owner := hquarantine
  refine ⟨some (.caller i, owner), h.carry ?_ hholder ?_ (fun _ => rfl) ?_ (Or.inl ?_) ?_ ?_
    h.done, h.located.kept hholder _⟩
  · exact .of_eq rfl id rfl rfl
  · exact (holder_setCaller_self s i _).trans (congrArg some howner)
  · rintro (_ | _ | _ | _ | j) hother hother'
    · rfl
    · rfl
    · rfl
    · exact absurd rfl hother
    · exact holder_setCaller_of_ne hother' _
  · exact h.marked .quarantine owner (h.located.eq hholder) (by simp) (by simp)
  · exact h.actorSound_elsewhere hholder (by simp) _ rfl rfl
  · exact h.callers_setCaller fun _ _ heq => by cases heq; exact hstart

lemma Owned.settleCaller
    (hcaller : s.caller i = .cleaning explicitRetry (.concluded owner ok)) :
    ∃ held', Owned (if ok then (s.clearFault owner.generation).setCaller i (.settled explicitRetry)
      else { s.setCaller i (.restoring explicitRetry owner) with
        cleanupFault := owner.generation }) held' ∧ Kept held held' := by
  have hholder : s.holder (.caller i) = some owner := holder_caller hcaller
  have hsound := h.caller i explicitRetry _ hcaller
  cases ok with
  | true =>
    refine ⟨none, h.release ?_ hholder (holder_setCaller_self s i _) ?_ hsound.released rfl ?_
      (h.callers_setCaller (by simp)) h.done, .none _⟩
    · exact .of_eq rfl id rfl rfl
    · exact fun other hother => holder_setCaller_of_ne hother _
    · exact h.actorSound_elsewhere hholder (by simp) _ rfl rfl
  | false =>
    refine ⟨some (.caller i, owner), h.carry ?_ hholder (holder_setCaller_self s i _)
      (fun hne => absurd rfl hne) ?_ (Or.inl rfl) ?_ (h.callers_setCaller (by simp)) h.done,
      h.located.kept hholder _⟩
    · exact .of_eq rfl id rfl rfl
    · exact fun other hother _ =>
        holder_setCaller_of_ne (s := s) hother (.restoring explicitRetry owner)
    · exact h.actorSound_elsewhere hholder (by simp) _ rfl rfl

lemma Owned.restore (hcaller : s.caller i = .restoring explicitRetry owner) :
    ∃ held', Owned { s.setCaller i (.settled explicitRetry) with
      quarantine := some owner } held' ∧ Kept held held' := by
  have hholder : s.holder (.caller i) = some owner := holder_caller hcaller
  refine ⟨some (.quarantine, owner), h.carry ?_ hholder rfl ?_ ?_ (Or.inl ?_) ?_
    (h.callers_setCaller (by simp)) h.done, h.located.kept hholder _⟩
  · exact .of_eq rfl id rfl rfl
  · exact fun _ => holder_setCaller_self s i _
  · rintro (_ | _ | _ | _ | j) hother hother'
    · rfl
    · rfl
    · rfl
    · exact absurd rfl hother'
    · exact holder_setCaller_of_ne hother _
  · exact h.marked _ owner (h.located.eq hholder) (by simp) (by simp)
  · exact h.actorSound_elsewhere hholder (by simp) _ rfl rfl

lemma Owned.cleanCaller {cleanup : Cleanup}
    (hcaller : s.caller i = .cleaning explicitRetry cleanup) (answer : Bool) :
    ((s.clean answer cleanup).1.setCaller i
      (.cleaning explicitRetry (s.clean answer cleanup).2)).Owned held := by
  have hcleans := cleans_clean s answer cleanup
  set t := (s.clean answer cleanup).1.setCaller i
    (.cleaning explicitRetry (s.clean answer cleanup).2) with ht
  have hholder : s.holder (.caller i) = some cleanup.owner := holder_caller hcaller
  have hcallers : ∀ j, t.caller j =
      if j = i then .cleaning explicitRetry (s.clean answer cleanup).2 else s.caller j := by
    intro j
    rw [ht, caller_setCaller, hcleans.caller]
  have hgrows : s.Grows t :=
    ⟨hcleans.grows.created, hcleans.grows.next, hcleans.grows.down, hcleans.grows.worker,
      hcleans.grows.worker_back⟩
  refine h.stay hgrows ?_ hcleans.fault ?_ ?_ ?_
  · refine holder_eq (congrArg ActorAt.owner hcleans.actor) hcleans.runtime hcleans.pending
      hcleans.quarantine fun j => ?_
    rw [hcallers]
    split_ifs with hsame
    · rw [hsame, hcaller]
      exact congrArg some (owner_clean s answer cleanup)
    · rfl
  · change t.ActorSound held (s.clean answer cleanup).1.actor
    rw [hcleans.actor]
    exact h.actorSound_elsewhere hholder (by simp) _ hcleans.runtime hcleans.pending
  · intro j explicitRetry' other hother
    rw [hcallers] at hother
    split_ifs at hother
    · cases hother
      exact cleanupSound_clean answer (h.caller i explicitRetry _ hcaller)
    · exact hgrows.cleanupSound (h.caller j explicitRetry' other hother)
  · intro hdone
    exact hcleans.actor.trans (h.done (hcleans.done.symm.trans hdone))

/-- **A caller keeps the owner.** -/
theorem Owned.callerStep (i : ℕ) (answer : Bool) :
    ∃ held', (s.callerStep i answer).Owned held' ∧ Kept held held' := by
  have hgoto : ∀ (place : CallerAt) {a : CallerAt} {t : RuntimeBridge}, s.caller i = a →
      a.owner = none → place.owner = none → (s.setCaller i place).Keeps t → t.actor = s.actor →
      t.detachedEventGeneration = s.detachedEventGeneration →
      ∃ held', t.Owned held' ∧ Kept held held' := by
    rintro place _ t rfl hold hnew hkeeps hactor hdetached
    refine ⟨held, h.gotoCaller i place (hnew.trans hold.symm) ?_ hkeeps hactor hdetached, .refl _⟩
    rintro explicitRetry cleanup rfl
    cases hnew
  unfold RuntimeBridge.callerStep
  cases hcaller : s.caller i <;> dsimp only
  case idle => exact ⟨held, h, .refl _⟩
  case waiting explicitRetry =>
    split_ifs
    · exact hgoto (.answered explicitRetry) hcaller rfl rfl (.of_eq id rfl) rfl rfl
    · exact hgoto .idle hcaller rfl rfl (.of_eq id rfl) rfl rfl
  case answered explicitRetry =>
    split_ifs
    · exact hgoto (.taking explicitRetry) hcaller rfl rfl (.of_eq id rfl) rfl rfl
    · exact hgoto (.promoting explicitRetry) hcaller rfl rfl (.of_eq id rfl) rfl rfl
  case taking explicitRetry =>
    split
    · exact hgoto (.settled explicitRetry) hcaller rfl rfl (.of_eq id rfl) rfl rfl
    · next owner hquarantine => exact h.takeQuarantine hquarantine i explicitRetry
  case cleaning explicitRetry cleanup =>
    cases cleanup with
    | concluded owner ok => exact h.settleCaller hcaller
    | process | requestStop | components | finish | detach =>
      exact ⟨held, h.cleanCaller hcaller answer, .refl _⟩
  case restoring explicitRetry owner => exact h.restore hcaller
  case settled explicitRetry =>
    exact hgoto (.promoting explicitRetry) hcaller rfl rfl (.of_eq id rfl) rfl rfl
  case promoting explicitRetry =>
    exact hgoto .idle hcaller rfl rfl (.of_eq id rfl) rfl rfl

/-- Every step keeps the owner. -/
theorem Owned.after (action : BridgeAction) :
    ∃ held', (s.after action).Owned held' ∧ (s.Begins ∨ Kept held held') := by
  cases action with
  | command command => exact ⟨held, h.commandStep command, Or.inr (.refl _)⟩
  | actor answer => exact h.actorStep answer
  | worker n choice => exact ⟨held, h.workerStep n choice, Or.inr (.refl _)⟩
  | call i allowRetry => exact ⟨held, h.callStep i allowRetry, Or.inr (.refl _)⟩
  | caller i answer =>
    obtain ⟨held', h', hkept⟩ := h.callerStep i answer
    exact ⟨held', h', Or.inr hkept⟩

end

/-- **There is one owner at most**, after any steps. -/
theorem owned_reached (actions : List BridgeAction) : ∃ held, (reached actions).Owned held := by
  refine List.foldlRecOn actions _ (motive := fun s : RuntimeBridge => ∃ held, s.Owned held)
    ⟨none, owned_initial⟩ ?_
  rintro s ⟨held, h⟩ action -
  obtain ⟨held', h', -⟩ := h.after action
  exact ⟨held', h'⟩

end JaDesktop.Bridge.RuntimeBridge
