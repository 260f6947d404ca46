import Mathlib.Data.List.Induction
import JaDesktop.Sidecar.PendingRequests

/-!
# What the request ledger keeps

An id that has left the pending requests never comes back, so a response is accepted at most once
for it and its callback runs at most once.  `registry_kept` gathers what holds after any calls.
-/

namespace JaDesktop.Sidecar

variable {H : Type} {limits : RegistryLimits} {registry registry' : PendingRequestRegistry H}
  {call : RegistryCall H} {result : Except Thrown (RegistryReply H)} {id id' : JavaString}

/-! ## The ledger -/

/-- **The ledger**: the pending ids are those whose state is pending, and its size is bounded. -/
structure Ledger (limits : RegistryLimits) (registry : PendingRequestRegistry H) : Prop where
  pending_iff : ∀ id, id ∈ registry.pending ↔ registry.usedIds.lookup id = some .pending
  size_le : registry.usedIds.size ≤ limits.maxLifetimeIds

lemma ledger_new : Ledger limits (.new : PendingRequestRegistry H) := by
  constructor
  · intro id
    simp [PendingRequestRegistry.new]
  · exact Nat.zero_le _

lemma Ledger.reserve (h : Ledger limits registry) (hnew : registry.usedIds.lookup id = none)
    (hroom : registry.usedIds.size < limits.maxLifetimeIds) (direction : RpcDirection)
    (handler : Option H) : Ledger limits (registry.reserve limits id direction handler) := by
  constructor
  · intro other
    change other ∈ registry.pending.insert id direction ↔
      AList.lookup other (registry.usedIds.insert id .pending) = some .pending
    rw [AList.mem_insert, AssocMap.lookup_insert]
    by_cases heq : other = id
    · simp [heq]
    · simp [heq, h.pending_iff other]
  · change AssocMap.size (registry.usedIds.insert id .pending) ≤ limits.maxLifetimeIds
    rw [AssocMap.size_insert_new hnew]
    exact hroom

lemma Ledger.leave (h : Ledger limits registry)
    (hpending : registry.usedIds.lookup id = some .pending) {state : RequestState}
    (hstate : state ≠ .pending) (hp : registry'.pending = registry.pending.erase id)
    (hu : registry'.usedIds = registry.usedIds.insert id state) : Ledger limits registry' := by
  constructor
  · intro other
    rw [hp, hu, AList.mem_erase, AssocMap.lookup_insert, h.pending_iff other]
    by_cases heq : other = id
    · simp [heq, hstate]
    · simp [heq]
  · rw [hu, AssocMap.size_insert_old (by rw [hpending]; simp)]
    exact h.size_le

lemma Ledger.closeForRotation (h : Ledger limits registry) :
    Ledger limits registry.closeForRotation := by
  have hkeys : ∀ id, id ∈ registry.pending.keys ↔ registry.usedIds.lookup id = some .pending := by
    intro id
    rw [← AList.mem_keys]
    exact h.pending_iff id
  constructor
  · intro id
    unfold PendingRequestRegistry.closeForRotation
    dsimp only
    rw [AssocMap.lookup_foldl_insert]
    refine iff_of_false (AList.notMem_empty id) ?_
    split_ifs with hmem
    · simp
    · rwa [hkeys] at hmem
  · unfold PendingRequestRegistry.closeForRotation
    dsimp only
    rw [AssocMap.size_foldl_insert]
    · exact h.size_le
    · intro id hid
      rw [(hkeys id).mp hid]
      simp

lemma ne_pending_of_mem {state : RequestState} (h : (call, state) ∈
    [(RegistryCall.cancel id, .cancelled), (.deadline id, .deadline),
      (.disconnect id, RequestState.disconnected)]) : state ≠ .pending := by
  simp only [List.mem_cons, Prod.mk.injEq, List.not_mem_nil, or_false] at h
  rcases h with ⟨-, rfl⟩ | ⟨-, rfl⟩ | ⟨-, rfl⟩ <;> simp

section

variable (h : Ledger limits registry)
include h

theorem Ledger.effect
    (heffect : RegistryEffect limits registry call result registry') : Ledger limits registry' := by
  cases heffect with
  | kept => exact ⟨h.pending_iff, h.size_le⟩
  | registered hnew hrotation hroom => exact h.reserve hnew hroom _ _
  | admitted hnew hrotation hroom => exact h.reserve hnew hroom _ _
  | completed hpending => exact h.leave hpending (by simp) rfl rfl
  | accepted hpending => exact h.leave hpending (by simp) rfl rfl
  | retired hcall hpending => exact h.leave hpending (ne_pending_of_mem hcall) rfl rfl
  | closed => exact h.closeForRotation

lemma tombstone_stays
    (heffect : RegistryEffect limits registry call result registry') {state : RequestState}
    (hid : registry.usedIds.lookup id = some state) (hstate : state ≠ .pending) :
    registry'.usedIds.lookup id = some state := by
  -- The call writes another id.
  have hother : ∀ {other value}, registry.usedIds.lookup other = none ∨
      registry.usedIds.lookup other = some .pending →
        AList.lookup id (registry.usedIds.insert other value) = some state := by
    intro other value hwas
    have hne : id ≠ other := by
      rintro rfl
      rcases hwas with hnone | hpending
      · rw [hid] at hnone
        cases hnone
      · rw [hid] at hpending
        exact hstate (Option.some.inj hpending)
    rw [AssocMap.lookup_insert, if_neg hne]
    exact hid
  cases heffect with
  | kept => exact hid
  | registered hnew => exact hother (Or.inl hnew)
  | admitted hnew => exact hother (Or.inl hnew)
  | completed hpending => exact hother (Or.inr hpending)
  | accepted hpending => exact hother (Or.inr hpending)
  | retired hcall hpending => exact hother (Or.inr hpending)
  | closed =>
    unfold PendingRequestRegistry.closeForRotation
    dsimp only
    rw [AssocMap.lookup_foldl_insert]
    have hnot : id ∉ registry.pending.keys := by
      rw [← AList.mem_keys, h.pending_iff, hid]
      simpa using hstate
    rw [if_neg hnot]
    exact hid

lemma mem_usedIds_closeForRotation :
    id ∈ registry.closeForRotation.usedIds ↔ id ∈ registry.usedIds := by
  unfold PendingRequestRegistry.closeForRotation
  dsimp only
  rw [AssocMap.mem_iff_lookup, AssocMap.lookup_foldl_insert, AssocMap.mem_iff_lookup]
  split_ifs with hmem
  · rw [← AList.mem_keys, h.pending_iff] at hmem
    simp [hmem]
  · exact Iff.rfl

lemma rotation_stays
    (heffect : RegistryEffect limits registry call result registry')
    (hrotation : registry.rotationRequired = true) :
    registry'.rotationRequired = true ∧ ∀ id, id ∈ registry'.usedIds ↔ id ∈ registry.usedIds := by
  have hsame : ∀ {other value}, registry.usedIds.lookup other = some .pending →
      ∀ id, id ∈ registry.usedIds.insert other value ↔ id ∈ registry.usedIds := by
    intro other value hpending id
    have hmem : other ∈ registry.usedIds := by
      rw [AssocMap.mem_iff_lookup, hpending]
      simp
    rw [AList.mem_insert]
    constructor
    · rintro (rfl | hid)
      · exact hmem
      · exact hid
    · exact Or.inr
  cases heffect with
  | kept rotation hkept => exact ⟨hkept hrotation, fun _ => Iff.rfl⟩
  | registered hnew hopen =>
    rw [hopen] at hrotation
    cases hrotation
  | admitted hnew hopen =>
    rw [hopen] at hrotation
    cases hrotation
  | completed hpending => exact ⟨hrotation, hsame hpending⟩
  | accepted hpending => exact ⟨hrotation, hsame hpending⟩
  | retired hcall hpending => exact ⟨hrotation, hsame hpending⟩
  | closed => exact ⟨rfl, fun _ => mem_usedIds_closeForRotation h⟩

end

/-! ## Histories -/

/-- The calls of a registry so far, each with its result, and the registry that they leave. -/
def registryHistory (limits : RegistryLimits) (calls : List (RegistryCall H)) :
    List (RegistryCall H × Except Thrown (RegistryReply H)) × PendingRequestRegistry H :=
  calls.foldl (fun past call =>
    (past.1 ++ [(call, (call.run limits past.2).1)], (call.run limits past.2).2)) ([], .new)

lemma registryHistory_snoc (calls : List (RegistryCall H)) (call : RegistryCall H) :
    registryHistory limits (calls ++ [call]) =
      ((registryHistory limits calls).1 ++
        [(call, (call.run limits (registryHistory limits calls).2).1)],
        (call.run limits (registryHistory limits calls).2).2) :=
  List.foldl_append ..

/-- A call with its result. -/
abbrev RegistryEntry (H : Type) := RegistryCall H × Except Thrown (RegistryReply H)

/-- A request that was registered with a callback. -/
def registration : RegistryEntry H → Option (JavaString × H)
  | (.register request (some handler), .ok .registered) => some (request.id, handler)
  | _ => none

/-- An id that was admitted. -/
def admission : RegistryEntry H → Option JavaString
  | (.register request _, .ok .registered) => some request.id
  | (.registerInbound request, .ok (.admission .accepted)) => some request.id
  | _ => none

/-- The id of a response that was accepted. -/
def acceptance : RegistryEntry H → Option JavaString
  | (.accept response, .ok (.accepted _)) => some response.id
  | _ => none

/-- A callback that runs, with the id of its response. -/
def handlerRun : RegistryEntry H → Option (JavaString × H)
  | (.accept response, .ok (.accepted (some handler))) => some (response.id, handler)
  | _ => none

/-- A pending id that `completeInbound` retires. -/
def completion : RegistryEntry H → Option JavaString
  | (.completeInbound id, .ok (.retired true)) => some id
  | _ => none

lemma shows_nothing (hresult : ∀ reply, result = .ok reply → reply ≠ .registered ∧
      reply ≠ .admission .accepted ∧ reply ≠ .retired true ∧ ∀ handler, reply ≠ .accepted handler) :
    registration (call, result) = none ∧ admission (call, result) = none ∧
      acceptance (call, result) = none ∧ completion (call, result) = none := by
  refine ⟨?_, ?_, ?_, ?_⟩
  · unfold registration
    split
    · next heq => exact absurd rfl (hresult _ (Prod.mk.inj heq).2).1
    · rfl
  · unfold admission
    split
    · next heq => exact absurd rfl (hresult _ (Prod.mk.inj heq).2).1
    · next heq => exact absurd rfl (hresult _ (Prod.mk.inj heq).2).2.1
    · rfl
  · unfold acceptance
    split
    · next heq => exact absurd rfl ((hresult _ (Prod.mk.inj heq).2).2.2.2 _)
    · rfl
  · unfold completion
    split
    · next heq => exact absurd rfl (hresult _ (Prod.mk.inj heq).2).2.2.1
    · rfl

/-- What holds of the past and the registry. -/
structure Consistent (limits : RegistryLimits) (past : List (RegistryEntry H))
    (registry : PendingRequestRegistry H) : Prop where
  ledger : Ledger limits registry
  handlers : ∀ id handler, registry.responseHandlers.lookup id = some handler →
    (id, handler) ∈ past.filterMap registration ∧
      (id ∈ registry.pending ∨ id ∈ past.filterMap completion)
  admitted : ∀ id ∈ past.filterMap admission, id ∈ registry.usedIds
  admitted_once : (past.filterMap admission).Nodup
  accepted : ∀ id ∈ past.filterMap acceptance, registry.usedIds.lookup id = some .responded
  accepted_once : (past.filterMap acceptance).Nodup

lemma consistent_new : Consistent limits [] (.new : PendingRequestRegistry H) := by
  refine ⟨ledger_new, ?_, by simp, List.nodup_nil, by simp, List.nodup_nil⟩
  intro id handler h
  cases h

lemma used_stays (h : Ledger limits registry)
    (heffect : RegistryEffect limits registry call result registry') (hid : id ∈ registry.usedIds) :
    id ∈ registry'.usedIds := by
  cases heffect with
  | kept => exact hid
  | registered | admitted | completed | accepted | retired =>
    exact (AList.mem_insert _).mpr (Or.inr hid)
  | closed => exact (mem_usedIds_closeForRotation h).mpr hid

section Past

variable {past : List (RegistryEntry H)}

section

variable (h : Consistent limits past registry)
include h

section

variable (heffect : RegistryEffect limits registry call result registry')
include heffect

lemma Consistent.admissions
    :
    (∀ id ∈ (past ++ [(call, result)]).filterMap admission, id ∈ registry'.usedIds) ∧
      ((past ++ [(call, result)]).filterMap admission).Nodup := by
  have hold : ∀ id ∈ past.filterMap admission, id ∈ registry'.usedIds := fun id hid =>
    used_stays h.ledger heffect (h.admitted id hid)
  rw [List.filterMap_append]
  cases hadmission : admission (call, result) with
  | none =>
    simp only [List.filterMap_cons, hadmission, List.filterMap_nil, List.append_nil]
    exact ⟨hold, h.admitted_once⟩
  | some id =>
    -- The id is new.
    have hnew : registry.usedIds.lookup id = none ∧ id ∈ registry'.usedIds := by
      cases heffect with
      | kept rotation hrotation hresult =>
        rw [(shows_nothing hresult).2.1] at hadmission
        cases hadmission
      | registered hnew =>
        obtain rfl := Option.some.inj hadmission
        exact ⟨hnew, (AList.mem_insert _).mpr (Or.inl rfl)⟩
      | admitted hnew =>
        obtain rfl := Option.some.inj hadmission
        exact ⟨hnew, (AList.mem_insert _).mpr (Or.inl rfl)⟩
      | completed | accepted | closed => cases hadmission
      | retired hcall =>
        simp only [List.mem_cons, Prod.mk.injEq, List.not_mem_nil, or_false] at hcall
        rcases hcall with ⟨rfl, -⟩ | ⟨rfl, -⟩ | ⟨rfl, -⟩ <;> cases hadmission
    simp only [List.filterMap_cons, hadmission, List.filterMap_nil]
    rw [← List.concat_eq_append]
    refine ⟨?_, List.Nodup.concat (fun hmem => ?_) h.admitted_once⟩
    · intro other hother
      rw [List.concat_eq_append] at hother
      rcases List.mem_append.mp hother with hmem | hmem
      · exact hold other hmem
      · rw [List.mem_singleton.mp hmem]
        exact hnew.2
    · exact AList.lookup_eq_none.mp hnew.1 (h.admitted id hmem)

lemma Consistent.acceptances
    :
    (∀ id ∈ (past ++ [(call, result)]).filterMap acceptance,
        registry'.usedIds.lookup id = some .responded) ∧
      ((past ++ [(call, result)]).filterMap acceptance).Nodup := by
  have hold : ∀ id ∈ past.filterMap acceptance, registry'.usedIds.lookup id = some .responded :=
    fun id hid => tombstone_stays h.ledger heffect (h.accepted id hid) (by simp)
  rw [List.filterMap_append]
  cases hacceptance : acceptance (call, result) with
  | none =>
    simp only [List.filterMap_cons, hacceptance, List.filterMap_nil, List.append_nil]
    exact ⟨hold, h.accepted_once⟩
  | some id =>
    -- The id is pending before the call.
    have hpending : registry.usedIds.lookup id = some .pending ∧
        registry'.usedIds.lookup id = some .responded := by
      cases heffect with
      | kept rotation hrotation hresult =>
        rw [(shows_nothing hresult).2.2.1] at hacceptance
        cases hacceptance
      | accepted hpending =>
        obtain rfl := Option.some.inj hacceptance
        exact ⟨hpending, AList.lookup_insert _⟩
      | registered | admitted | completed | closed => cases hacceptance
      | retired hcall =>
        simp only [List.mem_cons, Prod.mk.injEq, List.not_mem_nil, or_false] at hcall
        rcases hcall with ⟨rfl, -⟩ | ⟨rfl, -⟩ | ⟨rfl, -⟩ <;> cases hacceptance
    simp only [List.filterMap_cons, hacceptance, List.filterMap_nil]
    rw [← List.concat_eq_append]
    refine ⟨?_, List.Nodup.concat (fun hmem => ?_) h.accepted_once⟩
    · intro other hother
      rw [List.concat_eq_append] at hother
      rcases List.mem_append.mp hother with hmem | hmem
      · exact hold other hmem
      · rw [List.mem_singleton.mp hmem]
        exact hpending.2
    · have hresponded := h.accepted id hmem
      rw [hpending.1] at hresponded
      cases hresponded

lemma Consistent.callbacks
    (id : JavaString) (handler : H)
    (hlookup : registry'.responseHandlers.lookup id = some handler) :
    (id, handler) ∈ (past ++ [(call, result)]).filterMap registration ∧
      (id ∈ registry'.pending ∨ id ∈ (past ++ [(call, result)]).filterMap completion) := by
  rw [List.filterMap_append, List.filterMap_append, List.mem_append, List.mem_append]
  -- An old callback whose id is still pending, or was completed before.
  have hold : registry.responseHandlers.lookup id = some handler →
      (id ∈ registry.pending → id ∈ registry'.pending ∨
        id ∈ [(call, result)].filterMap completion) →
      ((id, handler) ∈ past.filterMap registration ∨
        (id, handler) ∈ [(call, result)].filterMap registration) ∧
      (id ∈ registry'.pending ∨ id ∈ past.filterMap completion ∨
        id ∈ [(call, result)].filterMap completion) := by
    intro hwas hstays
    obtain ⟨hregistered, hpending | hcompleted⟩ := h.handlers id handler hwas
    · refine ⟨Or.inl hregistered, ?_⟩
      rcases hstays hpending with hstill | hnow
      · exact Or.inl hstill
      · exact Or.inr (Or.inr hnow)
    · exact ⟨Or.inl hregistered, Or.inr (Or.inl hcompleted)⟩
  -- The other callbacks stay when one id is retired.
  have hretire : ∀ {other state}, AList.lookup id (registry.responseHandlers.erase other) =
      some handler → registry' = registry.retire other state →
      registry.responseHandlers.lookup id = some handler ∧
        (id ∈ registry.pending → id ∈ registry'.pending) := by
    rintro other state herase rfl
    rw [AssocMap.lookup_erase] at herase
    split_ifs at herase with hne
    exact ⟨herase, fun hpending => AList.mem_erase.mpr ⟨hne, hpending⟩⟩
  cases heffect with
  | kept => exact hold hlookup Or.inl
  | @registered request new hnew =>
    have hlater : id ∈ registry.pending → id ∈ registry.pending.insert request.id request.direction :=
      fun hpending => (AList.mem_insert _).mpr (Or.inr hpending)
    cases new with
    | none => exact hold hlookup fun hpending => Or.inl (hlater hpending)
    | some new =>
      have hinsert : AList.lookup id (registry.responseHandlers.insert request.id new) =
          some handler := hlookup
      rw [AssocMap.lookup_insert] at hinsert
      split_ifs at hinsert with hid
      · obtain rfl := Option.some.inj hinsert
        refine ⟨Or.inr ?_, Or.inl ((AList.mem_insert _).mpr (Or.inl hid))⟩
        rw [hid]
        exact List.mem_singleton.mpr rfl
      · exact hold hinsert fun hpending => Or.inl (hlater hpending)
  | admitted hnew =>
    exact hold hlookup fun hpending => Or.inl ((AList.mem_insert _).mpr (Or.inr hpending))
  | @completed other hpending =>
    refine hold hlookup fun hwas => ?_
    by_cases hid : id = other
    · rw [hid]
      exact Or.inr (List.mem_singleton.mpr rfl)
    · exact Or.inl (AList.mem_erase.mpr ⟨hid, hwas⟩)
  | accepted hpending =>
    obtain ⟨hwas, hstays⟩ := hretire hlookup rfl
    exact hold hwas fun hp => Or.inl (hstays hp)
  | retired hcall hpending =>
    obtain ⟨hwas, hstays⟩ := hretire hlookup rfl
    exact hold hwas fun hp => Or.inl (hstays hp)
  | closed => cases hlookup

theorem Consistent.effect
    :
    Consistent limits (past ++ [(call, result)]) registry' where
  ledger := h.ledger.effect heffect
  handlers := h.callbacks heffect
  admitted := (h.admissions heffect).1
  admitted_once := (h.admissions heffect).2
  accepted := (h.acceptances heffect).1
  accepted_once := (h.acceptances heffect).2

end

end

end Past

lemma consistent_history (limits : RegistryLimits) (calls : List (RegistryCall H)) :
    Consistent limits (registryHistory limits calls).1 (registryHistory limits calls).2 := by
  induction calls using List.reverseRecOn with
  | nil => exact consistent_new
  | append_singleton calls call ih =>
    rw [registryHistory_snoc]
    exact ih.effect (registry_effect call)

/-! ## Callbacks that run -/

lemma acceptance_of_handlerRun {entry : RegistryEntry H} {handler : H}
    (h : handlerRun entry = some (id, handler)) :
    acceptance entry = some id ∧ ∃ response, entry.1 = .accept response ∧ response.id = id := by
  unfold handlerRun at h
  split at h
  · obtain ⟨hid, -⟩ := Prod.mk.inj (Option.some.inj h)
    exact ⟨congrArg some hid, _, rfl, hid⟩
  · cases h

lemma handlerRuns_sublist (past : List (RegistryEntry H)) :
    ((past.filterMap handlerRun).map Prod.fst).Sublist (past.filterMap acceptance) := by
  induction past with
  | nil => exact List.Sublist.slnil
  | cons entry past ih =>
    cases hrun : handlerRun entry with
    | none =>
      rw [List.filterMap_cons_none hrun]
      refine ih.trans ?_
      cases hacceptance : acceptance entry with
      | none => rw [List.filterMap_cons_none hacceptance]
      | some id =>
        rw [List.filterMap_cons_some hacceptance]
        exact List.sublist_cons_self id _
    | some run =>
      obtain ⟨id, handler⟩ := run
      rw [List.filterMap_cons_some hrun,
        List.filterMap_cons_some (acceptance_of_handlerRun hrun).1, List.map_cons]
      exact ih.cons_cons id

lemma registration_of_handlerRun {past : List (RegistryEntry H)}
    (h : Consistent limits past registry)
    (heffect : RegistryEffect limits registry call result registry') {handler : H}
    (hrun : handlerRun (call, result) = some (id, handler)) :
    (id, handler) ∈ past.filterMap registration := by
  obtain ⟨hacceptance, response, rfl, rfl⟩ := acceptance_of_handlerRun hrun
  cases heffect with
  | kept rotation hrotation hresult =>
    rw [(shows_nothing hresult).2.2.1] at hacceptance
    cases hacceptance
  | accepted hpending =>
    cases hlookup : registry.responseHandlers.lookup response.id with
    | none =>
      rw [hlookup] at hrun
      cases hrun
    | some handler' =>
      rw [hlookup] at hrun
      obtain ⟨-, rfl⟩ := Prod.mk.inj (Option.some.inj hrun)
      exact (h.handlers _ _ hlookup).1
  | retired hcall => simp at hcall

lemma registrations_sublist (past : List (RegistryEntry H)) :
    ((past.filterMap registration).map Prod.fst).Sublist (past.filterMap admission) := by
  induction past with
  | nil => exact List.Sublist.slnil
  | cons entry past ih =>
    cases hregistration : registration entry with
    | none =>
      rw [List.filterMap_cons_none hregistration]
      refine ih.trans ?_
      cases hadmission : admission entry with
      | none => rw [List.filterMap_cons_none hadmission]
      | some id =>
        rw [List.filterMap_cons_some hadmission]
        exact List.sublist_cons_self id _
    | some found =>
      obtain ⟨id, handler⟩ := found
      have hadmission : admission entry = some id := by
        unfold registration at hregistration
        split at hregistration
        · exact congrArg some (Prod.mk.inj (Option.some.inj hregistration)).1
        · cases hregistration
      rw [List.filterMap_cons_some hregistration, List.filterMap_cons_some hadmission,
        List.map_cons]
      exact ih.cons_cons id

/-! ## Everything together -/

/-- The registry after some calls. -/
def registryAfter (limits : RegistryLimits) (calls : List (RegistryCall H)) :
    PendingRequestRegistry H := (registryHistory limits calls).2

/-- What the registry keeps, after some calls. -/
structure RegistryKept (limits : RegistryLimits) (calls : List (RegistryCall H)) : Prop where
  pending_iff : ∀ id, id ∈ (registryAfter limits calls).pending ↔
    (registryAfter limits calls).usedIds.lookup id = some .pending
  /-- A callback is there for a pending id, or for one that `completeInbound` has retired. -/
  handlers : ∀ id ∈ (registryAfter limits calls).responseHandlers,
    id ∈ (registryAfter limits calls).pending ∨
      id ∈ (registryHistory limits calls).1.filterMap completion
  /-- A callback runs when a response to the request that it was registered with is accepted. -/
  runs : ∀ call id handler,
    handlerRun (call, (call.run limits (registryAfter limits calls)).1) = some (id, handler) →
      (∃ response, call = .accept response ∧ response.id = id) ∧
        (id, handler) ∈ (registryHistory limits calls).1.filterMap registration
  registered_once : (((registryHistory limits calls).1.filterMap registration).map Prod.fst).Nodup
  runs_once : (((registryHistory limits calls).1.filterMap handlerRun).map Prod.fst).Nodup
  admitted_once : ((registryHistory limits calls).1.filterMap admission).Nodup
  accepted_once : ((registryHistory limits calls).1.filterMap acceptance).Nodup
  /-- An id that is not pending any more keeps its state. -/
  tombstones : ∀ more id state, (registryAfter limits calls).usedIds.lookup id = some state →
    state ≠ .pending → (registryAfter limits (calls ++ more)).usedIds.lookup id = some state
  register_bound : ∀ request handler,
    ((registryAfter limits calls).register limits request handler).2.pending.size ≤
        (registryAfter limits calls).pending.size ∨
      ((registryAfter limits calls).register limits request handler).2.pending.size ≤
        limits.maxPending
  lifetime_bound : (registryAfter limits calls).usedIds.size ≤ limits.maxLifetimeIds
  rotation : (registryAfter limits calls).rotationRequired = true → ∀ more,
    (registryAfter limits (calls ++ more)).rotationRequired = true ∧
      ∀ id, id ∈ (registryAfter limits (calls ++ more)).usedIds ↔
        id ∈ (registryAfter limits calls).usedIds

/-- **The registry keeps its promises after any calls.** -/
theorem registry_kept (limits : RegistryLimits) (calls : List (RegistryCall H)) :
    RegistryKept limits calls := by
  have h := consistent_history limits calls
  have hledger : Ledger limits (registryAfter limits calls) := h.ledger
  constructor
  case pending_iff => exact hledger.pending_iff
  case handlers =>
    intro id hid
    obtain ⟨handler, hlookup⟩ := Option.isSome_iff_exists.mp (AList.lookup_isSome.mpr hid)
    exact (h.handlers id handler hlookup).2
  case runs =>
    intro call id handler hrun
    obtain ⟨-, response, hcall, hid⟩ := acceptance_of_handlerRun hrun
    exact ⟨⟨response, hcall, hid⟩, registration_of_handlerRun h (registry_effect call) hrun⟩
  case registered_once => exact (registrations_sublist _).nodup h.admitted_once
  case runs_once => exact (handlerRuns_sublist _).nodup h.accepted_once
  case admitted_once => exact h.admitted_once
  case accepted_once => exact h.accepted_once
  case tombstones =>
    intro more id state hid hstate
    induction more using List.reverseRecOn with
    | nil =>
      rw [List.append_nil]
      exact hid
    | append_singleton more call ih =>
      rw [← List.append_assoc, registryAfter, registryHistory_snoc]
      exact tombstone_stays (consistent_history limits (calls ++ more)).ledger
        (registry_effect call) ih hstate
  case register_bound =>
    intro request handler
    unfold PendingRequestRegistry.register
    split_ifs with hused hfull hpending
    · exact Or.inl le_rfl
    · exact Or.inl le_rfl
    · exact Or.inl le_rfl
    · have hnew : (registryAfter limits calls).pending.lookup request.id = none := by
        rw [AList.lookup_eq_none, hledger.pending_iff, Option.not_isSome_iff_eq_none.mp hused]
        simp
      right
      change AssocMap.size (AList.insert request.id request.direction
        (registryAfter limits calls).pending) ≤ limits.maxPending
      rw [AssocMap.size_insert_new hnew]
      exact Nat.lt_of_not_le hpending
  case lifetime_bound => exact hledger.size_le
  case rotation =>
    intro hrotation more
    induction more using List.reverseRecOn with
    | nil =>
      rw [List.append_nil]
      exact ⟨hrotation, fun _ => Iff.rfl⟩
    | append_singleton more call ih =>
      rw [← List.append_assoc, registryAfter, registryHistory_snoc]
      obtain ⟨hstill, hsame⟩ := rotation_stays (consistent_history limits (calls ++ more)).ledger
        (registry_effect call) ih.1
      exact ⟨hstill, fun id => (hsame id).trans (ih.2 id)⟩

/-- A request of the sidecar. -/
def approvalRequest : RpcRequest where
  id := java "s:1"
  method := java "approval/request"
  params := []
  direction := .serverToClient
  extensions := []
  checked := by decide +kernel

/-- The id of a request with a callback is given to `completeInbound`. -/
def completedOutbound : List (RegistryCall Unit) :=
  [.register approvalRequest (some ()), .completeInbound (java "s:1")]

/-- A callback can be there for an id that is not pending. -/
theorem callback_outlives_pending :
    ¬ ∀ (limits : RegistryLimits) (calls : List (RegistryCall Unit)),
      ∀ id ∈ (registryAfter limits calls).responseHandlers,
        id ∈ (registryAfter limits calls).pending := by
  intro h
  have hleft := h ⟨1, 1, by decide, by decide⟩ completedOutbound (java "s:1") (by decide +kernel)
  exact absurd hleft (by decide +kernel)

end JaDesktop.Sidecar
