import JaDesktop.Host.Pending
import JaDesktop.Lib.Runs

/-!
# Every request is completed once

A history of the registry is its state together with the log of what happened: which request was
registered on which channel, and what the operations did to the outside.  Every operation is a
sequence of two kinds of moves, a registration and the settling of one request, and the invariant
`PendingHistory.Valid` is preserved by each of them.  From it follows that every channel carries
at most one completion, and exactly one when its request is no longer active.
-/

namespace JaDesktop.Host

/-! ## What one settling does -/

namespace PendingRegistry

/-- The tombstones that `makeRoom` keeps are the youngest, and there is room for one more. -/
lemma makeRoom_spec {maxTombstones : ℕ} (hpos : 0 < maxTombstones) (tombstones : List Tombstone) :
    ∃ dropped, tombstones = dropped ++ (makeRoom maxTombstones tombstones).1 ∧
      (makeRoom maxTombstones tombstones).2 = dropped.map (fun item => .evicted item.id) ∧
      (makeRoom maxTombstones tombstones).1.length < maxTombstones := by
  induction tombstones with
  | nil => exact ⟨[], rfl, rfl, hpos⟩
  | cons oldest rest ih =>
    rw [makeRoom]
    split_ifs with hfull
    · obtain ⟨dropped, hrest, heffects, hlen⟩ := ih
      refine ⟨oldest :: dropped, ?_, ?_, hlen⟩
      · rw [List.cons_append]
        exact congrArg _ hrest
      · rw [List.map_cons]
        exact congrArg _ heffects
    · exact ⟨[], rfl, rfl, by simpa using hfull⟩

lemma maxTombstones_pos (r : PendingRegistry) : 0 < r.maxTombstones := by
  have h := r.limits
  simp only [validPendingLimits, Bool.not_eq_true', Bool.or_eq_false_iff, beq_eq_false_iff_ne] at h
  omega

/-- The identifiers of the tombstones. -/
def tombstoneIds (r : PendingRegistry) : List String := r.tombstones.map Tombstone.id

/-- **What settling does**, when an active request has no tombstone. -/
theorem settle_eq_some {r r' : PendingRegistry} {id : String} {terminal : PendingTerminal}
    {result : Completion} {effects : List PendingEffect} (hfresh : id ∉ r.tombstoneIds)
    (h : r.settle id terminal result = some (r', effects)) :
    ∃ entry dropped kept, r.active.lookup id = some entry ∧ r.tombstones = dropped ++ kept ∧
      kept.length < r.maxTombstones ∧
      r' = { r with active := r.active.erase id, tombstones := kept ++ [⟨id, terminal⟩] } ∧
      effects = .completed entry.completion result ::
        dropped.map fun item => .evicted item.id := by
  obtain ⟨entry, hentry, heq⟩ := Option.map_eq_some_iff.mp h
  obtain ⟨dropped, hsplit, heffects, hlen⟩ := makeRoom_spec r.maxTombstones_pos r.tombstones
  have hkeep : r.tombstones.eraseP (fun item => item.id == id) = r.tombstones := by
    refine List.eraseP_of_forall_not fun item hitem => ?_
    rw [beq_iff_eq]
    rintro rfl
    exact hfresh (List.mem_map_of_mem hitem)
  simp only [remember, hkeep] at heq
  refine ⟨entry, dropped, (makeRoom r.maxTombstones r.tombstones).1, hentry, hsplit, hlen, ?_, ?_⟩
  · exact (congrArg Prod.fst heq).symm
  · rw [← heffects]
    exact (congrArg Prod.snd heq).symm

end PendingRegistry

/-! ## Histories -/

/-- What happens in the life of a registry. -/
inductive PendingEvent
  | registered (id : String) (channel : ℕ)
  | effect (effect : PendingEffect)

/-- A registry, the number of channels opened so far, and the log of events, oldest first. -/
structure PendingHistory where
  registry : PendingRegistry
  channels : ℕ
  log : List PendingEvent

/-- The calls of the session into the registry. -/
inductive PendingCall
  | register (id : String) (deadline : ℕ)
  | resolve (frame : RpcFrame)
  | expire (order : List String) (now : ℕ)
  | cancel (id : String)
  | close (order : List String)

namespace PendingHistory

/-- Continue a history with the outcome of an operation. -/
def extend (s : PendingHistory) (outcome : PendingRegistry × List PendingEffect) :
    PendingHistory :=
  ⟨outcome.1, s.channels, s.log ++ outcome.2.map .effect⟩

/-- The history after a call. -/
def after (s : PendingHistory) : PendingCall → PendingHistory
  | .register id deadline =>
    match s.registry.register id deadline s.channels with
    | .ok r => ⟨r, s.channels + 1, s.log ++ [.registered id s.channels]⟩
    | .error _ => s
  | .resolve frame => s.extend (s.registry.resolve frame).2
  | .expire order now => s.extend (s.registry.expire order now).2
  | .cancel id => s.extend (s.registry.cancel id).2
  | .close order => s.extend (s.registry.close order).2

/-- The map iterates over its keys, each once, in some order. -/
def Iterates (s : PendingHistory) : PendingCall → Prop
  | .expire order _ | .close order => order.Perm s.registry.active.keys
  | _ => True

/-- One call, as a step of the system. -/
def Step (s : PendingHistory) (call : PendingCall) (s' : PendingHistory) : Prop :=
  s.Iterates call ∧ s' = s.after call

/-- A history that some sequence of calls produces from a new registry. -/
def Reachable (s : PendingHistory) : Prop :=
  ∃ maxActive maxTombstones r calls,
    PendingRegistry.new maxActive maxTombstones = .ok r ∧ Run Step ⟨r, 0, []⟩ calls s

/-! ## Calls are sequences of moves -/

/-- The two moves. -/
inductive Move : PendingHistory → PendingHistory → Prop
  | register {s : PendingHistory} {id : String} {deadline : ℕ} {r : PendingRegistry} :
      s.registry.register id deadline s.channels = .ok r →
      Move s ⟨r, s.channels + 1, s.log ++ [.registered id s.channels]⟩
  | settle {s : PendingHistory} {id : String} {terminal : PendingTerminal} {result : Completion}
      {outcome : PendingRegistry × List PendingEffect} :
      s.registry.settle id terminal result = some outcome → Move s (s.extend outcome)

lemma extend_extend (s : PendingHistory) (r r' : PendingRegistry)
    (effects effects' : List PendingEffect) :
    (s.extend (r, effects)).extend (r', effects') = s.extend (r', effects ++ effects') := by
  simp [extend]

lemma extend_nil (s : PendingHistory) : s.extend (s.registry, []) = s := by
  simp [extend]

lemma moves_settleAll (terminal : PendingTerminal) (result : Completion) (ids : List String)
    (s : PendingHistory) :
    Relation.ReflTransGen Move s
      (s.extend (PendingRegistry.settleAll terminal result ids s.registry)) := by
  induction ids generalizing s with
  | nil =>
    rw [PendingRegistry.settleAll, extend_nil]
  | cons id ids ih =>
    rw [PendingRegistry.settleAll]
    cases hsettle : s.registry.settle id terminal result with
    | none => exact ih s
    | some outcome =>
      obtain ⟨r', effects⟩ := outcome
      have hrest := ih (s.extend (r', effects))
      rw [show (s.extend (r', effects)).registry = r' from rfl, extend_extend] at hrest
      exact Relation.ReflTransGen.head (.settle hsettle) hrest

/-- **Every call is a sequence of moves.** -/
theorem moves_after (s : PendingHistory) (call : PendingCall) :
    Relation.ReflTransGen Move s (s.after call) := by
  cases call with
  | register id deadline =>
    rw [after]
    cases hregister : s.registry.register id deadline s.channels with
    | error e => exact .refl
    | ok r => exact .single (.register hregister)
  | resolve frame =>
    rw [after, PendingRegistry.resolve]
    cases hsettle : s.registry.settle (PendingRegistry.frameId frame) .resolved (.ok frame) with
    | none =>
      rw [extend_nil]
    | some outcome => exact .single (.settle hsettle)
  | expire order now => exact moves_settleAll _ _ _ s
  | cancel id =>
    rw [after, PendingRegistry.cancel]
    cases hsettle : s.registry.settle id .cancelled (.error .cancelled) with
    | none =>
      rw [extend_nil]
    | some outcome => exact .single (.settle hsettle)
  | close order => exact moves_settleAll _ _ _ s

variable {s : PendingHistory} {channel : ℕ} {id : String} {r : PendingRegistry}

lemma mem_log_after {event : PendingEvent} (h : event ∈ s.log) (call : PendingCall) :
    event ∈ (s.after call).log := by
  cases call with
  | register id deadline =>
    rw [after]
    cases s.registry.register id deadline s.channels with
    | error e => exact h
    | ok r => exact List.mem_append_left _ h
  | _ => exact List.mem_append_left _ h

/-! ## The invariant -/

/-- The completions that a channel received. -/
def completions (channel : ℕ) (log : List PendingEvent) : List Completion :=
  log.filterMap fun
    | .effect (.completed c result) => if c = channel then some result else none
    | _ => none

/-- The request waits, and the channel is the one its waiter listens to. -/
def Waits (r : PendingRegistry) (id : String) (channel : ℕ) : Prop :=
  ∃ entry, r.active.lookup id = some entry ∧ entry.completion = channel

/-- The tombstone of the request was dropped, and the request was not registered again since. -/
def EvictedSince (id : String) (log : List PendingEvent) : Prop :=
  ∃ before later, log = before ++ .effect (.evicted id) :: later ∧
    ∀ channel, .registered id channel ∉ later

/-- The invariant of histories. -/
structure Valid (s : PendingHistory) : Prop where
  disjoint : ∀ id ∈ s.registry.active, id ∉ s.registry.tombstoneIds
  distinct : s.registry.tombstoneIds.Nodup
  active_le : s.registry.active.keys.length ≤ s.registry.maxActive
  tombstones_le : s.registry.tombstones.length ≤ s.registry.maxTombstones
  opened : ∀ id channel, .registered id channel ∈ s.log → channel < s.channels
  logged : ∀ id channel, Waits s.registry id channel → .registered id channel ∈ s.log
  owner : ∀ id id' channel, .registered id channel ∈ s.log → .registered id' channel ∈ s.log →
    id = id'
  unsent : ∀ channel, s.channels ≤ channel → completions channel s.log = []
  waiting : ∀ id channel, Waits s.registry id channel → completions channel s.log = []
  completed : ∀ id channel, .registered id channel ∈ s.log → ¬ Waits s.registry id channel →
    (completions channel s.log).length = 1
  remembered : ∀ id channel, .registered id channel ∈ s.log →
    id ∈ s.registry.active ∨ id ∈ s.registry.tombstoneIds ∨ EvictedSince id s.log

lemma completions_append (channel : ℕ) (log log' : List PendingEvent) :
    completions channel (log ++ log') = completions channel log ++ completions channel log' :=
  List.filterMap_append

lemma mem_completions {log : List PendingEvent} {sent : Completion} :
    sent ∈ completions channel log ↔ .effect (.completed channel sent) ∈ log := by
  rw [completions, List.mem_filterMap]
  constructor
  · rintro ⟨event, hmem, hevent⟩
    split at hevent
    · split_ifs at hevent with hchannel
      cases hevent
      exact hchannel ▸ hmem
    · cases hevent
  · exact fun hmem => ⟨_, hmem, by simp⟩

lemma EvictedSince.append {log log' : List PendingEvent} (h : EvictedSince id log)
    (hlog' : ∀ channel, .registered id channel ∉ log') : EvictedSince id (log ++ log') := by
  obtain ⟨before, later, rfl, hlater⟩ := h
  refine ⟨before, later ++ log', by simp, fun channel hmem => ?_⟩
  rcases List.mem_append.mp hmem with hmem | hmem
  · exact hlater channel hmem
  · exact hlog' channel hmem

lemma waits_insert {entry : PendingEntry} {other : String} :
    Waits { r with active := r.active.insert id entry } other channel ↔
      (other = id ∧ entry.completion = channel) ∨ (other ≠ id ∧ Waits r other channel) := by
  by_cases h : other = id
  · subst h
    simp [Waits]
  · simp [Waits, h, AList.lookup_insert_ne h]

lemma waits_erase {r' : PendingRegistry} (hactive : r'.active = r.active.erase id) {other : String} :
    Waits r' other channel ↔ other ≠ id ∧ Waits r other channel := by
  by_cases h : other = id
  · subst h
    simp [Waits, hactive]
  · simp [Waits, hactive, h, AList.lookup_erase_ne h]

lemma Waits.mem (h : Waits r id channel) :
    id ∈ r.active := by
  obtain ⟨entry, hentry, -⟩ := h
  exact AList.lookup_isSome.mp (by simp [hentry])

/-- What `register` accepts. -/
lemma register_eq_ok {r' : PendingRegistry} {deadline : ℕ}
    (h : r.register id deadline channel = .ok r') :
    id ∉ r.active ∧ id ∉ r.tombstoneIds ∧ r.active.keys.length < r.maxActive ∧
      r' = { r with active := r.active.insert id ⟨deadline, channel⟩ } := by
  rw [PendingRegistry.register] at h
  split_ifs at h with hduplicate hfull
  cases h
  simp only [Bool.or_eq_true, decide_eq_true_eq, List.any_eq_true, beq_iff_eq, not_or,
    not_exists, not_and] at hduplicate
  refine ⟨hduplicate.1, ?_, by omega, rfl⟩
  rw [PendingRegistry.tombstoneIds, List.mem_map]
  rintro ⟨item, hitem, rfl⟩
  exact hduplicate.2 item hitem rfl

lemma Valid.register (hs : s.Valid) {deadline : ℕ}
    (h : s.registry.register id deadline s.channels = .ok r) :
    Valid ⟨r, s.channels + 1, s.log ++ [.registered id s.channels]⟩ := by
  obtain ⟨hactive, htombstone, hroom, rfl⟩ := register_eq_ok h
  -- the new channel is new to the log
  have hnew : ∀ other, .registered other s.channels ∉ s.log := fun other hmem =>
    absurd (hs.opened other _ hmem) (lt_irrefl _)
  have hsent : ∀ channel, completions channel [.registered id s.channels] = [] := fun _ => rfl
  refine ⟨?_, hs.distinct, ?_, hs.tombstones_le, ?_, ?_, ?_, ?_, ?_, ?_, ?_⟩
  · intro other hmem
    rcases (AList.mem_insert _).mp hmem with rfl | hmem
    · exact htombstone
    · exact hs.disjoint other hmem
  · rw [AList.keys_insert, List.erase_of_not_mem (by rwa [← AList.mem_keys]), List.length_cons]
    exact hroom
  · intro other channel hmem
    rcases List.mem_append.mp hmem with hmem | hmem
    · exact (hs.opened other channel hmem).trans (Nat.lt_succ_self _)
    · cases List.mem_singleton.mp hmem
      exact Nat.lt_succ_self _
  · intro other channel hwaits
    rcases waits_insert.mp hwaits with ⟨rfl, rfl⟩ | ⟨-, hwaits⟩
    · simp
    · exact List.mem_append_left _ (hs.logged other channel hwaits)
  · intro other other' channel hmem hmem'
    rcases List.mem_append.mp hmem with hmem | hmem <;>
      rcases List.mem_append.mp hmem' with hmem' | hmem'
    · exact hs.owner other other' channel hmem hmem'
    · cases List.mem_singleton.mp hmem'
      exact absurd hmem (hnew other)
    · cases List.mem_singleton.mp hmem
      exact absurd hmem' (hnew other')
    · cases List.mem_singleton.mp hmem
      cases List.mem_singleton.mp hmem'
      rfl
  · intro channel hle
    rw [completions_append, hsent, List.append_nil]
    exact hs.unsent channel (by simp only at hle; omega)
  · intro other channel hwaits
    rw [completions_append, hsent, List.append_nil]
    rcases waits_insert.mp hwaits with ⟨-, rfl⟩ | ⟨-, hwaits⟩
    · exact hs.unsent _ le_rfl
    · exact hs.waiting other channel hwaits
  · intro other channel hmem hnot
    rw [completions_append, hsent, List.append_nil]
    rcases List.mem_append.mp hmem with hmem | hmem
    · refine hs.completed other channel hmem fun hwaits => hnot (waits_insert.mpr (Or.inr ⟨?_, hwaits⟩))
      rintro rfl
      exact hactive hwaits.mem
    · cases List.mem_singleton.mp hmem
      exact absurd (waits_insert.mpr (Or.inl ⟨rfl, rfl⟩)) hnot
  · intro other channel hmem
    by_cases heq : other = id
    · exact Or.inl ((AList.mem_insert _).mpr (Or.inl heq))
    · rcases List.mem_append.mp hmem with hmem | hmem
      · rcases hs.remembered other channel hmem with hmem | hmem | hmem
        · exact Or.inl ((AList.mem_insert _).mpr (Or.inr hmem))
        · exact Or.inr (Or.inl hmem)
        · exact Or.inr (Or.inr (hmem.append fun c hc => heq (by cases List.mem_singleton.mp hc; rfl)))
      · cases List.mem_singleton.mp hmem
        exact absurd rfl heq

lemma completions_settled (channel sent : ℕ) (result : Completion) (dropped : List Tombstone) :
    completions channel ((PendingEffect.completed sent result ::
      dropped.map fun item => .evicted item.id).map .effect) =
        if sent = channel then [result] else [] := by
  have hdropped : completions channel ((dropped.map fun item =>
      PendingEffect.evicted item.id).map .effect) = [] := by
    rw [completions, List.filterMap_eq_nil_iff]
    simp only [List.map_map, List.mem_map, Function.comp_apply]
    rintro _ ⟨item, -, rfl⟩
    rfl
  rw [List.map_cons, ← List.singleton_append, completions_append, hdropped, List.append_nil]
  by_cases h : sent = channel <;> simp [completions, h]

lemma not_registered_of_effects {effects : List PendingEffect} :
    .registered id channel ∉ effects.map PendingEvent.effect := by
  simp

lemma Valid.settle (hs : s.Valid) {terminal : PendingTerminal} {result : Completion}
    {outcome : PendingRegistry × List PendingEffect}
    (h : s.registry.settle id terminal result = some outcome) : (s.extend outcome).Valid := by
  obtain ⟨r', effects⟩ := outcome
  have hactive : id ∈ s.registry.active := by
    obtain ⟨entry, hentry, -⟩ := Option.map_eq_some_iff.mp h
    exact AList.lookup_isSome.mp (by simp [hentry])
  obtain ⟨entry, dropped, kept, hentry, hsplit, hroom, rfl, rfl⟩ :=
    PendingRegistry.settle_eq_some (hs.disjoint id hactive) h
  have hwaits : Waits s.registry id entry.completion := ⟨entry, hentry, rfl⟩
  have hlogged := hs.logged id _ hwaits
  have hids : s.registry.tombstoneIds = dropped.map Tombstone.id ++ kept.map Tombstone.id := by
    rw [PendingRegistry.tombstoneIds, hsplit, List.map_append]
  have hids' : ∀ r : PendingRegistry, r.tombstones = kept ++ [⟨id, terminal⟩] →
      r.tombstoneIds = kept.map Tombstone.id ++ [id] := by
    intro r hr
    rw [PendingRegistry.tombstoneIds, hr, List.map_append, List.map_singleton]
  have hfresh := hs.disjoint id hactive
  have hdistinct := hs.distinct
  rw [hids, List.mem_append, not_or] at hfresh
  rw [hids] at hdistinct
  -- a channel of another registration is another channel
  have hother : ∀ other channel, .registered other channel ∈ s.log → other ≠ id →
      entry.completion ≠ channel := by
    rintro other _ hmem hne rfl
    exact hne (hs.owner other id _ hmem hlogged)
  refine ⟨?_, ?_, ?_, ?_, ?_, ?_, ?_, ?_, ?_, ?_, ?_⟩
  · intro other hmem
    rw [hids' _ rfl, List.mem_append, List.mem_singleton, not_or]
    obtain ⟨hne, hmem⟩ := AList.mem_erase.mp hmem
    have hnot := hs.disjoint other hmem
    rw [hids, List.mem_append, not_or] at hnot
    exact ⟨hnot.2, hne⟩
  · rw [hids' _ rfl]
    rw [← List.concat_eq_append]
    exact List.Nodup.concat hfresh.2 (List.Nodup.of_append_right hdistinct)
  · have herase : (s.registry.active.erase id).keys.length ≤ s.registry.active.keys.length := by
      rw [AList.keys_erase]
      exact List.erase_sublist.length_le
    exact herase.trans hs.active_le
  · simp only [extend, List.length_append, List.length_singleton]
    omega
  · intro other channel hmem
    rcases List.mem_append.mp hmem with hmem | hmem
    · exact hs.opened other channel hmem
    · exact absurd hmem not_registered_of_effects
  · intro other channel hw
    exact List.mem_append_left _ (hs.logged other channel ((waits_erase rfl).mp hw).2)
  · intro other other' channel hmem hmem'
    rcases List.mem_append.mp hmem with hmem | hmem
    · rcases List.mem_append.mp hmem' with hmem' | hmem'
      · exact hs.owner other other' channel hmem hmem'
      · exact absurd hmem' not_registered_of_effects
    · exact absurd hmem not_registered_of_effects
  · intro channel hle
    have hne : entry.completion ≠ channel := by
      rintro rfl
      exact absurd (hs.opened id _ hlogged) (not_lt.mpr hle)
    rw [extend, completions_append, completions_settled, if_neg hne, List.append_nil]
    exact hs.unsent channel hle
  · intro other channel hw
    obtain ⟨hne, hw⟩ := (waits_erase rfl).mp hw
    rw [extend, completions_append, completions_settled,
      if_neg (hother other channel (hs.logged other channel hw) hne), List.append_nil]
    exact hs.waiting other channel hw
  · intro other channel hmem hnot
    rcases List.mem_append.mp hmem with hmem | hmem
    · rw [extend, completions_append, completions_settled, List.length_append]
      by_cases hchannel : entry.completion = channel
      · obtain rfl : other = id := by
          by_contra hne
          exact hother other channel hmem hne hchannel
        subst hchannel
        rw [hs.waiting _ _ hwaits]
        simp
      · have hcount : (completions channel s.log).length = 1 := by
          refine hs.completed other channel hmem fun hw => hnot ((waits_erase rfl).mpr ⟨?_, hw⟩)
          rintro rfl
          obtain ⟨entry', hentry', hcompletion⟩ := hw
          cases hentry.symm.trans hentry'
          exact hchannel hcompletion
        rw [hcount, if_neg hchannel]
        rfl
    · exact absurd hmem not_registered_of_effects
  · intro other channel hmem
    rcases List.mem_append.mp hmem with hmem | hmem
    · by_cases hne : other = id
      · subst hne
        exact Or.inr (Or.inl (by rw [hids' _ rfl]; simp))
      · rcases hs.remembered other channel hmem with hmem | hmem | hmem
        · exact Or.inl (AList.mem_erase.mpr ⟨hne, hmem⟩)
        · rw [hids, List.mem_append] at hmem
          rcases hmem with hmem | hmem
          · -- this settling dropped the tombstone
            obtain ⟨item, hitem, rfl⟩ := List.mem_map.mp hmem
            obtain ⟨older, younger, rfl⟩ := List.append_of_mem hitem
            refine Or.inr (Or.inr ⟨s.log ++ (PendingEffect.completed entry.completion result ::
              older.map fun item => .evicted item.id).map .effect,
              (younger.map fun item => PendingEffect.evicted item.id).map .effect, ?_, ?_⟩)
            · simp [extend]
            · exact fun channel => not_registered_of_effects
          · exact Or.inr (Or.inl (by rw [hids' _ rfl]; exact List.mem_append_left _ hmem))
        · exact Or.inr (Or.inr (hmem.append fun channel => not_registered_of_effects))
    · exact absurd hmem not_registered_of_effects

lemma Valid.moves {s' : PendingHistory} (hs : s.Valid) (h : Relation.ReflTransGen Move s s') :
    s'.Valid := by
  induction h with
  | refl => exact hs
  | tail _ hmove ih =>
    cases hmove with
    | register hregister => exact ih.register hregister
    | settle hsettle => exact ih.settle hsettle

/-- **The invariant holds along every history.** -/
theorem valid_of_reachable (hs : s.Reachable) : s.Valid := by
  obtain ⟨maxActive, maxTombstones, r, calls, hnew, hrun⟩ := hs
  refine hrun.stateInvariant ?_ ?_
  · rw [PendingRegistry.new] at hnew
    split_ifs at hnew
    cases hnew
    refine ⟨?_, ?_, ?_, ?_, ?_, ?_, ?_, ?_, ?_, ?_, ?_⟩ <;>
      simp [PendingRegistry.tombstoneIds, Waits, completions]
  · rintro s call _ hvalid ⟨-, rfl⟩
    exact hvalid.moves (moves_after s call)

/-! ## What leaves the map -/

section Leaving

variable {r r' : PendingRegistry} {id : String} {terminal : PendingTerminal} {result : Completion}
  {effects : List PendingEffect}

lemma active_settle (h : r.settle id terminal result = some (r', effects)) :
    r'.active = r.active.erase id := by
  obtain ⟨entry, -, heq⟩ := Option.map_eq_some_iff.mp h
  cases heq
  rfl

lemma settle_eq_none : r.settle id terminal result = none ↔ id ∉ r.active := by
  rw [PendingRegistry.settle, Option.map_eq_none_iff, AList.lookup_eq_none]

variable {other : String} {channel : ℕ} {s : PendingHistory} {sent : Completion}

lemma waits_settle (h : r.settle id terminal result = some (r', effects)) :
    Waits r' other channel ↔ other ≠ id ∧ Waits r other channel :=
  waits_erase (active_settle h)

lemma waits_settleAll {ids : List String} :
    Waits (PendingRegistry.settleAll terminal result ids r).1 other channel ↔
      other ∉ ids ∧ Waits r other channel := by
  induction ids generalizing r with
  | nil => simp [PendingRegistry.settleAll]
  | cons id ids ih =>
    rw [PendingRegistry.settleAll]
    cases hsettle : r.settle id terminal result with
    | none =>
      simp only [ih, List.mem_cons, not_or, and_assoc]
      have hne : Waits r other channel → other ≠ id := by
        rintro hwaits rfl
        exact settle_eq_none.mp hsettle hwaits.mem
      tauto
    | some outcome =>
      obtain ⟨r', effects⟩ := outcome
      simp only [ih, waits_settle hsettle, List.mem_cons, not_or]
      tauto

lemma waits_of_after {call : PendingCall} (hcall : ∀ id deadline, call ≠ .register id deadline)
    (h : Waits (s.after call).registry other channel) : Waits s.registry other channel := by
  cases call with
  | register id deadline => exact absurd rfl (hcall id deadline)
  | resolve frame =>
    rw [after, PendingRegistry.resolve] at h
    cases hsettle : s.registry.settle (PendingRegistry.frameId frame) .resolved (.ok frame) with
    | none =>
      rw [hsettle] at h
      exact h
    | some outcome =>
      rw [hsettle] at h
      exact ((waits_settle hsettle).mp h).2
  | expire order now => exact (waits_settleAll.mp h).2
  | cancel id =>
    rw [after, PendingRegistry.cancel] at h
    cases hsettle : s.registry.settle id .cancelled (.error .cancelled) with
    | none =>
      rw [hsettle] at h
      exact h
    | some outcome =>
      rw [hsettle] at h
      exact ((waits_settle hsettle).mp h).2
  | close order => exact (waits_settleAll.mp h).2

lemma not_waits_cancel (s : PendingHistory) (id : String) (channel : ℕ) :
    ¬ Waits (s.after (.cancel id)).registry id channel := by
  rw [after, PendingRegistry.cancel]
  cases hsettle : s.registry.settle id .cancelled (.error .cancelled) with
  | none => exact fun h => settle_eq_none.mp hsettle h.mem
  | some outcome => exact fun h => ((waits_settle hsettle).mp h).1 rfl

lemma not_waits_close {order : List String} (horder : s.Iterates (.close order)) (id : String)
    (channel : ℕ) :
    ¬ Waits (s.after (.close order)).registry id channel := by
  intro h
  obtain ⟨hnot, hwaits⟩ := waits_settleAll.mp h
  exact hnot (horder.mem_iff.mpr (AList.mem_keys.mp hwaits.mem))

/-! ## What waiters receive -/

/-- The completions there are: a response, or one of three errors. -/
inductive Answer : Completion → Prop
  | response (frame : RpcFrame) : Answer (.ok frame)
  | deadlineExceeded : Answer (.error .deadlineExceeded)
  | cancelled : Answer (.error .cancelled)
  | sessionClosed : Answer (.error .sessionClosed)

lemma evicted_of_makeRoom {maxTombstones : ℕ} {tombstones : List Tombstone} :
    .completed channel sent ∉ (PendingRegistry.makeRoom maxTombstones tombstones).2 := by
  induction tombstones with
  | nil => simp [PendingRegistry.makeRoom]
  | cons oldest rest ih =>
    rw [PendingRegistry.makeRoom]
    split_ifs
    · simpa using ih
    · simp

lemma sent_settle (h : r.settle id terminal result = some (r', effects))
    (hmem : .completed channel sent ∈ effects) : sent = result := by
  obtain ⟨entry, -, heq⟩ := Option.map_eq_some_iff.mp h
  cases heq
  rcases List.mem_cons.mp hmem with heq | hmem
  · cases heq
    rfl
  · exact absurd hmem evicted_of_makeRoom

lemma sent_settleAll {ids : List String}
    (hmem : .completed channel sent ∈ (PendingRegistry.settleAll terminal result ids r).2) :
    sent = result := by
  induction ids generalizing r with
  | nil => simp [PendingRegistry.settleAll] at hmem
  | cons id ids ih =>
    rw [PendingRegistry.settleAll] at hmem
    cases hsettle : r.settle id terminal result with
    | none =>
      rw [hsettle] at hmem
      exact ih hmem
    | some outcome =>
      rw [hsettle] at hmem
      rcases List.mem_append.mp hmem with hmem | hmem
      · exact sent_settle hsettle hmem
      · exact ih hmem

lemma answer_of_after {call : PendingCall}
    (hmem : .effect (.completed channel sent) ∈ (s.after call).log) :
    .effect (.completed channel sent) ∈ s.log ∨ Answer sent := by
  have hextend : ∀ {r : PendingRegistry} {effects : List PendingEffect},
      .effect (.completed channel sent) ∈ (s.extend (r, effects)).log →
      .effect (.completed channel sent) ∈ s.log ∨ .completed channel sent ∈ effects := by
    intro r effects hmem
    simpa [extend] using hmem
  cases call with
  | register id deadline =>
    rw [after] at hmem
    cases hregister : s.registry.register id deadline s.channels <;> rw [hregister] at hmem
    · exact Or.inl hmem
    · exact Or.inl (by simpa using hmem)
  | resolve frame =>
    rw [after, PendingRegistry.resolve] at hmem
    cases hsettle : s.registry.settle (PendingRegistry.frameId frame) .resolved (.ok frame) with
    | none =>
      rw [hsettle] at hmem
      exact Or.inl (by simpa [extend] using hmem)
    | some outcome =>
      rw [hsettle] at hmem
      refine (hextend hmem).imp_right fun hsent => ?_
      rw [sent_settle hsettle hsent]
      exact .response frame
  | expire order now =>
    refine (hextend hmem).imp_right fun hsent => ?_
    rw [sent_settleAll hsent]
    exact .deadlineExceeded
  | cancel id =>
    rw [after, PendingRegistry.cancel] at hmem
    cases hsettle : s.registry.settle id .cancelled (.error .cancelled) with
    | none =>
      rw [hsettle] at hmem
      exact Or.inl (by simpa [extend] using hmem)
    | some outcome =>
      rw [hsettle] at hmem
      refine (hextend hmem).imp_right fun hsent => ?_
      rw [sent_settle hsettle hsent]
      exact .cancelled
  | close order =>
    refine (hextend hmem).imp_right fun hsent => ?_
    rw [sent_settleAll hsent]
    exact .sessionClosed

end Leaving

/-! ## Responses -/

/-- What the registry of a history promises.  A registration is named by the channel it opened:
an identifier whose tombstone was dropped may be registered again, on another channel. -/
structure ExactlyOnce (s : PendingHistory) : Prop where
  /-- Active requests have no tombstone. -/
  disjoint : ∀ id ∈ s.registry.active, id ∉ s.registry.tombstoneIds
  /-- No two tombstones are for one request. -/
  distinct : s.registry.tombstoneIds.Nodup
  /-- The two limits are kept. -/
  active_le : s.registry.active.keys.length ≤ s.registry.maxActive
  tombstones_le : s.registry.tombstones.length ≤ s.registry.maxTombstones
  /-- A registration that waits has no completion, and one that does not has exactly one. -/
  once : ∀ id channel, .registered id channel ∈ s.log →
    (Waits s.registry id channel → completions channel s.log = []) ∧
    (¬ Waits s.registry id channel → (completions channel s.log).length = 1)
  /-- Only a response to an active request is delivered. -/
  delivered : ∀ frame, (s.registry.resolve frame).1 = .delivered ↔
    PendingRegistry.frameId frame ∈ s.registry.active
  /-- It is delivered to the waiter of the request, and to no other. -/
  received : ∀ frame channel, Waits s.registry (PendingRegistry.frameId frame) channel →
    ∀ other, completions other ((s.registry.resolve frame).2.2.map .effect) =
      if channel = other then [.ok frame] else []
  /-- Any other response changes nothing. -/
  refused : ∀ frame, PendingRegistry.frameId frame ∉ s.registry.active →
    (s.registry.resolve frame).2 = (s.registry, [])
  /-- A response to a request that was once active is a duplicate or late, and unknown only after
  the tombstone of the request was dropped. -/
  classified : ∀ frame channel, .registered (PendingRegistry.frameId frame) channel ∈ s.log →
    PendingRegistry.frameId frame ∉ s.registry.active →
    (s.registry.resolve frame).1 = .duplicateResponse ∨
    (s.registry.resolve frame).1 = .lateResponse ∨
    ((s.registry.resolve frame).1 = .unknownRequest ∧
      EvictedSince (PendingRegistry.frameId frame) s.log)

/-- A response to a request that is not active is classified by the tombstones alone. -/
lemma resolve_of_not_active {frame : RpcFrame} (h : PendingRegistry.frameId frame ∉ r.active) :
    r.resolve frame = (r.tombstoneDisposition (PendingRegistry.frameId frame), r, []) := by
  rw [PendingRegistry.resolve, PendingRegistry.settle, AList.lookup_eq_none.mpr h]
  rfl

lemma resolve_of_active {frame : RpcFrame} (h : PendingRegistry.frameId frame ∈ r.active) :
    ∃ outcome, r.settle (PendingRegistry.frameId frame) .resolved (.ok frame) = some outcome ∧
      r.resolve frame = (.delivered, outcome) := by
  obtain ⟨entry, hentry⟩ := Option.isSome_iff_exists.mp (AList.lookup_isSome.mpr h)
  cases hsettle : r.settle (PendingRegistry.frameId frame) .resolved (.ok frame) with
  | none => simp [PendingRegistry.settle, hentry] at hsettle
  | some outcome => exact ⟨outcome, rfl, by rw [PendingRegistry.resolve, hsettle]⟩

lemma tombstoneDisposition_cases (r : PendingRegistry) (id : String) :
    r.tombstoneDisposition id = .duplicateResponse ∨ r.tombstoneDisposition id = .lateResponse ∨
      (r.tombstoneDisposition id = .unknownRequest ∧ id ∉ r.tombstoneIds) := by
  rw [PendingRegistry.tombstoneDisposition]
  cases hfind : r.tombstones.find? fun item => item.id == id with
  | some item =>
    obtain ⟨_, _ | _ | _⟩ := item <;> simp
  | none =>
    refine Or.inr (Or.inr ⟨rfl, ?_⟩)
    rw [PendingRegistry.tombstoneIds, List.mem_map]
    rintro ⟨item, hitem, rfl⟩
    exact List.find?_eq_none.mp hfind item hitem (by simp)

/-- **Every request is completed exactly once.**  In every history of calls into the registry, in
any order and with any identifiers, deadlines and iteration orders of the map. -/
theorem exactlyOnce_of_reachable {s : PendingHistory} (hs : s.Reachable) : s.ExactlyOnce := by
  have hvalid := valid_of_reachable hs
  refine ⟨hvalid.disjoint, hvalid.distinct, hvalid.active_le, hvalid.tombstones_le, ?_, ?_, ?_, ?_,
    ?_⟩
  · intro id channel hmem
    exact ⟨hvalid.waiting id channel, hvalid.completed id channel hmem⟩
  · intro frame
    by_cases hactive : PendingRegistry.frameId frame ∈ s.registry.active
    · obtain ⟨outcome, -, hresolve⟩ := resolve_of_active hactive
      simp [hresolve, hactive]
    · rcases tombstoneDisposition_cases s.registry (PendingRegistry.frameId frame) with h | h | h <;>
        simp [resolve_of_not_active hactive, hactive, h]
  · intro frame channel hwaits other
    obtain ⟨⟨r', effects⟩, hsettle, hresolve⟩ := resolve_of_active hwaits.mem
    obtain ⟨entry, dropped, -, hentry, -, -, -, rfl⟩ :=
      PendingRegistry.settle_eq_some (hvalid.disjoint _ hwaits.mem) hsettle
    obtain ⟨entry', hentry', rfl⟩ := hwaits
    cases hentry.symm.trans hentry'
    rw [hresolve]
    exact completions_settled _ _ _ _
  · intro frame hactive
    rw [resolve_of_not_active hactive]
  · intro frame channel hmem hactive
    rw [resolve_of_not_active hactive]
    rcases tombstoneDisposition_cases s.registry (PendingRegistry.frameId frame) with
      h | h | ⟨h, hnot⟩
    · exact Or.inl h
    · exact Or.inr (Or.inl h)
    · refine Or.inr (Or.inr ⟨h, ?_⟩)
      rcases hvalid.remembered _ channel hmem with hmem | hmem | hmem
      · exact absurd hmem hactive
      · exact absurd hmem hnot
      · exact hmem

/-- A request that is registered and then cancelled. -/
theorem exactlyOnce_cancelled :
    ∃ s : PendingHistory, s.Reachable ∧ .registered "c:1" 0 ∈ s.log ∧ "c:1" ∉ s.registry.active ∧
      s.ExactlyOnce := by
  let r : PendingRegistry := ⟨∅, [], 1, 1, by decide⟩
  have hreachable : (((⟨r, 0, []⟩ : PendingHistory).after (.register "c:1" 5)).after
      (.cancel "c:1")).Reachable :=
    ⟨1, 1, r, [.register "c:1" 5, .cancel "c:1"], rfl,
      .snoc (.snoc .nil ⟨trivial, rfl⟩) ⟨trivial, rfl⟩⟩
  refine ⟨_, hreachable, ?_, by decide, exactlyOnce_of_reachable hreachable⟩
  exact List.mem_cons_self

end PendingHistory

end JaDesktop.Host
