import JaDesktop.Ui.TimelineSequence

/-!
# The item indexes of the timeline

The state keeps the items, their threads, their sizes and the list of items of every thread in four
records.  Live events keep them in step.  A snapshot of a thread puts the list of this thread back,
and no other: it leaves the records in step exactly when it neither deletes nor takes over an item
of another thread (`index_consistent_iff`).
-/

namespace JaDesktop.Ui.TimelineState

variable {Params Raw : Type} {schemas : EventSchemas Params Raw} {state next : TimelineState}
  {event : ThreadEvent Params} {threadId itemId owner : String} {action : Action Params Raw}
  {snapshot : ThreadReadResult Raw}

/-- The items listed under a thread. -/
def listed (state : TimelineState) (threadId : String) : List String :=
  (state.itemIdsByThread.lookup threadId).getD []

/-- The item indexes agree. -/
structure Consistent (state : TimelineState) : Prop where
  owned : ∀ itemId, (state.items.lookup itemId).isSome ↔
    (state.itemThreadById.lookup itemId).isSome
  measured : ∀ itemId, (state.items.lookup itemId).isSome ↔
    (state.itemUtf8BytesById.lookup itemId).isSome
  nodup : ∀ threadId, (state.listed threadId).Nodup
  mem_listed : ∀ threadId itemId, itemId ∈ state.listed threadId ↔
    (state.items.lookup itemId).isSome ∧ state.itemThreadById.lookup itemId = some threadId

namespace Consistent

lemma empty (hitems : state.items = ∅) (howners : state.itemThreadById = ∅)
    (hbytes : state.itemUtf8BytesById = ∅) (hlists : state.itemIdsByThread = ∅) :
    state.Consistent where
  owned itemId := by simp [hitems, howners]
  measured itemId := by simp [hitems, hbytes]
  nodup threadId := by simp [listed, hlists]
  mem_listed threadId itemId := by simp [listed, hitems, hlists]

/-- A change that only replaces known items and their sizes keeps the indexes in step. -/
lemma of_sameKeys (h : state.Consistent)
    (hitems : ∀ itemId, (next.items.lookup itemId).isSome ↔ (state.items.lookup itemId).isSome)
    (howners : next.itemThreadById = state.itemThreadById)
    (hbytes : ∀ itemId, (next.itemUtf8BytesById.lookup itemId).isSome ↔
      (state.itemUtf8BytesById.lookup itemId).isSome)
    (hlists : next.itemIdsByThread = state.itemIdsByThread) : next.Consistent where
  owned itemId := by rw [hitems, howners, h.owned]
  measured itemId := by rw [hitems, hbytes, h.measured]
  nodup threadId := by
    rw [listed, hlists]
    exact h.nodup threadId
  mem_listed threadId itemId := by
    rw [listed, hlists, hitems, howners]
    exact h.mem_listed threadId itemId

lemma congr (h : state.Consistent) (hitems : next.items = state.items)
    (howners : next.itemThreadById = state.itemThreadById)
    (hbytes : next.itemUtf8BytesById = state.itemUtf8BytesById)
    (hlists : next.itemIdsByThread = state.itemIdsByThread) : next.Consistent :=
  h.of_sameKeys (fun _ => by rw [hitems]) howners (fun _ => by rw [hbytes]) hlists

/-- The list of a thread behind `applyItem`. -/
lemma listed_applyItem (state : TimelineState) (item : Item) (threadId other : String) :
    (state.applyItem item threadId).listed other =
      if other = threadId ∧ item.itemId ∉ state.listed threadId then
        state.listed threadId ++ [item.itemId]
      else state.listed other := by
  by_cases hmem : item.itemId ∈ state.listed threadId
  · have hcontains : ((state.itemIdsByThread.lookup threadId).getD []).contains item.itemId :=
      List.contains_iff_mem.mpr hmem
    rw [if_neg (fun h => h.2 hmem)]
    simp only [listed, applyItem, hcontains, if_true]
  · have hcontains : ((state.itemIdsByThread.lookup threadId).getD []).contains item.itemId =
        false := by
      simpa [listed] using hmem
    by_cases hother : other = threadId
    · rw [if_pos ⟨hother, hmem⟩, hother]
      simp only [listed, applyItem, hcontains, Bool.false_eq_true, if_false, AList.lookup_insert,
        Option.getD_some]
    · rw [if_neg (fun h => hother h.1)]
      simp only [listed, applyItem, hcontains, Bool.false_eq_true, if_false, ne_eq, hother,
        not_false_eq_true, AList.lookup_insert_ne]

section

variable (h : state.Consistent)
include h

lemma applyItem {item : Item}
    (howner : ∀ owner, state.itemThreadById.lookup item.itemId = some owner → owner = threadId) :
    (state.applyItem item threadId).Consistent where
  owned itemId := by
    show ((state.items.insert item.itemId item).lookup itemId).isSome ↔
      ((state.itemThreadById.insert item.itemId threadId).lookup itemId).isSome
    rw [Record.isSome_lookup_insert, Record.isSome_lookup_insert, h.owned]
  measured itemId := by
    show ((state.items.insert item.itemId item).lookup itemId).isSome ↔
      ((state.itemUtf8BytesById.insert item.itemId _).lookup itemId).isSome
    rw [Record.isSome_lookup_insert, Record.isSome_lookup_insert, h.measured]
  nodup other := by
    rw [listed_applyItem]
    split
    · next hnew =>
      refine List.Nodup.append (h.nodup threadId) (List.nodup_singleton _) ?_
      intro itemId hmem hsingle
      rw [List.mem_singleton.mp hsingle] at hmem
      exact hnew.2 hmem
    · exact h.nodup other
  mem_listed other itemId := by
    rw [listed_applyItem]
    show _ ↔ ((state.items.insert item.itemId item).lookup itemId).isSome ∧
      (state.itemThreadById.insert item.itemId threadId).lookup itemId = some other
    rw [Record.isSome_lookup_insert, Record.lookup_insert]
    by_cases hid : itemId = item.itemId
    · subst hid
      rw [if_pos rfl, Option.some_inj]
      by_cases hother : other = threadId
      · subst hother
        by_cases hmem : item.itemId ∈ state.listed other
        · simp [hmem]
        · simp [hmem]
      · -- the owner of a known item is the thread of the event
        have hnot : item.itemId ∉ state.listed other := fun hmem =>
          hother (howner other ((h.mem_listed other item.itemId).mp hmem).2)
        simp [hother, hnot, Ne.symm hother]
    · rw [if_neg hid, or_iff_right hid, ← h.mem_listed]
      split
      · next hnew => rw [hnew.1, List.mem_append, List.mem_singleton, or_iff_left hid]
      · rfl

lemma change (hchange : Change schemas state event next) :
    next.Consistent := by
  cases hchange with
  | thread thread => exact h.congr rfl rfl rfl rfl
  | turn turn => exact h.congr rfl rfl rfl rfl
  | item item hturn howner => exact h.applyItem howner
  | delta itemId item delta hitem howner bytes =>
    -- the item and its size are replaced under keys that exist
    have hbytes : (state.itemUtf8BytesById.lookup itemId).isSome :=
      (h.measured itemId).mp (Option.isSome_iff_exists.mpr ⟨item, hitem⟩)
    refine h.of_sameKeys (fun other => ?_) rfl (fun other => ?_) rfl
    · refine Record.isSome_lookup_insert.trans (or_iff_right_of_imp ?_)
      rintro rfl
      rw [hitem]
      rfl
    · refine Record.isSome_lookup_insert.trans (or_iff_right_of_imp ?_)
      rintro rfl
      exact hbytes
  | approvalRequested approval => exact h.congr rfl rfl rfl rfl
  | approvalResolved approvalId decision resolvedAt =>
    rw [applyApprovalResolved]
    split
    · exact h
    · exact h.congr rfl rfl rfl rfl
  | externalTool => exact h

lemma refused (hrefused : Refused state next) : next.Consistent := by
  obtain ⟨result, -, rfl | ⟨key, reason, rfl⟩⟩ := hrefused
  · exact h.congr rfl rfl rfl rfl
  · exact h.congr rfl rfl rfl rfl

lemma applyLiveEvent {event : JaEvent Params} :
    (state.applyLiveEvent schemas event).Consistent := by
  cases event with
  | thread event =>
    rw [applyLiveEvent_thread]
    rcases applyThreadEvent_cases schemas state event with hrefused | ⟨-, next, hnext, heq⟩
    · exact h.refused hrefused
    · obtain ⟨seen, order, hadvance⟩ := next.advance_eq event
      rw [heq, hadvance]
      exact (h.change (change_of_project hnext)).congr rfl rfl rfl rfl
  | runtime event =>
    rcases applyLiveEvent_runtime schemas state event with hrefused | hnext
    · exact h.refused hrefused
    · exact h.congr hnext.items hnext.itemThreadById hnext.itemUtf8BytesById hnext.itemIdsByThread

lemma applyRuntimeStatus {status : HostRuntimeStatus} {now : String} :
    (state.applyRuntimeStatus status now).Consistent := by
  rcases applyRuntimeStatus_cases state status now with ⟨-, hrefused⟩ |
    ⟨-, serverInstanceId, runtime, heq⟩ | ⟨-, serverInstanceId, runtime, heq⟩
  · exact h.refused hrefused
  · rw [heq]
    exact empty rfl rfl rfl rfl
  · rw [heq]
    exact h.congr rfl rfl rfl rfl

end

end Consistent

/-! ## Snapshots -/

/-- The item is deleted when the thread gets a snapshot. -/
def removes (state : TimelineState) (threadId itemId : String) : Bool :=
  (state.items.lookup itemId).any (state.isRemoved threadId itemId)

lemma hasValidItems_nodup {serverInstanceId : String} {seen : List String} {items : List Item}
    (h : state.hasValidItems serverInstanceId threadId seen items = true) :
    (items.map Item.itemId).Nodup ∧ ∀ itemId ∈ items.map Item.itemId, itemId ∉ seen := by
  induction items generalizing seen with
  | nil => simp
  | cons item items ih =>
    rw [hasValidItems] at h
    split at h
    · simp at h
    next hseen =>
    split at h
    · simp at h
    obtain ⟨hnodup, hdisjoint⟩ := ih h
    rw [List.map_cons, List.nodup_cons]
    refine ⟨⟨fun hmem => hdisjoint _ hmem List.mem_cons_self, hnodup⟩, ?_⟩
    intro itemId hmem hin
    rcases List.mem_cons.mp hmem with rfl | hmem
    · exact hseen (List.contains_iff_mem.mpr hin)
    · exact hdisjoint itemId hmem (List.mem_cons_of_mem _ hin)

lemma Accepts.nodup (h : Accepts schemas state snapshot) :
    (snapshot.items.map Item.itemId).Nodup := by
  have hitems := h.structureValid
  rw [hasValidSnapshotStructure, Bool.and_eq_true] at hitems
  exact (hasValidItems_nodup hitems.2).1

lemma isSome_items_insertItems (state : TimelineState) (items : List Item) :
    ((state.insertItems threadId items).items.lookup itemId).isSome ↔
      itemId ∈ items.map Item.itemId ∨ (state.items.lookup itemId).isSome := by
  induction items generalizing state with
  | nil => simp [insertItems]
  | cons item items ih =>
    refine (ih _).trans ?_
    rw [Record.isSome_lookup_insert, List.map_cons, List.mem_cons]
    tauto

lemma isSome_bytes_insertItems (state : TimelineState) (items : List Item) :
    ((state.insertItems threadId items).itemUtf8BytesById.lookup itemId).isSome ↔
      itemId ∈ items.map Item.itemId ∨ (state.itemUtf8BytesById.lookup itemId).isSome := by
  induction items generalizing state with
  | nil => simp [insertItems]
  | cons item items ih =>
    refine (ih _).trans ?_
    rw [Record.isSome_lookup_insert, List.map_cons, List.mem_cons]
    tauto

lemma owner_insertItems (state : TimelineState) (items : List Item) :
    (state.insertItems threadId items).itemThreadById.lookup itemId =
      if itemId ∈ items.map Item.itemId then some threadId
      else state.itemThreadById.lookup itemId := by
  induction items generalizing state with
  | nil => simp [insertItems]
  | cons item items ih =>
    refine (ih _).trans ?_
    rw [Record.lookup_insert, List.map_cons]
    by_cases hmem : itemId ∈ items.map Item.itemId
    · rw [if_pos hmem, if_pos (List.mem_cons_of_mem _ hmem)]
    · rw [if_neg hmem]
      simp only [List.mem_cons, hmem, or_false]

lemma isSome_filter {α : Type} {o : Option α} {p : α → Bool} :
    (o.filter fun a => !p a).isSome ↔ o.isSome ∧ o.any p = false := by
  cases o with
  | none => simp
  | some a => simp [Option.filter_some]

section

variable (h : Accepts schemas state snapshot)
include h

lemma isSome_items_install :
    ((state.installSnapshot snapshot).items.lookup itemId).isSome ↔
      itemId ∈ snapshot.items.map Item.itemId ∨
        (state.items.lookup itemId).isSome ∧
          state.removes snapshot.thread.threadId itemId = false := by
  rw [installSnapshot, if_neg (not_foreign_iff.mpr h.sameInstance)]
  refine (isSome_items_insertItems _ _).trans (or_congr_right ?_)
  show ((state.items.filter fun itemId item =>
    !state.isRemoved snapshot.thread.threadId itemId item).lookup itemId).isSome ↔ _
  rw [Record.lookup_filter]
  exact isSome_filter

lemma isSome_bytes_install :
    ((state.installSnapshot snapshot).itemUtf8BytesById.lookup itemId).isSome ↔
      itemId ∈ snapshot.items.map Item.itemId ∨
        (state.itemUtf8BytesById.lookup itemId).isSome ∧
          state.removes snapshot.thread.threadId itemId = false := by
  rw [installSnapshot, if_neg (not_foreign_iff.mpr h.sameInstance)]
  refine (isSome_bytes_insertItems _ _).trans (or_congr_right ?_)
  show ((state.itemUtf8BytesById.filter fun itemId _ =>
    !state.removes snapshot.thread.threadId itemId).lookup itemId).isSome ↔ _
  rw [Record.lookup_filter]
  cases state.itemUtf8BytesById.lookup itemId <;> simp [Option.filter_some]

lemma owner_install :
    (state.installSnapshot snapshot).itemThreadById.lookup itemId = some owner ↔
      itemId ∈ snapshot.items.map Item.itemId ∧ snapshot.thread.threadId = owner ∨
        itemId ∉ snapshot.items.map Item.itemId ∧
          state.removes snapshot.thread.threadId itemId = false ∧
          state.itemThreadById.lookup itemId = some owner := by
  rw [installSnapshot, if_neg (not_foreign_iff.mpr h.sameInstance)]
  refine (Eq.congr_left (owner_insertItems _ _)).trans ?_
  show (if _ then _ else (state.itemThreadById.filter fun itemId _ =>
    !state.removes snapshot.thread.threadId itemId).lookup itemId) = _ ↔ _
  rw [Record.lookup_filter]
  by_cases hmem : itemId ∈ snapshot.items.map Item.itemId
  · simp [hmem]
  · simp only [hmem, if_false, false_and, not_false_eq_true, true_and, false_or,
      Option.filter_eq_some_iff, Bool.not_eq_true']
    exact and_comm

lemma listed_install :
    (state.installSnapshot snapshot).listed threadId =
      if threadId = snapshot.thread.threadId then snapshot.items.map Item.itemId
      else state.listed threadId := by
  have hlists : (state.installSnapshot snapshot).itemIdsByThread =
      (state.itemIdsByThread.insert snapshot.thread.threadId []).insert snapshot.thread.threadId
        (snapshot.items.map Item.itemId) := by
    rw [installSnapshot, if_neg (not_foreign_iff.mpr h.sameInstance)]
    rfl
  rw [listed, hlists, Record.lookup_insert, Record.lookup_insert]
  by_cases hthread : threadId = snapshot.thread.threadId
  · rw [if_pos hthread, if_pos hthread, Option.getD_some]
  · rw [if_neg hthread, if_neg hthread, if_neg hthread, listed]

end

/-- The snapshot neither deletes nor takes over an item of another thread: no item of another
thread belongs to a turn of the thread, and none is in the snapshot. -/
def LeavesOthers (state : TimelineState) (snapshot : ThreadReadResult Raw) : Prop :=
  ∀ itemId item owner, state.items.lookup itemId = some item →
    state.itemThreadById.lookup itemId = some owner → owner ≠ snapshot.thread.threadId →
      (∀ turn, state.turns.lookup item.turnId = some turn →
        turn.threadId ≠ snapshot.thread.threadId) ∧
      itemId ∉ snapshot.items.map Item.itemId

lemma removes_eq_false_iff {item : Item} (hitem : state.items.lookup itemId = some item) :
    state.removes threadId itemId = false ↔
      state.itemThreadById.lookup itemId ≠ some threadId ∧
        ∀ turn, state.turns.lookup item.turnId = some turn → turn.threadId ≠ threadId := by
  cases hturn : state.turns.lookup item.turnId with
  | none => simp [removes, isRemoved, hitem, hturn]
  | some turn => simp [removes, isRemoved, hitem, hturn]

lemma Consistent.mem_listed_install (h : state.Consistent)
    (haccepts : Accepts schemas state snapshot) (hleaves : state.LeavesOthers snapshot)
    (hthread : threadId ≠ snapshot.thread.threadId) :
    itemId ∈ state.listed threadId ↔
      ((state.installSnapshot snapshot).items.lookup itemId).isSome ∧
        (state.installSnapshot snapshot).itemThreadById.lookup itemId = some threadId := by
  rw [h.mem_listed, isSome_items_install haccepts, owner_install haccepts]
  constructor
  · -- neither of the two ways to lose the item applies
    rintro ⟨hsome, howner⟩
    obtain ⟨item, hitem⟩ := Option.isSome_iff_exists.mp hsome
    obtain ⟨hturn, hnotin⟩ := hleaves itemId item threadId hitem howner hthread
    have hkept : state.removes snapshot.thread.threadId itemId = false := by
      rw [removes_eq_false_iff hitem, howner]
      exact ⟨fun heq => hthread (Option.some_inj.mp heq), hturn⟩
    exact ⟨Or.inr ⟨hsome, hkept⟩, Or.inr ⟨hnotin, hkept, howner⟩⟩
  · rintro ⟨-, ⟨-, heq⟩ | ⟨-, -, howner⟩⟩
    · exact absurd heq.symm hthread
    · exact ⟨(h.owned itemId).mpr (Option.isSome_iff_exists.mpr ⟨threadId, howner⟩), howner⟩

lemma Consistent.installSnapshot (h : state.Consistent) (haccepts : Accepts schemas state snapshot)
    (hleaves : state.LeavesOthers snapshot) : (state.installSnapshot snapshot).Consistent where
  owned itemId := by
    rw [isSome_items_install haccepts, h.owned, Option.isSome_iff_exists, Option.isSome_iff_exists]
    constructor
    · rintro (hmem | ⟨⟨owner, howner⟩, hkept⟩)
      · exact ⟨_, (owner_install haccepts).mpr (Or.inl ⟨hmem, rfl⟩)⟩
      · by_cases hmem : itemId ∈ snapshot.items.map Item.itemId
        · exact ⟨_, (owner_install haccepts).mpr (Or.inl ⟨hmem, rfl⟩)⟩
        · exact ⟨owner, (owner_install haccepts).mpr (Or.inr ⟨hmem, hkept, howner⟩)⟩
    · rintro ⟨owner, howner⟩
      rcases (owner_install haccepts).mp howner with ⟨hmem, -⟩ | ⟨-, hkept, howner⟩
      · exact Or.inl hmem
      · exact Or.inr ⟨⟨owner, howner⟩, hkept⟩
  measured itemId := by
    rw [isSome_items_install haccepts, isSome_bytes_install haccepts, h.measured]
  nodup threadId := by
    rw [listed_install haccepts]
    split
    · exact haccepts.nodup
    · exact h.nodup threadId
  mem_listed threadId itemId := by
    rw [listed_install haccepts]
    split
    · next hthread =>
      rw [hthread, isSome_items_install haccepts, owner_install haccepts]
      constructor
      · exact fun hmem => ⟨Or.inl hmem, Or.inl ⟨hmem, rfl⟩⟩
      · rintro ⟨-, ⟨hmem, -⟩ | ⟨-, hkept, howner⟩⟩
        · exact hmem
        · -- an item of the thread itself is deleted
          obtain ⟨item, hitem⟩ := Option.isSome_iff_exists.mp
            ((h.owned itemId).mpr (Option.isSome_iff_exists.mpr ⟨_, howner⟩))
          exact absurd howner ((removes_eq_false_iff hitem).mp hkept).1
    · next hthread => exact h.mem_listed_install haccepts hleaves hthread

/-- Conversely, an item that the snapshot takes from another thread stays in the list of this
thread. -/
lemma leavesOthers_of_consistent (h : state.Consistent) (haccepts : Accepts schemas state snapshot)
    (hnext : (state.installSnapshot snapshot).Consistent) : state.LeavesOthers snapshot := by
  intro itemId item owner hitem howner hthread
  -- the list of the other thread is not touched
  have hlisted : itemId ∈ (state.installSnapshot snapshot).listed owner := by
    rw [listed_install haccepts, if_neg hthread, h.mem_listed]
    exact ⟨Option.isSome_iff_exists.mpr ⟨item, hitem⟩, howner⟩
  rcases (owner_install haccepts).mp ((hnext.mem_listed owner itemId).mp hlisted).2 with
    ⟨-, heq⟩ | ⟨hnotin, hkept, -⟩
  · exact absurd heq.symm hthread
  · exact ⟨((removes_eq_false_iff hitem).mp hkept).2, hnotin⟩

/-! ## Runs -/

/-- A snapshot that is installed leaves the items of other threads. -/
def Careful (schemas : EventSchemas Params Raw) (state : TimelineState) :
    Action Params Raw → Prop
  | .snapshot snapshot => Accepts schemas state snapshot → state.LeavesOthers snapshot
  | _ => True

lemma consistent_after_iff (h : state.Consistent) (action : Action Params Raw) :
    (state.after schemas action).Consistent ↔ Careful schemas state action := by
  cases action with
  | runtimeStatus status now => exact iff_of_true h.applyRuntimeStatus trivial
  | event event => exact iff_of_true h.applyLiveEvent trivial
  | snapshot snapshot =>
    show (state.applySnapshot schemas snapshot).Consistent ↔
      (Accepts schemas state snapshot → state.LeavesOthers snapshot)
    rcases applySnapshot_cases schemas state snapshot with hrefused | ⟨haccepts, heq⟩
    · -- a refused snapshot has not passed the guards
      refine iff_of_true (h.refused hrefused) fun haccepts => ?_
      rw [applySnapshot_of_accepts haccepts] at hrefused
      exact absurd rfl hrefused.lastOutcome_ne
    · rw [heq]
      exact ⟨fun hnext _ => leavesOthers_of_consistent h haccepts hnext,
        fun hleaves => h.installSnapshot haccepts (hleaves haccepts)⟩

/-- **Item index consistency.**  A run from the first state keeps the item indexes in step
throughout exactly when every snapshot that it installs leaves the items of other threads. -/
theorem index_consistent_iff (schemas : EventSchemas Params Raw)
    (actions : List (Action Params Raw)) :
    (∀ pre, pre <+: actions → (pre.foldl (after schemas) createTimelineState).Consistent) ↔
      ∀ pre action, pre ++ [action] <+: actions →
        Careful schemas (pre.foldl (after schemas) createTimelineState) action :=
  Run.foldl_invariant_iff (.empty rfl rfl rfl rfl) fun _ action h => consistent_after_iff h action

/-- A message that the user wrote. -/
def sampleItem (itemId turnId : String) : Item :=
  ⟨itemId, turnId, .userMessage, .completed, none, none⟩

/-- The snapshot of one thread has an item of a turn that the other thread has started. -/
def sharedTurnRun : List (Action ProjectedParams (JaEvent ProjectedParams)) :=
  [.runtimeStatus readyStatus "", .event (.thread (turnStarted "thr_a" 1 "evt_1")),
    .snapshot (sampleSnapshot "thr_b" 1 [sampleItem "item_b" "turn_a"]),
    .snapshot (sampleSnapshot "thr_a" 1 [])]

/-- The second snapshot deletes the item and leaves it in the list of its thread. -/
theorem shared_turn_inconsistent :
    ¬ (sharedTurnRun.foldl (after projectedSchemas) createTimelineState).Consistent := by
  intro h
  have hlisted := (h.mem_listed "thr_b" "item_b").mp (by decide +kernel)
  exact absurd hlisted.1 (by decide +kernel)

end JaDesktop.Ui.TimelineState
