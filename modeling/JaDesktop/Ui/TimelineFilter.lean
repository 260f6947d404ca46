import JaDesktop.Ui.TimelineIndex
import Mathlib.Data.List.DropRight

/-!
# The duplicate filter of the timeline

The fingerprints of applied events are kept in a set, and beside it in a list for each scope, a
thread or the runtime.  A scope keeps its last `eventDedupWindow` fingerprints; a snapshot of the
thread or a new generation clears it.  An event that the filter has forgotten is held off by the
cursor of its thread, as long as the cursor is not moved back.
-/

namespace JaDesktop.Ui.TimelineState

variable {Params Raw : Type} {schemas : EventSchemas Params Raw} {state next final : TimelineState}
  {scope fingerprint : String} {action : Action Params Raw} {actions : List (Action Params Raw)}
  {snapshot : ThreadReadResult Raw}

/-! ## The two structures -/

/-- The fingerprints that a scope remembers, oldest first. -/
def remembered (state : TimelineState) (scope : String) : List String :=
  (state.seenEventOrderByScope.lookup scope).getD []

/-- The set is the disjoint union of the lists, which are the ends of what was applied. -/
structure Filtered (state : TimelineState) (history : String → List String) : Prop where
  keys : ∀ fingerprint, (state.seenEventIds.lookup fingerprint).isSome ↔
    ∃ scope, fingerprint ∈ state.remembered scope
  disjoint : ∀ scope other fingerprint, fingerprint ∈ state.remembered scope →
    fingerprint ∈ state.remembered other → scope = other
  nodup : ∀ scope, (state.remembered scope).Nodup
  recent : ∀ scope, state.remembered scope = (history scope).rtake eventDedupWindow
  idle : state.handshake.phase ≠ .ready → ∀ scope, state.remembered scope = []

lemma lookup_eraseAll {ν : Type} (r : Record ν) (keys : List String) (key : String) :
    (eraseAll r keys).lookup key = if key ∈ keys then none else r.lookup key := by
  induction keys generalizing r with
  | nil => rw [if_neg List.not_mem_nil]; rfl
  | cons first keys ih =>
    refine (ih (r.erase first)).trans ?_
    by_cases hkeys : key ∈ keys
    · rw [if_pos hkeys, if_pos (List.mem_cons_of_mem first hkeys)]
    · rw [if_neg hkeys]
      by_cases hfirst : key = first
      · rw [if_pos (hfirst ▸ List.mem_cons_self), hfirst, AList.lookup_erase]
      · rw [if_neg fun hmem => (List.mem_cons.mp hmem).elim hfirst hkeys,
          AList.lookup_erase_ne hfirst]

lemma rtake_concat {α : Type} (l : List α) (a : α) (n : ℕ) :
    (l.rtake n ++ [a]).rtake n = (l ++ [a]).rtake n := by
  rw [List.rtake_eq_reverse_take_reverse, List.rtake_eq_reverse_take_reverse,
    List.rtake_eq_reverse_take_reverse, List.reverse_append, List.reverse_append,
    List.reverse_reverse]
  cases n with
  | zero => simp
  | succ n =>
    simp only [List.reverse_singleton, List.singleton_append, List.take_succ_cons, List.take_take]
    rw [Nat.min_eq_left (Nat.le_succ n)]

lemma Filtered.empty (hseen : state.seenEventIds = ∅) (horder : state.seenEventOrderByScope = ∅) :
    state.Filtered fun _ => [] := by
  have hnone (scope : String) : state.remembered scope = [] := by
    rw [remembered, horder, AList.lookup_empty, Option.getD_none]
  refine ⟨?_, ?_, ?_, ?_, fun _ => hnone⟩
  · intro fingerprint
    rw [hseen, AList.lookup_empty]
    refine iff_of_false Bool.false_ne_true ?_
    rintro ⟨scope, hmem⟩
    rw [hnone] at hmem
    exact List.not_mem_nil hmem
  · intro scope other fingerprint hmem
    rw [hnone] at hmem
    exact absurd hmem List.not_mem_nil
  · intro scope
    rw [hnone]
    exact List.nodup_nil
  · intro scope
    rw [hnone]
    rfl

variable {history : String → List String} {event : ThreadEvent Params}

lemma Filtered.congr (h : state.Filtered history)
    (hphase : next.handshake.phase ≠ .ready → state.handshake.phase ≠ .ready)
    (hseen : next.seenEventIds = state.seenEventIds)
    (horder : next.seenEventOrderByScope = state.seenEventOrderByScope) :
    next.Filtered history := by
  have hsame (scope : String) : next.remembered scope = state.remembered scope := by
    rw [remembered, horder, remembered]
  refine ⟨?_, ?_, ?_, ?_, ?_⟩
  · intro fingerprint
    rw [hseen, h.keys]
    simp only [hsame]
  · intro scope other fingerprint
    rw [hsame, hsame]
    exact h.disjoint scope other fingerprint
  · intro scope
    rw [hsame]
    exact h.nodup scope
  · intro scope
    rw [hsame]
    exact h.recent scope
  · intro hnot scope
    rw [hsame]
    exact h.idle (hphase hnot) scope

lemma Filtered.refused (h : state.Filtered history) (hrefused : Refused state next) :
    next.Filtered history := by
  obtain ⟨result, -, rfl | ⟨key, reason, rfl⟩⟩ := hrefused
  · exact h.congr id rfl rfl
  · exact h.congr id rfl rfl

/-! ## Remembering -/

/-- The event of the scope was new, and is remembered. -/
structure Remembers (state : TimelineState) (scope fingerprint : String) (next : TimelineState) :
    Prop where
  ready : state.handshake.phase = .ready
  unseen : ¬ (state.seenEventIds.lookup fingerprint).isSome
  handshake : next.handshake = state.handshake
  seen : next.seenEventIds = (state.rememberEvent scope fingerprint).seenEventIds
  order : next.seenEventOrderByScope =
    (state.rememberEvent scope fingerprint).seenEventOrderByScope
  outcome : next.lastOutcome = some .applied

lemma remembered_rememberEvent (hnew : fingerprint ∉ state.remembered scope) (other : String) :
    (state.rememberEvent scope fingerprint).remembered other =
      if other = scope then (state.remembered scope ++ [fingerprint]).rtake eventDedupWindow
      else state.remembered other := by
  have hcontains : ((state.seenEventOrderByScope.lookup scope).getD []).contains fingerprint =
      false := by
    simpa [remembered] using hnew
  unfold remembered rememberEvent
  simp only [hcontains, Bool.false_eq_true, if_false, Record.lookup_insert]
  by_cases hother : other = scope
  · rw [if_pos hother, if_pos hother, Option.getD_some]
    rfl
  · rw [if_neg hother, if_neg hother]

/-- What the window has pushed out. -/
def evicted (state : TimelineState) (scope fingerprint : String) : List String :=
  (state.remembered scope ++ [fingerprint]).take
    ((state.remembered scope ++ [fingerprint]).length - eventDedupWindow)

lemma lookup_seen_rememberEvent (hnew : fingerprint ∉ state.remembered scope) (key : String) :
    ((state.rememberEvent scope fingerprint).seenEventIds.lookup key).isSome ↔
      key ∉ state.evicted scope fingerprint ∧
        (key = fingerprint ∨ (state.seenEventIds.lookup key).isSome) := by
  have hcontains : ((state.seenEventOrderByScope.lookup scope).getD []).contains fingerprint =
      false := by
    simpa [remembered] using hnew
  unfold rememberEvent
  simp only [hcontains, Bool.false_eq_true, if_false]
  rw [lookup_eraseAll]
  show (if key ∈ state.evicted scope fingerprint then none else _).isSome = true ↔ _
  by_cases hevicted : key ∈ state.evicted scope fingerprint
  · rw [if_pos hevicted]
    exact iff_of_false Bool.false_ne_true fun hboth => hboth.1 hevicted
  · rw [if_neg hevicted, Record.isSome_lookup_insert]
    exact (and_iff_right hevicted).symm

/-- The history of one scope goes on. -/
def extend (history : String → List String) (scope fingerprint : String) : String → List String :=
  fun other => if other = scope then history scope ++ [fingerprint] else history other

lemma Filtered.remembers (h : state.Filtered history)
    (hremembers : Remembers state scope fingerprint next) :
    next.Filtered (extend history scope fingerprint) := by
  have hnowhere (other : String) : fingerprint ∉ state.remembered other := by
    intro hmem
    exact hremembers.unseen ((h.keys fingerprint).mpr ⟨other, hmem⟩)
  have hlists (other : String) : next.remembered other =
      if other = scope then (state.remembered scope ++ [fingerprint]).rtake eventDedupWindow
      else state.remembered other := by
    rw [remembered, hremembers.order]
    exact remembered_rememberEvent (hnowhere scope) other
  -- the list with the new fingerprint, cut into what goes and what stays
  have hcut : state.evicted scope fingerprint ++
      (state.remembered scope ++ [fingerprint]).rtake eventDedupWindow =
        state.remembered scope ++ [fingerprint] := List.take_append_drop _ _
  have hnodup : (state.remembered scope ++ [fingerprint]).Nodup := by
    refine List.Nodup.append (h.nodup scope) (List.nodup_singleton _) ?_
    intro key hmem hsingle
    rw [List.mem_singleton.mp hsingle] at hmem
    exact hnowhere scope hmem
  have hapart := hnodup
  rw [← hcut] at hapart
  have hdisjoint := List.disjoint_of_nodup_append hapart
  -- where a fingerprint of the list behind the step was before
  have hbefore {other key : String} (hmem : key ∈ next.remembered other) :
      key ∈ state.remembered other ∨ key = fingerprint ∧ other = scope := by
    rw [hlists] at hmem
    by_cases hother : other = scope
    · rw [if_pos hother] at hmem
      have hin : key ∈ state.remembered scope ++ [fingerprint] := by
        rw [← hcut]
        exact List.mem_append_right _ hmem
      rcases List.mem_append.mp hin with hold | hnew
      · exact Or.inl (hother ▸ hold)
      · exact Or.inr ⟨List.mem_singleton.mp hnew, hother⟩
    · rw [if_neg hother] at hmem
      exact Or.inl hmem
  refine ⟨?_, ?_, ?_, ?_, ?_⟩
  · intro key
    rw [hremembers.seen, lookup_seen_rememberEvent (hnowhere scope), h.keys]
    constructor
    · rintro ⟨hstays, hkey⟩
      have hretained (hin : key ∈ state.remembered scope ++ [fingerprint]) :
          ∃ other, key ∈ next.remembered other := by
        refine ⟨scope, ?_⟩
        rw [hlists, if_pos rfl]
        rw [← hcut] at hin
        exact (List.mem_append.mp hin).resolve_left hstays
      rcases hkey with rfl | ⟨other, hmem⟩
      · exact hretained (List.mem_append_right _ (List.mem_singleton.mpr rfl))
      · by_cases hother : other = scope
        · exact hretained (List.mem_append_left _ (hother ▸ hmem))
        · exact ⟨other, by rw [hlists, if_neg hother]; exact hmem⟩
    · rintro ⟨other, hmem⟩
      have hold := hbefore hmem
      rw [hlists] at hmem
      refine ⟨?_, ?_⟩
      · intro hevicted
        by_cases hother : other = scope
        · rw [if_pos hother] at hmem
          exact hdisjoint hevicted hmem
        · rw [if_neg hother] at hmem
          -- what is pushed out was of this scope
          have hin : key ∈ state.remembered scope ++ [fingerprint] := by
            rw [← hcut]
            exact List.mem_append_left _ hevicted
          rcases List.mem_append.mp hin with hmine | hnew
          · exact hother (h.disjoint other scope key hmem hmine)
          · rw [List.mem_singleton.mp hnew] at hmem
            exact hnowhere other hmem
      · rcases hold with hold | ⟨rfl, -⟩
        · exact Or.inr ⟨other, hold⟩
        · exact Or.inl rfl
  · intro first second key hfirst hsecond
    rcases hbefore hfirst with hfirst | ⟨rfl, hfirst⟩
    · rcases hbefore hsecond with hsecond | ⟨rfl, -⟩
      · exact h.disjoint first second key hfirst hsecond
      · exact absurd hfirst (hnowhere first)
    · rcases hbefore hsecond with hsecond | ⟨-, hsecond⟩
      · exact absurd hsecond (hnowhere second)
      · rw [hfirst, hsecond]
  · intro other
    rw [hlists]
    by_cases hother : other = scope
    · rw [if_pos hother]
      exact hnodup.sublist (List.drop_sublist _ _)
    · rw [if_neg hother]
      exact h.nodup other
  · intro other
    rw [hlists, extend]
    by_cases hother : other = scope
    · rw [if_pos hother, if_pos hother, h.recent, rtake_concat]
    · rw [if_neg hother, if_neg hother, h.recent]
  · intro hnot
    rw [hremembers.handshake] at hnot
    exact absurd hremembers.ready hnot

/-! ## Clearing -/

/-- The history of one scope begins anew. -/
def restart (history : String → List String) (scope : String) : String → List String :=
  fun other => if other = scope then [] else history other

lemma remembered_clearSeenScope (state : TimelineState) (scope other : String) :
    (state.clearSeenScope scope).remembered other =
      if other = scope then [] else state.remembered other := by
  unfold remembered clearSeenScope
  by_cases hother : other = scope
  · rw [if_pos hother, hother, AList.lookup_erase, Option.getD_none]
  · rw [if_neg hother, AList.lookup_erase_ne hother]

lemma Filtered.clearSeenScope (h : state.Filtered history) (scope : String) :
    (state.clearSeenScope scope).Filtered (restart history scope) := by
  have hlists := state.remembered_clearSeenScope scope
  refine ⟨?_, ?_, ?_, ?_, ?_⟩
  · intro key
    show ((eraseAll state.seenEventIds (state.remembered scope)).lookup key).isSome = true ↔ _
    rw [lookup_eraseAll]
    by_cases hmine : key ∈ state.remembered scope
    · rw [if_pos hmine]
      refine iff_of_false Bool.false_ne_true ?_
      rintro ⟨other, hmem⟩
      rw [hlists] at hmem
      by_cases hother : other = scope
      · rw [if_pos hother] at hmem
        exact List.not_mem_nil hmem
      · rw [if_neg hother] at hmem
        exact hother (h.disjoint other scope key hmem hmine)
    · rw [if_neg hmine, h.keys]
      constructor
      · rintro ⟨other, hmem⟩
        refine ⟨other, ?_⟩
        rw [hlists, if_neg fun hother : other = scope => hmine (hother ▸ hmem)]
        exact hmem
      · rintro ⟨other, hmem⟩
        rw [hlists] at hmem
        by_cases hother : other = scope
        · rw [if_pos hother] at hmem
          exact absurd hmem List.not_mem_nil
        · rw [if_neg hother] at hmem
          exact ⟨other, hmem⟩
  · intro first second key hfirst hsecond
    rw [hlists] at hfirst hsecond
    split_ifs at hfirst hsecond
    · exact absurd hfirst List.not_mem_nil
    · exact absurd hfirst List.not_mem_nil
    · exact absurd hsecond List.not_mem_nil
    · exact h.disjoint first second key hfirst hsecond
  · intro other
    rw [hlists]
    split_ifs
    · exact List.nodup_nil
    · exact h.nodup other
  · intro other
    rw [hlists, restart]
    split_ifs
    · rfl
    · exact h.recent other
  · intro hnot other
    rw [hlists, h.idle hnot, ite_self]

/-! ## The history of a run -/

/-- The scope of an event. -/
def scopeOf : JaEvent Params → String
  | .thread event => event.threadId
  | .runtime _ => "runtime"

instance (status : HostRuntimeStatus) : Decidable (state.Clears status) :=
  inferInstanceAs (Decidable (_ ∧ _ ∧ _ ∧ ¬ (_ ∧ _)))

/-- What a call makes of the history: the fingerprint of an applied event is added, a snapshot that
is installed clears the scope of its thread, and a status that clears the projection clears all. -/
def historyAfter (schemas : EventSchemas Params Raw) (state : TimelineState)
    (history : String → List String) : Action Params Raw → String → List String
  | .runtimeStatus status _ => if state.Clears status then fun _ => [] else history
  | .snapshot snapshot =>
    if (state.applySnapshot schemas snapshot).lastOutcome = some .applied then
      restart history snapshot.thread.threadId
    else history
  | .event event =>
    if (state.applyLiveEvent schemas event).lastOutcome = some .applied then
      extend history (scopeOf event) (eventKey event)
    else history

/-- A call, with the history beside the state. -/
def afterWithHistory (schemas : EventSchemas Params Raw)
    (s : TimelineState × (String → List String)) (action : Action Params Raw) :
    TimelineState × (String → List String) :=
  (s.1.after schemas action, historyAfter schemas s.1 s.2 action)

/-- The fingerprints of the events that calls from the first state have applied in a scope since it
was cleared, oldest first. -/
def appliedSinceClearing (schemas : EventSchemas Params Raw) (actions : List (Action Params Raw)) :
    String → List String :=
  (actions.foldl (afterWithHistory schemas) (createTimelineState, fun _ => [])).2

lemma Change.sameFilter (h : Change schemas state event next) :
    next.handshake = state.handshake ∧ next.seenEventIds = state.seenEventIds ∧
      next.seenEventOrderByScope = state.seenEventOrderByScope := by
  cases h with
  | approvalResolved approvalId decision resolvedAt =>
    rw [applyApprovalResolved]
    split
    · exact ⟨rfl, rfl, rfl⟩
    · exact ⟨rfl, rfl, rfl⟩
  | _ => exact ⟨rfl, rfl, rfl⟩

lemma rememberEvent_congr (scope fingerprint : String)
    (hseen : next.seenEventIds = state.seenEventIds)
    (horder : next.seenEventOrderByScope = state.seenEventOrderByScope) :
    (next.rememberEvent scope fingerprint).seenEventIds =
        (state.rememberEvent scope fingerprint).seenEventIds ∧
      (next.rememberEvent scope fingerprint).seenEventOrderByScope =
        (state.rememberEvent scope fingerprint).seenEventOrderByScope := by
  simp only [rememberEvent, hseen, horder, and_self]

lemma handshake_rememberEvent (state : TimelineState) (scope fingerprint : String) :
    (state.rememberEvent scope fingerprint).handshake = state.handshake := by
  obtain ⟨seen, order, heq⟩ := state.rememberEvent_eq scope fingerprint
  rw [heq]

lemma Remembers.of_rememberEvent (hready : state.handshake.phase = .ready)
    (hunseen : ¬ (state.seenEventIds.lookup fingerprint).isSome) {r : TimelineState}
    (hr : state.rememberEvent scope fingerprint = r) (hhandshake : next.handshake = r.handshake)
    (hseen : next.seenEventIds = r.seenEventIds)
    (horder : next.seenEventOrderByScope = r.seenEventOrderByScope)
    (houtcome : next.lastOutcome = some .applied) : Remembers state scope fingerprint next := by
  subst hr
  rw [handshake_rememberEvent] at hhandshake
  exact ⟨hready, hunseen, hhandshake, hseen, horder, houtcome⟩

lemma remembers_runtime (schemas : EventSchemas Params Raw) (state : TimelineState)
    (event : RuntimeEvent Params) :
    Refused state (state.applyLiveEvent schemas (.runtime event)) ∨
      Remembers state "runtime" (eventKey (.runtime event))
        (state.applyLiveEvent schemas (.runtime event)) := by
  by_cases hready : state.handshake.phase = .ready
  case neg =>
    rw [applyLiveEvent, if_pos hready]
    exact Or.inl (refused_resync (by decide))
  rw [applyLiveEvent, if_neg (not_not_intro hready)]
  simp only [applyRuntimeEvent]
  by_cases hseen : (state.seenEventIds.lookup (eventKey (.runtime event))).isSome
  · rw [if_pos hseen]
    exact Or.inl (refused_outcome (by decide))
  rw [if_neg hseen]
  generalize hr : state.rememberEvent "runtime" (eventKey (.runtime event)) = r
  split
  · split
    · exact Or.inl (refused_resync (by decide))
    split
    · exact Or.inl (refused_resync (by decide))
    · exact Or.inr (.of_rememberEvent hready hseen hr rfl rfl rfl rfl)
  split
  · exact Or.inl (refused_resync (by decide))
  · exact Or.inr (.of_rememberEvent hready hseen hr rfl rfl rfl rfl)

lemma remembers_advance (hadmits : state.Admits event) (hchange : Change schemas state event next) :
    Remembers state event.threadId (eventKey (.thread event)) (next.advance event) := by
  obtain ⟨hhandshake, hseen, horder⟩ := hchange.sameFilter
  have hsame := next.handshake_rememberEvent event.threadId (eventKey (.thread event))
  obtain ⟨hseen', horder'⟩ := rememberEvent_congr event.threadId (eventKey (.thread event)) hseen
    horder
  unfold advance
  generalize next.rememberEvent event.threadId (eventKey (.thread event)) = r at *
  exact ⟨hadmits.ready, hadmits.unseen, hsame.trans hhandshake, hseen', horder', rfl⟩

lemma remembers_applyLiveEvent (schemas : EventSchemas Params Raw) (state : TimelineState)
    (event : JaEvent Params) :
    Refused state (state.applyLiveEvent schemas event) ∨
      Remembers state (scopeOf event) (eventKey event) (state.applyLiveEvent schemas event) := by
  cases event with
  | thread event =>
    rw [applyLiveEvent_thread]
    rcases applyThreadEvent_cases schemas state event with hrefused | ⟨hadmits, next, hnext, heq⟩
    · exact Or.inl hrefused
    · rw [heq]
      exact Or.inr (remembers_advance hadmits (change_of_project hnext))
  | runtime event => exact remembers_runtime schemas state event

lemma Filtered.applyRuntimeStatus (h : state.Filtered history) (status : HostRuntimeStatus)
    (now : String) :
    (state.applyRuntimeStatus status now).Filtered
      (if state.Clears status then fun _ => [] else history) := by
  rcases applyRuntimeStatus_cases state status now with ⟨hclears, hrefused⟩ |
    ⟨hclears, serverInstanceId, runtime, heq⟩ | ⟨hclears, serverInstanceId, runtime, heq⟩
  · rw [if_neg hclears]
    exact h.refused hrefused
  · rw [if_pos hclears, heq]
    exact .empty rfl rfl
  · rw [if_neg hclears]
    have hready : isReady status = true := by
      by_contra hnot
      -- a status that is not ready would have been refused, or would have cleared
      have hrejected : state.applyRuntimeStatus status now = state.outcome .rejected := by
        unfold TimelineState.applyRuntimeStatus
        by_cases hinvalid :
            (!isSafeInteger status.generation || decide (status.generation ≤ 0)) = true
        · rw [if_pos hinvalid]
        by_cases hold : status.generation < state.handshake.generation
        · rw [if_neg hinvalid, if_pos hold]
        have hvalid : isSafeInteger status.generation = true ∧ 0 < status.generation := by
          simpa using hinvalid
        exact absurd ⟨hvalid.1, hvalid.2, Int.not_lt.mp hold, fun hsame => hnot hsame.1⟩ hclears
      rw [hrejected] at heq
      have houtcome := congrArg TimelineState.lastOutcome heq
      exact absurd (Option.some_inj.mp houtcome) (by decide)
    rw [heq]
    refine h.congr (fun hphase => absurd ?_ hphase) rfl rfl
    show (if isReady status then HostPhase.ready else HostPhase.disconnected) = .ready
    rw [if_pos hready]

lemma Filtered.applySnapshot (h : state.Filtered history) (snapshot : ThreadReadResult Raw) :
    (state.applySnapshot schemas snapshot).Filtered
      (if (state.applySnapshot schemas snapshot).lastOutcome = some .applied then
        restart history snapshot.thread.threadId else history) := by
  rcases applySnapshot_cases schemas state snapshot with hrefused | ⟨haccepts, heq⟩
  · rw [if_neg hrefused.lastOutcome_ne]
    exact h.refused hrefused
  · have happlied : (state.applySnapshot schemas snapshot).lastOutcome = some .applied := by
      rw [heq]
      rfl
    rw [if_pos happlied, heq, installSnapshot, if_neg (not_foreign_iff.mpr haccepts.sameInstance)]
    have hitems (s : TimelineState) (items : List Item) :
        (s.insertItems snapshot.thread.threadId items).handshake = s.handshake ∧
        (s.insertItems snapshot.thread.threadId items).seenEventIds = s.seenEventIds ∧
        (s.insertItems snapshot.thread.threadId items).seenEventOrderByScope =
          s.seenEventOrderByScope := by
      induction items generalizing s with
      | nil => exact ⟨rfl, rfl, rfl⟩
      | cons item items ih => exact ih _
    obtain ⟨hhandshake, hseen, horder⟩ :=
      hitems (state.removeThreadEntities snapshot.thread.threadId) snapshot.items
    refine (h.clearSeenScope snapshot.thread.threadId).congr (fun hphase => ?_) hseen horder
    rw [← show _ = (state.clearSeenScope snapshot.thread.threadId).handshake from hhandshake]
    exact hphase

/-- **One call** keeps the filter. -/
lemma Filtered.after (h : state.Filtered history) (action : Action Params Raw) :
    (state.after schemas action).Filtered (historyAfter schemas state history action) := by
  cases action with
  | runtimeStatus status now => exact h.applyRuntimeStatus status now
  | snapshot snapshot => exact h.applySnapshot snapshot
  | event event =>
    show (state.applyLiveEvent schemas event).Filtered (if _ then _ else _)
    rcases remembers_applyLiveEvent schemas state event with hrefused | hremembers
    · rw [if_neg hrefused.lastOutcome_ne]
      exact h.refused hrefused
    · rw [if_pos hremembers.outcome]
      exact h.remembers hremembers

lemma filtered_of_run (h : Run (Step schemas) createTimelineState actions state) :
    state.Filtered (appliedSinceClearing schemas actions) := by
  suffices hboth : (actions.foldl (afterWithHistory schemas)
      (createTimelineState, fun _ => [])).1 = state ∧
      state.Filtered (appliedSinceClearing schemas actions) from hboth.2
  induction h with
  | nil => exact ⟨rfl, .empty rfl rfl⟩
  | @snoc actions before action after hrun hstep ih =>
    obtain ⟨hstate, hfiltered⟩ := ih
    obtain rfl : after = before.after schemas action := hstep
    rw [appliedSinceClearing, List.foldl_append]
    refine ⟨?_, ?_⟩
    · show (afterWithHistory schemas _ action).1 = _
      rw [afterWithHistory, hstate]
    · show (before.after schemas action).Filtered (afterWithHistory schemas _ action).2
      rw [afterWithHistory, hstate]
      exact hfiltered.after action

lemma Filtered.duplicate (h : state.Filtered history) {event : JaEvent Params}
    (hmem : eventKey event ∈ state.remembered scope) :
    state.applyLiveEvent schemas event = state.outcome .duplicate := by
  have hseen : (state.seenEventIds.lookup (eventKey event)).isSome :=
    (h.keys (eventKey event)).mpr ⟨scope, hmem⟩
  have hready : state.handshake.phase = .ready := by
    by_contra hnot
    rw [h.idle hnot] at hmem
    exact List.not_mem_nil hmem
  cases event with
  | thread event =>
    rw [applyLiveEvent_thread, applyThreadEvent, if_neg (not_not_intro hready), if_pos hseen]
  | runtime event =>
    rw [applyLiveEvent, if_neg (not_not_intro hready)]
    simp only [applyRuntimeEvent]
    rw [if_pos hseen]

/-! ## Forgotten events -/

/-- The call moves the cursor of the thread back behind the sequence number, or resets it. -/
def Rewinds (schemas : EventSchemas Params Raw) (threadId : String) (seq : ℕ)
    (state : TimelineState) : Action Params Raw → Prop
  | .runtimeStatus status _ => state.Clears status
  | .snapshot snapshot => snapshot.thread.threadId = threadId ∧
      (state.applySnapshot schemas snapshot).lastOutcome = some .applied ∧
      snapshot.snapshotSeq < seq
  | .event _ => False

/-- A call that does not move the cursor back. -/
def Forward (schemas : EventSchemas Params Raw) (threadId : String) (seq : ℕ)
    (state : TimelineState) (action : Action Params Raw) (next : TimelineState) : Prop :=
  Step schemas state action next ∧ ¬ Rewinds schemas threadId seq state action

variable {threadId : String} {seq : ℕ}

lemma CursorStep.le {applied : Option ℕ} (h : CursorStep threadId state next applied)
    (hseq : seq ≤ (state.lastSeqByThread.lookup threadId).getD 0) :
    seq ≤ (next.lastSeqByThread.lookup threadId).getD 0 := by
  cases h with
  | kept hcursor hmark =>
    rw [hcursor]
    exact hseq
  | applied hunmarked hcursor =>
    rw [hcursor, Option.getD_some]
    omega

lemma Forward.le (h : Forward schemas threadId seq state action next)
    (hseq : seq ≤ (state.lastSeqByThread.lookup threadId).getD 0) :
    seq ≤ (next.lastSeqByThread.lookup threadId).getD 0 := by
  obtain ⟨hstep, hforward⟩ := h
  by_cases hrestarts : Restarts schemas threadId state action
  · obtain rfl : next = state.after schemas action := hstep
    cases action with
    | runtimeStatus status now => exact absurd hrestarts hforward
    | event event => exact absurd hrestarts id
    | snapshot snapshot =>
      obtain ⟨hthread, happlied⟩ := hrestarts
      have hle : seq ≤ snapshot.snapshotSeq := by
        by_contra hnot
        exact hforward ⟨hthread, happlied, Nat.not_le.mp hnot⟩
      show seq ≤ ((state.applySnapshot schemas snapshot).lastSeqByThread.lookup threadId).getD 0
      rcases applySnapshot_cases schemas state snapshot with hrefused | ⟨haccepts, heq⟩
      · exact absurd happlied hrefused.lastOutcome_ne
      · rw [heq, installSnapshot_lastSeqByThread haccepts, hthread, AList.lookup_insert,
          Option.getD_some]
        exact hle
  · exact (cursorStep_of_undisturbed ⟨hstep, hrestarts⟩).le hseq

lemma le_of_forward (h : Run (Forward schemas threadId seq) state actions final)
    (hseq : seq ≤ (state.lastSeqByThread.lookup threadId).getD 0) :
    seq ≤ (final.lastSeqByThread.lookup threadId).getD 0 :=
  h.stateInvariant (I := fun s => seq ≤ (s.lastSeqByThread.lookup threadId).getD 0) hseq
    fun hle hstep => Forward.le hstep hle

/-- An event that was applied is not applied again, unless the cursor of its thread was moved
back. -/
lemma not_applied_again
    (happlied : (state.applyLiveEvent schemas (.thread event)).lastOutcome = some .applied)
    (hrun : Run (Forward schemas event.threadId event.seq)
      (state.applyLiveEvent schemas (.thread event)) actions final) :
    (final.applyLiveEvent schemas (.thread event)).lastOutcome ≠ some .applied := by
  rcases applyLiveEvent_thread_cases schemas state event with hrefused | hfirst
  · exact absurd happlied hrefused.lastOutcome_ne
  have hcursor : event.seq ≤ ((state.applyLiveEvent schemas (.thread event)).lastSeqByThread.lookup
      event.threadId).getD 0 := by
    rw [hfirst.cursor, Option.getD_some]
  have hle := le_of_forward hrun hcursor
  rcases applyLiveEvent_thread_cases schemas final event with hrefused | hsecond
  · exact hrefused.lastOutcome_ne
  · have hnext := hsecond.nextSeq
    omega

/-- **The bounded duplicate filter.**  In every state that calls produce, the set of fingerprints
is the disjoint union of the lists of the scopes; a list has no fingerprint twice and is the end,
1024 entries at most, of what was applied in its scope since it was cleared; a remembered event is a
duplicate and changes nothing else.  A thread event that was applied is not applied again as long as
neither a reset nor a snapshot of its thread with a smaller cutoff comes in between. -/
theorem duplicate_filter (h : Run (Step schemas) createTimelineState actions state) :
    (∀ fingerprint, (state.seenEventIds.lookup fingerprint).isSome ↔
      ∃ scope, fingerprint ∈ state.remembered scope) ∧
    (∀ scope other fingerprint, fingerprint ∈ state.remembered scope →
      fingerprint ∈ state.remembered other → scope = other) ∧
    (∀ scope, (state.remembered scope).Nodup ∧ (state.remembered scope).length ≤ 1024 ∧
      state.remembered scope = (appliedSinceClearing schemas actions scope).rtake 1024) ∧
    (∀ (event : JaEvent Params) (scope : String), eventKey event ∈ state.remembered scope →
      state.applyLiveEvent schemas event = state.outcome .duplicate) ∧
    ∀ event : ThreadEvent Params,
      (state.applyLiveEvent schemas (.thread event)).lastOutcome = some .applied →
        ∀ further final, Run (Forward schemas event.threadId event.seq)
            (state.applyLiveEvent schemas (.thread event)) further final →
          (final.applyLiveEvent schemas (.thread event)).lastOutcome ≠ some .applied := by
  have hfiltered := filtered_of_run h
  refine ⟨hfiltered.keys, hfiltered.disjoint, ?_, ?_, ?_⟩
  · intro scope
    refine ⟨hfiltered.nodup scope, ?_, hfiltered.recent scope⟩
    rw [hfiltered.recent, List.rtake, List.length_drop, eventDedupWindow]
    omega
  · intro event scope hmem
    exact hfiltered.duplicate hmem
  · intro event happlied further final hrun
    exact not_applied_again happlied hrun

/-! ## What is applied again -/

/-- Whatever happens, the event is not applied after it was. -/
def NeverTwice (schemas : EventSchemas Params Raw) (event : JaEvent Params) : Prop :=
  ∀ actions state, Run (Step schemas) createTimelineState actions state →
    (state.applyLiveEvent schemas event).lastOutcome = some .applied →
      ∀ further final, Run (Step schemas) (state.applyLiveEvent schemas event) further final →
        (final.applyLiveEvent schemas event).lastOutcome ≠ some .applied

/-- A runtime event carries no sequence number: where it is not remembered, it is applied. -/
lemma applyLiveEvent_notice (schemas : EventSchemas Params Raw) {event : RuntimeEvent Params}
    (hready : state.handshake.phase = .ready)
    (hnew : ¬ (state.seenEventIds.lookup (eventKey (.runtime event))).isSome)
    (hmethod : event.method ≠ .statusChanged)
    (hinstance : state.serverInstanceId = some event.serverInstanceId) :
    (state.applyLiveEvent schemas (.runtime event)).lastOutcome = some .applied ∧
      (state.applyLiveEvent schemas (.runtime event)).handshake = state.handshake ∧
      (state.applyLiveEvent schemas (.runtime event)).serverInstanceId =
        some event.serverInstanceId := by
  have hforeign : state.serverInstanceId.any (· != event.serverInstanceId) = false := by
    rw [hinstance]
    simp
  have hhandshake := state.handshake_rememberEvent "runtime" (eventKey (.runtime event))
  rw [applyLiveEvent, if_neg (not_not_intro hready)]
  simp only [applyRuntimeEvent]
  rw [if_neg hnew, if_neg hmethod, hforeign, if_neg Bool.false_ne_true, hinstance, Option.getD_some]
  generalize state.rememberEvent "runtime" (eventKey (.runtime event)) = r at *
  exact ⟨rfl, hhandshake, rfl⟩

/-- One notice of many. -/
def notice (n : ℕ) : RuntimeEvent ProjectedParams where
  method := .notice
  serverInstanceId := "srv_a"
  eventId := "evt_" ++ Nat.repr n
  occurredAt := "2026-01-01T00:00:00Z"
  params := .status none

/-- Its fingerprint. -/
def noticeKey (n : ℕ) : String := eventKey (.runtime (notice n))

lemma noticeKey_injective {m n : ℕ} (h : noticeKey m = noticeKey n) : m = n := by
  have hlists := congrArg String.toList h
  simp only [noticeKey, eventKey, notice, String.toList_append, List.append_assoc,
    List.append_cancel_left_eq, Nat.toList_repr] at hlists
  have hvalue := congrArg (fun digits => Nat.ofDigitChars 10 digits 0) hlists
  simpa only [Nat.ofDigitChars_toDigits (by decide : 1 < 10) (by decide : 10 ≤ 10)] using hvalue

/-- The sidecar becomes ready and gives some notices. -/
def notices (n : ℕ) : List (Action ProjectedParams (JaEvent ProjectedParams)) :=
  .runtimeStatus readyStatus "" :: (List.range n).map fun k => .event (.runtime (notice k))

/-- The state behind the notices. -/
def noticed (n : ℕ) : TimelineState :=
  (notices n).foldl (TimelineState.after projectedSchemas) createTimelineState

lemma notices_succ (n : ℕ) : notices (n + 1) = notices n ++ [.event (.runtime (notice n))] := by
  rw [notices, notices, List.range_succ, List.map_append]
  rfl

lemma noticed_succ (n : ℕ) :
    noticed (n + 1) = (noticed n).applyLiveEvent projectedSchemas (.runtime (notice n)) := by
  rw [noticed, notices_succ, List.foldl_append]
  rfl

lemma filtered_noticed (n : ℕ) :
    (noticed n).Filtered (appliedSinceClearing projectedSchemas (notices n)) :=
  filtered_of_run (run_foldl projectedSchemas createTimelineState (notices n))

lemma fst_foldl_afterWithHistory (schemas : EventSchemas Params Raw)
    (s : TimelineState × (String → List String)) (actions : List (Action Params Raw)) :
    (actions.foldl (afterWithHistory schemas) s).1 =
      actions.foldl (TimelineState.after schemas) s.1 := by
  induction actions generalizing s with
  | nil => rfl
  | cons action actions ih => exact ih _

/-- What the notices leave in the scopes. -/
def noticeHistory (n : ℕ) (scope : String) : List String :=
  if scope = "runtime" then (List.range n).map noticeKey else []

lemma extend_noticeHistory (n : ℕ) :
    extend (noticeHistory n) "runtime" (noticeKey n) = noticeHistory (n + 1) := by
  funext scope
  rw [extend, noticeHistory, noticeHistory, noticeHistory, if_pos rfl, List.range_succ,
    List.map_append]
  by_cases hscope : scope = "runtime"
  · rw [if_pos hscope, if_pos hscope]
    rfl
  · rw [if_neg hscope, if_neg hscope, if_neg hscope]

lemma noticed_spec (n : ℕ) : (noticed n).handshake.phase = .ready ∧
    (noticed n).serverInstanceId = some "srv_a" ∧
    appliedSinceClearing projectedSchemas (notices n) = noticeHistory n := by
  induction n with
  | zero =>
    refine ⟨by decide, by decide, ?_⟩
    funext scope
    rw [noticeHistory, List.range_zero, List.map_nil, ite_self]
    rfl
  | succ n ih =>
    obtain ⟨hready, hinstance, hhistory⟩ := ih
    have hnew : ¬ ((noticed n).seenEventIds.lookup (eventKey (.runtime (notice n)))).isSome := by
      intro hseen
      obtain ⟨scope, hmem⟩ := ((filtered_noticed n).keys _).mp hseen
      rw [(filtered_noticed n).recent, hhistory] at hmem
      have hin := List.mem_of_mem_drop hmem
      rw [noticeHistory] at hin
      by_cases hscope : scope = "runtime"
      · rw [if_pos hscope] at hin
        obtain ⟨k, hk, heq⟩ := List.mem_map.mp hin
        obtain rfl := noticeKey_injective heq
        exact absurd (List.mem_range.mp hk) (lt_irrefl k)
      · rw [if_neg hscope] at hin
        exact List.not_mem_nil hin
    have hmethod : (notice n).method ≠ .statusChanged := by
      intro h
      cases h
    obtain ⟨happlied, hhandshake, hsame⟩ :=
      applyLiveEvent_notice projectedSchemas hready hnew hmethod hinstance
    refine ⟨?_, ?_, ?_⟩
    · rw [noticed_succ, hhandshake]
      exact hready
    · rw [noticed_succ, hsame]
      rfl
    · have hstate : ((notices n).foldl (afterWithHistory projectedSchemas)
          (createTimelineState, fun _ => [])).1 = noticed n := fst_foldl_afterWithHistory _ _ _
      rw [appliedSinceClearing, notices_succ, List.foldl_append]
      show historyAfter projectedSchemas _ (appliedSinceClearing projectedSchemas (notices n))
        (.event (.runtime (notice n))) = _
      rw [hstate, historyAfter, if_pos happlied, hhistory]
      exact extend_noticeHistory n

/-- When as many notices as a scope remembers have followed the first one, it is forgotten. -/
lemma first_notice_forgotten :
    ¬ ((noticed (eventDedupWindow + 1)).seenEventIds.lookup (noticeKey 0)).isSome := by
  intro hseen
  obtain ⟨scope, hmem⟩ := ((filtered_noticed _).keys _).mp hseen
  rw [(filtered_noticed _).recent, (noticed_spec _).2.2, noticeHistory] at hmem
  by_cases hscope : scope = "runtime"
  · rw [if_pos hscope, List.rtake, List.length_map, List.length_range, Nat.add_sub_cancel_left,
      List.range_eq_range', List.range'_succ, List.map_cons, List.drop_one, List.tail_cons] at hmem
    obtain ⟨k, hk, heq⟩ := List.mem_map.mp hmem
    obtain rfl := noticeKey_injective heq
    have hle := (List.mem_range'_1.mp hk).1
    omega
  · rw [if_neg hscope] at hmem
    exact List.not_mem_nil (List.mem_of_mem_drop hmem)

/-- The notices from the second one on. -/
def laterNotices (n : ℕ) : List (Action ProjectedParams (JaEvent ProjectedParams)) :=
  (List.range' 1 n).map fun k => .event (.runtime (notice k))

lemma foldl_laterNotices (n : ℕ) : (laterNotices n).foldl (TimelineState.after projectedSchemas)
    ((noticed 0).applyLiveEvent projectedSchemas (.runtime (notice 0))) = noticed (n + 1) := by
  have hsplit : notices (n + 1) =
      notices 0 ++ (.event (.runtime (notice 0)) :: laterNotices n) := by
    rw [notices, List.range_eq_range', List.range'_succ]
    rfl
  show _ = (notices (n + 1)).foldl (TimelineState.after projectedSchemas) createTimelineState
  rw [hsplit, List.foldl_append]
  rfl

lemma not_neverTwice_notice (n : ℕ)
    (h : ¬ ((noticed (n + 1)).seenEventIds.lookup (noticeKey 0)).isSome) :
    ¬ NeverTwice projectedSchemas (.runtime (notice 0)) := by
  intro hnever
  have hfirst : ((noticed 0).applyLiveEvent projectedSchemas
      (.runtime (notice 0))).lastOutcome = some .applied := by
    decide
  have hbefore := run_foldl projectedSchemas createTimelineState (notices 0)
  have hrun := run_foldl projectedSchemas
    ((noticed 0).applyLiveEvent projectedSchemas (.runtime (notice 0))) (laterNotices n)
  rw [foldl_laterNotices] at hrun
  obtain ⟨hready, hinstance, -⟩ := noticed_spec (n + 1)
  have hmethod : (notice 0).method ≠ .statusChanged := by
    intro h
    cases h
  exact hnever _ _ hbefore hfirst _ _ hrun
    (applyLiveEvent_notice projectedSchemas hready h hmethod hinstance).1

/-- The first notice is applied again when it was pushed out, and an event behind a snapshot when
the same snapshot is installed again. -/
theorem applied_twice :
    ¬ NeverTwice projectedSchemas (.runtime (notice 0)) ∧
    ¬ NeverTwice projectedSchemas (.thread (turnStarted "thr_a" 6 "evt_6")) := by
  refine ⟨not_neverTwice_notice eventDedupWindow first_notice_forgotten, ?_⟩
  intro hnever
  exact hnever [.runtimeStatus readyStatus "", .snapshot (sampleSnapshot "thr_a" 5 [])] _
    (run_foldl _ _ _) (by decide +kernel) [.snapshot (sampleSnapshot "thr_a" 5 [])] _
    (run_foldl _ _ _) (by decide +kernel)

/-- An event behind a snapshot, with the run to its first delivery. -/
theorem duplicate_filter_resumed :
    (resumedState.remembered "thr_a").Nodup ∧
    ((resumedState.applyLiveEvent projectedSchemas
      (.thread (turnStarted "thr_a" 6 "evt_6"))).applyLiveEvent projectedSchemas
        (.thread (turnStarted "thr_a" 6 "evt_6"))).lastOutcome ≠ some .applied := by
  have hrun : Run (Step projectedSchemas) createTimelineState
      [.runtimeStatus readyStatus "", .snapshot (sampleSnapshot "thr_a" 5 [])] resumedState :=
    run_foldl _ _ _
  exact ⟨((duplicate_filter hrun).2.2.1 "thr_a").1,
    (duplicate_filter hrun).2.2.2.2 _ (by decide +kernel) [] _ .nil⟩

end JaDesktop.Ui.TimelineState
