import JaDesktop.Bridge.Approvals
import JaDesktop.Lib.Runs

/-!
# Approvals are answered once

An entry of the pending map is backed by the history: its registration is there, and since then
nothing has closed it and its turn has not ended (`Waiting`).  Every answer to an approval is taken
from such an entry, and removes it.  Hence an answer goes to the request that was registered, no
request gets two, and none is left for a decision once its turn has ended.
-/

namespace JaDesktop.Bridge.Approvals

open Host (RpcFrame Respond)

/-! ## Histories -/

/-- The approval that an event takes out of the pending map. -/
def ApprovalEvent.closes : ApprovalEvent → Option String
  | .sent approvalId _ => some approvalId
  | .dropped approvalId => some approvalId
  | _ => none

/-- The request that an answer goes to. -/
def requestOf : Respond → String
  | .result id _ => id
  | .error id _ _ _ _ => id

/-- The approval was registered so, nothing has closed it since, and its turn goes on. -/
def Waiting (history : List ApprovalEvent) (approvalId : String) (pending : PendingApproval) :
    Prop :=
  ∃ pre mid, history = pre ++ .registered approvalId pending :: mid ∧
    (∀ event ∈ mid, event.closes ≠ some approvalId) ∧
    .turnTerminal pending.threadId pending.turnId ∉ mid

/-- An answer is for an approval that waits, and goes to the request it was registered with. -/
def Answers (past : List ApprovalEvent) : ApprovalEvent → Prop
  | .sent approvalId answer | .failed approvalId answer =>
    ∃ pending, Waiting past approvalId pending ∧ requestOf answer = pending.requestId
  | _ => True

variable {history : List ApprovalEvent} {event : ApprovalEvent} {approvalId other : String}
  {pending : PendingApproval} {current next : RunningRuntime} {events : List ApprovalEvent}

lemma waiting_registered (history : List ApprovalEvent) (approvalId : String)
    (pending : PendingApproval) :
    Waiting (history ++ [.registered approvalId pending]) approvalId pending :=
  ⟨history, [], rfl, by simp, by simp⟩

lemma Waiting.snoc (h : Waiting history approvalId pending)
    (hcloses : event.closes ≠ some approvalId)
    (hterminal : event ≠ .turnTerminal pending.threadId pending.turnId) :
    Waiting (history ++ [event]) approvalId pending := by
  obtain ⟨pre, mid, rfl, hmid, hlive⟩ := h
  refine ⟨pre, mid ++ [event], by simp, ?_, ?_⟩
  · exact List.forall_mem_append.mpr ⟨hmid, List.forall_mem_singleton.mpr hcloses⟩
  · intro he
    rcases List.mem_append.mp he with he | he
    · exact hlive he
    · exact hterminal (List.mem_singleton.mp he).symm

lemma registered_between {pre mid post : List ApprovalEvent} {answer later : Respond}
    (h : Justified Answers history)
    (hhistory : history = pre ++ .sent approvalId answer :: mid ++ .sent approvalId later :: post) :
    ∃ pending, .registered approvalId pending ∈ mid := by
  obtain ⟨pending, ⟨pre', mid', hsplit, hmid, -⟩, -⟩ := h _ _ _ hhistory
  -- The first answer cannot stand behind the registration, for it would have closed it.
  rcases List.append_eq_append_iff.mp hsplit with ⟨rest, hpre, hrest⟩ | ⟨rest, hpre, hrest⟩
  · rcases rest with - | ⟨first, rest⟩
    · exact absurd (List.cons.inj hrest).1 (by simp)
    · obtain ⟨-, hrest⟩ := List.cons.inj hrest
      have hmid : mid = rest ++ .registered approvalId pending :: mid' := hrest
      exact ⟨pending, by simp [hmid]⟩
  · rcases rest with - | ⟨first, rest⟩
    · exact absurd (List.cons.inj hrest).1 (by simp)
    · obtain ⟨-, hmem⟩ := List.cons.inj hrest
      have hmid' : mid' = rest ++ .sent approvalId answer :: mid := hmem
      exact absurd rfl (hmid (.sent approvalId answer) (by simp [hmid']))

/-! ## The invariant -/

/-- The maps of a runtime agree with each other and with the history. -/
structure Kept (current : RunningRuntime) (history : List ApprovalEvent) : Prop where
  bounded : Tombstones.Bounded maxRetiredApprovals current.retired
  disjoint : ∀ approvalId ∈ current.pendingApprovals.keys, approvalId ∉ current.retired.members
  length_le : current.pendingApprovals.keys.length ≤ maxPendingApprovals
  waiting : ∀ approvalId pending, current.pendingApprovals.lookup approvalId = some pending →
    Waiting history approvalId pending
  justified : Justified Answers history

lemma kept_start (generation : ℕ) : Kept (.start generation) [] where
  bounded := Tombstones.bounded_empty _
  disjoint := by simp [RunningRuntime.start]
  length_le := by simp [RunningRuntime.start]
  waiting := by simp [RunningRuntime.start]
  justified := .nil

lemma Kept.snoc (h : Kept current history)
    (hcloses : ∀ approvalId ∈ current.pendingApprovals.keys, event.closes ≠ some approvalId)
    (hterminal : ∀ threadId turnId, event ≠ .turnTerminal threadId turnId)
    (hanswers : Answers history event) : Kept current (history ++ [event]) where
  __ := h
  waiting id pending hlookup := by
    have hmem : id ∈ current.pendingApprovals.keys := by
      rw [← AList.mem_keys, ← AList.lookup_isSome, hlookup]
      rfl
    exact (h.waiting id pending hlookup).snoc (hcloses id hmem) (hterminal _ _)
  justified := h.justified.snoc hanswers

@[simp] lemma pending_retirePendingApproval (current : RunningRuntime) (approvalId : String) :
    (current.retirePendingApproval approvalId).pendingApprovals =
      current.pendingApprovals.erase approvalId := rfl

@[simp] lemma retired_retirePendingApproval (current : RunningRuntime) (approvalId : String) :
    (current.retirePendingApproval approvalId).retired =
      current.retired.record maxRetiredApprovals approvalId := rfl

lemma Kept.erase (h : Kept current history) (approvalId : String) :
    Kept (current.retirePendingApproval approvalId) history where
  bounded := h.bounded.record approvalId
  disjoint id hid := by
    rw [pending_retirePendingApproval, AList.keys_erase,
      current.pendingApprovals.keys_nodup.mem_erase_iff] at hid
    rw [retired_retirePendingApproval]
    intro hmem
    rcases Tombstones.mem_of_mem_record hmem with heq | hold
    · exact hid.1 heq
    · exact h.disjoint id hid.2 hold
  length_le := by
    rw [pending_retirePendingApproval, AList.keys_erase]
    exact List.length_erase_le.trans h.length_le
  waiting id pending hlookup := by
    rw [pending_retirePendingApproval] at hlookup
    have hne : id ≠ approvalId := by
      rintro rfl
      simp at hlookup
    rw [AList.lookup_erase_ne hne] at hlookup
    exact h.waiting id pending hlookup
  justified := h.justified

lemma Kept.retire (h : Kept current history) (hcloses : event.closes = some approvalId)
    (hanswers : Answers history event) :
    Kept (current.retirePendingApproval approvalId) (history ++ [event]) := by
  refine (h.erase approvalId).snoc ?_ ?_ hanswers
  · intro id hid
    rw [pending_retirePendingApproval, AList.keys_erase,
      current.pendingApprovals.keys_nodup.mem_erase_iff] at hid
    rw [hcloses]
    exact fun heq => hid.1 (Option.some.inj heq).symm
  · rintro threadId turnId rfl
    cases hcloses

/-! ## Sweeps -/

variable {sweep : Sweep} {answer : String → Respond}

lemma Kept.retireAll (h : Kept current history)
    (hanswer : ∀ requestId, requestOf (answer requestId) = requestId) (ids : List String) :
    Kept (current.retireAll sweep answer ids).1
      (history ++ (current.retireAll sweep answer ids).2) := by
  induction ids generalizing current history with
  | nil => simpa [RunningRuntime.retireAll] using h
  | cons id ids ih =>
    rw [RunningRuntime.retireAll]
    cases hlookup : current.pendingApprovals.lookup id with
    | none =>
      -- A name that is not in the map: it came twice.
      exact ih (h.erase id)
    | some pending =>
      have hwaiting := h.waiting id pending hlookup
      simp only [Option.map_some]
      split
      · have hsent : Kept (current.retirePendingApproval id)
            (history ++ [.sent id (answer pending.requestId)]) :=
          h.retire rfl ⟨pending, hwaiting, hanswer _⟩
        simpa using ih hsent
      · have hdropped : Kept (current.retirePendingApproval id) (history ++ [.dropped id]) :=
          h.retire rfl trivial
        simpa using ih hdropped

lemma retireAll_cons (id : String) (ids : List String) (current : RunningRuntime) :
    (current.retireAll sweep answer (id :: ids)).1 =
      ((current.retirePendingApproval id).retireAll sweep answer ids).1 := by
  rw [RunningRuntime.retireAll]
  cases current.pendingApprovals.lookup id with
  | none => rfl
  | some pending =>
    simp only [Option.map_some]
    split <;> rfl

lemma lookup_retireAll (ids : List String) (current : RunningRuntime) (approvalId : String) :
    (current.retireAll sweep answer ids).1.pendingApprovals.lookup approvalId =
      if approvalId ∈ ids then none else current.pendingApprovals.lookup approvalId := by
  induction ids generalizing current with
  | nil => rfl
  | cons id ids ih =>
    rw [retireAll_cons, ih, pending_retirePendingApproval]
    by_cases hmem : approvalId ∈ ids
    · simp [hmem]
    · by_cases hid : approvalId = id
      · subst hid
        simp
      · simp [hmem, hid, AList.lookup_erase_ne hid]

lemma mem_select {test : String → PendingApproval → Bool} :
    approvalId ∈ current.select sweep test ↔
      ∃ pending, current.pendingApprovals.lookup approvalId = some pending ∧
        test approvalId pending = true := by
  rw [RunningRuntime.select, List.mem_filter, (sweep.arranged _).mem_iff, Option.any_eq_true]
  constructor
  · exact And.right
  · rintro ⟨pending, hlookup, htest⟩
    refine ⟨?_, pending, hlookup, htest⟩
    rw [← AList.mem_keys, ← AList.lookup_isSome, hlookup]
    rfl

lemma Kept.purge (h : Kept current history) (sweep : Sweep) :
    Kept (purgeExpiredApprovals sweep current).1
      (history ++ (purgeExpiredApprovals sweep current).2) :=
  h.retireAll (fun _ => rfl) _

/-- Whatever a sweep retires is among the tombstones after it: there is room for all of it. -/
lemma Kept.suffix_retireAll (sweep : Sweep) (answer : String → Respond) {ids newest : List String}
    (h : Kept current history) (hnewest : newest <:+ current.retired.order) (hids : ids.Nodup)
    (hpending : ∀ id ∈ ids, id ∈ current.pendingApprovals.keys)
    (hlength : newest.length + ids.length ≤ maxRetiredApprovals) :
    newest ++ ids <:+ (current.retireAll sweep answer ids).1.retired.order := by
  induction ids generalizing current newest with
  | nil => simpa [RunningRuntime.retireAll] using hnewest
  | cons id ids ih =>
    obtain ⟨hid, hids⟩ := List.nodup_cons.mp hids
    rw [List.length_cons] at hlength
    have hfresh := h.disjoint id (hpending id List.mem_cons_self)
    have hnext : newest ++ [id] <:+ (current.retirePendingApproval id).retired.order :=
      Tombstones.record_suffix hnewest hfresh (by omega)
    have hrest : ∀ other ∈ ids,
        other ∈ (current.retirePendingApproval id).pendingApprovals.keys := by
      intro other hother
      rw [pending_retirePendingApproval, AList.keys_erase,
        current.pendingApprovals.keys_nodup.mem_erase_iff]
      exact ⟨fun heq => hid (heq ▸ hother), hpending other (List.mem_cons_of_mem _ hother)⟩
    have hall := ih (h.erase id) hnext hids hrest (by simp; omega)
    rw [retireAll_cons, List.append_cons]
    exact hall

/-- The decision on an approval that waits is not answered with `APPROVAL_NOT_FOUND`. -/
lemma Kept.respond_pending (h : Kept current history) (sweep : Sweep) (client delivers : Bool)
    {input : ApprovalResponseInput} (hpending : input.approvalId ∈ current.pendingApprovals.keys) :
    (respondCurrent sweep client delivers input current).1 ≠ .error .notFound := by
  rw [respondCurrent]
  simp only
  cases hlookup : (purgeExpiredApprovals sweep current).1.pendingApprovals.lookup
      input.approvalId with
  | none =>
    -- It expired just now, and its tombstone is there.
    set ids := current.select sweep fun approvalId pending =>
      approvalExpired (sweep.clock approvalId) pending.expiresAt with hselect
    have hsublist : ids.Sublist (sweep.arrange current.pendingApprovals.keys) :=
      List.filter_sublist
    have hperm := sweep.arranged current.pendingApprovals.keys
    have hids : ids.Nodup :=
      (hperm.nodup_iff.mpr current.pendingApprovals.keys_nodup).sublist hsublist
    have hlength : ids.length ≤ maxRetiredApprovals :=
      (hsublist.length_le.trans hperm.length_eq.le).trans h.length_le
    have hsuffix := h.suffix_retireAll sweep approvalExpiredAnswer List.nil_suffix hids (fun id hid => hperm.mem_iff.mp (hsublist.subset hid))
      (by simpa using hlength)
    have hmem : input.approvalId ∈ ids := by
      by_contra hnot
      rw [purgeExpiredApprovals, lookup_retireAll, if_neg hnot, AList.lookup_eq_none] at hlookup
      exact hlookup hpending
    have hretired : input.approvalId ∈ (purgeExpiredApprovals sweep current).1.retired.members :=
      ((h.purge sweep).bounded.mem_iff _).mp (hsuffix.subset (by simpa using hmem))
    rw [if_pos hretired]
    simp
  | some pending =>
    simp only
    split
    · simp
    · split <;> simp

/-- After the sweep of a turn nothing of this turn waits, so the turn may end in the history. -/
lemma Kept.clearTurn (h : Kept current history) (sweep : Sweep) (threadId turnId : String) :
    Kept (clearTurnApprovals sweep threadId turnId current).1
      (history ++ (clearTurnApprovals sweep threadId turnId current).2) := by
  rw [clearTurnApprovals]
  simp only
  rw [← List.append_assoc]
  set ids := current.select sweep fun _ pending =>
    pending.threadId = threadId && pending.turnId = turnId
  have hcleared : Kept (current.retireAll sweep approvalNotFoundAnswer ids).1
      (history ++ (current.retireAll sweep approvalNotFoundAnswer ids).2) :=
    h.retireAll (fun _ => rfl) ids
  constructor
  · exact hcleared.bounded
  · exact hcleared.disjoint
  · exact hcleared.length_le
  · intro id pending hlookup
    refine (hcleared.waiting id pending hlookup).snoc (by simp [ApprovalEvent.closes]) ?_
    intro heq
    obtain ⟨hthread, hturn⟩ := ApprovalEvent.turnTerminal.inj heq
    rw [lookup_retireAll] at hlookup
    split at hlookup
    · cases hlookup
    · next hselect =>
      exact hselect (mem_select.mpr ⟨pending, hlookup, by simp [hthread, hturn]⟩)
  · exact hcleared.justified.snoc trivial

/-! ## Signals and decisions -/

/-- A request is registered under a name that is neither pending nor retired. -/
lemma Kept.register (h : Kept current history) (client : Bool) (frame : RpcFrame) :
    Kept (registerApprovalRequest client frame current).2.1
      (history ++ (registerApprovalRequest client frame current).2.2) := by
  have hrefused : ∀ answer, Kept current (history ++ [.refused answer]) := fun answer =>
    h.snoc (by simp [ApprovalEvent.closes]) (by simp) trivial
  rw [registerApprovalRequest]
  split
  · simpa using h
  split
  · exact hrefused _
  next hcapacity =>
  cases pendingApprovalFromRequest frame with
  | none => exact hrefused _
  | some request =>
    obtain ⟨id, details⟩ := request
    simp only
    split
    · exact hrefused _
    next hfresh =>
    obtain ⟨hpending, hretired⟩ := not_or.mp hfresh
    have hkeys : (current.pendingApprovals.insert id details).keys =
        id :: current.pendingApprovals.keys := by
      rw [AList.keys_insert, List.erase_of_not_mem hpending]
    constructor
    · exact h.bounded
    · intro other hother
      rw [hkeys] at hother
      rcases List.mem_cons.mp hother with rfl | hold
      · exact hretired
      · exact h.disjoint other hold
    · rw [hkeys, List.length_cons]
      omega
    · intro other pending hlookup
      by_cases hother : other = id
      · subst hother
        simp only [AList.lookup_insert, Option.some.injEq] at hlookup
        subst hlookup
        exact waiting_registered _ _ _
      · rw [AList.lookup_insert_ne hother] at hlookup
        exact (h.waiting other pending hlookup).snoc (by simp [ApprovalEvent.closes]) (by simp)
    · exact h.justified.snoc trivial

lemma Kept.handleCurrent (h : Kept current history) (sweep : Sweep) (client later : Bool)
    (signal : BridgeSignal) :
    Kept (handleCurrent sweep client later current signal).1
      (history ++ (handleCurrent sweep client later current signal).2) := by
  have hsame : Kept current (history ++ []) := by simpa using h
  cases signal with
  | serverRequest generation frame =>
    rw [Approvals.handleCurrent]
    split
    · exact hsame
    rw [handleServerRequest]
    split
    · exact hsame
    split
    · exact h.snoc (by simp [ApprovalEvent.closes]) (by simp) trivial
    split
    · exact h.register later frame
    · exact h.snoc (by simp [ApprovalEvent.closes]) (by simp) trivial
  | approvalRequest generation frame =>
    rw [Approvals.handleCurrent]
    split
    · simp only
      rw [← List.append_assoc]
      exact (h.register client frame).snoc (by simp [ApprovalEvent.closes]) (by simp) trivial
    · exact h.snoc (by simp [ApprovalEvent.closes]) (by simp) trivial
  | turnTerminal generation threadId turnId =>
    rw [Approvals.handleCurrent]
    split
    · exact h.clearTurn sweep threadId turnId
    · exact hsame

lemma Kept.respondCurrent (h : Kept current history) (sweep : Sweep) (client delivers : Bool)
    (input : ApprovalResponseInput) :
    Kept (respondCurrent sweep client delivers input current).2.1
      (history ++ (respondCurrent sweep client delivers input current).2.2) := by
  have hpurged := h.purge sweep
  rw [Approvals.respondCurrent]
  simp only
  cases hlookup : (purgeExpiredApprovals sweep current).1.pendingApprovals.lookup
      input.approvalId with
  | none => exact hpurged
  | some pending =>
    have hwaiting := hpurged.waiting _ pending hlookup
    simp only
    split
    · exact hpurged
    split
    · rw [← List.append_assoc]
      exact hpurged.snoc (by simp [ApprovalEvent.closes]) (by simp) ⟨pending, hwaiting, rfl⟩
    · rw [← List.append_assoc]
      exact hpurged.retire rfl ⟨pending, hwaiting, rfl⟩

lemma respondCurrent_failed {client delivers : Bool} {input : ApprovalResponseInput}
    (hfails : (client && delivers) = false)
    (hlookup : (purgeExpiredApprovals sweep current).1.pendingApprovals.lookup input.approvalId =
      some pending) :
    (respondCurrent sweep client delivers input current).1 = .error .process ∧
      (respondCurrent sweep client delivers input current).2.1 =
        (purgeExpiredApprovals sweep current).1 := by
  rw [respondCurrent]
  simp only [hlookup]
  cases client with
  | false => exact ⟨rfl, rfl⟩
  | true =>
    obtain rfl : delivers = false := by simpa using hfails
    exact ⟨rfl, rfl⟩

lemma handleCurrent_stale {client later : Bool} {signal : BridgeSignal}
    (hstale : signal.generation ≠ current.generation) :
    (handleCurrent sweep client later current signal).1 = current ∧
      ∀ event ∈ (handleCurrent sweep client later current signal).2,
        event = .acknowledged false := by
  cases signal with
  | serverRequest generation frame =>
    have hne : current.generation ≠ generation := Ne.symm hstale
    simp [handleCurrent, hne]
  | approvalRequest generation frame =>
    have hne : current.generation ≠ generation := Ne.symm hstale
    simp [handleCurrent, hne]
  | turnTerminal generation threadId turnId =>
    have hne : current.generation ≠ generation := Ne.symm hstale
    simp [handleCurrent, hne]

/-! ## Runs -/

namespace Correlation

variable {s : Correlation} {generation : ℕ}

/-- The invariant of a run: while there is a runtime it is kept, and the history is justified. -/
def Invariant (s : Correlation) : Prop :=
  Justified Answers s.history ∧ ∀ current, s.runtime = some current → Kept current s.history

lemma invariant_proceed {outcome : RunningRuntime × List ApprovalEvent}
    (h : Kept outcome.1 (s.history ++ outcome.2)) : Invariant (s.proceed outcome) := by
  refine ⟨h.justified, ?_⟩
  intro current hcurrent
  obtain rfl := Option.some.inj hcurrent
  exact h

lemma Invariant.after (h : Invariant s) (action : ApprovalAction) : Invariant (s.after action) := by
  cases action with
  | sweep sweep =>
    rw [Correlation.after]
    cases hruntime : s.runtime with
    | none => exact h
    | some current => exact invariant_proceed ((h.2 current hruntime).purge sweep)
  | signal sweep client later signal =>
    rw [Correlation.after]
    cases hruntime : s.runtime with
    | none =>
      refine ⟨?_, by simp⟩
      cases signal with
      | approvalRequest generation frame => exact h.1.snoc trivial
      | serverRequest generation frame => simpa [handleAbsent] using h.1
      | turnTerminal generation threadId turnId => simpa [handleAbsent] using h.1
    | some current =>
      exact invariant_proceed ((h.2 current hruntime).handleCurrent sweep client later signal)
  | respond cancelled sweep client delivers input =>
    rw [Correlation.after, respondApproval]
    split
    · exact h
    · cases hruntime : s.runtime with
      | none => exact h
      | some current =>
        exact invariant_proceed ((h.2 current hruntime).respondCurrent sweep client delivers input)
  | shutdown sweep =>
    rw [Correlation.after]
    cases hruntime : s.runtime with
    | none => exact h
    | some current =>
      exact invariant_proceed ((h.2 current hruntime).retireAll (fun _ => rfl) _)
  | release => exact ⟨h.1, by simp [Correlation.after]⟩

lemma invariant_initial (generation : ℕ) : Invariant ⟨some (.start generation), []⟩ := by
  refine ⟨.nil, ?_⟩
  intro current hcurrent
  obtain rfl := Option.some.inj hcurrent
  exact kept_start generation

lemma invariant_of_reachable (h : Reachable generation s) : Invariant s := by
  obtain ⟨actions, rfl⟩ := h
  induction actions using List.reverseRecOn with
  | nil => exact invariant_initial generation
  | append_singleton actions action ih =>
    rw [List.foldl_append]
    exact ih.after action

/-- What holds of the approvals of a runtime at any time. -/
structure Correlated (s : Correlation) : Prop where
  disjoint : ∀ current, s.runtime = some current →
    ∀ approvalId ∈ current.pendingApprovals.keys, approvalId ∉ current.retired.members
  retired : ∀ current, s.runtime = some current → current.retired.order.Nodup ∧
    (∀ approvalId, approvalId ∈ current.retired.order ↔ approvalId ∈ current.retired.members) ∧
    current.retired.order.length ≤ maxRetiredApprovals
  pending_le : ∀ current, s.runtime = some current →
    current.pendingApprovals.keys.length ≤ maxPendingApprovals
  /-- Signals of another generation change nothing. -/
  stale : ∀ current, s.runtime = some current → ∀ sweep client later signal,
    signal.generation ≠ current.generation →
      (handleCurrent sweep client later current signal).1 = current ∧
      ∀ event ∈ (handleCurrent sweep client later current signal).2, event = .acknowledged false
  /-- An answer goes to the request that the approval was registered with; since then the approval
  was not closed and its turn has not ended. -/
  answered : ∀ past approvalId answer rest, s.history = past ++ .sent approvalId answer :: rest →
    ∃ pre pending mid, past = pre ++ .registered approvalId pending :: mid ∧
      requestOf answer = pending.requestId ∧
      (∀ event ∈ mid, event.closes ≠ some approvalId) ∧
      .turnTerminal pending.threadId pending.turnId ∉ mid
  /-- One registration gets at most one answer. -/
  once : ∀ pre mid post approvalId answer later,
    s.history = pre ++ .sent approvalId answer :: mid ++ .sent approvalId later :: post →
    ∃ pending, .registered approvalId pending ∈ mid
  /-- A decision that could not be sent leaves the approval pending. -/
  failed : ∀ current, s.runtime = some current → ∀ sweep client delivers input pending,
    (client && delivers) = false →
    (purgeExpiredApprovals sweep current).1.pendingApprovals.lookup input.approvalId =
      some pending →
    (s.respondApproval false sweep client delivers input).1 = .error .process ∧
      ((s.respondApproval false sweep client delivers input).2.runtime.bind fun next =>
        next.pendingApprovals.lookup input.approvalId) = some pending

/-- **Approvals are correlated**: after any sequence of signals, sweeps, decisions and shutdowns. -/
theorem approvals_correlated (h : Reachable generation s) : Correlated s := by
  obtain ⟨hjustified, hkept⟩ := invariant_of_reachable h
  constructor
  · intro current hcurrent
    exact (hkept current hcurrent).disjoint
  · intro current hcurrent
    have hbounded := (hkept current hcurrent).bounded
    exact ⟨hbounded.nodup, hbounded.mem_iff, hbounded.length_le⟩
  · intro current hcurrent
    exact (hkept current hcurrent).length_le
  · intro current hcurrent sweep client later signal hstale
    exact handleCurrent_stale hstale
  · intro past approvalId answer rest hhistory
    obtain ⟨pending, ⟨pre, mid, hpast, hmid, hlive⟩, hrequest⟩ := hjustified _ _ _ hhistory
    exact ⟨pre, pending, mid, hpast, hrequest, hmid, hlive⟩
  · intro pre mid post approvalId answer later hhistory
    exact registered_between hjustified hhistory
  · intro current hcurrent sweep client delivers input pending hfails hlookup
    obtain ⟨hresult, hnext⟩ := respondCurrent_failed hfails hlookup
    rw [respondApproval, if_neg (by simp), hcurrent]
    refine ⟨hresult, ?_⟩
    show (respondCurrent sweep client delivers input current).2.1.pendingApprovals.lookup
      input.approvalId = some pending
    rw [hnext, hlookup]

/-! ## A run -/

/-- A session with a client, in which the time stands still. -/
def calmSweep : Sweep where
  clock _ := "2026-08-12T10:11:12.000Z"
  arrange := id
  arranged _ := .refl _
  client := true
  delivers _ := true

/-- A request for the approval of a command. -/
def approvalFrame (requestId approvalId expiresAt : String) : RpcFrame where
  id := some requestId
  method := some "approval/request"
  params := some (.object (SortedMap.ofList [("approvalId", .string approvalId),
    ("threadId", .string "thr_1"), ("turnId", .string "turn_1"), ("itemId", .string "item_1"),
    ("action", .object [("command", .string "ls"), ("kind", .string "shell")]),
    ("risk", .string "low"), ("accessMode", .string "workspace"),
    ("expiresAt", .string expiresAt)]))
  result := .missing
  error := none

def sampleInput : ApprovalResponseInput := ⟨"appr_1", "allow_once", "2026-08-12T10:11:13Z"⟩

/-- Two approvals are registered; the first decision fails and is repeated, then the turn ends. -/
def sampleActions : List ApprovalAction :=
  [.signal calmSweep true true
      (.approvalRequest 7 (approvalFrame "s:1" "appr_1" "2026-08-12T11:00:00Z")),
    .signal calmSweep true true
      (.approvalRequest 7 (approvalFrame "s:2" "appr_2" "2026-08-12T11:00:00Z")),
    .respond false calmSweep true false sampleInput,
    .respond false calmSweep true true sampleInput,
    .signal calmSweep true true (.turnTerminal 7 "thr_1" "turn_1")]

def sampleRun : Correlation := sampleActions.foldl after ⟨some (.start 7), []⟩

/-- The approvals that were closed in that run, in order. -/
theorem correlated_sample :
    sampleRun.history.filterMap ApprovalEvent.closes = ["appr_1", "appr_2"] ∧
      Correlated sampleRun :=
  ⟨by decide +kernel, approvals_correlated (show Reachable 7 sampleRun from ⟨sampleActions, rfl⟩)⟩

end Correlation

end JaDesktop.Bridge.Approvals
