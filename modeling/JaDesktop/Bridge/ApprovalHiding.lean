import JaDesktop.Bridge.EventDrain
import JaDesktop.Lib.Runs

/-!
# Which notifications of approvals are withheld

The worker remembers a refused request in a single mark, without the approval that it was for.  The
mark meets the next notification of any approval.  So the right one is withheld exactly when no
notification of another approval comes between, which is a condition on the order in which requests
and notifications leave the queue.
-/

namespace JaDesktop.Bridge

open Host (RpcFrame SessionEvent)

variable {context : EventDrainContext} {rounds : List Round} {round : Round} {frame : RpcFrame}

/-! ## The order of the rounds -/

/-- A request was refused, and no notification of an approval came since. -/
def Marked (context : EventDrainContext) (rounds : List Round) : Prop :=
  ∃ pre round mid, rounds = pre ++ round :: mid ∧ (∃ frame, round.asks = some (frame, false)) ∧
    ∀ later ∈ mid, later.notice context = none

lemma not_marked_nil : ¬ Marked context [] := by
  rintro ⟨pre, round, mid, h, -⟩
  simp at h

lemma marked_snoc : Marked context (rounds ++ [round]) ↔
    (∃ frame, round.asks = some (frame, false)) ∨
      (round.notice context = none ∧ Marked context rounds) := by
  constructor
  · rintro ⟨pre, refused, mid, h, hrefused, hmid⟩
    rcases concat_eq_append_cons h with ⟨rfl, rfl, rfl⟩ | ⟨mid', rfl, rfl⟩
    · exact Or.inl hrefused
    · exact Or.inr ⟨hmid round (by simp),
        pre, refused, mid', rfl, hrefused, fun later hlater => hmid later (by simp [hlater])⟩
  · rintro (hrefused | ⟨hnotice, pre, refused, mid, rfl, hrefused, hmid⟩)
    · exact ⟨rounds, round, [], rfl, hrefused, by simp⟩
    · refine ⟨pre, refused, mid ++ [round], by simp, hrefused, ?_⟩
      exact List.forall_mem_append.mpr ⟨hmid, List.forall_mem_singleton.mpr hnotice⟩

/-- The notification came in some round, with or without the mark before it. -/
def Meets (context : EventDrainContext) (marked : Prop → Prop) (rounds : List Round)
    (frame : RpcFrame) : Prop :=
  ∃ pre round, pre ++ [round] <+: rounds ∧ round.notice context = some frame ∧
    marked (Marked context pre)

lemma meets_snoc {marked : Prop → Prop} : Meets context marked (rounds ++ [round]) frame ↔
    Meets context marked rounds frame ∨
      (round.notice context = some frame ∧ marked (Marked context rounds)) := by
  constructor
  · rintro ⟨pre, last, hprefix, hlast⟩
    rcases List.prefix_concat_iff.mp hprefix with heq | hprefix
    · obtain ⟨rfl, rfl⟩ := List.append_singleton_inj.mp heq
      exact Or.inr hlast
    · exact Or.inl ⟨pre, last, hprefix, hlast⟩
  · rintro (⟨pre, last, hprefix, hlast⟩ | hlast)
    · exact ⟨pre, last, hprefix.trans (List.prefix_append _ _), hlast⟩
    · exact ⟨rounds, round, List.prefix_refl _, hlast⟩

/-! ## What the worker did -/

/-- What the worker has done, told by the order of the rounds. -/
structure Told (context : EventDrainContext) (rounds : List Round) (s : DrainState) : Prop where
  running : s.running = true
  suppress : s.suppress = true ↔ Marked context rounds
  withheld : ∀ frame, .withheld frame ∈ s.effects ↔ Meets context id rounds frame
  shown : ∀ frame, (.emitted frame ∈ s.effects ∧ frame.method = some "approval/requested") ↔
    Meets context Not rounds frame
  requested : ∀ frame accepted, .requested frame accepted ∈ s.effects ↔
    ∃ round ∈ rounds, round.asks = some (frame, accepted)

lemma told_initial : Told context [] DrainState.initial where
  running := rfl
  suppress := by simp [DrainState.initial, not_marked_nil]
  withheld frame := by simp [DrainState.initial, Meets]
  shown frame := by simp [DrainState.initial, Meets]
  requested frame accepted := by simp [DrainState.initial]

variable {s : DrainState}

lemma Told.notice (h : Told context rounds s) (hgoes : round.Goes context)
    (hnotice : round.notice context = some frame) :
    Told context (rounds ++ [round]) (s.after context round) := by
  rw [DrainState.after_notice h.running hgoes hnotice]
  have hasks : ∀ request accepted, round.asks ≠ some (request, accepted) := by
    intro request accepted hasks
    rw [Round.notice_of_asks hasks] at hnotice
    cases hnotice
  have hmethod := (Round.event_of_notice hnotice).2.2
  have hunmarked : ¬ Marked context (rounds ++ [round]) := by
    rw [marked_snoc]
    rintro (⟨request, hrequest⟩ | ⟨hnone, -⟩)
    · exact hasks request false hrequest
    · rw [hnotice] at hnone
      cases hnone
  cases hsuppress : s.suppress with
  | true =>
    have hmarked := h.suppress.mp hsuppress
    constructor
    · exact h.running
    · simp [hunmarked]
    · intro other
      rw [meets_snoc, ← h.withheld]
      simp [DrainState.proceed, hnotice, hmarked, eq_comm]
    · intro other
      rw [meets_snoc, ← h.shown]
      simp [DrainState.proceed, hmarked]
    · intro other accepted
      simp [DrainState.proceed, h.requested, hasks]
  | false =>
    have hmarked : ¬ Marked context rounds := fun hm => by simp [h.suppress.mpr hm] at hsuppress
    constructor
    · exact h.running
    · simp [DrainState.proceed, hsuppress, hunmarked]
    · intro other
      rw [meets_snoc, ← h.withheld]
      simp [DrainState.proceed, hmarked]
    · intro other
      rw [meets_snoc, ← h.shown]
      simp only [DrainState.proceed, Bool.false_eq_true, if_false, List.mem_append,
        List.mem_singleton, DrainEffect.emitted.injEq, hnotice, Option.some.injEq, hmarked,
        not_false_iff, and_true]
      constructor
      · rintro ⟨hold | rfl, hother⟩
        · exact Or.inl ⟨hold, hother⟩
        · exact Or.inr rfl
      · rintro (⟨hold, hother⟩ | rfl)
        · exact ⟨Or.inl hold, hother⟩
        · exact ⟨Or.inr rfl, hmethod⟩
    · intro other accepted
      simp [DrainState.proceed, h.requested, hasks]

lemma Told.asks {accepted : Bool} (h : Told context rounds s) (hgoes : round.Goes context)
    (hasks : round.asks = some (frame, accepted)) :
    Told context (rounds ++ [round]) (s.after context round) := by
  rw [DrainState.after_asks h.running hgoes hasks]
  have hnotice : round.notice context = none := Round.notice_of_asks hasks
  constructor
  · exact h.running
  · rw [marked_snoc, ← h.suppress]
    cases accepted <;> simp [hasks, hnotice]
  · intro other
    rw [meets_snoc, ← h.withheld]
    simp [DrainState.proceed, hnotice]
  · intro other
    rw [meets_snoc, ← h.shown]
    simp [DrainState.proceed, hnotice]
  · intro other answer
    simp only [DrainState.proceed, List.mem_append, List.mem_singleton, h.requested, or_and_right,
      exists_or, exists_eq_left, hasks]
    simp [eq_comm]

lemma Told.other (h : Told context rounds s) (hgoes : round.Goes context)
    (hnotice : round.notice context = none) (hasks : round.asks = none) :
    Told context (rounds ++ [round]) (s.after context round) := by
  obtain ⟨effects, hafter, heffects⟩ := DrainState.after_other h.running hgoes hnotice hasks
  have hnot : ∀ effect : DrainEffect, effect.concernsApproval = true → effect ∉ effects := by
    intro effect hconcerns hmem
    rw [heffects effect hmem] at hconcerns
    cases hconcerns
  rw [hafter]
  constructor
  · exact h.running
  · rw [marked_snoc, ← h.suppress]
    simp [DrainState.proceed, hasks, hnotice]
  · intro other
    rw [meets_snoc, ← h.withheld]
    simp [DrainState.proceed, hnotice, hnot (.withheld other) rfl]
  · intro other
    rw [meets_snoc, ← h.shown]
    simp only [DrainState.proceed, List.mem_append, hnotice]
    constructor
    · rintro ⟨hold | hnew, hmethod⟩
      · exact Or.inl ⟨hold, hmethod⟩
      · exact absurd hnew (hnot _ (by simp [DrainEffect.concernsApproval, hmethod]))
    · rintro (⟨hold, hmethod⟩ | ⟨hnone, -⟩)
      · exact ⟨Or.inl hold, hmethod⟩
      · cases hnone
  · intro other answer
    simp [DrainState.proceed, h.requested, hasks, hnot (.requested other answer) rfl]

lemma told_eventDrainLoop (hgoes : ∀ round ∈ rounds, round.Goes context) :
    Told context rounds (DrainState.eventDrainLoop context rounds) := by
  induction rounds using List.reverseRecOn with
  | nil => exact told_initial
  | append_singleton rounds round ih =>
    have h := ih fun other hother => hgoes other (by simp [hother])
    have hlast := hgoes round (by simp)
    rw [DrainState.eventDrainLoop, List.foldl_append]
    cases hnotice : round.notice context with
    | some frame => exact h.notice hlast hnotice
    | none =>
      cases hasks : round.asks with
      | some answer =>
        obtain ⟨frame, accepted⟩ := answer
        exact h.asks hlast hasks
      | none => exact h.other hlast hnotice hasks

/-! ## The right ones are withheld -/

/-- A notification is withheld only after its own request was refused, and of an approval whose
request was accepted a notification is shown, if one came. -/
structure HidesOnlyRejected (context : EventDrainContext) (rounds : List Round) : Prop where
  withheld : ∀ pre, pre <+: rounds → ∀ notice,
    .withheld notice ∈ (DrainState.eventDrainLoop context pre).effects →
    ∃ request, .requested request false ∈ (DrainState.eventDrainLoop context pre).effects ∧
      SameApproval request notice
  shown : ∀ request, .requested request true ∈ (DrainState.eventDrainLoop context rounds).effects →
    (∃ round ∈ rounds, ∃ notice, round.notice context = some notice ∧
      SameApproval request notice) →
    ∃ notice, .emitted notice ∈ (DrainState.eventDrainLoop context rounds).effects ∧
      notice.method = some "approval/requested" ∧ SameApproval request notice

/-- The first notification of an approval after a refusal is one that was refused, and not the only
one of an approval that was accepted. -/
structure RefusalsMeetTheirOwn (context : EventDrainContext) (rounds : List Round) : Prop where
  own : ∀ pre round notice, pre ++ [round] <+: rounds → round.notice context = some notice →
    Marked context pre →
    ∃ refused ∈ pre, ∃ request, refused.asks = some (request, false) ∧ SameApproval request notice
  spared : ∀ asking ∈ rounds, ∀ request, asking.asks = some (request, true) →
    (∃ round ∈ rounds, ∃ notice, round.notice context = some notice ∧
      SameApproval request notice) →
    ∃ pre round notice, pre ++ [round] <+: rounds ∧ round.notice context = some notice ∧
      SameApproval request notice ∧ ¬ Marked context pre

/-- **Which notifications are withheld**: the right ones, exactly when refusals meet their own. -/
theorem hidesOnlyRejected_iff (hgoes : ∀ round ∈ rounds, round.Goes context) :
    HidesOnlyRejected context rounds ↔ RefusalsMeetTheirOwn context rounds := by
  have htold : ∀ pre, pre <+: rounds →
      Told context pre (DrainState.eventDrainLoop context pre) := fun pre hpre =>
    told_eventDrainLoop fun round hround => hgoes round (hpre.subset hround)
  have hall := htold rounds (List.prefix_refl rounds)
  constructor
  · intro h
    constructor
    · intro pre round notice hprefix hnotice hmarked
      have hmeets : Meets context id (pre ++ [round]) notice :=
        ⟨pre, round, List.prefix_refl _, hnotice, hmarked⟩
      obtain ⟨request, hrequest, hsame⟩ :=
        h.withheld _ hprefix notice (((htold _ hprefix).withheld notice).mpr hmeets)
      obtain ⟨refused, hmem, hasks⟩ := ((htold _ hprefix).requested request false).mp hrequest
      rcases List.mem_append.mp hmem with hmem | hmem
      · exact ⟨refused, hmem, request, hasks, hsame⟩
      · -- The round of the notification is no request.
        obtain rfl := List.mem_singleton.mp hmem
        rw [Round.notice_of_asks hasks] at hnotice
        cases hnotice
    · intro asking hasking request hasks hcame
      have hrequested := (hall.requested request true).mpr ⟨asking, hasking, hasks⟩
      obtain ⟨notice, hemitted, hmethod, hsame⟩ := h.shown request hrequested hcame
      obtain ⟨pre, round, hprefix, hnotice, hunmarked⟩ :=
        (hall.shown notice).mp ⟨hemitted, hmethod⟩
      exact ⟨pre, round, notice, hprefix, hnotice, hsame, hunmarked⟩
  · intro h
    constructor
    · intro pre hpre notice hwithheld
      obtain ⟨front, round, hfront, hnotice, hmarked⟩ :=
        ((htold pre hpre).withheld notice).mp hwithheld
      obtain ⟨refused, hmem, request, hasks, hsame⟩ :=
        h.own front round notice (hfront.trans hpre) hnotice hmarked
      have hrefused : refused ∈ pre :=
        hfront.subset (List.mem_append_left _ hmem)
      exact ⟨request, ((htold pre hpre).requested request false).mpr ⟨refused, hrefused, hasks⟩,
        hsame⟩
    · intro request hrequested hcame
      obtain ⟨asking, hasking, hasks⟩ := (hall.requested request true).mp hrequested
      obtain ⟨pre, round, notice, hprefix, hnotice, hsame, hunmarked⟩ :=
        h.spared asking hasking request hasks hcame
      obtain ⟨hemitted, hmethod⟩ :=
        (hall.shown notice).mpr ⟨pre, round, hprefix, hnotice, hunmarked⟩
      exact ⟨notice, hemitted, hmethod, hsame⟩

/-! ## Two turns at once -/

def sampleContext : EventDrainContext := ⟨"srv_1", 1⟩

/-- A frame with the identity of the server. -/
def frameOf (method : String) (requestId : Option String) (params : List (String × Host.Value)) :
    RpcFrame :=
  ⟨requestId, some method,
    some (.object (SortedMap.ofList (("serverInstanceId", .string "srv_1") :: params))),
    .missing, none⟩

def requestFrame (requestId approvalId : String) : RpcFrame :=
  frameOf "approval/request" (some requestId) [("approvalId", .string approvalId)]

def noticeFrame (approvalId : String) : RpcFrame :=
  frameOf "approval/requested" none [("approval", .object [("approvalId", .string approvalId)])]

def requestRound (requestId approvalId : String) (accepted : Bool) : Round :=
  ⟨.serverRequest (requestFrame requestId approvalId), true, true, true, some accepted⟩

def noticeRound (approvalId : String) : Round :=
  ⟨.notification (noticeFrame approvalId), true, true, true, some true⟩

/-- Turns `a` and `b` ask at once: the request of `a` is refused and that of `b` is registered, and
the notification of `b` was written first. -/
def crossedRounds : List Round :=
  [requestRound "s:1" "appr_a" false, requestRound "s:2" "appr_b" true,
    noticeRound "appr_b", noticeRound "appr_a"]

lemma goes_crossedRounds : ∀ round ∈ crossedRounds, round.Goes sampleContext := by
  intro round hround
  simp only [crossedRounds, List.mem_cons, List.not_mem_nil, or_false] at hround
  rcases hround with rfl | rfl | rfl | rfl <;> exact ⟨rfl, rfl, rfl, rfl, rfl⟩

theorem hidesOnlyRejected_iff_crossed :
    HidesOnlyRejected sampleContext crossedRounds ↔
      RefusalsMeetTheirOwn sampleContext crossedRounds :=
  hidesOnlyRejected_iff goes_crossedRounds

/-- The prompt that `b` waits for is withheld, and the refused one of `a` is shown. -/
theorem prompt_withheld : ¬ HidesOnlyRejected sampleContext crossedRounds := by
  intro h
  have heffects : (DrainState.eventDrainLoop sampleContext crossedRounds).effects =
      [.requested (requestFrame "s:1" "appr_a") false,
        .requested (requestFrame "s:2" "appr_b") true,
        .withheld (noticeFrame "appr_b"), .emitted (noticeFrame "appr_a")] := by decide +kernel
  have hwithheld : .withheld (noticeFrame "appr_b") ∈
      (DrainState.eventDrainLoop sampleContext crossedRounds).effects := by simp [heffects]
  obtain ⟨request, hrequest, approvalId, hasked, hnoticed⟩ :=
    h.withheld crossedRounds (List.prefix_refl _) _ hwithheld
  obtain rfl : request = requestFrame "s:1" "appr_a" := by simpa [heffects] using hrequest
  have ha : requestedApproval (requestFrame "s:1" "appr_a") = some "appr_a" := by decide +kernel
  have hb : noticedApproval (noticeFrame "appr_b") = some "appr_b" := by decide +kernel
  rw [ha] at hasked
  rw [hb] at hnoticed
  exact absurd (Option.some.inj (hasked.trans hnoticed.symm)) (by decide)

end JaDesktop.Bridge
