import JaDesktop.Lib.Counts
import JaDesktop.Lib.Runs
import Mathlib.Data.List.Nodup

/-!
# Cancellation

A `CancellationToken` is shared by calls that run side by side.  The synchronized section of a call
is one step, and each run of a listener is another.  A listener may throw; `cancel` goes on after a
`RuntimeException`, but any other throwable ends it at once, and the listeners behind are lost.
-/

namespace JaDesktop.Sidecar.Cancellation

variable {L : Type}

/-! ## The token -/

def defaultMaxListeners : ℤ := 1024

/-- `MAX_LISTENERS`. -/
def maxListenersBound : ℤ := 65536

/-- How the run of a listener ends: it returns, or throws a `RuntimeException`, or throws something
else. -/
inductive Outcome
  | returns
  | throwsRuntime
  | throwsError
deriving DecidableEq

/-- A call on a token. -/
inductive Call (L : Type)
  | onCancel (listener : Option L)
  | cancel
deriving DecidableEq

/-- What a call throws; a listener stands for the throwable that its run ended with. -/
inductive Fault (L : Type)
  | nullPointer
  | queueFull
  | thrownBy (listener : L)
deriving DecidableEq

/-- How far a call is. -/
inductive Phase (L : Type)
  | called
  | running (listener : L)
  | draining (callbacks : List L) (firstFailure : Option L)
  | returned
  | answered (answer : Bool)
  | threw (fault : Fault L)
deriving DecidableEq

/-- A call and how far it is. -/
structure Caller (L : Type) where
  call : Call L
  phase : Phase L
deriving DecidableEq

/-- `CancellationToken`, with the calls on it. -/
structure CancellationToken (L : Type) where
  maxListeners : ℤ
  cancelled : Bool
  listeners : List (L × Bool)
  calls : List (Caller L)
deriving DecidableEq

/-- A step of a call, each of which names its call by its place. -/
inductive Action (L : Type)
  | call (call : Call L)
  | register (place : ℕ)
  | publish (place : ℕ) (callbacks : List L)
  | invoke (place : ℕ) (listener : L)
  | finish (place : ℕ)
deriving DecidableEq

namespace CancellationToken

/-- The constructor. -/
def new (maxListeners : ℤ) : Option (CancellationToken L) :=
  if maxListeners < 1 ∨ maxListeners > maxListenersBound then none
  else some ⟨maxListeners, false, [], []⟩

/-- A call goes on. -/
def goto (token : CancellationToken L) (place : ℕ) (call : Call L) (phase : Phase L) :
    CancellationToken L :=
  { token with calls := token.calls.set place ⟨call, phase⟩ }

/-- The listeners that the map has. -/
def identities (token : CancellationToken L) : List L := token.listeners.map Prod.fst

variable [DecidableEq L]

/-- The synchronized section of `onCancel`. -/
def register (token : CancellationToken L) (place : ℕ) : Option L → CancellationToken L
  | none => token.goto place (.onCancel none) (.threw .nullPointer)
  | some listener =>
    if listener ∈ token.identities then token.goto place (.onCancel (some listener)) .returned
    else if token.listeners.length ≥ token.maxListeners then
      token.goto place (.onCancel (some listener)) (.threw .queueFull)
    else
      { token with listeners := token.listeners ++ [(listener, token.cancelled)] }.goto place
        (.onCancel (some listener)) (if token.cancelled then .running listener else .returned)

/-- The synchronized section of `cancel`; the map hands out its entries in any order. -/
def publish (token : CancellationToken L) (place : ℕ) (callbacks : List L) :
    Option (CancellationToken L) :=
  if token.cancelled then
    if callbacks = [] then some (token.goto place .cancel (.answered false)) else none
  else if callbacks.isPerm ((token.listeners.filter fun entry => !entry.2).map Prod.fst) then
    some ({ token with
      cancelled := true
      listeners := token.listeners.map fun (entry : L × Bool) => (entry.1, true) }.goto place
        .cancel (.draining callbacks none))
  else none

/-- The loop of `cancel` after one callback. -/
def drained (outcome : L → Outcome) (listener : L) (rest : List L) (firstFailure : Option L) :
    Phase L :=
  match outcome listener with
  | .returns => .draining rest firstFailure
  | .throwsRuntime => .draining rest (firstFailure.or (some listener))
  | .throwsError => .threw (.thrownBy listener)

/-- One step of one call. -/
def act (outcome : L → Outcome) (token : CancellationToken L) :
    Action L → Option (CancellationToken L)
  | .call call => some { token with calls := token.calls ++ [⟨call, .called⟩] }
  | .register place =>
    match token.calls[place]? with
    | some ⟨.onCancel listener, .called⟩ => some (token.register place listener)
    | _ => none
  | .publish place callbacks =>
    match token.calls[place]? with
    | some ⟨.cancel, .called⟩ => token.publish place callbacks
    | _ => none
  | .invoke place listener =>
    match token.calls[place]? with
    | some ⟨call, .running next⟩ =>
      if listener = next then
        some (token.goto place call
          (if outcome listener = .returns then .returned else .threw (.thrownBy listener)))
      else none
    | some ⟨call, .draining (next :: rest) firstFailure⟩ =>
      if listener = next then
        some (token.goto place call (drained outcome listener rest firstFailure))
      else none
    | _ => none
  | .finish place =>
    match token.calls[place]? with
    | some ⟨call, .draining [] firstFailure⟩ =>
      some (token.goto place call (match firstFailure with
        | none => .answered true
        | some listener => .threw (.thrownBy listener)))
    | _ => none

/-- The steps of the calls. -/
def Step (outcome : L → Outcome) (token : CancellationToken L) (action : Action L)
    (token' : CancellationToken L) : Prop :=
  token.act outcome action = some token'

end CancellationToken

/-! ## What is counted -/

/-- A call has returned or thrown. -/
def Caller.ended (caller : Caller L) : Bool :=
  match caller.phase with
  | .returned | .answered _ | .threw _ => true
  | _ => false

/-- The listener that a call of `onCancel` has registered, or has found registered. -/
def Caller.accepted (caller : Caller L) : Option L :=
  match caller.call, caller.phase with
  | .onCancel listener, .running _ | .onCancel listener, .returned
  | .onCancel listener, .threw (.thrownBy _) => listener
  | _, _ => none

/-- Only `onCancel` runs a listener by itself, and only `cancel` has the loop. -/
def Caller.Fits (caller : Caller L) : Prop :=
  (∀ listener, caller.phase = .running listener → caller.call = .onCancel (some listener)) ∧
    ∀ callbacks firstFailure, caller.phase = .draining callbacks firstFailure →
      caller.call = .cancel

/-- A call of `cancel` has published, and has not been answered with false. -/
def Caller.publishes (caller : Caller L) : Bool :=
  match caller.call, caller.phase with
  | .cancel, .draining _ _ | .cancel, .answered true | .cancel, .threw _ => true
  | _, _ => false

variable [DecidableEq L]

/-- How often a phase has still to run a listener. -/
def Phase.waits (listener : L) : Phase L → ℕ
  | .running next => [next].count listener
  | .draining callbacks _ => callbacks.count listener
  | _ => 0

/-- A step runs a listener. -/
def Action.invokes (listener : L) : Action L → Bool
  | .invoke _ run => decide (run = listener)
  | _ => false

/-- How often the steps have run a listener. -/
def invocations (listener : L) (actions : List (Action L)) : ℕ :=
  actions.countP (Action.invokes listener)

namespace CancellationToken

/-- How often a listener has still to be run. -/
def waits (token : CancellationToken L) (listener : L) : ℕ :=
  (token.calls.map fun caller => caller.phase.waits listener).sum

/-- How many calls have published. -/
def publishers (token : CancellationToken L) : ℕ :=
  (token.calls.map fun caller => caller.publishes.toNat).sum

/-- A step of `cancel` does not end its loop before the last callback. -/
def Completes (outcome : L → Outcome) (token : CancellationToken L) (action : Action L) : Prop :=
  ∀ place listener call next rest firstFailure, action = .invoke place listener →
    token.calls[place]? = some ⟨call, .draining (next :: rest) firstFailure⟩ →
    outcome listener = .throwsError → rest = []

/-- The callbacks that a step loses. -/
def lostBy (outcome : L → Outcome) (token : CancellationToken L) : Action L → List L
  | .invoke place listener =>
    match token.calls[place]? with
    | some ⟨_, .draining (_ :: rest) _⟩ => if outcome listener = .throwsError then rest else []
    | _ => []
  | _ => []

/-! ## One step -/

section Steps

variable {outcome : L → Outcome} {token token' : CancellationToken L} {action : Action L}
  {actions : List (Action L)} {place : ℕ} {call : Call L} {phase phase' : Phase L} {listener : L}
  {lost : List L}

lemma waits_goto (listener : L) (phase' : Phase L)
    (h : token.calls[place]? = some ⟨call, phase⟩) :
    (token.goto place call phase').waits listener + phase.waits listener =
      token.waits listener + phase'.waits listener :=
  sum_map_set (fun caller => caller.phase.waits listener) h

omit [DecidableEq L] in
lemma publishers_goto (phase' : Phase L)
    (h : token.calls[place]? = some ⟨call, phase⟩) :
    (token.goto place call phase').publishers + (Caller.publishes ⟨call, phase⟩).toNat =
      token.publishers + (Caller.publishes ⟨call, phase'⟩).toNat :=
  sum_map_set (fun caller : Caller L => caller.publishes.toNat) h

omit [DecidableEq L] in
lemma exists_accepted_goto (listener : L) (phase' : Phase L)
    (h : token.calls[place]? = some ⟨call, phase⟩)
    (hkeeps : ∀ listener, Caller.accepted ⟨call, phase⟩ = some listener →
      Caller.accepted ⟨call, phase'⟩ = some listener) :
    (∃ caller ∈ (token.goto place call phase').calls, caller.accepted = some listener) ↔
      (∃ caller ∈ token.calls, caller.accepted = some listener) ∨
        Caller.accepted ⟨call, phase'⟩ = some listener := by
  obtain ⟨hlt, hcaller⟩ := List.getElem?_eq_some_iff.mp h
  constructor
  · rintro ⟨caller, hmem, haccepted⟩
    rcases List.mem_or_eq_of_mem_set hmem with hmem | rfl
    · exact .inl ⟨caller, hmem, haccepted⟩
    · exact .inr haccepted
  · have hnew : (⟨call, phase'⟩ : Caller L) ∈ (token.goto place call phase').calls :=
      List.mem_set hlt _
    rintro (⟨caller, hmem, haccepted⟩ | haccepted)
    · obtain ⟨other, hother⟩ := List.getElem?_of_mem hmem
      rcases eq_or_ne place other with rfl | hne
      · rw [h] at hother
        obtain rfl := Option.some_inj.mp hother
        exact ⟨_, hnew, hkeeps listener haccepted⟩
      · refine ⟨caller, List.mem_of_getElem? (i := other) ?_, haccepted⟩
        show (token.calls.set place _)[other]? = _
        rw [List.getElem?_set_ne hne, hother]
    · exact ⟨_, hnew, haccepted⟩

/-- What the counts are after some steps, of which some have lost callbacks. -/
structure Accounted (actions : List (Action L)) (lost : List L) (token : CancellationToken L) :
    Prop where
  nodup : token.identities.Nodup
  limit : (token.listeners.length : ℤ) ≤ token.maxListeners
  marks : ∀ entry ∈ token.listeners, entry.2 = token.cancelled
  before : token.cancelled = false →
    lost = [] ∧ ∀ listener, invocations listener actions = 0 ∧ token.waits listener = 0
  after : token.cancelled = true → ∀ listener,
    invocations listener actions + token.waits listener + lost.count listener =
      token.identities.count listener
  publishers : token.publishers = token.cancelled.toNat
  fits : ∀ caller ∈ token.calls, caller.Fits
  flagged : ∀ caller ∈ token.calls, caller.call = .cancel → caller.phase ≠ .called →
    token.cancelled = true
  accepted : ∀ listener, listener ∈ token.identities ↔
    ∃ caller ∈ token.calls, caller.accepted = some listener

lemma invocations_snoc :
    invocations listener (actions ++ [action]) =
      invocations listener actions + (action.invokes listener).toNat := by
  rw [invocations, List.countP_append, List.countP_singleton]
  cases action.invokes listener <;> rfl

lemma Accounted.fits_goto (h : Accounted actions lost token)
    (hfits : Caller.Fits ⟨call, phase'⟩) :
    ∀ caller ∈ (token.goto place call phase').calls, caller.Fits := by
  intro caller hmem
  rcases List.mem_or_eq_of_mem_set hmem with hmem | rfl
  · exact h.fits caller hmem
  · exact hfits

lemma Accounted.flagged_goto (h : Accounted actions lost token)
    (hflag : call = .cancel → phase' ≠ .called → token.cancelled = true) :
    ∀ caller ∈ (token.goto place call phase').calls, caller.call = .cancel →
      caller.phase ≠ .called → token.cancelled = true := by
  intro caller hmem
  rcases List.mem_or_eq_of_mem_set hmem with hmem | rfl
  · exact h.flagged caller hmem
  · exact hflag

/-- A call goes on: what it has still to run is run by the step, or remains, or is lost. -/
lemma Accounted.goto {more : List L} (h : Accounted actions lost token)
    (hcaller : token.calls[place]? = some ⟨call, phase⟩)
    (hbalance : ∀ listener, (action.invokes listener).toNat + phase'.waits listener +
      more.count listener = phase.waits listener)
    (hfits : Caller.Fits ⟨call, phase'⟩)
    (hflag : call = .cancel → phase = .called → token.cancelled = true)
    (hpublishes : Caller.publishes ⟨call, phase'⟩ = Caller.publishes ⟨call, phase⟩)
    (hkeeps : ∀ listener, Caller.accepted ⟨call, phase⟩ = some listener →
      Caller.accepted ⟨call, phase'⟩ = some listener)
    (haccepted : ∀ listener, Caller.accepted ⟨call, phase'⟩ = some listener →
      listener ∈ token.identities) :
    Accounted (actions ++ [action]) (lost ++ more) (token.goto place call phase') := by
  have hwaits (listener : L) := waits_goto listener phase' hcaller
  refine ⟨h.nodup, h.limit, h.marks, ?_, ?_, ?_, h.fits_goto hfits, ?_, ?_⟩
  · intro hopen
    obtain ⟨hlost, hnone⟩ := h.before hopen
    -- before the publication nothing waits, so the step runs nothing and loses nothing
    have hidle (listener : L) : phase.waits listener = 0 := by
      have hle : phase.waits listener ≤ token.waits listener :=
        le_sum_map (fun caller => caller.phase.waits listener) hcaller
      exact Nat.eq_zero_of_le_zero ((hnone listener).2 ▸ hle)
    constructor
    · rw [hlost, List.nil_append, List.eq_nil_iff_forall_not_mem]
      intro listener hmem
      have hpos := List.count_pos_iff.mpr hmem
      have := hbalance listener
      have := hidle listener
      omega
    · intro listener
      rw [invocations_snoc]
      have := hbalance listener
      have := hidle listener
      have := hwaits listener
      have := hnone listener
      omega
  · intro hcancelled listener
    rw [invocations_snoc, List.count_append]
    have hafter := h.after hcancelled listener
    have := hbalance listener
    have := hwaits listener
    show _ = token.identities.count listener
    omega
  · have hgoto := publishers_goto phase' hcaller
    rw [hpublishes] at hgoto
    have hbefore := h.publishers
    show (token.goto place call phase').publishers = token.cancelled.toNat
    omega
  · refine h.flagged_goto fun hcancel _ => ?_
    by_cases hcalled : phase = .called
    · exact hflag hcancel hcalled
    · exact h.flagged _ (List.mem_of_getElem? hcaller) hcancel hcalled
  · intro listener
    rw [exists_accepted_goto listener phase' hcaller hkeeps, ← h.accepted listener]
    exact ⟨.inl, fun hmem => hmem.elim id (haccepted listener)⟩

lemma Accounted.begin (h : Accounted actions lost token) :
    Accounted (actions ++ [.call call]) lost
      { token with calls := token.calls ++ [⟨call, .called⟩] } := by
  have hwaits (listener : L) :
      waits { token with calls := token.calls ++ [⟨call, .called⟩] } listener =
        token.waits listener := by
    rw [waits, sum_map_concat]
    rfl
  refine ⟨h.nodup, h.limit, h.marks, ?_, ?_, ?_, ?_, ?_, ?_⟩
  · intro hopen
    obtain ⟨hlost, hnone⟩ := h.before hopen
    refine ⟨hlost, fun listener => ?_⟩
    rw [invocations_snoc, hwaits]
    exact hnone listener
  · intro hcancelled listener
    rw [invocations_snoc, hwaits]
    exact h.after hcancelled listener
  · rw [CancellationToken.publishers, sum_map_concat]
    have hnone : (Caller.publishes (⟨call, .called⟩ : Caller L)).toNat = 0 := by
      cases call <;> rfl
    rw [hnone]
    exact h.publishers
  · exact List.forall_mem_append.mpr ⟨h.fits,
      List.forall_mem_singleton.mpr ⟨fun _ hphase => (by cases hphase), fun _ _ hphase => (by cases hphase)⟩⟩
  · exact List.forall_mem_append.mpr ⟨h.flagged,
      List.forall_mem_singleton.mpr (fun _ hcalled => absurd rfl hcalled)⟩
  · intro listener
    have hnone : Caller.accepted (⟨call, .called⟩ : Caller L) = none := by
      cases call <;> rfl
    show listener ∈ token.identities ↔ _
    rw [h.accepted listener]
    simp [List.mem_append, or_and_right, exists_or, hnone]

lemma Accounted.add (h : Accounted actions lost token)
    (hcaller : token.calls[place]? = some ⟨.onCancel (some listener), .called⟩)
    (hnew : listener ∉ token.identities)
    (hroom : (token.listeners.length : ℤ) < token.maxListeners)
    (hphase : phase' = if token.cancelled then .running listener else .returned)
    (htoken : token' = { token with
      listeners := token.listeners ++ [(listener, token.cancelled)] }.goto place
        (.onCancel (some listener)) phase') :
    Accounted (actions ++ [.register place]) lost token' := by
  have hids : token'.identities = token.identities ++ [listener] := by
    rw [htoken]
    exact List.map_append
  have hsame : token'.cancelled = token.cancelled := by rw [htoken]; rfl
  have hwaits (other : L) : token'.waits other = token.waits other + phase'.waits other := by
    rw [htoken]
    exact waits_goto other phase' hcaller
  have hcases : phase' = .running listener ∨ phase' = .returned := by
    rw [hphase]
    exact ite_eq_or_eq ..
  have hfits : Caller.Fits (⟨.onCancel (some listener), phase'⟩ : Caller L) := by
    rcases hcases with rfl | rfl
    · refine ⟨fun other hrunning => ?_, fun _ _ hdraining => (by cases hdraining)⟩
      obtain rfl := Phase.running.inj hrunning
      rfl
    · exact ⟨fun _ hrunning => (by cases hrunning), fun _ _ hdraining => (by cases hdraining)⟩
  refine ⟨?_, ?_, ?_, ?_, ?_, ?_, ?_, ?_, ?_⟩
  · rw [hids]
    exact List.nodup_append.mpr ⟨h.nodup, by simp, by
      rintro a ha b hb rfl
      exact hnew (List.mem_singleton.mp hb ▸ ha)⟩
  · rw [htoken]
    show ((token.listeners ++ [(listener, token.cancelled)]).length : ℤ) ≤ token.maxListeners
    rw [List.length_append, List.length_singleton]
    omega
  · rw [htoken]
    exact List.forall_mem_append.mpr ⟨h.marks, List.forall_mem_singleton.mpr rfl⟩
  · rw [hsame]
    intro hopen
    obtain ⟨hlost, hnone⟩ := h.before hopen
    refine ⟨hlost, fun other => ?_⟩
    rw [invocations_snoc, hwaits, (hnone other).2, hphase, hopen]
    exact ⟨(hnone other).1, rfl⟩
  · rw [hsame]
    intro hcancelled other
    rw [invocations_snoc, hids, List.count_append, ← h.after hcancelled other, hwaits, hphase,
      if_pos hcancelled]
    show invocations other actions + 0 + (token.waits other + [listener].count other) + _ = _
    omega
  · have hgoto := publishers_goto phase' hcaller
    have hnone : Caller.publishes (⟨.onCancel (some listener), phase'⟩ : Caller L) = false := by
      rcases hcases with rfl | rfl <;> rfl
    rw [hnone, h.publishers] at hgoto
    rw [hsame, htoken]
    exact hgoto
  · rw [htoken]
    exact h.fits_goto hfits
  · rw [htoken]
    exact h.flagged_goto nofun
  · intro other
    have haccepted : Caller.accepted ⟨.onCancel (some listener), phase'⟩ = some listener := by
      rcases hcases with rfl | rfl <;> rfl
    have hgoto := exists_accepted_goto other phase' hcaller fun _ hnone => (by cases hnone)
    rw [haccepted, Option.some_inj, ← h.accepted other] at hgoto
    rw [hids, List.mem_append, List.mem_singleton, eq_comm (a := other), htoken]
    exact hgoto.symm

lemma Accounted.publish {callbacks : List L} (h : Accounted actions lost token)
    (hcaller : token.calls[place]? = some ⟨.cancel, .called⟩) (hopen : token.cancelled = false)
    (hperm : callbacks.Perm ((token.listeners.filter fun entry => !entry.2).map Prod.fst)) :
    Accounted (actions ++ [.publish place callbacks]) lost
      ({ token with
        cancelled := true
        listeners := token.listeners.map fun (entry : L × Bool) => (entry.1, true) }.goto place
        .cancel (.draining callbacks none)) := by
  have hids : identities ({ token with
      cancelled := true
      listeners := token.listeners.map fun (entry : L × Bool) => (entry.1, true) }.goto place
        .cancel (.draining callbacks none)) = token.identities := by
    show (token.listeners.map _).map Prod.fst = token.listeners.map Prod.fst
    rw [List.map_map]
    rfl
  have hall : token.listeners.filter (fun entry => !entry.2) = token.listeners := by
    rw [List.filter_eq_self]
    intro entry hentry
    rw [h.marks entry hentry, hopen]
    rfl
  rw [hall] at hperm
  obtain ⟨hlost, hnone⟩ := h.before hopen
  have hfits : Caller.Fits (⟨.cancel, .draining callbacks none⟩ : Caller L) :=
    ⟨fun _ hphase => (by cases hphase), fun _ _ _ => rfl⟩
  refine ⟨?_, ?_, ?_, fun hfalse => (by cases hfalse), ?_, ?_, h.fits_goto hfits,
    fun _ _ _ _ => rfl, ?_⟩
  · rw [hids]
    exact h.nodup
  · show ((token.listeners.map _).length : ℤ) ≤ token.maxListeners
    rw [List.length_map]
    exact h.limit
  · intro entry hentry
    obtain ⟨_, -, rfl⟩ := List.mem_map.mp hentry
    rfl
  · rintro - other
    have hwaits := waits_goto other (.draining callbacks none) hcaller
    rw [(hnone other).2] at hwaits
    rw [invocations_snoc, (hnone other).1, hids, hlost]
    have hcount := hperm.count_eq other
    show 0 + 0 + (token.goto place .cancel (.draining callbacks none)).waits other + 0 = _
    have hzero : (Phase.called : Phase L).waits other = 0 := rfl
    rw [hzero] at hwaits
    rw [identities, ← hcount]
    have hcallbacks : (Phase.draining callbacks none).waits other = callbacks.count other := rfl
    omega
  · have hgoto := publishers_goto (.draining callbacks none) hcaller
    rw [h.publishers, hopen] at hgoto
    exact hgoto
  · intro other
    rw [hids, h.accepted other]
    have hgoto := exists_accepted_goto other (.draining callbacks none) hcaller
      fun _ hnone => (by cases hnone)
    exact (hgoto.trans (or_iff_left fun hnone => (by cases hnone))).symm

/-! ### Each step -/

lemma register_cases (h : token.Step outcome (.register place) token') :
    ∃ listener, token.calls[place]? = some ⟨.onCancel listener, .called⟩ ∧
      token' = token.register place listener := by
  rw [Step, act] at h
  split at h
  next listener hcaller => exact ⟨listener, hcaller, (Option.some_inj.mp h).symm⟩
  next => cases h

lemma publish_cases {callbacks : List L}
    (h : token.Step outcome (.publish place callbacks) token') :
    token.calls[place]? = some ⟨.cancel, .called⟩ ∧
      token.publish place callbacks = some token' := by
  rw [Step, act] at h
  split at h
  next hcaller => exact ⟨hcaller, h⟩
  next => cases h

lemma finish_cases (h : token.Step outcome (.finish place) token') :
    ∃ call firstFailure, token.calls[place]? = some ⟨call, .draining [] firstFailure⟩ ∧
      token' = token.goto place call (match firstFailure with
        | none => .answered true
        | some listener => .threw (.thrownBy listener)) := by
  rw [Step, act] at h
  split at h
  next call firstFailure hcaller =>
    exact ⟨call, firstFailure, hcaller, (Option.some_inj.mp h).symm⟩
  next => cases h

/-- A listener is run by the call that registered it, or by the loop of `cancel`. -/
lemma invoke_cases (h : token.Step outcome (.invoke place listener) token') :
    (∃ call, token.calls[place]? = some ⟨call, .running listener⟩ ∧
        token' = token.goto place call
          (if outcome listener = .returns then .returned else .threw (.thrownBy listener))) ∨
      ∃ call rest firstFailure,
        token.calls[place]? = some ⟨call, .draining (listener :: rest) firstFailure⟩ ∧
          token' = token.goto place call (drained outcome listener rest firstFailure) := by
  rw [Step, act] at h
  split at h
  next call next hcaller =>
    by_cases heq : listener = next
    · subst heq
      rw [if_pos rfl] at h
      exact .inl ⟨call, hcaller, (Option.some_inj.mp h).symm⟩
    · rw [if_neg heq] at h
      cases h
  next call next rest firstFailure hcaller =>
    by_cases heq : listener = next
    · subst heq
      rw [if_pos rfl] at h
      exact .inr ⟨call, rest, firstFailure, hcaller, (Option.some_inj.mp h).symm⟩
    · rw [if_neg heq] at h
      cases h
  next => cases h

omit [DecidableEq L] in
lemma fits_of_phase (hrunning : ∀ listener, phase ≠ .running listener)
    (hdraining : ∀ callbacks firstFailure, phase ≠ .draining callbacks firstFailure) :
    Caller.Fits ⟨call, phase⟩ :=
  ⟨fun listener hphase => absurd hphase (hrunning listener),
    fun callbacks firstFailure hphase => absurd hphase (hdraining callbacks firstFailure)⟩

lemma Accounted.register (h : Accounted actions lost token) {listener : Option L}
    (hcaller : token.calls[place]? = some ⟨.onCancel listener, .called⟩) :
    Accounted (actions ++ [.register place]) lost (token.register place listener) := by
  have hnothing (phase' : Phase L) (hphase : ∀ listener, phase'.waits listener = 0)
      (hfits : Caller.Fits ⟨.onCancel listener, phase'⟩)
      (haccepted : ∀ other, Caller.accepted ⟨.onCancel listener, phase'⟩ = some other →
        other ∈ token.identities) :
      Accounted (actions ++ [.register place]) lost
        (token.goto place (.onCancel listener) phase') := by
    have hgoto : Accounted (actions ++ [.register place]) (lost ++ [])
        (token.goto place (.onCancel listener) phase') := h.goto hcaller
      (fun other => by rw [hphase]; rfl) hfits nofun rfl (fun _ hnone => (by cases hnone)) haccepted
    rw [List.append_nil] at hgoto
    exact hgoto
  have hthrew (fault : Fault L) : Caller.Fits ⟨.onCancel listener, .threw fault⟩ :=
    fits_of_phase (fun _ => nofun) fun _ _ => nofun
  cases listener with
  | none => exact hnothing _ (fun _ => rfl) (hthrew _) fun _ hnone => (by cases hnone)
  | some listener =>
    rw [CancellationToken.register]
    by_cases hmem : listener ∈ token.identities
    · rw [if_pos hmem]
      refine hnothing _ (fun _ => rfl) (fits_of_phase (fun _ => nofun) fun _ _ => nofun)
        fun other hother => ?_
      obtain rfl := Option.some_inj.mp hother
      exact hmem
    · rw [if_neg hmem]
      by_cases hfull : (token.listeners.length : ℤ) ≥ token.maxListeners
      · rw [if_pos hfull]
        exact hnothing _ (fun _ => rfl) (hthrew _) fun _ hnone => (by cases hnone)
      · rw [if_neg hfull]
        exact h.add hcaller hmem (Int.not_le.mp hfull) rfl rfl

lemma Accounted.invoke (h : Accounted actions lost token)
    (hstep : token.Step outcome (.invoke place listener) token') :
    Accounted (actions ++ [.invoke place listener])
      (lost ++ token.lostBy outcome (.invoke place listener)) token' := by
  have hinvokes (other : L) :
      (Action.invokes other (.invoke place listener)).toNat = [listener].count other := by
    rw [Action.invokes, List.count_singleton]
    by_cases heq : listener = other
    · simp [heq]
    · simp [heq]
  rcases invoke_cases hstep with ⟨call, hcaller, rfl⟩ | ⟨call, rest, firstFailure, hcaller, rfl⟩
  · have hlost : token.lostBy outcome (.invoke place listener) = [] := by
      rw [lostBy, hcaller]
    have hcall : call = .onCancel (some listener) :=
      (h.fits _ (List.mem_of_getElem? hcaller)).1 listener rfl
    subst hcall
    have hmem : listener ∈ token.identities :=
      (h.accepted listener).mpr ⟨_, List.mem_of_getElem? hcaller, rfl⟩
    have hgo (phase' : Phase L) (hfits : Caller.Fits ⟨.onCancel (some listener), phase'⟩)
        (hwaits : ∀ other, phase'.waits other = 0)
        (haccepted : Caller.accepted ⟨.onCancel (some listener), phase'⟩ = some listener) :
        Accounted (actions ++ [.invoke place listener]) (lost ++ [])
          (token.goto place (.onCancel (some listener)) phase') := by
      refine h.goto hcaller (fun other => ?_) hfits nofun rfl (fun other hother => ?_)
        fun other hother => ?_
      · rw [hinvokes, hwaits]
        rfl
      · obtain rfl := Option.some_inj.mp hother
        exact haccepted
      · rw [haccepted] at hother
        obtain rfl := Option.some_inj.mp hother
        exact hmem
    rw [hlost]
    by_cases hreturns : outcome listener = .returns
    · rw [if_pos hreturns]
      exact hgo _ (fits_of_phase (fun _ => nofun) fun _ _ => nofun) (fun _ => rfl) rfl
    · rw [if_neg hreturns]
      exact hgo _ (fits_of_phase (fun _ => nofun) fun _ _ => nofun) (fun _ => rfl) rfl
  · have hcall : call = .cancel :=
      (h.fits _ (List.mem_of_getElem? hcaller)).2 _ _ rfl
    subst hcall
    have hwaits (other : L) : [listener].count other + rest.count other =
        (Phase.draining (listener :: rest) firstFailure).waits other := by
      rw [← List.count_append]
      rfl
    have hon (failure : Option L) : Accounted (actions ++ [.invoke place listener]) (lost ++ [])
        (token.goto place .cancel (.draining rest failure)) := by
      refine h.goto hcaller (fun other => ?_) ⟨fun _ => nofun, fun _ _ _ => rfl⟩ nofun rfl
        (fun _ hnone => (by cases hnone)) fun _ hnone => (by cases hnone)
      rw [hinvokes, ← hwaits]
      rfl
    rw [lostBy, hcaller]
    dsimp only
    rw [drained]
    cases houtcome : outcome listener with
    | returns => exact hon firstFailure
    | throwsRuntime => exact hon _
    | throwsError =>
      -- the loop ends, and what is left of it is lost
      refine h.goto hcaller (fun other => ?_) (fits_of_phase (fun _ => nofun) fun _ _ => nofun)
        nofun rfl (fun _ hnone => (by cases hnone)) fun _ hnone => (by cases hnone)
      rw [hinvokes, ← hwaits]
      rfl

lemma Accounted.step (h : Accounted actions lost token) (hstep : token.Step outcome action token') :
    Accounted (actions ++ [action]) (lost ++ token.lostBy outcome action) token' := by
  cases action with
  | call call =>
    cases hstep
    show Accounted _ (lost ++ []) _
    rw [List.append_nil]
    exact h.begin
  | register place =>
    obtain ⟨listener, hcaller, rfl⟩ := register_cases hstep
    show Accounted _ (lost ++ []) _
    rw [List.append_nil]
    exact h.register hcaller
  | publish place callbacks =>
    obtain ⟨hcaller, hpublish⟩ := publish_cases hstep
    show Accounted _ (lost ++ []) _
    rw [CancellationToken.publish] at hpublish
    split_ifs at hpublish with hcancelled hempty hperm
    · obtain rfl := Option.some_inj.mp hpublish
      exact h.goto hcaller (fun _ => rfl) (fits_of_phase (fun _ => nofun) fun _ _ => nofun)
        (fun _ _ => hcancelled) rfl (fun _ hnone => (by cases hnone))
        fun _ hnone => (by cases hnone)
    · obtain rfl := Option.some_inj.mp hpublish
      rw [List.append_nil]
      exact h.publish hcaller (Bool.not_eq_true _ ▸ hcancelled) (List.isPerm_iff.mp hperm)
  | invoke place listener => exact h.invoke hstep
  | finish place =>
    obtain ⟨call, firstFailure, hcaller, rfl⟩ := finish_cases hstep
    have hcall : call = .cancel :=
      (h.fits _ (List.mem_of_getElem? hcaller)).2 [] firstFailure rfl
    subst hcall
    show Accounted _ (lost ++ []) _
    cases firstFailure with
    | none =>
      exact h.goto hcaller (fun _ => rfl) (fits_of_phase (fun _ => nofun) fun _ _ => nofun) nofun
        rfl (fun _ hnone => (by cases hnone)) fun _ hnone => (by cases hnone)
    | some listener =>
      exact h.goto hcaller (fun _ => rfl) (fits_of_phase (fun _ => nofun) fun _ _ => nofun) nofun
        rfl (fun _ hnone => (by cases hnone)) fun _ hnone => (by cases hnone)

omit [DecidableEq L] in
lemma lostBy_eq_nil_iff : token.lostBy outcome action = [] ↔ token.Completes outcome action := by
  constructor
  · rintro hlost place listener call next rest firstFailure rfl hcaller herror
    rw [lostBy, hcaller] at hlost
    dsimp only at hlost
    rwa [if_pos herror] at hlost
  · intro hcompletes
    cases action with
    | invoke place listener =>
      rw [lostBy]
      split
      next call next rest firstFailure hcaller =>
        by_cases herror : outcome listener = .throwsError
        · rw [if_pos herror]
          exact hcompletes place listener call next rest firstFailure rfl hcaller herror
        · rw [if_neg herror]
      next => rfl
    | call call => rfl
    | register place => rfl
    | publish place callbacks => rfl
    | finish place => rfl

/-! ## Whole runs -/

lemma accounted_new {maxListeners : ℤ} (h : new maxListeners = some token) :
    Accounted [] [] token := by
  rw [new] at h
  split_ifs at h with hbounds
  obtain rfl := Option.some_inj.mp h
  refine ⟨List.nodup_nil, ?_, nofun, fun _ => ⟨rfl, fun _ => ⟨rfl, rfl⟩⟩, nofun, rfl, nofun, nofun,
    ?_⟩
  · show (0 : ℤ) ≤ maxListeners
    omega
  · intro listener
    exact ⟨nofun, nofun⟩

lemma step_unique (token : CancellationToken L) (action : Action L)
    (token' token'' : CancellationToken L) (h : token.Step outcome action token')
    (h' : token.Step outcome action token'') : token' = token'' :=
  Option.some_inj.mp (h.symm.trans h')

/-- After every run the counts hold, and callbacks are lost exactly by the steps that end the loop
of `cancel` early. -/
lemma exists_accounted {maxListeners : ℤ} {start : CancellationToken L}
    (hnew : new maxListeners = some start) (h : Run (Step outcome) start actions token) :
    ∃ lost, Accounted actions lost token ∧
      (lost = [] ↔ AllSteps (Step outcome) (Completes outcome) start actions) := by
  induction h with
  | nil => exact ⟨[], accounted_new hnew, iff_of_true rfl allSteps_nil⟩
  | @snoc actions token action token' hrun hstep ih =>
    obtain ⟨lost, haccounted, hlost⟩ := ih
    refine ⟨_, haccounted.step hstep, ?_⟩
    rw [allSteps_snoc_iff step_unique hrun hstep, List.append_eq_nil_iff, hlost,
      lostBy_eq_nil_iff]

/-- Some call of `cancel` has been through its synchronized section. -/
def Happened (token : CancellationToken L) : Prop :=
  ∃ caller ∈ token.calls, caller.call = .cancel ∧ caller.phase ≠ .called

/-- Every call has returned or thrown. -/
def AllEnded (token : CancellationToken L) : Prop :=
  ∀ caller ∈ token.calls, caller.ended = true

/-- What is promised of the listeners after some steps. -/
structure RunsOnce (actions : List (Action L)) (token : CancellationToken L) : Prop where
  retained : (token.listeners.length : ℤ) ≤ token.maxListeners
  never : ¬token.Happened → ∀ listener, invocations listener actions = 0
  once : token.Happened → token.AllEnded → ∀ listener,
    (∃ caller ∈ token.calls, caller.accepted = some listener) → invocations listener actions = 1
  publisher : token.Happened → token.publishers = 1

omit [DecidableEq L] in
lemma exists_of_publishers (h : token.publishers ≠ 0) : token.Happened := by
  by_contra hnone
  refine h (sum_map_eq_zero fun caller hcaller => ?_)
  have hfalse : caller.publishes = false := by
    cases caller with
    | mk call phase =>
      cases call with
      | onCancel => rfl
      | cancel =>
        by_cases hcalled : phase = .called
        · rw [hcalled]
          rfl
        · exact absurd ⟨_, hcaller, rfl, hcalled⟩ hnone
  rw [hfalse]
  rfl

lemma Accounted.happened_iff (h : Accounted actions lost token) :
    token.Happened ↔ token.cancelled = true := by
  constructor
  · rintro ⟨caller, hcaller, hcancel, hcalled⟩
    exact h.flagged caller hcaller hcancel hcalled
  · intro hcancelled
    refine exists_of_publishers ?_
    rw [h.publishers, hcancelled]
    exact Nat.one_ne_zero

omit [DecidableEq L] in
lemma AllEnded.waits_eq_zero [DecidableEq L] (h : token.AllEnded) (listener : L) :
    token.waits listener = 0 := by
  refine sum_map_eq_zero fun caller hcaller => ?_
  have hended := h caller hcaller
  cases caller with
  | mk call phase =>
    cases phase with
    | called => rfl
    | running => cases hended
    | draining => cases hended
    | returned => rfl
    | answered => rfl
    | threw => rfl

lemma Accounted.runsOnce (h : Accounted actions [] token) : RunsOnce actions token := by
  refine ⟨h.limit, ?_, ?_, ?_⟩
  · intro hnever listener
    rw [h.happened_iff, Bool.not_eq_true] at hnever
    exact ((h.before hnever).2 listener).1
  · intro hhappened hended listener haccepted
    have hafter := h.after (h.happened_iff.mp hhappened) listener
    have hcount := List.count_eq_one_of_mem h.nodup ((h.accepted listener).mpr haccepted)
    rw [hended.waits_eq_zero, hcount] at hafter
    exact hafter
  · intro hhappened
    rw [h.publishers, h.happened_iff.mp hhappened]
    rfl

/-- When all calls have ended and every listener was run once, nothing was lost. -/
lemma Accounted.lost_eq_nil (h : Accounted actions lost token) (hended : token.AllEnded)
    (honce : RunsOnce actions token) : lost = [] := by
  cases hcancelled : token.cancelled with
  | false => exact (h.before hcancelled).1
  | true =>
    rw [List.eq_nil_iff_forall_not_mem]
    intro listener hmem
    have hpos := List.count_pos_iff.mpr hmem
    have hafter := h.after hcancelled listener
    rw [hended.waits_eq_zero] at hafter
    by_cases hlistener : listener ∈ token.identities
    · have hrun := honce.once (h.happened_iff.mpr hcancelled) hended listener
        ((h.accepted listener).mp hlistener)
      have hcount := List.count_eq_one_of_mem h.nodup hlistener
      omega
    · have hcount := List.count_eq_zero_of_not_mem hlistener
      omega

end Steps

end CancellationToken

open CancellationToken

/-- **Listeners run once**: in every run whose steps complete the loop of `cancel`, every accepted
listener is run exactly once after a cancellation and never without one, one call of `cancel` is the
publisher, and no more listeners are retained than may be.  A run that ends with all calls ended has
this only when each of its steps completes the loop. -/
theorem listeners_run_once_iff (outcome : L → Outcome) {maxListeners : ℤ}
    {start token : CancellationToken L} {actions : List (Action L)}
    (hnew : new maxListeners = some start) (h : Run (Step outcome) start actions token) :
    (AllSteps (Step outcome) (Completes outcome) start actions → RunsOnce actions token) ∧
      (token.AllEnded →
        (RunsOnce actions token ↔
          AllSteps (Step outcome) (Completes outcome) start actions)) := by
  obtain ⟨lost, haccounted, hlost⟩ := exists_accounted hnew h
  have hsuffices (hall : AllSteps (Step outcome) (Completes outcome) start actions) :
      RunsOnce actions token := by
    rw [hlost.mpr hall] at haccounted
    exact haccounted.runsOnce
  refine ⟨hsuffices, fun hended => ⟨fun honce => ?_, hsuffices⟩⟩
  exact hlost.mp (haccounted.lost_eq_nil hended honce)

/-! ## A listener that is lost -/

/-- The first listener throws an `Error`. -/
def sampleOutcome : ℕ → Outcome
  | 0 => .throwsError
  | _ => .returns

/-- A token of the default size. -/
def sampleToken : CancellationToken ℕ := ⟨defaultMaxListeners, false, [], []⟩

/-- Two listeners are registered, and the token is cancelled. -/
def sampleActions : List (Action ℕ) :=
  [.call (.onCancel (some 0)), .register 0, .call (.onCancel (some 1)), .register 1, .call .cancel,
    .publish 2 [0, 1], .invoke 2 0]

/-- The token when the first listener has thrown. -/
def sampleEnd : CancellationToken ℕ :=
  ⟨defaultMaxListeners, true, [(0, true), (1, true)],
    [⟨.onCancel (some 0), .returned⟩, ⟨.onCancel (some 1), .returned⟩,
      ⟨.cancel, .threw (.thrownBy 0)⟩]⟩

lemma run_sampleEnd : Run (Step sampleOutcome) sampleToken sampleActions sampleEnd :=
  Run.of_foldlM
    (show sampleActions.foldlM (act sampleOutcome) sampleToken = some sampleEnd by decide)
    fun _ _ _ _ h => h

lemma allEnded_sampleEnd : sampleEnd.AllEnded := by
  intro caller hcaller
  simp only [sampleEnd, List.mem_cons, List.not_mem_nil, or_false] at hcaller
  rcases hcaller with rfl | rfl | rfl
  all_goals rfl

theorem listeners_run_once_iff_sample :
    RunsOnce sampleActions sampleEnd ↔
      AllSteps (Step sampleOutcome) (Completes sampleOutcome) sampleToken sampleActions :=
  (listeners_run_once_iff sampleOutcome (show new defaultMaxListeners = some sampleToken from rfl)
    run_sampleEnd).2 allEnded_sampleEnd

/-- **A listener is lost**: it was accepted, the token was cancelled and all calls have ended, but
it was never run, because the listener before it threw an `Error`. -/
theorem accepted_listener_not_run :
    ∃ (actions : List (Action ℕ)) (token : CancellationToken ℕ),
      Run (Step sampleOutcome) sampleToken actions token ∧ token.Happened ∧ token.AllEnded ∧
        (∃ caller ∈ token.calls, caller.accepted = some 1) ∧ invocations 1 actions = 0 :=
  ⟨sampleActions, sampleEnd, run_sampleEnd,
    ⟨⟨.cancel, .threw (.thrownBy 0)⟩, by decide, rfl, nofun⟩, allEnded_sampleEnd,
    ⟨⟨.onCancel (some 1), .returned⟩, by decide, rfl⟩, rfl⟩

end JaDesktop.Sidecar.Cancellation
