import JaDesktop.Sidecar.EventChanges
import JaDesktop.Sidecar.EventRuns

/-!
# The trail of a call

A call of the normalizer is a program of the turn followed by the charge of its events, and the call
that ends the turn closes the items that are open.  So a call leaves a trail as well (`Update`).  What
it returns shows the trail, except when the batch of the end was too large: then the compact end of the
turn stands alone (`Finishes`).
-/

namespace JaDesktop.Sidecar

open EventNormalizerPolicy EventNormalizer

/-- One update of a context by a call. -/
inductive Update (normalizer : EventNormalizer) (allowed : Change → Prop) (context : Context) :
    List Change → Context → Prop
  | touched {cs : List Change} {next : Context} (h : Touch normalizer allowed context cs next) :
      Update normalizer allowed context cs next
  | charged {bytes : ℕ}
      (hroom : context.eventBytes + bytes ≤ normalizer.limits.maxEventBytesTotal) :
      Update normalizer allowed context [] { context with eventBytes := context.eventBytes + bytes }
  | ended : Update normalizer allowed context [] context.close

/-- The bytes of the parameters of events. -/
def eventsBytes (events : List TurnEvent) : ℕ :=
  (events.map fun event => jsonBytes (.object event.params)).sum

lemma eventsBytes_cons (event : TurnEvent) (events : List TurnEvent) :
    eventsBytes (event :: events) = jsonBytes (.object event.params) + eventsBytes events := rfl

lemma eventsBytes_append (events more : List TurnEvent) :
    eventsBytes (events ++ more) = eventsBytes events + eventsBytes more := by
  simp [eventsBytes]

/-- Every event is within the limit of one event. -/
def WithinLimits (normalizer : EventNormalizer) (events : List TurnEvent) : Prop :=
  ∀ event ∈ events, jsonBytes (.object event.params) ≤ normalizer.limits.maxEventBytes

section Calls

variable {normalizer : EventNormalizer} {allowed : Change → Prop} {c : Context}

/-! ## What a touch leaves alone -/

variable {t : Context} {cs : List Change} {status reason : String}

lemma Touch.frame (h : Touch normalizer allowed c cs t) :
    t.terminal = c.terminal ∧ t.eventBytes = c.eventBytes := by
  cases h with
  | counters | registered | appended | closed => exact ⟨rfl, rfl⟩
  | @described key =>
    rw [Context.putEntry]
    cases c.items.lookup key <;> exact ⟨rfl, rfl⟩
  | @marked key =>
    rw [Context.markRedacted]
    cases c.items.lookup key <;> exact ⟨rfl, rfl⟩

lemma Update.mono {allowed' : Change → Prop} (himp : ∀ change, allowed change → allowed' change)
    (h : Update normalizer allowed c cs t) :
    Update normalizer allowed' c cs t := by
  cases h with
  | touched h => exact .touched (h.mono himp)
  | charged hroom => exact .charged hroom
  | ended => exact .ended

lemma frame_of_trail (h : Trail (Touch normalizer allowed) c cs t) :
    t.terminal = c.terminal ∧ t.eventBytes = c.eventBytes :=
  h.stateInvariant (I := fun t => t.terminal = c.terminal ∧ t.eventBytes = c.eventBytes) ⟨rfl, rfl⟩
    fun hs hstep => ⟨hstep.frame.1.trans hs.1, hstep.frame.2.trans hs.2⟩

lemma Update.identity (h : Update normalizer allowed c cs t) :
    t.threadId = c.threadId ∧ t.turnId = c.turnId := by
  cases h with
  | touched h =>
    cases h with
    | counters | registered | appended | closed => exact ⟨rfl, rfl⟩
    | @described key =>
      rw [Context.putEntry]
      cases c.items.lookup key <;> exact ⟨rfl, rfl⟩
    | @marked key =>
      rw [Context.markRedacted]
      cases c.items.lookup key <;> exact ⟨rfl, rfl⟩
  | charged | ended => exact ⟨rfl, rfl⟩

lemma identity_of_trail (h : Trail (Update normalizer allowed) c cs t) :
    t.threadId = c.threadId ∧ t.turnId = c.turnId :=
  h.stateInvariant (I := fun t => t.threadId = c.threadId ∧ t.turnId = c.turnId) ⟨rfl, rfl⟩
    fun hs hstep => ⟨hstep.identity.1.trans hs.1, hstep.identity.2.trans hs.2⟩

/-- An update takes nothing back of the event bytes and of the end of the turn. -/
lemma Update.grows (h : Update normalizer allowed c cs t) :
    c.eventBytes ≤ t.eventBytes := by
  cases h with
  | touched h => exact h.frame.2.ge
  | charged => exact Nat.le_add_right _ _
  | ended => exact Nat.le_refl _

lemma grows_of_trail (h : Trail (Update normalizer allowed) c cs t) : c.eventBytes ≤ t.eventBytes :=
  h.stateInvariant (I := fun t => c.eventBytes ≤ t.eventBytes) (Nat.le_refl _)
    fun hs hstep => hs.trans hstep.grows

lemma within_of_trail (h : Trail (Update normalizer allowed) c cs t)
    (hc : c.eventBytes ≤ normalizer.limits.maxEventBytesTotal) :
    t.eventBytes ≤ normalizer.limits.maxEventBytesTotal :=
  h.stateInvariant (I := fun t => t.eventBytes ≤ normalizer.limits.maxEventBytesTotal) hc
    fun hs hstep => by
      cases hstep with
      | touched h => exact h.frame.2.trans_le hs
      | charged hroom => exact hroom
      | ended => exact hs

/-! ## Charges -/

section

variable (hlimit : normalizer.limits.maxEventBytes < maxInteger)
include hlimit

lemma bytes_of_byteCount
    {event : TurnEvent} {bytes : ℕ} (h : event.byteCount = .ok bytes)
    (hsmall : bytes ≤ normalizer.limits.maxEventBytes) :
    jsonBytes (.object event.params) = bytes := by
  rw [TurnEvent.byteCount] at h
  split_ifs at h
  have hmin := Except.ok.inj h
  omega

lemma trails_chargeTerminal
    (events : List TurnEvent) :
    Trails (Touch normalizer allowed) c (chargeEvents normalizer true events)
      fun _ cs t => cs = [] ∧ t.items = c.items ∧ WithinLimits normalizer events := by
  induction events with
  | nil => exact Trails.pure ⟨rfl, rfl, List.forall_mem_nil _⟩
  | cons event events ih =>
    refine Trails.lift_bind fun bytes hbytes => Trails.ite (fun _ => trails_overBudget) fun hsmall => ?_
    refine Trails.ite (fun _ => ih.weaken fun _ cs t h => ?_) fun hfalse => absurd rfl hfalse
    refine ⟨h.1, h.2.1, List.forall_mem_cons.mpr ⟨?_, h.2.2⟩⟩
    rw [bytes_of_byteCount hlimit hbytes (Nat.not_lt.mp hsmall)]
    exact Nat.not_lt.mp hsmall

lemma trails_chargeEvents
    (events : List TurnEvent) :
    Trails (Update normalizer allowed) c (chargeEvents normalizer false events)
      fun _ cs t => cs = [] ∧ t.terminal = c.terminal ∧
        t.eventBytes = c.eventBytes + eventsBytes events ∧ WithinLimits normalizer events := by
  induction events generalizing c with
  | nil => exact Trails.pure ⟨rfl, rfl, rfl, List.forall_mem_nil _⟩
  | cons event events ih =>
    have hover {Q : Unit → List Change → Context → Prop} :
        Trails (Update normalizer allowed) c (overBudget .budget) Q :=
      trails_overBudget.mono .touched
    refine Trails.lift_bind fun bytes hbytes => Trails.ite (fun _ => hover) fun hsmall => ?_
    refine Trails.ite (fun h => by cases h) fun _ => Trails.get_bind ?_
    refine Trails.ite (fun _ => hover) fun hroom => ?_
    refine Trails.modify_bind (.single (.charged (Nat.not_lt.mp hroom))) ?_
    refine ih.weaken fun _ cs t h => ?_
    obtain ⟨rfl, hterminal, hcharged, hwithin⟩ := h
    have hsize := bytes_of_byteCount hlimit hbytes (Nat.not_lt.mp hsmall)
    refine ⟨rfl, hterminal, ?_, List.forall_mem_cons.mpr ⟨?_, hwithin⟩⟩
    · rw [hcharged, eventsBytes_cons, hsize, ← Nat.add_assoc]
    · rw [hsize]
      exact Nat.not_lt.mp hsmall

end

/-! ## The end of the turn -/

/-- The items under the keys are closed, and no other item was touched. -/
def Closes (keys : List JavaString) (c t : Context) : Prop :=
  ∀ key item, t.items.lookup key = some item →
    item.ended = true ∨ key ∉ keys ∧ c.items.lookup key = some item

lemma Closes.append {keys more : List JavaString} {u : Context} (h : Closes keys c t)
    (h' : Closes more t u) : Closes (keys ++ more) c u := by
  intro key item hitem
  rcases h' key item hitem with hended | ⟨hmore, hbefore⟩
  · exact .inl hended
  · refine (h key item hbefore).imp_right fun ⟨hkeys, hfirst⟩ => ⟨?_, hfirst⟩
    simp [hkeys, hmore]

/-- Nothing of the items has changed but their flags. -/
def SameTexts (c t : Context) : Prop :=
  ∀ key, (t.items.lookup key).map (fun item => (item.itemId, item.hidden, item.text)) =
    (c.items.lookup key).map fun item => (item.itemId, item.hidden, item.text)

lemma sameTexts_of_items (h : t.items = c.items) : SameTexts c t :=
  fun key => by rw [h]

lemma trails_closeItem {key : JavaString} :
    Trails (Touch normalizer allowed) c (closeItem normalizer status key)
      fun events cs t => Shows events cs ∧ Closes [key] c t ∧ SameTexts c t := by
  refine Trails.get_bind ?_
  cases hlookup : c.items.lookup key with
  | none =>
    refine Trails.pure ⟨shows_nil, fun k item hitem => .inr ⟨?_, hitem⟩, sameTexts_of_items rfl⟩
    rintro hk
    obtain rfl := List.mem_singleton.mp hk
    rw [hlookup] at hitem
    cases hitem
  | some item =>
    refine Trails.ite (fun hended => Trails.pure
      ⟨shows_nil, fun k i hitem => ?_, sameTexts_of_items rfl⟩) fun hopen => ?_
    · by_cases hk : k = key
      · rw [hk, hlookup] at hitem
        obtain rfl := Option.some_inj.mp hitem
        exact .inl hended
      · exact .inr ⟨by simpa using hk, hitem⟩
    refine Trails.modify_bind (.single (.closed hlookup (by simpa using hopen))) ?_
    refine Trails.bind still_itemEvent fun event cs t _ h => ?_
    obtain ⟨rfl, hitems, -, -, hstep⟩ := h
    refine Trails.pure ⟨by simp [Shows, hstep rfl, Change.shown], fun k i hitem => ?_, fun k => ?_⟩
    · rw [hitems, Context.setItem] at hitem
      by_cases hk : k = key
      · rw [hk, lookup_setItem_self] at hitem
        obtain rfl := Option.some_inj.mp hitem
        exact .inl rfl
      · rw [lookup_setItem_of_ne _ _ hk] at hitem
        exact .inr ⟨by simpa using hk, hitem⟩
    · rw [hitems, Context.setItem]
      by_cases hk : k = key
      · rw [hk, lookup_setItem_self, hlookup]
        rfl
      · rw [lookup_setItem_of_ne _ _ hk]

lemma trails_closeItems (keys : List JavaString) :
    Trails (Touch normalizer allowed) c (closeItems normalizer status keys)
      fun events cs t => Shows events cs ∧ Closes keys c t ∧ SameTexts c t := by
  induction keys generalizing c with
  | nil =>
    exact Trails.pure ⟨shows_nil, fun k i hitem => .inr ⟨List.not_mem_nil, hitem⟩,
      sameTexts_of_items rfl⟩
  | cons key keys ih =>
    refine Trails.bind trails_closeItem fun event cs t _ h => ?_
    refine Trails.bind ih fun events cs' u _ h' => Trails.pure ?_
    rw [List.append_nil]
    exact ⟨h.1.append h'.1, h.2.1.append h'.2.1, fun k => (h'.2.2 k).trans (h.2.2 k)⟩

/-- How a turn ends: with the closes of its items before the end of the turn, or with the compact end
alone, which says no time. -/
def Finishes (events : List TurnEvent) (cs : List Change) : Prop :=
  (∃ shown event completedAt, events = shown ++ [event] ∧ Shows shown cs ∧
    event.method = "turn/completed" ∧ streamStep event = some (.turnCompleted (some completedAt))) ∨
  ∃ event, events = [event] ∧ event.method = "turn/completed" ∧
    streamStep event = some (.turnCompleted none)

lemma streamStep_turn {turn params : ObjectNode} :
    streamStep ⟨"turn/completed", ObjectNode.set (java "turn") (.object turn) params⟩ =
      some (.turnCompleted (textField "completedAt" turn)) := by
  simp [streamStep, objectField, lookup_set]

lemma completedAt_ne : ∀ name ∈ ["turnId", "threadId", "status", "terminalStatus", "mode",
    "accessMode", "reason"], java "completedAt" ≠ java name := by decide +kernel

lemma completedAt_terminalTurn {completedAt : JavaString} :
    textField "completedAt" (terminalTurn c status reason completedAt) = some completedAt := by
  have hnames := completedAt_ne
  simp only [List.forall_mem_cons] at hnames
  obtain ⟨h1, h2, h3, h4, h5, h6, h7, -⟩ := hnames
  by_cases hreason : reason = "" <;>
    simp [textField, terminalTurn, reasonField, hreason, List.lookup_cons, beq_false_of_ne, h1, h2,
      h3, h4, h5, h6, h7]

lemma completedAt_compactTurn :
    textField "completedAt" (compactTurn c status reason) = none := by
  have hnames := completedAt_ne
  simp only [List.forall_mem_cons] at hnames
  obtain ⟨h1, h2, h3, h4, -, -, h7, -⟩ := hnames
  by_cases hreason : reason = "" <;>
    simp [textField, compactTurn, reasonField, hreason, List.lookup_cons, beq_false_of_ne, h1, h2,
      h3, h4, h7]

lemma trails_compactTerminal :
    Trails (Touch normalizer allowed) c (compactTerminal normalizer status reason)
      fun event cs t => cs = [] ∧ t.items = c.items ∧ event.method = "turn/completed" ∧
        streamStep event = some (.turnCompleted none) := by
  refine Trails.bind still_base fun params cs t _ h => ?_
  obtain ⟨rfl, hitems, -⟩ := h
  refine Trails.get_bind (Trails.lift_bind fun bytes _ => ?_)
  refine Trails.ite (fun _ => trails_overBudget) fun _ => Trails.pure ⟨rfl, hitems, rfl, ?_⟩
  rw [streamStep_turn, completedAt_compactTurn]

lemma trails_compactOversized {events : List TurnEvent} :
    Trails (Touch normalizer allowed) c (compactOversized normalizer status reason events)
      fun batch cs t => cs = [] ∧ t.items = c.items ∧ (batch = events ∨
        ∃ event, batch = [event] ∧ event.method = "turn/completed" ∧
          streamStep event = some (.turnCompleted none)) := by
  refine Trails.lift_bind fun oversized _ => Trails.ite (fun _ => ?_) fun _ => ?_
  · refine Trails.bind trails_compactTerminal fun event cs t _ h => ?_
    obtain ⟨rfl, hitems, hmethod, hstep⟩ := h
    exact Trails.pure ⟨rfl, hitems, .inr ⟨event, rfl, hmethod, hstep⟩⟩
  · exact Trails.pure ⟨rfl, rfl, .inl rfl⟩

/-- Every item of a context is closed. -/
def AllClosed (context : Context) : Prop :=
  ∀ key item, context.items.lookup key = some item → item.ended = true

/-- What the call that ends the turn returns, and what it leaves behind. -/
structure Loud (normalizer : EventNormalizer) (c : Context) (events : List TurnEvent)
    (cs : List Change) (t : Context) : Prop where
  flag : t.terminal = true
  bytes : t.eventBytes = c.eventBytes
  closed : AllClosed t
  texts : SameTexts c t
  finishes : Finishes events cs
  within : WithinLimits normalizer events

/-- **The call that ends the turn**: all items are closed behind it. -/
lemma trails_closeTurn (hlimit : normalizer.limits.maxEventBytes < maxInteger)
    {reason : Option JavaString} :
    Trails (Update normalizer allowed) c (closeTurn normalizer status reason)
      (Loud normalizer c) := by
  refine Trails.modify_bind (.single .ended) (Trails.get_bind ?_)
  suffices hbody : Trails (Touch normalizer allowed) c.close (do
      let closed ← closeItems normalizer (terminalStatus status) (c.close.items.map Prod.fst)
      let params ← base normalizer true
      let completedAt ← now normalizer
      let context ← get
      let event : TurnEvent := ⟨"turn/completed", ObjectNode.set (java "turn")
        (.object (terminalTurn context (terminalStatus status) (terminalReason reason)
          completedAt)) params⟩
      let events ← compactOversized normalizer (terminalStatus status) (terminalReason reason)
        (closed ++ [event])
      enforceEventBudget normalizer events true)
      fun events cs t => AllClosed t ∧ SameTexts c t ∧ Finishes events cs ∧
        WithinLimits normalizer events by
    obtain ⟨cs, htrail, hQ⟩ := hbody
    refine ⟨cs, htrail.mono .touched, fun events hrun => ?_⟩
    obtain ⟨hterminal, hbytes⟩ := frame_of_trail htrail
    obtain ⟨hclosed, htexts, hfinishes, hwithin⟩ := hQ events hrun
    exact ⟨hterminal, hbytes, hclosed, htexts, hfinishes, hwithin⟩
  refine Trails.bind (trails_closeItems _) fun closed cs t _ h => ?_
  obtain ⟨hclosed, hcloses, htexts⟩ := h
  refine Trails.bind still_base fun params cs' t₁ _ h₁ => ?_
  obtain ⟨rfl, hitems₁, -⟩ := h₁
  refine Trails.bind still_now fun completedAt cs' t₂ _ h₂ => ?_
  obtain ⟨rfl, hitems₂, -⟩ := h₂
  refine Trails.get_bind (Trails.bind trails_compactOversized fun batch cs' t₃ _ h₃ => ?_)
  obtain ⟨rfl, hitems₃, hbatch⟩ := h₃
  refine Trails.bind (trails_chargeTerminal hlimit batch) fun _ cs' t₄ _ h₄ => Trails.pure ?_
  obtain ⟨rfl, hitems₄, hwithin⟩ := h₄
  have hitems : t₄.items = t.items := by rw [hitems₄, hitems₃, hitems₂, hitems₁]
  refine ⟨fun key item hitem => ?_, fun key => ?_, ?_, hwithin⟩
  · rw [hitems] at hitem
    exact (hcloses key item hitem).resolve_right fun ⟨hnot, hbefore⟩ =>
      hnot (List.mem_map.mpr ⟨_, mem_of_lookup hbefore, rfl⟩)
  · rw [hitems]
    exact htexts key
  · simp only [List.append_nil]
    rcases hbatch with rfl | ⟨event, rfl, hmethod, hstep⟩
    · refine .inl ⟨closed, _, completedAt, rfl, hclosed, rfl, ?_⟩
      rw [streamStep_turn, completedAt_terminalTurn]
    · exact .inr ⟨event, rfl, hmethod, hstep⟩

/-! ## Calls -/

lemma trails_framed {α : Type} {m : Normalizing α} {Q : α → List Change → Context → Prop}
    (h : Trails (Touch normalizer allowed) c m Q) :
    Trails (Update normalizer allowed) c m fun a cs t =>
      Q a cs t ∧ t.terminal = c.terminal ∧ t.eventBytes = c.eventBytes := by
  obtain ⟨cs, htrail, hQ⟩ := h
  exact ⟨cs, htrail.mono .touched, fun a ha => ⟨hQ a ha, frame_of_trail htrail⟩⟩

/-- What a call that does not end the turn returns: the events show its changes and are charged. -/
def Quiet (normalizer : EventNormalizer) (c : Context) (events : List TurnEvent) (cs : List Change)
    (t : Context) : Prop :=
  Shows events cs ∧ t.terminal = c.terminal ∧ t.eventBytes = c.eventBytes + eventsBytes events ∧
    WithinLimits normalizer events

lemma trails_enforce (hlimit : normalizer.limits.maxEventBytes < maxInteger) {t : Context}
    {events : List TurnEvent} {cs : List Change}
    (h : Shows events cs ∧ t.terminal = c.terminal ∧ t.eventBytes = c.eventBytes) :
    Trails (Update normalizer allowed) t (enforceEventBudget normalizer events false)
      fun charged cs' u => Quiet normalizer c charged (cs ++ cs') u := by
  obtain ⟨hshows, hterminal, hbytes⟩ := h
  refine Trails.bind (trails_chargeEvents hlimit events) fun _ cs' u _ h => Trails.pure ?_
  obtain ⟨rfl, hterminal', hcharged, hwithin⟩ := h
  rw [List.append_nil, List.append_nil]
  exact ⟨hshows, hterminal'.trans hterminal, by rw [hcharged, hbytes], hwithin⟩

lemma trails_charged (hlimit : normalizer.limits.maxEventBytes < maxInteger)
    {m : Normalizing (List TurnEvent)} (h : Displays normalizer allowed c m) :
    Trails (Update normalizer allowed) c
      (m >>= fun events => enforceEventBudget normalizer events false) (Quiet normalizer c) :=
  Trails.bind (trails_framed h) fun _ _ _ _ h => trails_enforce hlimit h

lemma quiet_nil : Quiet normalizer c [] [] c := ⟨shows_nil, rfl, rfl, List.forall_mem_nil _⟩

/-- What is asked of the texts that a call appends: the block is open, or the text comes late. -/
def Admits (normalizer : EventNormalizer) (c : Context) (k : Call) (allowed : Change → Prop) :
    Prop :=
  ∀ event, k = .normalize event → ∀ key item text hidden,
    appendedText event = some (text, hidden) → item.ended = false ∨ Late normalizer c event →
      allowed (.appended key item text hidden)

section

variable (hlimit : normalizer.limits.maxEventBytes < maxInteger)

include hlimit

lemma trails_approvalRequested {prompt : ApprovalPrompt} :
    Trails (Update normalizer allowed) c (approvalRequested normalizer prompt)
      (Quiet normalizer c) := by
  have hevents : Displays normalizer allowed c (do
      let params ← base normalizer false
      let approval ← liftExcept (approvalSummary prompt)
      return [(⟨"approval/requested", ObjectNode.set (java "approval") approval params⟩ : TurnEvent)]) := by
    refine Trails.bind still_base fun params cs t _ h => ?_
    obtain ⟨rfl, -, -⟩ := h
    exact Trails.lift_bind fun approval _ => Trails.pure (by simp [Shows, streamStep])
  simpa only [approvalRequested, bind_assoc, pure_bind] using trails_charged hlimit hevents

lemma trails_approvalResolved {prompt : ApprovalPrompt} {decision : ApprovalDecision} :
    Trails (Update normalizer allowed) c (approvalResolved normalizer prompt decision)
      (Quiet normalizer c) := by
  refine Trails.ite (fun _ => ?_) fun _ => Trails.throw
  have hevents : Displays normalizer allowed c (do
      let params ← base normalizer false
      let approvalId ← liftExcept (boundedField "approvalId" prompt.approvalId)
      return [(⟨"approval/resolved", params ++ [approvalId,
        (java "decision", .string decision.decision),
        (java "resolvedAt", .string decision.resolvedAt.val)]⟩ : TurnEvent)]) := by
    refine Trails.bind still_base fun params cs t _ h => ?_
    obtain ⟨rfl, -, -⟩ := h
    exact Trails.lift_bind fun approvalId _ => Trails.pure (by simp [Shows, streamStep])
  simpa only [bind_assoc, pure_bind] using trails_charged hlimit hevents

/-- **A call that does not end the turn**, or comes after its end. -/
theorem trails_call {k : Call} (hquiet : c.terminal = true ∨ terminalOfCall k = none)
    (hadmits : Admits normalizer c k allowed) :
    Trails (Update normalizer allowed) c (call normalizer k) (Quiet normalizer c) := by
  cases k with
  | normalize event =>
    refine Trails.get_bind (Trails.ite (fun _ => Trails.pure quiet_nil) fun hopen => ?_)
    have hnone : terminalOf event = none := hquiet.resolve_left hopen
    have hdispatch : Displays normalizer allowed c (dispatch normalizer event) :=
      trails_dispatch hnone (hadmits event rfl)
    -- the flag that the budget reads is the one that the context had
    refine Trails.bind (trails_framed hdispatch) fun events cs t _ h => Trails.get_bind ?_
    rw [h.2.1, Bool.not_eq_true _ |>.mp hopen]
    exact trails_enforce hlimit h
  | approvalRequested prompt => exact trails_approvalRequested hlimit
  | approvalResolved prompt decision => exact trails_approvalResolved hlimit
  | terminal status reason =>
    refine Trails.get_bind (Trails.ite (fun _ => Trails.pure quiet_nil) fun hopen => ?_)
    rcases hquiet with hclosed | hnone
    · exact absurd hclosed hopen
    · cases hnone

/-- **The call that ends an open turn.** -/
theorem trails_call_ends {k : Call} (hopen : c.terminal = false) (hends : (terminalOfCall k).isSome) :
    Trails (Update normalizer allowed) c (call normalizer k) (Loud normalizer c) := by
  obtain ⟨⟨status, reason⟩, hterminal⟩ := Option.isSome_iff_exists.mp hends
  have hcall : Trails (Update normalizer allowed) c (terminal normalizer status reason)
      (Loud normalizer c) := by
    refine Trails.get_bind (Trails.ite (fun h => ?_) fun _ => trails_closeTurn hlimit)
    rw [hopen] at h
    cases h
  cases k with
  | normalize event =>
    refine Trails.get_bind (Trails.ite (fun h => ?_) fun _ => ?_)
    · rw [hopen] at h
      cases h
    rw [dispatch_terminal hterminal]
    refine Trails.bind hcall fun events cs t _ h => Trails.get_bind ?_
    obtain ⟨hflag, hbytes, hclosed, htexts, hfinishes, hwithin⟩ := h
    rw [hflag]
    -- the batch is measured a second time
    refine Trails.bind (trails_framed (trails_chargeTerminal hlimit events))
      fun _ cs' u _ h => Trails.pure ?_
    obtain ⟨⟨rfl, hitems, -⟩, hflag', hbytes'⟩ := h
    rw [List.append_nil, List.append_nil]
    refine ⟨hflag'.trans hflag, hbytes'.trans hbytes, ?_, fun key => ?_, hfinishes, hwithin⟩
    · rw [AllClosed, hitems]
      exact hclosed
    · rw [hitems]
      exact htexts key
  | terminal s r =>
    obtain ⟨rfl, rfl⟩ := Prod.mk.inj (Option.some_inj.mp hterminal)
    exact hcall
  | approvalRequested prompt | approvalResolved prompt decision => cases hterminal

end

end Calls

end JaDesktop.Sidecar
