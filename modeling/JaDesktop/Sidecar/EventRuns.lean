import JaDesktop.Sidecar.EventTerminal

/-!
# Runs of the normalizer

The calls on the context of one turn, one after the other.  Until the turn ends every call keeps the
turn; the call that ends it does not fail and hands out the end of the turn; after that the
context stays closed.  So every event of a run has one of the shapes (`feed_shaped`), and a run with a
terminal call has its `turn/completed` (`feed_ended`).
-/

namespace JaDesktop.Sidecar

open EventNormalizerPolicy EventNormalizer

/-- What a call has to bring so that its labels and keys are fine. -/
def SuitsCall (labelOk : JavaString → Prop) (keyOk : String → Prop) : Call → Prop
  | .normalize event => Suits labelOk keyOk event
  | .approvalRequested prompt => ∀ text ∈ prompt.texts, labelOk text
  | .approvalResolved prompt _ => ∀ text ∈ prompt.texts, labelOk text
  | .terminal _ _ => True

/-- The status and the reason of a call that ends the turn. -/
def terminalOfCall : Call → Option (String × Option JavaString)
  | .normalize event => terminalOf event
  | .terminal status reason => some (status, reason)
  | _ => none

lemma freeRule (sha256 : Sha256) :
    LabelRule sha256 (fun _ => True) fun _ => True :=
  ⟨fun _ _ _ _ => trivial, fun _ _ => trivial, fun _ _ => trivial, fun _ _ _ _ => trivial⟩

lemma suitsCall_free (c : Call) : SuitsCall (fun _ => True) (fun _ => True) c := by
  have hlabel : ∀ value, LabelOf (fun _ => True) value := fun _ _ _ => trivial
  cases c with
  | normalize event =>
    cases event with
    | agentStart name => exact hlabel name
    | modelCallStart replyId => exact hlabel replyId
    | modelCallEnd replyId usage => exact ⟨hlabel replyId, fun _ => ⟨trivial, trivial⟩⟩
    | toolCallStart toolCallId toolCallName => exact hlabel toolCallName
    | toolResultStart toolCallId toolCallName => exact hlabel toolCallName
    | userConfirmResult replyId confirmed => exact hlabel replyId
    | externalExecutionResult replyId toolCount => exact hlabel replyId
    | hintBlock blockId hintSource hint => exact hlabel hintSource
    | _ => trivial
  | approvalRequested prompt | approvalResolved prompt decision => exact fun _ _ => trivial
  | terminal status reason => trivial

section Runs

variable {normalizer : EventNormalizer} {labelOk : JavaString → Prop} {keyOk : String → Prop}
  {turn : Context}

lemma keeps_approvalRequested {prompt : ApprovalPrompt}
    (hprompt : ∀ text ∈ prompt.texts, labelOk text) :
    Keeps normalizer labelOk keyOk turn (approvalRequested normalizer prompt)
      (Shaped normalizer labelOk keyOk turn) := by
  refine keeps_base.bind fun params hparams => ?_
  refine (Keeps.lift fun node hnode => hnode).bind fun node hnode => ?_
  have hevent : EventShape normalizer labelOk keyOk turn ⟨"approval/requested",
      ObjectNode.set (java "approval") node params⟩ := by
    rw [set_base hparams (by simp)]
    exact eventShape_of_base hparams (.requested hprompt hnode)
  exact (keeps_enforce (shaped_singleton hevent)).weaken fun _ h => h.1

lemma keeps_approvalResolved {prompt : ApprovalPrompt} {decision : ApprovalDecision}
    (hprompt : ∀ text ∈ prompt.texts, labelOk text) :
    Keeps normalizer labelOk keyOk turn (approvalResolved normalizer prompt decision)
      (Shaped normalizer labelOk keyOk turn) := by
  refine Keeps.ite (fun hknown => ?_) fun _ => Ensures.throw fun _ h => h
  obtain ⟨known, hmem, heq⟩ := List.any_eq_true.mp hknown
  refine keeps_base.bind fun params hparams => ?_
  refine (Keeps.lift fun field hfield => hfield).bind fun field hfield => ?_
  have hevent : EventShape normalizer labelOk keyOk turn _ := eventShape_of_base hparams
    (.resolved hprompt hfield ⟨known, hmem, beq_iff_eq.mp heq⟩)
  exact (keeps_enforce (shaped_singleton hevent)).weaken fun _ h => h.1

variable {c : Call} {context : Context} {events : List TurnEvent} {calls : List Call}

/-- A call that does not end the turn, or comes after its end, keeps the turn as it is. -/
lemma keeps_call (rule : LabelRule normalizer.sha256 labelOk keyOk)
    (hlimit : normalizer.limits.maxItemTextBytes < maxInteger) (hsuits : SuitsCall labelOk keyOk c)
    (h : turn.terminal = true ∨ terminalOfCall c = none) :
    Keeps normalizer labelOk keyOk turn (call normalizer c)
      (Shaped normalizer labelOk keyOk turn) := by
  cases c with
  | normalize event =>
    refine Keeps.get.bind fun context hcontext => ?_
    refine Keeps.ite (fun _ => Keeps.pure shaped_nil) fun hopen => ?_
    have hnone : terminalOf event = none := by
      rcases h with hclosed | hnone
      · exact absurd (hcontext.terminal.trans hclosed) hopen
      · exact hnone
    refine (keeps_dispatch rule hlimit hnone hsuits).bind fun output houtput => ?_
    refine Keeps.get.bind fun context _ => ?_
    exact (keeps_enforce houtput).weaken fun _ h => h.1
  | approvalRequested prompt => exact keeps_approvalRequested hsuits
  | approvalResolved prompt decision => exact keeps_approvalResolved hsuits
  | terminal status reason =>
    refine Keeps.get.bind fun context hcontext => ?_
    refine Keeps.ite (fun _ => Keeps.pure shaped_nil) fun hopen => ?_
    rcases h with hclosed | hnone
    · exact absurd (hcontext.terminal.trans hclosed) hopen
    · cases hnone

/-- An event of an open context is dispatched, and then the budget is asked. -/
lemma runFrom_normalize {event : AgentEvent} {last : Context} (hopen : context.terminal = false)
    (hdispatch : runFrom (dispatch normalizer event) context = (.ok events, last)) :
    runFrom (normalize normalizer event) context =
      runFrom (enforceEventBudget normalizer events last.terminal) last := by
  rw [EventNormalizer.normalize, runFrom_bind, runFrom_get]
  simp only [hopen, Bool.false_eq_true, if_false]
  rw [runFrom_bind, hdispatch]
  simp only
  rw [runFrom_bind, runFrom_get]

lemma call_ends (hbytes : 1024 ≤ normalizer.limits.maxEventBytes) (hmodes : ModesFit turn)
    (hopen : turn.terminal = false) {status : String} {reason : Option JavaString}
    (h : terminalOfCall c = some (status, reason))
    (hcontext : Fits normalizer labelOk keyOk turn context) :
    ∃ events last, runFrom (call normalizer c) context = (.ok events, last) ∧
      Fits normalizer labelOk keyOk turn.close last ∧
      Shaped normalizer labelOk keyOk turn events ∧ Ended events := by
  obtain ⟨events, last, hrun, hlast, hshaped, hended, hwithin⟩ :=
    closeTurn_ok status reason hbytes hmodes hcontext
  have hflag : context.terminal = false := hcontext.terminal.trans hopen
  have hterminal : runFrom (terminal normalizer status reason) context = (.ok events, last) := by
    rw [terminal, runFrom_bind, runFrom_get]
    simp only [hflag, Bool.false_eq_true, if_false]
    exact hrun
  cases c with
  | normalize event =>
    -- the budget is asked a second time, about the same events
    obtain ⟨out, final, henforce⟩ := succeeds_enforce hwithin last hlast
    have hkept := (keeps_enforce (Q := (· = events)) rfl last hlast).1 out final henforce
    obtain rfl := hkept.2.1
    refine ⟨out, final, ?_, hkept.1, hshaped, hended⟩
    have hdispatch : dispatch normalizer event = terminal normalizer status reason :=
      dispatch_terminal h
    have hlastFlag : last.terminal = true := hlast.terminal
    rw [← hdispatch] at hterminal
    rw [call, runFrom_normalize hflag hterminal, hlastFlag]
    exact henforce
  | terminal s r =>
    obtain ⟨rfl, rfl⟩ := Prod.mk.inj (Option.some_inj.mp h)
    exact ⟨events, last, hterminal, hlast, hshaped, hended⟩
  | approvalRequested prompt | approvalResolved prompt decision => cases h

/-- Where a run is: the turn is open, or it is closed and its end is among the events. -/
def Going (normalizer : EventNormalizer) (labelOk : JavaString → Prop) (keyOk : String → Prop)
    (turn : Context) (events : List TurnEvent) (context : Context) : Prop :=
  Fits normalizer labelOk keyOk turn context ∨
    Fits normalizer labelOk keyOk turn.close context ∧ Ended events

lemma Ended.append_left {more : List TurnEvent} (h : Ended events) : Ended (events ++ more) :=
  let ⟨event, hmem, hmethod⟩ := h
  ⟨event, List.mem_append_left _ hmem, hmethod⟩

lemma Ended.append_right {more : List TurnEvent} (h : Ended more) : Ended (events ++ more) :=
  let ⟨event, hmem, hmethod⟩ := h
  ⟨event, List.mem_append_right _ hmem, hmethod⟩

lemma Keeps.outcome {m : Normalizing (List TurnEvent)}
    (hm : Keeps normalizer labelOk keyOk turn m (Shaped normalizer labelOk keyOk turn))
    (hcontext : Fits normalizer labelOk keyOk turn context) :
    Shaped normalizer labelOk keyOk turn (eventsOf (runFrom m context).1) ∧
      Fits normalizer labelOk keyOk turn (runFrom m context).2 := by
  rcases hrun : runFrom m context with ⟨e | events, last⟩
  · exact ⟨shaped_nil, (hm context hcontext).2 e last hrun⟩
  · exact ((hm context hcontext).1 events last hrun).symm

/-- **One call of a run.** -/
lemma call_going (rule : LabelRule normalizer.sha256 labelOk keyOk)
    (hlimit : normalizer.limits.maxItemTextBytes < maxInteger)
    (hbytes : 1024 ≤ normalizer.limits.maxEventBytes) (hmodes : ModesFit turn)
    (hopen : turn.terminal = false) (hsuits : SuitsCall labelOk keyOk c)
    (h : Going normalizer labelOk keyOk turn events context) :
    Shaped normalizer labelOk keyOk turn (eventsOf (runFrom (call normalizer c) context).1) ∧
      Going normalizer labelOk keyOk turn (events ++ eventsOf (runFrom (call normalizer c) context).1)
        (runFrom (call normalizer c) context).2 := by
  rcases h with hcontext | ⟨hclosed, hended⟩
  · cases hterminal : terminalOfCall c with
    | none =>
      have hkeeps := (keeps_call rule hlimit hsuits (Or.inr hterminal)).outcome hcontext
      exact ⟨hkeeps.1, Or.inl hkeeps.2⟩
    | some pair =>
      obtain ⟨status, reason⟩ := pair
      obtain ⟨out, last, hrun, hlast, hshaped, hout⟩ :=
        call_ends hbytes hmodes hopen hterminal hcontext
      rw [hrun]
      exact ⟨hshaped, Or.inr ⟨hlast, hout.append_right⟩⟩
  · have hkeeps := (keeps_call rule hlimit hsuits (Or.inl rfl)).outcome hclosed
    exact ⟨hkeeps.1.of_close, Or.inr ⟨hkeeps.2, hended.append_left⟩⟩

/-- **Every run**: its events have one of the shapes, and it is still going or has ended. -/
theorem feed_going (rule : LabelRule normalizer.sha256 labelOk keyOk)
    (hlimit : normalizer.limits.maxItemTextBytes < maxInteger)
    (hbytes : 1024 ≤ normalizer.limits.maxEventBytes) (hmodes : ModesFit turn)
    (hopen : turn.terminal = false) (hsuits : ∀ c ∈ calls, SuitsCall labelOk keyOk c)
    {before : List TurnEvent} (h : Going normalizer labelOk keyOk turn before context) :
    Shaped normalizer labelOk keyOk turn (feed normalizer calls context).1 ∧
      Going normalizer labelOk keyOk turn (before ++ (feed normalizer calls context).1)
        (feed normalizer calls context).2 := by
  induction calls generalizing before context with
  | nil => exact ⟨shaped_nil, by rwa [feed, List.append_nil]⟩
  | cons c calls ih =>
    obtain ⟨hfirst, hrest⟩ := List.forall_mem_cons.mp hsuits
    obtain ⟨hshaped, hnext⟩ := call_going rule hlimit hbytes hmodes hopen hfirst h
    obtain ⟨hmore, hlast⟩ := ih hrest hnext
    rw [feed]
    refine ⟨hshaped.append hmore, ?_⟩
    rwa [← List.append_assoc]

lemma feed_append {more : List Call} :
    feed normalizer (calls ++ more) context =
      ((feed normalizer calls context).1 ++
        (feed normalizer more (feed normalizer calls context).2).1,
        (feed normalizer more (feed normalizer calls context).2).2) := by
  induction calls generalizing context with
  | nil => simp [feed]
  | cons c calls ih =>
    rw [List.cons_append, feed, ih, feed]
    simp only [List.append_assoc]

lemma feed_closed (rule : LabelRule normalizer.sha256 labelOk keyOk)
    (hlimit : normalizer.limits.maxItemTextBytes < maxInteger)
    (hsuits : ∀ c ∈ calls, SuitsCall labelOk keyOk c)
    (h : Fits normalizer labelOk keyOk turn.close context) :
    Fits normalizer labelOk keyOk turn.close (feed normalizer calls context).2 := by
  induction calls generalizing context with
  | nil => exact h
  | cons c calls ih =>
    obtain ⟨hfirst, hrest⟩ := List.forall_mem_cons.mp hsuits
    exact ih hrest ((keeps_call rule hlimit hfirst (Or.inl rfl)).outcome h).2

/-- **Where a run leaves its turn**: closed if one of the calls has ended it, and open otherwise. -/
theorem feed_fits (rule : LabelRule normalizer.sha256 labelOk keyOk)
    (hlimit : normalizer.limits.maxItemTextBytes < maxInteger)
    (hbytes : 1024 ≤ normalizer.limits.maxEventBytes) (hmodes : ModesFit turn)
    (hopen : turn.terminal = false) (hsuits : ∀ c ∈ calls, SuitsCall labelOk keyOk c)
    (h : Fits normalizer labelOk keyOk turn context) :
    Fits normalizer labelOk keyOk
      (if calls.any fun c => (terminalOfCall c).isSome then turn.close else turn)
      (feed normalizer calls context).2 := by
  induction calls generalizing context with
  | nil => exact h
  | cons c calls ih =>
    obtain ⟨hfirst, hrest⟩ := List.forall_mem_cons.mp hsuits
    rw [feed, List.any_cons]
    cases hterminal : terminalOfCall c with
    | none => exact ih hrest ((keeps_call rule hlimit hfirst (Or.inr hterminal)).outcome h).2
    | some pair =>
      obtain ⟨status, reason⟩ := pair
      obtain ⟨out, last, hrun, hlast, -⟩ := call_ends hbytes hmodes hopen hterminal h
      rw [hrun]
      exact feed_closed rule hlimit hrest hlast

lemma fits_openContext {threadId : DomainId "thr_"} {turnId : DomainId "turn_"}
    {mode accessMode : JavaString} {instanceSequence : ℕ} {threadSequence : Int64}
    (h : openContext threadId turnId mode accessMode instanceSequence threadSequence = .ok turn) :
    turn.terminal = false ∧ ModesFit turn ∧ Fits normalizer labelOk keyOk turn turn := by
  obtain ⟨boundedMode, hmode, h⟩ := bind_eq_ok.mp h
  obtain ⟨boundedAccess, haccess, h⟩ := bind_eq_ok.mp h
  obtain rfl := Except.ok.inj h
  exact ⟨rfl, ⟨(bounded_eq_ok hmode).2, (bounded_eq_ok haccess).2⟩, rfl, rfl, rfl, rfl, rfl,
    List.forall_mem_nil _⟩

/-- **A run that ends has its end**: among the events of calls with a terminal call behind them. -/
theorem feed_ended (rule : LabelRule normalizer.sha256 labelOk keyOk)
    (hlimit : normalizer.limits.maxItemTextBytes < maxInteger)
    (hbytes : 1024 ≤ normalizer.limits.maxEventBytes) (hmodes : ModesFit turn)
    (hopen : turn.terminal = false) (hturn : Fits normalizer labelOk keyOk turn turn)
    (hsuits : ∀ c ∈ calls, SuitsCall labelOk keyOk c) (status : String) (reason : Option JavaString) :
    Ended (feed normalizer (calls ++ [.terminal status reason]) turn).1 := by
  have hstart : Going normalizer labelOk keyOk turn [] turn := Or.inl hturn
  obtain ⟨-, hgoing⟩ := feed_going rule hlimit hbytes hmodes hopen hsuits hstart
  rw [List.nil_append] at hgoing
  rw [feed_append]
  rcases hgoing with hcontext | ⟨-, hended⟩
  · obtain ⟨out, last, hrun, -, -, hout⟩ := call_ends (c := .terminal status reason) hbytes hmodes
      hopen rfl hcontext
    refine Ended.append_right ?_
    rw [feed, hrun, feed, List.append_nil]
    exact hout
  · exact hended.append_left

end Runs

end JaDesktop.Sidecar
