import JaDesktop.Interop.EventSchemas
import JaDesktop.Sidecar.EventBudgets

/-!
# The events of a turn at the user interface

What the normalizer hands out is numbered by the history, wrapped as a notification and read by
`parseEvent`.  The end of a turn carries its terminal status inside of the turn, and the schema looks
for it beside the turn: no turn ends without an event that is refused.
-/

namespace JaDesktop.Interop

open Sidecar (JsonNode ObjectNode java TurnEvent DomainId EventNormalizer Context InstantText)
open Sidecar.EventNormalizer (feed Call)

/-- The notification of an event, under its number in the history. -/
def eventNotification (event : TurnEvent) (seq : ℤ) : JsonNode :=
  .object [(java "jsonrpc", .string (java "2.0")), (java "method", .string (java event.method)),
    (java "params", .object (ObjectNode.set (java "seq") (.number (.integral seq)) event.params))]

/-- `parseEvent` takes every event, under every number. -/
def EveryEventAccepted (zod : Zod) (events : List TurnEvent) : Prop :=
  ∀ event ∈ events, ∀ seq : ℤ, 1 ≤ seq →
    ∃ parsed, parseEvent zod (eventNotification event seq) = some parsed

section Refused

variable {normalizer : EventNormalizer} {labelOk : JavaString → Prop} {keyOk : String → Prop}
  {turn : Context}

lemma turn_of_payload {method : String} {payload : ObjectNode}
    (h : Sidecar.Payload normalizer labelOk keyOk turn method payload)
    (hmethod : method = "turn/completed") : ∃ node, payload = [(java "turn", node)] := by
  cases h with
  | completed | compact => exact ⟨_, rfl⟩
  | item h =>
    rcases h with ⟨rfl, -⟩ | ⟨rfl, -⟩
    · exact absurd hmethod (by decide)
    · exact absurd hmethod (by decide)
  | started | delta | requested | resolved => exact absurd hmethod (by decide)

lemma get_terminalStatus {event : TurnEvent} (hmethod : event.method = "turn/completed")
    (h : Sidecar.EventShape normalizer labelOk keyOk turn event) :
    ObjectNode.get (java "terminalStatus") event.params = none := by
  obtain ⟨seq, hash, occurredAt, payload, -, hpayload, hparams⟩ := h
  obtain ⟨node, rfl⟩ := turn_of_payload hpayload hmethod
  rw [hparams]
  simp [EventNormalizer.baseFields, ObjectNode.get_java_cons]

lemma readTurnCompleted_none {zod : Zod} {params : ObjectNode}
    (h : ObjectNode.get (java "terminalStatus") params = none) :
    readTurnCompleted zod params = none := by
  rw [readTurnCompleted]
  cases required "turn" (readTurn zod) params with
  | none => rfl
  | some turn =>
    have hmissing : ∀ {α : Type} (read : JsonNode → Option α),
        required "terminalStatus" read params = none := by
      intro α read
      rw [required, h]
      rfl
    rw [Option.bind_eq_bind, Option.bind_some, hmissing]
    rfl

/-- **The end of a turn is refused**, under whatever number. -/
lemma parseEvent_completed {zod : Zod} {event : TurnEvent}
    (hmethod : event.method = "turn/completed")
    (h : Sidecar.EventShape normalizer labelOk keyOk turn event) (seq : ℤ) :
    parseEvent zod (eventNotification event seq) = none := by
  have hstatus : ObjectNode.get (java "terminalStatus")
      (ObjectNode.set (java "seq") (.number (.integral seq)) event.params) = none := by
    rw [ObjectNode.get_set, if_neg (by simp), get_terminalStatus hmethod h]
  have hnone : ∀ root, parseThreadEvent zod .turnCompleted root
      (ObjectNode.set (java "seq") (.number (.integral seq)) event.params) = none := by
    intro root
    have hproject : readTurnCompleted zod _ = none := readTurnCompleted_none hstatus
    simp [parseThreadEvent, projectThread, hproject]
  have henvelope : ∀ parts, readEnvelope zod (eventNotification event seq) = some parts →
      parts.1 = .inl .turnCompleted ∧ parts.2.2 =
        ObjectNode.set (java "seq") (.number (.integral seq)) event.params := by
    intro parts hparts
    simp only [readEnvelope, Option.bind_eq_bind, Option.bind_eq_some_iff, Option.pure_def,
      Option.some_inj] at hparts
    obtain ⟨root, hroot, -, -, method, hreadMethod, params, hparams, -, -, -, -, -, -, -, -, -, -,
      rfl⟩ := hparts
    obtain rfl := Option.some_inj.mp hroot
    simp only [required, ObjectNode.get_java_cons] at hreadMethod hparams
    refine ⟨?_, ?_⟩
    · rw [hmethod] at hreadMethod
      exact (Option.some_inj.mp hreadMethod).symm
    · exact (Option.some_inj.mp hparams).symm
  rw [parseEvent]
  cases assertSafePayload 0 0 (eventNotification event seq) with
  | none => rfl
  | some nodes =>
    cases hread : readEnvelope zod (eventNotification event seq) with
    | none => rfl
    | some parts =>
      obtain ⟨method, root, params⟩ := parts
      obtain ⟨rfl, rfl⟩ := henvelope _ hread
      exact hnone root

end Refused

/-! ## Runs -/

/-- **No run is accepted**: a turn that ends hands out an event that the interface refuses, whatever
was fed to its context before. -/
theorem events_refused (zod : Zod) {normalizer : EventNormalizer}
    (hlimits : normalizer.limits = Sidecar.Limits.defaults) {threadId : DomainId "thr_"}
    {turnId : DomainId "turn_"} {mode accessMode : JavaString} {instanceSequence : ℕ}
    {threadSequence : Int64} {context : Context}
    (hopen : Sidecar.openContext threadId turnId mode accessMode instanceSequence threadSequence =
      .ok context) (calls : List Call) (status : String) (reason : Option JavaString) :
    ¬ EveryEventAccepted zod (feed normalizer (calls ++ [.terminal status reason]) context).1 := by
  have hitem : normalizer.limits.maxItemTextBytes < Sidecar.EventNormalizerPolicy.maxInteger := by
    rw [hlimits]
    decide
  have hbytes : 1024 ≤ normalizer.limits.maxEventBytes := by
    rw [hlimits]
    decide
  obtain ⟨hflag, hmodes, hfits⟩ := Sidecar.fits_openContext hopen
  have hsuits : ∀ c ∈ calls ++ [Call.terminal status reason],
      Sidecar.SuitsCall (fun _ => True) (fun _ => True) c := fun c _ => Sidecar.suitsCall_free c
  have hshaped := (Sidecar.feed_going (Sidecar.freeRule normalizer.sha256) hitem hbytes hmodes hflag hsuits
    (Or.inl hfits : Sidecar.Going normalizer _ _ context [] context)).1
  obtain ⟨event, hmem, hmethod⟩ := Sidecar.feed_ended (Sidecar.freeRule normalizer.sha256) hitem hbytes
    hmodes hflag hfits (fun c _ => Sidecar.suitsCall_free c) status reason
  intro haccepted
  obtain ⟨parsed, hparsed⟩ := haccepted event hmem 1 (by decide)
  rw [parseEvent_completed hmethod (hshaped event hmem)] at hparsed
  cases hparsed

/-! ## A turn of one answer -/

/-- A schema library that takes every time stamp. -/
def lenientZod : Zod := ⟨fun _ => true, fun _ => none⟩

/-- A block of text. -/
def sampleCalls : List Call :=
  [.normalize (.agentStart none), .normalize (.textBlockStart none),
    .normalize (.textBlockDelta none (some (java "hello"))), .normalize (.textBlockEnd none)]

theorem events_refused_sample : ¬ EveryEventAccepted lenientZod
    (feed Sidecar.steadyNormalizer (sampleCalls ++ [.terminal "completed" none])
      Sidecar.steadyTurn).1 :=
  events_refused lenientZod rfl Sidecar.steadyTurn_opened sampleCalls "completed" none

/-- The four events of the answer are read, and the end of the turn is not. -/
theorem end_not_accepted :
    ((feed Sidecar.steadyNormalizer sampleCalls Sidecar.steadyTurn).1.all fun event =>
        (parseEvent lenientZod (eventNotification event 1)).isSome) = true ∧
      ¬ EveryEventAccepted lenientZod
        (feed Sidecar.steadyNormalizer (sampleCalls ++ [.terminal "completed" none])
          Sidecar.steadyTurn).1 := by
  refine ⟨by decide +kernel, fun haccepted => ?_⟩
  have hrefused : ((feed Sidecar.steadyNormalizer (sampleCalls ++ [.terminal "completed" none])
      Sidecar.steadyTurn).1.any fun event =>
        (parseEvent lenientZod (eventNotification event 1)).isNone) = true := by decide +kernel
  obtain ⟨event, hmem, hnone⟩ := List.any_eq_true.mp hrefused
  obtain ⟨parsed, hparsed⟩ := haccepted event hmem 1 (by decide)
  rw [hparsed] at hnone
  cases hnone

end JaDesktop.Interop
