import JaDesktop.Sidecar.EventShapes

/-!
# What the normalizer keeps

One triple for each function of the normalizer: from a context that fits it leaves a context that
fits, whether it returns or fails, and what it returns has one of the shapes.  `Keeps` is this triple
with the invariant written once.
-/

namespace JaDesktop.Sidecar

open EventNormalizerPolicy EventNormalizer

section Keeping

variable {normalizer : EventNormalizer} {labelOk : JavaString → Prop} {keyOk : String → Prop}
  {turn : Context} {α β : Type}

/-- A program keeps the contexts of a turn, and returns a value with `Q`. -/
def Keeps (normalizer : EventNormalizer) (labelOk : JavaString → Prop) (keyOk : String → Prop)
    (turn : Context) (m : Normalizing α) (Q : α → Prop) : Prop :=
  Ensures (Fits normalizer labelOk keyOk turn) m
    (fun a context => Fits normalizer labelOk keyOk turn context ∧ Q a)
    (Fits normalizer labelOk keyOk turn)

namespace Keeps

variable {Q : α → Prop} {R : β → Prop}

lemma pure {a : α} (h : Q a) : Keeps normalizer labelOk keyOk turn (pure a) Q :=
  Ensures.pure fun _ hs => ⟨hs, h⟩

variable {m : Normalizing α}

lemma bind {f : α → Normalizing β} (hm : Keeps normalizer labelOk keyOk turn m Q)
    (hf : ∀ a, Q a → Keeps normalizer labelOk keyOk turn (f a) R) :
    Keeps normalizer labelOk keyOk turn (m >>= f) R :=
  Ensures.bind hm fun a s hs => hf a hs.2 s hs.1

lemma get : Keeps normalizer labelOk keyOk turn get (Fits normalizer labelOk keyOk turn) := by
  intro s hs
  refine ⟨fun a t hrun => ?_, fun e t hrun => ?_⟩
  · rw [runFrom_get] at hrun
    obtain ⟨ha, rfl⟩ := Prod.mk.inj hrun
    obtain rfl := Except.ok.inj ha
    exact ⟨hs, hs⟩
  · rw [runFrom_get] at hrun
    exact absurd (congrArg Prod.fst hrun) (by simp)

lemma modify {f : Context → Context} (h : ∀ context, Fits normalizer labelOk keyOk turn context →
    Fits normalizer labelOk keyOk turn (f context)) :
    Keeps normalizer labelOk keyOk turn (modify f) fun _ => True :=
  Ensures.modify fun s hs => ⟨h s hs, trivial⟩

lemma lift {x : Except NormalizeFailure α} (h : ∀ a, x = .ok a → Q a) :
    Keeps normalizer labelOk keyOk turn (liftExcept x) Q :=
  Ensures.lift (fun _ hs a ha => ⟨hs, h a ha⟩) fun _ hs => hs

lemma ite {c : Prop} [Decidable c] {n : Normalizing α}
    (ht : c → Keeps normalizer labelOk keyOk turn m Q)
    (hf : ¬ c → Keeps normalizer labelOk keyOk turn n Q) :
    Keeps normalizer labelOk keyOk turn (if c then m else n) Q := Ensures.ite ht hf

lemma weaken {Q' : α → Prop} (hm : Keeps normalizer labelOk keyOk turn m Q) (h : ∀ a, Q a → Q' a) :
    Keeps normalizer labelOk keyOk turn m Q' :=
  Ensures.weaken hm fun a _ hs => ⟨hs.1, h a hs.2⟩

lemma overBudget {failure : NormalizeFailure} :
    Keeps normalizer labelOk keyOk turn (overBudget failure) Q :=
  (modify fun _ h => h.counters).bind fun _ _ => Ensures.throw fun _ hs => hs

end Keeps

/-! ## Envelopes -/

/-- The base fields of an event of the turn. -/
def BaseShape (normalizer : EventNormalizer) (turn : Context) (params : ObjectNode) : Prop :=
  ∃ (seq : Int64) (hash : JavaString) (occurredAt : InstantText), IsHash hash ∧
    params = baseFields normalizer turn seq (java "evt_as_" ++ hash) occurredAt.val

lemma keeps_now : Keeps normalizer labelOk keyOk turn (now normalizer)
    fun text => ∃ instant : InstantText, text = instant.val :=
  Keeps.get.bind fun context _ => (Keeps.modify fun _ h => h.counters).bind fun _ _ =>
    Keeps.pure ⟨normalizer.clock context.readings, rfl⟩

lemma keeps_takeSequence : Keeps normalizer labelOk keyOk turn (takeSequence normalizer)
    (BaseShape normalizer turn) := by
  refine Keeps.get.bind fun context hcontext => ?_
  refine (Keeps.modify fun _ h => h.counters).bind fun _ _ => ?_
  refine (Keeps.lift fun hash hhash => isHash_of_digest hhash).bind fun hash hhash => ?_
  refine keeps_now.bind fun text htext => ?_
  obtain ⟨instant, rfl⟩ := htext
  refine Keeps.pure ⟨context.threadSequence + 1, hash, instant, hhash, ?_⟩
  simp only [baseFields, hcontext.threadId, hcontext.turnId]

lemma keeps_base {terminal : Bool} : Keeps normalizer labelOk keyOk turn (base normalizer terminal)
    (BaseShape normalizer turn) :=
  Keeps.get.bind fun _ _ => Keeps.ite (fun _ => Keeps.overBudget) fun _ => keeps_takeSequence

variable {params payload : ObjectNode} {name method status title : String} {events : List TurnEvent}
  {item : ItemAccumulator} {rawKey replyId : Option JavaString} {hidden : Bool} {context : Context}
  {key : JavaString} {value : MetadataValue} {entries : List (String × MetadataValue)}

section

variable (h : BaseShape normalizer turn params)
include h

lemma set_base (hname : name ∈ ["item", "turn", "approval"])
    (node : JsonNode) :
    ObjectNode.set (java name) node params = params ++ [(java name, node)] := by
  obtain ⟨seq, hash, occurredAt, -, rfl⟩ := h
  simp only [List.mem_cons, List.not_mem_nil, or_false] at hname
  rcases hname with rfl | rfl | rfl <;> simp [baseFields, ObjectNode.set]

lemma set_base_item (old node : JsonNode) :
    ObjectNode.set (java "item") node (params ++ [(java "item", old)]) =
      params ++ [(java "item", node)] := by
  obtain ⟨seq, hash, occurredAt, -, rfl⟩ := h
  simp [baseFields, ObjectNode.set]

lemma eventShape_of_base
    (hpayload : Payload normalizer labelOk keyOk turn method payload) :
    EventShape normalizer labelOk keyOk turn ⟨method, params ++ payload⟩ := by
  obtain ⟨seq, hash, occurredAt, hhash, rfl⟩ := h
  exact ⟨seq, hash, occurredAt, payload, hhash, hpayload, rfl⟩

end

/-- All events of a list have one of the shapes. -/
abbrev Shaped (normalizer : EventNormalizer) (labelOk : JavaString → Prop) (keyOk : String → Prop)
    (turn : Context) (events : List TurnEvent) : Prop :=
  ∀ event ∈ events, EventShape normalizer labelOk keyOk turn event

/-- A program keeps the contexts of a turn, and its events have one of the shapes. -/
abbrev KeepsShaped (normalizer : EventNormalizer) (labelOk : JavaString → Prop)
    (keyOk : String → Prop) (turn : Context) (m : Normalizing (List TurnEvent)) : Prop :=
  Keeps normalizer labelOk keyOk turn m (Shaped normalizer labelOk keyOk turn)

lemma shaped_nil : Shaped normalizer labelOk keyOk turn [] := List.forall_mem_nil _

lemma shaped_singleton {event : TurnEvent} (h : EventShape normalizer labelOk keyOk turn event) :
    Shaped normalizer labelOk keyOk turn [event] := List.forall_mem_singleton.mpr h

lemma Shaped.append {more : List TurnEvent} (h : Shaped normalizer labelOk keyOk turn events)
    (h' : Shaped normalizer labelOk keyOk turn more) :
    Shaped normalizer labelOk keyOk turn (events ++ more) :=
  List.forall_mem_append.mpr ⟨h, h'⟩

lemma keeps_itemEvent {terminal : Bool}
    (hmethod : method = "item/started" ∧ status = "started" ∨ method = "item/completed" ∧
      status ∈ ["completed", "failed", "interrupted"])
    (hitem : ItemFits normalizer labelOk keyOk item) :
    Keeps normalizer labelOk keyOk turn (itemEvent normalizer method item status terminal)
      (EventShape normalizer labelOk keyOk turn) := by
  refine keeps_base.bind fun params hparams => ?_
  refine Keeps.get.bind fun context hcontext => ?_
  refine (Keeps.lift fun node hnode => hnode).bind fun node hnode => ?_
  rw [hcontext.turnId] at hnode
  refine Keeps.pure ?_
  rw [set_base hparams (by simp)]
  exact eventShape_of_base hparams (.item hmethod hitem hnode)

/-- The bytes of an event are counted and are within the limit. -/
def WithinLimit (normalizer : EventNormalizer) (event : TurnEvent) : Prop :=
  ∃ bytes, event.byteCount = .ok bytes ∧ bytes ≤ normalizer.limits.maxEventBytes

lemma keeps_chargeEvents {terminal : Bool} (events : List TurnEvent) :
    Keeps normalizer labelOk keyOk turn (chargeEvents normalizer terminal events)
      fun _ => ∀ event ∈ events, WithinLimit normalizer event := by
  induction events with
  | nil => exact Keeps.pure (List.forall_mem_nil _)
  | cons event events ih =>
    refine (Keeps.lift fun bytes hbytes => hbytes).bind fun bytes hbytes => ?_
    refine Keeps.ite (fun _ => Keeps.overBudget) fun hsmall => ?_
    have hrest : Keeps normalizer labelOk keyOk turn (chargeEvents normalizer terminal events)
        fun _ => ∀ charged ∈ event :: events, WithinLimit normalizer charged :=
      ih.weaken fun _ h => List.forall_mem_cons.mpr ⟨⟨bytes, hbytes, Nat.not_lt.mp hsmall⟩, h⟩
    refine Keeps.ite (fun _ => hrest) fun _ => ?_
    refine Keeps.get.bind fun context _ => ?_
    refine Keeps.ite (fun _ => Keeps.overBudget) fun _ => ?_
    exact (Keeps.modify fun _ h => h.counters).bind fun _ _ => hrest

/-- The budget changes no event, and lets through what is within the limit. -/
lemma keeps_enforce {terminal : Bool} {Q : List TurnEvent → Prop} (h : Q events) :
    Keeps normalizer labelOk keyOk turn (enforceEventBudget normalizer events terminal)
      fun events => Q events ∧ ∀ event ∈ events, WithinLimit normalizer event :=
  (keeps_chargeEvents events).bind fun _ hwithin => Keeps.pure ⟨h, hwithin⟩

/-! ## Blocks -/

/-- The kinds of the items that the normalizer makes. -/
abbrev itemKinds : List ItemKind := [.agentMessage, .commentary, .toolCall, .command, .approval]

lemma keeps_startBlock {kind : ItemKind} {title : JavaString} (hkind : kind ∈ itemKinds)
    (htitle : TitleFits title) :
    KeepsShaped normalizer labelOk keyOk turn (startBlock normalizer rawKey kind title hidden) := by
  refine (Keeps.lift fun _ _ => trivial).bind fun key _ => ?_
  refine Keeps.get.bind fun context _ => ?_
  refine Keeps.ite (fun _ => Keeps.pure shaped_nil) fun _ => ?_
  refine Keeps.ite (fun _ => Keeps.overBudget) fun _ => ?_
  refine (Keeps.lift fun hash hhash => isHash_of_digest hhash).bind fun hash hhash => ?_
  have hitem : ItemFits normalizer labelOk keyOk
      { itemId := java "item_as_" ++ hash, kind, title, hidden } :=
    ⟨⟨hash, hhash, rfl⟩, hkind, htitle, ⟨"", rfl, Nat.zero_le _⟩, Nat.zero_le _,
      List.forall_mem_nil _⟩
  refine (Keeps.modify fun _ h => h.setItem hitem).bind fun _ _ => ?_
  exact (keeps_itemEvent (Or.inl ⟨rfl, rfl⟩) hitem).bind fun event hevent =>
    Keeps.pure (shaped_singleton hevent)

lemma findAmong_eq_ok {kinds : List ItemKind} {found : Option (JavaString × ItemAccumulator)}
    (h : findAmong normalizer context rawKey kinds = .ok found) :
    ∀ entry, found = some entry → context.items.lookup entry.1 = some entry.2 := by
  induction kinds with
  | nil =>
    obtain rfl := Except.ok.inj h
    simp
  | cons kind kinds ih =>
    obtain ⟨key, -, h⟩ := bind_eq_ok.mp h
    cases hlookup : context.items.lookup key with
    | some item =>
      rw [hlookup] at h
      obtain rfl := Except.ok.inj h
      rintro entry hentry
      obtain rfl := Option.some_inj.mp hentry
      exact hlookup
    | none =>
      rw [hlookup] at h
      exact ih h

/-- A search that finds an item finds one that fits. -/
abbrev FoundFits (normalizer : EventNormalizer) (labelOk : JavaString → Prop)
    (keyOk : String → Prop) (found : Option (JavaString × ItemAccumulator)) : Prop :=
  ∀ entry, found = some entry → ItemFits normalizer labelOk keyOk entry.2

lemma keeps_findBlock :
    Keeps normalizer labelOk keyOk turn (findBlock normalizer rawKey hidden)
      (FoundFits normalizer labelOk keyOk) :=
  Keeps.get.bind fun _ hcontext => Keeps.lift fun _ hfound entry hentry =>
    hcontext.lookup (findAmong_eq_ok hfound entry hentry)

lemma keeps_findAnyBlock :
    Keeps normalizer labelOk keyOk turn (findAnyBlock normalizer rawKey)
      (FoundFits normalizer labelOk keyOk) := by
  refine keeps_findBlock.bind fun found hfound => ?_
  cases found with
  | none => exact keeps_findBlock
  | some entry => exact Keeps.pure hfound

lemma titleFits_constant (h : title ∈ ["Agent response", "Data output",
    "Tool call", "Tool result", "user confirmation", "Agent hint", "Model call started",
    "Model call completed", "Approval result", "External execution completed"]) :
    TitleFits (java title) := by
  have hall : ∀ title ∈ ["Agent response", "Data output", "Tool call", "Tool result",
      "user confirmation", "Agent hint", "Model call started", "Model call completed",
      "Approval result", "External execution completed"],
      (java title).length ≤ 160 ∧ (java title).all isTitleUnit = true ∧
        (java title).all isHexUnit = false := forall_mem_of_all (by decide +kernel)
  obtain ⟨hlength, hprintable, hworded⟩ := hall title h
  exact ⟨hlength, List.all_eq_true.mp hprintable, hworded⟩

lemma keeps_allocateBlock (found : Option (JavaString × ItemAccumulator)) :
    KeepsShaped normalizer labelOk keyOk turn (allocateBlock normalizer rawKey hidden found) := by
  cases found with
  | some entry => exact Keeps.pure shaped_nil
  | none => cases hidden <;> exact keeps_startBlock (by decide) (titleFits_constant (by decide))

lemma keeps_appendText (hlimit : normalizer.limits.maxItemTextBytes < maxInteger)
    {text : JavaString} (hitem : ItemFits normalizer labelOk keyOk item) :
    Keeps normalizer labelOk keyOk turn (appendText normalizer key item text hidden)
      (EventShape normalizer labelOk keyOk turn) := by
  refine (Keeps.lift fun bytes hbytes => hbytes).bind fun bytes hbytes => ?_
  refine Keeps.ite (fun _ => Keeps.overBudget) fun hsmall => ?_
  obtain ⟨s, rfl, hlength⟩ := text_of_utf8BytesAtMost (by omega) hbytes (by omega)
  have happended : ItemFits normalizer labelOk keyOk
      (ItemAccumulator.append item (java s) hidden bytes) := by
    have hroom := hitem.bytes
    obtain ⟨old, hold, holdBytes⟩ := hitem.text
    refine ⟨hitem.itemId, hitem.kind, hitem.title, ?_, ?_, hitem.metadata⟩
    · cases hidden with
      | true => exact ⟨old, hold, holdBytes.trans (Nat.le_add_right _ _)⟩
      | false =>
        refine ⟨old ++ s, ?_, ?_⟩
        · exact (congrArg (· ++ java s) hold).trans (utf16Encode_append old s).symm
        · rw [asBytes_append, List.length_append, hlength]
          exact Nat.add_le_add_right holdBytes _
    · show item.bytes + bytes ≤ normalizer.limits.maxItemTextBytes
      omega
  refine (Keeps.modify fun _ h => (h.setItem happended).counters).bind fun _ _ => ?_
  refine keeps_base.bind fun params hparams => ?_
  exact Keeps.pure (eventShape_of_base hparams (.delta hitem hlength (by omega)))

lemma keeps_appendBlock (hlimit : normalizer.limits.maxItemTextBytes < maxInteger)
    {text : Option JavaString} :
    KeepsShaped normalizer labelOk keyOk turn (appendBlock normalizer rawKey text hidden) := by
  refine keeps_findBlock.bind fun first _ => ?_
  refine (keeps_allocateBlock first).bind fun started hstarted => ?_
  refine keeps_findBlock.bind fun found hfound => ?_
  rcases found with _ | ⟨key, item⟩
  · exact Keeps.overBudget
  rcases text with _ | _ | ⟨u, units⟩
  · exact Keeps.pure hstarted
  · exact Keeps.pure hstarted
  · exact (keeps_appendText hlimit (hfound _ rfl)).bind fun event hevent =>
      Keeps.pure (hstarted.append (shaped_singleton hevent))

lemma ItemFits.ended (h : ItemFits normalizer labelOk keyOk item) :
    ItemFits normalizer labelOk keyOk { item with ended := true } :=
  ⟨h.itemId, h.kind, h.title, h.text, h.bytes, h.metadata⟩

lemma keeps_endBlock :
    KeepsShaped normalizer labelOk keyOk turn (endBlock normalizer rawKey) := by
  refine keeps_findAnyBlock.bind fun found hfound => ?_
  rcases found with _ | ⟨key, item⟩
  · exact Keeps.pure shaped_nil
  have hclosed := (hfound _ rfl).ended
  refine Keeps.ite (fun _ => Keeps.pure shaped_nil) fun _ => ?_
  refine (Keeps.modify fun _ h => h.setItem hclosed).bind fun _ _ => ?_
  exact (keeps_itemEvent (Or.inr ⟨rfl, by decide⟩) hclosed).bind fun event hevent =>
    Keeps.pure (shaped_singleton hevent)

/-! ## Metadata -/

/-- What may be asked to be kept: a label or a value of another kind, under a fine key. -/
structure EntryAsked (labelOk : JavaString → Prop) (keyOk : String → Prop)
    (entry : String × MetadataValue) : Prop where
  key : keyOk entry.1
  label : ∀ text, entry.2 = .text text → labelOk text

lemma safeMetadataValue_number {sha256 : Sha256} {n : ℤ}
    (h : safeMetadataValue sha256 value = .ok (.number n)) : 0 ≤ n ∧ n ≤ maxInteger := by
  cases value with
  | number m =>
    have hn := MetadataValue.number.inj (Except.ok.inj h)
    simp only [maxInteger] at hn ⊢
    omega
  | bool b => cases h
  | text s =>
    obtain ⟨name, -, heq⟩ := map_eq_ok.mp h
    cases heq

lemma LabelRule.entry (rule : LabelRule normalizer.sha256 labelOk keyOk)
    {entry : String × MetadataValue} (h : EntryAsked labelOk keyOk entry)
    (hknown : entry.1 ∈ safeMetadataKeys)
    (hsafe : safeMetadataValue normalizer.sha256 entry.2 = .ok value) :
    EntryFits labelOk keyOk (entry.1, value) := by
  refine ⟨hknown, h.key, ?_, ?_⟩
  case refine_2 =>
    rintro n rfl
    exact safeMetadataValue_number hsafe
  rintro text rfl
  cases hvalue : entry.2 with
  | number n => simp [hvalue, safeMetadataValue] at hsafe
  | bool b => simp [hvalue, safeMetadataValue] at hsafe
  | text asked =>
    rw [hvalue] at hsafe
    obtain ⟨name, hname, heq⟩ := map_eq_ok.mp hsafe
    obtain rfl := MetadataValue.text.inj heq
    refine ⟨rule.identifier _ _ ?_ hname, isLabel_of_safeIdentifier hname⟩
    rintro v hv
    obtain rfl := Option.some_inj.mp hv
    exact h.label _ hvalue

lemma Fits.putEntry (h : Fits normalizer labelOk keyOk turn context)
    (hentry : EntryFits labelOk keyOk (name, value)) :
    Fits normalizer labelOk keyOk turn (Context.putEntry context key name value) := by
  rw [Context.putEntry]
  cases hlookup : context.items.lookup key with
  | none => exact h
  | some item => exact h.setItem ((h.lookup hlookup).putEntry hentry)

lemma keeps_putMetadata (rule : LabelRule normalizer.sha256 labelOk keyOk)
    (h : EntryAsked labelOk keyOk (name, value)) :
    Keeps normalizer labelOk keyOk turn (putMetadata normalizer key name value)
      fun _ => True := by
  refine Keeps.ite (fun hknown => ?_) fun _ => Keeps.pure trivial
  have hmem : name ∈ safeMetadataKeys := List.contains_iff_mem.mp hknown
  refine (Keeps.lift fun value hsafe => rule.entry h hmem hsafe).bind fun value hvalue => ?_
  refine Keeps.get.bind fun context _ => ?_
  refine (Keeps.lift fun _ _ => trivial).bind fun _ _ => ?_
  refine (Keeps.lift fun _ _ => trivial).bind fun _ _ => ?_
  refine Keeps.ite (fun _ => Keeps.overBudget) fun _ => ?_
  exact Keeps.modify fun _ hcontext => (hcontext.putEntry hvalue).counters

lemma keeps_putAll (rule : LabelRule normalizer.sha256 labelOk keyOk)
    (h : ∀ entry ∈ entries, EntryAsked labelOk keyOk entry) :
    Keeps normalizer labelOk keyOk turn (putAll normalizer key entries) fun _ => True := by
  induction entries with
  | nil => exact Keeps.pure trivial
  | cons entry entries ih =>
    obtain ⟨hfirst, hrest⟩ := List.forall_mem_cons.mp h
    exact (keeps_putMetadata rule hfirst).bind fun _ _ => ih hrest

lemma item_of_payload (h : Payload normalizer labelOk keyOk turn method payload)
    (hmethod : method = "item/started") :
    ∃ node, payload = [(java "item", node)] := by
  cases h with
  | item => exact ⟨_, rfl⟩
  | started | delta | completed | compact | requested | resolved =>
    exact absurd hmethod (by decide)

lemma item_of_started {event : TurnEvent} (h : EventShape normalizer labelOk keyOk turn event)
    (hmethod : event.method = "item/started") : ∃ params node,
      BaseShape normalizer turn params ∧ event.params = params ++ [(java "item", node)] := by
  obtain ⟨seq, hash, occurredAt, payload, hhash, hpayload, hparams⟩ := h
  obtain ⟨node, rfl⟩ := item_of_payload hpayload hmethod
  exact ⟨_, node, ⟨seq, hash, occurredAt, hhash, rfl⟩, hparams⟩

lemma keeps_rewriteStartedItem (h : Shaped normalizer labelOk keyOk turn events) :
    KeepsShaped normalizer labelOk keyOk turn (rewriteStartedItem events key) := by
  refine Keeps.get.bind fun context hcontext => ?_
  rcases events with _ | ⟨event, rest⟩
  · exact Keeps.pure h
  obtain ⟨hevent, hrest⟩ := List.forall_mem_cons.mp h
  cases hlookup : context.items.lookup key with
  | none => exact Keeps.pure h
  | some item =>
    refine Keeps.ite (fun hmethod => ?_) fun _ => Keeps.pure h
    refine (Keeps.lift fun node hnode => hnode).bind fun node hnode => ?_
    rw [hcontext.turnId] at hnode
    obtain ⟨params, old, hbase, hparams⟩ := item_of_started hevent hmethod
    refine Keeps.pure (List.forall_mem_cons.mpr ⟨?_, hrest⟩)
    rw [hparams, set_base_item hbase]
    exact eventShape_of_base hbase (.item (Or.inl ⟨rfl, rfl⟩) (hcontext.lookup hlookup) hnode)

section

variable (rule : LabelRule normalizer.sha256 labelOk keyOk)

include rule

lemma keeps_describe {started : List TurnEvent}
    (hentries : ∀ entry ∈ entries, EntryAsked labelOk keyOk entry)
    (h : Shaped normalizer labelOk keyOk turn started) :
    KeepsShaped normalizer labelOk keyOk turn (describe normalizer started key entries) :=
  (keeps_putAll rule hentries).bind fun _ _ => keeps_rewriteStartedItem h

/-! ## Notices, tools and hints -/

/-- A key that is none of the two for the counters of a model call. -/
abbrev PlainKey (name : String) : Prop :=
  name ∈ safeMetadataKeys ∧ name ≠ "usageInputTokens" ∧ name ≠ "usageOutputTokens"

lemma entryAsked_constant {text : String} (hname : PlainKey name)
    (htext : text ∈ ["redacted", "tool", "start", "end", "started", "completed", "waiting",
      "observed", "confirmed", "partial"]) :
    EntryAsked labelOk keyOk (name, .text (java text)) := by
  refine ⟨rule.key name hname.1 hname.2.1 hname.2.2, ?_⟩
  rintro t ht
  obtain rfl := MetadataValue.text.inj ht
  exact rule.constant text htext

lemma entryAsked_label {label : JavaString} (hname : PlainKey name)
    (hlabel : labelOk label) :
    EntryAsked labelOk keyOk (name, .text label) := by
  refine ⟨rule.key name hname.1 hname.2.1 hname.2.2, ?_⟩
  rintro t ht
  obtain rfl := MetadataValue.text.inj ht
  exact hlabel

lemma entryAsked_number {n : ℤ} (hname : PlainKey name) :
    EntryAsked labelOk keyOk (name, .number n) :=
  ⟨rule.key name hname.1 hname.2.1 hname.2.2, fun _ ht => by cases ht⟩

lemma keeps_commentaryNotice {rawKey : JavaString}
    (htitle : title ∈ ["Model call started", "Model call completed", "Approval result",
      "External execution completed"])
    (hentries : ∀ entry ∈ entries, EntryAsked labelOk keyOk entry) :
    KeepsShaped normalizer labelOk keyOk turn
      (commentaryNotice normalizer rawKey title entries) := by
  have htitleFits : TitleFits (java title) := titleFits_constant (by
    simp only [List.mem_cons, List.not_mem_nil, or_false] at htitle ⊢
    rcases htitle with rfl | rfl | rfl | rfl <;> simp)
  refine (keeps_startBlock (by decide) htitleFits).bind fun started hstarted => ?_
  refine (Keeps.lift fun _ _ => trivial).bind fun key _ => ?_
  refine (keeps_describe rule hentries hstarted).bind fun described hdescribed => ?_
  exact keeps_endBlock.bind fun ended hended => Keeps.pure (hdescribed.append hended)

lemma keeps_startTool {toolCallId toolCallName : Option JavaString} {kind : ItemKind}
    (hkind : kind ∈ itemKinds) (htitle : title ∈ ["Tool call: ", "Tool result: "])
    (hname : ∀ v, toolCallName = some v → labelOk v) :
    KeepsShaped normalizer labelOk keyOk turn
      (startTool normalizer rawKey kind title toolCallId toolCallName) := by
  refine (Keeps.lift fun name hsafe => hsafe).bind fun name hsafe => ?_
  have hlabel : ∀ safe, safeToolName normalizer.sha256 toolCallName = .ok safe → labelOk safe := by
    intro safe hsafe
    obtain ⟨identifier, hidentifier, rfl⟩ := map_eq_ok.mp hsafe
    split_ifs
    · exact rule.constant "redacted" (by simp)
    · exact rule.identifier _ _ hname hidentifier
  have htitleFits : TitleFits (java title ++ name) := by
    have hhead : (java title).length ≤ 32 ∧ (java title).all isTitleUnit = true ∧
        (java title).all isHexUnit = false := by
      simp only [List.mem_cons, List.not_mem_nil, or_false] at htitle
      rcases htitle with rfl | rfl <;> exact ⟨by decide, by decide, by decide⟩
    obtain ⟨hlength, hprintable, hworded⟩ := hhead
    exact titleFits_label (List.all_eq_true.mp hprintable) hlength hworded
      (isLabel_of_safeToolName hsafe)
  refine (keeps_startBlock hkind htitleFits).bind fun started hstarted => ?_
  refine (Keeps.lift fun _ _ => trivial).bind fun key _ => ?_
  refine (Keeps.lift fun operation hoperation => hoperation).bind fun operation hoperation => ?_
  refine (Keeps.lift fun kindName hkindName => hkindName).bind fun kindName hkindName => ?_
  refine keeps_describe rule ?_ hstarted
  obtain ⟨hash, hhash, rfl⟩ := map_eq_ok.mp hoperation
  obtain ⟨safe, hsafeKind, rfl⟩ := map_eq_ok.mp hkindName
  have hkindLabel : labelOk (if safe = java "redacted" then java "tool" else safe) := by
    split_ifs
    · exact rule.constant "tool" (by simp)
    · exact hlabel _ hsafeKind
  have hid := entryAsked_label rule (show PlainKey "toolCallId" by decide)
    (rule.operation hash (isHash_of_digest hhash))
  have htool := entryAsked_label rule (show PlainKey "toolName" by decide) (hlabel _ hsafe)
  have hkindEntry := entryAsked_label rule (show PlainKey "toolKind" by decide) hkindLabel
  have hstatus := entryAsked_constant rule (show PlainKey "status" by decide)
    (show "started" ∈ _ by simp)
  exact List.forall_mem_cons.mpr ⟨hid, List.forall_mem_cons.mpr ⟨htool,
    List.forall_mem_cons.mpr ⟨hkindEntry, List.forall_mem_singleton.mpr hstatus⟩⟩⟩

lemma keeps_endTool :
    KeepsShaped normalizer labelOk keyOk turn (endTool normalizer rawKey) := by
  refine keeps_findBlock.bind fun found _ => ?_
  have hstatus : EntryAsked labelOk keyOk ("status", .text (java "completed")) :=
    entryAsked_constant rule (by decide) (by simp)
  have hmark : Keeps normalizer labelOk keyOk turn (markCompleted normalizer found)
      fun _ => True := by
    cases found with
    | none => exact Keeps.pure trivial
    | some entry => exact keeps_putMetadata rule hstatus
  exact hmark.bind fun _ _ => keeps_endBlock

end

lemma keeps_allocateTool (found : Option (JavaString × ItemAccumulator)) :
    KeepsShaped normalizer labelOk keyOk turn (allocateTool normalizer rawKey found) := by
  cases found with
  | some entry => exact Keeps.pure shaped_nil
  | none =>
    simp only [allocateTool]
    split_ifs <;> exact keeps_startBlock (by decide) (titleFits_constant (by decide))

lemma Fits.markRedacted (h : Fits normalizer labelOk keyOk turn context) :
    Fits normalizer labelOk keyOk turn (Context.markRedacted context key) := by
  rw [Context.markRedacted]
  cases hlookup : context.items.lookup key with
  | none => exact h
  | some item =>
    have hitem := h.lookup hlookup
    exact h.setItem ⟨hitem.itemId, hitem.kind, hitem.title, hitem.text, hitem.bytes, hitem.metadata⟩

section

variable (rule : LabelRule normalizer.sha256 labelOk keyOk)
include rule

lemma keeps_appendSafeToolDelta
    (hlimit : normalizer.limits.maxItemTextBytes < maxInteger) {payload : Option JavaString}
    {marker : String} :
    KeepsShaped normalizer labelOk keyOk turn
      (appendSafeToolDelta normalizer rawKey marker payload) := by
  refine keeps_findBlock.bind fun first _ => ?_
  refine (keeps_allocateTool first).bind fun started hstarted => ?_
  refine keeps_findBlock.bind fun found _ => ?_
  rcases found with _ | ⟨key, item⟩
  · exact Keeps.pure hstarted
  refine Keeps.ite (fun _ => Keeps.pure hstarted) fun _ => ?_
  have hcount : ∀ bytes : ℕ, EntryAsked labelOk keyOk
      (if isResultKey rawKey then "outputBytes" else "inputBytes", .number bytes) := by
    intro bytes
    split_ifs <;> exact entryAsked_number rule (by decide)
  have hredact : KeepsShaped normalizer labelOk keyOk turn
      (redactPayload normalizer rawKey key item.redactionMarkerAdded marker payload) := by
    refine (Keeps.lift fun _ _ => trivial).bind fun bytes _ => ?_
    refine (keeps_putMetadata rule (hcount bytes)).bind fun _ _ => ?_
    refine Keeps.ite (fun _ => Keeps.pure shaped_nil) fun _ => ?_
    exact (Keeps.modify fun _ h => h.markRedacted).bind fun _ _ => keeps_appendBlock hlimit
  exact hredact.bind fun events hevents => Keeps.pure (hstarted.append hevents)

lemma keeps_normalizeApproval {toolCount : ℕ} :
    KeepsShaped normalizer labelOk keyOk turn (normalizeApproval normalizer toolCount) := by
  refine (keeps_startBlock (by decide) (titleFits_constant (by decide))).bind fun started hstarted =>
    ?_
  refine (Keeps.lift fun _ _ => trivial).bind fun key _ => ?_
  refine keeps_describe rule ?_ hstarted
  have hcount := entryAsked_number rule (n := toolCount) (show PlainKey "toolCount" by decide)
  have haction : EntryAsked labelOk keyOk ("requiresUserAction", .bool true) :=
    ⟨rule.key "requiresUserAction" (by decide) (by decide) (by decide), fun _ h => by cases h⟩
  have hstatus := entryAsked_constant rule (show PlainKey "status" by decide)
    (show "waiting" ∈ _ by simp)
  exact List.forall_mem_cons.mpr ⟨hcount, List.forall_mem_cons.mpr ⟨haction,
    List.forall_mem_singleton.mpr hstatus⟩⟩

lemma keeps_normalizeHint
    (hlimit : normalizer.limits.maxItemTextBytes < maxInteger)
    {blockId hintSource hint : Option JavaString}
    (hsource : ∀ v, hintSource = some v → labelOk v) :
    KeepsShaped normalizer labelOk keyOk turn
      (normalizeHint normalizer blockId hintSource hint) := by
  refine (keeps_startBlock (by decide) (titleFits_constant (by decide))).bind fun started hstarted =>
    ?_
  refine (keeps_appendBlock hlimit).bind fun appended happended => ?_
  refine (Keeps.lift fun _ _ => trivial).bind fun key _ => ?_
  refine (Keeps.lift fun source hsafe => rule.identifier _ _ hsource hsafe).bind
    fun source hlabel => ?_
  refine (keeps_putMetadata rule (entryAsked_label rule (by decide) hlabel)).bind fun _ _ => ?_
  refine (Keeps.lift fun _ _ => trivial).bind fun bytes _ => ?_
  refine (keeps_putMetadata rule (entryAsked_number rule (by decide))).bind fun _ _ => ?_
  refine (keeps_putMetadata rule (entryAsked_constant rule (by decide) (by simp))).bind fun _ _ => ?_
  refine (keeps_rewriteStartedItem (hstarted.append happended)).bind fun described hdescribed => ?_
  exact keeps_endBlock.bind fun ended hended => Keeps.pure (hdescribed.append hended)

end

/-! ## Events of AgentScope -/

/-- A text that the provider sends, when it sends one, is fine. -/
abbrev LabelOf (labelOk : JavaString → Prop) (value : Option JavaString) : Prop :=
  ∀ v, value = some v → labelOk v

lemma turnSnapshot_of_fits (h : Fits normalizer labelOk keyOk turn context) (status : String)
    (startedAt : JavaString) :
    turnSnapshot context status startedAt = turnSnapshot turn status startedAt := by
  rw [turnSnapshot, turnSnapshot, h.turnId, h.threadId, h.mode, h.accessMode]

section

variable (rule : LabelRule normalizer.sha256 labelOk keyOk)
include rule

lemma keeps_normalizeAgentStart
    {name : Option JavaString} (hname : LabelOf labelOk name) :
    KeepsShaped normalizer labelOk keyOk turn (normalizeAgentStart normalizer name) := by
  refine Keeps.get.bind fun context hcontext => ?_
  refine Keeps.ite (fun _ => Keeps.pure shaped_nil) fun _ => ?_
  refine (Keeps.modify fun _ h => h.counters).bind fun _ _ => ?_
  refine keeps_base.bind fun params hparams => ?_
  refine keeps_now.bind fun text htext => ?_
  obtain ⟨instant, rfl⟩ := htext
  refine (Keeps.lift fun agent hsafe => hsafe).bind fun agent hsafe => ?_
  refine Keeps.pure (shaped_singleton ?_)
  rw [set_base hparams (by simp), turnSnapshot_of_fits hcontext]
  exact eventShape_of_base hparams
    (.started (rule.identifier _ _ hname hsafe) (isLabel_of_safeIdentifier hsafe))

lemma LabelRule.reply {reply : JavaString}
    (hreply : LabelOf labelOk replyId)
    (hsafe : safeIdentifier normalizer.sha256 replyId = .ok reply) :
    EntryAsked labelOk keyOk ("replyId", .text reply) :=
  entryAsked_label rule (by decide) (rule.identifier _ _ hreply hsafe)

lemma keeps_normalizeModelCallStart
    (hreply : LabelOf labelOk replyId) :
    KeepsShaped normalizer labelOk keyOk turn (normalizeModelCallStart normalizer replyId) := by
  refine (Keeps.lift fun reply hsafe => rule.reply hreply hsafe).bind fun reply hentry => ?_
  refine keeps_commentaryNotice rule (by simp) ?_
  have hphase := entryAsked_constant rule (show PlainKey "phase" by decide)
    (show "start" ∈ _ by simp)
  exact List.forall_mem_cons.mpr ⟨hphase, List.forall_mem_singleton.mpr hentry⟩

end

/-- The counters of a model call are kept under their two keys. -/
abbrev UsageKeys (keyOk : String → Prop) (usage : Option (ℤ × ℤ)) : Prop :=
  usage.isSome = true → keyOk "usageInputTokens" ∧ keyOk "usageOutputTokens"

lemma entryAsked_usage {usage : Option (ℤ × ℤ)} (h : UsageKeys keyOk usage) :
    ∀ entry ∈ usageEntries usage, EntryAsked labelOk keyOk entry := by
  cases usage with
  | none => exact List.forall_mem_nil _
  | some pair =>
    obtain ⟨hinput, houtput⟩ := h rfl
    exact List.forall_mem_cons.mpr ⟨⟨hinput, fun _ ht => by cases ht⟩,
      List.forall_mem_singleton.mpr ⟨houtput, fun _ ht => by cases ht⟩⟩

section

variable (rule : LabelRule normalizer.sha256 labelOk keyOk)
include rule

lemma keeps_normalizeModelCallEnd
    {usage : Option (ℤ × ℤ)} (hreply : LabelOf labelOk replyId) (husage : UsageKeys keyOk usage) :
    KeepsShaped normalizer labelOk keyOk turn (normalizeModelCallEnd normalizer replyId usage) := by
  refine (Keeps.lift fun reply hsafe => rule.reply hreply hsafe).bind fun reply hentry => ?_
  refine keeps_commentaryNotice rule (by simp) ?_
  have hphase := entryAsked_constant rule (show PlainKey "phase" by decide) (show "end" ∈ _ by simp)
  exact List.forall_mem_append.mpr ⟨List.forall_mem_cons.mpr
    ⟨hphase, List.forall_mem_singleton.mpr hentry⟩, entryAsked_usage husage⟩

lemma keeps_normalizeUserConfirmResult
    {confirmed : List (Option Bool)} (hreply : LabelOf labelOk replyId) :
    KeepsShaped normalizer labelOk keyOk turn
      (normalizeUserConfirmResult normalizer replyId confirmed) := by
  refine (Keeps.lift fun reply hsafe => rule.reply hreply hsafe).bind fun reply hentry => ?_
  refine keeps_commentaryNotice rule (by simp) ?_
  have hcount := entryAsked_number rule (n := confirmed.length)
    (show PlainKey "toolCount" by decide)
  have hstatus : EntryAsked labelOk keyOk ("status", .text (java
      (if confirmed.all (· == some true) then "confirmed" else "partial"))) := by
    refine entryAsked_constant rule (by decide) ?_
    split_ifs <;> simp
  exact List.forall_mem_cons.mpr ⟨hentry, List.forall_mem_cons.mpr ⟨hcount,
    List.forall_mem_singleton.mpr hstatus⟩⟩

lemma keeps_normalizeExternalExecutionResult
    {toolCount : ℕ} (hreply : LabelOf labelOk replyId) :
    KeepsShaped normalizer labelOk keyOk turn
      (normalizeExternalExecutionResult normalizer replyId toolCount) := by
  refine (Keeps.lift fun reply hsafe => rule.reply hreply hsafe).bind fun reply hentry => ?_
  refine keeps_commentaryNotice rule (by simp) ?_
  have hcount := entryAsked_number rule (n := toolCount) (show PlainKey "toolCount" by decide)
  have hstatus := entryAsked_constant rule (show PlainKey "status" by decide)
    (show "completed" ∈ _ by simp)
  exact List.forall_mem_cons.mpr ⟨hentry, List.forall_mem_cons.mpr ⟨hcount,
    List.forall_mem_singleton.mpr hstatus⟩⟩

end

lemma keeps_normalizeAgentResult (hlimit : normalizer.limits.maxItemTextBytes < maxInteger)
    {text : Option JavaString} :
    KeepsShaped normalizer labelOk keyOk turn (normalizeAgentResult normalizer text) := by
  refine Keeps.get.bind fun context _ => ?_
  rcases text with _ | _ | ⟨u, units⟩
  · exact Keeps.pure shaped_nil
  · exact Keeps.pure shaped_nil
  refine Keeps.ite (fun _ => Keeps.pure shaped_nil) fun _ => ?_
  refine (keeps_startBlock (by decide) (titleFits_constant (by decide))).bind fun started hstarted =>
    ?_
  refine (keeps_appendBlock hlimit).bind fun appended happended => ?_
  exact keeps_endBlock.bind fun ended hended =>
    Keeps.pure ((hstarted.append happended).append hended)

/-- What an event of AgentScope has to bring so that its labels and keys are fine. -/
def Suits (labelOk : JavaString → Prop) (keyOk : String → Prop) : AgentEvent → Prop
  | .agentStart name => LabelOf labelOk name
  | .modelCallStart replyId => LabelOf labelOk replyId
  | .modelCallEnd replyId usage => LabelOf labelOk replyId ∧ UsageKeys keyOk usage
  | .toolCallStart _ toolCallName => LabelOf labelOk toolCallName
  | .toolResultStart _ toolCallName => LabelOf labelOk toolCallName
  | .userConfirmResult replyId _ => LabelOf labelOk replyId
  | .externalExecutionResult replyId _ => LabelOf labelOk replyId
  | .hintBlock _ hintSource _ => LabelOf labelOk hintSource
  | _ => True

/-- The events that end the turn, with the terminal call that each of them makes. -/
def terminalOf : AgentEvent → Option (String × Option JavaString)
  | .agentEnd => some ("completed", none)
  | .requireExternalExecution => some ("failed", some (java "unsupported_external_execution"))
  | .exceedMaxIters => some ("failed", some (java "max_iterations"))
  | .allToolsDenied => some ("failed", some (java "all_tools_denied"))
  | .requestStop => some ("interrupted", some (java "request_stop"))
  | _ => none

lemma dispatch_terminal {event : AgentEvent} {reason : Option JavaString}
    (h : terminalOf event = some (status, reason)) :
    dispatch normalizer event = terminal normalizer status reason := by
  cases event with
  | agentEnd | requireExternalExecution | exceedMaxIters | allToolsDenied | requestStop =>
    obtain ⟨rfl, rfl⟩ := Prod.mk.inj (Option.some_inj.mp h)
    rfl
  | _ => cases h

/-- **Every event of AgentScope** that does not end the turn is handled within the turn. -/
lemma keeps_dispatch (rule : LabelRule normalizer.sha256 labelOk keyOk)
    (hlimit : normalizer.limits.maxItemTextBytes < maxInteger) {event : AgentEvent}
    (hopen : terminalOf event = none) (hsuits : Suits labelOk keyOk event) :
    KeepsShaped normalizer labelOk keyOk turn (dispatch normalizer event) := by
  cases event with
  | agentStart name => exact keeps_normalizeAgentStart rule hsuits
  | agentResult text => exact keeps_normalizeAgentResult hlimit
  | modelCallStart replyId => exact keeps_normalizeModelCallStart rule hsuits
  | modelCallEnd replyId usage => exact keeps_normalizeModelCallEnd rule hsuits.1 hsuits.2
  | textBlockStart | dataBlockStart =>
    exact keeps_startBlock (by decide) (titleFits_constant (by decide))
  | textBlockDelta | dataBlockDelta => exact keeps_appendBlock hlimit
  | textBlockEnd | dataBlockEnd => exact keeps_endBlock
  | toolCallStart | toolResultStart => exact keeps_startTool rule (by decide) (by simp) hsuits
  | toolCallDelta | toolResultTextDelta | toolResultDataDelta =>
    exact keeps_appendSafeToolDelta rule hlimit
  | toolCallEnd | toolResultEnd => exact keeps_endTool rule
  | requireUserConfirm toolCount => exact keeps_normalizeApproval rule
  | userConfirmResult replyId confirmed => exact keeps_normalizeUserConfirmResult rule hsuits
  | externalExecutionResult replyId toolCount =>
    exact keeps_normalizeExternalExecutionResult rule hsuits
  | hintBlock blockId hintSource hint => exact keeps_normalizeHint rule hlimit hsuits
  | thinkingBlock | other => exact Keeps.pure shaped_nil
  | agentEnd | requireExternalExecution | exceedMaxIters | allToolsDenied | requestStop =>
    cases hopen

/-! ## Terminal events -/

/-- The context of a turn after its end. -/
def Context.close (turn : Context) : Context := { turn with terminal := true }

lemma Payload.of_close (h : Payload normalizer labelOk keyOk turn.close method payload) :
    Payload normalizer labelOk keyOk turn method payload := by
  cases h with
  | started hagent hlabel => exact .started hagent hlabel
  | item hmethod hitem hnode => exact .item hmethod hitem hnode
  | delta hitem hbytes hlimit => exact .delta hitem hbytes hlimit
  | completed hstatus hreason => exact .completed hstatus hreason
  | compact hstatus hreason => exact .compact hstatus hreason
  | requested hprompt hnode => exact .requested hprompt hnode
  | resolved hprompt hid hknown => exact .resolved hprompt hid hknown

lemma Shaped.of_close (h : Shaped normalizer labelOk keyOk turn.close events) :
    Shaped normalizer labelOk keyOk turn events := by
  intro event hevent
  obtain ⟨seq, hash, occurredAt, payload, hhash, hpayload, hparams⟩ := h event hevent
  exact ⟨seq, hash, occurredAt, payload, hhash, hpayload.of_close, hparams⟩

lemma Fits.close (h : Fits normalizer labelOk keyOk turn context) :
    Fits normalizer labelOk keyOk turn.close { context with terminal := true } :=
  ⟨h.threadId, h.turnId, h.mode, h.accessMode, rfl, h.items⟩

lemma mem_terminalStatus (status : String) :
    terminalStatus status ∈ ["completed", "failed", "interrupted"] := by
  rw [terminalStatus]
  split_ifs <;> simp

lemma mem_terminalReason (reason : Option JavaString) :
    terminalReason reason ∈ "" :: terminalReasons := by
  cases reason with
  | none => simp [terminalReason]
  | some value =>
    rw [terminalReason]
    split_ifs
    · simp
    · cases hfind : terminalReasons.find? fun reason => java reason == value with
      | none => exact List.mem_cons_of_mem _ (by decide)
      | some found => exact List.mem_cons_of_mem _ (List.mem_of_find?_eq_some hfind)

lemma keeps_closeItem (hstatus : status ∈ ["completed", "failed", "interrupted"]) (key : JavaString) :
    KeepsShaped normalizer labelOk keyOk turn (closeItem normalizer status key) := by
  refine Keeps.get.bind fun context hcontext => ?_
  cases hlookup : context.items.lookup key with
  | none => exact Keeps.pure shaped_nil
  | some item =>
    have hclosed := (hcontext.lookup hlookup).ended
    refine Keeps.ite (fun _ => Keeps.pure shaped_nil) fun _ => ?_
    refine (Keeps.modify fun _ h => h.setItem hclosed).bind fun _ _ => ?_
    exact (keeps_itemEvent (Or.inr ⟨rfl, hstatus⟩) hclosed).bind fun event hevent =>
      Keeps.pure (shaped_singleton hevent)

lemma keeps_closeItems (hstatus : status ∈ ["completed", "failed", "interrupted"])
    (keys : List JavaString) :
    KeepsShaped normalizer labelOk keyOk turn (closeItems normalizer status keys) := by
  induction keys with
  | nil => exact Keeps.pure shaped_nil
  | cons key keys ih =>
    refine (keeps_closeItem hstatus key).bind fun event hevent => ?_
    exact ih.bind fun events hevents => Keeps.pure (hevent.append hevents)

lemma terminalStatus_idem (h : status ∈ ["completed", "failed", "interrupted"]) :
    terminalStatus status = status := by
  simp only [List.mem_cons, List.not_mem_nil, or_false] at h
  rcases h with rfl | rfl | rfl <;> rfl

/-- The events have the end of the turn among them. -/
def Ended (events : List TurnEvent) : Prop := ∃ event ∈ events, event.method = "turn/completed"

lemma keeps_compactTerminal {reason : String}
    (hstatus : status ∈ ["completed", "failed", "interrupted"])
    (hreason : reason ∈ "" :: terminalReasons) :
    Keeps normalizer labelOk keyOk turn (compactTerminal normalizer status reason)
      fun event => EventShape normalizer labelOk keyOk turn event ∧
        event.method = "turn/completed" := by
  refine keeps_base.bind fun params hparams => ?_
  refine Keeps.get.bind fun context hcontext => ?_
  refine (Keeps.lift fun _ _ => trivial).bind fun bytes _ => ?_
  refine Keeps.ite (fun _ => Keeps.overBudget) fun _ => Keeps.pure ?_
  rw [set_base hparams (by simp), terminalStatus_idem hstatus]
  have hturn : compactTurn context status reason = compactTurn turn status reason := by
    rw [compactTurn, compactTurn, hcontext.turnId, hcontext.threadId]
  rw [hturn]
  exact ⟨eventShape_of_base hparams (.compact hstatus hreason), rfl⟩

lemma keeps_compactOversized {reason : String}
    (hstatus : status ∈ ["completed", "failed", "interrupted"])
    (hreason : reason ∈ "" :: terminalReasons)
    (h : Shaped normalizer labelOk keyOk turn events ∧ Ended events) :
    Keeps normalizer labelOk keyOk turn (compactOversized normalizer status reason events)
      fun events => Shaped normalizer labelOk keyOk turn events ∧ Ended events := by
  refine (Keeps.lift fun _ _ => trivial).bind fun oversized _ => ?_
  refine Keeps.ite (fun _ => ?_) fun _ => Keeps.pure h
  exact (keeps_compactTerminal hstatus hreason).bind fun event hevent =>
    Keeps.pure ⟨shaped_singleton hevent.1, event, List.mem_singleton_self _, hevent.2⟩

lemma eventShape_terminalTurn (status : String) (reason : Option JavaString)
    (completedAt : InstantText) (hparams : BaseShape normalizer turn params)
    (hcontext : Fits normalizer labelOk keyOk turn context) :
    EventShape normalizer labelOk keyOk turn ⟨"turn/completed", ObjectNode.set (java "turn")
      (.object (terminalTurn context (terminalStatus status) (terminalReason reason)
        completedAt.val)) params⟩ := by
  have hturn : terminalTurn context (terminalStatus status) (terminalReason reason)
      completedAt.val =
      terminalTurn turn (terminalStatus status) (terminalReason reason) completedAt.val := by
    rw [terminalTurn, terminalTurn, hcontext.turnId, hcontext.threadId, hcontext.mode,
      hcontext.accessMode]
  rw [set_base hparams (by simp), hturn]
  exact eventShape_of_base hparams
    (.completed (mem_terminalStatus status) (mem_terminalReason reason))

lemma ensures_closeTurn {reason : Option JavaString} :
    Ensures (Fits normalizer labelOk keyOk turn) (closeTurn normalizer status reason)
      (fun events context => Fits normalizer labelOk keyOk turn.close context ∧
        Shaped normalizer labelOk keyOk turn events ∧ Ended events ∧
        ∀ event ∈ events, WithinLimit normalizer event)
      (Fits normalizer labelOk keyOk turn.close) := by
  have hflag : Ensures (ε := NormalizeFailure) (Fits normalizer labelOk keyOk turn)
      (modify fun context : Context => { context with terminal := true })
      (fun _ => Fits normalizer labelOk keyOk turn.close)
      (Fits normalizer labelOk keyOk turn.close) := Ensures.modify fun _ h => h.close
  refine Ensures.bind hflag fun _ => ?_
  refine Ensures.weaken (Q := fun events context =>
    Fits normalizer labelOk keyOk turn.close context ∧
      (Shaped normalizer labelOk keyOk turn.close events ∧ Ended events) ∧
        ∀ event ∈ events, WithinLimit normalizer event) ?_
    fun _ _ h => ⟨h.1, h.2.1.1.of_close, h.2.1.2, h.2.2⟩
  refine Keeps.get.bind fun context _ => ?_
  refine (keeps_closeItems (mem_terminalStatus status) _).bind fun closed hclosed => ?_
  refine keeps_base.bind fun params hparams => ?_
  refine keeps_now.bind fun text htext => ?_
  obtain ⟨instant, rfl⟩ := htext
  refine Keeps.get.bind fun last hlast => ?_
  refine (keeps_compactOversized (mem_terminalStatus status) (mem_terminalReason reason)
    ⟨hclosed.append (shaped_singleton (eventShape_terminalTurn _ _ _ hparams hlast)), _,
      List.mem_append_right _ (List.mem_singleton_self _), rfl⟩).bind fun events hevents => ?_
  exact keeps_enforce hevents

end Keeping

end JaDesktop.Sidecar
