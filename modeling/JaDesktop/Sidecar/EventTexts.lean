import JaDesktop.Sidecar.EventKeeping

/-!
# The texts of the events

A search through the parameters of an event, for keys and for texts that must not be there, finds
nothing when the search passes over everything that the normalizer puts into an event: its field
names, its fixed texts, identifiers, digests and instants, and what the provider's labels were
found to be (`CleanRule`).  The texts of items and deltas are free, and are asked about themselves.
-/

namespace JaDesktop.Sidecar

open EventNormalizerPolicy EventNormalizer

/-! ## Free texts -/

/-- The text of a field, when the field has one. -/
def textsAt (name : String) (fields : ObjectNode) : List JavaString :=
  match ObjectNode.get (java name) fields with
  | some (.string text) => [text]
  | _ => []

/-- The texts of an item that an event carries. -/
def itemTexts (params : ObjectNode) : List JavaString :=
  match ObjectNode.get (java "item") params with
  | some (.object fields) => textsAt "text" fields
  | _ => []

/-- The texts that the normalizer takes as they come: of deltas and of snapshots. -/
def TurnEvent.freeTexts (event : TurnEvent) : List JavaString :=
  textsAt "delta" event.params ++ itemTexts event.params

/-! ## Searches -/

/-- The names of the fields of events. -/
def eventFields : List String :=
  ["serverInstanceId", "threadId", "turnId", "seq", "eventId", "occurredAt", "item", "itemId",
    "kind", "status", "title", "text", "metadata", "delta", "deltaBytes", "hidden", "turn", "mode",
    "accessMode", "startedAt", "agent", "terminalStatus", "reason", "completedAt", "approval",
    "approvalId", "action", "command", "cwd", "relativePaths", "risk", "expiresAt", "decision",
    "resolvedAt"]

/-- The fixed texts of events. -/
def eventTexts : List String :=
  ["", "started", "running", "completed", "failed", "interrupted", "agent_message", "commentary",
    "tool_call", "command", "approval"] ++ terminalReasons ++ knownDecisions

/-- A search that passes over everything that the normalizer puts into an event. -/
structure CleanRule (labelOk : JavaString → Prop) (keyOk : String → Prop) (turn : Context)
    (badKey badText : JavaString → Bool) : Prop where
  field : ∀ name ∈ eventFields, badKey (java name) = false
  metadata : ∀ name ∈ safeMetadataKeys, keyOk name → badKey (java name) = false
  constant : ∀ text ∈ eventTexts, badText (java text) = false
  id : ∀ head ∈ ["srv_", "thr_", "turn_"], ∀ s, matchesHeadTail head s = true → badText s = false
  hash : ∀ head ∈ ["evt_as_", "item_as_"], ∀ hash, IsHash hash → badText (java head ++ hash) = false
  instant : ∀ instant : InstantText, badText instant.val = false
  title : ∀ title text, TitleFits title → EventNormalizerPolicy.bounded (some title) = .ok text →
    badText text = false
  label : ∀ label, labelOk label → IsLabel label → badText label = false
  bounded : ∀ value text, labelOk value →
    EventNormalizerPolicy.bounded (some value) = .ok text → badText text = false
  mode : badText turn.mode = false
  accessMode : badText turn.accessMode = false

section Clean

variable {normalizer : EventNormalizer} {labelOk : JavaString → Prop} {keyOk : String → Prop}
  {turn : Context} {badKey badText : JavaString → Bool}

/-- Nothing is found in a field. -/
abbrev CleanField (badKey badText : JavaString → Bool) (field : JavaString × JsonNode) : Prop :=
  badKey field.1 = false ∧ field.2.anyMark badKey badText = false

variable {fields : ObjectNode} {name method status reason : String} {node : JsonNode} {seq : Int64}

lemma clean_object :
    (Json.object fields : JsonNode).anyMark badKey badText = false ↔
      ∀ field ∈ fields, CleanField badKey badText field := Json.not_anyMark_object

lemma CleanRule.named (rule : CleanRule labelOk keyOk turn badKey badText)
    (hname : name ∈ eventFields) (hnode : node.anyMark badKey badText = false) :
    CleanField badKey badText (java name, node) := ⟨rule.field name hname, hnode⟩

lemma clean_baseFields (rule : CleanRule labelOk keyOk turn badKey badText) {hash : JavaString}
    {occurredAt : InstantText} (hhash : IsHash hash) :
    ∀ field ∈ baseFields normalizer turn seq (java "evt_as_" ++ hash) occurredAt.val,
      CleanField badKey badText field := by
  have hserver := rule.id "srv_" (by simp) _ normalizer.serverInstanceId.2
  have hthread := rule.id "thr_" (by simp) _ turn.threadId.2
  have hturn := rule.id "turn_" (by simp) _ turn.turnId.2
  have hevent := rule.hash "evt_as_" (by simp) hash hhash
  simp only [baseFields, List.forall_mem_cons]
  exact ⟨rule.named (by decide) hserver, rule.named (by decide) hthread,
    rule.named (by decide) hturn, rule.named (by decide) rfl, rule.named (by decide) hevent,
    rule.named (by decide) (rule.instant _), List.forall_mem_nil _⟩

/-! ## Snapshots -/

lemma clean_metadata (rule : CleanRule labelOk keyOk turn badKey badText)
    {entries : List (String × MetadataValue)} (h : ∀ entry ∈ entries, EntryFits labelOk keyOk entry)
    (hfields : entries.mapM metadataField = .ok fields) :
    ∀ field ∈ fields, CleanField badKey badText field := by
  induction entries generalizing fields with
  | nil =>
    obtain rfl := Except.ok.inj hfields
    exact List.forall_mem_nil _
  | cons entry entries ih =>
    rw [List.mapM_cons] at hfields
    obtain ⟨field, hfield, hfields⟩ := bind_eq_ok.mp hfields
    obtain ⟨rest, hrest, hfields⟩ := bind_eq_ok.mp hfields
    obtain rfl := Except.ok.inj hfields
    obtain ⟨hentry, hentries⟩ := List.forall_mem_cons.mp h
    refine List.forall_mem_cons.mpr ⟨?_, ih hentries hrest⟩
    obtain ⟨node, hnode, rfl⟩ := map_eq_ok.mp hfield
    refine ⟨rule.metadata _ hentry.known hentry.key, ?_⟩
    cases hvalue : entry.2 with
    | number n =>
      rw [hvalue] at hnode
      obtain rfl := Except.ok.inj hnode
      rfl
    | bool b =>
      rw [hvalue] at hnode
      obtain rfl := Except.ok.inj hnode
      rfl
    | text s =>
      rw [hvalue] at hnode
      obtain ⟨text, htext, rfl⟩ := map_eq_ok.mp hnode
      exact rule.bounded _ _ (hentry.label s hvalue).1 htext

lemma mem_freeTexts_item {params head metadata : ObjectNode} {item : ItemAccumulator}
    (hparams : ObjectNode.get (java "item") params =
      some (.object (head ++ snapshotTail item metadata)))
    (hhead : ObjectNode.get (java "text") head = none) (hvisible : item.hidden = false) :
    item.text ∈ (TurnEvent.mk method params).freeTexts := by
  have hget : ObjectNode.get (java "text") (head ++ snapshotTail item metadata) =
      some (.string item.text) := by
    rw [ObjectNode.get] at hhead ⊢
    rw [List.lookup_append, hhead, Option.none_or, snapshotTail, if_neg (by simp [hvisible])]
    simp
  rw [TurnEvent.freeTexts, itemTexts, hparams, List.mem_append]
  right
  show item.text ∈ textsAt "text" (head ++ snapshotTail item metadata)
  rw [textsAt, hget]
  exact List.mem_singleton_self _

/-- **A snapshot** of an item that fits is clean when its text is. -/
lemma clean_snapshot (rule : CleanRule labelOk keyOk turn badKey badText) {item : ItemAccumulator}
    (hitem : ItemFits normalizer labelOk keyOk item)
    (hstatus : status ∈ ["started", "completed", "failed", "interrupted"])
    (hnode : snapshot turn.turnId item status = .ok node) {params : ObjectNode}
    (hparams : ObjectNode.get (java "item") params = some node)
    (hfree : ∀ s : String, java s ∈ (TurnEvent.mk method params).freeTexts →
      badText (java s) = false) :
    node.anyMark badKey badText = false := by
  obtain ⟨title, htitle, hnode⟩ := bind_eq_ok.mp hnode
  obtain ⟨metadata, hmetadata, hnode⟩ := bind_eq_ok.mp hnode
  obtain rfl := Except.ok.inj hnode
  obtain ⟨hash, hhash, hid⟩ := hitem.itemId
  have hidText : badText item.itemId = false := by
    rw [hid]
    exact rule.hash "item_as_" (by simp) hash hhash
  have hkind : badText (lowerAscii (java item.kind.name)) = false := by
    have hall : ∀ kind ∈ itemKinds, ∃ text ∈ eventTexts, lowerAscii (java kind.name) = java text := by
      decide
    obtain ⟨text, htext, heq⟩ := hall _ hitem.kind
    rw [heq]
    exact rule.constant text htext
  have hstatusText : badText (java status) = false := by
    refine rule.constant status ?_
    revert hstatus
    simp only [List.mem_cons, List.not_mem_nil, or_false]
    rintro (rfl | rfl | rfl | rfl) <;> decide
  have htext : item.hidden = false → badText item.text = false := by
    intro hvisible
    have hmem : item.text ∈ (TurnEvent.mk method params).freeTexts :=
      mem_freeTexts_item hparams (by simp [ObjectNode.get_java_cons]) hvisible
    obtain ⟨s, hs, -⟩ := hitem.text
    rw [hs] at hmem ⊢
    exact hfree s hmem
  rw [clean_object, List.forall_mem_append]
  constructor
  · simp only [List.forall_mem_cons]
    exact ⟨rule.named (by decide) hidText,
      rule.named (by decide) (rule.id "turn_" (by simp) _ turn.turnId.2),
      rule.named (by decide) hkind, rule.named (by decide) hstatusText,
      rule.named (by decide) (rule.title _ _ hitem.title htitle), List.forall_mem_nil _⟩
  · rw [snapshotTail, List.forall_mem_append]
    constructor
    · split_ifs with hhidden
      · exact List.forall_mem_nil _
      · exact List.forall_mem_singleton.mpr
          (rule.named (by decide) (htext (Bool.eq_false_iff.mpr hhidden)))
    · split_ifs
      · exact List.forall_mem_nil _
      · exact List.forall_mem_singleton.mpr (rule.named (by decide)
          (clean_object.mpr (clean_metadata rule hitem.metadata hmetadata)))

/-! ## Turns -/

lemma clean_turnSnapshot (rule : CleanRule labelOk keyOk turn badKey badText)
    {startedAt : InstantText} {agent : JavaString} (hagent : labelOk agent)
    (hlabel : IsLabel agent) :
    (Json.object (turnSnapshot turn "running" startedAt.val ++
      [(java "agent", .string agent)]) : JsonNode).anyMark badKey badText = false := by
  rw [clean_object, List.forall_mem_append]
  constructor
  · simp only [turnSnapshot, List.forall_mem_cons]
    exact ⟨rule.named (by decide) (rule.id "turn_" (by simp) _ turn.turnId.2),
      rule.named (by decide) (rule.id "thr_" (by simp) _ turn.threadId.2),
      rule.named (by decide) (rule.constant "running" (by decide)),
      rule.named (by decide) rule.mode, rule.named (by decide) rule.accessMode,
      rule.named (by decide) (rule.instant _), List.forall_mem_nil _⟩
  · exact List.forall_mem_singleton.mpr
      (rule.named (by decide) (rule.label agent hagent hlabel))

lemma mem_eventTexts_status (h : status ∈ ["completed", "failed", "interrupted"]) :
    status ∈ eventTexts := by
  simp only [List.mem_cons, List.not_mem_nil, or_false] at h
  rcases h with rfl | rfl | rfl <;> decide

lemma mem_eventTexts_reason (h : reason ∈ "" :: terminalReasons) :
    reason ∈ eventTexts := by
  rcases List.mem_cons.mp h with rfl | h
  · decide
  · exact List.mem_append_left _ (List.mem_append_right _ h)

section

variable (rule : CleanRule labelOk keyOk turn badKey badText)

include rule

lemma clean_reasonField (h : reason ∈ "" :: terminalReasons) :
    ∀ field ∈ reasonField reason, CleanField badKey badText field := by
  rw [reasonField]
  split_ifs
  · exact List.forall_mem_nil _
  · exact List.forall_mem_singleton.mpr
      (rule.named (by decide) (rule.constant reason (mem_eventTexts_reason h)))

lemma clean_compactTurn (hstatus : status ∈ ["completed", "failed", "interrupted"])
    (hreason : reason ∈ "" :: terminalReasons) :
    (Json.object (compactTurn turn status reason) : JsonNode).anyMark badKey badText = false := by
  have hstatusText := rule.constant status (mem_eventTexts_status hstatus)
  rw [clean_object, compactTurn, List.forall_mem_append]
  refine ⟨?_, clean_reasonField rule hreason⟩
  simp only [List.forall_mem_cons]
  exact ⟨rule.named (by decide) (rule.id "turn_" (by simp) _ turn.turnId.2),
    rule.named (by decide) (rule.id "thr_" (by simp) _ turn.threadId.2),
    rule.named (by decide) hstatusText, rule.named (by decide) hstatusText, List.forall_mem_nil _⟩

lemma clean_terminalTurn {completedAt : InstantText}
    (hstatus : status ∈ ["completed", "failed", "interrupted"])
    (hreason : reason ∈ "" :: terminalReasons) :
    (Json.object (terminalTurn turn status reason completedAt.val) : JsonNode).anyMark
      badKey badText = false := by
  have hstatusText := rule.constant status (mem_eventTexts_status hstatus)
  rw [clean_object, terminalTurn, List.forall_mem_append, List.forall_mem_append]
  refine ⟨?_, clean_reasonField rule hreason, ?_⟩
  · simp only [List.forall_mem_cons]
    exact ⟨rule.named (by decide) (rule.id "turn_" (by simp) _ turn.turnId.2),
      rule.named (by decide) (rule.id "thr_" (by simp) _ turn.threadId.2),
      rule.named (by decide) hstatusText, rule.named (by decide) hstatusText,
      rule.named (by decide) rule.mode, rule.named (by decide) rule.accessMode,
      List.forall_mem_nil _⟩
  · exact List.forall_mem_singleton.mpr (rule.named (by decide) (rule.instant _))

/-! ## Approvals -/

lemma clean_boundedField {value : JavaString} {field : JavaString × JsonNode}
    (hname : name ∈ eventFields) (hvalue : labelOk value)
    (hfield : boundedField name value = .ok field) :
    CleanField badKey badText field := by
  obtain ⟨text, htext, rfl⟩ := map_eq_ok.mp hfield
  exact rule.named hname (rule.bounded _ _ hvalue htext)

lemma clean_visibleField {value : Option JavaString} (hname : name ∈ eventFields)
    (hvalue : ∀ v ∈ value.toList, labelOk v) (hfields : visibleField name value = .ok fields) :
    ∀ field ∈ fields, CleanField badKey badText field := by
  cases value with
  | none =>
    obtain rfl := Except.ok.inj hfields
    exact List.forall_mem_nil _
  | some value =>
    rw [visibleField] at hfields
    split_ifs at hfields
    · obtain rfl := Except.ok.inj hfields
      exact List.forall_mem_nil _
    · obtain ⟨field, hfield, rfl⟩ := map_eq_ok.mp hfields
      exact List.forall_mem_singleton.mpr
        (clean_boundedField rule hname (hvalue value (by simp)) hfield)

lemma clean_pathNodes {paths : List JavaString} {nodes : List JsonNode}
    (hpaths : ∀ path ∈ paths, labelOk path) (hnodes : (paths.mapM fun path =>
      (EventNormalizerPolicy.bounded (some path)).map Json.string) = .ok nodes) :
    ∀ node ∈ nodes, node.anyMark badKey badText = false := by
  induction paths generalizing nodes with
  | nil =>
    obtain rfl := Except.ok.inj hnodes
    exact List.forall_mem_nil _
  | cons path paths ih =>
    rw [List.mapM_cons] at hnodes
    obtain ⟨node, hnode, hnodes⟩ := bind_eq_ok.mp hnodes
    obtain ⟨rest, hrest, hnodes⟩ := bind_eq_ok.mp hnodes
    obtain rfl := Except.ok.inj hnodes
    obtain ⟨hpath, hpaths⟩ := List.forall_mem_cons.mp hpaths
    refine List.forall_mem_cons.mpr ⟨?_, ih hpaths hrest⟩
    obtain ⟨text, htext, rfl⟩ := map_eq_ok.mp hnode
    exact rule.bounded _ _ hpath htext

lemma clean_pathsField {paths : List JavaString} (hpaths : ∀ path ∈ paths, labelOk path)
    (hfields : pathsField paths = .ok fields) :
    ∀ field ∈ fields, CleanField badKey badText field := by
  rw [pathsField] at hfields
  split_ifs at hfields
  · obtain rfl := Except.ok.inj hfields
    exact List.forall_mem_nil _
  · obtain ⟨nodes, hnodes, rfl⟩ := map_eq_ok.mp hfields
    refine List.forall_mem_singleton.mpr (rule.named (by decide) (Json.not_anyMark_array.mpr ?_))
    exact clean_pathNodes rule (fun path hpath => hpaths path (List.mem_of_mem_take hpath)) hnodes

lemma clean_approvalSummary {prompt : ApprovalPrompt}
    (hprompt : ∀ text ∈ prompt.texts, labelOk text) (hnode : approvalSummary prompt = .ok node) :
    node.anyMark badKey badText = false := by
  simp only [ApprovalPrompt.texts, List.forall_mem_append, List.forall_mem_cons] at hprompt
  obtain ⟨⟨⟨⟨hid, hthread, hturn, hitem, hkind, hrisk, haccess, -⟩, hcommand⟩, hcwd⟩, hpaths⟩ :=
    hprompt
  obtain ⟨id, hidField, hnode⟩ := bind_eq_ok.mp hnode
  obtain ⟨thread, hthreadField, hnode⟩ := bind_eq_ok.mp hnode
  obtain ⟨turnField, hturnField, hnode⟩ := bind_eq_ok.mp hnode
  obtain ⟨item, hitemField, hnode⟩ := bind_eq_ok.mp hnode
  obtain ⟨kind, hkindField, hnode⟩ := bind_eq_ok.mp hnode
  obtain ⟨command, hcommandField, hnode⟩ := bind_eq_ok.mp hnode
  obtain ⟨cwd, hcwdField, hnode⟩ := bind_eq_ok.mp hnode
  obtain ⟨paths, hpathsField, hnode⟩ := bind_eq_ok.mp hnode
  obtain ⟨risk, hriskField, hnode⟩ := bind_eq_ok.mp hnode
  obtain ⟨access, haccessField, hnode⟩ := bind_eq_ok.mp hnode
  obtain rfl := Except.ok.inj hnode
  have haction : (Json.object (kind :: (command ++ cwd ++ paths)) : JsonNode).anyMark
      badKey badText = false := by
    rw [clean_object, List.forall_mem_cons, List.forall_mem_append,
      List.forall_mem_append]
    exact ⟨clean_boundedField rule (by decide) hkind hkindField,
      ⟨clean_visibleField rule (by decide) hcommand hcommandField,
        clean_visibleField rule (by decide) hcwd hcwdField⟩,
      clean_pathsField rule hpaths hpathsField⟩
  rw [clean_object]
  simp only [List.forall_mem_cons]
  exact ⟨clean_boundedField rule (by decide) hid hidField,
    clean_boundedField rule (by decide) hthread hthreadField,
    clean_boundedField rule (by decide) hturn hturnField,
    clean_boundedField rule (by decide) hitem hitemField, rule.named (by decide) haction,
    clean_boundedField rule (by decide) hrisk hriskField,
    clean_boundedField rule (by decide) haccess haccessField,
    rule.named (by decide) (rule.instant _), List.forall_mem_nil _⟩

end

/-! ## Events -/

lemma mem_freeTexts_delta {eventId occurredAt itemId text : JavaString} {bytes : ℕ} :
    text ∈ (TurnEvent.mk "item/delta" (baseFields normalizer turn seq eventId occurredAt ++
      deltaFields itemId text false bytes)).freeTexts := by
  rw [TurnEvent.freeTexts, List.mem_append]
  left
  have hget : ObjectNode.get (java "delta") (baseFields normalizer turn seq eventId occurredAt ++
      deltaFields itemId text false bytes) = some (.string text) := by
    simp [ObjectNode.get_java_cons, baseFields, deltaFields]
  rw [textsAt, hget]
  exact List.mem_singleton_self _

lemma clean_payload (rule : CleanRule labelOk keyOk turn badKey badText) {eventId : JavaString}
    {occurredAt : InstantText} {payload : ObjectNode}
    (hpayload : Payload normalizer labelOk keyOk turn method payload)
    (hfree : ∀ s : String, java s ∈ (TurnEvent.mk method (baseFields normalizer turn seq eventId
      occurredAt.val ++ payload)).freeTexts → badText (java s) = false) :
    ∀ field ∈ payload, CleanField badKey badText field := by
  cases hpayload with
  | started hagent hlabel =>
    exact List.forall_mem_singleton.mpr
      (rule.named (by decide) (clean_turnSnapshot rule hagent hlabel))
  | @item _ status item node hmethod hitem hnode =>
    have hstatus : status ∈ ["started", "completed", "failed", "interrupted"] := by
      rcases hmethod with ⟨-, rfl⟩ | ⟨-, h⟩
      · simp
      · exact List.mem_cons_of_mem _ h
    refine List.forall_mem_singleton.mpr (rule.named (by decide) ?_)
    exact clean_snapshot rule hitem hstatus hnode (by simp [ObjectNode.get_java_cons, baseFields]) hfree
  | @delta item s hidden bytes hitem hbytes hlimit =>
    obtain ⟨hash, hhash, hid⟩ := hitem.itemId
    have hidText : badText item.itemId = false := by
      rw [hid]
      exact rule.hash "item_as_" (by simp) hash hhash
    cases hidden with
    | true =>
      simp only [deltaFields, if_true, List.cons_append, List.nil_append, List.forall_mem_cons]
      exact ⟨rule.named (by decide) hidText,
        rule.named (by decide) (rule.constant "" (by decide)), rule.named (by decide) rfl,
        rule.named (by decide) rfl, List.forall_mem_nil _⟩
    | false =>
      have hdelta := hfree _ mem_freeTexts_delta
      simp only [deltaFields, Bool.false_eq_true, if_false, List.append_nil, List.forall_mem_cons]
      exact ⟨rule.named (by decide) hidText, rule.named (by decide) hdelta,
        rule.named (by decide) rfl, List.forall_mem_nil _⟩
  | completed hstatus hreason =>
    exact List.forall_mem_singleton.mpr
      (rule.named (by decide) (clean_terminalTurn rule hstatus hreason))
  | compact hstatus hreason =>
    exact List.forall_mem_singleton.mpr
      (rule.named (by decide) (clean_compactTurn rule hstatus hreason))
  | requested hprompt hnode =>
    exact List.forall_mem_singleton.mpr
      (rule.named (by decide) (clean_approvalSummary rule hprompt hnode))
  | @resolved prompt decision approvalId hprompt hid hknown =>
    obtain ⟨known, hmem, hknown⟩ := hknown
    have hdecision : badText decision.decision = false := by
      rw [← hknown]
      exact rule.constant known (List.mem_append_right _ hmem)
    simp only [List.forall_mem_cons]
    exact ⟨clean_boundedField rule (by decide) (hprompt _ (by simp [ApprovalPrompt.texts])) hid,
      rule.named (by decide) hdecision, rule.named (by decide) (rule.instant _),
      List.forall_mem_nil _⟩

/-- **An event is clean** when its free texts are. -/
theorem clean_event (rule : CleanRule labelOk keyOk turn badKey badText) {event : TurnEvent}
    (h : EventShape normalizer labelOk keyOk turn event)
    (hfree : ∀ s : String, java s ∈ event.freeTexts → badText (java s) = false) :
    (Json.object event.params : JsonNode).anyMark badKey badText = false := by
  obtain ⟨seq, hash, occurredAt, payload, hhash, hpayload, hparams⟩ := h
  obtain ⟨method, params⟩ := event
  subst hparams
  rw [clean_object, List.forall_mem_append]
  exact ⟨clean_baseFields rule hhash, clean_payload rule hpayload hfree⟩

end Clean

end JaDesktop.Sidecar
