import JaDesktop.Sidecar.EventNormalizer

/-!
# The shapes of the events

Every event that the normalizer hands out is its base fields and one of a few payloads, and every
item of a context keeps to the bounds of its limits.  What the identifiers and the keys of metadata
may be is left open: `labelOk` and `keyOk` are predicates that the policy preserves (`LabelRule`), and
`Suits` says which events of AgentScope keep them.
-/

namespace JaDesktop.Sidecar

open EventNormalizerPolicy EventNormalizer

/-! ## Labels -/

/-- The digits of a digest. -/
def IsHash (hash : JavaString) : Prop := hash.length = 16 ∧ ∀ u ∈ hash, isLowerHex u = true

lemma hexDigit_lowerHex {n : ℕ} (h : n < 16) : isLowerHex (hexDigit n) = true := by
  have hall : ∀ n < 16, isLowerHex (hexDigit n) = true := by decide
  exact hall n h

lemma isHash_of_digest {sha256 : Sha256} {value hash : JavaString}
    (h : digest sha256 value = .ok hash) : IsHash hash := by
  rw [digest] at h
  cases hdecode : utf16Decode value with
  | none => simp [hdecode] at h
  | some text =>
    rw [hdecode] at h
    obtain rfl := Except.ok.inj h
    constructor
    · have hlength := (sha256 (asBytes text)).2
      have hsum : ∀ bytes : List UInt8, (bytes.flatMap hexByte).length = 2 * bytes.length := by
        intro bytes
        induction bytes with
        | nil => rfl
        | cons b bytes ih =>
          rw [List.flatMap_cons, List.length_append, ih, hexByte]
          simp only [List.length_cons, List.length_nil]
          omega
      rw [hsum, List.length_take, hlength]
      rfl
    · intro u hu
      obtain ⟨b, -, hb⟩ := List.mem_flatMap.mp hu
      have hlt := b.toNat_lt
      simp only [hexByte, List.mem_cons, List.not_mem_nil, or_false] at hb
      rcases hb with rfl | rfl
      · exact hexDigit_lowerHex (by omega)
      · exact hexDigit_lowerHex (by omega)

/-- A label: one to 128 units of the class of labels. -/
def IsLabel (s : JavaString) : Prop := matchesLabel s = true

lemma isLabelUnit_of_lowerHex {u : UInt16} (h : isLowerHex u = true) : isLabelUnit u = true := by
  simp only [isLowerHex, Bool.or_eq_true, Bool.and_eq_true, decide_eq_true_eq] at h
  simp only [isLabelUnit, isTailUnit, isAlphanumeric, Bool.or_eq_true, Bool.and_eq_true,
    decide_eq_true_eq]
  rcases h with h | ⟨h, h'⟩
  · exact Or.inl (Or.inl (Or.inl (Or.inl (Or.inl (Or.inr h)))))
  · refine Or.inl (Or.inl (Or.inl (Or.inl (Or.inl (Or.inl (Or.inr ⟨h, ?_⟩))))))
    exact UInt16.le_trans h' (by decide)

lemma isLabel_hash {head hash : JavaString} (hhead : head.all isLabelUnit = true)
    (hlength : head.length ≤ 112) (h : IsHash hash) : IsLabel (head ++ hash) := by
  obtain ⟨hsixteen, hdigits⟩ := h
  simp only [IsLabel, matchesLabel, Bool.and_eq_true, Bool.not_eq_true', List.all_append,
    decide_eq_true_eq, List.length_append, hhead, true_and, List.all_eq_true]
  refine ⟨⟨?_, by omega⟩, fun u hu => isLabelUnit_of_lowerHex (hdigits u hu)⟩
  rw [List.isEmpty_eq_false_iff, ← List.length_pos_iff_ne_nil, List.length_append]
  omega

lemma isLabel_of_safeIdentifier {sha256 : Sha256} {value : Option JavaString} {name : JavaString}
    (h : safeIdentifier sha256 value = .ok name) : IsLabel name := by
  have hunknown : IsLabel (java "unknown") := by unfold IsLabel; decide
  have hredacted : IsLabel (java "redacted") := by unfold IsLabel; decide
  cases value with
  | none =>
    obtain rfl := Except.ok.inj h
    exact hunknown
  | some value =>
    simp only [safeIdentifier] at h
    split_ifs at h
    · obtain rfl := Except.ok.inj h
      exact hunknown
    · obtain rfl := Except.ok.inj h
      exact hredacted
    · obtain ⟨normalized, -, h⟩ := bind_eq_ok.mp h
      rw [labelOrDigest] at h
      split_ifs at h with hlabel
      · obtain rfl := Except.ok.inj h
        exact hlabel
      · obtain ⟨hash, hhash, rfl⟩ := map_eq_ok.mp h
        exact isLabel_hash (by decide) (by decide) (isHash_of_digest hhash)

lemma isLabel_of_safeToolName {sha256 : Sha256} {value : Option JavaString} {name : JavaString}
    (h : safeToolName sha256 value = .ok name) : IsLabel name := by
  obtain ⟨safe, hsafe, rfl⟩ := map_eq_ok.mp h
  split_ifs
  · unfold IsLabel
    decide
  · exact isLabel_of_safeIdentifier hsafe

/-- Units that stand in a title: ASCII without controls. -/
def isTitleUnit (u : UInt16) : Bool := 0x20 ≤ u && u ≤ 0x7E

/-- A hexadecimal digit of either case. -/
def isHexUnit (u : UInt16) : Bool := isLowerHex u || (0x41 ≤ u && u ≤ 0x46)

/-- A title: short printable ASCII that is not a row of hexadecimal digits. -/
structure TitleFits (title : JavaString) : Prop where
  length : title.length ≤ 160
  printable : ∀ u ∈ title, isTitleUnit u = true
  worded : title.all isHexUnit = false

lemma isTitleUnit_of_label {u : UInt16} (h : isLabelUnit u = true) : isTitleUnit u = true := by
  have h20 : (0x20 : UInt16).toNat = 0x20 := rfl
  have h7E : (0x7E : UInt16).toNat = 0x7E := rfl
  have hrange : 0x2D ≤ u.toNat ∧ u.toNat ≤ 0x7A := by
    simp only [isLabelUnit, isTailUnit, isAlphanumeric, Bool.or_eq_true, Bool.and_eq_true,
      decide_eq_true_eq, beq_iff_eq, UInt16.le_iff_toNat_le] at h
    have hconst : (0x41 : UInt16).toNat = 0x41 ∧ (0x5A : UInt16).toNat = 0x5A ∧
        (0x61 : UInt16).toNat = 0x61 ∧ (0x7A : UInt16).toNat = 0x7A ∧
        (0x30 : UInt16).toNat = 0x30 ∧ (0x39 : UInt16).toNat = 0x39 := ⟨rfl, rfl, rfl, rfl, rfl, rfl⟩
    obtain ⟨h41, h5A, h61, h7A, h30, h39⟩ := hconst
    rcases h with ((((((h | h) | h) | rfl) | rfl) | rfl) | rfl) | rfl
    · omega
    · omega
    · omega
    · decide
    · decide
    · decide
    · decide
    · decide
  simp only [isTitleUnit, Bool.and_eq_true, decide_eq_true_eq, UInt16.le_iff_toNat_le]
  omega

lemma titleFits_label {head name : JavaString} (hhead : ∀ u ∈ head, isTitleUnit u = true)
    (hlength : head.length ≤ 32) (hworded : head.all isHexUnit = false) (h : IsLabel name) :
    TitleFits (head ++ name) := by
  simp only [IsLabel, matchesLabel, Bool.and_eq_true, decide_eq_true_eq, List.all_eq_true] at h
  constructor
  · rw [List.length_append]
    have := h.1.2
    omega
  · intro u hu
    rcases List.mem_append.mp hu with hu | hu
    · exact hhead u hu
    · exact isTitleUnit_of_label (h.2 u hu)
  · rw [List.all_append, hworded, Bool.false_and]

/-! ## Counting bytes -/

lemma countAtMost_char (cap bytes : ℕ) (c : Char) (units : JavaString) :
    countAtMost cap bytes (utf16Char c ++ units) =
      if bytes + (String.utf8EncodeChar c).length > cap then .ok (overCap cap)
      else countAtMost cap (bytes + (String.utf8EncodeChar c).length) units := by
  rcases utf16Char_cases c with ⟨u, hchar, hu, -, hhigh, hlow⟩ | ⟨h, l, hchar, hlarge, hhigh, hlow⟩
  · rw [hchar, List.singleton_append, countAtMost.eq_def]
    simp only [hhigh, hlow, Bool.false_eq_true, if_false, unitBytes_of_char hchar]
  · rw [hchar, List.cons_append, List.singleton_append, countAtMost.eq_def]
    simp only [hhigh, hlow, if_true, length_utf8_of_large hlarge]

lemma countAtMost_java_append {cap bytes : ℕ} {rest : JavaString} (s : String)
    (hbytes : bytes ≤ cap) :
    countAtMost cap bytes (java s ++ rest) =
      if bytes + (asBytes s).length > cap then .ok (overCap cap)
      else countAtMost cap (bytes + (asBytes s).length) rest := by
  rw [asBytes_eq_flatMap, java, utf16Encode]
  generalize s.toList = chars
  induction chars generalizing bytes with
  | nil => simp [hbytes]
  | cons c chars ih =>
    rw [List.flatMap_cons, List.append_assoc, countAtMost_char, List.flatMap_cons, List.length_append]
    split_ifs with hover hsum hsum
    · rfl
    · omega
    · rw [ih (by omega), if_pos (by omega)]
    · rw [ih (by omega), if_neg (by omega), Nat.add_assoc]

lemma countAtMost_java (cap : ℕ) (s : String) : countAtMost cap 0 (java s) =
    .ok (if (asBytes s).length > cap then overCap cap else (asBytes s).length) := by
  have h : countAtMost cap 0 (java s ++ []) = _ := countAtMost_java_append s (Nat.zero_le cap)
  rw [List.append_nil, Nat.zero_add, countAtMost] at h
  rw [h]
  split_ifs <;> rfl

/-- A count that ends at its cap has met many units; any other count reads the whole text. -/
lemma wellFormed_of_countAtMost {cap bytes n : ℕ} {units : JavaString}
    (h : countAtMost cap bytes units = .ok n) (hfits : bytes + 4 * units.length ≤ cap ∨ n ≠ overCap cap) :
    wellFormed units = true := by
  induction units using wellFormed.induct generalizing bytes with
  | case1 => rfl
  | case2 u hhigh => simp [countAtMost, hhigh] at h
  | case3 u hhigh l rest ih =>
    simp only [List.length_cons] at hfits
    rw [countAtMost, if_pos hhigh] at h
    rw [wellFormed, if_pos hhigh]
    split_ifs at h with hlow hlarge
    · have hover := Except.ok.inj h
      omega
    · rw [hlow, Bool.true_and]
      exact ih h (hfits.imp_left fun hsmall => by omega)
  | case4 u rest hhigh hlow =>
    rw [countAtMost.eq_def] at h
    simp [hhigh, hlow] at h
  | case5 u rest hhigh hlow ih =>
    have hunit : unitBytes u ≤ 4 := by
      rw [unitBytes]
      split_ifs <;> omega
    rw [Bool.not_eq_true] at hhigh hlow
    rw [countAtMost.eq_def] at h
    rw [wellFormed.eq_def]
    simp only [List.length_cons] at hfits
    simp only [hhigh, hlow, Bool.false_eq_true, if_false] at h ⊢
    split_ifs at h with hlarge
    · have hover := Except.ok.inj h
      omega
    · exact ih h (hfits.imp_left fun hsmall => by omega)

lemma text_of_utf8BytesAtMost {cap n : ℕ} {units : JavaString} (hcap : cap < maxInteger)
    (h : utf8BytesAtMost units cap = .ok n) (hn : n ≤ cap) :
    ∃ s : String, units = java s ∧ (asBytes s).length = n := by
  have hcount : n ≠ overCap cap := by
    rw [overCap, if_neg (by omega)]
    omega
  obtain ⟨s, hs⟩ := utf16Decode_of_wellFormed (wellFormed_of_countAtMost h (Or.inr hcount))
  have hunits : units = java s := (utf16Encode_of_utf16Decode hs).symm
  refine ⟨s, hunits, ?_⟩
  rw [hunits, utf8BytesAtMost] at h
  have hcount := countAtMost_java cap s
  rw [hcount] at h
  have hsame := Except.ok.inj h
  split_ifs at hsame with hlarge
  · rw [overCap, if_neg (by omega)] at hsame
    omega
  · omega

lemma safeByteCount_java (s : String) : ∃ n, safeByteCount (some (java s)) = .ok n :=
  ⟨_, countAtMost_java maxInteger s⟩

/-! ## Items and events -/

/-- What the policy preserves of the labels that an item keeps. -/
structure LabelRule (sha256 : Sha256) (labelOk : JavaString → Prop) (keyOk : String → Prop) :
    Prop where
  identifier : ∀ value name, (∀ v, value = some v → labelOk v) →
    safeIdentifier sha256 value = .ok name → labelOk name
  operation : ∀ hash, IsHash hash → labelOk (java "op_" ++ hash)
  constant : ∀ text ∈ ["redacted", "tool", "start", "end", "started", "completed", "waiting",
    "observed", "confirmed", "partial"], labelOk (java text)
  key : ∀ name ∈ safeMetadataKeys, name ≠ "usageInputTokens" → name ≠ "usageOutputTokens" →
    keyOk name

section Shapes

variable (normalizer : EventNormalizer) (labelOk : JavaString → Prop) (keyOk : String → Prop)

/-- An entry of the metadata: a known key, and a label where the value is a text. -/
structure EntryFits (entry : String × MetadataValue) : Prop where
  known : entry.1 ∈ safeMetadataKeys
  key : keyOk entry.1
  label : ∀ text, entry.2 = .text text → labelOk text ∧ IsLabel text
  number : ∀ n, entry.2 = .number n → 0 ≤ n ∧ n ≤ maxInteger

/-- What the limits and the policy ensure of an item. -/
structure ItemFits (item : ItemAccumulator) : Prop where
  itemId : ∃ hash, IsHash hash ∧ item.itemId = java "item_as_" ++ hash
  kind : item.kind ∈ [.agentMessage, .commentary, .toolCall, .command, .approval]
  title : TitleFits item.title
  text : ∃ s : String, item.text = java s ∧ (asBytes s).length ≤ item.bytes
  bytes : item.bytes ≤ normalizer.limits.maxItemTextBytes
  metadata : ∀ entry ∈ item.metadata, EntryFits labelOk keyOk entry

/-- What an event carries after its base fields. -/
inductive Payload (turn : Context) : String → ObjectNode → Prop
  | started {startedAt : InstantText} {agent : JavaString} (hagent : labelOk agent)
      (hlabel : IsLabel agent) :
      Payload turn "turn/started" [(java "turn", .object
        (turnSnapshot turn "running" startedAt.val ++ [(java "agent", .string agent)]))]
  | item {method status : String} {item : ItemAccumulator} {node : JsonNode}
      (hmethod : method = "item/started" ∧ status = "started" ∨ method = "item/completed" ∧
        status ∈ ["completed", "failed", "interrupted"])
      (hitem : ItemFits normalizer labelOk keyOk item)
      (hnode : snapshot turn.turnId item status = .ok node) :
      Payload turn method [(java "item", node)]
  | delta {item : ItemAccumulator} {s : String} {hidden : Bool} {bytes : ℕ}
      (hitem : ItemFits normalizer labelOk keyOk item)
      (hbytes : (asBytes s).length = bytes) (hlimit : bytes ≤ normalizer.limits.maxItemTextBytes) :
      Payload turn "item/delta" (deltaFields item.itemId (java s) hidden bytes)
  | completed {status reason : String} {completedAt : InstantText}
      (hstatus : status ∈ ["completed", "failed", "interrupted"])
      (hreason : reason ∈ "" :: terminalReasons) :
      Payload turn "turn/completed"
        [(java "turn", .object (terminalTurn turn status reason completedAt.val))]
  | compact {status reason : String} (hstatus : status ∈ ["completed", "failed", "interrupted"])
      (hreason : reason ∈ "" :: terminalReasons) :
      Payload turn "turn/completed" [(java "turn", .object (compactTurn turn status reason))]
  | requested {prompt : ApprovalPrompt} {node : JsonNode}
      (hprompt : ∀ text ∈ prompt.texts, labelOk text) (hnode : approvalSummary prompt = .ok node) :
      Payload turn "approval/requested" [(java "approval", node)]
  | resolved {prompt : ApprovalPrompt} {decision : ApprovalDecision}
      {approvalId : JavaString × JsonNode} (hprompt : ∀ text ∈ prompt.texts, labelOk text)
      (hid : boundedField "approvalId" prompt.approvalId = .ok approvalId)
      (hknown : ∃ known ∈ knownDecisions, java known = decision.decision) :
      Payload turn "approval/resolved" [approvalId,
        (java "decision", .string decision.decision),
        (java "resolvedAt", .string decision.resolvedAt.val)]

/-- **The shape of an event**: the base fields and a payload. -/
def EventShape (turn : Context) (event : TurnEvent) : Prop :=
  ∃ (seq : Int64) (hash : JavaString) (occurredAt : InstantText) (payload : ObjectNode),
    IsHash hash ∧ Payload normalizer labelOk keyOk turn event.method payload ∧
      event.params =
        baseFields normalizer turn seq (java "evt_as_" ++ hash) occurredAt.val ++ payload

/-- A context of the same turn, before or after its end alike, whose items fit. -/
structure Fits (turn context : Context) : Prop where
  threadId : context.threadId = turn.threadId
  turnId : context.turnId = turn.turnId
  mode : context.mode = turn.mode
  accessMode : context.accessMode = turn.accessMode
  terminal : context.terminal = turn.terminal
  items : ∀ entry ∈ context.items, ItemFits normalizer labelOk keyOk entry.2

end Shapes

section Steps

variable {normalizer : EventNormalizer} {labelOk : JavaString → Prop} {keyOk : String → Prop}
  {turn context : Context} {key : JavaString} {item : ItemAccumulator}

lemma mem_setItem {items : List (JavaString × ItemAccumulator)} {entry : JavaString × ItemAccumulator}
    (h : entry ∈ setItem key item items) : entry = (key, item) ∨ entry ∈ items := by
  induction items with
  | nil => exact Or.inl (List.mem_singleton.mp h)
  | cons first items ih =>
    rw [setItem] at h
    split_ifs at h
    · rcases List.mem_cons.mp h with rfl | h
      · exact Or.inl rfl
      · exact Or.inr (List.mem_cons_of_mem _ h)
    · rcases List.mem_cons.mp h with rfl | h
      · exact Or.inr (by simp)
      · exact (ih h).imp_right (List.mem_cons_of_mem _)

lemma mem_of_lookup {κ β : Type} [BEq κ] [LawfulBEq κ] {entries : List (κ × β)} {k : κ} {b : β}
    (h : entries.lookup k = some b) : (k, b) ∈ entries := by
  obtain ⟨before, after, rfl, -⟩ := List.lookup_eq_some_iff.mp h
  simp

lemma mem_putEntry {name : String} {value : MetadataValue}
    {entries : List (String × MetadataValue)} {entry : String × MetadataValue}
    (h : entry ∈ putEntry name value entries) : entry = (name, value) ∨ entry ∈ entries := by
  induction entries with
  | nil => exact Or.inl (List.mem_singleton.mp h)
  | cons first entries ih =>
    rw [putEntry] at h
    split_ifs at h
    · rcases List.mem_cons.mp h with rfl | h
      · exact Or.inl rfl
      · exact Or.inr (List.mem_cons_of_mem _ h)
    · rcases List.mem_cons.mp h with rfl | h
      · exact Or.inr (by simp)
      · exact (ih h).imp_right (List.mem_cons_of_mem _)

namespace Fits

section

variable (h : Fits normalizer labelOk keyOk turn context)
include h

lemma lookup
    (hitem : context.items.lookup key = some item) : ItemFits normalizer labelOk keyOk item :=
  h.items _ (mem_of_lookup hitem)

lemma setItem
    (hitem : ItemFits normalizer labelOk keyOk item) :
    Fits normalizer labelOk keyOk turn (context.setItem key item) where
  __ := h
  items entry hentry := by
    rcases mem_setItem hentry with rfl | hmem
    · exact hitem
    · exact h.items entry hmem

lemma counters {started hasVisibleText overflow : Bool}
    {eventCount eventBytes metadataBytes readings : ℕ} {threadSequence : Int64} :
    Fits normalizer labelOk keyOk turn { context with
      started, hasVisibleText, overflow, eventCount, eventBytes, metadataBytes, threadSequence,
      readings } :=
  ⟨h.threadId, h.turnId, h.mode, h.accessMode, h.terminal, h.items⟩

end

end Fits

lemma ItemFits.putEntry (h : ItemFits normalizer labelOk keyOk item) {name : String}
    {value : MetadataValue} (hentry : EntryFits labelOk keyOk (name, value)) :
    ItemFits normalizer labelOk keyOk { item with
      metadata := Sidecar.putEntry name value item.metadata } where
  __ := h
  metadata entry hmem := by
    rcases mem_putEntry hmem with rfl | hmem
    · exact hentry
    · exact h.metadata entry hmem

end Steps

end JaDesktop.Sidecar
