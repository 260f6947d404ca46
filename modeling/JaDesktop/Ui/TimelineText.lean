import JaDesktop.Ui.TimelineIndex

/-!
# The texts of the timeline

An item holds its text, and beside it the state counts the UTF-8 bytes of the text: anew when the
item is replaced, and by the bytes of the delta when a delta is appended.  On Unicode texts the two
ways agree, so that the limit on the counter is a limit on the text.
-/

namespace JaDesktop.Ui

variable {Params Raw : Type}

/-! ## Bytes -/

/-- The text has no surrogate without its partner. -/
def Unicode (s : JsString) : Prop := ∃ text : String, s = utf16Encode text

lemma unicode_nil : Unicode [] := ⟨"", rfl⟩

lemma Unicode.append {s t : JsString} (hs : Unicode s) (ht : Unicode t) : Unicode (s ++ t) := by
  obtain ⟨s, rfl⟩ := hs
  obtain ⟨t, rfl⟩ := ht
  exact ⟨s ++ t, (utf16Encode_append s t).symm⟩

lemma unitByteLength_eq (u : UInt16) : unitByteLength u = unitBytes u := by
  have h7F : (0x7F : UInt16).toNat = 0x7F := rfl
  have h7FF : (0x7FF : UInt16).toNat = 0x7FF := rfl
  simp only [unitByteLength, unitBytes, UInt16.le_iff_toNat_le, h7F, h7FF]
  split_ifs <;> omega

lemma utf8ByteLength_char (c : Char) (s : JsString) :
    utf8ByteLength (utf16Char c ++ s) = (String.utf8EncodeChar c).length + utf8ByteLength s := by
  rcases utf16Char_cases c with ⟨u, hchar, -, -, hhigh, -⟩ | ⟨h, l, hchar, hlarge, hhigh, hlow⟩
  · have hunit := unitBytes_of_char hchar
    rw [hchar, List.singleton_append, ← hunit, ← unitByteLength_eq]
    cases s with
    | nil => rfl
    | cons next rest =>
      rw [utf8ByteLength, hhigh, Bool.false_and, if_neg Bool.false_ne_true]
  · rw [hchar, List.cons_append, List.singleton_append, utf8ByteLength, hhigh, hlow, Bool.and_self,
      if_pos rfl, length_utf8_of_large hlarge]

/-- **The count is that of the encoder.** -/
lemma utf8ByteLength_append (text : String) (s : JsString) :
    utf8ByteLength (utf16Encode text ++ s) = (asBytes text).length + utf8ByteLength s := by
  rw [utf16Encode, asBytes_eq_flatMap]
  generalize text.toList = chars
  induction chars with
  | nil => simp
  | cons c chars ih =>
    rw [List.flatMap_cons, List.flatMap_cons, List.append_assoc, utf8ByteLength_char, ih,
      List.length_append, Nat.add_assoc]

lemma utf8ByteLength_encode (text : String) :
    utf8ByteLength (utf16Encode text) = (asBytes text).length := by
  have happend := utf8ByteLength_append text []
  rwa [List.append_nil] at happend

lemma Unicode.bytes_append {s t : JsString} (hs : Unicode s) :
    utf8ByteLength (s ++ t) = utf8ByteLength s + utf8ByteLength t := by
  obtain ⟨text, rfl⟩ := hs
  rw [utf8ByteLength_append, utf8ByteLength_encode]

/-! ## Texts that an event carries -/

/-- The item that an event carries. -/
def EventSchemas.itemOf (schemas : EventSchemas Params Raw) (event : ThreadEvent Params) :
    Option Item :=
  match event.method with
  | .itemStarted | .itemUpdated | .itemCompleted => schemas.itemEvent event.params
  | _ => none

/-- The delta that an event carries. -/
def EventSchemas.deltaOf (schemas : EventSchemas Params Raw) (event : ThreadEvent Params) :
    Option (String × JsString) :=
  match event.method with
  | .itemDelta => schemas.itemDelta event.params
  | _ => none

namespace TimelineState

variable {schemas : EventSchemas Params Raw} {state next final : TimelineState}
  {event : ThreadEvent Params} {itemId threadId : String} {item : Item}
  {snapshot : ThreadReadResult Raw} {action : Action Params Raw}
  {actions : List (Action Params Raw)}

/-- What a thread event makes of the texts. -/
inductive TextChange (schemas : EventSchemas Params Raw) (state : TimelineState)
    (event : ThreadEvent Params) (next : TimelineState) : Prop
  | kept (hcarried : schemas.itemOf event = none) (hdelta : schemas.deltaOf event = none)
      (hitems : next.items = state.items)
      (hbytes : next.itemUtf8BytesById = state.itemUtf8BytesById)
  | item (item : Item) (hcarried : schemas.itemOf event = some item)
      (hdelta : schemas.deltaOf event = none)
      (hmax : utf8ByteLength (textOf item) ≤ maxItemTextBytes)
      (hitems : next.items = state.items.insert item.itemId item)
      (hbytes : next.itemUtf8BytesById =
        state.itemUtf8BytesById.insert item.itemId (utf8ByteLength (textOf item)))
  | delta (itemId : String) (item : Item) (delta : JsString) (bytes : ℕ)
      (hdelta : schemas.deltaOf event = some (itemId, delta))
      (hitem : state.items.lookup itemId = some item)
      (hsum : (state.itemUtf8BytesById.lookup itemId).getD (utf8ByteLength (textOf item)) +
        utf8ByteLength delta = bytes)
      (hmax : bytes ≤ maxItemTextBytes)
      (hitems : next.items =
        state.items.insert itemId { item with text := some (textOf item ++ delta) })
      (hbytes : next.itemUtf8BytesById = state.itemUtf8BytesById.insert itemId bytes)

lemma textChange_of_project (h : state.projectThreadEvent schemas event = .ok next) :
    TextChange schemas state event next := by
  unfold projectThreadEvent at h
  split at h
  case h_1 hmethod =>
    split at h
    · simp at h
    split at h
    · simp at h
    · obtain rfl : _ = next := by simpa using h
      exact .kept (by simp [EventSchemas.itemOf, hmethod]) (by simp [EventSchemas.deltaOf, hmethod])
        rfl rfl
  case h_2 hmethod | h_3 hmethod | h_4 hmethod =>
    obtain ⟨turn, -, -, -, rfl⟩ := turnCase_ok h
    exact .kept (by simp [EventSchemas.itemOf, hmethod]) (by simp [EventSchemas.deltaOf, hmethod])
      rfl rfl
  case h_5 hmethod | h_6 hmethod | h_7 hmethod =>
    obtain ⟨item, hparsed, -, -, hmax, rfl⟩ := itemCase_ok h
    exact .item item (by simpa [EventSchemas.itemOf, hmethod] using hparsed)
      (by simp [EventSchemas.deltaOf, hmethod]) hmax rfl rfl
  case h_8 hmethod =>
    obtain ⟨itemId, item, delta, bytes, hparsed, hitem, -, hsum, hmax, rfl⟩ := deltaCase_ok h
    exact .delta itemId item delta bytes (by simpa [EventSchemas.deltaOf, hmethod] using hparsed)
      hitem hsum hmax rfl rfl
  case h_9 hmethod =>
    obtain ⟨approval, -, -, rfl⟩ := approvalRequestedCase_ok h
    exact .kept (by simp [EventSchemas.itemOf, hmethod]) (by simp [EventSchemas.deltaOf, hmethod])
      rfl rfl
  case h_10 hmethod =>
    obtain ⟨approvalId, decision, resolvedAt, -, rfl⟩ := approvalResolvedCase_ok h
    refine .kept (by simp [EventSchemas.itemOf, hmethod]) (by simp [EventSchemas.deltaOf, hmethod])
      ?_ ?_
    · rw [applyApprovalResolved]
      split <;> rfl
    · rw [applyApprovalResolved]
      split <;> rfl
  case h_11 hmethod =>
    split at h
    · simp at h
    split at h
    · simp at h
    · obtain rfl : state = next := by simpa using h
      exact .kept (by simp [EventSchemas.itemOf, hmethod]) (by simp [EventSchemas.deltaOf, hmethod])
        rfl rfl

lemma textChange_applyLiveEvent (schemas : EventSchemas Params Raw) (state : TimelineState)
    (event : ThreadEvent Params) :
    Refused state (state.applyLiveEvent schemas (.thread event)) ∨
      (state.applyLiveEvent schemas (.thread event)).lastOutcome = some .applied ∧
        TextChange schemas state event (state.applyLiveEvent schemas (.thread event)) := by
  rw [applyLiveEvent_thread]
  rcases applyThreadEvent_cases schemas state event with hrefused | ⟨-, next, hnext, heq⟩
  · exact Or.inl hrefused
  · refine Or.inr ?_
    obtain ⟨seen, order, hadvance⟩ := next.advance_eq event
    rw [heq, hadvance]
    refine ⟨rfl, ?_⟩
    cases textChange_of_project hnext with
    | kept hcarried hdelta hitems hbytes => exact .kept hcarried hdelta hitems hbytes
    | item item hcarried hdelta hmax hitems hbytes =>
      exact .item item hcarried hdelta hmax hitems hbytes
    | delta itemId item delta bytes hdelta hitem hsum hmax hitems hbytes =>
      exact .delta itemId item delta bytes hdelta hitem hsum hmax hitems hbytes

/-! ## The counters -/

/-- Every text is Unicode, its counter is its size, and it is within the limit. -/
def Measured (state : TimelineState) : Prop :=
  ∀ itemId item, state.items.lookup itemId = some item →
    Unicode (textOf item) ∧
    state.itemUtf8BytesById.lookup itemId = some (utf8ByteLength (textOf item)) ∧
    utf8ByteLength (textOf item) ≤ maxItemTextBytes

namespace Measured

lemma congr (h : state.Measured) (hitems : next.items = state.items)
    (hbytes : next.itemUtf8BytesById = state.itemUtf8BytesById) : next.Measured := by
  intro itemId item hitem
  rw [hitems] at hitem
  rw [hbytes]
  exact h itemId item hitem

lemma empty (hitems : state.items = ∅) : state.Measured := by
  intro itemId item hitem
  rw [hitems, AList.lookup_empty] at hitem
  cases hitem

section

variable (h : state.Measured)
include h

lemma refused (hrefused : Refused state next) : next.Measured := by
  obtain ⟨result, -, rfl | ⟨key, reason, rfl⟩⟩ := hrefused
  · exact h.congr rfl rfl
  · exact h.congr rfl rfl

lemma insert (hunicode : Unicode (textOf item))
    (hmax : utf8ByteLength (textOf item) ≤ maxItemTextBytes)
    (hitems : next.items = state.items.insert itemId item)
    (hbytes : next.itemUtf8BytesById =
      state.itemUtf8BytesById.insert itemId (utf8ByteLength (textOf item))) : next.Measured := by
  intro other found hfound
  rw [hitems, Record.lookup_insert] at hfound
  rw [hbytes, Record.lookup_insert]
  by_cases hother : other = itemId
  · rw [if_pos hother] at hfound ⊢
    obtain rfl := Option.some_inj.mp hfound
    exact ⟨hunicode, rfl, hmax⟩
  · rw [if_neg hother] at hfound ⊢
    exact h other found hfound

lemma insertItems {items : List Item}
    (hunicode : ∀ item ∈ items, Unicode (textOf item))
    (hmax : ∀ item ∈ items, utf8ByteLength (textOf item) ≤ maxItemTextBytes) :
    (state.insertItems threadId items).Measured := by
  induction items generalizing state with
  | nil => exact h
  | cons item items ih =>
    refine ih ?_ (fun other hmem => hunicode other (List.mem_cons_of_mem item hmem))
      fun other hmem => hmax other (List.mem_cons_of_mem item hmem)
    exact h.insert (hunicode item List.mem_cons_self) (hmax item List.mem_cons_self) rfl rfl

lemma removeThreadEntities (threadId : String) :
    (state.removeThreadEntities threadId).Measured := by
  intro itemId item hitem
  have hfilter : (state.items.filter fun itemId item =>
      !state.isRemoved threadId itemId item).lookup itemId = some item := hitem
  rw [Record.lookup_filter, Option.filter_eq_some_iff] at hfilter
  obtain ⟨hsome, hkept⟩ := hfilter
  obtain ⟨hunicode, hbytes, hmax⟩ := h itemId item hsome
  refine ⟨hunicode, ?_, hmax⟩
  show (state.itemUtf8BytesById.filter fun itemId _ =>
    !state.removes threadId itemId).lookup itemId = _
  have hremoves : state.removes threadId itemId = false := by
    rw [removes, hsome]
    simpa using hkept
  rw [Record.lookup_filter, hbytes, Option.filter_eq_some_iff, hremoves]
  exact ⟨rfl, rfl⟩

lemma installSnapshot (haccepts : Accepts schemas state snapshot)
    (hunicode : ∀ item ∈ snapshot.items, Unicode (textOf item)) :
    (state.installSnapshot snapshot).Measured := by
  rw [TimelineState.installSnapshot, if_neg (not_foreign_iff.mpr haccepts.sameInstance)]
  exact ((h.removeThreadEntities _).insertItems hunicode haccepts.text).congr rfl rfl

lemma textChange (hchange : TextChange schemas state event next)
    (hitem : ∀ item, schemas.itemOf event = some item → Unicode (textOf item))
    (hdelta : ∀ itemId delta, schemas.deltaOf event = some (itemId, delta) → Unicode delta) :
    next.Measured := by
  cases hchange with
  | kept _ _ hitems hbytes => exact h.congr hitems hbytes
  | item item hcarried _ hmax hitems hbytes =>
    exact h.insert (hitem item hcarried) hmax hitems hbytes
  | delta itemId item delta bytes hcarried hfound hsum hmax hitems hbytes =>
    obtain ⟨hunicode, hcounter, -⟩ := h itemId item hfound
    -- the counter was the size of the text, and both grow by the delta
    have hbytesEq : utf8ByteLength (textOf item ++ delta) = bytes := by
      rw [hcounter, Option.getD_some] at hsum
      rw [hunicode.bytes_append, hsum]
    have htext : textOf { item with text := some (textOf item ++ delta) } = textOf item ++ delta :=
      rfl
    have hgrown : Unicode (textOf { item with text := some (textOf item ++ delta) }) := by
      rw [htext]
      exact hunicode.append (hdelta itemId delta hcarried)
    refine h.insert hgrown ?_ hitems ?_
    · rw [htext, hbytesEq]
      exact hmax
    · rw [htext, hbytesEq]
      exact hbytes

end

end Measured

/-- The texts that a call brings are Unicode. -/
def UnicodeTexts (schemas : EventSchemas Params Raw) : Action Params Raw → Prop
  | .runtimeStatus _ _ => True
  | .snapshot snapshot => ∀ item ∈ snapshot.items, Unicode (textOf item)
  | .event (.thread event) =>
    (∀ item, schemas.itemOf event = some item → Unicode (textOf item)) ∧
      ∀ itemId delta, schemas.deltaOf event = some (itemId, delta) → Unicode delta
  | .event (.runtime _) => True

/-- **One call** keeps the counters. -/
lemma Measured.after (h : state.Measured) (hinput : UnicodeTexts schemas action) :
    (state.after schemas action).Measured := by
  cases action with
  | runtimeStatus status now =>
    rcases applyRuntimeStatus_cases state status now with ⟨-, hrefused⟩ |
      ⟨-, serverInstanceId, runtime, heq⟩ | ⟨-, serverInstanceId, runtime, heq⟩
    · exact h.refused hrefused
    · show (state.applyRuntimeStatus status now).Measured
      rw [heq]
      exact .empty rfl
    · show (state.applyRuntimeStatus status now).Measured
      rw [heq]
      exact h.congr rfl rfl
  | snapshot snapshot =>
    show (state.applySnapshot schemas snapshot).Measured
    rcases applySnapshot_cases schemas state snapshot with hrefused | ⟨haccepts, heq⟩
    · exact h.refused hrefused
    · rw [heq]
      exact h.installSnapshot haccepts hinput
  | event event =>
    cases event with
    | thread event =>
      rcases textChange_applyLiveEvent schemas state event with hrefused | ⟨-, hchange⟩
      · exact h.refused hrefused
      · exact h.textChange hchange hinput.1 hinput.2
    | runtime event =>
      rcases applyLiveEvent_runtime schemas state event with hrefused | hnext
      · exact h.refused hrefused
      · exact h.congr hnext.items hnext.itemUtf8BytesById

lemma measured_of_run (h : Run (Step schemas) createTimelineState actions state)
    (hinput : ∀ action ∈ actions, UnicodeTexts schemas action) : state.Measured := by
  induction h with
  | nil => exact .empty rfl
  | snoc _ hstep ih =>
    rw [show _ = _ from hstep]
    refine (ih fun action hmem => ?_).after ?_
    · exact hinput action (List.mem_append_left _ hmem)
    · exact hinput _ (List.mem_append_right _ (List.mem_singleton.mpr rfl))

/-! ## Deltas -/

/-- The delta that a call appends to the text of an item. -/
def acceptedDelta (schemas : EventSchemas Params Raw) (itemId : String) (state : TimelineState) :
    Action Params Raw → JsString
  | .event (.thread event) =>
    match schemas.deltaOf event with
    | some (other, delta) =>
      if other = itemId ∧
          (state.applyLiveEvent schemas (.thread event)).lastOutcome = some .applied then delta
      else []
    | none => []
  | _ => []

/-- The deltas that a run appends to the text of an item, oldest first. -/
def acceptedDeltas (schemas : EventSchemas Params Raw) (itemId : String) :
    TimelineState → List (Action Params Raw) → List JsString
  | _, [] => []
  | state, action :: actions =>
    acceptedDelta schemas itemId state action ::
      acceptedDeltas schemas itemId (state.after schemas action) actions

/-- The call replaces or deletes the item. -/
def Replaces (schemas : EventSchemas Params Raw) (itemId : String) (state : TimelineState) :
    Action Params Raw → Prop
  | .runtimeStatus status _ => state.Clears status
  | .snapshot snapshot =>
    (state.applySnapshot schemas snapshot).lastOutcome = some .applied ∧
      (itemId ∈ snapshot.items.map Item.itemId ∨
        state.removes snapshot.thread.threadId itemId = true)
  | .event (.thread event) =>
    (state.applyLiveEvent schemas (.thread event)).lastOutcome = some .applied ∧
      ∃ item, schemas.itemOf event = some item ∧ item.itemId = itemId
  | .event (.runtime _) => False

/-- A call that leaves the item but for deltas. -/
def Streams (schemas : EventSchemas Params Raw) (itemId : String) (state : TimelineState)
    (action : Action Params Raw) (next : TimelineState) : Prop :=
  Step schemas state action next ∧ ¬ Replaces schemas itemId state action

/-- The item is there, with a text. -/
def HasText (state : TimelineState) (itemId : String) (text : JsString) : Prop :=
  ∃ item, state.items.lookup itemId = some item ∧ textOf item = text

variable {text : JsString}

lemma HasText.congr (h : state.HasText itemId text) (hitems : next.items = state.items) :
    next.HasText itemId text := by
  obtain ⟨item, hitem, htext⟩ := h
  exact ⟨item, by rw [hitems, hitem], htext⟩

lemma HasText.refused (h : state.HasText itemId text) (hrefused : Refused state next) :
    next.HasText itemId text := by
  obtain ⟨result, -, rfl | ⟨key, reason, rfl⟩⟩ := hrefused
  · exact h.congr rfl
  · exact h.congr rfl

lemma acceptedDelta_of_none (h : schemas.deltaOf event = none) :
    acceptedDelta schemas itemId state (.event (.thread event)) = [] := by
  rw [acceptedDelta, h]

lemma acceptedDelta_of_some {other : String} {delta : JsString}
    (h : schemas.deltaOf event = some (other, delta)) :
    acceptedDelta schemas itemId state (.event (.thread event)) =
      if other = itemId ∧
          (state.applyLiveEvent schemas (.thread event)).lastOutcome = some .applied then delta
      else [] := by
  rw [acceptedDelta, h]

lemma HasText.thread (h : state.HasText itemId text)
    (hstays : ¬ Replaces schemas itemId state (.event (.thread event))) :
    (state.applyLiveEvent schemas (.thread event)).HasText itemId
      (text ++ acceptedDelta schemas itemId state (.event (.thread event))) := by
  rcases textChange_applyLiveEvent schemas state event with hrefused | ⟨happlied, hchange⟩
  · have hnone : acceptedDelta schemas itemId state (.event (.thread event)) = [] := by
      cases hdelta : schemas.deltaOf event with
      | none => exact acceptedDelta_of_none hdelta
      | some carried =>
        rw [acceptedDelta_of_some hdelta, if_neg fun hboth => hrefused.lastOutcome_ne hboth.2]
    rw [hnone, List.append_nil]
    exact h.refused hrefused
  · cases hchange with
    | kept hcarried hdelta hitems hbytes =>
      rw [acceptedDelta_of_none hdelta, List.append_nil]
      exact h.congr hitems
    | item item hcarried hdelta hmax hitems hbytes =>
      rw [acceptedDelta_of_none hdelta, List.append_nil]
      obtain ⟨found, hfound, htext⟩ := h
      refine ⟨found, ?_, htext⟩
      rw [hitems, Record.lookup_insert, if_neg, hfound]
      rintro rfl
      exact hstays ⟨happlied, item, hcarried, rfl⟩
    | delta other item delta bytes hdelta hitem hsum hmax hitems hbytes =>
      rw [acceptedDelta_of_some hdelta]
      obtain ⟨found, hfound, htext⟩ := h
      by_cases hother : other = itemId
      · rw [if_pos ⟨hother, happlied⟩]
        subst hother
        obtain rfl := Option.some_inj.mp (hfound.symm.trans hitem)
        refine ⟨{ found with text := some (textOf found ++ delta) }, ?_, ?_⟩
        · rw [hitems, AList.lookup_insert]
        · rw [← htext]
          rfl
      · rw [if_neg fun hboth => hother hboth.1, List.append_nil]
        refine ⟨found, ?_, htext⟩
        rw [hitems, Record.lookup_insert, if_neg (Ne.symm hother), hfound]

lemma items_insertItems_of_notMem (state : TimelineState) {items : List Item}
    (h : itemId ∉ items.map Item.itemId) :
    (state.insertItems threadId items).items.lookup itemId = state.items.lookup itemId := by
  induction items generalizing state with
  | nil => rfl
  | cons item items ih =>
    rw [List.map_cons, List.mem_cons, not_or] at h
    refine (ih _ h.2).trans ?_
    exact AList.lookup_insert_ne h.1

lemma items_install_of_notMem (haccepts : Accepts schemas state snapshot)
    (h : itemId ∉ snapshot.items.map Item.itemId) :
    (state.installSnapshot snapshot).items.lookup itemId = (state.items.lookup itemId).filter
      fun item => !state.isRemoved snapshot.thread.threadId itemId item := by
  rw [installSnapshot, if_neg (not_foreign_iff.mpr haccepts.sameInstance)]
  refine (items_insertItems_of_notMem _ h).trans ?_
  exact Record.lookup_filter _ _ _

lemma HasText.applySnapshot (h : state.HasText itemId text)
    (hstays : ¬ Replaces schemas itemId state (.snapshot snapshot)) :
    (state.applySnapshot schemas snapshot).HasText itemId text := by
  rcases applySnapshot_cases schemas state snapshot with hrefused | ⟨haccepts, heq⟩
  · exact h.refused hrefused
  · have happlied : (state.applySnapshot schemas snapshot).lastOutcome = some .applied := by
      rw [heq]
      rfl
    obtain ⟨item, hitem, htext⟩ := h
    refine ⟨item, ?_, htext⟩
    rw [heq, items_install_of_notMem haccepts fun hmem => hstays ⟨happlied, Or.inl hmem⟩, hitem]
    by_cases hremoved : state.removes snapshot.thread.threadId itemId = true
    · exact absurd ⟨happlied, Or.inr hremoved⟩ hstays
    · rw [removes, hitem] at hremoved
      simpa using hremoved

/-- **One call** appends its delta. -/
lemma HasText.step (h : state.HasText itemId text)
    (hstep : Streams schemas itemId state action next) :
    next.HasText itemId (text ++ acceptedDelta schemas itemId state action) := by
  obtain ⟨rfl, hstays⟩ := hstep
  cases action with
  | runtimeStatus status now =>
    have hnil : text ++ acceptedDelta schemas itemId state (.runtimeStatus status now) = text :=
      List.append_nil text
    rw [hnil]
    show (state.applyRuntimeStatus status now).HasText itemId text
    rcases applyRuntimeStatus_cases state status now with ⟨-, hrefused⟩ | ⟨hclears, -⟩ |
      ⟨-, serverInstanceId, runtime, heq⟩
    · exact h.refused hrefused
    · exact absurd hclears hstays
    · rw [heq]
      exact h.congr rfl
  | snapshot snapshot =>
    have hnil : text ++ acceptedDelta schemas itemId state (.snapshot snapshot) = text :=
      List.append_nil text
    rw [hnil]
    exact h.applySnapshot hstays
  | event event =>
    cases event with
    | thread event => exact h.thread hstays
    | runtime event =>
      have hnil : text ++ acceptedDelta schemas itemId state (.event (.runtime event)) = text :=
        List.append_nil text
      rw [hnil]
      rcases applyLiveEvent_runtime schemas state event with hrefused | hnext
      · exact h.refused hrefused
      · exact h.congr hnext.items

lemma acceptedDeltas_concat (state : TimelineState) (actions : List (Action Params Raw))
    (action : Action Params Raw) :
    acceptedDeltas schemas itemId state (actions ++ [action]) =
      acceptedDeltas schemas itemId state actions ++
        [acceptedDelta schemas itemId (actions.foldl (TimelineState.after schemas) state)
          action] := by
  induction actions generalizing state with
  | nil => rfl
  | cons first actions ih => rw [List.cons_append, acceptedDeltas, ih]; rfl

lemma eq_foldl_of_streams (h : Run (Streams schemas itemId) state actions final) :
    final = actions.foldl (TimelineState.after schemas) state := by
  induction h with
  | nil => rfl
  | snoc _ hstep ih =>
    rw [List.foldl_append, ← ih]
    exact hstep.1

/-- **All calls** append their deltas, in their order. -/
lemma HasText.run (h : state.HasText itemId text)
    (hrun : Run (Streams schemas itemId) state actions final) :
    final.HasText itemId (text ++ (acceptedDeltas schemas itemId state actions).flatten) := by
  induction hrun with
  | nil =>
    rw [acceptedDeltas, List.flatten_nil, List.append_nil]
    exact h
  | snoc hrun hstep ih =>
    have hnext := ih.step hstep
    rw [List.append_assoc] at hnext
    rw [acceptedDeltas_concat, ← eq_foldl_of_streams hrun, List.flatten_append,
      List.flatten_singleton]
    exact hnext

/-- **The text budget.**  In every state that calls with Unicode texts produce, the counter of an
item is the number of UTF-8 bytes of its text, at most 1048576; and as long as the item is neither
replaced nor deleted, its text is the one it had with all accepted deltas behind it. -/
theorem text_budget (h : Run (Step schemas) createTimelineState actions state)
    (hinput : ∀ action ∈ actions, UnicodeTexts schemas action) :
    (∀ itemId item, state.items.lookup itemId = some item →
      ∃ text : String, textOf item = utf16Encode text ∧
        state.itemUtf8BytesById.lookup itemId = some (asBytes text).length ∧
        (asBytes text).length ≤ 1048576) ∧
    ∀ itemId item, state.items.lookup itemId = some item → ∀ further final,
      Run (Streams schemas itemId) state further final →
        ∃ item', final.items.lookup itemId = some item' ∧
          textOf item' = textOf item ++ (acceptedDeltas schemas itemId state further).flatten := by
  refine ⟨?_, ?_⟩
  · intro itemId item hitem
    obtain ⟨⟨text, htext⟩, hcounter, hmax⟩ := measured_of_run h hinput itemId item hitem
    rw [htext, utf8ByteLength_encode] at hcounter hmax
    exact ⟨text, htext, hcounter, hmax⟩
  · intro itemId item hitem further final hrun
    exact HasText.run ⟨item, hitem, rfl⟩ hrun

/-- A thread with an item that has no text yet. -/
def itemShown : List (Action ProjectedParams (JaEvent ProjectedParams)) :=
  [.runtimeStatus readyStatus "",
    .snapshot (sampleSnapshot "thr_a" 5 [sampleItem "item_a" "turn_a"])]

/-- The first piece of its text. -/
def firstDelta : Action ProjectedParams (JaEvent ProjectedParams) :=
  .event (.thread (sampleEvent .itemDelta "thr_a" 6 "evt_6" (.delta "item_a" [0xD83D, 0xDE00])))

theorem text_budget_firstDelta :
    ∃ item', ((itemShown ++ [firstDelta]).foldl (TimelineState.after projectedSchemas)
        createTimelineState).items.lookup "item_a" = some item' ∧
      textOf item' = [] ++ [0xD83D, 0xDE00] := by
  have hinput : ∀ action ∈ itemShown, UnicodeTexts projectedSchemas action := by
    intro action hmem
    rcases List.mem_cons.mp hmem with rfl | hmem
    · exact trivial
    · obtain rfl := List.mem_singleton.mp hmem
      intro item hitem
      obtain rfl := List.mem_singleton.mp hitem
      exact unicode_nil
  have hstays : ¬ Replaces projectedSchemas "item_a"
      (itemShown.foldl (TimelineState.after projectedSchemas) createTimelineState) firstDelta := by
    rintro ⟨-, item, hitem, -⟩
    cases hitem
  have hrun := run_foldl projectedSchemas createTimelineState itemShown
  have hfound : (itemShown.foldl (TimelineState.after projectedSchemas)
      createTimelineState).items.lookup "item_a" = some (sampleItem "item_a" "turn_a") := by
    decide +kernel
  obtain ⟨item', hitem', htext⟩ := (text_budget hrun hinput).2 "item_a" _ hfound [firstDelta] _
    (.snoc .nil ⟨rfl, hstays⟩)
  refine ⟨item', ?_, ?_⟩
  · rw [List.foldl_append]
    exact hitem'
  · rw [htext]
    decide +kernel

end TimelineState

end JaDesktop.Ui
