import JaDesktop.Lib.Trails
import JaDesktop.Sidecar.EventKeeping

/-!
# What the normalizer does to its items

Each function of the normalizer changes its context in small updates (`Touch`), of which three are
changes of an item that the stream shows: an item is registered, a text is appended to it, it is
closed.  Every function leaves a trail of such changes whether it returns or fails, and the events
that it returns show exactly the changes of its trail, in order (`Shows`).
-/

namespace JaDesktop.Sidecar

open EventNormalizerPolicy EventNormalizer

/-- A change of the items; the item is the one before the change. -/
inductive Change
  | registered (key : JavaString) (item : ItemAccumulator)
  | appended (key : JavaString) (item : ItemAccumulator) (text : JavaString) (hidden : Bool)
  | closed (key : JavaString) (item : ItemAccumulator)

/-- What the stream says of one item, or of the end of the turn. -/
inductive StreamStep
  | started (itemId : JavaString)
  | delta (itemId text : JavaString)
  | completed (itemId : JavaString) (text : Option JavaString)
  | turnCompleted (completedAt : Option JavaString)
deriving DecidableEq

/-- What the stream says of a change. -/
def Change.shown : Change → StreamStep
  | registered _ item => .started item.itemId
  | appended _ item text hidden => .delta item.itemId (if hidden then [] else text)
  | closed _ item => .completed item.itemId (if item.hidden then none else some item.text)

/-! ## Reading an event -/

def textField (name : String) (fields : ObjectNode) : Option JavaString :=
  match fields.lookup (java name) with
  | some (.string s) => some s
  | _ => none

def objectField (name : String) (fields : ObjectNode) : Option ObjectNode :=
  match fields.lookup (java name) with
  | some (.object fields) => some fields
  | _ => none

/-- What an event says of an item, or of the end of the turn. -/
def streamStep (event : TurnEvent) : Option StreamStep :=
  if event.method = "item/started" then
    (objectField "item" event.params).bind fun item => (textField "itemId" item).map .started
  else if event.method = "item/completed" then
    (objectField "item" event.params).bind fun item =>
      (textField "itemId" item).map fun itemId => .completed itemId (textField "text" item)
  else if event.method = "item/delta" then
    (textField "itemId" event.params).bind fun itemId =>
      (textField "delta" event.params).map fun delta => .delta itemId delta
  else if event.method = "turn/completed" then
    some (.turnCompleted ((objectField "turn" event.params).bind (textField "completedAt")))
  else none

/-- The events show the changes. -/
def Shows (events : List TurnEvent) (cs : List Change) : Prop :=
  events.filterMap streamStep = cs.map Change.shown

lemma Shows.append {events more : List TurnEvent} {cs cs' : List Change} (h : Shows events cs)
    (h' : Shows more cs') : Shows (events ++ more) (cs ++ cs') := by
  rw [Shows, List.filterMap_append, List.map_append, h, h']

lemma shows_nil : Shows [] [] := rfl

lemma lookup_set (key : JavaString) (value : JsonNode) (fields : ObjectNode) :
    (ObjectNode.set key value fields).lookup key = some value := by
  induction fields with
  | nil => simp [ObjectNode.set]
  | cons field fields ih =>
    obtain ⟨k, v⟩ := field
    rw [ObjectNode.set]
    split_ifs with hkey
    · simp [hkey]
    · rw [List.lookup_cons]
      have hne : (key == k) = false := by
        rw [beq_eq_false_iff_ne]
        exact fun h => hkey h.symm
      rw [hne]
      exact ih

/-- The text whose digest names an item. -/
def itemSeed (context : Context) (key : JavaString) : JavaString :=
  context.threadId.val ++ java "|" ++ context.turnId.val ++ java "|" ++ key

/-- The snapshot of an item names the item, and has its text unless it is hidden. -/
lemma snapshot_fields {turnId : DomainId "turn_"} {item : ItemAccumulator} {status : String}
    {node : JsonNode} (h : snapshot turnId item status = .ok node) :
    ∃ fields, node = .object fields ∧ textField "itemId" fields = some item.itemId ∧
      textField "text" fields = if item.hidden then none else some item.text := by
  obtain ⟨title, -, h⟩ := bind_eq_ok.mp h
  obtain ⟨metadata, -, h⟩ := bind_eq_ok.mp h
  obtain rfl := Except.ok.inj h
  refine ⟨_, rfl, ?_, ?_⟩
  · simp [textField]
  · have hnames : java "text" ≠ java "itemId" ∧ java "text" ≠ java "turnId" ∧
        java "text" ≠ java "kind" ∧ java "text" ≠ java "status" ∧ java "text" ≠ java "title" ∧
        java "text" ≠ java "metadata" := by decide
    obtain ⟨h1, h2, h3, h4, h5, h6⟩ := hnames
    cases hhidden : item.hidden <;> cases hmetadata : item.metadata.isEmpty <;>
      simp [textField, snapshotTail, List.lookup_cons, hhidden, hmetadata, beq_false_of_ne, h1, h2,
        h3, h4, h5, h6]

/-! ## Updates -/

/-- One update of a context, with the changes of its items; `allowed` is what is asked of them. -/
inductive Touch (normalizer : EventNormalizer) (allowed : Change → Prop) (context : Context) :
    List Change → Context → Prop
  | counters {started hasVisibleText overflow : Bool} {eventCount readings : ℕ}
      {threadSequence : Int64} :
      Touch normalizer allowed context []
        { context with started, hasVisibleText, overflow, eventCount, readings, threadSequence }
  | registered {key : JavaString} {item : ItemAccumulator}
      (hnew : context.items.lookup key = none) (hbytes : item.bytes = 0) (htext : item.text = [])
      (hended : item.ended = false) (hmetadata : item.metadata = []) {hash : JavaString}
      (hdigest : digest normalizer.sha256 (itemSeed context key) = .ok hash)
      (hid : item.itemId = java "item_as_" ++ hash) :
      Touch normalizer allowed context [.registered key item] (context.setItem key item)
  | appended {key text : JavaString} {item : ItemAccumulator} {hidden : Bool} {bytes : ℕ}
      (hitem : context.items.lookup key = some item)
      (hbytes : utf8BytesAtMost text (normalizer.limits.maxItemTextBytes - item.bytes) = .ok bytes)
      (hroom : bytes ≤ normalizer.limits.maxItemTextBytes - item.bytes)
      (hallowed : allowed (.appended key item text hidden)) :
      Touch normalizer allowed context [.appended key item text hidden]
        (context.setItem key (ItemAccumulator.append item text hidden bytes))
  | closed {key : JavaString} {item : ItemAccumulator}
      (hitem : context.items.lookup key = some item) (hopen : item.ended = false) :
      Touch normalizer allowed context [.closed key item]
        (context.setItem key { item with ended := true })
  | described {key : JavaString} {name : String} {value : MetadataValue} {oldBytes newBytes : ℕ}
      {item : ItemAccumulator} (hitem : context.items.lookup key = some item)
      (hold : (item.metadata.lookup name).elim (.ok 0) (metadataCost name) = .ok oldBytes)
      (hnew : metadataCost name value = .ok newBytes)
      (hroom : context.metadataBytes + newBytes ≤ normalizer.limits.maxMetadataBytes + oldBytes) :
      Touch normalizer allowed context []
        { Context.putEntry context key name value with
          metadataBytes := context.metadataBytes + newBytes - oldBytes }
  | marked {key : JavaString} : Touch normalizer allowed context [] (Context.markRedacted context key)

lemma Touch.mono {normalizer : EventNormalizer} {allowed allowed' : Change → Prop}
    {c t : Context} {cs : List Change} (himp : ∀ change, allowed change → allowed' change)
    (h : Touch normalizer allowed c cs t) : Touch normalizer allowed' c cs t := by
  cases h with
  | counters => exact .counters
  | registered hnew hbytes htext hended hmetadata hdigest hid =>
    exact .registered hnew hbytes htext hended hmetadata hdigest hid
  | appended hitem hbytes hroom hallowed => exact .appended hitem hbytes hroom (himp _ hallowed)
  | closed hitem hopen => exact .closed hitem hopen
  | described hitem hold hnew hroom => exact .described hitem hold hnew hroom
  | marked => exact .marked

section Changes

variable {normalizer : EventNormalizer} {allowed : Change → Prop} {c : Context} {α : Type}

/-- A program that changes no item. -/
abbrev Still (normalizer : EventNormalizer) (allowed : Change → Prop) (c : Context)
    (m : Normalizing α) (Q : α → Prop) : Prop :=
  Trails (Touch normalizer allowed) c m fun a cs t => cs = [] ∧ t.items = c.items ∧ Q a

/-- A program whose events show what it changes. -/
abbrev Displays (normalizer : EventNormalizer) (allowed : Change → Prop) (c : Context)
    (m : Normalizing (List TurnEvent)) : Prop :=
  Trails (Touch normalizer allowed) c m fun events cs _ => Shows events cs

lemma trails_overBudget {failure : NormalizeFailure} {Q : α → List Change → Context → Prop} :
    Trails (Touch normalizer allowed) c (overBudget failure) Q :=
  Trails.modify_bind (.single .counters) Trails.throw

lemma still_now : Still normalizer allowed c (now normalizer) fun _ => True :=
  Trails.get_bind (Trails.modify_bind (.single .counters) (Trails.pure ⟨rfl, rfl, trivial⟩))

/-- The fields that an event begins with. -/
def IsBase (normalizer : EventNormalizer) (params : ObjectNode) : Prop :=
  ∃ context seq eventId occurredAt, params = baseFields normalizer context seq eventId occurredAt

lemma still_base {terminal : Bool} :
    Still normalizer allowed c (base normalizer terminal) (IsBase normalizer) := by
  refine Trails.get_bind (Trails.ite (fun _ => trails_overBudget) fun _ => ?_)
  refine Trails.get_bind (Trails.modify_bind (.single .counters) (Trails.lift_bind fun hash _ => ?_))
  refine Trails.bind still_now fun text cs t _ ht => ?_
  obtain ⟨rfl, hitems, -⟩ := ht
  exact Trails.pure ⟨rfl, hitems, _, _, _, _, rfl⟩

/-! ## Items under their keys -/

lemma lookup_setItem_self (items : List (JavaString × ItemAccumulator)) (key : JavaString)
    (item : ItemAccumulator) : (setItem key item items).lookup key = some item := by
  induction items with
  | nil => simp [setItem]
  | cons entry items ih =>
    rw [setItem]
    split_ifs with h
    · simp
    · obtain ⟨k, i⟩ := entry
      rw [List.lookup_cons, beq_false_of_ne fun h' => h h'.symm]
      exact ih

variable {key : JavaString} {t : Context} {item : ItemAccumulator} {rawKey : Option JavaString}
  {kind : ItemKind} {hidden : Bool} {events : List TurnEvent} {title : String}

lemma lookup_setItem_of_ne (items : List (JavaString × ItemAccumulator)) {key' : JavaString}
    (item : ItemAccumulator) (hne : key' ≠ key) :
    (setItem key item items).lookup key' = items.lookup key' := by
  induction items with
  | nil => simp [setItem, List.lookup_cons, beq_false_of_ne hne]
  | cons entry items ih =>
    obtain ⟨k, i⟩ := entry
    rw [setItem]
    split_ifs with h
    · have hk : (key' == k) = false := beq_false_of_ne fun h' => hne (h'.trans h)
      simp [List.lookup_cons, beq_false_of_ne hne, hk]
    · rw [List.lookup_cons, List.lookup_cons, ih]

/-- Every item is still under its key, with the same identity and as open as before. -/
def SameLives (c t : Context) : Prop :=
  ∀ key, (t.items.lookup key).map (fun item => (item.itemId, item.ended)) =
    (c.items.lookup key).map fun item => (item.itemId, item.ended)

lemma SameLives.refl (c : Context) : SameLives c c := fun _ => rfl

lemma SameLives.trans {u : Context} (h : SameLives c t) (h' : SameLives t u) : SameLives c u :=
  fun key => (h' key).trans (h key)

lemma sameLives_setItem {item' : ItemAccumulator} (hitem : c.items.lookup key = some item)
    (hid : item'.itemId = item.itemId) (hended : item'.ended = item.ended) :
    SameLives c (c.setItem key item') := by
  intro k
  by_cases hk : k = key
  · rw [hk, Context.setItem, lookup_setItem_self, hitem]
    simp [hid, hended]
  · rw [Context.setItem, lookup_setItem_of_ne _ _ hk]

lemma findAmong_sameLives (h : SameLives c t) (kinds : List ItemKind)
    (hfound : findAmong normalizer t rawKey kinds = .ok (some (key, item))) :
    ∃ before, findAmong normalizer c rawKey kinds = .ok (some (key, before)) ∧
      before.itemId = item.itemId ∧ before.ended = item.ended := by
  induction kinds with
  | nil => cases hfound
  | cons kind kinds ih =>
    obtain ⟨k, hk, hfound⟩ := bind_eq_ok.mp hfound
    have hsame := h k
    rw [findAmong, hk, ok_bind]
    cases hlookup : t.items.lookup k with
    | some found =>
      rw [hlookup] at hfound hsame
      obtain ⟨rfl, rfl⟩ := Prod.mk.inj (Option.some_inj.mp (Except.ok.inj hfound))
      cases hbefore : c.items.lookup k with
      | none =>
        rw [hbefore] at hsame
        cases hsame
      | some before =>
        rw [hbefore] at hsame
        obtain ⟨hid, hended⟩ := Prod.mk.inj (Option.some_inj.mp hsame)
        exact ⟨before, rfl, hid.symm, hended.symm⟩
    | none =>
      rw [hlookup] at hfound hsame
      cases hbefore : c.items.lookup k with
      | none => exact ih hfound
      | some before =>
        rw [hbefore] at hsame
        cases hsame

/-! ## Events of an item -/

lemma still_itemEvent {method status : String} {terminal : Bool} :
    Still normalizer allowed c (itemEvent normalizer method item status terminal) fun event =>
      event.method = method ∧
        (method = "item/started" → streamStep event = some (.started item.itemId)) ∧
        (method = "item/completed" → streamStep event = some
          (.completed item.itemId (if item.hidden then none else some item.text))) := by
  refine Trails.bind still_base fun params cs t _ ht => ?_
  obtain ⟨rfl, hitems, -⟩ := ht
  refine Trails.get_bind (Trails.lift_bind fun node hnode => Trails.pure ⟨rfl, hitems, rfl, ?_, ?_⟩)
  · rintro rfl
    obtain ⟨fields, rfl, hid, -⟩ := snapshot_fields hnode
    simp [streamStep, objectField, lookup_set, hid]
  · rintro rfl
    obtain ⟨fields, rfl, hid, htext⟩ := snapshot_fields hnode
    simp [streamStep, objectField, lookup_set, hid, htext]

/-- What `startBlock` returns: nothing when there is an item under the key, and otherwise the start
of a new one. -/
def Starts (normalizer : EventNormalizer) (c : Context) (rawKey : Option JavaString)
    (kind : ItemKind) (events : List TurnEvent) (cs : List Change) (t : Context) : Prop :=
  ∃ key, EventNormalizerPolicy.key normalizer.sha256 rawKey (java kind.name) = .ok key ∧
    (events = [] ∧ cs = [] ∧ t.items = c.items ∧ (c.items.lookup key).isSome ∨
      ∃ item event, events = [event] ∧ event.method = "item/started" ∧
        streamStep event = some (.started item.itemId) ∧ cs = [.registered key item] ∧
        c.items.lookup key = none ∧ t.items = setItem key item c.items ∧ item.ended = false)

lemma trails_startBlock {title : JavaString} :
    Trails (Touch normalizer allowed) c (startBlock normalizer rawKey kind title hidden)
      (Starts normalizer c rawKey kind) := by
  refine Trails.lift_bind fun key hkey => Trails.get_bind (Trails.ite (fun hsome => ?_) fun hnone => ?_)
  · exact Trails.pure ⟨key, hkey, .inl ⟨rfl, rfl, rfl, hsome⟩⟩
  refine Trails.ite (fun _ => trails_overBudget) fun _ => Trails.lift_bind fun hash hhash => ?_
  have hnew : c.items.lookup key = none := Option.not_isSome_iff_eq_none.mp hnone
  refine Trails.modify_bind (.single (.registered hnew rfl rfl rfl rfl hhash rfl)) ?_
  refine Trails.bind still_itemEvent fun event cs t _ ht => ?_
  obtain ⟨rfl, hitems, hmethod, hstep, -⟩ := ht
  exact Trails.pure ⟨key, hkey, .inr ⟨_, event, rfl, hmethod, hstep rfl, rfl, hnew, hitems, rfl⟩⟩

lemma Starts.shows {cs : List Change} (h : Starts normalizer c rawKey kind events cs t) :
    Shows events cs := by
  obtain ⟨key, -, ⟨rfl, rfl, -⟩ | ⟨item, event, rfl, -, hstep, rfl, -⟩⟩ := h
  · exact shows_nil
  · simp [Shows, hstep, Change.shown]

/-! ## Deltas and closes -/

lemma still_findBlock :
    Trails (Touch normalizer allowed) c (findBlock normalizer rawKey hidden) fun found cs t =>
      cs = [] ∧ t = c ∧ findAmong normalizer c rawKey (categories hidden) = .ok found :=
  Trails.get_bind (Trails.lift fun _ hfound => ⟨rfl, rfl, hfound⟩)

lemma trails_appendText {text : JavaString} (hitem : c.items.lookup key = some item)
    (hallowed : allowed (.appended key item text hidden)) :
    Trails (Touch normalizer allowed) c (appendText normalizer key item text hidden)
      fun event cs _ => cs = [.appended key item text hidden] ∧
        streamStep event = some (.delta item.itemId (if hidden then [] else text)) := by
  refine Trails.lift_bind fun bytes hbytes => Trails.ite (fun _ => trails_overBudget) fun hroom => ?_
  have happended : Touch normalizer allowed c [.appended key item text hidden]
      (c.setItem key (ItemAccumulator.append item text hidden bytes)) :=
    .appended hitem hbytes (Nat.not_lt.mp hroom) hallowed
  refine Trails.modify_bind ((Trail.single happended).append (.single .counters)) ?_
  refine Trails.bind still_base fun params cs t _ ht => ?_
  obtain ⟨rfl, -, context, seq, eventId, occurredAt, rfl⟩ := ht
  refine Trails.pure ⟨by simp, ?_⟩
  have hnames : ∀ name ∈ ["serverInstanceId", "threadId", "turnId", "seq", "eventId",
      "occurredAt"], java "itemId" ≠ java name ∧ java "delta" ≠ java name := by decide +kernel
  simp only [List.forall_mem_cons] at hnames
  obtain ⟨h1, h2, h3, h4, h5, h6, -⟩ := hnames
  have hdelta : java "delta" ≠ java "itemId" := by decide
  simp [streamStep, textField, baseFields, deltaFields, List.lookup_cons, beq_false_of_ne, h1, h2, h3,
    h4, h5, h6, hdelta]

lemma trails_allocateBlock {found : Option (JavaString × ItemAccumulator)} :
    Trails (Touch normalizer allowed) c (allocateBlock normalizer rawKey hidden found)
      fun events cs t => Shows events cs ∧
        (found.isSome = true → t = c) ∧
        (found = none → ∀ key item, t.items.lookup key = some item →
          c.items.lookup key = some item ∨ item.ended = false) := by
  cases found with
  | some entry => exact Trails.pure ⟨shows_nil, fun _ => rfl, by simp⟩
  | none =>
    refine trails_startBlock.weaken fun events cs t h => ⟨h.shows, by simp, fun _ key item hlookup => ?_⟩
    obtain ⟨k, -, ⟨-, -, hitems, -⟩ | ⟨new, event, -, -, -, -, -, hitems, hopen⟩⟩ := h
    · rw [hitems] at hlookup
      exact .inl hlookup
    · rw [hitems] at hlookup
      by_cases hkey : key = k
      · rw [hkey, lookup_setItem_self] at hlookup
        obtain rfl := Option.some_inj.mp hlookup
        exact .inr hopen
      · rw [lookup_setItem_of_ne _ _ hkey] at hlookup
        exact .inl hlookup

lemma lookup_of_findAmong_none {kinds : List ItemKind}
    (hnone : findAmong normalizer c rawKey kinds = .ok none)
    (hfound : findAmong normalizer t rawKey kinds = .ok (some (key, item))) :
    c.items.lookup key = none := by
  induction kinds with
  | nil => cases hfound
  | cons kind kinds ih =>
    obtain ⟨k, hk, hfound⟩ := bind_eq_ok.mp hfound
    rw [findAmong, hk, ok_bind] at hnone
    cases hbefore : c.items.lookup k with
    | some before =>
      rw [hbefore] at hnone
      cases hnone
    | none =>
      rw [hbefore] at hnone
      cases hlookup : t.items.lookup k with
      | none =>
        rw [hlookup] at hfound
        exact ih hnone hfound
      | some found =>
        rw [hlookup] at hfound
        obtain ⟨rfl, -⟩ := Prod.mk.inj (Option.some_inj.mp (Except.ok.inj hfound))
        exact hbefore

/-- `appendBlock`: what is asked of the delta concerns the block that was there, or a new one. -/
lemma trails_appendBlock {text : Option JavaString}
    (hallowed : ∀ key item s, text = some s → s ≠ [] →
      findAmong normalizer c rawKey (categories hidden) = .ok (some (key, item)) ∨
        item.ended = false → allowed (.appended key item s hidden)) :
    Displays normalizer allowed c (appendBlock normalizer rawKey text hidden) := by
  refine Trails.bind still_findBlock fun first cs₁ t₁ _ h₁ => ?_
  obtain ⟨rfl, rfl, hfirst⟩ := h₁
  refine Trails.bind trails_allocateBlock fun started cs₂ t₂ _ h₂ => ?_
  obtain ⟨hstarted, hsame, hnew⟩ := h₂
  refine Trails.bind still_findBlock fun found cs₃ t₃ _ h₃ => ?_
  obtain ⟨rfl, rfl, hfound⟩ := h₃
  rcases found with - | ⟨key, item⟩
  · exact trails_overBudget
  have hitem : t₃.items.lookup key = some item := findAmong_eq_ok hfound _ rfl
  rcases text with - | - | ⟨u, units⟩
  · exact Trails.pure (by simpa using hstarted)
  · exact Trails.pure (by simpa using hstarted)
  -- the block that the text goes to was there before, or it has just been started
  have hwhere : findAmong normalizer t₁ rawKey (categories hidden) = .ok (some (key, item)) ∨
      item.ended = false := by
    cases first with
    | some entry =>
      rw [hsame rfl] at hfound
      exact .inl hfound
    | none =>
      refine (hnew rfl key item hitem).elim (fun hbefore => ?_) .inr
      rw [lookup_of_findAmong_none hfirst hfound] at hbefore
      cases hbefore
  have hasked : allowed (.appended key item (u :: units) hidden) :=
    hallowed key item (u :: units) rfl (by simp) hwhere
  refine Trails.bind (trails_appendText hitem hasked) fun event cs₄ t₄ _ h₄ => ?_
  obtain ⟨rfl, hstep⟩ := h₄
  refine Trails.pure ?_
  have hshows : Shows [event] [.appended key item (u :: units) hidden] := by
    simp [Shows, hstep, Change.shown]
  simpa using hstarted.append hshows

lemma still_findAnyBlock :
    Trails (Touch normalizer allowed) c (findAnyBlock normalizer rawKey) fun found cs t =>
      cs = [] ∧ t = c ∧ ∀ entry, found = some entry →
        c.items.lookup entry.1 = some entry.2 := by
  refine Trails.bind still_findBlock fun found cs t _ h => ?_
  obtain ⟨rfl, rfl, hfound⟩ := h
  cases found with
  | none =>
    refine still_findBlock.weaken fun found cs t h => ?_
    obtain ⟨rfl, rfl, hfound⟩ := h
    exact ⟨rfl, rfl, findAmong_eq_ok hfound⟩
  | some entry => exact Trails.pure ⟨rfl, rfl, findAmong_eq_ok hfound⟩

lemma trails_endBlock :
    Displays normalizer allowed c (endBlock normalizer rawKey) := by
  refine Trails.bind still_findAnyBlock fun found cs t _ h => ?_
  obtain ⟨rfl, rfl, hfound⟩ := h
  rcases found with - | ⟨key, item⟩
  · exact Trails.pure shows_nil
  refine Trails.ite (fun _ => Trails.pure shows_nil) fun hopen => ?_
  have hclosed : Touch normalizer allowed t [.closed key item]
      (t.setItem key { item with ended := true }) :=
    .closed (hfound _ rfl) (by simpa using hopen)
  refine Trails.modify_bind (.single hclosed) ?_
  refine Trails.bind still_itemEvent fun event cs t _ h => ?_
  obtain ⟨rfl, -, -, -, hstep⟩ := h
  refine Trails.pure ?_
  simp [Shows, hstep rfl, Change.shown]

/-! ## Metadata -/

lemma sameLives_putEntry {name : String} {value : MetadataValue} :
    SameLives c (Context.putEntry c key name value) := by
  rw [Context.putEntry]
  cases hitem : c.items.lookup key with
  | none => exact SameLives.refl c
  | some item => exact sameLives_setItem hitem rfl rfl

lemma sameLives_markRedacted : SameLives c (Context.markRedacted c key) := by
  rw [Context.markRedacted]
  cases hitem : c.items.lookup key with
  | none => exact SameLives.refl c
  | some item => exact sameLives_setItem hitem rfl rfl

/-- A program that leaves every item its life. -/
abbrev Describes (normalizer : EventNormalizer) (allowed : Change → Prop) (c : Context)
    (m : Normalizing Unit) : Prop :=
  Trails (Touch normalizer allowed) c m fun _ cs t => cs = [] ∧ SameLives c t

lemma describes_putMetadata {name : String} {value : MetadataValue}
    (hkey : (c.items.lookup key).isSome) :
    Describes normalizer allowed c (putMetadata normalizer key name value) := by
  refine Trails.ite (fun _ => ?_) fun _ => Trails.pure ⟨rfl, SameLives.refl c⟩
  refine Trails.lift_bind fun safeValue _ => Trails.get_bind ?_
  refine Trails.lift_bind fun oldBytes hold => Trails.lift_bind fun newBytes hnew => ?_
  refine Trails.ite (fun _ => trails_overBudget) fun hroom => ?_
  obtain ⟨item, hitem⟩ := Option.isSome_iff_exists.mp hkey
  rw [hitem, Option.bind_some] at hold
  refine Trails.modify (.single (.described hitem hold hnew (Nat.not_lt.mp hroom))) ⟨rfl, ?_⟩
  exact sameLives_putEntry

lemma SameLives.isSome (h : SameLives c t) (hkey : (c.items.lookup key).isSome) :
    (t.items.lookup key).isSome := by
  have hsame := congrArg Option.isSome (h key)
  simpa [hkey] using hsame

lemma describes_putAll (entries : List (String × MetadataValue))
    (hkey : (c.items.lookup key).isSome) :
    Describes normalizer allowed c (putAll normalizer key entries) := by
  induction entries generalizing c with
  | nil => exact Trails.pure ⟨rfl, SameLives.refl c⟩
  | cons entry entries ih =>
    refine Trails.bind (describes_putMetadata hkey) fun _ cs t _ h => ?_
    obtain ⟨rfl, hlives⟩ := h
    refine (ih (hlives.isSome hkey)).weaken fun _ cs u h => ?_
    obtain ⟨rfl, hmore⟩ := h
    exact ⟨rfl, hlives.trans hmore⟩

/-- The first of the events, if it is a start, is the one of the item under the key. -/
def HeadStarts (c : Context) (key : JavaString) (events : List TurnEvent) : Prop :=
  ∀ event rest, events = event :: rest → event.method = "item/started" →
    ∃ item, c.items.lookup key = some item ∧ streamStep event = some (.started item.itemId)

lemma HeadStarts.sameLives (h : HeadStarts c key events) (hlives : SameLives c t) :
    HeadStarts t key events := by
  intro event rest hevents hmethod
  obtain ⟨item, hitem, hstep⟩ := h event rest hevents hmethod
  have hsame := hlives key
  rw [hitem] at hsame
  cases hafter : t.items.lookup key with
  | none =>
    rw [hafter] at hsame
    cases hsame
  | some after =>
    rw [hafter] at hsame
    obtain ⟨hid, -⟩ := Prod.mk.inj (Option.some_inj.mp hsame)
    exact ⟨after, rfl, by rw [hstep, hid]⟩

lemma still_rewriteStartedItem (hhead : HeadStarts c key events) :
    Trails (Touch normalizer allowed) c (rewriteStartedItem events key) fun written cs t =>
      cs = [] ∧ t = c ∧ written.filterMap streamStep = events.filterMap streamStep := by
  refine Trails.get_bind ?_
  cases events with
  | nil => exact Trails.pure ⟨rfl, rfl, rfl⟩
  | cons event rest =>
    cases hitem : c.items.lookup key with
    | none => exact Trails.pure ⟨rfl, rfl, rfl⟩
    | some item =>
      refine Trails.ite (fun hmethod => ?_) fun _ => Trails.pure ⟨rfl, rfl, rfl⟩
      refine Trails.lift_bind fun node hnode => Trails.pure ⟨rfl, rfl, ?_⟩
      obtain ⟨found, hfound, hstep⟩ := hhead event rest rfl hmethod
      obtain rfl := Option.some_inj.mp (hitem.symm.trans hfound)
      obtain ⟨fields, rfl, hid, -⟩ := snapshot_fields hnode
      have hwritten : streamStep ⟨"item/started",
          ObjectNode.set (java "item") (.object fields) event.params⟩ =
          some (.started item.itemId) := by
        simp [streamStep, objectField, lookup_set, hid]
      rw [List.filterMap_cons, List.filterMap_cons, hwritten, hstep]

lemma trails_describe {entries : List (String × MetadataValue)} (hkey : (c.items.lookup key).isSome)
    (hhead : HeadStarts c key events) :
    Trails (Touch normalizer allowed) c (describe normalizer events key entries)
      fun written cs t => cs = [] ∧ SameLives c t ∧
        written.filterMap streamStep = events.filterMap streamStep := by
  refine Trails.bind (describes_putAll entries hkey) fun _ cs t _ h => ?_
  obtain ⟨rfl, hlives⟩ := h
  refine (still_rewriteStartedItem (hhead.sameLives hlives)).weaken fun written cs u h => ?_
  obtain ⟨rfl, rfl, hwritten⟩ := h
  exact ⟨rfl, hlives, hwritten⟩

/-- After `startBlock` the item is there, and the start is its start. -/
lemma Starts.head {cs : List Change} (h : Starts normalizer c rawKey kind events cs t)
    (hkey : EventNormalizerPolicy.key normalizer.sha256 rawKey (java kind.name) = .ok key) :
    (t.items.lookup key).isSome ∧ HeadStarts t key events := by
  obtain ⟨k, hk, hcases⟩ := h
  obtain rfl := Except.ok.inj (hk.symm.trans hkey)
  rcases hcases with ⟨rfl, rfl, hitems, hsome⟩ | ⟨item, event, rfl, -, hstep, -, -, hitems, -⟩
  · rw [hitems]
    exact ⟨hsome, fun _ _ h => by cases h⟩
  · have hitem : t.items.lookup k = some item := by rw [hitems, lookup_setItem_self]
    refine ⟨by rw [hitem]; rfl, fun e rest hevents _ => ?_⟩
    obtain ⟨rfl, -⟩ := List.cons.inj hevents
    exact ⟨item, hitem, hstep⟩

/-! ## The functions of the events -/

lemma trails_commentaryNotice {rawKey : JavaString} {metadata : List (String × MetadataValue)} :
    Displays normalizer allowed c (commentaryNotice normalizer rawKey title metadata) := by
  refine Trails.bind trails_startBlock fun started cs t _ h => ?_
  refine Trails.lift_bind fun key hkey => ?_
  obtain ⟨hsome, hhead⟩ := h.head hkey
  refine Trails.bind (trails_describe hsome hhead) fun described cs' u _ h' => ?_
  obtain ⟨rfl, -, hwritten⟩ := h'
  refine Trails.bind trails_endBlock fun ended cs'' v _ hended => Trails.pure ?_
  have hdescribed : Shows described cs := hwritten.trans h.shows
  simpa using hdescribed.append hended

lemma trails_startTool {toolCallId toolCallName : Option JavaString} :
    Displays normalizer allowed c
      (startTool normalizer rawKey kind title toolCallId toolCallName) := by
  refine Trails.lift_bind fun toolName _ => ?_
  refine Trails.bind trails_startBlock fun started cs t _ h => ?_
  refine Trails.lift_bind fun key hkey => Trails.lift_bind fun operation _ => ?_
  refine Trails.lift_bind fun kindName _ => ?_
  obtain ⟨hsome, hhead⟩ := h.head hkey
  refine (trails_describe hsome hhead).weaken fun events cs' u h' => ?_
  obtain ⟨rfl, -, hwritten⟩ := h'
  rw [List.append_nil]
  exact hwritten.trans h.shows

lemma trails_endTool :
    Displays normalizer allowed c (endTool normalizer rawKey) := by
  refine Trails.bind still_findBlock fun found cs t _ h => ?_
  obtain ⟨rfl, rfl, hfound⟩ := h
  have hmark : Describes normalizer allowed t (markCompleted normalizer found) := by
    cases found with
    | none => exact Trails.pure ⟨rfl, SameLives.refl t⟩
    | some entry => exact describes_putMetadata (by rw [findAmong_eq_ok hfound entry rfl]; rfl)
  refine Trails.bind hmark fun _ cs u _ h => ?_
  obtain ⟨rfl, -⟩ := h
  exact trails_endBlock

lemma trails_normalizeApproval {toolCount : ℕ} :
    Displays normalizer allowed c (normalizeApproval normalizer toolCount) := by
  refine Trails.bind trails_startBlock fun started cs t _ h => ?_
  refine Trails.lift_bind fun key hkey => ?_
  obtain ⟨hsome, hhead⟩ := h.head hkey
  refine (trails_describe hsome hhead).weaken fun events cs' u h' => ?_
  obtain ⟨rfl, -, hwritten⟩ := h'
  rw [List.append_nil]
  exact hwritten.trans h.shows

lemma trails_redactPayload {payload : Option JavaString} {marker : String}
    (hfound : findAmong normalizer c rawKey (categories false) = .ok (some (key, item)))
    (hopen : item.ended = false)
    (hallowed : ∀ k i, i.ended = false → allowed (.appended k i (java marker) false)) :
    Displays normalizer allowed c
      (redactPayload normalizer rawKey key item.redactionMarkerAdded marker payload) := by
  have hitem : c.items.lookup key = some item := findAmong_eq_ok hfound _ rfl
  refine Trails.lift_bind fun bytes _ => ?_
  refine Trails.bind (describes_putMetadata (by rw [hitem]; rfl)) fun _ cs t _ h => ?_
  obtain ⟨rfl, hlives⟩ := h
  refine Trails.ite (fun _ => Trails.pure shows_nil) fun _ => ?_
  refine Trails.modify_bind (.single .marked) ?_
  -- the search still finds the item, which is as open as before
  refine trails_appendBlock fun k i s hs _ hwhere => ?_
  obtain rfl := Option.some_inj.mp hs
  refine hallowed k i (hwhere.elim (fun hagain => ?_) id)
  obtain ⟨before, hbefore, -, hended⟩ :=
    findAmong_sameLives (hlives.trans sameLives_markRedacted) _ hagain
  obtain ⟨-, rfl⟩ :=
    Prod.mk.inj (Option.some_inj.mp (Except.ok.inj (hfound.symm.trans hbefore)))
  rw [← hended, hopen]

lemma trails_allocateTool {found : Option (JavaString × ItemAccumulator)} :
    Displays normalizer allowed c (allocateTool normalizer rawKey found) := by
  cases found with
  | some entry => exact Trails.pure shows_nil
  | none => exact trails_startBlock.weaken fun _ _ _ h => h.shows

lemma trails_appendSafeToolDelta {payload : Option JavaString} {marker : String}
    (hallowed : ∀ key item, item.ended = false → allowed (.appended key item (java marker) false)) :
    Displays normalizer allowed c (appendSafeToolDelta normalizer rawKey marker payload) := by
  refine Trails.bind still_findBlock fun first cs₁ t₁ _ h₁ => ?_
  obtain ⟨rfl, rfl, -⟩ := h₁
  refine Trails.bind trails_allocateTool fun started cs₂ t₂ _ hstarted => ?_
  refine Trails.bind still_findBlock fun found cs₃ t₃ _ h₃ => ?_
  obtain ⟨rfl, rfl, hfound⟩ := h₃
  rcases found with - | ⟨key, item⟩
  · exact Trails.pure (by simpa using hstarted)
  refine Trails.ite (fun _ => Trails.pure (by simpa using hstarted)) fun hopen => ?_
  refine Trails.bind (trails_redactPayload hfound (by simpa using hopen) hallowed)
    fun events cs₄ t₄ _ hevents => Trails.pure ?_
  simpa using hstarted.append hevents

lemma still_appendBlock_nil {entry : JavaString × ItemAccumulator}
    (hfound : findAmong normalizer c rawKey (categories hidden) = .ok (some entry)) :
    Trails (Touch normalizer allowed) c (appendBlock normalizer rawKey (some []) hidden)
      fun events cs t => events = [] ∧ cs = [] ∧ t = c := by
  refine Trails.bind still_findBlock fun first cs₁ t₁ _ h₁ => ?_
  obtain ⟨rfl, rfl, hfirst⟩ := h₁
  obtain rfl := Except.ok.inj (hfound.symm.trans hfirst)
  refine Trails.bind (Trails.pure (Q := fun events cs t => events = [] ∧ cs = [] ∧ t = t₁)
    ⟨rfl, rfl, rfl⟩) fun started cs₂ t₂ _ h₂ => ?_
  obtain ⟨rfl, rfl, rfl⟩ := h₂
  refine Trails.bind still_findBlock fun found cs₃ t₃ _ h₃ => ?_
  obtain ⟨rfl, rfl, hagain⟩ := h₃
  obtain rfl := Except.ok.inj (hfound.symm.trans hagain)
  exact Trails.pure ⟨rfl, rfl, rfl⟩

lemma trails_normalizeHint {blockId hintSource hint : Option JavaString} :
    Displays normalizer allowed c (normalizeHint normalizer blockId hintSource hint) := by
  refine Trails.bind trails_startBlock fun started cs₁ t₁ _ h₁ => ?_
  have hstarted := h₁.shows
  obtain ⟨k, hk, -⟩ := id h₁
  obtain ⟨hsome, hhead⟩ := h₁.head hk
  obtain ⟨item, hitem⟩ := Option.isSome_iff_exists.mp hsome
  have hfound : findAmong normalizer t₁ (some (java "hint:" ++ orNull blockId)) (categories true) =
      .ok (some (k, item)) := by
    rw [categories, if_pos rfl, findAmong, hk, ok_bind, hitem]
  refine Trails.bind (still_appendBlock_nil hfound) fun appended cs₂ t₂ _ h₂ => ?_
  obtain ⟨rfl, rfl, rfl⟩ := h₂
  refine Trails.lift_bind fun key hkey => ?_
  obtain rfl := Except.ok.inj (hk.symm.trans hkey)
  refine Trails.lift_bind fun source _ => ?_
  refine Trails.bind (describes_putMetadata hsome) fun _ cs₃ t₃ _ h₃ => ?_
  obtain ⟨rfl, hlives₃⟩ := h₃
  refine Trails.lift_bind fun bytes _ => ?_
  refine Trails.bind (describes_putMetadata (hlives₃.isSome hsome)) fun _ cs₄ t₄ _ h₄ => ?_
  obtain ⟨rfl, hlives₄⟩ := h₄
  have hlives := hlives₃.trans hlives₄
  refine Trails.bind (describes_putMetadata (hlives.isSome hsome)) fun _ cs₅ t₅ _ h₅ => ?_
  obtain ⟨rfl, hlives₅⟩ := h₅
  rw [List.append_nil]
  refine Trails.bind (still_rewriteStartedItem (hhead.sameLives (hlives.trans hlives₅)))
    fun described cs₆ t₆ _ h₆ => ?_
  obtain ⟨rfl, rfl, hwritten⟩ := h₆
  refine Trails.bind trails_endBlock fun ended cs₇ t₇ _ hended => Trails.pure ?_
  have hdescribed : Shows described cs₁ := hwritten.trans hstarted
  simpa using hdescribed.append hended

/-! ## Every event -/

/-- The text that an event appends to an item, and whether it is hidden. -/
def appendedText : AgentEvent → Option (JavaString × Bool)
  | .textBlockDelta _ (some text) => some (text, false)
  | .dataBlockDelta _ (some text) => some (text, true)
  | .toolCallDelta _ _ => some (java "[tool input redacted]", false)
  | .toolResultTextDelta _ _ => some (java "[tool output redacted]", false)
  | .toolResultDataDelta _ => some (java "[tool data redacted]", false)
  | .agentResult (some text) => some (text, false)
  | _ => none

/-- The text of an event goes to a block that is closed: `appendBlock` does not ask. -/
def Late (normalizer : EventNormalizer) (c : Context) : AgentEvent → Prop
  | .textBlockDelta blockId (some (_ :: _)) => ∃ key item,
    findAmong normalizer c blockId (categories false) = .ok (some (key, item)) ∧ item.ended = true
  | .dataBlockDelta blockId (some (_ :: _)) => ∃ key item,
    findAmong normalizer c blockId (categories true) = .ok (some (key, item)) ∧ item.ended = true
  | .agentResult (some (_ :: _)) => c.hasVisibleText = false ∧ ∃ key item,
    EventNormalizerPolicy.key normalizer.sha256 (some (java "result"))
      (java ItemKind.agentMessage.name) = .ok key ∧
    c.items.lookup key = some item ∧ item.ended = true
  | _ => False

lemma trails_normalizeAgentStart {name : Option JavaString} :
    Displays normalizer allowed c (normalizeAgentStart normalizer name) := by
  refine Trails.get_bind (Trails.ite (fun _ => Trails.pure shows_nil) fun _ => ?_)
  refine Trails.modify_bind (.single .counters) ?_
  refine Trails.bind still_base fun params cs₁ t₁ _ h₁ => ?_
  obtain ⟨rfl, -, -⟩ := h₁
  refine Trails.bind still_now fun startedAt cs₂ t₂ _ h₂ => ?_
  obtain ⟨rfl, -, -⟩ := h₂
  exact Trails.lift_bind fun agent _ => Trails.pure (by simp [Shows, streamStep])

lemma trails_normalizeAgentResult {text : Option JavaString}
    (hallowed : ∀ key item s, text = some s → s ≠ [] →
      item.ended = false ∨ Late normalizer c (.agentResult text) →
        allowed (.appended key item s false)) :
    Displays normalizer allowed c (normalizeAgentResult normalizer text) := by
  refine Trails.get_bind ?_
  rcases text with - | - | ⟨u, units⟩
  · exact Trails.pure shows_nil
  · exact Trails.pure shows_nil
  refine Trails.ite (fun _ => Trails.pure shows_nil) fun hvisible => ?_
  refine Trails.bind trails_startBlock fun started cs₁ t₁ _ h₁ => ?_
  have hstarted := h₁.shows
  obtain ⟨k, hk, hcases⟩ := id h₁
  have hitem := (h₁.head hk).1
  refine Trails.bind (trails_appendBlock fun key item s hs hne hwhere => ?_)
    fun appended cs₂ t₂ _ happended => ?_
  · -- the block is the one that was started, or it was there before
    refine hallowed key item s hs hne ?_
    cases hended : item.ended with
    | false => exact .inl rfl
    | true =>
      have hfound := hwhere.resolve_right (by simp [hended])
      obtain ⟨found, hlookup⟩ := Option.isSome_iff_exists.mp hitem
      rw [categories, if_neg (by simp), findAmong, hk, ok_bind, hlookup] at hfound
      obtain ⟨rfl, rfl⟩ := Prod.mk.inj (Option.some_inj.mp (Except.ok.inj hfound))
      refine .inr ⟨by simpa using hvisible, k, found, hk, ?_, hended⟩
      rcases hcases with ⟨-, -, hitems, -⟩ | ⟨new, event, -, -, -, -, -, hitems, hopen⟩
      · rw [← hitems]
        exact hlookup
      · rw [hitems, lookup_setItem_self] at hlookup
        obtain rfl := Option.some_inj.mp hlookup
        rw [hopen] at hended
        cases hended
  · refine Trails.bind trails_endBlock fun ended cs₃ t₃ _ hended => Trails.pure ?_
    simpa using (hstarted.append happended).append hended

lemma trails_notice {reply : Except NormalizeFailure JavaString} {rawKey : JavaString}
    {metadata : JavaString → List (String × MetadataValue)} :
    Displays normalizer allowed c (liftExcept reply >>= fun reply =>
      commentaryNotice normalizer rawKey title (metadata reply)) :=
  Trails.lift_bind fun _ _ => trails_commentaryNotice

/-- **Every event of AgentScope** that does not end the turn shows the changes that it makes. -/
theorem trails_dispatch {event : AgentEvent} (hopen : terminalOf event = none)
    (hallowed : ∀ key item text hidden, appendedText event = some (text, hidden) →
      item.ended = false ∨ Late normalizer c event → allowed (.appended key item text hidden)) :
    Displays normalizer allowed c (dispatch normalizer event) := by
  cases event with
  | agentStart name => exact trails_normalizeAgentStart
  | agentResult text =>
    refine trails_normalizeAgentResult fun key item s hs _ hwhere => ?_
    exact hallowed key item s false (by rw [hs]; rfl) hwhere
  | modelCallStart | modelCallEnd | externalExecutionResult => exact trails_notice
  | userConfirmResult => exact trails_notice
  | textBlockStart | dataBlockStart => exact trails_startBlock.weaken fun _ _ _ h => h.shows
  | textBlockDelta blockId delta | dataBlockDelta blockId delta =>
    refine trails_appendBlock fun key item s hs hne hwhere => ?_
    refine hallowed key item s _ (by rw [hs]; rfl) ?_
    cases hended : item.ended with
    | false => exact .inl rfl
    | true =>
      obtain ⟨u, units, rfl⟩ := List.exists_cons_of_ne_nil hne
      rw [hs]
      exact .inr ⟨key, item, hwhere.resolve_right (by simp [hended]), hended⟩
  | textBlockEnd | dataBlockEnd => exact trails_endBlock
  | toolCallStart | toolResultStart => exact trails_startTool
  | toolCallDelta | toolResultTextDelta | toolResultDataDelta =>
    exact trails_appendSafeToolDelta fun key item hended =>
      hallowed key item _ false rfl (.inl hended)
  | toolCallEnd | toolResultEnd => exact trails_endTool
  | requireUserConfirm => exact trails_normalizeApproval
  | hintBlock => exact trails_normalizeHint
  | thinkingBlock | other => exact Trails.pure shows_nil
  | agentEnd | requireExternalExecution | exceedMaxIters | allToolsDenied | requestStop =>
    cases hopen

end Changes

end JaDesktop.Sidecar
