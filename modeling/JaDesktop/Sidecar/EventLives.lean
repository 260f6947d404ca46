import JaDesktop.Sidecar.EventBudgets

/-!
# The life of an item on the stream

The stream tells the story of every item: its start, its deltas, and its completion with the text that
the deltas make.  The stories are an invariant of the trail of a call (`Touch.telling`), as long as no
text comes late for a block that is closed and no call fails in the middle of a change.  The call that
ends the turn completes all open items, unless its batch is replaced by the compact end.
-/

namespace JaDesktop.Sidecar

open EventNormalizerPolicy EventNormalizer

/-! ## Stories -/

/-- The item of a step. -/
def StreamStep.itemId : StreamStep → Option JavaString
  | started itemId => some itemId
  | delta itemId _ => some itemId
  | completed itemId _ => some itemId
  | turnCompleted _ => none

/-- What a list of events says. -/
def streamOf (events : List TurnEvent) : List StreamStep := events.filterMap streamStep

/-- What the stream says of one item. -/
def stepsOf (itemId : JavaString) (steps : List StreamStep) : List StreamStep :=
  steps.filter fun step => step.itemId == some itemId

/-- The story of an item: its start, its deltas, and its completion if it has one. -/
def story (itemId : JavaString) (deltas : List JavaString) (completion : Option (Option JavaString)) :
    List StreamStep :=
  .started itemId :: (deltas.map (.delta itemId) ++ completion.toList.map (.completed itemId))

/-- The text that a completed item shows. -/
def ItemAccumulator.shownText (item : ItemAccumulator) : Option JavaString :=
  if item.hidden then none else some item.text

/-- The steps are the story of an item. -/
def Tells (steps : List StreamStep) (item : ItemAccumulator) : Prop :=
  ∃ deltas, deltas.flatten = item.text ∧
    steps = story item.itemId deltas (if item.ended then some item.shownText else none)

/-- The stream tells the story of every item of a context, and of no other. -/
structure Told (steps : List StreamStep) (context : Context) : Prop where
  items : ∀ key item, context.items.lookup key = some item → Tells (stepsOf item.itemId steps) item
  others : ∀ itemId, (∀ key item, context.items.lookup key = some item → item.itemId ≠ itemId) →
    stepsOf itemId steps = []

lemma stepsOf_append (itemId : JavaString) (steps more : List StreamStep) :
    stepsOf itemId (steps ++ more) = stepsOf itemId steps ++ stepsOf itemId more :=
  List.filter_append _ _

lemma stepsOf_self {itemId : JavaString} {steps : List StreamStep}
    (h : ∀ step ∈ steps, step.itemId = some itemId) : stepsOf itemId steps = steps :=
  List.filter_eq_self.mpr fun step hstep => beq_iff_eq.mpr (h step hstep)

lemma stepsOf_other {itemId other : JavaString} {steps : List StreamStep}
    (h : ∀ step ∈ steps, step.itemId = some itemId) (hne : itemId ≠ other) :
    stepsOf other steps = [] := by
  refine List.filter_eq_nil_iff.mpr fun step hstep => ?_
  rw [h step hstep, beq_iff_eq]
  exact fun heq => hne (Option.some_inj.mp heq)

/-! ## Names -/

section Lives

variable {normalizer : EventNormalizer} {allowed : Change → Prop} {c t : Context}
  {steps : List StreamStep} {cs : List Change}

/-- The item under a key has the name that the key gives it. -/
def NamedBy (normalizer : EventNormalizer) (context : Context) (key : JavaString)
    (item : ItemAccumulator) : Prop :=
  ∃ hash, digest normalizer.sha256 (itemSeed context key) = .ok hash ∧
    item.itemId = java "item_as_" ++ hash

variable {key : JavaString} {item : ItemAccumulator}

lemma NamedBy.itemId_eq {item' : ItemAccumulator} (h : NamedBy normalizer c key item)
    (h' : NamedBy normalizer c key item') :
    item.itemId = item'.itemId := by
  obtain ⟨hash, hdigest, hname⟩ := h
  obtain ⟨hash', hdigest', hname'⟩ := h'
  obtain rfl := Except.ok.inj (hdigest.symm.trans hdigest')
  rw [hname, hname']

/-- Different keys of a context have different digests. -/
def Distinct (normalizer : EventNormalizer) (context : Context) : Prop :=
  ∀ key key', (context.items.lookup key).isSome → (context.items.lookup key').isSome →
    digest normalizer.sha256 (itemSeed context key) =
      digest normalizer.sha256 (itemSeed context key') → key = key'

lemma Distinct.key_eq (h : Distinct normalizer c) {key' : JavaString} {item' : ItemAccumulator}
    (hsome : (c.items.lookup key).isSome) (hsome' : (c.items.lookup key').isSome)
    (hnamed : NamedBy normalizer c key item) (hnamed' : NamedBy normalizer c key' item')
    (hid : item.itemId = item'.itemId) : key = key' := by
  obtain ⟨hash, hdigest, hname⟩ := hnamed
  obtain ⟨hash', hdigest', hname'⟩ := hnamed'
  have hhash : hash = hash' := List.append_cancel_left (hname.symm.trans (hid.trans hname'))
  exact h key key' hsome hsome' (by rw [hdigest, hdigest', hhash])

/-- The state of the stories: the items have their names, and where the names are distinct the stream
tells the stories. -/
structure Telling (normalizer : EventNormalizer) (steps : List StreamStep) (context : Context) :
    Prop where
  named : ∀ key item, context.items.lookup key = some item → NamedBy normalizer context key item
  told : Distinct normalizer context → Told steps context

lemma Telling.congr (h : Telling normalizer steps c) (hitems : t.items = c.items)
    (hthread : t.threadId = c.threadId) (hturn : t.turnId = c.turnId) :
    Telling normalizer steps t := by
  have hseed (key : JavaString) : itemSeed t key = itemSeed c key := by
    rw [itemSeed, itemSeed, hthread, hturn]
  constructor
  · intro key item hitem
    rw [hitems] at hitem
    rw [NamedBy, hseed]
    exact h.named key item hitem
  · intro hdistinct
    have htold : Told steps c := h.told fun key key' => by
      simpa only [hitems, hseed] using hdistinct key key'
    exact ⟨fun key item hitem => htold.items key item (hitems ▸ hitem),
      fun itemId hnone => htold.others itemId (hitems ▸ hnone)⟩

/-- **An item is put under a key**, and the stream goes on with steps of this item. -/
lemma Telling.put (h : Telling normalizer steps c) (item : ItemAccumulator) {more : List StreamStep}
    (hnamed : NamedBy normalizer c key item) (hmore : ∀ step ∈ more, step.itemId = some item.itemId)
    (hstory : Told steps c → (c.items.lookup key = none → stepsOf item.itemId steps = []) →
      Tells (stepsOf item.itemId steps ++ more) item) :
    Telling normalizer (steps ++ more) (c.setItem key item) := by
  have hlookup (k : JavaString) : (c.setItem key item).items.lookup k =
      if k = key then some item else c.items.lookup k := by
    rw [Context.setItem]
    split_ifs with hk
    · rw [hk, lookup_setItem_self]
    · exact lookup_setItem_of_ne _ _ hk
  have hkept (k : JavaString) (hsome : (c.items.lookup k).isSome) :
      ((c.setItem key item).items.lookup k).isSome := by
    rw [hlookup]
    split_ifs
    · rfl
    · exact hsome
  constructor
  · intro k i hitem
    rw [hlookup] at hitem
    split_ifs at hitem with hk
    · obtain rfl := Option.some_inj.mp hitem
      rw [hk]
      exact hnamed
    · exact h.named k i hitem
  · intro hdistinct
    have htold : Told steps c := h.told fun k k' hk hk' => hdistinct k k' (hkept k hk) (hkept k' hk')
    -- another item has another name
    have hother (k : JavaString) (i : ItemAccumulator) (hk : k ≠ key)
        (hitem : c.items.lookup k = some i) : item.itemId ≠ i.itemId := by
      intro hid
      have hself : ((c.setItem key item).items.lookup key).isSome := by
        rw [hlookup, if_pos rfl]
        rfl
      exact hk (hdistinct.key_eq (hkept k (by rw [hitem]; rfl)) hself (h.named k i hitem) hnamed
        hid.symm)
    constructor
    · intro k i hitem
      rw [hlookup] at hitem
      rw [stepsOf_append]
      split_ifs at hitem with hk
      · obtain rfl := Option.some_inj.mp hitem
        rw [stepsOf_self hmore]
        refine hstory htold fun hnew => htold.others _ fun k' i' hitem' => ?_
        refine (hother k' i' ?_ hitem').symm
        rintro rfl
        rw [hnew] at hitem'
        cases hitem'
      · rw [stepsOf_other hmore (hother k i hk hitem), List.append_nil]
        exact htold.items k i hitem
    · intro itemId hnone
      have hself := hnone key item (by rw [hlookup, if_pos rfl])
      rw [stepsOf_append, stepsOf_other hmore hself, List.append_nil]
      refine htold.others itemId fun k i hitem => ?_
      by_cases hk : k = key
      · -- the item that is replaced had the name of its key as well
        rw [hk] at hitem
        exact (h.named key i hitem).itemId_eq hnamed ▸ hself
      · exact hnone k i (by rw [hlookup, if_neg hk]; exact hitem)

lemma Telling.replaced (h : Telling normalizer steps c) (item' : ItemAccumulator)
    (hitem : c.items.lookup key = some item) (hid : item'.itemId = item.itemId)
    (htells : ∀ own, Tells own item → Tells own item') :
    Telling normalizer steps (c.setItem key item') := by
  have hnamed : NamedBy normalizer c key item' := by
    obtain ⟨hash, hdigest, hname⟩ := h.named key item hitem
    exact ⟨hash, hdigest, hid.trans hname⟩
  have hput := h.put item' hnamed (List.forall_mem_nil _) fun htold _ => by
    rw [List.append_nil, hid]
    exact htells _ (htold.items key item hitem)
  rwa [List.append_nil] at hput

/-- **One update goes on with the stories.** -/
lemma Touch.telling (h : Touch normalizer allowed c cs t) (hc : Telling normalizer steps c)
    (hopen : ∀ key item text hidden, allowed (.appended key item text hidden) →
      item.ended = false) :
    Telling normalizer (steps ++ cs.map Change.shown) t := by
  cases h with
  | counters =>
    rw [List.map_nil, List.append_nil]
    exact hc.congr rfl rfl rfl
  | @registered key item hnew hbytes htext hended hmetadata hash hdigest hid =>
    refine hc.put item ⟨hash, hdigest, hid⟩ (by simp [Change.shown, StreamStep.itemId]) ?_
    intro _ hnone
    rw [hnone hnew]
    exact ⟨[], by rw [htext]; rfl, by simp [story, hended, Change.shown]⟩
  | @appended key text item hidden bytes hitem hbytes hroom hallowed =>
    have hended : item.ended = false := hopen key item text hidden hallowed
    refine hc.put (ItemAccumulator.append item text hidden bytes) (hc.named key item hitem)
      (by simp [Change.shown, StreamStep.itemId, ItemAccumulator.append]) ?_
    intro htold _
    obtain ⟨deltas, htext, hsteps⟩ := htold.items key item hitem
    refine ⟨deltas ++ [if hidden then [] else text], ?_, ?_⟩
    · rw [List.flatten_append, htext, List.flatten_singleton, ItemAccumulator.append]
      cases hidden <;> simp
    · show stepsOf item.itemId steps ++ _ = _
      rw [hsteps]
      simp [story, hended, Change.shown, ItemAccumulator.append]
  | @closed key item hitem hended =>
    refine hc.put { item with ended := true } (hc.named key item hitem)
      (by simp [Change.shown, StreamStep.itemId]) ?_
    intro htold _
    obtain ⟨deltas, htext, hsteps⟩ := htold.items key item hitem
    refine ⟨deltas, htext, ?_⟩
    show stepsOf item.itemId steps ++ _ = _
    rw [hsteps]
    simp [story, hended, Change.shown, ItemAccumulator.shownText]
  | @described key name value oldBytes newBytes item hitem =>
    rw [List.map_nil, List.append_nil, Context.putEntry, hitem]
    have hput := hc.replaced { item with metadata := putEntry name value item.metadata } hitem rfl
      fun _ h => h
    exact hput.congr rfl rfl rfl
  | @marked key =>
    rw [List.map_nil, List.append_nil, Context.markRedacted]
    cases hitem : c.items.lookup key with
    | none => exact hc
    | some item => exact hc.replaced { item with redactionMarkerAdded := true } hitem rfl fun _ h => h

/-- A text comes for a block that is open. -/
def InTime : Change → Prop
  | .appended _ item _ _ => item.ended = false
  | .registered _ _ | .closed _ _ => True

lemma telling_of_trail (h : Trail (Update normalizer InTime) c cs t)
    (hc : Telling normalizer steps c) : Telling normalizer (steps ++ cs.map Change.shown) t := by
  refine h.invariant (I := fun cs t => Telling normalizer (steps ++ cs.map Change.shown) t)
    (by rwa [List.map_nil, List.append_nil]) fun {cs s cs' t} hs hstep => ?_
  cases hstep with
  | touched h =>
    rw [List.map_append, ← List.append_assoc]
    exact h.telling hs fun key item text hidden hallowed => hallowed
  | charged | ended =>
    rw [List.append_nil]
    exact hs.congr rfl rfl rfl

/-! ## Runs -/

/-- Every item has kept its story. -/
def SameStories (c t : Context) : Prop :=
  ∀ key, (t.items.lookup key).map (fun item => (item.itemId, item.hidden, item.ended, item.text)) =
    (c.items.lookup key).map fun item => (item.itemId, item.hidden, item.ended, item.text)

/-- No text comes late, and no call fails after it has changed the story of an item. -/
def Orderly (normalizer : EventNormalizer) : List AgentEvent → Context → Prop
  | [], _ => True
  | event :: events, context =>
    let outcome := runFrom (normalize normalizer event) context
    (context.terminal = false → ¬ Late normalizer context event) ∧
      (∀ e, outcome.1 = .error e → SameStories context outcome.2) ∧
      Orderly normalizer events outcome.2

/-- The calls of a turn: its events, and then its end. -/
def turnCalls (events : List AgentEvent) (status : String) (reason : Option JavaString) : List Call :=
  events.map .normalize ++ [.terminal status reason]

/-- **The life cycles of the items** on the stream of a turn that has ended. -/
structure LifeCycles (events : List TurnEvent) (last : Context) : Prop where
  /-- The end of the turn is there once, as the last event. -/
  ends : ∃ shown event, events = shown ++ [event] ∧ event.method = "turn/completed" ∧
    ∀ other ∈ shown, other.method ≠ "turn/completed"
  /-- An item is started, gets its deltas, and is completed with their text, unless the end of the
  turn was compact. -/
  items : ∀ key item, last.items.lookup key = some item → ∃ deltas completion,
    stepsOf item.itemId (streamOf events) = story item.itemId deltas completion ∧
      deltas.flatten = item.text ∧
      (completion = some (if item.hidden then none else some deltas.flatten) ∨
        completion = none ∧ .turnCompleted none ∈ streamOf events)
  others : ∀ itemId, (∀ key item, last.items.lookup key = some item → item.itemId ≠ itemId) →
    stepsOf itemId (streamOf events) = []

lemma streamOf_append (events more : List TurnEvent) :
    streamOf (events ++ more) = streamOf events ++ streamOf more := List.filterMap_append

lemma Shows.not_completed {events : List TurnEvent} (h : Shows events cs) :
    ∀ event ∈ events, event.method ≠ "turn/completed" := by
  intro event hmem hmethod
  have hstep : ∃ at', streamStep event = some (.turnCompleted at') :=
    ⟨_, by rw [streamStep, hmethod]; rfl⟩
  obtain ⟨at', hstep⟩ := hstep
  have hshown : StreamStep.turnCompleted at' ∈ cs.map Change.shown := by
    rw [← h]
    exact List.mem_filterMap.mpr ⟨event, hmem, hstep⟩
  obtain ⟨change, -, hchange⟩ := List.mem_map.mp hshown
  cases change <;> cases hchange

lemma Telling.sameStories (h : Telling normalizer steps c) (hsame : SameStories c t)
    (hthread : t.threadId = c.threadId) (hturn : t.turnId = c.turnId) :
    Telling normalizer steps t := by
  have hseed (key : JavaString) : itemSeed t key = itemSeed c key := by
    rw [itemSeed, itemSeed, hthread, hturn]
  have hback {key : JavaString} {item : ItemAccumulator} {c t : Context} (hsame : SameStories c t)
      (hitem : t.items.lookup key = some item) : ∃ before, c.items.lookup key = some before ∧
        before.itemId = item.itemId ∧ before.hidden = item.hidden ∧ before.ended = item.ended ∧
          before.text = item.text := by
    have hkey := hsame key
    rw [hitem, Option.map_some] at hkey
    obtain ⟨before, hbefore, hfields⟩ := Option.map_eq_some_iff.mp hkey.symm
    simp only [Prod.mk.injEq] at hfields
    exact ⟨before, hbefore, hfields⟩
  constructor
  · intro key item hitem
    obtain ⟨before, hbefore, hid, -⟩ := hback hsame hitem
    obtain ⟨hash, hdigest, hname⟩ := h.named key before hbefore
    exact ⟨hash, by rw [hseed]; exact hdigest, hid.symm.trans hname⟩
  · intro hdistinct
    have hsome (key : JavaString) :
        (t.items.lookup key).isSome = (c.items.lookup key).isSome := by
      simpa using congrArg Option.isSome (hsame key)
    have htold : Told steps c := h.told fun key key' => by
      simpa only [hsome, hseed] using hdistinct key key'
    constructor
    · intro key item hitem
      obtain ⟨before, hbefore, hid, hhidden, hended, htext⟩ := hback hsame hitem
      obtain ⟨deltas, hflat, hsteps⟩ := htold.items key before hbefore
      refine ⟨deltas, hflat.trans htext, ?_⟩
      rw [← hid, hsteps, ← hended, ItemAccumulator.shownText, ItemAccumulator.shownText, hhidden,
        htext]
    · intro itemId hnone
      refine htold.others itemId fun key item hitem => ?_
      obtain ⟨after, hafter, hid, -⟩ := hback (fun key => (hsame key).symm) hitem
      exact hid ▸ hnone key after hafter

lemma SameTexts.before (h : SameTexts c t) (hitem : t.items.lookup key = some item) :
    ∃ before, c.items.lookup key = some before ∧
      before.itemId = item.itemId ∧ before.hidden = item.hidden ∧ before.text = item.text := by
  have hkey := h key
  rw [hitem, Option.map_some] at hkey
  obtain ⟨before, hbefore, hfields⟩ := Option.map_eq_some_iff.mp hkey.symm
  simp only [Prod.mk.injEq] at hfields
  exact ⟨before, hbefore, hfields⟩

/-- **The end of the turn ends the stories.** -/
lemma lives_of_end {before events : List TurnEvent} (hc : Telling normalizer (streamOf before) c)
    (hbefore : ∀ event ∈ before, event.method ≠ "turn/completed")
    (htrail : Trail (Update normalizer InTime) c cs t) (hloud : Loud normalizer c events cs t)
    (hdistinct : Distinct normalizer t) : LifeCycles (before ++ events) t := by
  obtain ⟨-, -, hclosed, htexts, hfinishes, -⟩ := hloud
  rcases hfinishes with ⟨shown, event, completedAt, rfl, hshows, hmethod, hstep⟩ |
    ⟨event, rfl, hmethod, hstep⟩
  · -- the batch shows the closes of the items
    have htold := (telling_of_trail htrail hc).told hdistinct
    have hstream : streamOf (before ++ (shown ++ [event])) =
        (streamOf before ++ cs.map Change.shown) ++ [.turnCompleted (some completedAt)] := by
      rw [streamOf_append, streamOf_append, ← hshows, ← List.append_assoc, streamOf, streamOf,
        streamOf, List.filterMap_cons, hstep, List.filterMap_nil]
    have hsteps (itemId : JavaString) : stepsOf itemId (streamOf (before ++ (shown ++ [event]))) =
        stepsOf itemId (streamOf before ++ cs.map Change.shown) := by
      rw [hstream, stepsOf_append itemId (_ ++ _)]
      exact List.append_nil _
    refine ⟨⟨before ++ shown, event, by rw [List.append_assoc], hmethod, fun other hmem => ?_⟩,
      fun key item hitem => ?_, fun itemId hnone => ?_⟩
    · exact (List.mem_append.mp hmem).elim (hbefore other) (hshows.not_completed other)
    · obtain ⟨deltas, hflat, htells⟩ := htold.items key item hitem
      rw [hclosed key item hitem, if_pos rfl] at htells
      refine ⟨deltas, some item.shownText, (hsteps _).trans htells, hflat, .inl ?_⟩
      rw [ItemAccumulator.shownText, hflat]
    · exact (hsteps _).trans (htold.others itemId hnone)
  · -- the compact end: the stories stay as they were before it
    obtain ⟨hthread, hturn⟩ := identity_of_trail htrail
    have htold : Told (streamOf before) c := by
      refine hc.told fun key key' hkey hkey' hdigest => ?_
      have hsome (k : JavaString) : (t.items.lookup k).isSome = (c.items.lookup k).isSome := by
        simpa using congrArg Option.isSome (htexts k)
      refine hdistinct key key' (by rwa [hsome]) (by rwa [hsome]) ?_
      rwa [itemSeed, itemSeed, hthread, hturn]
    have hstream : streamOf (before ++ [event]) = streamOf before ++ [.turnCompleted none] := by
      rw [streamOf_append, streamOf, streamOf, List.filterMap_cons, hstep, List.filterMap_nil]
    have hsteps (itemId : JavaString) :
        stepsOf itemId (streamOf (before ++ [event])) = stepsOf itemId (streamOf before) := by
      rw [hstream, stepsOf_append]
      exact List.append_nil _
    refine ⟨⟨before, event, rfl, hmethod, hbefore⟩, fun key item hitem => ?_,
      fun itemId hnone => ?_⟩
    · obtain ⟨first, hfirst, hid, hhidden, htext⟩ := htexts.before hitem
      obtain ⟨deltas, hflat, htells⟩ := htold.items key first hfirst
      refine ⟨deltas, _, (hsteps _).trans (hid ▸ htells), hflat.trans htext, ?_⟩
      cases first.ended with
      | false => exact .inr ⟨rfl, by rw [hstream]; simp⟩
      | true =>
        left
        rw [if_pos rfl, ItemAccumulator.shownText, hhidden, hflat]
    · refine (hsteps _).trans (htold.others itemId fun key item hitem => ?_)
      obtain ⟨after, hafter, hid, -⟩ := SameTexts.before (fun k => (htexts k).symm) hitem
      exact hid ▸ hnone key after hafter

lemma feed_turn_closed (events : List AgentEvent) (status : String) (reason : Option JavaString)
    (hclosed : c.terminal = true) : feed normalizer (turnCalls events status reason) c = ([], c) := by
  induction events with
  | nil =>
    show feed normalizer [.terminal status reason] c = ([], c)
    rw [feed, terminal_closed status reason hclosed]
    rfl
  | cons event events ih =>
    show feed normalizer (.normalize event :: turnCalls events status reason) c = ([], c)
    rw [feed, normalize_closed event hclosed]
    simp only [ih, eventsOf, List.append_nil]

/-- **One event that does not end the turn.** -/
lemma telling_normalize (hlimit : normalizer.limits.maxEventBytes < maxInteger) {event : AgentEvent}
    (hnone : terminalOf event = none) (hlate : ¬ Late normalizer c event)
    (hfails : ∀ e, (runFrom (normalize normalizer event) c).1 = .error e →
      SameStories c (runFrom (normalize normalizer event) c).2)
    {before : List TurnEvent} (hc : Telling normalizer (streamOf before) c)
    (hbefore : ∀ event ∈ before, event.method ≠ "turn/completed") :
    let outcome := runFrom (normalize normalizer event) c
    Telling normalizer (streamOf (before ++ eventsOf outcome.1)) outcome.2 ∧
      ∀ event ∈ before ++ eventsOf outcome.1, event.method ≠ "turn/completed" := by
  have hadmits : Admits normalizer c (.normalize event) InTime := by
    rintro e he key item text hidden htext hwhere
    obtain rfl := Call.normalize.inj he
    exact hwhere.resolve_right hlate
  obtain ⟨cs, htrail, hQ⟩ : Trails (Update normalizer InTime) c
      (call normalizer (.normalize event)) _ := trails_call hlimit (.inr hnone) hadmits
  rw [call] at htrail hQ
  dsimp only
  cases houtcome : (runFrom (normalize normalizer event) c).1 with
  | error e =>
    obtain ⟨hthread, hturn⟩ := identity_of_trail htrail
    rw [eventsOf, List.append_nil]
    exact ⟨hc.sameStories (hfails e houtcome) hthread hturn, hbefore⟩
  | ok events =>
    obtain ⟨hshows, -⟩ := hQ events houtcome
    have htelling := telling_of_trail htrail hc
    rw [← hshows, ← streamOf, ← streamOf_append] at htelling
    refine ⟨htelling, fun other hmem => ?_⟩
    exact (List.mem_append.mp hmem).elim (hbefore other) (hshows.not_completed other)

/-- **A run tells the life cycles**, from a context on. -/
theorem lives_of_run {turn : Context} (hlimits : normalizer.limits.invalid = false)
    (hmodes : ModesFit turn) (hopen : turn.terminal = false) {events : List AgentEvent}
    {status : String} {reason : Option JavaString} {before : List TurnEvent}
    (hfits : Fits normalizer (fun _ => True) (fun _ => True) turn c)
    (hc : Telling normalizer (streamOf before) c)
    (hbefore : ∀ event ∈ before, event.method ≠ "turn/completed")
    (horderly : Orderly normalizer events c)
    (hdistinct : Distinct normalizer (feed normalizer (turnCalls events status reason) c).2) :
    LifeCycles (before ++ (feed normalizer (turnCalls events status reason) c).1)
      (feed normalizer (turnCalls events status reason) c).2 := by
  obtain ⟨htext, hfloor, hlimit⟩ := Limits.bounds hlimits
  induction events generalizing c before with
  | nil =>
    obtain ⟨out, last, hrun, -⟩ := call_ends (c := .terminal status reason) hfloor hmodes hopen rfl
      hfits
    obtain ⟨cs, htrail, hQ⟩ : Trails (Update normalizer InTime) c
        (call normalizer (.terminal status reason)) _ :=
      trails_call_ends hlimit (hfits.terminal.trans hopen) rfl
    rw [hrun] at htrail hQ
    have hfeed : feed normalizer (turnCalls [] status reason) c = (out, last) := by
      show feed normalizer [.terminal status reason] c = _
      rw [feed, hrun, feed, eventsOf, List.append_nil]
    rw [hfeed] at hdistinct ⊢
    exact lives_of_end hc hbefore htrail (hQ out rfl) hdistinct
  | cons event events ih =>
    obtain ⟨hlate, hfails, hrest⟩ := horderly
    have hfeed : feed normalizer (turnCalls (event :: events) status reason) c =
        (eventsOf (runFrom (normalize normalizer event) c).1 ++
          (feed normalizer (turnCalls events status reason)
            (runFrom (normalize normalizer event) c).2).1,
          (feed normalizer (turnCalls events status reason)
            (runFrom (normalize normalizer event) c).2).2) := rfl
    have hflag : c.terminal = false := hfits.terminal.trans hopen
    cases hterminal : terminalOf event with
    | none =>
      obtain ⟨htelling, hnext⟩ := telling_normalize hlimit hterminal (hlate hflag) hfails hc hbefore
      have hkeeps := (keeps_call (freeRule normalizer.sha256) htext (suitsCall_free (.normalize event))
        (.inr hterminal)).outcome hfits
      rw [hfeed] at hdistinct ⊢
      rw [← List.append_assoc]
      exact ih hkeeps.2 htelling hnext hrest hdistinct
    | some pair =>
      obtain ⟨s, r⟩ := pair
      obtain ⟨out, last, hrun, hlast, -⟩ := call_ends (c := .normalize event) hfloor hmodes hopen
        hterminal hfits
      obtain ⟨cs, htrail, hQ⟩ : Trails (Update normalizer InTime) c
          (call normalizer (.normalize event)) _ :=
        trails_call_ends hlimit hflag (by rw [terminalOfCall, hterminal]; rfl)
      rw [hrun] at htrail hQ
      rw [call] at hrun
      rw [hfeed, hrun, feed_turn_closed events status reason hlast.terminal] at hdistinct ⊢
      rw [eventsOf, List.append_nil]
      exact lives_of_end hc hbefore htrail (hQ out rfl) hdistinct

end Lives

/-- **The life cycles of a turn**: a turn whose texts are in time, and whose failing calls change no
story, tells the life of every item on its stream, and its end once. -/
theorem life_cycles {normalizer : EventNormalizer} (hlimits : normalizer.limits.invalid = false)
    {threadId : DomainId "thr_"} {turnId : DomainId "turn_"} {mode accessMode : JavaString}
    {instanceSequence : ℕ} {threadSequence : Int64} {turn : Context}
    (hopen : openContext threadId turnId mode accessMode instanceSequence threadSequence = .ok turn)
    {events : List AgentEvent} (horderly : Orderly normalizer events turn) (status : String)
    (reason : Option JavaString)
    (hdistinct : Distinct normalizer (feed normalizer (turnCalls events status reason) turn).2) :
    LifeCycles (feed normalizer (turnCalls events status reason) turn).1
      (feed normalizer (turnCalls events status reason) turn).2 := by
  obtain ⟨hflag, hmodes, hfits⟩ : turn.terminal = false ∧ ModesFit turn ∧
    Fits normalizer (fun _ => True) (fun _ => True) turn turn := fits_openContext hopen
  have hnone (key : JavaString) : turn.items.lookup key = none := by
    obtain ⟨boundedMode, hmode, hopen⟩ := bind_eq_ok.mp hopen
    obtain ⟨boundedAccess, haccess, hopen⟩ := bind_eq_ok.mp hopen
    obtain rfl := Except.ok.inj hopen
    rfl
  have hstart : Telling normalizer (streamOf []) turn := by
    refine ⟨fun key item hitem => ?_, fun _ => ⟨fun key item hitem => ?_, fun _ _ => rfl⟩⟩
    · rw [hnone] at hitem
      cases hitem
    · rw [hnone] at hitem
      cases hitem
  exact lives_of_run hlimits hmodes hflag hfits hstart (List.forall_mem_nil _) horderly hdistinct

/-! ## An answer, and one that is too long -/

/-- An answer of one block. -/
def shortAnswer : List AgentEvent :=
  [.textBlockDelta none (some (java "hello")), .textBlockEnd none]

lemma shortAnswer_orderly : Orderly steadyNormalizer shortAnswer steadyTurn := by
  refine ⟨fun _ hlate => ?_, fun e herror => ?_, fun _ hlate => hlate, fun e herror => ?_, trivial⟩
  · obtain ⟨key, item, hfound, -⟩ := hlate
    exact absurd (findAmong_eq_ok hfound _ rfl) (by simp [steadyTurn])
  · have hok : (runFrom (normalize steadyNormalizer (.textBlockDelta none (some (java "hello"))))
        steadyTurn).1.isOk = true := by decide +kernel
    rw [herror] at hok
    cases hok
  · have hok : (runFrom (normalize steadyNormalizer (.textBlockEnd none))
        (runFrom (normalize steadyNormalizer (.textBlockDelta none (some (java "hello"))))
          steadyTurn).2).1.isOk = true := by decide +kernel
    rw [herror] at hok
    cases hok

theorem life_cycles_of_answer :
    LifeCycles (feed steadyNormalizer (turnCalls shortAnswer "completed" none) steadyTurn).1
      (feed steadyNormalizer (turnCalls shortAnswer "completed" none) steadyTurn).2 := by
  refine life_cycles (by decide) steadyTurn_opened shortAnswer_orderly "completed" none ?_
  intro key key' hkey hkey' _
  have hone : ((feed steadyNormalizer (turnCalls shortAnswer "completed" none)
      steadyTurn).2.items.map Prod.fst).length = 1 := by decide +kernel
  obtain ⟨only, honly⟩ := List.length_eq_one_iff.mp hone
  have hmem {key : JavaString} (h : ((feed steadyNormalizer (turnCalls shortAnswer "completed" none)
      steadyTurn).2.items.lookup key).isSome) : key = only := by
    obtain ⟨item, hitem⟩ := Option.isSome_iff_exists.mp h
    have hkey := List.mem_map_of_mem (f := Prod.fst) (mem_of_lookup hitem)
    rw [honly] at hkey
    exact List.mem_singleton.mp hkey
  rw [hmem hkey, hmem hkey']

/-- A normalizer with the least limit of one event. -/
def narrowNormalizer : EventNormalizer :=
  { steadyNormalizer with limits := { Limits.defaults with maxEventBytes := 1024 } }

/-- An answer whose deltas are within the limit, and whose item is not. -/
def longAnswer : List AgentEvent :=
  List.replicate 3 (.textBlockDelta none (some (List.replicate 300 0x61)))

/-- **A long answer is not completed**: the compact end stands for all of its batch. -/
theorem long_answer_not_completed :
    narrowNormalizer.limits.invalid = false ∧
      openContext steadyTurn.threadId steadyTurn.turnId (java "coding") (java "workspace") 1 0 =
        .ok steadyTurn ∧
      ∃ itemId, .started itemId ∈
          streamOf (feed narrowNormalizer (turnCalls longAnswer "completed" none) steadyTurn).1 ∧
        ∀ text, .completed itemId text ∉
          streamOf (feed narrowNormalizer (turnCalls longAnswer "completed" none) steadyTurn).1 := by
  refine ⟨by decide, steadyTurn_opened, ?_⟩
  have hstarts : ((streamOf (feed narrowNormalizer (turnCalls longAnswer "completed" none)
      steadyTurn).1).any fun step => match step with | .started _ => true | _ => false) = true := by
    decide +kernel
  have hcompletes : ((streamOf (feed narrowNormalizer (turnCalls longAnswer "completed" none)
      steadyTurn).1).any fun step => match step with | .completed _ _ => true | _ => false) =
        false := by decide +kernel
  obtain ⟨step, hmem, hstep⟩ := List.any_eq_true.mp hstarts
  cases step with
  | started itemId =>
    refine ⟨itemId, hmem, fun text hcompleted => ?_⟩
    exact (List.any_eq_false.mp hcompletes) _ hcompleted rfl
  | delta | completed | turnCompleted => cases hstep

end JaDesktop.Sidecar
