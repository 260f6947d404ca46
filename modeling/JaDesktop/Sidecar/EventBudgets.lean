import JaDesktop.Sidecar.EventCalls
import Mathlib.Algebra.Order.BigOperators.Group.List
import Mathlib.Algebra.Order.Group.Nat
import Mathlib.Algebra.Order.Ring.Int

/-!
# The budgets of a turn

The bytes of an item are those of the texts that it has accepted, the metadata bytes are the cost of the
metadata that is stored, and the events stay within their limits.  Each of the counters is an invariant
of the updates, so it also holds behind a call that has failed.  The end of the turn needs no budget:
for every identity that the domain types accept its compact form is within 1024 bytes, which is the
least limit that there is.
-/

namespace JaDesktop.Sidecar

open EventNormalizerPolicy EventNormalizer

/-- The limits that the constructor of `Limits` refuses. -/
def Limits.invalid (limits : Limits) : Bool :=
  limits.maxEvents < 1 || limits.maxEvents > 1000000 || limits.maxItems < 1 ||
    limits.maxItems > 100000 || limits.maxMetadataBytes < 1 ||
    limits.maxMetadataBytes > 64 * 1024 * 1024 || limits.maxItemTextBytes < 1 ||
    limits.maxItemTextBytes > 16 * 1024 * 1024 || limits.maxEventBytes < 1024 ||
    limits.maxEventBytes > 16 * 1024 * 1024 || limits.maxEventBytesTotal < limits.maxEventBytes ||
    limits.maxEventBytesTotal > 256 * 1024 * 1024

lemma Limits.bounds {limits : Limits} (h : limits.invalid = false) :
    limits.maxItemTextBytes < maxInteger ∧ 1024 ≤ limits.maxEventBytes ∧
      limits.maxEventBytes < maxInteger := by
  simp only [invalid, Bool.or_eq_false_iff, decide_eq_false_iff_not, not_lt] at h
  rw [maxInteger]
  omega

/-- The bytes of a text in UTF-8. -/
def utf8Length (text : JavaString) : ℕ :=
  (utf16Decode text).elim 0 fun s => (asBytes s).length

lemma utf8Length_java (s : String) : utf8Length (java s) = (asBytes s).length := by
  rw [utf8Length, java, utf16Decode_utf16Encode]
  rfl

/-! ## Accepted texts -/

/-- The text that a change appends to the item under a key. -/
def Change.textFor (key : JavaString) : Change → Option JavaString
  | appended k _ text _ => if k = key then some text else none
  | registered _ _ | closed _ _ => none

/-- The bytes of the texts that the item under a key has accepted. -/
def acceptedBytes (key : JavaString) (cs : List Change) : ℕ :=
  ((cs.filterMap (Change.textFor key)).map utf8Length).sum

lemma acceptedBytes_append (key : JavaString) (cs cs' : List Change) :
    acceptedBytes key (cs ++ cs') = acceptedBytes key cs + acceptedBytes key cs' := by
  simp [acceptedBytes]

/-- The bytes of the item under a key, if there is one. -/
def itemBytes (context : Context) (key : JavaString) : ℕ :=
  (context.items.lookup key).elim 0 ItemAccumulator.bytes

section Budgets

variable {normalizer : EventNormalizer} {allowed : Change → Prop} {c : Context}

lemma itemBytes_setItem_self (c : Context) (key : JavaString) (item : ItemAccumulator) :
    itemBytes (c.setItem key item) key = item.bytes := by
  rw [itemBytes, Context.setItem, lookup_setItem_self]
  rfl

variable {key : JavaString} {item : ItemAccumulator} {t : Context} {cs : List Change}

lemma itemBytes_setItem_of_ne {key' : JavaString} (item : ItemAccumulator) (hne : key' ≠ key) :
    itemBytes (c.setItem key item) key' = itemBytes c key' := by
  rw [itemBytes, Context.setItem, lookup_setItem_of_ne _ _ hne, itemBytes]

lemma itemBytes_replaced (item' : ItemAccumulator) (hitem : c.items.lookup key = some item)
    (hbytes : item'.bytes = item.bytes) (k : JavaString) :
    itemBytes (c.setItem key item') k = itemBytes c k := by
  by_cases hk : k = key
  · rw [hk, itemBytes_setItem_self, hbytes, itemBytes, hitem]
    rfl
  · exact itemBytes_setItem_of_ne item' hk

/-- A touch adds to the bytes of an item what the item accepts, up to the limit. -/
lemma Touch.itemBytes (hlimit : normalizer.limits.maxItemTextBytes < maxInteger)
    (h : Touch normalizer allowed c cs t) (key : JavaString)
    (hc : itemBytes c key ≤ normalizer.limits.maxItemTextBytes) :
    itemBytes t key = itemBytes c key + acceptedBytes key cs ∧
      itemBytes t key ≤ normalizer.limits.maxItemTextBytes := by
  have hsame {t : Context} (h : Sidecar.itemBytes t key = Sidecar.itemBytes c key) :
      Sidecar.itemBytes t key = Sidecar.itemBytes c key + 0 ∧
        Sidecar.itemBytes t key ≤ normalizer.limits.maxItemTextBytes := ⟨h, h ▸ hc⟩
  cases h with
  | counters => exact hsame rfl
  | @registered k item hnew hbytes =>
    refine hsame ?_
    by_cases hk : key = k
    · rw [hk, itemBytes_setItem_self, Sidecar.itemBytes, hnew, hbytes]
      rfl
    · exact itemBytes_setItem_of_ne item hk
  | @appended k text item hidden bytes hitem hbytes hroom =>
    by_cases hk : key = k
    · -- the text is counted within the room that the item has left
      obtain ⟨s, rfl, hlength⟩ := text_of_utf8BytesAtMost (by omega) hbytes hroom
      have hbefore : Sidecar.itemBytes c key = item.bytes := by
        rw [Sidecar.itemBytes, hk, hitem]
        rfl
      rw [hk] at hbefore hc ⊢
      rw [itemBytes_setItem_self, hbefore]
      have haccepted : acceptedBytes k [.appended k item (java s) hidden] = bytes := by
        simp [acceptedBytes, Change.textFor, utf8Length_java, hlength]
      rw [haccepted]
      rw [hbefore] at hc
      refine ⟨rfl, ?_⟩
      show item.bytes + bytes ≤ _
      omega
    · have hother : acceptedBytes key [.appended k item text hidden] = 0 := by
        simp [acceptedBytes, Change.textFor, Ne.symm hk]
      rw [hother]
      exact hsame (itemBytes_setItem_of_ne _ hk)
  | @closed k item hitem =>
    exact hsame (itemBytes_replaced { item with ended := true } hitem rfl key)
  | @described k name value oldBytes newBytes item hitem =>
    refine hsame ?_
    rw [Context.putEntry, hitem]
    exact itemBytes_replaced { item with metadata := putEntry name value item.metadata } hitem rfl key
  | @marked k =>
    refine hsame ?_
    rw [Context.markRedacted]
    cases hitem : c.items.lookup k with
    | none => rfl
    | some item => exact itemBytes_replaced { item with redactionMarkerAdded := true } hitem rfl key

/-- **The bytes of an item** behind a trail. -/
lemma itemBytes_of_trail (hlimit : normalizer.limits.maxItemTextBytes < maxInteger)
    (h : Trail (Update normalizer allowed) c cs t) (key : JavaString)
    (hc : itemBytes c key ≤ normalizer.limits.maxItemTextBytes) :
    itemBytes t key = itemBytes c key + acceptedBytes key cs ∧
      itemBytes t key ≤ normalizer.limits.maxItemTextBytes := by
  refine h.invariant (I := fun cs t => itemBytes t key = itemBytes c key + acceptedBytes key cs ∧
    itemBytes t key ≤ normalizer.limits.maxItemTextBytes) ⟨rfl, hc⟩ fun {cs s cs' t} hs hstep => ?_
  obtain ⟨hsum, hwithin⟩ := hs
  cases hstep with
  | touched h =>
    obtain ⟨hnext, hlast⟩ := h.itemBytes hlimit key hwithin
    refine ⟨?_, hlast⟩
    rw [hnext, hsum, acceptedBytes_append, Nat.add_assoc]
  | charged | ended =>
    rw [List.append_nil]
    exact ⟨hsum, hwithin⟩

/-! ## Metadata -/

/-- What an entry of the metadata costs. -/
def entryCost (entry : String × MetadataValue) : ℕ :=
  match metadataCost entry.1 entry.2 with
  | .ok cost => cost
  | .error _ => 0

/-- The cost of the metadata of an item. -/
def itemCost (item : ItemAccumulator) : ℕ := (item.metadata.map entryCost).sum

/-- The metadata bytes are the cost of all that is stored, and within the limit. -/
structure Metered (normalizer : EventNormalizer) (context : Context) : Prop where
  costs : ∀ entry ∈ context.items, ∀ field ∈ entry.2.metadata,
    metadataCost field.1 field.2 = .ok (entryCost field)
  total : context.metadataBytes = (context.items.map fun entry => itemCost entry.2).sum
  within : context.metadataBytes ≤ normalizer.limits.maxMetadataBytes

lemma entryCost_eq {name : String} {value : MetadataValue} {cost : ℕ}
    (h : metadataCost name value = .ok cost) : entryCost (name, value) = cost := by
  rw [entryCost]
  simp only [h]

lemma sum_setItem_replaced (f : ItemAccumulator → ℕ) {items : List (JavaString × ItemAccumulator)}
    (item' : ItemAccumulator) (h : items.lookup key = some item) :
    ((setItem key item' items).map fun entry => f entry.2).sum + f item =
      (items.map fun entry => f entry.2).sum + f item' := by
  induction items with
  | nil => cases h
  | cons entry items ih =>
    obtain ⟨k, i⟩ := entry
    rw [setItem]
    by_cases hk : k = key
    · rw [hk, List.lookup_cons_self] at h
      obtain rfl := Option.some_inj.mp h
      simp only [hk, if_true, List.map_cons, List.sum_cons]
      omega
    · rw [List.lookup_cons, beq_false_of_ne (Ne.symm hk)] at h
      simp only [hk, if_false, List.map_cons, List.sum_cons]
      have := ih h
      omega

lemma sum_setItem_new (f : ItemAccumulator → ℕ) {items : List (JavaString × ItemAccumulator)}
    (h : items.lookup key = none) :
    ((setItem key item items).map fun entry => f entry.2).sum =
      (items.map fun entry => f entry.2).sum + f item := by
  induction items with
  | nil => simp [setItem]
  | cons entry items ih =>
    obtain ⟨k, i⟩ := entry
    rw [setItem]
    by_cases hk : k = key
    · rw [hk, List.lookup_cons_self] at h
      cases h
    · rw [List.lookup_cons, beq_false_of_ne (Ne.symm hk)] at h
      simp only [hk, if_false, List.map_cons, List.sum_cons]
      rw [ih h, Nat.add_assoc]

lemma sum_putEntry {name : String} (value : MetadataValue)
    (entries : List (String × MetadataValue)) {oldBytes : ℕ}
    (hold : (entries.lookup name).elim (.ok 0) (metadataCost name) = .ok oldBytes) :
    ((putEntry name value entries).map entryCost).sum + oldBytes =
      (entries.map entryCost).sum + entryCost (name, value) := by
  induction entries with
  | nil =>
    obtain rfl := Except.ok.inj hold
    simp [putEntry]
  | cons entry entries ih =>
    obtain ⟨k, v⟩ := entry
    rw [putEntry]
    by_cases hk : k = name
    · rw [hk, List.lookup_cons_self] at hold
      have hcost : entryCost (name, v) = oldBytes := entryCost_eq hold
      simp only [hk, if_true, List.map_cons, List.sum_cons]
      omega
    · rw [List.lookup_cons, beq_false_of_ne (Ne.symm hk)] at hold
      simp only [hk, if_false, List.map_cons, List.sum_cons]
      have := ih hold
      omega

lemma Metered.setItem (h : Metered normalizer c) (bytes : ℕ)
    (hcosts : ∀ field ∈ item.metadata, metadataCost field.1 field.2 = .ok (entryCost field))
    (hsum : bytes + (c.items.lookup key).elim 0 itemCost = c.metadataBytes + itemCost item)
    (hwithin : bytes ≤ normalizer.limits.maxMetadataBytes) :
    Metered normalizer { c.setItem key item with metadataBytes := bytes } where
  costs entry hentry := by
    rcases mem_setItem hentry with rfl | hmem
    · exact hcosts
    · exact h.costs entry hmem
  total := by
    show bytes = ((Sidecar.setItem key item c.items).map fun entry => itemCost entry.2).sum
    have htotal := h.total
    cases hlookup : c.items.lookup key with
    | none =>
      rw [hlookup, Option.elim_none] at hsum
      rw [sum_setItem_new itemCost hlookup]
      omega
    | some old =>
      rw [hlookup, Option.elim_some] at hsum
      have hreplaced := sum_setItem_replaced itemCost item hlookup
      omega
  within := hwithin

lemma Metered.replaced (h : Metered normalizer c) (item' : ItemAccumulator)
    (hitem : c.items.lookup key = some item) (hsame : item'.metadata = item.metadata) :
    Metered normalizer (c.setItem key item') := by
  refine h.setItem c.metadataBytes ?_ ?_ h.within
  · rw [hsame]
    exact h.costs _ (mem_of_lookup hitem)
  · rw [hitem, Option.elim_some, itemCost, itemCost, hsame]

/-- **A touch keeps the metadata bytes.** -/
lemma Touch.metered (h : Touch normalizer allowed c cs t) (hc : Metered normalizer c) :
    Metered normalizer t := by
  cases h with
  | counters => exact ⟨hc.costs, hc.total, hc.within⟩
  | @registered key item hnew hbytes htext hended hmetadata =>
    refine hc.setItem c.metadataBytes ?_ ?_ hc.within
    · rw [hmetadata]
      exact List.forall_mem_nil _
    · rw [hnew, itemCost, hmetadata]
      rfl
  | @appended key text item hidden bytes hitem =>
    exact hc.replaced (ItemAccumulator.append item text hidden bytes) hitem rfl
  | @closed key item hitem => exact hc.replaced { item with ended := true } hitem rfl
  | @described key name value oldBytes newBytes item hitem hold hnew hroom =>
    rw [Context.putEntry, hitem]
    have hcosts := hc.costs _ (mem_of_lookup hitem)
    have hsum := sum_putEntry value item.metadata hold
    rw [entryCost_eq hnew] at hsum
    -- what the old value cost is part of the bytes that are counted
    have hpart : itemCost item ≤ c.metadataBytes := by
      rw [hc.total]
      exact List.single_le_sum (fun _ _ => Nat.zero_le _) _
        (List.mem_map.mpr ⟨_, mem_of_lookup hitem, rfl⟩)
    have hold' : oldBytes ≤ itemCost item := by
      rw [itemCost]
      cases hlookup : item.metadata.lookup name with
      | none =>
        rw [hlookup] at hold
        obtain rfl := Except.ok.inj hold
        exact Nat.zero_le _
      | some old =>
        rw [hlookup] at hold
        rw [← entryCost_eq hold]
        exact List.single_le_sum (fun _ _ => Nat.zero_le _) _
          (List.mem_map.mpr ⟨_, mem_of_lookup hlookup, rfl⟩)
    refine hc.setItem _ (fun field hfield => ?_) ?_ (by omega)
    · rcases mem_putEntry hfield with rfl | hmem
      · rw [entryCost_eq hnew]
        exact hnew
      · exact hcosts field hmem
    · rw [hitem, Option.elim_some]
      show c.metadataBytes + newBytes - oldBytes + itemCost item =
        c.metadataBytes + ((putEntry name value item.metadata).map entryCost).sum
      rw [itemCost] at hold' hpart ⊢
      omega
  | @marked key =>
    rw [Context.markRedacted]
    cases hitem : c.items.lookup key with
    | none => exact hc
    | some item => exact hc.replaced { item with redactionMarkerAdded := true } hitem rfl

lemma metered_of_trail (h : Trail (Update normalizer allowed) c cs t) (hc : Metered normalizer c) :
    Metered normalizer t :=
  h.stateInvariant (I := Metered normalizer) hc fun hs hstep => by
    cases hstep with
    | touched h => exact h.metered hs
    | charged | ended => exact ⟨hs.costs, hs.total, hs.within⟩

/-! ## Runs -/

/-- A call appends only its own text. -/
def Appends (k : Call) : Change → Prop
  | .appended _ _ text hidden => ∃ event, k = .normalize event ∧
    appendedText event = some (text, hidden)
  | .registered _ _ | .closed _ _ => True

/-- A call of a run with the changes that it makes, which what it returns shows. -/
def Serves (normalizer : EventNormalizer) (context : Context) (entry : Call × List Change)
    (next : Context) : Prop :=
  next = (runFrom (call normalizer entry.1) context).2 ∧
    Trail (Update normalizer (Appends entry.1)) context entry.2 next ∧
    ∀ events, (runFrom (call normalizer entry.1) context).1 = .ok events →
      Shows events entry.2 ∨ Finishes events entry.2

/-- The events of the calls that do not end the turn. -/
def openEvents (normalizer : EventNormalizer) : List Call → Context → List TurnEvent
  | [], _ => []
  | first :: calls, context =>
    let outcome := runFrom (call normalizer first) context
    (if (terminalOfCall first).isSome then [] else eventsOf outcome.1) ++
      openEvents normalizer calls outcome.2

lemma admits_appends (k : Call) : Admits normalizer c k (Appends k) :=
  fun event hevent _ _ _ _ htext _ => ⟨event, hevent, htext⟩

lemma call_served (hlimit : normalizer.limits.maxEventBytes < maxInteger) (k : Call) :
    (∃ cs, Serves normalizer c (k, cs) (runFrom (call normalizer k) c).2) ∧
      WithinLimits normalizer (eventsOf (runFrom (call normalizer k) c).1) ∧
      c.eventBytes + eventsBytes
        (if (terminalOfCall k).isSome then [] else eventsOf (runFrom (call normalizer k) c).1) ≤
          (runFrom (call normalizer k) c).2.eventBytes := by
  by_cases hquiet : c.terminal = true ∨ terminalOfCall k = none
  · obtain ⟨cs, htrail, hQ⟩ := trails_call hlimit hquiet (admits_appends k)
    refine ⟨⟨cs, rfl, htrail, fun events hrun => .inl (hQ events hrun).1⟩, ?_⟩
    have hgrows := grows_of_trail htrail
    cases houtcome : (runFrom (call normalizer k) c).1 with
    | error e =>
      refine ⟨List.forall_mem_nil _, ?_⟩
      simpa [eventsOf, eventsBytes] using hgrows
    | ok events =>
      obtain ⟨-, -, hbytes, hwithin⟩ := hQ events houtcome
      refine ⟨hwithin, ?_⟩
      split_ifs
      · simpa [eventsBytes] using hgrows
      · exact hbytes.ge
  · obtain ⟨hopen, hends⟩ := not_or.mp hquiet
    have hsome : (terminalOfCall k).isSome := Option.isSome_iff_ne_none.mpr hends
    obtain ⟨cs, htrail, hQ⟩ : Trails (Update normalizer (Appends k)) c (call normalizer k) _ :=
      trails_call_ends hlimit (Bool.not_eq_true _ |>.mp hopen) hsome
    refine ⟨⟨cs, rfl, htrail, fun events hrun => .inr (hQ events hrun).finishes⟩, ?_, ?_⟩
    · cases houtcome : (runFrom (call normalizer k) c).1 with
      | error e => exact List.forall_mem_nil _
      | ok events => exact (hQ events houtcome).within
    · rw [if_pos hsome]
      simpa [eventsBytes] using grows_of_trail htrail

/-- **What a run does to the budgets.** -/
lemma feed_served (hlimit : normalizer.limits.maxEventBytes < maxInteger) (calls : List Call) :
    (∃ served, served.map Prod.fst = calls ∧
        Run (Serves normalizer) c served (feed normalizer calls c).2) ∧
      WithinLimits normalizer (feed normalizer calls c).1 ∧
      c.eventBytes + eventsBytes (openEvents normalizer calls c) ≤
        (feed normalizer calls c).2.eventBytes := by
  induction calls generalizing c with
  | nil => exact ⟨⟨[], rfl, .nil⟩, List.forall_mem_nil _, Nat.le_refl _⟩
  | cons k calls ih =>
    obtain ⟨⟨cs, hserves⟩, hwithin, hbytes⟩ := call_served (c := c) hlimit k
    obtain ⟨⟨served, hcalls, hrun⟩, hrest, hmore⟩ := ih (c := (runFrom (call normalizer k) c).2)
    have hfirst : Run (Serves normalizer) c ([] ++ [(k, cs)])
        (runFrom (call normalizer k) c).2 := .snoc .nil hserves
    refine ⟨⟨(k, cs) :: served, by rw [List.map_cons, hcalls], hfirst.append hrun⟩, ?_, ?_⟩
    · rw [feed]
      intro event hevent
      exact (List.mem_append.mp hevent).elim (hwithin event) (hrest event)
    · rw [openEvents, eventsBytes_append, feed]
      refine le_trans ?_ hmore
      omega

lemma trail_of_run {served : List (Call × List Change)} (h : Run (Serves normalizer) c served t) :
    Trail (Update normalizer fun _ => True) c (served.flatMap Prod.snd) t := by
  refine h.invariant (I := fun served t =>
    Trail (Update normalizer fun _ => True) c (served.flatMap Prod.snd) t) .nil ?_
  intro served s entry t hs hstep
  rw [List.flatMap_append, List.flatMap_singleton]
  exact hs.append (hstep.2.1.mono fun hupdate => hupdate.mono fun _ _ => trivial)

/-- **The budgets of a turn**, after a sequence of calls on the context that was opened for it. -/
structure WithinBudgets (normalizer : EventNormalizer) (turn : Context) (calls : List Call) :
    Prop where
  /-- Every item has the bytes of the texts that it has accepted. -/
  items : ∃ served, served.map Prod.fst = calls ∧
    Run (Serves normalizer) turn served (feed normalizer calls turn).2 ∧
    ∀ key item, (feed normalizer calls turn).2.items.lookup key = some item →
      item.bytes = acceptedBytes key (served.flatMap Prod.snd) ∧
        item.bytes ≤ normalizer.limits.maxItemTextBytes
  metadata : Metered normalizer (feed normalizer calls turn).2
  events : WithinLimits normalizer (feed normalizer calls turn).1
  total : eventsBytes (openEvents normalizer calls turn) ≤ normalizer.limits.maxEventBytesTotal
  /-- The first call that ends the turn returns its end. -/
  first : ∀ k, (terminalOfCall k).isSome → (∀ j ∈ calls, terminalOfCall j = none) →
    ∃ shown event last, runFrom (call normalizer k) (feed normalizer calls turn).2 =
      (.ok (shown ++ [event]), last) ∧ event.method = "turn/completed"
  /-- Every other one returns nothing. -/
  afterwards : ∀ k, (terminalOfCall k).isSome → (∃ j ∈ calls, (terminalOfCall j).isSome) →
    runFrom (call normalizer k) (feed normalizer calls turn).2 =
      (.ok [], (feed normalizer calls turn).2)

lemma normalize_closed (event : AgentEvent) (hclosed : c.terminal = true) :
    runFrom (call normalizer (.normalize event)) c = (.ok [], c) := by
  rw [call, EventNormalizer.normalize, runFrom_bind, runFrom_get]
  simp only [hclosed, if_true]
  rfl

lemma terminal_closed (status : String) (reason : Option JavaString) (hclosed : c.terminal = true) :
    runFrom (call normalizer (.terminal status reason)) c = (.ok [], c) := by
  rw [call, terminal, runFrom_bind, runFrom_get]
  simp only [hclosed, if_true]
  rfl

lemma call_closed {k : Call} (hends : (terminalOfCall k).isSome) (hclosed : c.terminal = true) :
    runFrom (call normalizer k) c = (.ok [], c) := by
  cases k with
  | normalize event => exact normalize_closed event hclosed
  | terminal status reason => exact terminal_closed status reason hclosed
  | approvalRequested prompt | approvalResolved prompt decision => cases hends

lemma Finishes.last {events : List TurnEvent} (h : Finishes events cs) :
    ∃ shown event, events = shown ++ [event] ∧ event.method = "turn/completed" := by
  rcases h with ⟨shown, event, completedAt, rfl, -, hmethod, -⟩ | ⟨event, rfl, hmethod, -⟩
  · exact ⟨shown, event, rfl, hmethod⟩
  · exact ⟨[], event, rfl, hmethod⟩

end Budgets

/-- **The budgets hold in every turn**, whatever its identity and its limits are, and after every
sequence of calls. -/
theorem within_budgets {normalizer : EventNormalizer} (hlimits : normalizer.limits.invalid = false)
    {threadId : DomainId "thr_"} {turnId : DomainId "turn_"} {mode accessMode : JavaString}
    {instanceSequence : ℕ} {threadSequence : Int64} {turn : Context}
    (hopen : openContext threadId turnId mode accessMode instanceSequence threadSequence = .ok turn)
    (calls : List Call) : WithinBudgets normalizer turn calls := by
  obtain ⟨htext, hfloor, hevent⟩ := Limits.bounds hlimits
  obtain ⟨hflag, hmodes, hfits⟩ : turn.terminal = false ∧ ModesFit turn ∧
    Fits normalizer (fun _ => True) (fun _ => True) turn turn := fits_openContext hopen
  have hsuits : ∀ c ∈ calls, SuitsCall (fun _ => True) (fun _ => True) c :=
    fun c _ => suitsCall_free c
  have hplace := feed_fits (freeRule normalizer.sha256) htext hfloor hmodes hflag hsuits hfits
  obtain ⟨⟨served, hcalls, hrun⟩, hwithin, hbytes⟩ := feed_served (c := turn) hevent calls
  have htrail := trail_of_run hrun
  -- the context that was opened has no items, and nothing is counted in it
  obtain ⟨boundedMode, hmode, hopen⟩ := bind_eq_ok.mp hopen
  obtain ⟨boundedAccess, haccess, hopen⟩ := bind_eq_ok.mp hopen
  obtain rfl := Except.ok.inj hopen
  refine ⟨⟨served, hcalls, hrun, fun key item hitem => ?_⟩, ?_, hwithin, ?_, ?_, ?_⟩
  · have hitemBytes := itemBytes_of_trail htext htrail key (Nat.zero_le _)
    rw [itemBytes, hitem, Option.elim_some] at hitemBytes
    exact ⟨hitemBytes.1.trans (Nat.zero_add _), hitemBytes.2⟩
  · exact metered_of_trail htrail ⟨List.forall_mem_nil _, rfl, Nat.zero_le _⟩
  · exact (Nat.zero_add _ ▸ hbytes).trans (within_of_trail htrail (Nat.zero_le _))
  · intro k hends hnone
    have hany : (calls.any fun c => (terminalOfCall c).isSome) = false := by
      rw [List.any_eq_false]
      intro j hj
      simp [hnone j hj]
    rw [hany] at hplace
    obtain ⟨⟨status, reason⟩, hterminal⟩ := Option.isSome_iff_exists.mp hends
    obtain ⟨events, last, hreturns, -⟩ := call_ends hfloor hmodes hflag hterminal hplace
    obtain ⟨cs, -, hQ⟩ : Trails (Update normalizer (Appends k)) _ (call normalizer k) _ :=
      trails_call_ends hevent hplace.terminal hends
    rw [hreturns] at hQ
    obtain ⟨shown, event, rfl, hmethod⟩ := (hQ events rfl).finishes.last
    exact ⟨shown, event, last, hreturns, hmethod⟩
  · rintro k hends ⟨j, hj, hended⟩
    have hany : (calls.any fun c => (terminalOfCall c).isSome) = true :=
      List.any_eq_true.mpr ⟨j, hj, hended⟩
    rw [hany] at hplace
    exact call_closed hends hplace.terminal

/-! ## A turn of one answer -/

/-- A normalizer whose clock stands still. -/
def steadyNormalizer : EventNormalizer where
  serverInstanceId := ⟨java "srv_a", rfl⟩
  limits := .defaults
  sha256 _ := ⟨List.replicate 32 0xAB, rfl⟩
  clock _ := ⟨java "2025-01-01T00:00:00Z", rfl⟩

def steadyTurn : Context where
  threadId := ⟨java "thr_a", rfl⟩
  turnId := ⟨java "turn_a", rfl⟩
  mode := java "coding"
  accessMode := java "workspace"
  instanceSequence := 1

lemma steadyTurn_opened : openContext steadyTurn.threadId steadyTurn.turnId (java "coding")
    (java "workspace") 1 0 = .ok steadyTurn := by
  have hmode : EventNormalizerPolicy.bounded (some (java "coding")) = .ok (java "coding") :=
    bounded_of_short (by decide +kernel) (wellFormed_java _)
  have haccess : EventNormalizerPolicy.bounded (some (java "workspace")) =
      .ok (java "workspace") := bounded_of_short (by decide +kernel) (wellFormed_java _)
  rw [openContext, hmode, haccess]
  rfl

theorem within_budgets_of_answer : WithinBudgets steadyNormalizer steadyTurn
    [.normalize (.textBlockDelta none (some (java "hello"))), .terminal "completed" none] :=
  within_budgets (by decide) steadyTurn_opened _

end JaDesktop.Sidecar
