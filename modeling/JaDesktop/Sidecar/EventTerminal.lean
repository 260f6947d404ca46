import JaDesktop.Sidecar.EventTexts

/-!
# The end of a turn

A terminal call never fails: what it hands out is Unicode, its compact form is small, and its events
are not counted against the budget.  So a turn that ends has its `turn/completed`.
-/

namespace JaDesktop.Sidecar

open EventNormalizerPolicy EventNormalizer

/-! ## Unicode -/

lemma length_cut (value : JavaString) : (EventNormalizerPolicy.cut value).length ≤ 512 := by
  rw [EventNormalizerPolicy.cut]
  split_ifs with h
  · exact h
  · rw [List.length_take]
    omega
  · rw [List.length_take]
    omega

/-- A bounded text is the beginning of the text it is made of, and is well formed. -/
lemma bounded_eq_ok {value text : JavaString}
    (h : EventNormalizerPolicy.bounded (some value) = .ok text) :
    text = EventNormalizerPolicy.cut value ∧ wellFormed text = true := by
  obtain ⟨n, hn, rfl⟩ := map_eq_ok.mp h
  refine ⟨rfl, wellFormed_of_countAtMost hn (Or.inl ?_)⟩
  have := length_cut value
  rw [maxInteger]
  omega

/-- What is bounded without a failure: every text that is well formed, when the cut keeps it so. -/
lemma bounded_of_short {value : JavaString} (hlength : value.length ≤ 512)
    (h : wellFormed value = true) : EventNormalizerPolicy.bounded (some value) = .ok value := by
  obtain ⟨s, hs⟩ := utf16Decode_of_wellFormed h
  have hcut : EventNormalizerPolicy.cut value = value := by
    rw [EventNormalizerPolicy.cut, if_pos hlength]
  obtain ⟨n, hn⟩ := safeByteCount_java s
  have hvalue : value = java s := (utf16Encode_of_utf16Decode hs).symm
  rw [safeByteCount, ← hvalue] at hn
  show (utf8BytesAtMost (EventNormalizerPolicy.cut value) maxInteger).map
    (fun _ => EventNormalizerPolicy.cut value) = .ok value
  rw [hcut, hn]
  rfl

variable {s : JavaString} {head : String}

lemma wellFormed_of_printable (h : ∀ u ∈ s, isTitleUnit u = true) :
    wellFormed s = true := by
  refine wellFormed_of_ascii fun u hu => ?_
  have hu := h u hu
  simp only [isTitleUnit, Bool.and_eq_true, decide_eq_true_eq, UInt16.le_iff_toNat_le] at hu
  have h7E : (0x7E : UInt16).toNat = 0x7E := rfl
  omega

lemma IsLabel.printable (h : IsLabel s) : ∀ u ∈ s, isTitleUnit u = true := by
  simp only [IsLabel, matchesLabel, Bool.and_eq_true, List.all_eq_true] at h
  exact fun u hu => isTitleUnit_of_label (h.2 u hu)

lemma IsLabel.length (h : IsLabel s) : s.length ≤ 128 := by
  simp only [IsLabel, matchesLabel, Bool.and_eq_true, decide_eq_true_eq] at h
  exact h.1.2

lemma IsHash.printable {hash : JavaString} (h : IsHash hash) :
    ∀ u ∈ hash, isTitleUnit u = true :=
  fun u hu => isTitleUnit_of_label (isLabelUnit_of_lowerHex (h.2 u hu))

lemma isLabelUnit_of_tail {u : UInt16} (h : isTailUnit u = true) : isLabelUnit u = true := by
  rw [isLabelUnit, h]
  rfl

lemma label_of_matchesHeadTail (hhead : (java head).all isLabelUnit = true)
    (h : matchesHeadTail head s = true) :
    ∀ u ∈ s, isLabelUnit u = true := by
  rw [matchesHeadTail, Bool.and_eq_true, List.isPrefixOf_iff_prefix] at h
  obtain ⟨⟨tail, rfl⟩, htail⟩ := h
  rw [List.drop_left] at htail
  intro u hu
  rcases List.mem_append.mp hu with hu | hu
  · exact List.all_eq_true.mp hhead u hu
  cases tail with
  | nil => cases htail
  | cons first rest =>
    simp only [matchesTail, Bool.and_eq_true, List.all_eq_true] at htail
    rcases List.mem_cons.mp hu with rfl | hu
    · exact isLabelUnit_of_tail (by rw [isTailUnit, htail.1.1]; rfl)
    · exact isLabelUnit_of_tail (htail.2 u hu)

lemma printable_of_matchesHeadTail (hhead : (java head).all isLabelUnit = true)
    (h : matchesHeadTail head s = true) :
    ∀ u ∈ s, isTitleUnit u = true :=
  fun u hu => isTitleUnit_of_label (label_of_matchesHeadTail hhead h u hu)

lemma length_of_matchesHeadTail (h : matchesHeadTail head s = true) :
    s.length ≤ (java head).length + 96 := by
  rw [matchesHeadTail, Bool.and_eq_true, List.isPrefixOf_iff_prefix] at h
  obtain ⟨⟨tail, rfl⟩, htail⟩ := h
  rw [List.drop_left] at htail
  cases tail with
  | nil => cases htail
  | cons first rest =>
    simp only [matchesTail, Bool.and_eq_true, decide_eq_true_eq] at htail
    rw [List.length_append, List.length_cons]
    omega

/-- A text that follows a template of label units has nothing but label units. -/
lemma label_of_matchesTemplate {template : String}
    (htemplate : (java template).all isLabelUnit = true) (h : matchesTemplate template s = true) :
    s.length = (java template).length ∧ ∀ u ∈ s, isLabelUnit u = true := by
  rw [matchesTemplate, Bool.and_eq_true, beq_iff_eq] at h
  obtain ⟨hlength, hunits⟩ := h
  refine ⟨hlength, ?_⟩
  generalize java template = units at htemplate hlength hunits
  induction units generalizing s with
  | nil =>
    rw [List.length_nil, List.length_eq_zero_iff] at hlength
    rw [hlength]
    exact List.forall_mem_nil _
  | cons t units ih =>
    cases s with
    | nil => exact List.forall_mem_nil _
    | cons u s =>
      simp only [List.zip_cons_cons, List.all_cons, Bool.and_eq_true] at hunits htemplate
      refine List.forall_mem_cons.mpr ⟨?_, ih htemplate.2 (by simpa using hlength) hunits.2⟩
      have hunit := hunits.1
      split_ifs at hunit
      · refine isLabelUnit_of_tail ?_
        rw [isDigit] at hunit
        rw [isTailUnit, isAlphanumeric, hunit]
        simp
      · rw [← beq_iff_eq.mp hunit]
        exact htemplate.1

lemma label_instant (instant : InstantText) :
    instant.val.length ≤ 30 ∧ ∀ u ∈ instant.val, isLabelUnit u = true := by
  have hinstant := instant.2
  simp only [isIsoInstant, Bool.or_eq_true] at hinstant
  rcases hinstant with ((h | h) | h) | h
  all_goals
    obtain ⟨hlength, hlabel⟩ := label_of_matchesTemplate (by decide +kernel) h
    refine ⟨?_, hlabel⟩
    rw [hlength]
    decide +kernel

lemma printable_instant (instant : InstantText) :
    instant.val.length ≤ 30 ∧ ∀ u ∈ instant.val, isTitleUnit u = true :=
  ⟨(label_instant instant).1, fun u hu => isTitleUnit_of_label ((label_instant instant).2 u hu)⟩

lemma unicodeRule {labelOk : JavaString → Prop} {keyOk : String → Prop} {turn : Context}
    (hmode : wellFormed turn.mode = true) (haccess : wellFormed turn.accessMode = true) :
    CleanRule labelOk keyOk turn (fun key => !wellFormed key) fun text => !wellFormed text where
  field name _ := by simp [wellFormed_java]
  metadata name _ _ := by simp [wellFormed_java]
  constant text _ := by simp [wellFormed_java]
  id head hhead s hs := by
    have hlabel : (java head).all isLabelUnit = true := by
      simp only [List.mem_cons, List.not_mem_nil, or_false] at hhead
      rcases hhead with rfl | rfl | rfl <;> decide
    simp [wellFormed_of_printable (printable_of_matchesHeadTail hlabel hs)]
  hash head hhead hash hhash := by
    have hprintable : (java head).all isTitleUnit = true := by
      simp only [List.mem_cons, List.not_mem_nil, or_false] at hhead
      rcases hhead with rfl | rfl <;> decide
    have hall : ∀ u ∈ java head ++ hash, isTitleUnit u = true :=
      List.forall_mem_append.mpr ⟨List.all_eq_true.mp hprintable, hhash.printable⟩
    simp [wellFormed_of_printable hall]
  instant instant := by simp [wellFormed_of_printable (printable_instant instant).2]
  title title text _ htext := by simp [(bounded_eq_ok htext).2]
  label label _ hlabel := by simp [wellFormed_of_printable hlabel.printable]
  bounded value text _ htext := by simp [(bounded_eq_ok htext).2]
  mode := by simp [hmode]
  accessMode := by simp [haccess]

section Terminal

variable {normalizer : EventNormalizer} {labelOk : JavaString → Prop} {keyOk : String → Prop}
  {turn : Context}

/-- The modes of the turn are Unicode texts. -/
structure ModesFit (turn : Context) : Prop where
  mode : wellFormed turn.mode = true
  accessMode : wellFormed turn.accessMode = true

lemma byteCount_of_shape (hmodes : ModesFit turn) {event : TurnEvent}
    (h : EventShape normalizer labelOk keyOk turn event) :
    event.byteCount = .ok (min (jsonBytes (.object event.params)) maxInteger) := by
  have hclean := clean_event (unicodeRule hmodes.mode hmodes.accessMode) h
    fun s _ => by simp [wellFormed_java]
  rw [TurnEvent.byteCount, if_pos (by rw [unicodeTree, hclean]; rfl)]

/-! ## The size of the compact event -/

lemma escapedBytes_label {u : UInt16} (h : isLabelUnit u = true) : escapedBytes u = 1 := by
  have hall : ∀ n < 128, isLabelUnit (UInt16.ofNat n) = true →
      escapedBytes (UInt16.ofNat n) = 1 := by decide +kernel
  have hprintable := isTitleUnit_of_label h
  simp only [isTitleUnit, Bool.and_eq_true, decide_eq_true_eq, UInt16.le_iff_toNat_le] at hprintable
  have h7E : (0x7E : UInt16).toNat = 0x7E := rfl
  have hu : u = UInt16.ofNat u.toNat := (UInt16.ofNat_toNat).symm
  rw [hu] at h ⊢
  exact hall _ (by omega) h

lemma stringBytes_label {s : JavaString} (h : ∀ u ∈ s, isLabelUnit u = true) :
    stringBytes s = 2 + s.length := by
  have hsum : (s.map escapedBytes).sum = s.length := by
    rw [List.map_congr_left (g := fun _ => 1) fun u hu => escapedBytes_label (h u hu)]
    simp
  rw [stringBytes, hsum]

lemma stringBytes_id {head : String} (hhead : (java head).all isLabelUnit = true)
    (id : DomainId head) : stringBytes id.val ≤ (java head).length + 98 := by
  have hlength := length_of_matchesHeadTail id.2
  rw [stringBytes_label (label_of_matchesHeadTail hhead id.2)]
  omega

lemma length_toString_int64 (n : Int64) : (toString n.toInt).length ≤ 20 := by
  have hlow := n.le_toInt
  have hhigh := n.toInt_lt
  cases hn : n.toInt with
  | ofNat m =>
    rw [hn, Int.ofNat_eq_natCast] at hhigh
    have hm : m.repr.length ≤ 19 := by
      rw [Nat.length_repr_le_iff (by decide)]
      omega
    show (Nat.repr m).length ≤ 20
    omega
  | negSucc m =>
    rw [hn, Int.negSucc_eq] at hlow
    have hm : (m + 1).repr.length ≤ 19 := by
      rw [Nat.length_repr_le_iff (by decide)]
      omega
    show ("-" ++ (m + 1).repr).length ≤ 20
    rw [String.length_append]
    have : "-".length = 1 := rfl
    omega

lemma fieldsBytes_le (fields : ObjectNode) :
    fieldsBytes fields ≤ (fields.map fun field => stringBytes field.1 + 2 + jsonBytes field.2).sum := by
  induction fields with
  | nil => exact Nat.le_refl _
  | cons field fields ih =>
    obtain ⟨key, value⟩ := field
    rw [List.map_cons, List.sum_cons]
    cases fields with
    | nil =>
      simp only [fieldsBytes, List.map_nil, List.sum_nil]
      omega
    | cons next fields =>
      rw [fieldsBytes.eq_3 _ _ _ (by simp)]
      dsimp only
      omega

variable {reason status : String} {events : List TurnEvent}

lemma jsonBytes_compact {seq : Int64} {hash : JavaString} {occurredAt : InstantText}
    (hhash : IsHash hash) (hstatus : status ∈ ["completed", "failed", "interrupted"])
    (hreason : reason ∈ "" :: terminalReasons) :
    jsonBytes (.object (baseFields normalizer turn seq (java "evt_as_" ++ hash) occurredAt.val ++
      [(java "turn", .object (compactTurn turn status reason))])) ≤ 1024 := by
  have hserver := stringBytes_id (by decide) normalizer.serverInstanceId
  have hthread := stringBytes_id (by decide) turn.threadId
  have hturn := stringBytes_id (by decide) turn.turnId
  have hevent : stringBytes (java "evt_as_" ++ hash) = 2 + (java "evt_as_" ++ hash).length := by
    refine stringBytes_label (List.forall_mem_append.mpr ⟨?_, ?_⟩)
    · exact List.all_eq_true.mp (by decide)
    · exact fun u hu => isLabelUnit_of_lowerHex (hhash.2 u hu)
  have hinstant := stringBytes_label (label_instant occurredAt).2
  have hinstantLength := (label_instant occurredAt).1
  have hdigits := length_toString_int64 seq
  rw [List.length_append, hhash.1] at hevent
  have hheads : (java "srv_").length = 4 ∧ (java "thr_").length = 4 ∧ (java "turn_").length = 5 ∧
      (java "evt_as_").length = 7 := by decide
  have hstatusBytes : stringBytes (java status) ≤ 20 := by
    simp only [List.mem_cons, List.not_mem_nil, or_false] at hstatus
    rcases hstatus with rfl | rfl | rfl <;> decide
  have hreasonBytes : ((reasonField reason).map fun field =>
      stringBytes field.1 + 2 + jsonBytes field.2).sum ≤ 60 := by
    have hall : ∀ reason ∈ "" :: terminalReasons, ((reasonField reason).map fun field =>
        stringBytes field.1 + 2 + jsonBytes field.2).sum ≤ 60 := forall_mem_of_all (by decide +kernel)
    exact hall reason hreason
  have hnames : ∀ name ∈ ["serverInstanceId", "threadId", "turnId", "seq", "eventId", "occurredAt",
      "turn", "status", "terminalStatus"], stringBytes (java name) ≤ 20 :=
    forall_mem_of_all (by decide +kernel)
  simp only [List.forall_mem_cons] at hnames
  have hinner := fieldsBytes_le (compactTurn turn status reason)
  have houter := fieldsBytes_le (baseFields normalizer turn seq (java "evt_as_" ++ hash)
    occurredAt.val ++ [(java "turn", .object (compactTurn turn status reason))])
  simp only [compactTurn, baseFields, List.map_cons, List.map_nil, jsonBytes, List.sum_cons,
    List.sum_nil, List.cons_append, List.nil_append] at hinner houter ⊢
  omega

/-! ## Programs that do not fail -/

/-- A program returns on the contexts of a turn. -/
def Succeeds (normalizer : EventNormalizer) (labelOk : JavaString → Prop) (keyOk : String → Prop)
    (turn : Context) {α : Type} (m : Normalizing α) : Prop :=
  ∀ context, Fits normalizer labelOk keyOk turn context →
    ∃ a last, runFrom m context = (.ok a, last)

namespace Succeeds

variable {α β : Type}

lemma pure (a : α) : Succeeds normalizer labelOk keyOk turn (pure a) :=
  fun context _ => ⟨a, context, rfl⟩

lemma get : Succeeds normalizer labelOk keyOk turn get :=
  fun context _ => ⟨context, context, rfl⟩

lemma modify (f : Context → Context) : Succeeds normalizer labelOk keyOk turn (modify f) :=
  fun context _ => ⟨⟨⟩, f context, rfl⟩

lemma lift {x : Except NormalizeFailure α} {a : α} (h : x = .ok a) :
    Succeeds normalizer labelOk keyOk turn (liftExcept x) :=
  fun context _ => ⟨a, context, by rw [h]; rfl⟩

/-- The second program starts where the first one, which keeps the turn, has returned. -/
lemma bind {m : Normalizing α} {f : α → Normalizing β} {Q : α → Prop}
    (hm : Succeeds normalizer labelOk keyOk turn m) (hkeeps : Keeps normalizer labelOk keyOk turn m Q)
    (hf : ∀ a, Q a → Succeeds normalizer labelOk keyOk turn (f a)) :
    Succeeds normalizer labelOk keyOk turn (m >>= f) := by
  intro context hcontext
  obtain ⟨a, next, hrun⟩ := hm context hcontext
  obtain ⟨hnext, ha⟩ := (hkeeps context hcontext).1 a next hrun
  obtain ⟨b, last, hlast⟩ := hf a ha next hnext
  refine ⟨b, last, ?_⟩
  rw [runFrom_bind, hrun]
  exact hlast

lemma ite {c : Prop} [Decidable c] {m n : Normalizing α}
    (ht : c → Succeeds normalizer labelOk keyOk turn m)
    (hf : ¬ c → Succeeds normalizer labelOk keyOk turn n) :
    Succeeds normalizer labelOk keyOk turn (if c then m else n) := by
  by_cases h : c
  · rw [if_pos h]
    exact ht h
  · rw [if_neg h]
    exact hf h

end Succeeds

/-! ## Terminal calls -/

lemma digest_ok {value : JavaString} (h : wellFormed value = true) (sha256 : Sha256) :
    ∃ hash, digest sha256 value = .ok hash := by
  obtain ⟨text, htext⟩ := utf16Decode_of_wellFormed h
  exact ⟨_, by rw [digest, htext]⟩

lemma wellFormed_id {head : String} (hhead : (java head).all isLabelUnit = true)
    (id : DomainId head) : wellFormed id.val = true :=
  wellFormed_of_printable (printable_of_matchesHeadTail hhead id.2)

lemma wellFormed_eventSeed (context : Context) (seq : Int64) :
    wellFormed (eventSeed normalizer context seq) = true := by
  have hserver := wellFormed_append (wellFormed_id (by decide) normalizer.serverInstanceId)
    (wellFormed_java "|")
  have hthread := wellFormed_append (wellFormed_append hserver
    (wellFormed_id (by decide) context.threadId)) (wellFormed_java "|")
  have hturn := wellFormed_append (wellFormed_append hthread
    (wellFormed_id (by decide) context.turnId)) (wellFormed_java "|")
  have hinstance := wellFormed_append (wellFormed_append hturn
    (wellFormed_java (toString context.instanceSequence))) (wellFormed_java "|")
  exact wellFormed_append hinstance (wellFormed_java (toString seq.toInt))

lemma succeeds_now : Succeeds normalizer labelOk keyOk turn (now normalizer) :=
  Succeeds.get.bind Keeps.get fun _ _ => (Succeeds.modify _).bind
    (Keeps.modify fun _ h => h.counters) fun _ _ => Succeeds.pure _

lemma succeeds_base : Succeeds normalizer labelOk keyOk turn (base normalizer true) := by
  have htake : Succeeds normalizer labelOk keyOk turn (takeSequence normalizer) := by
    refine Succeeds.get.bind Keeps.get fun context _ => ?_
    refine (Succeeds.modify _).bind (Keeps.modify fun _ h => h.counters) fun _ _ => ?_
    obtain ⟨hash, hhash⟩ := digest_ok (wellFormed_eventSeed context _) normalizer.sha256
    refine (Succeeds.lift hhash).bind (Keeps.lift fun _ _ => trivial) fun _ _ => ?_
    exact succeeds_now.bind keeps_now fun _ _ => Succeeds.pure _
  exact Succeeds.get.bind Keeps.get fun _ _ => Succeeds.ite (fun h => by simp at h) fun _ => htake

lemma snapshot_ok {item : ItemAccumulator} (h : ItemFits normalizer labelOk keyOk item)
    (turnId : DomainId "turn_") (status : String) : ∃ node, snapshot turnId item status = .ok node := by
  have htitle : EventNormalizerPolicy.bounded (some item.title) = .ok item.title :=
    bounded_of_short (h.title.length.trans (by decide)) (wellFormed_of_printable h.title.printable)
  have hentry : ∀ entry ∈ item.metadata, ∃ field, metadataField entry = .ok field := by
    rintro ⟨name, value⟩ hmem
    cases value with
    | number n => exact ⟨_, rfl⟩
    | bool b => exact ⟨_, rfl⟩
    | text s =>
      have hlabel := ((h.metadata _ hmem).label s rfl).2
      have hbounded : EventNormalizerPolicy.bounded (some s) = .ok s := bounded_of_short
        (hlabel.length.trans (by decide)) (wellFormed_of_printable hlabel.printable)
      exact ⟨(java name, .string s), by simp [metadataField, metadataNode, hbounded, Except.map]⟩
  have hmetadata : ∃ fields, item.metadata.mapM metadataField = .ok fields := by
    generalize item.metadata = entries at hentry
    induction entries with
    | nil => exact ⟨[], rfl⟩
    | cons entry entries ih =>
      obtain ⟨hfirst, hrest⟩ := List.forall_mem_cons.mp hentry
      obtain ⟨field, hfield⟩ := hfirst
      obtain ⟨fields, hfields⟩ := ih hrest
      exact ⟨field :: fields, by rw [List.mapM_cons, hfield, hfields]; rfl⟩
  obtain ⟨fields, hfields⟩ := hmetadata
  exact ⟨_, by rw [snapshot, htitle, hfields]; rfl⟩

lemma succeeds_itemEvent {method : String} {item : ItemAccumulator}
    (hitem : ItemFits normalizer labelOk keyOk item) :
    Succeeds normalizer labelOk keyOk turn (itemEvent normalizer method item status true) := by
  refine succeeds_base.bind keeps_base fun params _ => ?_
  refine Succeeds.get.bind Keeps.get fun context _ => ?_
  obtain ⟨node, hnode⟩ := snapshot_ok hitem context.turnId status
  exact (Succeeds.lift hnode).bind (Keeps.lift fun _ _ => trivial) fun _ _ => Succeeds.pure _

lemma succeeds_closeItem (hstatus : status ∈ ["completed", "failed", "interrupted"])
    (key : JavaString) :
    Succeeds normalizer labelOk keyOk turn (closeItem normalizer status key) := by
  refine Succeeds.get.bind Keeps.get fun context hcontext => ?_
  cases hlookup : context.items.lookup key with
  | none => exact Succeeds.pure _
  | some item =>
    have hclosed := (hcontext.lookup hlookup).ended
    refine Succeeds.ite (fun _ => Succeeds.pure _) fun _ => ?_
    refine (Succeeds.modify _).bind (Keeps.modify fun _ h => h.setItem hclosed) fun _ _ => ?_
    exact (succeeds_itemEvent hclosed).bind (keeps_itemEvent (Or.inr ⟨rfl, hstatus⟩) hclosed)
      fun _ _ => Succeeds.pure _

lemma succeeds_closeItems (hstatus : status ∈ ["completed", "failed", "interrupted"])
    (keys : List JavaString) :
    Succeeds normalizer labelOk keyOk turn (closeItems normalizer status keys) := by
  induction keys with
  | nil => exact Succeeds.pure _
  | cons key keys ih =>
    refine (succeeds_closeItem hstatus key).bind (keeps_closeItem hstatus key) fun _ _ => ?_
    exact ih.bind (keeps_closeItems hstatus keys) fun _ _ => Succeeds.pure _

lemma anyOversized_ok (hmodes : ModesFit turn) (h : Shaped normalizer labelOk keyOk turn events) :
    anyOversized normalizer events = .ok true ∨
      anyOversized normalizer events = .ok false ∧ ∀ event ∈ events, WithinLimit normalizer event := by
  induction events with
  | nil => exact Or.inr ⟨rfl, List.forall_mem_nil _⟩
  | cons event events ih =>
    obtain ⟨hevent, hrest⟩ := List.forall_mem_cons.mp h
    have hbytes := byteCount_of_shape hmodes hevent
    rw [anyOversized, hbytes, ok_bind]
    split_ifs with hlarge
    · exact Or.inl rfl
    · refine (ih hrest).imp_right fun ⟨hno, hall⟩ => ⟨hno, ?_⟩
      exact List.forall_mem_cons.mpr ⟨⟨_, hbytes, Nat.not_lt.mp hlarge⟩, hall⟩

lemma succeeds_enforce (h : ∀ event ∈ events, WithinLimit normalizer event) :
    Succeeds normalizer labelOk keyOk turn (enforceEventBudget normalizer events true) := by
  have hcharge : Succeeds normalizer labelOk keyOk turn (chargeEvents normalizer true events) := by
    induction events with
    | nil => exact Succeeds.pure _
    | cons event events ih =>
      obtain ⟨⟨bytes, hbytes, hsmall⟩, hrest⟩ := List.forall_mem_cons.mp h
      refine (Succeeds.lift hbytes).bind (Keeps.lift fun n hn => hn) fun n hn => ?_
      obtain rfl := Except.ok.inj (hbytes.symm.trans hn)
      refine Succeeds.ite (fun hlarge => by omega) fun _ => ?_
      exact Succeeds.ite (fun _ => ih hrest) fun hfalse => absurd rfl hfalse
  exact hcharge.bind (keeps_chargeEvents events) fun _ _ => Succeeds.pure _

lemma succeeds_compactTerminal (hlimit : 1024 ≤ normalizer.limits.maxEventBytes)
    (hmodes : ModesFit turn) (hstatus : status ∈ ["completed", "failed", "interrupted"])
    (hreason : reason ∈ "" :: terminalReasons) :
    Succeeds normalizer labelOk keyOk turn (compactTerminal normalizer status reason) ∧
      Keeps normalizer labelOk keyOk turn (compactTerminal normalizer status reason)
        (WithinLimit normalizer) := by
  have hcompact : ∀ params context, BaseShape normalizer turn params →
      Fits normalizer labelOk keyOk turn context → WithinLimit normalizer ⟨"turn/completed",
        ObjectNode.set (java "turn")
          (.object (compactTurn context (terminalStatus status) reason)) params⟩ := by
    intro params context hparams hcontext
    have hturn : compactTurn context (terminalStatus status) reason =
        compactTurn turn status reason := by
      rw [compactTurn, compactTurn, hcontext.turnId, hcontext.threadId, terminalStatus_idem hstatus]
    have hshape : EventShape normalizer labelOk keyOk turn ⟨"turn/completed",
        params ++ [(java "turn", .object (compactTurn turn status reason))]⟩ :=
      eventShape_of_base hparams (.compact hstatus hreason)
    rw [set_base hparams (by simp), hturn]
    refine ⟨_, byteCount_of_shape hmodes hshape, ?_⟩
    obtain ⟨seq, hash, occurredAt, hhash, rfl⟩ := hparams
    exact (min_le_left _ _).trans ((jsonBytes_compact hhash hstatus hreason).trans hlimit)
  constructor
  · refine succeeds_base.bind keeps_base fun params hparams => ?_
    refine Succeeds.get.bind Keeps.get fun context hcontext => ?_
    obtain ⟨bytes, hbytes, hsmall⟩ := hcompact params context hparams hcontext
    refine (Succeeds.lift hbytes).bind (Keeps.lift fun n hn => hn) fun n hn => ?_
    obtain rfl := Except.ok.inj (hbytes.symm.trans hn)
    exact Succeeds.ite (fun hlarge => by omega) fun _ => Succeeds.pure _
  · refine keeps_base.bind fun params hparams => ?_
    refine Keeps.get.bind fun context hcontext => ?_
    refine (Keeps.lift fun _ _ => trivial).bind fun bytes _ => ?_
    exact Keeps.ite (fun _ => Keeps.overBudget) fun _ =>
      Keeps.pure (hcompact params context hparams hcontext)

lemma succeeds_compactOversized (hlimit : 1024 ≤ normalizer.limits.maxEventBytes)
    (hmodes : ModesFit turn) (hstatus : status ∈ ["completed", "failed", "interrupted"])
    (hreason : reason ∈ "" :: terminalReasons) (h : Shaped normalizer labelOk keyOk turn events) :
    Succeeds normalizer labelOk keyOk turn (compactOversized normalizer status reason events) ∧
      Keeps normalizer labelOk keyOk turn (compactOversized normalizer status reason events)
        fun events => ∀ event ∈ events, WithinLimit normalizer event := by
  obtain ⟨hsucceeds, hkeeps⟩ : _ ∧ Keeps normalizer labelOk keyOk turn _ _ :=
    succeeds_compactTerminal hlimit hmodes hstatus hreason
  rcases anyOversized_ok hmodes h with hyes | ⟨hno, hall⟩
  · constructor
    · refine (Succeeds.lift hyes).bind (Keeps.lift fun _ _ => trivial) fun _ _ => ?_
      exact Succeeds.ite (fun _ => hsucceeds.bind hkeeps fun _ _ => Succeeds.pure _)
        fun _ => Succeeds.pure _
    · refine (Keeps.lift fun b hb => hb).bind fun b hb => ?_
      obtain rfl := Except.ok.inj (hyes.symm.trans hb)
      refine Keeps.ite (fun _ => ?_) fun hfalse => absurd rfl hfalse
      exact hkeeps.bind fun event hevent => Keeps.pure (List.forall_mem_singleton.mpr hevent)
  · constructor
    · refine (Succeeds.lift hno).bind (Keeps.lift fun b hb => hb) fun b hb => ?_
      obtain rfl := Except.ok.inj (hno.symm.trans hb)
      exact Succeeds.ite (fun hfalse => absurd hfalse (by simp)) fun _ => Succeeds.pure _
    · refine (Keeps.lift fun b hb => hb).bind fun b hb => ?_
      obtain rfl := Except.ok.inj (hno.symm.trans hb)
      exact Keeps.ite (fun hfalse => absurd hfalse (by simp)) fun _ => Keeps.pure hall

/-- **A terminal call returns**, and the end of the turn is among its events. -/
theorem closeTurn_ok (status : String) (reason : Option JavaString)
    (hlimit : 1024 ≤ normalizer.limits.maxEventBytes) (hmodes : ModesFit turn) {context : Context}
    (hcontext : Fits normalizer labelOk keyOk turn context) :
    ∃ events last, runFrom (closeTurn normalizer status reason) context = (.ok events, last) ∧
      Fits normalizer labelOk keyOk turn.close last ∧
      Shaped normalizer labelOk keyOk turn events ∧ Ended events ∧
      ∀ event ∈ events, WithinLimit normalizer event := by
  suffices hreturns : ∃ events last,
      runFrom (closeTurn normalizer status reason) context = (.ok events, last) by
    obtain ⟨events, last, hrun⟩ := hreturns
    exact ⟨events, last, hrun, (ensures_closeTurn context hcontext).1 events last hrun⟩
  have hclose : ModesFit turn.close := ⟨hmodes.mode, hmodes.accessMode⟩
  have hbody : Succeeds normalizer labelOk keyOk turn.close (do
      let context ← get
      let closed ← closeItems normalizer (terminalStatus status) (context.items.map Prod.fst)
      let params ← base normalizer true
      let completedAt ← now normalizer
      let context ← get
      let event : TurnEvent := ⟨"turn/completed", ObjectNode.set (java "turn")
        (.object (terminalTurn context (terminalStatus status) (terminalReason reason)
          completedAt)) params⟩
      let events ← compactOversized normalizer (terminalStatus status) (terminalReason reason)
        (closed ++ [event])
      enforceEventBudget normalizer events true) := by
    refine Succeeds.get.bind Keeps.get fun first _ => ?_
    refine (succeeds_closeItems (mem_terminalStatus status) _).bind
      (keeps_closeItems (mem_terminalStatus status) _) fun closed hclosed => ?_
    refine succeeds_base.bind keeps_base fun params hparams => ?_
    refine succeeds_now.bind keeps_now fun text htext => ?_
    obtain ⟨instant, rfl⟩ := htext
    refine Succeeds.get.bind Keeps.get fun last hlast => ?_
    have hsucceeds := succeeds_compactOversized hlimit hclose (mem_terminalStatus status)
      (mem_terminalReason reason)
      (hclosed.append (shaped_singleton (eventShape_terminalTurn status reason instant
        hparams hlast)))
    exact hsucceeds.1.bind hsucceeds.2 fun events hevents => succeeds_enforce hevents
  obtain ⟨events, last, hrun⟩ := hbody _ hcontext.close
  refine ⟨events, last, ?_⟩
  rw [closeTurn, runFrom_bind, runFrom_modify]
  exact hrun

end Terminal

end JaDesktop.Sidecar
