import JaDesktop.Profiles.ModelProfile

/-!
# Profiles with one fingerprint

The fields after the name of the model have no bars, so a fingerprint says what they are.  Of the
fields before them it says what pieces they have: a display name and a model name with bars can be
cut at another place.  So a profile has its fingerprint for itself exactly when both names are
written faithfully and its pieces are read in one way only (`fingerprint_separates_iff`).
-/

namespace JaDesktop.Profiles

open JaDesktop.Sidecar

/-! ## Texts without bars -/

/-- A text of ASCII without the separator. -/
def Plain (s : JavaString) : Prop := ∀ u ∈ s, u.toNat < 0x80 ∧ u ≠ 0x7C

instance : DecidablePred Plain := fun s =>
  List.decidableBAll (fun u : UInt16 => u.toNat < 0x80 ∧ u ≠ 0x7C) s

/-- The pieces of a field between its bars. -/
def pieces (s : JavaString) : List (List Char) := (encodedChars s).splitOn '|'

lemma Plain.append {s t : JavaString} (hs : Plain s) (ht : Plain t) : Plain (s ++ t) := by
  intro u hu
  rcases List.mem_append.mp hu with hu | hu
  · exact hs u hu
  · exact ht u hu

lemma Plain.ascii {s : JavaString} (h : Plain s) : ∀ u ∈ s, u.toNat < 0x80 := fun u hu => (h u hu).1

lemma Plain.pieces {s : JavaString} (h : Plain s) : pieces s = [encodedChars s] := by
  refine List.splitOn_eq_singleton ?_
  rw [encodedChars_of_ascii h.ascii]
  intro hbar
  obtain ⟨u, hu, hchar⟩ := List.mem_map.mp hbar
  have hnat := congrArg Char.toNat hchar
  rw [toNat_charOfNat (Or.inl (by have := (h u hu).1; omega))] at hnat
  exact (h u hu).2 (UInt16.toNat_inj.mp hnat)

lemma Plain.inj {s t : JavaString} (hs : Plain s) (ht : Plain t)
    (h : encodedChars s = encodedChars t) : s = t :=
  eq_of_encodedChars_ascii hs.ascii ht.ascii h

lemma plain_of_all {p : UInt16 → Bool} (hp : ∀ u, p u = true → u.toNat < 0x80 ∧ u ≠ 0x7C)
    {s : JavaString} (h : s.all p = true) : Plain s :=
  fun u hu => hp u (List.all_eq_true.mp h u hu)

lemma isAlphanumeric_plain {u : UInt16} (h : isAlphanumeric u = true) :
    u.toNat < 0x80 ∧ u ≠ 0x7C := by
  have hbar : (0x7C : UInt16).toNat = 0x7C := rfl
  simp only [isAlphanumeric, Bool.or_eq_true, Bool.and_eq_true, decide_eq_true_eq,
    UInt16.le_iff_toNat_le, UInt16.reduceToNat] at h
  refine ⟨by omega, ?_⟩
  rintro rfl
  omega

/-- The units `[A-Za-z0-9._:-]`. -/
lemma isReferenceUnit_plain {u : UInt16} (h : (isTailUnit u || u == 0x3A) = true) :
    u.toNat < 0x80 ∧ u ≠ 0x7C := by
  simp only [isTailUnit, Bool.or_eq_true, beq_iff_eq] at h
  rcases h with (((hunit | rfl) | rfl) | rfl) | rfl
  · exact isAlphanumeric_plain hunit
  all_goals decide

lemma plain_providerName (provider : ModelProvider) : Plain (providerName provider) := by
  cases provider <;> decide

lemma plain_apiName (api : ModelApi) : Plain (apiName api) := by
  cases api <;> decide

lemma plain_boolText (b : Bool) : Plain (boolText b) := by
  cases b <;> decide

lemma plain_digits (n : ℕ) : Plain (digits n) := by
  intro u hu
  obtain ⟨hlow, hhigh⟩ := isDigit_of_mem_digits hu
  refine ⟨by omega, ?_⟩
  rintro rfl
  have hbar : (0x7C : UInt16).toNat = 0x7C := rfl
  omega

lemma SecretRef.plain (ref : SecretRef) : Plain ref.toString := by
  have hid : Plain ref.id := by
    have hvalid := ref.valid
    cases hunits : ref.id with
    | nil => exact fun u hu => absurd hu List.not_mem_nil
    | cons first rest =>
      rw [hunits, matchesSecretRef, Bool.and_eq_true, Bool.and_eq_true] at hvalid
      intro u hu
      rcases List.mem_cons.mp hu with rfl | hu
      · exact isAlphanumeric_plain hvalid.1.1
      · exact isReferenceUnit_plain (List.all_eq_true.mp hvalid.2 u hu)
  exact (Plain.append (by decide) hid).append (by decide)

lemma plain_of_matchesVendor {vendor : JavaString} (h : matchesVendor vendor = true) :
    Plain vendor := by
  rw [matchesVendor, Bool.and_eq_true] at h
  exact plain_of_all (fun _ => isReferenceUnit_plain) h.2

lemma ModelCapability.plain (capability : ModelCapability) : Plain capability.name := by
  cases capability <;> decide

lemma plain_overrideText (entry : ModelCapability × Bool) : Plain (overrideText entry) :=
  (entry.1.plain.append (by decide)).append (plain_boolText entry.2)

lemma plain_intercalate {separator : JavaString} {fields : List JavaString}
    (hseparator : Plain separator) (hfields : ∀ field ∈ fields, Plain field) :
    Plain (separator.intercalate fields) := by
  induction fields with
  | nil => exact fun u hu => absurd hu List.not_mem_nil
  | cons field fields ih =>
    have hfield := hfields field List.mem_cons_self
    cases fields with
    | nil => rwa [List.intercalate_singleton]
    | cons next fields =>
      rw [List.intercalate_cons_cons]
      exact (hfield.append hseparator).append
        (ih fun other hother => hfields other (List.mem_cons_of_mem _ hother))

lemma CapabilityOverrides.plain (overrides : CapabilityOverrides) : Plain overrides.canonical := by
  refine (Plain.append (by decide) (plain_intercalate (by decide) ?_)).append (by decide)
  intro field hfield
  obtain ⟨entry, -, rfl⟩ := List.mem_map.mp hfield
  exact plain_overrideText entry

/-! ## Overrides -/

lemma overrideText_injective : Function.Injective overrideText := by
  have hall : ∀ c ∈ ModelCapability.values, ∀ d ∈ ModelCapability.values, ∀ a b : Bool,
      overrideText (c, a) = overrideText (d, b) → (c, a) = (d, b) := by decide +kernel
  have hmem : ∀ c, c ∈ ModelCapability.values := by
    intro c
    cases c <;> decide
  rintro ⟨c, a⟩ ⟨d, b⟩ h
  exact hall c (hmem c) d (hmem d) a b h

lemma comma_notMem_overrideText (entry : ModelCapability × Bool) : 0x2C ∉ overrideText entry := by
  rcases entry with ⟨capability, b⟩
  cases capability <;> cases b <;> decide

lemma mem_entries_iff {overrides : CapabilityOverrides} {capability : ModelCapability} {b : Bool} :
    (capability, b) ∈ overrides.entries ↔ overrides capability = some b := by
  rw [CapabilityOverrides.entries, List.mem_filterMap]
  constructor
  · rintro ⟨c, -, h⟩
    obtain ⟨d, hd, heq⟩ := Option.map_eq_some_iff.mp h
    obtain ⟨rfl, rfl⟩ := Prod.mk.inj heq
    exact hd
  · intro h
    refine ⟨capability, ?_, by rw [h]; rfl⟩
    cases capability <;> decide

lemma CapabilityOverrides.canonical_injective : Function.Injective canonical := by
  intro o o' h
  have hentries : o.entries = o'.entries := by
    have hcomma : java "," = [0x2C] := by decide
    rw [canonical, canonical, List.append_left_inj, List.append_right_inj, hcomma] at h
    have hsplit : ∀ entries : List (ModelCapability × Bool), entries ≠ [] →
        ([0x2C].intercalate (entries.map overrideText)).splitOn (0x2C : UInt16) =
          entries.map overrideText := by
      intro entries hne
      refine List.splitOn_intercalate _ ?_ (by simpa using hne)
      intro text htext
      obtain ⟨entry, -, rfl⟩ := List.mem_map.mp htext
      exact comma_notMem_overrideText entry
    have hempty : ∀ entries : List (ModelCapability × Bool),
        [0x2C].intercalate (entries.map overrideText) = [] → entries = [] := by
      intro entries hnil
      by_contra hne
      have hone := hsplit entries hne
      rw [hnil, List.splitOn_nil] at hone
      obtain ⟨entry, -, htext⟩ := List.mem_map.mp (hone ▸ List.mem_singleton_self [])
      rcases entry with ⟨capability, b⟩
      cases capability <;> cases b <;> exact absurd htext (by decide)
    by_cases hne : o.entries = []
    · rw [hne] at h ⊢
      exact (hempty _ h.symm).symm
    · have hne' : o'.entries ≠ [] := fun hnil => hne (hempty _ (h.trans (by rw [hnil]; rfl)))
      have hmap := hsplit _ hne
      rw [h, hsplit _ hne'] at hmap
      exact (overrideText_injective.list_map hmap).symm
  funext capability
  refine Option.ext fun b => ?_
  rw [← mem_entries_iff, ← mem_entries_iff, hentries]

/-! ## Settings -/

/-- What `Double.toString` gives: a text for every value, of digits, signs and a few letters. -/
structure DoubleRule {Double : Type} (double : Double → JavaString) : Prop where
  injective : Function.Injective double
  plain : ∀ d, Plain (double d)
  noComma : ∀ d, 0x2C ∉ double d
  notNull : ∀ d, double d ≠ java "null"

section Components

variable {α : Type} {text : α → JavaString}

lemma componentText_injective (hinj : Function.Injective text)
    (hnull : ∀ a, text a ≠ java "null") : Function.Injective (componentText text) := by
  rintro (_ | a) (_ | b) h
  · rfl
  · exact absurd h.symm (hnull b)
  · exact absurd h (hnull a)
  · rw [hinj h]

lemma comma_notMem_componentText (hcomma : ∀ a, 0x2C ∉ text a) (component : Option α) :
    0x2C ∉ componentText text component := by
  cases component with
  | none => exact (by decide : 0x2C ∉ java "null")
  | some a => exact hcomma a

lemma plain_componentText (hplain : ∀ a, Plain (text a)) (component : Option α) :
    Plain (componentText text component) := by
  cases component with
  | none => exact (by decide : Plain (java "null"))
  | some a => exact hplain a

end Components

lemma comma_notMem_digits (n : ℕ) : 0x2C ∉ digits n := by
  intro h
  have hcomma : (0x2C : UInt16).toNat = 0x2C := rfl
  have hrange := isDigit_of_mem_digits h
  omega

lemma digits_ne_null (n : ℕ) : digits n ≠ java "null" := by
  intro h
  have hn : (0x6E : UInt16).toNat = 0x6E := rfl
  have hrange := isDigit_of_mem_digits (n := n) (h ▸ (by decide : (0x6E : UInt16) ∈ java "null"))
  omega

lemma ReasoningEffort.text_injective : Function.Injective text := by
  rintro (_ | _ | _) (_ | _ | _) h
  all_goals first | rfl | exact absurd h (by decide)

variable {Double : Type} {double : Double → JavaString}

lemma GenerationSettings.splitOn_toString (rule : DoubleRule double)
    (settings : GenerationSettings Double) :
    (settings.toString double).splitOn 0x2C =
      [java "GenerationSettings[temperature=" ++ componentText double settings.temperature,
        java " topP=" ++ componentText double settings.topP,
        java " maxTokens=" ++ componentText digits settings.maxTokens,
        java " maxCompletionTokens=" ++ componentText digits settings.maxCompletionTokens,
        java " reasoningEffort=" ++ (componentText ReasoningEffort.text settings.reasoningEffort ++
          java "]")] := by
  have hdouble := comma_notMem_componentText rule.noComma
  have hdigits := comma_notMem_componentText comma_notMem_digits
  have heffort : ∀ effort : ReasoningEffort, 0x2C ∉ effort.text := by
    rintro (_ | _ | _) <;> decide
  have hcommas : settings.toString double = [0x2C].intercalate
      [java "GenerationSettings[temperature=" ++ componentText double settings.temperature,
        java " topP=" ++ componentText double settings.topP,
        java " maxTokens=" ++ componentText digits settings.maxTokens,
        java " maxCompletionTokens=" ++ componentText digits settings.maxCompletionTokens,
        java " reasoningEffort=" ++ (componentText ReasoningEffort.text settings.reasoningEffort ++
          java "]")] := by
    have h₁ : java ", topP=" = 0x2C :: java " topP=" := by decide
    have h₂ : java ", maxTokens=" = 0x2C :: java " maxTokens=" := by decide
    have h₃ : java ", maxCompletionTokens=" = 0x2C :: java " maxCompletionTokens=" := by decide
    have h₄ : java ", reasoningEffort=" = 0x2C :: java " reasoningEffort=" := by decide
    simp only [GenerationSettings.toString, h₁, h₂, h₃, h₄, List.intercalate_cons_cons,
      List.intercalate_singleton, List.append_assoc, List.cons_append, List.nil_append]
  rw [hcommas]
  refine List.splitOn_intercalate _ ?_ (List.cons_ne_nil _ _)
  intro component hcomponent
  simp only [List.mem_cons, List.not_mem_nil, or_false] at hcomponent
  rcases hcomponent with rfl | rfl | rfl | rfl | rfl <;> rw [List.mem_append, not_or]
  · exact ⟨by decide, hdouble _⟩
  · exact ⟨by decide, hdouble _⟩
  · exact ⟨by decide, hdigits _⟩
  · exact ⟨by decide, hdigits _⟩
  · rw [List.mem_append, not_or]
    exact ⟨by decide, comma_notMem_componentText heffort _, by decide⟩

lemma GenerationSettings.toString_injective (rule : DoubleRule double) :
    Function.Injective (GenerationSettings.toString double) := by
  intro g g' h
  have hdouble := componentText_injective rule.injective rule.notNull
  have hdigits := componentText_injective digits_injective digits_ne_null
  have heffort := componentText_injective ReasoningEffort.text_injective
    (by rintro (_ | _ | _) <;> decide)
  have hsplit := congrArg (List.splitOn 0x2C) h
  rw [splitOn_toString rule, splitOn_toString rule] at hsplit
  simp only [List.cons.injEq, List.append_cancel_left_eq, List.append_cancel_right_eq,
    and_true] at hsplit
  obtain ⟨htemperature, htopP, htokens, hcompletion, hreasoning⟩ := hsplit
  cases g
  cases g'
  simp only [GenerationSettings.mk.injEq]
  exact ⟨hdouble htemperature, hdouble htopP, hdigits htokens, hdigits hcompletion,
    heffort hreasoning⟩

lemma GenerationSettings.plain (rule : DoubleRule double) (settings : GenerationSettings Double) :
    Plain (settings.toString double) := by
  have hdouble := plain_componentText rule.plain
  have hdigits := plain_componentText plain_digits
  have heffort : ∀ effort, Plain (componentText ReasoningEffort.text effort) :=
    plain_componentText (by rintro (_ | _ | _) <;> decide)
  rw [GenerationSettings.toString]
  exact (((((((((Plain.append (by decide) (hdouble _)).append (by decide)).append
    (hdouble _)).append (by decide)).append (hdigits _)).append (by decide)).append
    (hdigits _)).append (by decide)).append (heffort _)).append (by decide)

/-! ## The pieces of a profile -/

namespace ModelProfile

variable {create : JavaString → Option JavaUri} {sha256 : List UInt8 → List UInt8}
  {p q : ModelProfile create Double}

/-- The pieces from the display name to the name of the model. -/
def segments (p : ModelProfile create Double) : List (List Char) :=
  pieces p.displayName ++ ([encodedChars (providerName p.provider),
    encodedChars (p.vendorId.getD []), encodedChars (apiName p.api)] ++ pieces p.model)

lemma plain_vendorId (p : ModelProfile create Double) : Plain (p.vendorId.getD []) := by
  cases hvendor : p.vendorId with
  | none => exact fun u hu => absurd hu List.not_mem_nil
  | some vendor => exact plain_of_matchesVendor (p.vendorIdSafe vendor hvendor).2

lemma plain_baseUrl (hcreate : ∀ url uri, create url = some uri → 0x7C ∉ url)
    (p : ModelProfile create Double) : Plain (p.baseUrl.getD []) := by
  cases hurl : p.baseUrl with
  | none => exact fun u hu => absurd hu List.not_mem_nil
  | some url =>
    have hvalid := p.baseUrlValid url hurl
    rw [validateBaseUrl, Bool.and_eq_true, Bool.and_eq_true] at hvalid
    obtain ⟨⟨-, hascii⟩, huri⟩ := hvalid
    obtain ⟨uri, hcreated, -⟩ := (Option.any_eq_true _ _).mp huri
    intro u hu
    have hunit := List.all_eq_true.mp hascii u hu
    rw [decide_eq_true_eq, UInt16.le_iff_toNat_le] at hunit
    refine ⟨Nat.lt_succ_of_le hunit, ?_⟩
    rintro rfl
    exact hcreate url uri hcreated hu

lemma plain_secretRef (p : ModelProfile create Double) :
    Plain ((p.secretRef.map SecretRef.toString).getD []) := by
  cases p.secretRef with
  | none => exact fun u hu => absurd hu List.not_mem_nil
  | some ref => exact ref.plain

/-- The fields after the name of the model. -/
def endpointFields (double : Double → JavaString) (p : ModelProfile create Double) :
    List JavaString :=
  [p.baseUrl.getD [], (p.secretRef.map SecretRef.toString).getD [], boolText p.stream,
    p.capabilityOverrides.canonical, p.generation.toString double]

lemma plain_endpointFields (rule : DoubleRule double)
    (hcreate : ∀ url uri, create url = some uri → 0x7C ∉ url) (p : ModelProfile create Double) :
    ∀ field ∈ p.endpointFields double, Plain field := by
  intro field hfield
  simp only [endpointFields, List.mem_cons, List.not_mem_nil, or_false] at hfield
  rcases hfield with rfl | rfl | rfl | rfl | rfl
  · exact p.plain_baseUrl hcreate
  · exact p.plain_secretRef
  · exact plain_boolText _
  · exact p.capabilityOverrides.plain
  · exact p.generation.plain rule

lemma flatMap_pieces {fields : List JavaString} (h : ∀ field ∈ fields, Plain field) :
    fields.flatMap pieces = fields.map encodedChars := by
  rw [← List.flatMap_pure_eq_map]
  exact List.flatMap_congr fun field hfield => (h field hfield).pieces

lemma flatMap_canonicalFields (rule : DoubleRule double)
    (hcreate : ∀ url uri, create url = some uri → 0x7C ∉ url) (p : ModelProfile create Double) :
    (p.canonicalFields double).flatMap pieces =
      pieces (java "1") ++ (pieces p.id ++ (p.segments ++
        (p.endpointFields double).map encodedChars)) := by
  have hfields : p.canonicalFields double = [java "1", p.id] ++ ([p.displayName] ++
      ([providerName p.provider, p.vendorId.getD [], apiName p.api] ++ ([p.model] ++
        p.endpointFields double))) := by
    rw [canonicalFields, p.currentSchema]
    rfl
  have hplain : ∀ field ∈ [providerName p.provider, p.vendorId.getD [], apiName p.api],
      Plain field := by
    intro field hfield
    simp only [List.mem_cons, List.not_mem_nil, or_false] at hfield
    rcases hfield with rfl | rfl | rfl
    · exact plain_providerName _
    · exact p.plain_vendorId
    · exact plain_apiName _
  rw [hfields, List.flatMap_append, List.flatMap_append, List.flatMap_append, List.flatMap_append,
    flatMap_pieces hplain, flatMap_pieces (p.plain_endpointFields rule hcreate), segments]
  simp only [List.flatMap_cons, List.flatMap_nil, List.append_nil, List.append_assoc, List.map_cons,
    List.map_nil]

/-- What is written for the text that is hashed are its fields, joined by bars. -/
lemma encodedChars_intercalate (fields : List JavaString) :
    encodedChars ((java "|").intercalate fields) = ['|'].intercalate (fields.map encodedChars) := by
  have hbar : java "|" = [0x7C] := by decide
  induction fields with
  | nil => rfl
  | cons field fields ih =>
    cases fields with
    | nil => rw [List.intercalate_singleton, List.map_singleton, List.intercalate_singleton]
    | cons next fields =>
      have hhead : ∀ rest : JavaString, ∀ l ∈ ((0x7C : UInt16) :: rest).head?,
          isLowSurrogate l = false := by
        intro rest l hl
        obtain rfl := Option.some.inj hl
        decide
      have hsingle : singleChar 0x7C = '|' := by decide
      rw [List.intercalate_cons_cons, List.append_assoc, hbar, List.singleton_append,
        encodedChars_append (hhead _),
        encodedChars_cons fun h => absurd h (by decide), ← hbar, ih, hsingle]
      simp only [List.map_cons, List.intercalate_cons_cons, List.append_assoc,
        List.singleton_append]

lemma splitOn_canonical (p : ModelProfile create Double) :
    (encodedChars (p.canonical double)).splitOn '|' = (p.canonicalFields double).flatMap pieces := by
  rw [canonical, encodedChars_intercalate,
    splitOn_intercalate_flatMap '|' (by simp [canonicalFields]), List.flatMap_map]
  rfl

lemma hexDigit_inj {n m : ℕ} (hn : n < 16) (hm : m < 16)
    (h : EventNormalizerPolicy.hexDigit n = EventNormalizerPolicy.hexDigit m) : n = m := by
  have hall : ∀ n < 16, ∀ m < 16, EventNormalizerPolicy.hexDigit n =
      EventNormalizerPolicy.hexDigit m → n = m := by decide
  exact hall n hn m hm h

lemma flatMap_hexByte_injective :
    Function.Injective fun bytes : List UInt8 => bytes.flatMap EventNormalizerPolicy.hexByte := by
  intro bytes bytes' h
  induction bytes generalizing bytes' with
  | nil =>
    cases bytes' with
    | nil => rfl
    | cons b bytes' => cases h
  | cons b bytes ih =>
    cases bytes' with
    | nil => cases h
    | cons b' bytes' =>
      obtain ⟨hhigh, hrest⟩ := List.cons.inj h
      obtain ⟨hlow, hrest⟩ := List.cons.inj hrest
      have hb := b.toNat_lt
      have hb' := b'.toNat_lt
      have hhigh := hexDigit_inj (by omega) (by omega) hhigh
      have hlow := hexDigit_inj (by omega) (by omega) hlow
      rw [UInt8.toNat_inj.mp (by omega : b.toNat = b'.toNat), ih hrest]

lemma fingerprint_eq_iff (hsha256 : Function.Injective sha256) :
    q.fingerprint double sha256 = p.fingerprint double sha256 ↔
      (q.canonicalFields double).flatMap pieces = (p.canonicalFields double).flatMap pieces := by
  rw [fingerprint, fingerprint, flatMap_hexByte_injective.eq_iff, hsha256.eq_iff, getBytes_eq_iff,
    ← splitOn_canonical, ← splitOn_canonical]
  constructor
  · exact congrArg _
  · intro h
    have hjoined := congrArg (['|'].intercalate ·) h
    simpa only [List.intercalate_splitOn] using hjoined

lemma encodedChars_providerName_inj {provider provider' : ModelProvider}
    (h : encodedChars (providerName provider) = encodedChars (providerName provider')) :
    provider = provider' := by
  have htext := (plain_providerName provider).inj (plain_providerName provider') h
  cases provider <;> cases provider' <;> first | rfl | exact absurd htext (by decide)

lemma encodedChars_apiName_inj {api api' : ModelApi}
    (h : encodedChars (apiName api) = encodedChars (apiName api')) : api = api' := by
  have htext := (plain_apiName api).inj (plain_apiName api') h
  cases api <;> cases api' <;> first | rfl | exact absurd htext (by decide)

lemma boolText_injective : Function.Injective boolText := by
  rintro (_ | _) (_ | _) h <;> first | rfl | exact absurd h (by decide)

lemma SecretRef.toString_injective : Function.Injective SecretRef.toString := by
  intro ref ref' h
  rw [SecretRef.toString, SecretRef.toString, List.append_left_inj, List.append_right_inj] at h
  exact SecretRef.ext h

lemma getD_inj {o o' : Option JavaString} (ho : [] ∉ o) (ho' : [] ∉ o')
    (h : o.getD [] = o'.getD []) : o = o' := by
  rcases o with _ | s <;> rcases o' with _ | t
  · rfl
  · obtain rfl : [] = t := h
    exact absurd rfl ho'
  · obtain rfl : s = [] := h
    exact absurd rfl ho
  · obtain rfl : s = t := h
    rfl

lemma nil_notMem_vendorId (p : ModelProfile create Double) : [] ∉ p.vendorId :=
  fun h => absurd (p.vendorIdSafe [] h).1 (by decide)

lemma nil_notMem_baseUrl (p : ModelProfile create Double) : [] ∉ p.baseUrl :=
  fun h => absurd (p.baseUrlValid [] h) (by simp [validateBaseUrl, isBlank])

lemma nil_notMem_secretRef (p : ModelProfile create Double) :
    [] ∉ p.secretRef.map SecretRef.toString := by
  intro h
  obtain ⟨ref, -, hnil⟩ := Option.map_eq_some_iff.mp h
  rw [SecretRef.toString, List.append_eq_nil_iff] at hnil
  exact absurd hnil.2 (by decide)

lemma endpointFields_inj (rule : DoubleRule double)
    (hcreate : ∀ url uri, create url = some uri → 0x7C ∉ url)
    (h : (q.endpointFields double).map encodedChars = (p.endpointFields double).map encodedChars) :
    q.baseUrl = p.baseUrl ∧ q.secretRef = p.secretRef ∧ q.stream = p.stream ∧
      q.capabilityOverrides = p.capabilityOverrides ∧ q.generation = p.generation := by
  simp only [endpointFields, List.map_cons, List.map_nil, List.cons.injEq, and_true] at h
  obtain ⟨hurl, hsecret, hstream, hoverrides, hgeneration⟩ := h
  have hsecret := getD_inj q.nil_notMem_secretRef p.nil_notMem_secretRef
    (q.plain_secretRef.inj p.plain_secretRef hsecret)
  refine ⟨getD_inj q.nil_notMem_baseUrl p.nil_notMem_baseUrl
      ((q.plain_baseUrl hcreate).inj (p.plain_baseUrl hcreate) hurl),
    Option.map_injective SecretRef.toString_injective hsecret,
    boolText_injective ((plain_boolText _).inj (plain_boolText _) hstream),
    CapabilityOverrides.canonical_injective
      (q.capabilityOverrides.plain.inj p.capabilityOverrides.plain hoverrides),
    GenerationSettings.toString_injective rule
      ((q.generation.plain rule).inj (p.generation.plain rule) hgeneration)⟩

/-- Two profiles of one id have one fingerprint exactly when their pieces agree, and the fields
after them. -/
lemma fingerprint_eq_iff_segments (rule : DoubleRule double)
    (hcreate : ∀ url uri, create url = some uri → 0x7C ∉ url)
    (hsha256 : Function.Injective sha256) (hid : q.id = p.id) :
    q.fingerprint double sha256 = p.fingerprint double sha256 ↔
      q.segments = p.segments ∧
        (q.endpointFields double).map encodedChars = (p.endpointFields double).map encodedChars := by
  have hlength : ((q.endpointFields double).map encodedChars).length =
      ((p.endpointFields double).map encodedChars).length := by
    simp [endpointFields]
  rw [fingerprint_eq_iff hsha256, flatMap_canonicalFields rule hcreate,
    flatMap_canonicalFields rule hcreate, hid, List.append_cancel_left_eq,
    List.append_cancel_left_eq]
  constructor
  · exact fun h => List.append_inj' h hlength
  · rintro ⟨hsegments, hfields⟩
    rw [hsegments, hfields]

/-! ## Readings -/

/-- Some pieces as one text again. -/
def joined (parts : List (List Char)) : JavaString := (['|'].intercalate parts).flatMap utf16Char

/-- The pieces can be the provider, the vendor and the API of a profile. -/
def isHeader (provider vendor api : List Char) : Bool :=
  (vendor.isEmpty || !isBlank (vendor.flatMap utf16Char) &&
      matchesVendor (vendor.flatMap utf16Char)) &&
    [ModelProvider.anthropic, .openai, .openaiCompatible].any fun provider' =>
      [ModelApi.anthropicMessages, .openaiChatCompletions, .openaiResponses].any fun api' =>
        validateProviderApi provider' api' && provider == encodedChars (providerName provider') &&
          api == encodedChars (apiName api')

/-- The pieces can be those of a profile whose display name has the first `k` of them. -/
def readsAt (parts : List (List Char)) (k : ℕ) : Bool :=
  match parts.drop k with
  | provider :: vendor :: api :: model =>
    isHeader provider vendor api && !isBlank (joined (parts.take k)) && !isBlank (joined model)
  | _ => false

/-- The pieces of the profile are read in no other way than its own. -/
def OneReading (p : ModelProfile create Double) : Prop :=
  ∀ k < p.segments.length, readsAt p.segments k = true → k = (pieces p.displayName).length

instance (p : ModelProfile create Double) : Decidable p.OneReading :=
  inferInstanceAs (Decidable (∀ k < _, _ → _))

lemma isHeader_iff {provider vendor api : List Char} :
    isHeader provider vendor api = true ↔
      (vendor = [] ∨ isBlank (vendor.flatMap utf16Char) = false ∧
        matchesVendor (vendor.flatMap utf16Char) = true) ∧
      ∃ provider' api', validateProviderApi provider' api' = true ∧
        provider = encodedChars (providerName provider') ∧ api = encodedChars (apiName api') := by
  simp only [isHeader, Bool.and_eq_true, Bool.or_eq_true, List.isEmpty_iff, Bool.not_eq_true',
    List.any_eq_true, beq_iff_eq]
  refine and_congr_right fun _ => ?_
  constructor
  · rintro ⟨provider', -, api', -, ⟨hvalid, hprovider⟩, hapi⟩
    exact ⟨provider', api', hvalid, hprovider, hapi⟩
  · rintro ⟨provider', api', hvalid, hprovider, hapi⟩
    refine ⟨provider', ?_, api', ?_, ⟨hvalid, hprovider⟩, hapi⟩
    · cases provider' <;> decide
    · cases api' <;> decide

lemma joined_pieces (s : JavaString) : joined (pieces s) = (encodedChars s).flatMap utf16Char := by
  rw [joined, pieces, List.intercalate_splitOn]

lemma not_isBlank_of_mem {s : JavaString} {u : UInt16} (hu : u ∈ s) (h : isWhitespace u = false) :
    isBlank s = false := by
  rw [isBlank, List.all_eq_false]
  exact ⟨u, hu, by rw [h]; exact Bool.false_ne_true⟩

lemma not_isBlank_written {s : JavaString} (h : isBlank s = false) :
    isBlank ((encodedChars s).flatMap utf16Char) = false := by
  by_cases hmark : '?' ∈ encodedChars s
  · exact not_isBlank_of_mem (List.mem_flatMap.mpr ⟨'?', hmark, mem_utf16Char_iff.mpr rfl⟩)
      (by decide)
  · rwa [flatMap_encodedChars hmark]

lemma readsAt_segments (p : ModelProfile create Double) :
    readsAt p.segments (pieces p.displayName).length = true := by
  have hdrop : p.segments.drop (pieces p.displayName).length =
      encodedChars (providerName p.provider) :: encodedChars (p.vendorId.getD []) ::
        encodedChars (apiName p.api) :: pieces p.model := List.drop_left
  have htake : p.segments.take (pieces p.displayName).length = pieces p.displayName :=
    List.take_left
  rw [readsAt, hdrop]
  simp only [htake, Bool.and_eq_true, Bool.not_eq_true', joined_pieces]
  refine ⟨⟨isHeader_iff.mpr ⟨?_, _, _, p.providerApiValid, rfl, rfl⟩,
    not_isBlank_written p.displayNameNotBlank⟩, not_isBlank_written p.modelNotBlank⟩
  cases hvendor : p.vendorId with
  | none => exact Or.inl rfl
  | some vendor =>
    rw [Option.getD_some, flatMap_encodedChars_of_ascii
      (plain_of_matchesVendor (p.vendorIdSafe vendor hvendor).2).ascii]
    exact Or.inr (p.vendorIdSafe vendor hvendor)

lemma bar_notMem_segments (p : ModelProfile create Double) : ∀ part ∈ p.segments, '|' ∉ part := by
  have hplain : ∀ s, Plain s → '|' ∉ encodedChars s := by
    intro s hs
    have hmem : encodedChars s ∈ (encodedChars s).splitOn '|' := by
      rw [← pieces, hs.pieces]
      exact List.mem_singleton_self _
    exact notMem_of_mem_splitOn hmem
  intro part hpart
  simp only [segments, List.mem_append, List.mem_cons, List.not_mem_nil, or_false] at hpart
  rcases hpart with hpart | (rfl | rfl | rfl) | hpart
  · exact notMem_of_mem_splitOn hpart
  · exact hplain _ (plain_providerName _)
  · exact hplain _ p.plain_vendorId
  · exact hplain _ (plain_apiName _)
  · exact notMem_of_mem_splitOn hpart

lemma pieces_joined {parts : List (List Char)} (hparts : isBlank (joined parts) = false)
    (h : ∀ part ∈ parts, '|' ∉ part) : pieces (joined parts) = parts := by
  have hne : parts ≠ [] := by
    rintro rfl
    exact absurd hparts (by decide)
  rw [pieces, joined, encodedChars_flatMap, List.splitOn_intercalate '|' h hne]

lemma exists_of_readsAt (p : ModelProfile create Double) {k : ℕ}
    (h : readsAt p.segments k = true) : ∃ q : ModelProfile create Double, q.id = p.id ∧
      q.segments = p.segments ∧ (∀ double : Double → JavaString,
        q.endpointFields double = p.endpointFields double) ∧
      pieces q.displayName = p.segments.take k := by
  rw [readsAt] at h
  split at h
  · next provider vendor api model hdrop =>
    simp only [Bool.and_eq_true, Bool.not_eq_true'] at h
    obtain ⟨⟨hheader, hname⟩, hmodel⟩ := h
    obtain ⟨hvendor, provider', api', hvalid, rfl, rfl⟩ := isHeader_iff.mp hheader
    have hbar := p.bar_notMem_segments
    have hnamePieces := pieces_joined hname fun part hpart => hbar part (List.mem_of_mem_take hpart)
    have hmodelPieces : pieces (joined model) = model := by
      refine pieces_joined hmodel fun part hpart => hbar part (List.mem_of_mem_drop (i := k) ?_)
      rw [hdrop]
      simp [hpart]
    -- the vendor is missing where its piece is empty
    obtain ⟨vendorId, hsafe, hwritten⟩ : ∃ vendorId : Option JavaString,
        (∀ v ∈ vendorId, isBlank v = false ∧ matchesVendor v = true) ∧
          encodedChars (vendorId.getD []) = vendor := by
      rcases hvendor with rfl | hvendor
      · exact ⟨none, fun v hv => absurd hv (by simp), rfl⟩
      · refine ⟨some (vendor.flatMap utf16Char), ?_, encodedChars_flatMap vendor⟩
        rintro v hv
        obtain rfl := Option.some.inj hv
        exact hvendor
    refine ⟨{ p with
      displayName := joined (p.segments.take k)
      provider := provider'
      vendorId := vendorId
      api := api'
      model := joined model
      displayNameNotBlank := hname
      vendorIdSafe := hsafe
      modelNotBlank := hmodel
      providerApiValid := hvalid }, rfl, ?_, fun _ => rfl, hnamePieces⟩
    rw [segments]
    dsimp only
    rw [hnamePieces, hmodelPieces, hwritten]
    exact (congrArg (p.segments.take k ++ ·) hdrop.symm).trans (List.take_append_drop k _)
  · cases h

/-- A text that is not faithful has a twin that is written as it is and can stand in its place. -/
lemma exists_twin {s : JavaString} (h : ¬Faithful s) :
    ∃ t ≠ s, isBlank t = false ∧ pieces t = pieces s := by
  rw [faithful_iff, not_not] at h
  obtain ⟨t, hne, hwritten, hmark⟩ := exists_ne_of_questionMark h
  refine ⟨t, hne, ?_, by rw [pieces, pieces, hwritten]⟩
  exact hmark.elim (not_isBlank_of_mem · (by decide)) (not_isBlank_of_mem · (by decide))

/-- **When a fingerprint separates a profile**: no other profile of its id has its fingerprint
exactly when the display name and the name of the model are faithful and the pieces of the profile
are read in one way.  Then its cache keys are its own as well. -/
theorem fingerprint_separates_iff (rule : DoubleRule double)
    (hcreate : ∀ url uri, create url = some uri → 0x7C ∉ url)
    (hsha256 : Function.Injective sha256) (p : ModelProfile create Double) :
    ((∀ q : ModelProfile create Double, q.id = p.id →
        q.fingerprint double sha256 = p.fingerprint double sha256 → q = p) ↔
      Faithful p.displayName ∧ Faithful p.model ∧ p.OneReading) ∧
    ((∀ (q : ModelProfile create Double) transportRevision,
        cacheKey double sha256 q transportRevision = cacheKey double sha256 p transportRevision →
          q = p) ↔
      Faithful p.displayName ∧ Faithful p.model ∧ p.OneReading) := by
  have hiff : (∀ q : ModelProfile create Double, q.id = p.id →
      q.fingerprint double sha256 = p.fingerprint double sha256 → q = p) ↔
        Faithful p.displayName ∧ Faithful p.model ∧ p.OneReading := by
    constructor
    · intro hseparates
      have hself : ∀ q : ModelProfile create Double, q.id = p.id → q.segments = p.segments →
          q.endpointFields double = p.endpointFields double → q = p :=
        fun q hid hsegments hfields => hseparates q hid
          ((fingerprint_eq_iff_segments rule hcreate hsha256 hid).mpr
            ⟨hsegments, congrArg _ hfields⟩)
      refine ⟨?_, ?_, ?_⟩
      · by_contra hfaithful
        obtain ⟨t, hne, hblank, hpieces⟩ := exists_twin hfaithful
        have hq := hself { p with displayName := t, displayNameNotBlank := hblank } rfl
          (by rw [segments, hpieces, segments]) rfl
        exact hne (congrArg displayName hq)
      · by_contra hfaithful
        obtain ⟨t, hne, hblank, hpieces⟩ := exists_twin hfaithful
        have hq := hself { p with model := t, modelNotBlank := hblank } rfl
          (by rw [segments, hpieces, segments]) rfl
        exact hne (congrArg model hq)
      · intro k hk hread
        obtain ⟨q, hid, hsegments, hfields, hname⟩ := p.exists_of_readsAt hread
        obtain rfl := hself q hid hsegments (hfields double)
        rw [hname, List.length_take, Nat.min_eq_left (Nat.le_of_lt hk)]
    · rintro ⟨hname, hmodel, hone⟩ q hid hfingerprint
      obtain ⟨hsegments, hfields⟩ :=
        (fingerprint_eq_iff_segments rule hcreate hsha256 hid).mp hfingerprint
      obtain ⟨hurl, hsecret, hstream, hoverrides, hgeneration⟩ :=
        endpointFields_inj rule hcreate hfields
      -- the pieces are read as those of the other profile, so both are cut at one place
      have hread := q.readsAt_segments
      have hlt : (pieces q.displayName).length < q.segments.length := by
        simp [segments]
      rw [hsegments] at hread hlt
      have hlength := hone _ hlt hread
      obtain ⟨hnamePieces, hrest⟩ := List.append_inj hsegments hlength
      simp only [List.cons_append, List.nil_append, List.cons.injEq] at hrest
      obtain ⟨hprovider, hvendor, hapi, hmodelPieces⟩ := hrest
      have hwritten : ∀ {s t : JavaString}, pieces s = pieces t → encodedChars s = encodedChars t := by
        intro s t h
        have hjoined := congrArg (['|'].intercalate ·) h
        simpa only [pieces, List.intercalate_splitOn] using hjoined
      exact ModelProfile.ext (q.currentSchema.trans p.currentSchema.symm) hid
        (eq_of_encodedChars (faithful_iff.mp hname) (hwritten hnamePieces))
        (encodedChars_providerName_inj hprovider)
        (getD_inj q.nil_notMem_vendorId p.nil_notMem_vendorId
          (q.plain_vendorId.inj p.plain_vendorId hvendor))
        (encodedChars_apiName_inj hapi)
        (eq_of_encodedChars (faithful_iff.mp hmodel) (hwritten hmodelPieces))
        hurl hsecret hstream hoverrides hgeneration
  refine ⟨hiff, ?_⟩
  rw [← hiff]
  constructor
  · intro hkeys q hid hfingerprint
    exact hkeys q [] (by rw [cacheKey, cacheKey, hid, hfingerprint])
  · intro hseparates q transportRevision hkey
    obtain ⟨hid, hfingerprint, -⟩ := CacheKey.mk.inj hkey
    exact hseparates q hid hfingerprint

end ModelProfile

/-- Two doubles and their texts. -/
def sampleDouble (b : Bool) : JavaString := java (if b then "0.5" else "1.0")

lemma sampleDouble_rule : DoubleRule sampleDouble where
  injective := by rintro (_ | _) (_ | _) h <;> first | rfl | exact absurd h (by decide)
  plain := by rintro (_ | _) <;> decide
  noComma := by rintro (_ | _) <;> decide
  notNull := by rintro (_ | _) <;> decide

/-- A profile without a URL, with the names given. -/
def sampleProfile (displayName model : String)
    (hname : isBlank (java displayName) = false) (hmodel : isBlank (java model) = false) :
    ModelProfile (fun _ => none) Bool where
  schemaVersion := 1
  id := java "profile_a"
  displayName := java displayName
  provider := .openai
  vendorId := none
  api := .openaiChatCompletions
  model := java model
  baseUrl := none
  secretRef := some ⟨java "cred_a", by decide⟩
  stream := true
  capabilityOverrides capability := if capability = .image then some true else none
  generation := ⟨some true, none, some 1024, none, some .low⟩
  currentSchema := rfl
  idNotBlank := by decide
  displayNameNotBlank := hname
  vendorIdSafe _ h := absurd h (by simp)
  modelNotBlank := hmodel
  baseUrlValid _ h := absurd h (by simp)
  providerApiValid := rfl

/-- The fingerprint of an ordinary profile is its own. -/
theorem fingerprint_separates_sample :
    (sampleProfile "Work" "gpt" (by decide) (by decide)).OneReading ∧
      ∀ q : ModelProfile (fun _ => none) Bool, q.id = java "profile_a" →
        q.fingerprint sampleDouble id =
          (sampleProfile "Work" "gpt" (by decide) (by decide)).fingerprint sampleDouble id →
        q = sampleProfile "Work" "gpt" (by decide) (by decide) :=
  ⟨by decide +kernel,
    (ModelProfile.fingerprint_separates_iff sampleDouble_rule (by simp) Function.injective_id
      (sampleProfile "Work" "gpt" (by decide) (by decide))).1.mpr (by decide +kernel)⟩

/-- A name of a model with the header of another profile inside. -/
def barredModel : ModelProfile (fun _ => none) Bool :=
  sampleProfile "Work" "gpt|OPENAI||OPENAI_CHAT_COMPLETIONS|mini" (by decide) (by decide)

/-- The same pieces, with the bars in the display name. -/
def barredName : ModelProfile (fun _ => none) Bool :=
  sampleProfile "Work|OPENAI||OPENAI_CHAT_COMPLETIONS|gpt" "mini" (by decide) (by decide)

/-- Two profiles with different models have one fingerprint. -/
theorem fingerprint_collides :
    ¬ ∀ p q : ModelProfile (fun _ => none) Bool, p.id = q.id →
      p.fingerprint sampleDouble id = q.fingerprint sampleDouble id → p = q := by
  intro hseparates
  have hsegments : barredModel.segments = barredName.segments := by decide +kernel
  have hsame := hseparates barredModel barredName rfl
    ((ModelProfile.fingerprint_eq_iff_segments sampleDouble_rule (by simp)
      Function.injective_id rfl).mpr ⟨hsegments, rfl⟩)
  exact absurd (congrArg ModelProfile.model hsame) (by decide +kernel)

end JaDesktop.Profiles
