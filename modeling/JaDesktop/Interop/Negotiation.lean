import JaDesktop.Host.Initialize
import JaDesktop.Interop.Wire
import JaDesktop.Sidecar.Initialize

/-!
# Negotiation between sidecar and host

The host offers a version and its limits, the sidecar answers with a version and limits of its
own, and the host checks the answer against its offer.  The sidecar tests the two minima against
the two minors, the host tests the smaller minor against the two minima; the sidecar answers with
the smaller of the limits, the host demands its own limits back.  The two sides agree on the
version whenever one of them accepts, and on the limits whenever the host's are the smaller ones.
-/

namespace JaDesktop.Interop

open Host (Number Value Map I64)
open Sidecar (JavaInt JavaNumber JsonNode ObjectNode java InitializeWireParams InitializeUseCase
  LimitFields ProtocolVersion NegotiatedInitialization)
open Sidecar.InitializeWireMapper (intNode textNodes)

/-! ## Integers across the wire -/

/-- The host's number for a Java `int`. -/
def hostInt (n : JavaInt) : Value := .number (.int ⟨n.val, by omega, by omega⟩)

variable {P : Peers} {n : JavaInt} {client : InitializeWireParams} {server : ProtocolVersion}
  {f : LimitFields} {sent object : Map} {field : String} {l : Host.Limits}

lemma toValue_intNode (hP : P.Faithful) (n : JavaInt) :
    toValue P.number (intNode n) = some (hostInt n) := by
  rw [intNode, toValue, hP.integral n.val ⟨by omega, by omega⟩]
  rfl

lemma asI64_hostInt (n : JavaInt) : (hostInt n).asI64.map Subtype.val = some n.val := by
  have h : n.val < 2 ^ 63 := by omega
  simp only [hostInt, Host.Value.asI64, h, dif_pos, Option.map_some]

lemma asU64_hostInt (h : 0 ≤ n.val) : (hostInt n).asU64 = some n.val.toNat := by
  simp only [hostInt, Host.Value.asU64, h, if_true]

/-! ## The two tests of the versions -/

/-- **The two formulas agree**: the sidecar's test of two offers is the host's. -/
theorem negotiateVersion_eq_ok_iff {selected : ℤ} :
    Host.negotiateVersion client.protocolMajor.val client.protocolMinor.val
        client.minimumCompatibleMinor.val server.major.val server.minor.val
        server.minimumCompatibleMinor.val = .ok selected ↔
      InitializeUseCase.Compatible client server ∧
        selected = min client.protocolMinor.val server.minor.val := by
  obtain ⟨-, hclient, -⟩ := client.checks
  have hserver : server.minimumCompatibleMinor.val ≤ server.minor.val := server.minimum_le
  have hclient' : client.minimumCompatibleMinor.val ≤ client.protocolMinor.val := hclient
  have hcompatible : InitializeUseCase.Compatible client server ↔
      client.protocolMajor.val = server.major.val ∧
        client.minimumCompatibleMinor.val ≤ server.minor.val ∧
        server.minimumCompatibleMinor.val ≤ client.protocolMinor.val := by
    rw [InitializeUseCase.Compatible, Subtype.ext_iff]
    rfl
  rw [hcompatible, Host.negotiateVersion]
  dsimp only
  split_ifs with hmajor hminor
  · constructor
    · rintro ⟨⟩
    · rintro ⟨⟨heq, -⟩, -⟩
      exact absurd heq hmajor
  · constructor
    · rintro ⟨⟩
    · rintro ⟨⟨-, hlow, hhigh⟩, -⟩
      omega
  · rw [Except.ok.injEq]
    constructor
    · rintro rfl
      exact ⟨⟨by omega, by omega, by omega⟩, rfl⟩
    · rintro ⟨-, rfl⟩
      rfl

lemma negotiateVersion_answer (h : InitializeUseCase.Compatible client server) :
    Host.negotiateVersion client.protocolMajor.val client.protocolMinor.val
        client.minimumCompatibleMinor.val server.major.val
        (min client.protocolMinor server.minor).val
        (max client.minimumCompatibleMinor server.minimumCompatibleMinor).val =
      .ok (min client.protocolMinor server.minor).val := by
  obtain ⟨hmajor, hlow, hhigh⟩ := h
  obtain ⟨-, hclient, -⟩ := client.checks
  have hserver := server.minimum_le
  have hmin : min client.protocolMinor.val (min client.protocolMinor server.minor).val =
      (min client.protocolMinor server.minor).val :=
    min_eq_right (min_le_left client.protocolMinor server.minor)
  have hselected : ¬ ((min client.protocolMinor server.minor).val <
        client.minimumCompatibleMinor.val ∨
      (min client.protocolMinor server.minor).val <
        (max client.minimumCompatibleMinor server.minimumCompatibleMinor).val) := by
    rw [not_or, not_lt, not_lt]
    exact ⟨le_min hclient hlow, max_le (le_min hclient hlow) (le_min hhigh hserver)⟩
  rw [Host.negotiateVersion, if_neg (by rw [hmajor]; exact not_not.mpr rfl)]
  dsimp only
  rw [hmin, if_neg hselected]

/-! ## The offer -/

/-- The parameters that the host sent carry the version and the limits of a record. -/
structure Offers (sent : Map) (client : InitializeWireParams) : Prop where
  major : Host.memberI64 sent "protocolMajor" = some client.protocolMajor.val
  minor : Host.memberI64 sent "protocolMinor" = some client.protocolMinor.val
  minimum :
    Host.memberI64 sent "minimumCompatibleMinor" = some client.minimumCompatibleMinor.val
  limits : ∃ object, SortedMap.get "limits" sent = some (.object object) ∧
    ∀ entry ∈ client.limits.val.entries,
      Host.remoteNumber object entry.1 = .ok entry.2.val.toNat

lemma nonneg_of_inRange (h : f.inRange = true) :
    ∀ entry ∈ f.entries, 0 ≤ entry.2.val := by
  simp only [LimitFields.inRange, LimitFields.range, Bool.and_eq_true, decide_eq_true_eq] at h
  simp only [LimitFields.entries, List.forall_mem_cons]
  refine ⟨?_, ?_, ?_, ?_, ?_, ?_, ?_, ?_, ?_, ?_, by simp⟩ <;> omega

lemma get_of_requiredInt (hP : P.Faithful) {node : ObjectNode}
    (hsent : toMembers P.number node = some sent)
    (h : Sidecar.InitializeWireMapper.requiredInt node field = .ok n) :
    SortedMap.get field sent = some (hostInt n) := by
  have hget : ObjectNode.get (java field) node = some (intNode n) := by
    unfold Sidecar.InitializeWireMapper.requiredInt at h
    split at h
    · split_ifs at h
      cases h
      assumption
    · cases h
  rw [get_toMembers hsent, hget, Option.bind_some, toValue_intNode hP]

lemma memberI64_of_get (h : SortedMap.get field sent = some (hostInt n)) :
    Host.memberI64 sent field = some n.val := by
  rw [Host.memberI64, h, Option.bind_some, asI64_hostInt]

lemma remoteNumber_of_get (h : SortedMap.get field object = some (hostInt n)) (hn : 0 ≤ n.val) :
    Host.remoteNumber object field = .ok n.val.toNat := by
  rw [Host.remoteNumber, h, Option.bind_some, asU64_hostInt hn]

lemma requiredInt_of_readLimits {fields : ObjectNode} {limits : Sidecar.ProtocolLimits}
    (h : Sidecar.InitializeWireMapper.readLimits (some (.object fields)) = .ok limits) :
    ∀ entry ∈ limits.val.entries,
      Sidecar.InitializeWireMapper.requiredInt fields entry.1 = .ok entry.2 := by
  unfold Sidecar.InitializeWireMapper.readLimits at h
  simp only at h
  obtain ⟨n₁, h₁, h⟩ := bind_eq_ok.mp h
  obtain ⟨n₂, h₂, h⟩ := bind_eq_ok.mp h
  obtain ⟨n₃, h₃, h⟩ := bind_eq_ok.mp h
  obtain ⟨n₄, h₄, h⟩ := bind_eq_ok.mp h
  obtain ⟨n₅, h₅, h⟩ := bind_eq_ok.mp h
  obtain ⟨n₆, h₆, h⟩ := bind_eq_ok.mp h
  obtain ⟨n₇, h₇, h⟩ := bind_eq_ok.mp h
  obtain ⟨n₈, h₈, h⟩ := bind_eq_ok.mp h
  obtain ⟨n₉, h₉, h⟩ := bind_eq_ok.mp h
  obtain ⟨n₁₀, h₁₀, h⟩ := bind_eq_ok.mp h
  unfold Sidecar.ProtocolLimits.create at h
  split_ifs at h
  cases h
  simp only [LimitFields.entries, List.forall_mem_cons]
  exact ⟨h₁, h₂, h₃, h₄, h₅, h₆, h₇, h₈, h₉, h₁₀, by simp⟩

/-- **What the sidecar reads is what the host offered.** -/
theorem offers_of_readParams (hP : P.Faithful) {node : ObjectNode}
    (hsent : toMembers P.number node = some sent)
    (h : Sidecar.InitializeWireMapper.readParams node = .ok client) : Offers sent client := by
  unfold Sidecar.InitializeWireMapper.readParams at h
  obtain ⟨major, hmajor, h⟩ := bind_eq_ok.mp h
  obtain ⟨minor, hminor, h⟩ := bind_eq_ok.mp h
  obtain ⟨minimum, hminimum, h⟩ := bind_eq_ok.mp h
  obtain ⟨text, -, h⟩ := bind_eq_ok.mp h
  obtain ⟨capabilities, -, h⟩ := bind_eq_ok.mp h
  obtain ⟨limits, hlimits, h⟩ := bind_eq_ok.mp h
  unfold InitializeWireParams.create at h
  split at h
  · cases h
    refine ⟨memberI64_of_get (get_of_requiredInt hP hsent hmajor),
      memberI64_of_get (get_of_requiredInt hP hsent hminor),
      memberI64_of_get (get_of_requiredInt hP hsent hminimum), ?_⟩
    unfold Sidecar.InitializeWireMapper.readLimits at hlimits
    split at hlimits
    · rename_i fields hfields
      obtain ⟨v, hv⟩ := toValue_of_get hsent hfields
      obtain ⟨object, hobject, rfl⟩ := Option.map_eq_some_iff.mp hv
      refine ⟨object, ?_, ?_⟩
      · rw [get_toMembers hsent, hfields, Option.bind_some, hv]
      · intro entry hentry
        have hread := requiredInt_of_readLimits hlimits entry hentry
        exact remoteNumber_of_get (get_of_requiredInt hP hobject hread)
          (nonneg_of_inRange limits.property entry hentry)
    · cases hlimits
  · cases h

/-! ## The answer -/

section

variable {number : JavaNumber → Option Number}

lemma exists_toMembers {fields : ObjectNode}
    (h : ∀ field ∈ fields, (∃ key, utf16Decode field.1 = some key) ∧
      ∃ v, toValue number field.2 = some v) : ∃ members, toMembers number fields = some members := by
  induction fields with
  | nil => exact ⟨[], rfl⟩
  | cons field fields ih =>
    obtain ⟨⟨⟨key, hkey⟩, v, hv⟩, hfields⟩ := List.forall_mem_cons.mp h
    obtain ⟨rest, hrest⟩ := ih hfields
    exact ⟨_, toMembers_cons.mpr ⟨key, v, rest, hkey, hv, hrest, rfl⟩⟩

lemma exists_toValue_object {fields : ObjectNode}
    (h : ∀ field ∈ fields, (∃ key, utf16Decode field.1 = some key) ∧
      ∃ v, toValue number field.2 = some v) : ∃ v, toValue number (.object fields) = some v := by
  obtain ⟨members, hmembers⟩ := exists_toMembers h
  exact ⟨.object members, by rw [toValue, hmembers]; rfl⟩

lemma exists_toValue_string {text : JavaString} (h : Sidecar.wellFormed text = true) :
    ∃ v, toValue number (.string text) = some v := by
  obtain ⟨s, hs⟩ := Sidecar.utf16Decode_of_wellFormed h
  exact ⟨.string s, by rw [toValue, hs]; rfl⟩

lemma exists_toValue_textNodes {values : List JavaString} {maxItems maxLength : ℕ}
    {allowed : Option (List JavaString)}
    (h : Sidecar.bounded values maxItems maxLength allowed = true) :
    ∃ v, toValue number (textNodes values) = some v := by
  rw [Sidecar.bounded, Bool.and_eq_true, Sidecar.entriesBounded_iff] at h
  obtain ⟨-, hall, -, -⟩ := h
  -- the induction is on the values alone, their number does not matter
  suffices hitems : ∃ vs, toItems number (values.map .string) = some vs by
    obtain ⟨vs, hvs⟩ := hitems
    exact ⟨.array vs, by rw [textNodes, toValue, hvs]; rfl⟩
  induction values with
  | nil => exact ⟨[], rfl⟩
  | cons value values ih =>
    obtain ⟨hvalue, hvalues⟩ := List.forall_mem_cons.mp hall
    simp only [Bool.and_eq_true] at hvalue
    obtain ⟨v, hv⟩ : ∃ v, toValue number (.string value) = some v :=
      exists_toValue_string hvalue.2
    obtain ⟨rest, hrest⟩ := ih hvalues
    exact ⟨_, toItems_cons.mpr ⟨v, rest, hv, hrest, rfl⟩⟩

lemma exists_key (s : String) : ∃ key, utf16Decode (java s) = some key := ⟨s, utf16Decode_java s⟩

lemma exists_toValue_java (s : String) : ∃ v, toValue number (.string (java s)) = some v :=
  ⟨.string s, by rw [toValue, utf16Decode_java]; rfl⟩

lemma exists_toValue_capabilities (capabilities : Sidecar.Capabilities) :
    ∃ v, toValue number (.object
      (Sidecar.InitializeWireMapper.writeCapabilities capabilities)) = some v := by
  obtain ⟨⟨methods, events, accessModes, itemKinds, mcp⟩, hchecked⟩ := capabilities
  obtain ⟨⟨protocolVersions, transports, features⟩, hmcp⟩ := mcp
  simp only [Sidecar.CapabilityFields.checked, Sidecar.McpFields.checked,
    Bool.and_eq_true] at hchecked hmcp
  obtain ⟨⟨⟨hmethods, hevents⟩, haccess⟩, hitems⟩ := hchecked
  obtain ⟨⟨hversions, htransports⟩, hfeatures⟩ := hmcp
  have hmcpNode : ∃ v, toValue number (.object
      [(java "protocolVersions", textNodes protocolVersions),
       (java "transports", textNodes transports), (java "features", textNodes features)]) =
      some v := by
    refine exists_toValue_object ?_
    simp only [List.forall_mem_cons]
    exact ⟨⟨exists_key _, exists_toValue_textNodes hversions⟩,
      ⟨exists_key _, exists_toValue_textNodes htransports⟩,
      ⟨exists_key _, exists_toValue_textNodes hfeatures⟩, by simp⟩
  refine exists_toValue_object ?_
  simp only [Sidecar.InitializeWireMapper.writeCapabilities, List.forall_mem_cons]
  exact ⟨⟨exists_key _, exists_toValue_textNodes hmethods⟩,
    ⟨exists_key _, exists_toValue_textNodes hevents⟩,
    ⟨exists_key _, exists_toValue_textNodes haccess⟩,
    ⟨exists_key _, exists_toValue_textNodes hitems⟩, ⟨exists_key _, hmcpNode⟩, by simp⟩

end

lemma exists_toValue_limits (hP : P.Faithful) (limits : Sidecar.ProtocolLimits) :
    ∃ members, toMembers P.number (Sidecar.InitializeWireMapper.writeLimits limits) =
      some members := by
  refine exists_toMembers fun field hfield => ?_
  obtain ⟨entry, -, rfl⟩ := List.mem_map.mp hfield
  exact ⟨exists_key _, _, toValue_intNode hP _⟩

lemma exists_toMembers_result (hP : P.Faithful) (negotiated : NegotiatedInitialization)
    (javaFeature : ℕ) (fakeRuntime : Bool) :
    ∃ members, toMembers P.number
      (Sidecar.initializeResult negotiated javaFeature fakeRuntime) = some members := by
  obtain ⟨limits, hlimits⟩ := exists_toValue_limits hP negotiated.limits
  have hversion : Sidecar.wellFormed negotiated.serverVersion = true := by
    have h := negotiated.checked
    rw [Sidecar.checkVersionText] at h
    split_ifs at h with _ hform
    exact hform
  have hinstance : ∃ v, toValue P.number (.string negotiated.serverInstanceId.val) = some v := by
    obtain ⟨text, htext, -⟩ :=
      decode_of_matchesHeadTail (forall_mem_of_all (by decide)) negotiated.serverInstanceId.property
    exact ⟨.string text, by rw [toValue, htext]; rfl⟩
  refine exists_toMembers ?_
  simp only [Sidecar.initializeResult, Sidecar.InitializeWireMapper.writeResult, List.cons_append,
    List.nil_append, List.forall_mem_cons]
  refine ⟨⟨exists_key _, _, toValue_intNode hP _⟩, ⟨exists_key _, _, toValue_intNode hP _⟩,
    ⟨exists_key _, exists_toValue_string hversion⟩,
    ⟨exists_key _, hinstance⟩,
    ⟨exists_key _, exists_toValue_capabilities _⟩,
    ⟨exists_key _, .object limits, by rw [toValue, hlimits]; rfl⟩,
    ⟨exists_key _, _, toValue_intNode hP _⟩, ⟨exists_key _, exists_toValue_object ?_⟩, by simp⟩
  simp only [List.forall_mem_cons]
  exact ⟨⟨exists_key _, exists_toValue_java _⟩, ⟨exists_key _, exists_toValue_java _⟩,
    ⟨exists_key _, exists_toValue_java _⟩, ⟨exists_key _, exists_toValue_java _⟩,
    ⟨exists_key _, exists_toValue_java _⟩, by simp⟩

/-! ## The two limits -/

/-- Every limit of the one is at most that of the other. -/
def LimitsLe (client server : LimitFields) : Prop :=
  client.maxFrameBytes ≤ server.maxFrameBytes ∧
  client.maxInboundQueueFrames ≤ server.maxInboundQueueFrames ∧
  client.maxOutboundQueueFrames ≤ server.maxOutboundQueueFrames ∧
  client.maxInFlightRequests ≤ server.maxInFlightRequests ∧
  client.maxPendingRequests ≤ server.maxPendingRequests ∧
  client.maxItemDeltaBytes ≤ server.maxItemDeltaBytes ∧
  client.maxInlineToolOutputBytes ≤ server.maxInlineToolOutputBytes ∧
  client.maxLogBytes ≤ server.maxLogBytes ∧
  client.defaultRequestDeadlineMs ≤ server.defaultRequestDeadlineMs ∧
  client.defaultApprovalDeadlineMs ≤ server.defaultApprovalDeadlineMs

/-- The numbers that the host reads of the limits of the sidecar. -/
def remoteLimits (f : LimitFields) : Host.RemoteLimits where
  maxFrame := f.maxFrameBytes.val.toNat
  inbound := f.maxInboundQueueFrames.val.toNat
  outbound := f.maxOutboundQueueFrames.val.toNat
  inFlight := f.maxInFlightRequests.val.toNat
  pending := f.maxPendingRequests.val.toNat
  itemDelta := f.maxItemDeltaBytes.val.toNat
  inlineOutput := f.maxInlineToolOutputBytes.val.toNat
  logs := f.maxLogBytes.val.toNat
  requestDeadline := f.defaultRequestDeadlineMs.val.toNat
  approvalDeadline := f.defaultApprovalDeadlineMs.val.toNat

lemma readRemoteLimits_of_entries
    (h : ∀ entry ∈ f.entries, Host.remoteNumber object entry.1 = .ok entry.2.val.toNat) :
    Host.readRemoteLimits object = .ok (remoteLimits f) := by
  simp only [LimitFields.entries, List.forall_mem_cons] at h
  obtain ⟨h₁, h₂, h₃, h₄, h₅, h₆, h₇, h₈, h₉, h₁₀, -⟩ := h
  simp only [Host.readRemoteLimits, h₁, h₂, h₃, h₄, h₅, h₆, h₇, h₈, h₉, h₁₀, ok_bind,
    remoteLimits]

lemma accepted_iff_eq {r r' : Host.RemoteLimits} (h : r.accepted l = true) :
    r'.accepted l = true ↔ r' = r := by
  constructor
  · intro h'
    simp only [Host.RemoteLimits.accepted, Bool.and_eq_true, beq_iff_eq] at h h'
    obtain ⟨⟨⟨⟨⟨⟨⟨⟨⟨⟨-, h₁⟩, h₂⟩, h₃⟩, h₄⟩, h₅⟩, h₆⟩, h₇⟩, h₈⟩, h₉⟩, h₁₀⟩ := h
    obtain ⟨⟨⟨⟨⟨⟨⟨⟨⟨⟨-, h₁'⟩, h₂'⟩, h₃'⟩, h₄'⟩, h₅'⟩, h₆'⟩, h₇'⟩, h₈'⟩, h₉'⟩, h₁₀'⟩ := h'
    -- both records have the fields of the limits
    obtain ⟨⟩ := r
    obtain ⟨⟩ := r'
    simp only at h₁ h₂ h₃ h₄ h₅ h₆ h₇ h₈ h₉ h₁₀ h₁' h₂' h₃' h₄' h₅' h₆' h₇' h₈' h₉' h₁₀'
    rw [h₁, h₂, h₃, h₄, h₅, h₆, h₇, h₈, h₉, h₁₀, h₁', h₂', h₃', h₄', h₅', h₆', h₇', h₈', h₉', h₁₀']
  · rintro rfl
    exact h

lemma toNat_min_eq_iff {a b : JavaInt} (ha : 0 ≤ a.val) (hb : 0 ≤ b.val) :
    (min a b).val.toNat = a.val.toNat ↔ a ≤ b := by
  constructor
  · intro h
    rcases min_choice a b with heq | heq
    · exact min_eq_left_iff.mp heq
    · rw [heq] at h
      have hab : a.val ≤ b.val := by omega
      exact hab
  · intro h
    rw [min_eq_left h]

/-- The smaller limits are the client's exactly when the client's are the smaller ones. -/
lemma remoteLimits_min_eq_iff {g : LimitFields} (hf : f.inRange = true) (hg : g.inRange = true) :
    remoteLimits (f.min g) = remoteLimits f ↔ LimitsLe f g := by
  have hf' := nonneg_of_inRange hf
  have hg' := nonneg_of_inRange hg
  simp only [LimitFields.entries, List.forall_mem_cons] at hf' hg'
  obtain ⟨f₁, f₂, f₃, f₄, f₅, f₆, f₇, f₈, f₉, f₁₀, -⟩ := hf'
  obtain ⟨g₁, g₂, g₃, g₄, g₅, g₆, g₇, g₈, g₉, g₁₀, -⟩ := hg'
  simp only [remoteLimits, LimitFields.min, Host.RemoteLimits.mk.injEq, LimitsLe,
    toNat_min_eq_iff, *]

/-- The limits that the host sends are those of the record, and the host accepts them. -/
lemma accepted_of_offers (hvalid : Host.validateInitializeParams (.object sent) l = .ok ())
    (hoffer : Offers sent client) :
    (remoteLimits client.limits.val).accepted l = true := by
  obtain ⟨object, hobject, hentries⟩ := hoffer.limits
  have hremote : Host.validateRemoteLimits (SortedMap.get "limits" sent) l = .ok () := by
    unfold Host.validateInitializeParams at hvalid
    simp only [Host.Value.asObject] at hvalid
    -- the limits are checked last, behind the version and the texts
    split_ifs at hvalid with hmajor htext
    · obtain ⟨_, -, hvalid⟩ := bind_eq_ok.mp hvalid
      obtain ⟨_, -, hvalid⟩ := bind_eq_ok.mp hvalid
      cases hvalid
    · obtain ⟨_, -, hvalid⟩ := bind_eq_ok.mp hvalid
      obtain ⟨_, -, hvalid⟩ := bind_eq_ok.mp hvalid
      obtain ⟨_, -, hvalid⟩ := bind_eq_ok.mp hvalid
      split at hvalid
      · assumption
      · cases hvalid
  rw [hobject] at hremote
  simp only [Host.validateRemoteLimits, Option.bind_some, Host.Value.asObject,
    readRemoteLimits_of_entries hentries, ok_bind] at hremote
  split_ifs at hremote with haccepted
  exact haccepted

/-- The host accepts the limits of an answer exactly when they are its own. -/
lemma validateRemoteLimits_eq_ok_iff
    (h : ∀ entry ∈ f.entries, Host.remoteNumber object entry.1 = .ok entry.2.val.toNat) :
    Host.validateRemoteLimits (some (.object object)) l = .ok () ↔
      (remoteLimits f).accepted l = true := by
  simp only [Host.validateRemoteLimits, Option.bind_some, Host.Value.asObject,
    readRemoteLimits_of_entries h, ok_bind]
  split_ifs with haccepted
  · simp [haccepted]
  · simp [haccepted]

/-! ## Agreement -/

lemma get_answer {negotiated : NegotiatedInitialization} {javaFeature : ℕ} {fakeRuntime : Bool}
    {members : Map}
    (h : toMembers P.number (Sidecar.initializeResult negotiated javaFeature fakeRuntime) =
      some members) (key : String) :
    SortedMap.get key (SortedMap.ofList (Json.sortMembers members)) =
      ((ObjectNode.get (java key)
        (Sidecar.initializeResult negotiated javaFeature fakeRuntime)).bind
          (toValue P.number)).map Json.sort := by
  refine get_sorted h ?_ key
  simp only [Sidecar.initializeResult, Sidecar.InitializeWireMapper.writeResult, List.cons_append,
    List.nil_append, List.map_cons, List.map_nil]
  decide

lemma nodup_writeLimits (limits : Sidecar.ProtocolLimits) :
    ((Sidecar.InitializeWireMapper.writeLimits limits).map Prod.fst).Nodup := by
  simp only [Sidecar.InitializeWireMapper.writeLimits, LimitFields.entries, List.map_cons,
    List.map_nil]
  decide

lemma remoteNumber_answer (hP : P.Faithful) {limits : Sidecar.ProtocolLimits} {members : Map}
    (h : toMembers P.number (Sidecar.InitializeWireMapper.writeLimits limits) = some members) :
    ∀ entry ∈ limits.val.entries,
      Host.remoteNumber (SortedMap.ofList (Json.sortMembers members)) entry.1 =
        .ok entry.2.val.toNat := by
  intro entry hentry
  have hmem : (java entry.1, intNode entry.2) ∈
      Sidecar.InitializeWireMapper.writeLimits limits := List.mem_map_of_mem hentry
  have hnodup := nodup_writeLimits limits
  refine remoteNumber_of_get ?_ (nonneg_of_inRange limits.property entry hentry)
  rw [get_sorted h hnodup, ObjectNode.get_of_mem hnodup hmem, Option.bind_some,
    toValue_intNode hP]
  rfl

/-- **The host accepts the version of the answer**, and both sides select the same minor. -/
lemma checkVersion_answer {answer : Map} (hoffer : Offers sent client)
    (h : InitializeUseCase.Compatible client server)
    (hmajor : Host.memberI64 answer "protocolMajor" = some server.major.val)
    (hminor : Host.memberI64 answer "protocolMinor" =
      some (min client.protocolMinor server.minor).val)
    (hminimum : Host.memberI64 answer "minimumCompatibleMinor" =
      some (max client.minimumCompatibleMinor server.minimumCompatibleMinor).val) :
    Host.checkVersion (.object sent) answer =
      .ok (min client.protocolMinor server.minor).val := by
  obtain ⟨hnonneg, hclient, -⟩ := client.checks
  have hserver := server.minimum_le
  have hmax : (max client.minimumCompatibleMinor server.minimumCompatibleMinor).val ≤
      (min client.protocolMinor server.minor).val :=
    max_le (le_min hclient h.2.1) (le_min h.2.2 hserver)
  have hzero : 0 ≤ (max client.minimumCompatibleMinor server.minimumCompatibleMinor).val :=
    hnonneg.trans (le_max_left client.minimumCompatibleMinor server.minimumCompatibleMinor)
  have hlarge : (min client.protocolMinor server.minor).val ≤ Host.i32Max := by
    have := (min client.protocolMinor server.minor).property
    rw [Host.i32Max]
    omega
  have hwithin : Host.memberWithin answer "protocolMinor" 0 Host.i32Max =
      some (min client.protocolMinor server.minor).val := by
    rw [Host.memberWithin, hminor]
    exact Option.filter_some_pos (by simp [hlarge, hzero.trans hmax])
  have hwithin' : Host.memberWithin answer "minimumCompatibleMinor" 0
      (min client.protocolMinor server.minor).val =
      some (max client.minimumCompatibleMinor server.minimumCompatibleMinor).val := by
    rw [Host.memberWithin, hminimum]
    exact Option.filter_some_pos (by simp [hzero, hmax])
  simp only [Host.checkVersion, hmajor, hwithin, hwithin', hoffer.major, hoffer.minor,
    hoffer.minimum, Host.requireI64, ok_bind, Host.Value.asObject, negotiateVersion_answer h]

/-- **Agreement of the two sides** on every offer that the host validates: the sidecar accepts
exactly when the host's formula accepts the two offers; when it does, the host accepts the version
of the answer and selects the minor that the sidecar selected, and accepts the limits of the
answer exactly when each of its own is at most the sidecar's. -/
theorem initialize_agreement {P : Peers} (hP : P.Faithful) {sent : Map} {l : Host.Limits}
    (hvalid : Host.validateInitializeParams (.object sent) l = .ok ())
    {client : InitializeWireParams} (hoffer : Offers sent client) (useCase : InitializeUseCase)
    (hname : Sidecar.checkVersionText .runtime useCase.serverVersionName = .ok ()) :
    ((∃ negotiated, useCase.execute client = .ok negotiated) ↔
      ∃ selected, Host.negotiateVersion client.protocolMajor.val client.protocolMinor.val
        client.minimumCompatibleMinor.val useCase.serverVersion.major.val
        useCase.serverVersion.minor.val useCase.serverVersion.minimumCompatibleMinor.val =
          .ok selected) ∧
    ∀ negotiated, useCase.execute client = .ok negotiated → ∀ javaFeature fakeRuntime,
      ∃ answer : Map,
        (toValue P.number (.object
          (Sidecar.initializeResult negotiated javaFeature fakeRuntime))).map Json.sort =
            some (.object answer) ∧
        Host.checkVersion (.object sent) answer = .ok negotiated.version.minor.val ∧
        Host.negotiateVersion client.protocolMajor.val client.protocolMinor.val
          client.minimumCompatibleMinor.val useCase.serverVersion.major.val
          useCase.serverVersion.minor.val useCase.serverVersion.minimumCompatibleMinor.val =
            .ok negotiated.version.minor.val ∧
        (Host.validateRemoteLimits (SortedMap.get "limits" answer) l = .ok () ↔
          LimitsLe client.limits.val useCase.serverLimits.val) := by
  constructor
  · constructor
    · rintro ⟨negotiated, hexecute⟩
      exact ⟨_, negotiateVersion_eq_ok_iff.mpr
        ⟨InitializeUseCase.compatible_of_execute hexecute, rfl⟩⟩
    · rintro ⟨selected, hselected⟩
      obtain ⟨hcompatible, -⟩ := negotiateVersion_eq_ok_iff.mp hselected
      obtain ⟨negotiated, hexecute, -⟩ := InitializeUseCase.execute_compatible hcompatible hname
      exact ⟨negotiated, hexecute⟩
  · intro negotiated hexecute javaFeature fakeRuntime
    have hcompatible := InitializeUseCase.compatible_of_execute hexecute
    obtain ⟨negotiated', hexecute', hmajor, hminor, hminimum, hlimits⟩ :=
      InitializeUseCase.execute_compatible hcompatible hname
    obtain rfl : negotiated = negotiated' := Except.ok.inj (hexecute.symm.trans hexecute')
    obtain ⟨members, hmembers⟩ := exists_toMembers_result hP negotiated javaFeature fakeRuntime
    obtain ⟨limitMembers, hlimitMembers⟩ := exists_toValue_limits hP negotiated.limits
    have hint : ∀ key n, ObjectNode.get (java key)
        (Sidecar.initializeResult negotiated javaFeature fakeRuntime) = some (intNode n) →
        Host.memberI64 (SortedMap.ofList (Json.sortMembers members)) key = some n.val := by
      intro key n hn
      refine memberI64_of_get ?_
      rw [get_answer hmembers, hn, Option.bind_some, toValue_intNode hP]
      rfl
    have hlimitsGet : SortedMap.get "limits" (SortedMap.ofList (Json.sortMembers members)) =
        some (.object (SortedMap.ofList (Json.sortMembers limitMembers))) := by
      have hn : ObjectNode.get (java "limits")
          (Sidecar.initializeResult negotiated javaFeature fakeRuntime) =
          some (.object (Sidecar.InitializeWireMapper.writeLimits negotiated.limits)) := rfl
      rw [get_answer hmembers, hn, Option.bind_some, toValue, hlimitMembers]
      rfl
    refine ⟨SortedMap.ofList (Json.sortMembers members), ?_, ?_, ?_, ?_⟩
    · rw [toValue, hmembers]
      rfl
    · rw [hminor]
      refine checkVersion_answer hoffer hcompatible ?_ ?_ ?_
      · rw [← hmajor]
        exact hint "protocolMajor" _ rfl
      · rw [← hminor]
        exact hint "protocolMinor" _ rfl
      · rw [← hminimum]
        exact hint "minimumCompatibleMinor" _ rfl
    · refine negotiateVersion_eq_ok_iff.mpr ⟨hcompatible, ?_⟩
      rw [hminor]
      exact Monotone.map_min (f := Subtype.val) (fun _ _ h => h)
    · rw [hlimitsGet, validateRemoteLimits_eq_ok_iff (remoteNumber_answer hP hlimitMembers),
        accepted_iff_eq (accepted_of_offers hvalid hoffer), hlimits]
      exact remoteLimits_min_eq_iff client.limits.property useCase.serverLimits.property

/-- `ProtocolLimits.defaults`. -/
def defaultLimits : Sidecar.ProtocolLimits :=
  ⟨⟨⟨4 * 1024 * 1024, by decide⟩, ⟨256, by decide⟩, ⟨1024, by decide⟩, ⟨64, by decide⟩,
    ⟨64, by decide⟩, ⟨65536, by decide⟩, ⟨1048576, by decide⟩, ⟨1048576, by decide⟩,
    ⟨120000, by decide⟩, ⟨300000, by decide⟩⟩, by decide⟩

/-- `Capabilities.minimal`. -/
def minimalCapabilities : Sidecar.Capabilities :=
  ⟨⟨[], [], [], [], ⟨⟨[], [], []⟩, by decide⟩⟩, by decide⟩

/-- The version of this release. -/
def firstVersion : ProtocolVersion :=
  ⟨⟨1, by decide⟩, ⟨0, by decide⟩, ⟨0, by decide⟩, rfl, le_rfl, le_rfl⟩

/-- The use case of the sidecar. -/
def previewUseCase : InitializeUseCase where
  serverVersion := firstVersion
  serverVersionName := java "ja-preview"
  serverInstanceId := ⟨java "srv_preview", rfl⟩
  serverCapabilities := minimalCapabilities
  serverLimits := defaultLimits

/-- The offer of the host. -/
def defaultClient : InitializeWireParams where
  protocolMajor := firstVersion.major
  protocolMinor := firstVersion.minor
  minimumCompatibleMinor := firstVersion.minimumCompatibleMinor
  clientVersion := java "ja-host"
  capabilities := minimalCapabilities
  limits := defaultLimits
  checked := by decide +kernel

/-- The parameters that the host sends by default. -/
def defaultSent : Map := ((Host.defaultInitializeParams {}).asObject).getD []

lemma offers_default : Offers defaultSent defaultClient := by
  refine ⟨by decide +kernel, by decide +kernel, by decide +kernel,
    SortedMap.ofList ((Host.Limits.fields {}).map fun field =>
      (field.1, Host.unsigned field.2)), by decide +kernel, ?_⟩
  decide +kernel

/-- The two releases agree. -/
theorem initialize_agreement_default :
    (∃ negotiated, previewUseCase.execute defaultClient = .ok negotiated) ↔
      ∃ selected, Host.negotiateVersion 1 0 0 1 0 0 = .ok selected := by
  have hvalid : Host.validateInitializeParams (.object defaultSent) {} = .ok () := by
    decide +kernel
  exact (initialize_agreement compactPeers_faithful hvalid offers_default previewUseCase
    (by decide +kernel)).1

/-- The offer of a sidecar with its own limits. -/
def defaultNode : ObjectNode :=
  [(java "protocolMajor", intNode firstVersion.major),
   (java "protocolMinor", intNode firstVersion.minor),
   (java "minimumCompatibleMinor", intNode firstVersion.minimumCompatibleMinor),
   (java "clientVersion", .string (java "ja-host")),
   (java "capabilities",
     .object (Sidecar.InitializeWireMapper.writeCapabilities minimalCapabilities)),
   (java "limits", .object (Sidecar.InitializeWireMapper.writeLimits defaultLimits))]

theorem offers_of_readParams_default :
    ∃ sent client, Sidecar.InitializeWireMapper.readParams defaultNode = .ok client ∧
      Offers sent client := by
  obtain ⟨sent, hsent⟩ := Option.isSome_iff_exists.mp
    (show (toMembers compactPeers.number defaultNode).isSome = true by decide +kernel)
  obtain ⟨client, hclient⟩ := exists_ok_of_toBool
    (show (Sidecar.InitializeWireMapper.readParams defaultNode).toBool = true by decide +kernel)
  exact ⟨sent, client, hclient, offers_of_readParams compactPeers_faithful hsent hclient⟩

end JaDesktop.Interop
