import JaDesktop.Interop.Wire
import JaDesktop.Settings.Validity
import JaDesktop.Sidecar.SettingsMappers

/-!
# Replaying the settings into a sidecar

The host sends the frozen settings as `profile/save` and `mcp/save`; the sidecar reads them with
validators of its own.  `toNode` is the tree that Jackson reads for a value of the host.  The
settings that pass `SettingsDocument.validate` are not all accepted: the two sides measure lengths in
different units, and the sidecar asks for more of identifiers, names, endpoints and values.  The
theorem says which settings can be replayed.
-/

namespace JaDesktop.Interop

open Host (Value Map Number)
open Sidecar (JsonNode ObjectNode java java_inj JavaUrls)
open Settings

/-! ## Trees across the wire -/

mutual

/-- The tree that Jackson reads for a value of the host. -/
def toNode : Value → JsonNode
  | .null => .null
  | .bool b => .bool b
  | .number (.int n) => .number (.integral n.val)
  | .number (.float bits) => .number (.floating bits)
  | .string s => .string (java s)
  | .array items => .array (toNodes items)
  | .object members => .object (toFields members)

def toNodes : List Value → List JsonNode
  | [] => []
  | child :: items => toNode child :: toNodes items

def toFields : Map → ObjectNode
  | [] => []
  | (key, child) :: members => (java key, toNode child) :: toFields members

end

lemma toNodes_eq_map (items : List Value) : toNodes items = items.map toNode := by
  induction items with
  | nil => rfl
  | cons c items ih => rw [toNodes, ih, List.map_cons]

lemma toFields_eq_map (members : Map) :
    toFields members = members.map fun m => (java m.1, toNode m.2) := by
  induction members with
  | nil => rfl
  | cons m members ih => rw [toFields, ih, List.map_cons]

lemma get_toFields (key : String) (members : Map) :
    ObjectNode.get (java key) (toFields members) = (SortedMap.get key members).map toNode := by
  induction members with
  | nil => rfl
  | cons m members ih =>
    obtain ⟨k, c⟩ := m
    rw [toFields, ObjectNode.get, List.lookup_cons, SortedMap.get]
    by_cases h : key = k
    · subst h
      simp
    · have hne : (java key == java k) = false := by simpa using h
      rw [hne, if_neg (by simpa [eq_comm] using h)]
      exact ih

/-- A member of an object that the `json!` macro built. -/
lemma get_jsonObject {members : Map} (hkeys : (members.map Prod.fst).Nodup) (key : String) :
    ObjectNode.get (java key) (toFields (SortedMap.ofList members)) =
      (SortedMap.get key members).map toNode := by
  rw [get_toFields, SortedMap.get_ofList hkeys]

/-! ## Texts and identifiers -/

/-- What the sidecar asks of a label: not blank, and at most `max` UTF-16 units. -/
def TextFits (max : ℕ) (s : String) : Prop :=
  Sidecar.isBlank (java s) = false ∧ (java s).length ≤ max

/-- What the sidecar asks of a reference beyond its bytes: the first byte after the head is a letter
or a digit, and at most 95 bytes follow it. -/
def tailFits (head s : String) : Bool :=
  match (asBytes s).drop (asBytes head).length with
  | [] => false
  | first :: rest => isAsciiAlphanumeric first && rest.length ≤ 95

/-- A head and bytes that a reference may have: what the host makes sure of. -/
structure IsReference (head s : String) : Prop where
  starts : (asBytes head).isPrefixOf (asBytes s) = true
  bytes : ((asBytes s).drop (asBytes head).length).all isReferenceByte = true

variable {head s : String}

lemma isReference_of_isRevision (h : isRevision head s = true) :
    IsReference head s := by
  simp only [isRevision, Bool.not_eq_true', Bool.or_eq_false_iff, Bool.not_eq_false'] at h
  exact ⟨h.1.2, h.2⟩

lemma isReference_of_credential (r : CredentialRef) : IsReference "cred_" r.val := by
  have h := r.2
  simp only [isCredentialRef, Bool.not_eq_true', Bool.or_eq_false_iff, Bool.not_eq_false'] at h
  have hlength : (asBytes "cred_").length = 5 := by decide
  exact ⟨h.1.1.2, by rw [hlength]; exact h.2⟩

/-- An ASCII byte as a UTF-16 unit. -/
def unitOf (b : UInt8) : UInt16 := UInt16.ofNat b.toNat

lemma isReferenceByte_unit {b : UInt8} (h : isReferenceByte b = true) :
    b.toNat < 0x80 ∧ Sidecar.isTailUnit (unitOf b) = true := by
  have hall : ∀ n < 256, isReferenceByte (UInt8.ofNat n) = true →
      n < 0x80 ∧ Sidecar.isTailUnit (UInt16.ofNat n) = true := by decide +kernel
  have hb := hall b.toNat b.toNat_lt (by simpa using h)
  exact hb

lemma isAlphanumeric_unit (b : UInt8) :
    Sidecar.isAlphanumeric (unitOf b) = isAsciiAlphanumeric b := by
  have hall : ∀ n < 256, Sidecar.isAlphanumeric (UInt16.ofNat n) =
      isAsciiAlphanumeric (UInt8.ofNat n) := by decide +kernel
  have hb := hall b.toNat b.toNat_lt
  simpa [unitOf] using hb

lemma java_of_ascii (h : ∀ b ∈ asBytes s, b.toNat < 0x80) :
    java s = (asBytes s).map unitOf :=
  utf16Encode_of_ascii h

/-- A reference of the host passes the pattern of the sidecar when its tail fits. -/
lemma matchesHeadTail_reference (hhead : ∀ b ∈ asBytes head, b.toNat < 0x80)
    (h : IsReference head s) : Sidecar.matchesHeadTail head (java s) = tailFits head s := by
  obtain ⟨tail, htail⟩ := List.isPrefixOf_iff_prefix.mp h.starts
  have hbytes := h.bytes
  rw [← htail, List.drop_left] at hbytes
  have hunits : ∀ b ∈ tail, b.toNat < 0x80 ∧ Sidecar.isTailUnit (unitOf b) = true :=
    fun b hb => isReferenceByte_unit (List.all_eq_true.mp hbytes b hb)
  have hascii : ∀ b ∈ asBytes s, b.toNat < 0x80 := by
    rw [← htail]
    intro b hb
    rcases List.mem_append.mp hb with hb | hb
    · exact hhead b hb
    · exact (hunits b hb).1
  rw [Sidecar.matchesHeadTail, java_of_ascii hascii, java_of_ascii hhead, tailFits, ← htail,
    List.map_append, List.length_map, List.drop_left]
  have hdrop : ((asBytes head).map unitOf ++ tail.map unitOf).drop (asBytes head).length =
      tail.map unitOf := by
    rw [← List.length_map unitOf, List.drop_left]
  have hprefix : ((asBytes head).map unitOf).isPrefixOf
      ((asBytes head).map unitOf ++ tail.map unitOf) = true :=
    List.isPrefixOf_iff_prefix.mpr (List.prefix_append _ _)
  rw [hdrop, hprefix, Bool.true_and]
  cases tail with
  | nil => rfl
  | cons first rest =>
    have hrest : (rest.map unitOf).all Sidecar.isTailUnit = true := by
      rw [List.all_map, List.all_eq_true]
      exact fun b hb => (hunits b (by simp [hb])).2
    simp [Sidecar.matchesTail, isAlphanumeric_unit, hrest]

lemma not_blank_of_head {u : UInt16} {rest : JavaString} (hhead : java head = u :: rest)
    (hu : Sidecar.isWhitespace u = false) (h : (java head).isPrefixOf (java s) = true) :
    Sidecar.isBlank (java s) = false := by
  obtain ⟨tail, htail⟩ := List.isPrefixOf_iff_prefix.mp h
  rw [← htail, hhead, Sidecar.isBlank]
  simp [hu]

lemma isPrefixOf_java (h : Sidecar.matchesHeadTail head (java s) = true) :
    (java head).isPrefixOf (java s) = true := by
  rw [Sidecar.matchesHeadTail, Bool.and_eq_true] at h
  exact h.1

/-! ## The profile -/

section ProfileSteps

open Sidecar.ProfileWireMapper

variable {parent : ObjectNode} {field head : String} {max : ℕ}

lemma requiredText_ok_iff {s : String} {v : JavaString}
    (hget : ObjectNode.get (java field) parent = some (.string (java s))) :
    requiredText parent field max = .ok v ↔ java s = v ∧ TextFits max s := by
  simp only [requiredText, hget, TextFits]
  cases hblank : Sidecar.isBlank (java s) with
  | true => simp
  | false =>
    by_cases hlength : (java s).length ≤ max
    · simp [hlength, Nat.not_lt.mpr hlength]
    · simp [hlength, Nat.lt_of_not_le hlength]

lemma optionalText_ok_iff {o : Option String} {v : Option JavaString}
    (hget : ObjectNode.get (java field) parent = o.map fun s => .string (java s)) :
    optionalText parent field max = .ok v ↔ o.map java = v ∧ ∀ s, o = some s → TextFits max s := by
  cases o with
  | none => simp [optionalText, hget]
  | some s =>
    simp only [optionalText, hget, Option.map_some, TextFits]
    cases hblank : Sidecar.isBlank (java s) with
    | true => simp [hblank]
    | false =>
      by_cases hlength : (java s).length ≤ max
      · simp [hblank, hlength, Nat.not_lt.mpr hlength]
      · simp [hblank, hlength, Nat.lt_of_not_le hlength]

lemma revisions_ok_iff {unique : List JavaString} {values : List String} {out : List JavaString} :
    revisions head unique (values.map fun s => .string (java s)) = .ok out ↔
      unique ++ values.map java = out ∧
        (∀ s ∈ values, Sidecar.matchesHeadTail head (java s) = true) ∧
        (∀ s ∈ values, java s ∉ unique) ∧ values.Nodup := by
  induction values generalizing unique with
  | nil => simp [revisions]
  | cons s values ih =>
    simp only [List.map_cons, revisions]
    by_cases hmatch : Sidecar.matchesHeadTail head (java s) = true
    · by_cases hseen : java s ∈ unique
      · simp [hseen]
      · have hcond : (!Sidecar.matchesHeadTail head (java s) || unique.contains (java s)) = false := by
          simp [hmatch, hseen]
        rw [hcond]
        simp only [Bool.false_eq_true, if_false, ih, List.append_assoc, List.singleton_append,
          List.mem_append, List.mem_singleton, not_or, java_inj, List.forall_mem_cons, hmatch,
          true_and, hseen, not_false_eq_true, List.nodup_cons]
        constructor
        · rintro ⟨hout, hmatches, hnew, hnodup⟩
          exact ⟨hout, hmatches, fun t ht => (hnew t ht).1,
            fun hmem => (hnew s hmem).2 rfl, hnodup⟩
        · rintro ⟨hout, hmatches, hnew, hnot, hnodup⟩
          refine ⟨hout, hmatches, fun t ht => ⟨hnew t ht, ?_⟩, hnodup⟩
          rintro rfl
          exact hnot ht
    · simp [hmatch]

lemma revisionArray_ok_iff {values : List String} {out : List JavaString}
    (hget : ObjectNode.get (java field) parent =
      some (.array (values.map fun s => .string (java s))))
    (hlength : values.length ≤ 128) :
    revisionArray parent field head = .ok out ↔ values.map java = out ∧
      (∀ s ∈ values, Sidecar.matchesHeadTail head (java s) = true) ∧ values.Nodup := by
  have hsmall : ¬ (values.map fun s => (Json.string (java s) : JsonNode)).length > 128 := by
    simpa using hlength
  rw [revisionArray, hget]
  simp only [if_neg hsmall, revisions_ok_iff, List.nil_append, List.not_mem_nil, not_false_eq_true,
    implies_true, true_and]

end ProfileSteps

/-- The two sides agree on URLs: what one of them takes for an HTTP URL the other does too, and they
find the same parts in it. -/
structure UrlsAgree (parse : UrlParser) (urls : JavaUrls) : Prop where
  notBlank : ∀ s url, parse s = some url → Sidecar.isBlank (java s) = false
  baseUrl : ∀ s, validateUrl parse s = .ok () → urls.validBaseUrl (java s) = true
  endpoint : ∀ s, (∃ url, parse s = some url ∧ url.isHttp = true) ↔
    ∃ uri, urls.create (java s) = some uri ∧ uri.isHttp = true
  userInfo : ∀ s url uri, parse s = some url → urls.create (java s) = some uri →
    url.username = "" → url.password = none → uri.rawUserInfo = none
  query : ∀ s url uri, parse s = some url → urls.create (java s) = some uri →
    url.query = none → uri.rawQuery = none
  fragment : ∀ s url uri, parse s = some url → urls.create (java s) = some uri →
    url.fragment = none → uri.rawFragment = none

/-- The providers that the sidecar knows for a protocol. -/
def ProviderFits (protocol : ApiProtocol) (provider : String) : Prop :=
  if protocol = .anthropicMessages then
    Sidecar.lowerAscii (java provider) = java "anthropic"
  else Sidecar.lowerAscii (java provider) = java "openai" ∨
    Sidecar.matchesVendor (java provider) = true

/-- The settings of the active profile that the sidecar accepts. -/
structure ProfileFits (replay : RuntimeReplayConfig) : Prop where
  revision : tailFits "profile_" replay.profile.profileRevision = true
  name : TextFits 256 replay.profile.name
  provider : ProviderFits replay.profile.protocol replay.profile.provider
  model : TextFits 256 replay.profile.model
  credential : ∀ r, replay.profile.credentialRef = some r → tailFits "cred_" r.val = true
  skills : ∀ r ∈ replay.profile.skillRevisions, tailFits "skill_" r = true
  servers : ∀ server ∈ replay.mcpServers, tailFits "mcp_" server.mcpRevision = true
  distinct : (replay.mcpServers.map (·.mcpRevision)).Nodup

lemma isBlank_lowerAscii (s : JavaString) :
    Sidecar.isBlank (Sidecar.lowerAscii s) = Sidecar.isBlank s := by
  have hunit : ∀ u : UInt16, Sidecar.isWhitespace (if 0x41 ≤ u && u ≤ 0x5A then u + 0x20 else u) =
      Sidecar.isWhitespace u := by
    intro u
    split_ifs with hu
    · -- neither the upper case letters nor the lower case ones are white space
      have hall : ∀ n < 26, Sidecar.isWhitespace (UInt16.ofNat (0x41 + n) + 0x20) =
          Sidecar.isWhitespace (UInt16.ofNat (0x41 + n)) := by decide +kernel
      simp only [Bool.and_eq_true, decide_eq_true_eq, UInt16.le_iff_toNat_le] at hu
      have h41 : (0x41 : UInt16).toNat = 0x41 := rfl
      have h5A : (0x5A : UInt16).toNat = 0x5A := rfl
      have hn := hall (u.toNat - 0x41) (by omega)
      rwa [show 0x41 + (u.toNat - 0x41) = u.toNat by omega, UInt16.ofNat_toNat] at hn
    · rfl
  rw [Sidecar.isBlank, Sidecar.isBlank, Sidecar.lowerAscii, List.all_map]
  exact List.all_congr rfl fun u => hunit u

lemma textFits_of_providerFits {protocol : ApiProtocol} {provider : String}
    (h : ProviderFits protocol provider) : TextFits 128 provider := by
  have hname : ∀ name : String, Sidecar.isBlank (java name) = false → (java name).length ≤ 128 →
      Sidecar.lowerAscii (java provider) = java name → TextFits 128 provider := by
    intro name hblank hlength heq
    refine ⟨by rw [← isBlank_lowerAscii, heq, hblank], ?_⟩
    rw [← heq, Sidecar.lowerAscii, List.length_map] at hlength
    exact hlength
  rw [ProviderFits] at h
  split_ifs at h
  · exact hname "anthropic" (by decide) (by decide) h
  · rcases h with h | h
    · exact hname "openai" (by decide) (by decide) h
    · simp only [Sidecar.matchesVendor, Bool.and_eq_true, Bool.not_eq_true', decide_eq_true_eq,
        List.all_eq_true] at h
      obtain ⟨⟨hnonempty, hlength⟩, hunits⟩ := h
      refine ⟨?_, by omega⟩
      obtain ⟨u, rest, hcons⟩ := List.exists_cons_of_ne_nil (List.isEmpty_eq_false_iff.mp hnonempty)
      have hu := hunits u (by simp [hcons])
      rw [hcons, Sidecar.isBlank, List.all_cons]
      have hvisible : Sidecar.isWhitespace u = false := by
        rw [Bool.or_eq_true, beq_iff_eq] at hu
        have hall : ∀ n < 128, Sidecar.isTailUnit (UInt16.ofNat n) = true →
            Sidecar.isWhitespace (UInt16.ofNat n) = false := by decide +kernel
        rcases hu with hu | rfl
        · have hn := hall u.toNat (isTailUnit_byte hu).1
          rw [UInt16.ofNat_toNat] at hn
          exact hn hu
        · decide
      rw [hvisible, Bool.false_and]

section Profile

open Sidecar.ProfileWireMapper

variable {parse : UrlParser} {urls : JavaUrls} {profile : ProfileSetting}
  {servers : List McpServerSetting}

lemma get_member? {α : Type} (key : String) (toValue : α → Value) (o : Option α) :
    SortedMap.get key (member? key toValue o) = o.map toValue := by
  cases o <;> simp [member?, SortedMap.get]

lemma get_member?_ne {α : Type} {key other : String} (h : key ≠ other) (toValue : α → Value)
    (o : Option α) : SortedMap.get key (member? other toValue o) = none := by
  cases o <;> simp [member?, SortedMap.get, h]

lemma mem_member? {α : Type} {key : String} {toValue : α → Value} {o : Option α}
    {m : String × Value} (h : m ∈ member? key toValue o) :
    ∃ a, o = some a ∧ m = (key, toValue a) := by
  cases o with
  | none => simp [member?] at h
  | some a => exact ⟨a, rfl, by simpa [member?] using h⟩

lemma nodup_modelMembers (p : ProfileSetting) : ((modelMembers p).map Prod.fst).Nodup := by
  cases hbase : p.baseUrl <;> cases href : p.credentialRef <;>
    simp [modelMembers, member?, hbase, href]

lemma get_model (p : ProfileSetting) (key : String) :
    ObjectNode.get (java key) (toFields (SortedMap.ofList (modelMembers p))) =
      (SortedMap.get key (modelMembers p)).map toNode :=
  get_jsonObject (nodup_modelMembers p) key

lemma get_model_baseUrl (p : ProfileSetting) :
    ObjectNode.get (java "baseUrl") (toFields (SortedMap.ofList (modelMembers p))) =
      p.baseUrl.map fun s => .string (java s) := by
  rw [get_model, modelMembers, SortedMap.get_append, SortedMap.get_append, get_member?,
    get_member?_ne (by decide)]
  cases p.baseUrl <;> simp [SortedMap.get, toNode]

lemma get_model_credentialRef (p : ProfileSetting) :
    ObjectNode.get (java "credentialRef") (toFields (SortedMap.ofList (modelMembers p))) =
      (p.credentialRef.map Subtype.val).map fun s => .string (java s) := by
  rw [get_model, modelMembers, SortedMap.get_append, SortedMap.get_append,
    get_member?_ne (by decide), get_member?]
  cases p.credentialRef <;> simp [SortedMap.get, toNode]

lemma ascii_cred : ∀ b ∈ asBytes "cred_", b.toNat < 0x80 := forall_mem_of_all (by decide)

/-- A credential of the host is a text of at most 100 units that is not blank. -/
lemma textFits_credential (r : CredentialRef) : TextFits 100 r.val := by
  have h := r.2
  have href := (isReference_of_credential r).starts
  simp only [isCredentialRef, Bool.not_eq_true', Bool.or_eq_false_iff, decide_eq_false_iff_not,
    gt_iff_lt, not_lt] at h
  refine ⟨?_, (length_utf16Encode_le r.val).trans h.1.1.1⟩
  have hascii : ∀ b ∈ asBytes r.val, b.toNat < 0x80 := by
    obtain ⟨tail, htail⟩ := List.isPrefixOf_iff_prefix.mp href
    have hbytes := (isReference_of_credential r).bytes
    rw [← htail, List.drop_left] at hbytes
    rw [← htail]
    intro b hb
    rcases List.mem_append.mp hb with hb | hb
    · exact ascii_cred b hb
    · exact (isReferenceByte_unit (List.all_eq_true.mp hbytes b hb)).1
  obtain ⟨tail, htail⟩ := List.isPrefixOf_iff_prefix.mp href
  have hcred : asBytes "cred_" = [0x63, 0x72, 0x65, 0x64, 0x5F] := by decide
  rw [java_of_ascii hascii, ← htail, hcred]
  simp [Sidecar.isBlank, unitOf, Sidecar.isWhitespace]

/-- A reference that passes the pattern of the protocol passes that of `SecretRef`. -/
lemma matchesSecretRef_of_headTail {s : JavaString}
    (h : Sidecar.matchesHeadTail "cred_" s = true) : Sidecar.matchesSecretRef s = true := by
  rw [Sidecar.matchesHeadTail, Bool.and_eq_true] at h
  obtain ⟨tail, rfl⟩ := List.isPrefixOf_iff_prefix.mp h.1
  have htail := h.2
  rw [List.drop_left] at htail
  have hcred : java "cred_" = [0x63, 0x72, 0x65, 0x64, 0x5F] := by decide
  rw [hcred]
  cases tail with
  | nil => cases htail
  | cons first rest =>
    simp only [Sidecar.matchesTail, Bool.and_eq_true, decide_eq_true_eq, List.all_eq_true] at htail
    have hfirst : Sidecar.isTailUnit first = true := by simp [Sidecar.isTailUnit, htail.1.1]
    simp only [List.cons_append, List.nil_append, Sidecar.matchesSecretRef, List.length_cons,
      List.all_cons, Bool.and_eq_true, decide_eq_true_eq, List.all_eq_true]
    refine ⟨⟨by decide, by omega⟩, by decide, by decide, by decide, by decide, ?_, ?_⟩
    · simp [hfirst]
    · intro u hu
      simp [htail.2 u hu]

lemma secretRefOf_ok_iff {o : Option CredentialRef} {v : Option JavaString} :
    secretRefOf ((o.map Subtype.val).map java) = .ok v ↔
      (o.map Subtype.val).map java = v ∧ ∀ r, o = some r → tailFits "cred_" r.val = true := by
  cases o with
  | none => simp [secretRefOf]
  | some r =>
    have hfits := matchesHeadTail_reference ascii_cred (isReference_of_credential r)
    cases htail : tailFits "cred_" r.val with
    | false => simp [secretRefOf, hfits, htail]
    | true =>
      rw [htail] at hfits
      simp [secretRefOf, hfits, matchesSecretRef_of_headTail hfits, htail]

/-- The API of a protocol that is not reserved. -/
def apiOfProtocol : ApiProtocol → Sidecar.ModelApi
  | .anthropicMessages => .anthropicMessages
  | _ => .openaiChatCompletions

variable {protocol : ApiProtocol}

lemma apiOf_protocolText (h : protocol ≠ .openAiResponses) :
    apiOf (Sidecar.lowerAscii (java (protocolText protocol))) = .ok (apiOfProtocol protocol) := by
  cases protocol with
  | anthropicMessages => decide
  | openAiChatCompletions => decide
  | openAiResponses => exact absurd rfl h

lemma apiOfProtocol_eq_anthropic :
    apiOfProtocol protocol = .anthropicMessages ↔ protocol = .anthropicMessages := by
  cases protocol <;> simp [apiOfProtocol]

/-- The sidecar finds a provider exactly when the text fits, and one that goes with the API. -/
lemma providerOf_ok_iff {provider : String} :
    (∃ found, providerOf (apiOfProtocol protocol) (java provider) = .ok found) ↔
      ProviderFits protocol provider := by
  simp only [providerOf, apiOfProtocol_eq_anthropic, ProviderFits]
  split_ifs with hprotocol hname hname hvendor <;> simp_all

/-- What the sidecar makes of a provider passes the constructor of the profile. -/
lemma provider_checks {provider : String} {found : Sidecar.ModelProvider}
    (h : providerOf (apiOfProtocol protocol) (java provider) = .ok found) :
    ((if found = .openaiCompatible then some (java provider) else none).any fun vendor =>
        Sidecar.isBlank vendor || !Sidecar.matchesVendor vendor) = false ∧
      (found == .anthropic && apiOfProtocol protocol != .anthropicMessages) = false ∧
      (found == .openaiCompatible && apiOfProtocol protocol != .openaiChatCompletions) = false := by
  have hfits := (textFits_of_providerFits (providerOf_ok_iff.mp ⟨found, h⟩)).1
  simp only [providerOf, apiOfProtocol_eq_anthropic] at h
  split_ifs at h with hprotocol hname hname hvendor
  · cases h
    subst hprotocol
    simp [apiOfProtocol]
  · cases h
    simp
  · cases h
    cases protocol <;> simp_all [apiOfProtocol]

/-- The sidecar reads the model of a valid profile exactly when provider, model and credential fit. -/
lemma parseModel_ok_iff {revision name : JavaString} (hU : UrlsAgree parse urls)
    (hv : ValidProfile parse servers profile) (hrevision : Sidecar.isBlank revision = false)
    (hname : Sidecar.isBlank name = false) :
    (∃ m, parseModel urls revision name (toFields (SortedMap.ofList (modelMembers profile))) =
        .ok m) ↔
      ProviderFits profile.protocol profile.provider ∧ TextFits 256 profile.model ∧
        ∀ r, profile.credentialRef = some r → tailFits "cred_" r.val = true := by
  have hprovider : ObjectNode.get (java "provider") (toFields (SortedMap.ofList
      (modelMembers profile))) = some (.string (java profile.provider)) := get_model profile _
  have hprotocol : ObjectNode.get (java "protocol") (toFields (SortedMap.ofList
      (modelMembers profile))) = some (.string (java (protocolText profile.protocol))) :=
    get_model profile _
  have hmodel : ObjectNode.get (java "model") (toFields (SortedMap.ofList
      (modelMembers profile))) = some (.string (java profile.model)) := get_model profile _
  have hvision : supportsVision (toFields (SortedMap.ofList (modelMembers profile))) =
      .ok (some profile.supportsVision) := by
    have hget : ObjectNode.get (java "supportsVision") (toFields (SortedMap.ofList
      (modelMembers profile))) = some (.bool profile.supportsVision) := get_model profile _
    rw [supportsVision, hget]
  have hprotocolFits : TextFits 32 (protocolText profile.protocol) := by
    cases profile.protocol <;> exact ⟨by decide, by decide⟩
  have hbaseFits : ∀ url, profile.baseUrl = some url → TextFits 2048 url := by
    intro url hurl
    have hvalid := hv.baseUrl url hurl
    rw [validateUrl] at hvalid
    split_ifs at hvalid with hlength
    have hunits := length_utf16Encode_le url
    simp only [maxSettingsString, not_lt] at hlength
    refine ⟨?_, by rw [java]; omega⟩
    cases hparse : parse url with
    | none => simp [hparse] at hvalid
    | some parsed => exact hU.notBlank url parsed hparse
  have hcredentialFits : ∀ t, profile.credentialRef.map Subtype.val = some t → TextFits 100 t := by
    intro t ht
    obtain ⟨r, -, rfl⟩ := Option.map_eq_some_iff.mp ht
    exact textFits_credential r
  have hbaseValid : (profile.baseUrl.map java).any (fun url => !urls.validBaseUrl url) = false := by
    cases hbase : profile.baseUrl with
    | none => rfl
    | some url => simp [hU.baseUrl url (hv.baseUrl url hbase)]
  simp only [parseModel, bind_ok_iff fun _ => requiredText_ok_iff hprovider,
    bind_ok_iff fun _ => requiredText_ok_iff hprotocol,
    bind_ok_iff fun _ => requiredText_ok_iff hmodel, apiOf_protocolText hv.protocol, ok_bind]
  cases hfound : providerOf (apiOfProtocol profile.protocol) (java profile.provider) with
  | error e =>
    have hno : ¬ ProviderFits profile.protocol profile.provider := by
      intro hfits
      obtain ⟨found, h⟩ := providerOf_ok_iff.mpr hfits
      rw [hfound] at h
      cases h
    simp [hno]
  | ok found =>
    have hfits := providerOf_ok_iff.mp ⟨found, hfound⟩
    obtain ⟨hvendor, hanthropic, hcompatible⟩ := provider_checks hfound
    simp only [ok_bind, bind_ok_iff fun _ => optionalText_ok_iff (get_model_baseUrl profile),
      bind_ok_iff fun _ => optionalText_ok_iff (get_model_credentialRef profile),
      bind_ok_iff fun _ => secretRefOf_ok_iff, hvision, exists_and_left]
    constructor
    · rintro ⟨-, -, hmodelFits, -, -, hcredential, -⟩
      exact ⟨hfits, hmodelFits, hcredential⟩
    · rintro ⟨-, hmodelFits, hcredential⟩
      refine ⟨textFits_of_providerFits hfits, hprotocolFits, hmodelFits, hbaseFits,
        hcredentialFits, hcredential, ?_⟩
      simp only [Sidecar.ModelProfile.create, hrevision, hname, hvendor, hmodelFits.1, hbaseValid,
        hanthropic, hcompatible, Bool.or_self, Bool.false_eq_true, if_false, Except.ok.injEq,
        exists_eq']

variable {replay : RuntimeReplayConfig}

lemma nodup_profileMembers (replay : RuntimeReplayConfig) :
    ((profileMembers replay).map Prod.fst).Nodup := by
  simp [profileMembers]

lemma get_profile (replay : RuntimeReplayConfig) (key : String) :
    ObjectNode.get (java key) (toFields (SortedMap.ofList (profileMembers replay))) =
      (SortedMap.get key (profileMembers replay)).map toNode :=
  get_jsonObject (nodup_profileMembers replay) key

lemma toNode_strings (values : List String) :
    toNode (.array (values.map .string)) = .array (values.map fun s => .string (java s)) := by
  rw [toNode, toNodes_eq_map, List.map_map]
  rfl

lemma ascii_profile : ∀ b ∈ asBytes "profile_", b.toNat < 0x80 := forall_mem_of_all (by decide)

lemma ascii_skill : ∀ b ∈ asBytes "skill_", b.toNat < 0x80 := forall_mem_of_all (by decide)

lemma ascii_mcp : ∀ b ∈ asBytes "mcp_", b.toNat < 0x80 := forall_mem_of_all (by decide)

lemma matches_all {head : String} (hhead : ∀ b ∈ asBytes head, b.toNat < 0x80)
    {values : List String} (h : ∀ s ∈ values, isRevision head s = true) :
    (∀ s ∈ values, Sidecar.matchesHeadTail head (java s) = true) ↔
      ∀ s ∈ values, tailFits head s = true :=
  forall₂_congr fun s hs =>
    by rw [matchesHeadTail_reference hhead (isReference_of_isRevision (h s hs))]

/-- **The sidecar accepts the profile** of a valid snapshot exactly when its texts, its provider and
its references fit, and no server is selected twice. -/
theorem profile_accepted_iff (hU : UrlsAgree parse urls) (hv : ValidReplay parse replay) :
    (∃ saved, Sidecar.ProfileWireMapper.parse urls (toNode replay.profileParams) = .ok saved) ↔
      ProfileFits replay := by
  obtain ⟨known, hprofile⟩ := hv.profile
  have hget := get_profile replay
  have hrevision : ObjectNode.get (java "profileRevision") (toFields (SortedMap.ofList
      (profileMembers replay))) = some (.string (java replay.profile.profileRevision)) := hget _
  have hname : ObjectNode.get (java "name") (toFields (SortedMap.ofList
      (profileMembers replay))) = some (.string (java replay.profile.name)) := hget _
  have haccess : ObjectNode.get (java "accessMode") (toFields (SortedMap.ofList
      (profileMembers replay))) = some (.string (java (accessModeText replay.profile.accessMode))) :=
    hget _
  have hskills : ObjectNode.get (java "skillRevisions") (toFields (SortedMap.ofList
      (profileMembers replay))) =
        some (.array (replay.profile.skillRevisions.map fun s => .string (java s))) := by
    rw [← toNode_strings, ← hv.skills]
    exact hget _
  have hservers : ObjectNode.get (java "mcpRevisions") (toFields (SortedMap.ofList
      (profileMembers replay))) =
        some (.array ((replay.mcpServers.map (·.mcpRevision)).map fun s => .string (java s))) := by
    rw [← toNode_strings, List.map_map]
    exact hget _
  have hmodel : requiredObject (toFields (SortedMap.ofList (profileMembers replay))) "model" =
      .ok (toFields (SortedMap.ofList (modelMembers replay.profile))) := by
    have hobject : ObjectNode.get (java "model") (toFields (SortedMap.ofList
      (profileMembers replay))) =
        some (.object (toFields (SortedMap.ofList (modelMembers replay.profile)))) := hget _
    rw [requiredObject, hobject]
  have hrevisionFits := matchesHeadTail_reference ascii_profile
    (isReference_of_isRevision hprofile.revision)
  have hskillsFit := matches_all ascii_skill hprofile.skills.revisions
  have hserverRevisions : ∀ s ∈ replay.mcpServers.map (·.mcpRevision),
      isRevision "mcp_" s = true :=
    List.forall_mem_map.mpr fun server hs => (hv.server server hs).revision
  have hserversFit := matches_all ascii_mcp hserverRevisions
  have hserversLength : (replay.mcpServers.map (·.mcpRevision)).length ≤ 128 := by
    simpa using hv.length
  have hvisible : Sidecar.matchesHeadTail "profile_" (java replay.profile.profileRevision) = true →
      Sidecar.isBlank (java replay.profile.profileRevision) = false := fun hmatch =>
    not_blank_of_head (show java "profile_" = 0x70 :: java "rofile_" by decide) (by decide)
      (isPrefixOf_java hmatch)
  have hshort : (java replay.profile.profileRevision).length ≤ maxInt := by
    have hunits := length_utf16Encode_le replay.profile.profileRevision
    have hbytes := hprofile.revision
    simp only [isRevision, Bool.not_eq_true', Bool.or_eq_false_iff, decide_eq_false_iff_not,
      gt_iff_lt, not_lt] at hbytes
    have hsmall := hbytes.1.1.2
    rw [java, maxInt]
    omega
  have haccessText : requiredEnum (toFields (SortedMap.ofList (profileMembers replay))) "accessMode"
      ["read_only", "workspace", "full_access"] =
        .ok (java (accessModeText replay.profile.accessMode)) := by
    have haccessFits : TextFits maxInt (accessModeText replay.profile.accessMode) := by
      cases replay.profile.accessMode <;> exact ⟨by decide, by decide⟩
    have haccessKnown : (["read_only", "workspace", "full_access"].any fun candidate =>
        java candidate == java (accessModeText replay.profile.accessMode)) = true := by
      cases replay.profile.accessMode <;> decide
    rw [requiredEnum, (requiredText_ok_iff haccess).mpr ⟨rfl, haccessFits⟩, ok_bind,
      if_pos haccessKnown]
  have hidentifier : ∀ v, requiredIdentifier (toFields (SortedMap.ofList (profileMembers replay)))
      "profileRevision" "profile_" = .ok v ↔ java replay.profile.profileRevision = v ∧
        Sidecar.matchesHeadTail "profile_" (java replay.profile.profileRevision) = true := by
    intro v
    rw [requiredIdentifier, bind_ok_iff fun _ => requiredText_ok_iff hrevision]
    split_ifs with hmatch
    · simp [hmatch, TextFits, hvisible hmatch, hshort]
    · simp [hmatch]
  simp only [toNode, RuntimeReplayConfig.profileParams, jsonObject, Sidecar.ProfileWireMapper.parse,
    bind_ok_iff hidentifier, bind_ok_iff fun _ => requiredText_ok_iff hname, haccessText, ok_bind,
    bind_ok_iff fun _ => revisionArray_ok_iff hskills hprofile.skills.length,
    bind_ok_iff fun _ => revisionArray_ok_iff hservers hserversLength, hmodel, bind_eq_ok,
    hskillsFit, hserversFit]
  constructor
  · rintro ⟨saved, hmatch, hnameFits, ⟨hskillsOk, -⟩, ⟨hserversOk, hdistinct⟩, model, hmodelOk, -⟩
    obtain ⟨hprovider, hmodelFits, hcredential⟩ := (parseModel_ok_iff hU hprofile (hvisible hmatch)
      hnameFits.1).mp ⟨model, hmodelOk⟩
    exact ⟨hrevisionFits ▸ hmatch, hnameFits, hprovider, hmodelFits, hcredential, hskillsOk,
      List.forall_mem_map.mp hserversOk, hdistinct⟩
  · intro hfits
    have hmatch : Sidecar.matchesHeadTail "profile_" (java replay.profile.profileRevision) = true :=
      hrevisionFits ▸ hfits.revision
    obtain ⟨model, hmodelOk⟩ := (parseModel_ok_iff hU hprofile (hvisible hmatch) hfits.name.1).mpr
      ⟨hfits.provider, hfits.model, hfits.credential⟩
    exact ⟨_, hmatch, hfits.name, ⟨hfits.skills, hprofile.skills.distinct⟩,
      ⟨List.forall_mem_map.mpr hfits.servers, hfits.distinct⟩, model, hmodelOk, rfl⟩

end Profile

end JaDesktop.Interop
