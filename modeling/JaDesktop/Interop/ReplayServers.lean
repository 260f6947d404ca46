import JaDesktop.Interop.Replay

/-!
# Replaying the servers

`mcp/save` on both sides, and the theorem about a whole snapshot: which settings a fresh sidecar
takes again.
-/

namespace JaDesktop.Interop

open Host (Value Map)
open Sidecar (JsonNode ObjectNode java java_inj JavaUrls)
open Settings

/-! ## Servers -/

/-- The authentication that is sent for a server: kind, name and reference. -/
def sentAuth (server : McpServerSetting) :
    McpAuthKind × Option String × Option CredentialRef :=
  match server.auth with
  | some auth => (auth.kind, auth.name, auth.credentialRef)
  | none =>
    match server.credentialRef with
    | some reference =>
      if server.transport = "stdio" then (.env, some "JA_MCP_SECRET", some reference)
      else (.bearer, none, some reference)
    | none => (.none, none, none)

lemma authMembers_eq (server : McpServerSetting) :
    authMembers server = [("kind", .string (authKindText (sentAuth server).1))] ++
      (member? "name" .string (sentAuth server).2.1 ++
        member? "credentialRef" (fun reference => .string reference.val)
          (sentAuth server).2.2) := by
  cases hauth : server.auth with
  | some auth => simp [authMembers, sentAuth, hauth]
  | none =>
    cases href : server.credentialRef with
    | none => simp [authMembers, sentAuth, hauth, href, member?, authKindText]
    | some reference =>
      by_cases ht : server.transport = "stdio" <;>
        simp [authMembers, sentAuth, hauth, href, ht, member?, authKindText]

/-- What is known of the authentication that is sent for a valid server. -/
structure SentAuth (server : McpServerSetting) (kind : McpAuthKind) (name : Option String)
    (reference : Option CredentialRef) : Prop where
  credential : reference = server.mcpCredential
  bare : kind = .none → name = none ∧ reference = none
  env : kind = .env → server.transport = "stdio" ∧ Settings.validEnvName name = true
  bearer : kind = .bearer → server.transport = "streamable_http" ∧ name = none
  header : kind = .header →
    server.transport = "streamable_http" ∧ Settings.validHeaderName name = true
  needed : kind ≠ .none → reference.isSome = true

lemma sentAuth_valid {parse : UrlParser} {server : McpServerSetting} (h : ValidServer parse server) :
    SentAuth server (sentAuth server).1 (sentAuth server).2.1 (sentAuth server).2.2 := by
  cases hauth : server.auth with
  | some auth =>
    have hvalid := h.auth auth hauth
    simp only [sentAuth, hauth]
    exact ⟨by simp [McpServerSetting.mcpCredential, hauth, hvalid.alone], hvalid.bare, hvalid.env,
      hvalid.bearer, hvalid.header, hvalid.reference⟩
  | none =>
    cases href : server.credentialRef with
    | none =>
      simp only [sentAuth, hauth, href]
      exact ⟨by simp [McpServerSetting.mcpCredential, hauth, href], by simp, by simp, by simp,
        by simp, by simp⟩
    | some reference =>
      by_cases ht : server.transport = "stdio"
      · have hname : Settings.validEnvName (some "JA_MCP_SECRET") = true := by decide
        simp only [sentAuth, hauth, href, ht, if_true]
        exact ⟨by simp [McpServerSetting.mcpCredential, hauth, href], by simp,
          fun _ => ⟨ht, hname⟩, by simp, by simp, by simp⟩
      · have hhttp := h.transport.resolve_left ht
        simp only [sentAuth, hauth, href, ht, if_false]
        exact ⟨by simp [McpServerSetting.mcpCredential, hauth, href], by simp, by simp,
          fun _ => ⟨hhttp, rfl⟩, by simp, by simp⟩

lemma forall_byte {P : UInt8 → UInt16 → Prop}
    (h : ∀ n < 256, P (UInt8.ofNat n) (UInt16.ofNat n)) (b : UInt8) : P b (unitOf b) := by
  have hb := h b.toNat b.toNat_lt
  rwa [UInt8.ofNat_toNat] at hb

lemma validEnvName_java {name : String} (h : Settings.validEnvName (some name) = true) :
    Sidecar.validEnvName (some (java name)) = true ∧ Sidecar.isBlank (java name) = false := by
  have hfirst := forall_byte (P := fun b u =>
    (isAsciiAlphabetic b || b == 0x5F) = true → b.toNat < 0x80 ∧
      ((Sidecar.isAlphanumeric u && !(0x30 ≤ u && u ≤ 0x39) || u == 0x5F) = true ∧
        Sidecar.isWhitespace u = false)) (by decide +kernel)
  have hrest := forall_byte (P := fun b u => (isAsciiAlphanumeric b || b == 0x5F) = true →
    b.toNat < 0x80 ∧ (Sidecar.isAlphanumeric u || u == 0x5F) = true) (by decide +kernel)
  cases hbytes : asBytes name with
  | nil => simp [Settings.validEnvName, hbytes] at h
  | cons first rest =>
    simp only [Settings.validEnvName, hbytes, Bool.and_eq_true, decide_eq_true_eq,
      List.all_eq_true, List.length_cons] at h
    obtain ⟨⟨hlength, hf⟩, hr⟩ := h
    obtain ⟨hfascii, hfunit, hfvisible⟩ := hfirst first hf
    have hascii : ∀ b ∈ asBytes name, b.toNat < 0x80 := by
      rw [hbytes]
      exact List.forall_mem_cons.mpr ⟨hfascii, fun b hb => (hrest b (hr b hb)).1⟩
    rw [java_of_ascii hascii, hbytes, List.map_cons]
    constructor
    · simp only [Sidecar.validEnvName, hfunit, List.length_map, List.all_map, Bool.true_and,
        Bool.and_eq_true, decide_eq_true_eq, List.all_eq_true]
      exact ⟨by omega, fun b hb => (hrest b (hr b hb)).2⟩
    · simp [Sidecar.isBlank, hfvisible]

lemma validHeaderName_java {name : String} (h : Settings.validHeaderName (some name) = true) :
    Sidecar.validHeaderName (some (java name)) = true ∧ Sidecar.isBlank (java name) = false := by
  have hunit := forall_byte (P := fun b u =>
    (isAsciiAlphanumeric b || headerNameMarks.contains b) = true → b.toNat < 0x80 ∧
      ((Sidecar.isAlphanumeric u || Sidecar.headerMarks.contains u) = true ∧
        Sidecar.isWhitespace u = false)) (by decide +kernel)
  simp only [Settings.validHeaderName, Bool.and_eq_true, bne_iff_ne, ne_eq, decide_eq_true_eq,
    List.all_eq_true] at h
  obtain ⟨⟨hnonempty, hlength⟩, hall⟩ := h
  have hascii : ∀ b ∈ asBytes name, b.toNat < 0x80 := fun b hb => (hunit b (hall b hb)).1
  have hbytes : asBytes name ≠ [] := by
    intro hnil
    have htext := congrArg fromUtf8 hnil
    rw [fromUtf8_asBytes, show fromUtf8 [] = some "" by decide, Option.some_inj] at htext
    exact hnonempty htext
  obtain ⟨first, rest, hcons⟩ := List.exists_cons_of_ne_nil hbytes
  have hpos : 1 ≤ (asBytes name).length := by rw [hcons]; simp
  rw [java_of_ascii hascii]
  constructor
  · simp only [Sidecar.validHeaderName, List.length_map, List.all_map, Bool.and_eq_true,
      decide_eq_true_eq, List.all_eq_true]
    exact ⟨⟨hpos, hlength⟩, fun b hb => (hunit b (hall b hb)).2.1⟩
  · have hfirst := (hunit first (hall first (by simp [hcons]))).2.2
    simp [Sidecar.isBlank, hcons, hfirst]

section Auth

open Sidecar.McpWireMapper

variable {server : McpServerSetting} {kind : McpAuthKind} {name : Option String}
  {reference : Option CredentialRef}

/-- The constructor of the authentication accepts what is sent when the reference fits. -/
lemma checkAuth_ok_iff (h : SentAuth server kind name reference) :
    Sidecar.checkAuth (java (authKindText kind)) (name.map java)
        ((reference.map Subtype.val).map java) = .ok () ↔
      ∀ r, reference = some r → tailFits "cred_" r.val = true := by
  cases kind with
  | none =>
    obtain ⟨rfl, rfl⟩ := h.bare rfl
    simp [Sidecar.checkAuth, authKindText]
  | env =>
    obtain ⟨-, hname⟩ := h.env rfl
    obtain ⟨r, rfl⟩ := Option.isSome_iff_exists.mp (h.needed (by decide))
    have hfits := matchesHeadTail_reference ascii_cred (isReference_of_credential r)
    cases name with
    | none => simp [Settings.validEnvName] at hname
    | some n =>
      have hjava := (validEnvName_java hname).1
      cases htail : tailFits "cred_" r.val <;>
        simp [Sidecar.checkAuth, authKindText, Sidecar.validCredentialRef, hjava, hfits, htail]
  | bearer =>
    obtain ⟨-, rfl⟩ := h.bearer rfl
    obtain ⟨r, rfl⟩ := Option.isSome_iff_exists.mp (h.needed (by decide))
    have hfits := matchesHeadTail_reference ascii_cred (isReference_of_credential r)
    cases htail : tailFits "cred_" r.val <;>
      simp [Sidecar.checkAuth, authKindText, Sidecar.validCredentialRef, hfits, htail]
  | header =>
    obtain ⟨-, hname⟩ := h.header rfl
    obtain ⟨r, rfl⟩ := Option.isSome_iff_exists.mp (h.needed (by decide))
    have hfits := matchesHeadTail_reference ascii_cred (isReference_of_credential r)
    cases name with
    | none => simp [Settings.validHeaderName] at hname
    | some n =>
      have hjava := (validHeaderName_java hname).1
      cases htail : tailFits "cred_" r.val <;>
        simp [Sidecar.checkAuth, authKindText, Sidecar.validCredentialRef, hjava, hfits, htail]

lemma nodup_auth (kind : McpAuthKind) (name : Option String) (reference : Option CredentialRef) :
    (([("kind", (Json.string (authKindText kind) : Value))] ++ (member? "name" .string name ++
      member? "credentialRef" (fun r : CredentialRef => .string r.val) reference)).map
        Prod.fst).Nodup := by
  cases name <;> cases reference <;> simp [member?]

lemma get_auth (server : McpServerSetting) :
    let fields := toFields (SortedMap.ofList (authMembers server))
    ObjectNode.get (java "kind") fields =
        some (.string (java (authKindText (sentAuth server).1))) ∧
      ObjectNode.get (java "name") fields =
        (sentAuth server).2.1.map (fun s => .string (java s)) ∧
      ObjectNode.get (java "credentialRef") fields =
        ((sentAuth server).2.2.map Subtype.val).map (fun s => .string (java s)) := by
  rcases hsent : sentAuth server with ⟨kind, name, reference⟩
  have hget := get_jsonObject (nodup_auth kind name reference)
  rw [authMembers_eq, hsent]
  refine ⟨hget "kind", ?_, ?_⟩
  · rw [hget "name", SortedMap.get_append, SortedMap.get_append, get_member?,
      get_member?_ne (by decide)]
    cases name <;> simp [SortedMap.get, toNode]
  · rw [hget "credentialRef", SortedMap.get_append, SortedMap.get_append,
      get_member?_ne (by decide), get_member?]
    cases reference <;> simp [SortedMap.get, toNode]

lemma optionalText_of_visible {parent : ObjectNode} {field : String} {o : Option String}
    (hget : ObjectNode.get (java field) parent = o.map fun s => .string (java s))
    (hvisible : ∀ s, o = some s → Sidecar.isBlank (java s) = false) :
    optionalText parent field = .ok (o.map java) := by
  cases o with
  | none => simp [optionalText, hget]
  | some s => simp [optionalText, hget, hvisible s rfl]

lemma rejectUnknownFields_ok {members : Map} {names : List String}
    (h : ∀ m ∈ members, m.1 ∈ names) :
    rejectUnknownFields (toFields (SortedMap.ofList members)) (names.map java) = .ok () := by
  rw [rejectUnknownFields, reject_eq_ok, List.any_eq_false, toFields_eq_map]
  intro field hfield
  obtain ⟨m, hm, rfl⟩ := List.mem_map.mp hfield
  have hname := h m (SortedMap.mem_of_mem_ofList hm)
  simp [hname]

lemma authNames (server : McpServerSetting) :
    ∀ m ∈ authMembers server, m.1 ∈ ["kind", "name", "credentialRef"] := by
  rw [authMembers_eq]
  rcases sentAuth server with ⟨kind, name, reference⟩
  cases name <;> cases reference <;> simp [member?]

/-- The sidecar builds the authentication exactly when its constructor accepts it. -/
lemma auth_ok_iff {kind : JavaString} {name credentialRef : Option JavaString} :
    (∃ a, auth kind name credentialRef = .ok a) ↔
      Sidecar.checkAuth kind name credentialRef = .ok () := by
  constructor
  · rintro ⟨a, ha⟩
    exact (Sidecar.McpAuth.of_create (mapError_eq_ok.mp ha)).1
  · intro h
    exact ⟨_, mapError_eq_ok.mpr (Sidecar.McpAuth.create_eq_ok h)⟩

lemma kind_of_auth {kind : JavaString} {name credentialRef : Option JavaString}
    {a : Sidecar.McpAuth} (h : auth kind name credentialRef = .ok a) : a.kind = kind :=
  (Sidecar.McpAuth.of_create (mapError_eq_ok.mp h)).2

/-- The sidecar's reading of the authentication comes down to the constructor. -/
lemma parseAuth_eq (hsent : sentAuth server = (kind, name, reference))
    (h : SentAuth server kind name reference) (transport : JavaString) :
    parseAuth (some (.object (toFields (SortedMap.ofList (authMembers server))))) none transport =
      auth (java (authKindText kind)) (name.map java) ((reference.map Subtype.val).map java) := by
  obtain ⟨hkind, hname, href⟩ := get_auth server
  rw [hsent] at hkind hname href
  have hnames : rejectUnknownFields (toFields (SortedMap.ofList (authMembers server))) authFields =
      .ok () := rejectUnknownFields_ok (authNames server)
  have hkindText : requiredText (toFields (SortedMap.ofList (authMembers server))) "kind" =
      .ok (java (authKindText kind)) := by
    have hvisible : Sidecar.isBlank (java (authKindText kind)) = false := by cases kind <;> decide
    simp only [requiredText, hkind, hvisible, Bool.false_eq_true, if_false]
  have hknown : (["none", "bearer", "header", "env"].any fun k =>
      java k == java (authKindText kind)) = true := by cases kind <;> decide
  have hnameText := optionalText_of_visible hname (by
    intro s hs
    cases kind with
    | none => simp [(h.bare rfl).1] at hs
    | env => exact (validEnvName_java (hs ▸ (h.env rfl).2)).2
    | bearer => simp [(h.bearer rfl).2] at hs
    | header => exact (validHeaderName_java (hs ▸ (h.header rfl).2)).2)
  have hrefText := optionalText_of_visible href (by
    intro s hs
    obtain ⟨r, -, rfl⟩ := Option.map_eq_some_iff.mp hs
    exact (textFits_credential r).1)
  have hbare : (java (authKindText kind) = java "none" &&
      ((name.map java).isSome || ((reference.map Subtype.val).map java).isSome)) = false := by
    cases kind with
    | none =>
      obtain ⟨rfl, rfl⟩ := h.bare rfl
      rfl
    | env | bearer | header => simp [authKindText]
  have hneeded : (java (authKindText kind) ≠ java "none" &&
      ((reference.map Subtype.val).map java).isNone) = false := by
    cases kind with
    | none => simp [authKindText]
    | env | bearer | header =>
      obtain ⟨r, rfl⟩ := Option.isSome_iff_exists.mp (h.needed (by decide))
      simp
  simp only [parseAuth, hnames, hkindText, ok_bind, hknown, if_true, hnameText, hrefText]
  rw [if_neg (by simpa using hbare), if_neg (by simpa [Option.isSome_iff_ne_none] using hneeded)]

end Auth

/-- What the sidecar asks of an argument beyond the checks of the host. -/
structure ArgFits (arg : String) : Prop where
  visible : Sidecar.isBlank (java arg) = false
  marker : Sidecar.containsText (java arg) "secret-ref://" = false
  plain : Sidecar.isSensitiveConfigValue (java arg) = false

/-- What the sidecar asks of a key and its value beyond the checks of the host. -/
structure PairFits (pair : String × String) : Prop where
  visible : Sidecar.isBlank (java pair.1) = false
  key : Sidecar.isSensitiveConfigKey (java pair.1) = false
  marker : Sidecar.containsText (java pair.2) "secret-ref://" = false
  plain : Sidecar.isSensitiveConfigValue (java pair.2) = false

/-- What the sidecar asks of an endpoint beyond the checks of the host. -/
structure EndpointFits (parse : UrlParser) (server : McpServerSetting) : Prop where
  visible : Sidecar.isBlank (java server.endpoint) = false
  plain : Sidecar.isSensitiveConfigValue (java server.endpoint) = false
  stdio : server.transport = "stdio" → Sidecar.matchesStdioEndpoint (java server.endpoint) = true
  http : server.transport = "streamable_http" →
    (∃ url, parse server.endpoint = some url ∧ url.isHttp = true) ∧
      Sidecar.hasSecretMarker (java server.endpoint) = false

/-- The settings of a server that the sidecar accepts. -/
structure ServerFits (parse : UrlParser) (server : McpServerSetting) : Prop where
  revision : tailFits "mcp_" server.mcpRevision = true
  name : TextFits 256 server.name
  endpoint : EndpointFits parse server
  args : ∀ arg ∈ server.args, ArgFits arg
  pairs : ∀ pair ∈ server.pairs, PairFits pair
  credential : ∀ r, server.mcpCredential = some r → tailFits "cred_" r.val = true

section Definition

open Sidecar (requireText requireEndpoint copyStrings copyMap)

variable {parse : UrlParser} {urls : JavaUrls} {server : McpServerSetting}

variable {s : String}

lemma not_contains_zero (h : ∀ c ∈ s.toList, isControl c = false) :
    (java s).contains 0 = false := by
  rw [← Bool.not_eq_true, List.contains_iff_mem]
  intro hmem
  obtain ⟨c, hc, hzero⟩ := mem_of_mem_utf16Encode hmem (by decide)
  have hcontrol := h c hc
  simp [isControl, hzero] at hcontrol

lemma requireText_ok_iff (code : String) (max : ℕ) (h : ∀ c ∈ s.toList, isControl c = false) :
    requireText (java s) code max = .ok () ↔ TextFits max s := by
  rw [requireText, reject_eq_ok, not_contains_zero h]
  simp [TextFits]

lemma textFits_of_visible {max : ℕ} (h : Sidecar.isBlank (java s) = false)
    (hlength : (asBytes s).length ≤ max) : TextFits max s :=
  ⟨h, (length_utf16Encode_le s).trans hlength⟩

/-- An HTTP endpoint that the host has checked is one of the sidecar, unless it has a marker. -/
lemma validateEndpoint_ok_iff (hU : UrlsAgree parse urls) (hv : ValidServer parse server) :
    Sidecar.validateEndpoint urls (java server.endpoint) = .ok () ↔
      (∃ url, parse server.endpoint = some url ∧ url.isHttp = true) ∧
        Sidecar.hasSecretMarker (java server.endpoint) = false := by
  rw [Sidecar.validateEndpoint]
  cases hmarker : Sidecar.hasSecretMarker (java server.endpoint) with
  | true => simp
  | false =>
    simp only [Bool.false_eq_true, if_false, and_true]
    rw [hU.endpoint]
    cases hcreate : urls.create (java server.endpoint) with
    | none => simp
    | some uri =>
      constructor
      · intro h
        have hcond := reject_eq_ok.mp h
        simp only [Bool.or_eq_false_iff, Bool.not_eq_false'] at hcond
        exact ⟨uri, rfl, hcond.1.1.1.1⟩
      · rintro ⟨w, heq, hhttp⟩
        obtain rfl := Option.some_inj.mp heq
        obtain ⟨url, hparse, hisHttp⟩ := (hU.endpoint _).mpr ⟨uri, hcreate, hhttp⟩
        have hvalid := hv.url url hparse hisHttp
        rw [validateUrl] at hvalid
        split_ifs at hvalid
        rw [hparse] at hvalid
        have hcond := reject_eq_ok.mp hvalid
        simp only [Bool.or_eq_false_iff, bne_eq_false_iff_eq, Option.isSome_eq_false_iff,
          Option.isNone_iff_eq_none] at hcond
        obtain ⟨⟨⟨⟨-, huser⟩, hpassword⟩, hquery⟩, hfragment⟩ := hcond
        refine reject_eq_ok.mpr ?_
        rw [hU.userInfo _ _ _ hparse hcreate huser hpassword,
          hU.query _ _ _ hparse hcreate hquery, hU.fragment _ _ _ hparse hcreate hfragment]
        simp [hhttp, Sidecar.containsSecretQuery]

lemma requireEndpoint_ok_iff (hU : UrlsAgree parse urls) (hv : ValidServer parse server) :
    requireEndpoint urls (java server.endpoint) (java server.transport) = .ok () ↔
      EndpointFits parse server := by
  have htext := requireText_ok_iff "mcp_endpoint_required" 4096 hv.endpoint.control
  have hstdio : (java server.transport = java "stdio") ↔ server.transport = "stdio" := java_inj
  simp only [requireEndpoint, bind_eq_ok, exists_unit, htext, reject_eq_ok, hstdio]
  constructor
  · rintro ⟨hfits, hplain, hplace⟩
    refine ⟨hfits.1, hplain, ?_, ?_⟩
    · intro ht
      rw [if_pos ht] at hplace
      simpa using hplace
    · intro ht
      rw [if_neg (by rw [ht]; decide)] at hplace
      exact (validateEndpoint_ok_iff hU hv).mp hplace
  · intro hfits
    have hlength := hv.endpoint.length
    refine ⟨textFits_of_visible hfits.visible (by omega), hfits.plain, ?_⟩
    rcases hv.transport with ht | ht
    · rw [if_pos ht]
      simpa using hfits.stdio ht
    · rw [if_neg (by rw [ht]; decide)]
      exact (validateEndpoint_ok_iff hU hv).mpr (hfits.http ht)

lemma copyStrings_ok_iff (hv : ValidServer parse server) :
    copyStrings (server.args.map java) = .ok () ↔ ∀ arg ∈ server.args, ArgFits arg := by
  have hlength : decide ((server.args.map java).length > 64) = false := by
    simpa using hv.argsLength
  rw [copyStrings, hlength, reject_false, ok_bind, forM_eq_ok, List.forall_mem_map]
  refine forall₂_congr fun arg harg => ?_
  have hvalid := hv.args arg harg
  have hunits := (length_utf16Encode_le arg).trans hvalid.length
  have hshort : decide ((java arg).length > 4096) = false := by simpa [java] using hunits
  simp only [bind_eq_ok, exists_unit, reject_eq_ok, hshort, not_contains_zero hvalid.control,
    Bool.or_false, Bool.or_eq_false_iff]
  exact ⟨fun ⟨⟨hvisible, hmarker⟩, hplain⟩ => ⟨hvisible, hmarker, hplain⟩,
    fun h => ⟨⟨h.visible, h.marker⟩, h.plain⟩⟩

/-- The pairs of a map as Java strings. -/
def javaPairs (pairs : List (String × String)) : List (JavaString × JavaString) :=
  pairs.map fun pair => (java pair.1, java pair.2)

lemma copyMap_ok_iff {pairs : List (String × String)} (hlength : pairs.length ≤ 64)
    (hvalid : ∀ pair ∈ pairs, ValidPair pair) :
    copyMap (javaPairs pairs) = .ok () ↔ ∀ pair ∈ pairs, PairFits pair := by
  have hlength' : decide ((javaPairs pairs).length > 64) = false := by
    simpa [javaPairs] using hlength
  rw [copyMap, hlength', reject_false, ok_bind, forM_eq_ok, javaPairs, List.forall_mem_map]
  refine forall₂_congr fun pair hpair => ?_
  have hv := hvalid pair hpair
  have hkey : decide ((java pair.1).length > 128) = false := by
    simpa [java] using (length_utf16Encode_le pair.1).trans hv.length
  have hvalue : decide ((java pair.2).length > 4096) = false := by
    simpa [java] using (length_utf16Encode_le pair.2).trans hv.value.length
  simp only [reject_eq_ok, hkey, hvalue, not_contains_zero hv.value.control, Bool.or_false,
    Bool.or_eq_false_iff]
  exact ⟨fun ⟨⟨⟨hvisible, hkey⟩, hplain⟩, hmarker⟩ => ⟨hvisible, hkey, hmarker, hplain⟩,
    fun h => ⟨⟨⟨h.visible, h.key⟩, h.plain⟩, h.marker⟩⟩

/-- The definition that the sidecar reads for a server. -/
def definitionOf (server : McpServerSetting) (auth : Sidecar.McpAuth) :
    Sidecar.McpServerDefinition :=
  ⟨java server.mcpRevision, java server.name, java server.transport, java server.endpoint,
    java server.protocolVersion, server.args.map java, javaPairs server.env.val,
    javaPairs server.headers.val, javaPairs server.queryParams.val, auth, server.enabled⟩

lemma validateShape_definitionOf (hv : ValidServer parse server) {auth : Sidecar.McpAuth}
    {kind : McpAuthKind} {name : Option String} {reference : Option CredentialRef}
    (h : SentAuth server kind name reference) (hkind : auth.kind = java (authKindText kind)) :
    Sidecar.validateShape (definitionOf server auth) = .ok () := by
  rcases hv.transport with ht | ht
  · obtain ⟨hheaders, hquery⟩ := hv.stdio ht
    have hnot : kind ≠ .bearer ∧ kind ≠ .header := by
      constructor
      · intro hk
        have := (h.bearer hk).1
        simp [ht] at this
      · intro hk
        have := (h.header hk).1
        simp [ht] at this
    have htransport : (definitionOf server auth).transport = java "stdio" := congrArg java ht
    rw [Sidecar.validateShape, if_pos htransport, reject_eq_ok]
    cases kind with
    | bearer => exact absurd rfl hnot.1
    | header => exact absurd rfl hnot.2
    | none | env => simp [definitionOf, hheaders, hquery, javaPairs, hkind, authKindText]
  · obtain ⟨hargs, henv⟩ := hv.http ht
    have hnot : kind ≠ .env := by
      intro hk
      have := (h.env hk).1
      simp [ht] at this
    have htransport : ¬ (definitionOf server auth).transport = java "stdio" := by
      simp [definitionOf, ht]
    rw [Sidecar.validateShape, if_neg htransport, reject_eq_ok]
    cases kind with
    | env => exact absurd rfl hnot
    | none | bearer | header => simp [definitionOf, hargs, henv, javaPairs, hkind, authKindText]

/-- The constructor of the definition accepts a valid server when its texts fit. -/
lemma create_definitionOf_iff (hU : UrlsAgree parse urls) (hv : ValidServer parse server)
    {auth : Sidecar.McpAuth} {kind : McpAuthKind} {name : Option String}
    {reference : Option CredentialRef} (h : SentAuth server kind name reference)
    (hkind : auth.kind = java (authKindText kind)) :
    (∃ d, Sidecar.McpServerDefinition.create urls (definitionOf server auth) = .ok d) ↔
      tailFits "mcp_" server.mcpRevision = true ∧ TextFits 256 server.name ∧
        EndpointFits parse server ∧ (∀ arg ∈ server.args, ArgFits arg) ∧
        ∀ pair ∈ server.pairs, PairFits pair := by
  have hrevision := matchesHeadTail_reference ascii_mcp (isReference_of_isRevision hv.revision)
  have hname := requireText_ok_iff "mcp_name_required" 256 hv.name.control
  have hendpoint := requireEndpoint_ok_iff hU hv
  have hargs := copyStrings_ok_iff hv
  have hmember : ∀ pair, pair ∈ server.pairs ↔ pair ∈ server.env.val ∨
      pair ∈ server.headers.val ∨ pair ∈ server.queryParams.val := by
    intro pair
    simp [McpServerSetting.pairs]
  have henv := copyMap_ok_iff hv.mapLengths.1 fun pair hp => hv.pairs pair ((hmember _).mpr (.inl hp))
  have hheaders := copyMap_ok_iff hv.mapLengths.2.1
    fun pair hp => hv.pairs pair ((hmember _).mpr (.inr (.inl hp)))
  have hquery := copyMap_ok_iff hv.mapLengths.2.2
    fun pair hp => hv.pairs pair ((hmember _).mpr (.inr (.inr hp)))
  have htransport : (!((definitionOf server auth).transport = java "stdio" ||
      (definitionOf server auth).transport = java "streamable_http")) = false := by
    rcases hv.transport with ht | ht <;> simp [definitionOf, ht]
  have hversion : (!((definitionOf server auth).protocolVersion = java "2024-11-05" ||
      (definitionOf server auth).protocolVersion = java "2025-03-26" ||
      (definitionOf server auth).protocolVersion = java "2025-06-18")) = false := by
    have hmem := hv.protocolVersion
    simp only [protocolVersions, List.mem_cons, List.not_mem_nil, or_false] at hmem
    rcases hmem with hp | hp | hp <;> simp [definitionOf, hp]
  have hpairs : (∀ pair ∈ server.pairs, PairFits pair) ↔
      (∀ pair ∈ server.env.val, PairFits pair) ∧ (∀ pair ∈ server.headers.val, PairFits pair) ∧
        ∀ pair ∈ server.queryParams.val, PairFits pair := by
    simp only [hmember, or_imp, forall_and]
  simp only [Sidecar.McpServerDefinition.create, bind_eq_ok, exists_unit, reject_eq_ok, htransport,
    hversion, validateShape_definitionOf hv h hkind]
  simp only [definitionOf, hrevision, Bool.not_eq_false', hname, hendpoint, hargs, henv, hheaders,
    hquery, hpairs, true_and, exists_and_left]
  simp [pure, Except.pure]

end Definition

section ServerMembers

open Sidecar.McpWireMapper

variable {parse : UrlParser} {urls : JavaUrls} {server : McpServerSetting}

lemma serverNames (server : McpServerSetting) :
    ∀ m ∈ serverMembers server, m.1 ∈ ["mcpRevision", "name", "transport", "endpoint",
      "protocolVersion", "args", "env", "headers", "queryParams", "auth", "credentialRef",
      "enabled"] := by
  intro m hm
  simp only [serverMembers, List.mem_append, List.mem_cons, List.not_mem_nil, or_false] at hm
  rcases hm with (rfl | rfl | rfl | rfl | rfl | rfl) | hm | rfl
  · simp
  · simp
  · simp
  · simp
  · simp
  · simp
  · split_ifs at hm
    · rcases List.mem_append.mp hm with hm | hm
      · obtain ⟨v, -, rfl⟩ := mem_member? hm
        simp
      · obtain ⟨v, -, rfl⟩ := mem_member? hm
        simp
    · rcases List.mem_append.mp hm with hm | hm
      · obtain ⟨v, -, rfl⟩ := mem_member? hm
        simp
      · obtain ⟨v, -, rfl⟩ := mem_member? hm
        simp
  · simp

lemma nodup_serverMembers (server : McpServerSetting) :
    ((serverMembers server).map Prod.fst).Nodup := by
  have htwo : ∀ (k l : String) (o o' : Option Value), k ≠ l →
      k ∉ ["mcpRevision", "name", "transport", "endpoint", "protocolVersion", "enabled", "auth"] →
      l ∉ ["mcpRevision", "name", "transport", "endpoint", "protocolVersion", "enabled", "auth"] →
      (((["mcpRevision", "name", "transport", "endpoint", "protocolVersion", "enabled"] :
        List String) ++ (((member? k id o ++ member? l id o').map Prod.fst) ++ ["auth"]))).Nodup := by
    intro k l o o' hkl hk hl
    simp only [List.mem_cons, List.not_mem_nil, or_false, not_or] at hk hl
    cases o <;> cases o' <;> simp [member?, hkl, hk, hl, Ne.symm, eq_comm]
  simp only [serverMembers, List.map_append, List.map_cons, List.map_nil]
  split_ifs
  · simpa using htwo "args" "env" _ _ (by decide) (by decide) (by decide)
  · simpa using htwo "headers" "queryParams" _ _ (by decide) (by decide) (by decide)

lemma get_server (server : McpServerSetting) (key : String) :
    ObjectNode.get (java key) (toFields (SortedMap.ofList (serverMembers server))) =
      (SortedMap.get key (serverMembers server)).map toNode :=
  get_jsonObject (nodup_serverMembers server) key

/-- The lists and maps of a valid server are found when they are not empty, whatever its
transport: those of the other transport are empty. -/
lemma get_collections (hv : ValidServer parse server) :
    let fields := toFields (SortedMap.ofList (serverMembers server))
    ObjectNode.get (java "args") fields =
        (nonEmpty server.args (.array (server.args.map .string))).map toNode ∧
      ObjectNode.get (java "env") fields =
        (nonEmpty server.env.val (stringMapObject server.env)).map toNode ∧
      ObjectNode.get (java "headers") fields =
        (nonEmpty server.headers.val (stringMapObject server.headers)).map toNode ∧
      ObjectNode.get (java "queryParams") fields =
        (nonEmpty server.queryParams.val (stringMapObject server.queryParams)).map toNode := by
  intro fields
  simp only [fields, get_server]
  simp only [serverMembers, SortedMap.get_append]
  rcases hv.transport with ht | ht
  · obtain ⟨hheaders, hquery⟩ := hv.stdio ht
    simp only [if_pos ht, SortedMap.get_append, get_member?, hheaders, hquery]
    refine ⟨?_, ?_, ?_, ?_⟩
    · rw [get_member?_ne (by decide)]
      simp [SortedMap.get]
    · rw [get_member?_ne (by decide)]
      simp [SortedMap.get]
    · rw [get_member?_ne (by decide), get_member?_ne (by decide)]
      simp [SortedMap.get, nonEmpty]
    · rw [get_member?_ne (by decide), get_member?_ne (by decide)]
      simp [SortedMap.get, nonEmpty]
  · obtain ⟨hargs, henv⟩ := hv.http ht
    have hnot : ¬ server.transport = "stdio" := by simp [ht]
    simp only [if_neg hnot, SortedMap.get_append, get_member?, hargs, henv]
    refine ⟨?_, ?_, ?_, ?_⟩
    · rw [get_member?_ne (by decide), get_member?_ne (by decide)]
      simp [SortedMap.get, nonEmpty]
    · rw [get_member?_ne (by decide), get_member?_ne (by decide)]
      simp [SortedMap.get, nonEmpty]
    · rw [get_member?_ne (by decide)]
      simp [SortedMap.get]
    · rw [get_member?_ne (by decide)]
      simp [SortedMap.get]

lemma get_authentication (server : McpServerSetting) :
    let fields := toFields (SortedMap.ofList (serverMembers server))
    ObjectNode.get (java "auth") fields =
        some (.object (toFields (SortedMap.ofList (authMembers server)))) ∧
      ObjectNode.get (java "credentialRef") fields = none := by
  intro fields
  simp only [fields, get_server]
  simp only [serverMembers, SortedMap.get_append]
  split_ifs with ht
  · simp only [SortedMap.get_append]
    rw [get_member?_ne (by decide), get_member?_ne (by decide), get_member?_ne (by decide),
      get_member?_ne (by decide)]
    exact ⟨by simp [SortedMap.get, jsonObject, toNode], by simp [SortedMap.get]⟩
  · simp only [SortedMap.get_append]
    rw [get_member?_ne (by decide), get_member?_ne (by decide), get_member?_ne (by decide),
      get_member?_ne (by decide)]
    exact ⟨by simp [SortedMap.get, jsonObject, toNode], by simp [SortedMap.get]⟩

variable {parent : ObjectNode} {field : String}

lemma stringList_eq {values : List String} (hget : ObjectNode.get (java field) parent =
      (nonEmpty values (.array (values.map .string))).map toNode) :
    stringList parent field = .ok (values.map java) := by
  cases values with
  | nil => simp [stringList, hget, nonEmpty]
  | cons value values =>
    have htexts : ∀ l : List String, (l.map fun s => (Json.string (java s) : JsonNode)).mapM
        textValue = .ok (l.map java) := by
      intro l
      induction l with
      | nil => rfl
      | cons s l ih =>
        rw [List.map_cons, List.mapM_cons, ih]
        rfl
    simp only [stringList, hget, nonEmpty, List.isEmpty_cons, Bool.false_eq_true, if_false,
      Option.map_some, toNode_strings, htexts]

lemma stringMap_eq {m : StringMap}
    (hget : ObjectNode.get (java field) parent = (nonEmpty m.val (stringMapObject m)).map toNode) :
    stringMap parent field = .ok (javaPairs m.val) := by
  obtain ⟨pairs, hsorted⟩ := m
  have hordered : SortedMap.Sorted (pairs.map fun pair => (pair.1, (Json.string pair.2 : Value))) := by
    simpa [SortedMap.Sorted, List.map_map, Function.comp_def] using hsorted
  have htexts : ∀ l : List (String × String),
      (l.map fun pair => (java pair.1, (Json.string (java pair.2) : JsonNode))).mapM (fun entry => do
        let value ← textValue entry.2
        return (entry.1, value)) = .ok (javaPairs l) := by
    intro l
    induction l with
    | nil => rfl
    | cons pair l ih =>
      rw [List.map_cons, List.mapM_cons, ih]
      rfl
  cases pairs with
  | nil => simp [stringMap, hget, nonEmpty, javaPairs]
  | cons pair pairs =>
    simp only [stringMap, hget, nonEmpty, List.isEmpty_cons, Bool.false_eq_true, if_false,
      Option.map_some, stringMapObject, jsonObject, SortedMap.ofList_of_sorted hordered, toNode,
      toFields_eq_map, List.map_map, Function.comp_def, htexts]

lemma serverText_ok_iff {s : String} {v : JavaString}
    (hget : ObjectNode.get (java field) parent = some (.string (java s))) :
    requiredText parent field = .ok v ↔ java s = v ∧ Sidecar.isBlank (java s) = false := by
  simp only [requiredText, hget]
  cases Sidecar.isBlank (java s) <;> simp

/-- **The sidecar accepts the server** of a valid snapshot exactly when its texts, its endpoint, its
arguments, its pairs and its references fit. -/
theorem server_accepted_iff (hU : UrlsAgree parse urls) (hv : ValidServer parse server) :
    (∃ d, Sidecar.McpWireMapper.parse urls (toNode (mcpParams server)) = .ok d) ↔
      ServerFits parse server := by
  have hsent := sentAuth_valid hv
  rcases hauth : sentAuth server with ⟨kind, name, reference⟩
  rw [hauth] at hsent
  have hget := get_server server
  obtain ⟨hargs, henv, hheaders, hquery⟩ := get_collections hv
  obtain ⟨hauthNode, hlegacy⟩ := get_authentication server
  have henabled : booleanValue (toFields (SortedMap.ofList (serverMembers server))) "enabled" true =
      .ok server.enabled := by
    have hbool : ObjectNode.get (java "enabled") (toFields (SortedMap.ofList
      (serverMembers server))) = some (.bool server.enabled) := hget "enabled"
    rw [booleanValue, hbool]
  have hnames : rejectUnknownFields (toFields (SortedMap.ofList (serverMembers server)))
      serverFields = .ok () := rejectUnknownFields_ok (serverNames server)
  -- only the members of the transport are sent
  have hstdio : (java server.transport = java "stdio" &&
      (ObjectNode.has (java "headers") (toFields (SortedMap.ofList (serverMembers server))) ||
        ObjectNode.has (java "queryParams")
          (toFields (SortedMap.ofList (serverMembers server))))) = false := by
    by_cases ht : server.transport = "stdio"
    · obtain ⟨hno, hno'⟩ := hv.stdio ht
      simp [ObjectNode.has, hheaders, hquery, hno, hno', nonEmpty]
    · simp [ht]
  have hhttp : (java server.transport = java "streamable_http" &&
      (ObjectNode.has (java "args") (toFields (SortedMap.ofList (serverMembers server))) ||
        ObjectNode.has (java "env")
          (toFields (SortedMap.ofList (serverMembers server))))) = false := by
    by_cases ht : server.transport = "streamable_http"
    · obtain ⟨hno, hno'⟩ := hv.http ht
      simp [ObjectNode.has, hargs, henv, hno, hno', nonEmpty]
    · simp [ht]
  have hparseAuth := parseAuth_eq hauth hsent (java server.transport)
  have hcheck := checkAuth_ok_iff hsent
  simp only [toNode, mcpParams, jsonObject, Sidecar.McpWireMapper.parse, hnames, ok_bind,
    bind_ok_iff fun _ => serverText_ok_iff (hget "mcpRevision"),
    bind_ok_iff fun _ => serverText_ok_iff (hget "name"),
    bind_ok_iff fun _ => serverText_ok_iff (hget "transport"),
    bind_ok_iff fun _ => serverText_ok_iff (hget "endpoint"),
    bind_ok_iff fun _ => serverText_ok_iff (hget "protocolVersion"), stringList_eq hargs,
    stringMap_eq henv, stringMap_eq hheaders, stringMap_eq hquery, hstdio, hhttp, reject_false,
    optionalField, hlegacy, legacyCredentialRef, hauthNode, hparseAuth, henabled, bind_eq_ok,
    mapError_eq_ok, exists_and_left]
  constructor
  · rintro ⟨-, -, -, -, -, d, a, ha, hd⟩
    obtain ⟨hfitsRevision, hfitsName, hfitsEndpoint, hfitsArgs, hfitsPairs⟩ :=
      (create_definitionOf_iff hU hv hsent (kind_of_auth ha)).mp ⟨d, hd⟩
    exact ⟨hfitsRevision, hfitsName, hfitsEndpoint, hfitsArgs, hfitsPairs,
      hsent.credential ▸ hcheck.mp (auth_ok_iff.mp ⟨a, ha⟩)⟩
  · intro hfits
    obtain ⟨a, ha⟩ := auth_ok_iff.mpr (hcheck.mpr (hsent.credential ▸ hfits.credential))
    obtain ⟨d, hd⟩ := (create_definitionOf_iff hU hv hsent (kind_of_auth ha)).mpr
      ⟨hfits.revision, hfits.name, hfits.endpoint, hfits.args, hfits.pairs⟩
    refine ⟨?_, hfits.name.1, ?_, hfits.endpoint.visible, ?_, d, a, ha, hd⟩
    · have hmatch : Sidecar.matchesHeadTail "mcp_" (java server.mcpRevision) = true :=
        (matchesHeadTail_reference ascii_mcp (isReference_of_isRevision hv.revision)).trans
          hfits.revision
      exact not_blank_of_head (show java "mcp_" = 0x6D :: java "cp_" by decide) (by decide)
        (isPrefixOf_java hmatch)
    · rcases hv.transport with ht | ht <;> rw [ht] <;> decide
    · have hmem := hv.protocolVersion
      simp only [protocolVersions, List.mem_cons, List.not_mem_nil, or_false] at hmem
      rcases hmem with hp | hp | hp <;> rw [hp] <;> decide

end ServerMembers

/-! ## Snapshots -/

/-- A fresh sidecar takes the whole snapshot: the profile and every selected server. -/
def Replayable (urls : JavaUrls) (replay : RuntimeReplayConfig) : Prop :=
  (∃ saved, Sidecar.ProfileWireMapper.parse urls (toNode replay.profileParams) = .ok saved) ∧
    ∀ server ∈ replay.mcpServers,
      ∃ d, Sidecar.McpWireMapper.parse urls (toNode (mcpParams server)) = .ok d

/-- **Replaying valid settings**: the sidecar takes the snapshot of valid settings exactly when the
profile and every selected server have the texts and references that the sidecar wants. -/
theorem replayable_iff {parse : UrlParser} {urls : JavaUrls}
    {resolveRoot : String → Option String} {input : RuntimeConfigureInput}
    {replay : RuntimeReplayConfig} (hU : UrlsAgree parse urls)
    (h : RuntimeReplayConfig.fromInput parse resolveRoot input = .ok replay) :
    Replayable urls replay ↔
      ProfileFits replay ∧ ∀ server ∈ replay.mcpServers, ServerFits parse server := by
  have hv := validReplay_of_fromInput h
  rw [Replayable, profile_accepted_iff hU hv]
  refine and_congr_right fun _ => forall₂_congr fun server hs => ?_
  exact server_accepted_iff hU (hv.server server hs)

section Examples

/-- A base URL that both sides accept. -/
def apiUrl : String := "https://api.example.com/v1"

/-- Parsers that know this URL only. -/
def parseApiUrl : UrlParser := fun s =>
  if s = apiUrl then some ⟨"https", "", none, none, none⟩ else none

def javaApiUrl : JavaUrls where
  create s := if s = java apiUrl then
    some ⟨some (java "https"), some (java "api.example.com"), none, none, none⟩ else none
  validBaseUrl s := s == java apiUrl

lemma apiUrl_agrees : UrlsAgree parseApiUrl javaApiUrl where
  notBlank s url h := by
    rw [parseApiUrl] at h
    split_ifs at h with hs
    rw [hs]
    decide
  baseUrl s h := by
    have hs : s = apiUrl := by
      by_contra hne
      simp [validateUrl, parseApiUrl, hne] at h
    simp [javaApiUrl, hs]
  endpoint s := by
    simp only [parseApiUrl, javaApiUrl, java_inj]
    by_cases hs : s = apiUrl
    · simp only [hs, if_true, Option.some_inj, exists_eq_left']
      decide
    · simp [hs]
  userInfo s url uri _ h _ _ := by
    simp only [javaApiUrl] at h
    split_ifs at h
    rw [← Option.some_inj.mp h]
  query s url uri _ h _ := by
    simp only [javaApiUrl] at h
    split_ifs at h
    rw [← Option.some_inj.mp h]
  fragment s url uri _ h _ := by
    simp only [javaApiUrl] at h
    split_ifs at h
    rw [← Option.some_inj.mp h]

/-- A profile with a base URL, a credential and a skill, under a revision of the user. -/
def profileNamed (revision : String) : ProfileSetting where
  profileRevision := revision
  name := "Default"
  provider := "openai"
  protocol := .openAiChatCompletions
  model := "gpt-4o"
  baseUrl := some apiUrl
  credentialRef := some ⟨"cred_main", by decide⟩
  supportsVision := true
  accessMode := .workspace
  skillRevisions := ["skill_notes"]
  mcpRevisions := none

/-- A server that is started as a program. -/
def filesServer : McpServerSetting where
  mcpRevision := "mcp_files"
  name := "Files"
  transport := "stdio"
  endpoint := "npx"
  protocolVersion := "2025-06-18"
  args := ["-y"]
  env := ⟨[("LANG", "C")], by simp [SortedMap.Sorted]⟩
  headers := .empty
  queryParams := .empty
  auth := none
  credentialRef := none
  enabled := true

/-- A workspace is configured with this profile and this server. -/
def inputNamed (revision : String) : RuntimeConfigureInput where
  workspaceId := "ws_main"
  rootPath := "/home/work"
  displayName := none
  trust := "trusted"
  settings := { revision := 1, activeProfileRevision := some revision,
                profiles := [profileNamed revision], mcpServers := [filesServer] }

def replayNamed (revision : String) : RuntimeReplayConfig where
  workspaceId := "ws_main"
  rootPath := "/home/work"
  displayName := none
  trust := "trusted"
  profile := profileNamed revision
  skillRevisions := ["skill_notes"]
  mcpServers := [filesServer]

/-- These settings can be replayed. -/
theorem replayable_iff_default :
    RuntimeReplayConfig.fromInput parseApiUrl some (inputNamed "profile_default") =
      .ok (replayNamed "profile_default") ∧
    (Replayable javaApiUrl (replayNamed "profile_default") ↔
      ProfileFits (replayNamed "profile_default") ∧
        ∀ server ∈ (replayNamed "profile_default").mcpServers, ServerFits parseApiUrl server) ∧
    ProfileFits (replayNamed "profile_default") ∧ ServerFits parseApiUrl filesServer := by
  have hinput : RuntimeReplayConfig.fromInput parseApiUrl some (inputNamed "profile_default") =
      .ok (replayNamed "profile_default") := by decide +kernel
  refine ⟨hinput, replayable_iff apiUrl_agrees hinput, ?_, ?_⟩
  · exact {
      revision := by decide +kernel
      name := ⟨by decide +kernel, by decide +kernel⟩
      provider := Or.inl (by decide +kernel)
      model := ⟨by decide +kernel, by decide +kernel⟩
      credential := by
        intro r hr
        obtain rfl := Option.some_inj.mp hr
        decide +kernel
      skills := forall_mem_of_all (by decide +kernel)
      servers := forall_mem_of_all (by decide +kernel)
      distinct := by decide +kernel }
  · exact {
      revision := by decide +kernel
      name := ⟨by decide +kernel, by decide +kernel⟩
      endpoint := ⟨by decide +kernel, by decide +kernel, fun _ => by decide +kernel,
        fun ht => absurd ht (by decide)⟩
      args := by
        intro arg harg
        obtain rfl := List.mem_singleton.mp harg
        exact ⟨by decide +kernel, by decide +kernel, by decide +kernel⟩
      pairs := by
        intro pair hpair
        obtain rfl := List.mem_singleton.mp hpair
        exact ⟨by decide +kernel, by decide +kernel, by decide +kernel, by decide +kernel⟩
      credential := by simp [McpServerSetting.mcpCredential, filesServer] }

/-- A revision with a mark after its head is valid for the host and refused by the sidecar. -/
theorem not_replayable_dotted :
    ¬ ∀ (parse : UrlParser) (urls : JavaUrls) (resolveRoot : String → Option String)
        (input : RuntimeConfigureInput) (replay : RuntimeReplayConfig), UrlsAgree parse urls →
        RuntimeReplayConfig.fromInput parse resolveRoot input = .ok replay →
        Replayable urls replay := by
  intro hall
  have hinput : RuntimeReplayConfig.fromInput parseApiUrl some (inputNamed "profile_.dev") =
      .ok (replayNamed "profile_.dev") := by decide +kernel
  obtain ⟨⟨saved, hsaved⟩, -⟩ := hall _ _ _ _ _ apiUrl_agrees hinput
  have href : IsReference "profile_" "profile_.dev" := ⟨by decide +kernel, by decide +kernel⟩
  have hnot : Sidecar.matchesHeadTail "profile_" (java "profile_.dev") = false :=
    (matchesHeadTail_reference ascii_profile href).trans (by decide +kernel)
  obtain ⟨revision, hr, -⟩ := bind_eq_ok.mp hsaved
  obtain ⟨text, ht, hr⟩ := bind_eq_ok.mp hr
  obtain ⟨rfl, -⟩ := (requiredText_ok_iff
    (s := "profile_.dev") (get_profile (replayNamed "profile_.dev") "profileRevision")).mp ht
  simp [hnot] at hr

end Examples

end JaDesktop.Interop
