import JaDesktop.Settings.Replay

/-!
# What validation establishes

The facts behind a document that passed `SettingsDocument.validate`, as structures with a field for
each check, and behind a replay snapshot that `RuntimeReplayConfig.fromInput` built from it.
-/

namespace JaDesktop.Settings

open Host

/-! ## Texts -/

/-- What `validate_text` establishes. -/
structure ValidText (s : String) : Prop where
  nonempty : s ≠ ""
  length : (asBytes s).length ≤ 512
  control : ∀ c ∈ s.toList, isControl c = false

lemma validText_of_ok {s : String} (h : validateText s = .ok ()) : ValidText s := by
  have hcond := reject_eq_ok.mp h
  simp only [Bool.or_eq_false_iff, beq_eq_false_iff_ne, decide_eq_false_iff_not, gt_iff_lt, not_lt,
    List.any_eq_false, Bool.not_eq_true] at hcond
  exact ⟨hcond.1.1, hcond.1.2, hcond.2⟩

/-- What `validate_mcp_value` establishes. -/
structure ValidValue (s : String) : Prop where
  nonempty : s ≠ ""
  length : (asBytes s).length ≤ 4096
  control : ∀ c ∈ s.toList, isControl c = false
  plain : containsSensitiveText s = false

lemma validValue_of_ok {s : String} (h : validateMcpValue s = .ok ()) : ValidValue s := by
  have hcond := reject_eq_ok.mp h
  simp only [Bool.or_eq_false_iff, beq_eq_false_iff_ne, decide_eq_false_iff_not, gt_iff_lt, not_lt,
    List.any_eq_false, Bool.not_eq_true] at hcond
  exact ⟨hcond.1.1.1.1, hcond.1.1.1.2, hcond.1.2, hcond.2⟩

lemma isRevision_of_ok {value kind : String} (h : validateRevisionIdentifier value kind = .ok ()) :
    isRevision kind value = true := by
  simpa using reject_eq_ok.mp h

/-- What `validate_revision_list` establishes. -/
structure ValidRevisions (kind : String) (values : List String) : Prop where
  length : values.length ≤ 128
  revisions : ∀ value ∈ values, isRevision kind value = true
  distinct : values.Nodup

lemma validRevisions_of_ok {kind : String} {values : List String}
    (h : validateRevisionList values kind = .ok ()) : ValidRevisions kind values := by
  rw [validateRevisionList] at h
  split_ifs at h with hlength
  have hcond := reject_eq_ok.mp h
  simp only [Bool.not_eq_false', Bool.and_eq_true, List.all_eq_true, decide_eq_true_eq] at hcond
  exact ⟨by omega, hcond.1, hcond.2⟩

/-! ## Profiles and servers -/

/-- What the loop over the profiles establishes of one of them. -/
structure ValidProfile (parse : UrlParser) (servers : List McpServerSetting)
    (profile : ProfileSetting) : Prop where
  revision : isRevision "profile_" profile.profileRevision = true
  name : ValidText profile.name
  provider : ValidText profile.provider
  model : ValidText profile.model
  skills : ValidRevisions "skill_" profile.skillRevisions
  selected : ∀ revisions, profile.mcpRevisions = some revisions → ValidRevisions "mcp_" revisions
  protocol : profile.protocol ≠ .openAiResponses
  baseUrl : ∀ url, profile.baseUrl = some url → validateUrl parse url = .ok ()

variable {parse : UrlParser} {server : McpServerSetting}

lemma validProfile_of_ok {servers : List McpServerSetting} {profile : ProfileSetting}
    (h : validateProfile parse servers profile = .ok ()) :
    ValidProfile parse servers profile := by
  obtain ⟨_, hrevision, h⟩ := bind_eq_ok.mp h
  obtain ⟨_, hname, h⟩ := bind_eq_ok.mp h
  obtain ⟨_, hprovider, h⟩ := bind_eq_ok.mp h
  obtain ⟨_, hmodel, h⟩ := bind_eq_ok.mp h
  obtain ⟨_, hskills, h⟩ := bind_eq_ok.mp h
  obtain ⟨_, hselected, h⟩ := bind_eq_ok.mp h
  obtain ⟨_, hprotocol, h⟩ := bind_eq_ok.mp h
  obtain ⟨_, hbase, -⟩ := bind_eq_ok.mp h
  refine ⟨isRevision_of_ok hrevision, validText_of_ok hname, validText_of_ok hprovider,
    validText_of_ok hmodel, validRevisions_of_ok hskills, ?_, ?_, ?_⟩
  · intro revisions hrevisions
    obtain ⟨_, hlist, -⟩ := bind_eq_ok.mp (checkSome_eq_ok.mp hselected revisions hrevisions)
    exact validRevisions_of_ok hlist
  · simpa using reject_eq_ok.mp hprotocol
  · exact checkSome_eq_ok.mp hbase

/-- What `validate_mcp_shape` establishes of the authentication. -/
structure ValidAuth (server : McpServerSetting) (auth : McpAuthSetting) : Prop where
  alone : server.credentialRef = none
  bare : auth.kind = .none → auth.name = none ∧ auth.credentialRef = none
  env : auth.kind = .env → server.transport = "stdio" ∧ validEnvName auth.name = true
  bearer : auth.kind = .bearer → server.transport = "streamable_http" ∧ auth.name = none
  header : auth.kind = .header →
    server.transport = "streamable_http" ∧ validHeaderName auth.name = true
  reference : auth.kind ≠ .none → auth.credentialRef.isSome = true

lemma validAuth_of_ok {auth : McpAuthSetting} (h : validateMcpAuth server auth = .ok ()) :
    ValidAuth server auth := by
  obtain ⟨_, halone, h⟩ := bind_eq_ok.mp h
  obtain ⟨_, hkind, -⟩ := bind_eq_ok.mp h
  have hnone : server.credentialRef = none := by simpa using reject_eq_ok.mp halone
  unfold validateMcpAuthKind at hkind
  cases hauth : auth.kind with
  | none =>
    rw [hauth] at hkind
    have hcond := reject_eq_ok.mp hkind
    simp only [Bool.or_eq_false_iff, Option.isSome_eq_false_iff, Option.isNone_iff_eq_none] at hcond
    exact ⟨hnone, fun _ => hcond, by simp [hauth], by simp [hauth], by simp [hauth],
      by simp [hauth]⟩
  | env =>
    rw [hauth] at hkind
    have hcond := reject_eq_ok.mp hkind
    simp only [Bool.or_eq_false_iff, bne_eq_false_iff_eq, Bool.not_eq_false',
      Option.isNone_eq_false_iff] at hcond
    exact ⟨hnone, by simp [hauth], fun _ => hcond.1.1, by simp [hauth], by simp [hauth],
      fun _ => hcond.1.2⟩
  | bearer =>
    rw [hauth] at hkind
    have hcond := reject_eq_ok.mp hkind
    simp only [Bool.or_eq_false_iff, bne_eq_false_iff_eq, Option.isSome_eq_false_iff,
      Option.isNone_iff_eq_none, Option.isNone_eq_false_iff] at hcond
    exact ⟨hnone, by simp [hauth], by simp [hauth], fun _ => hcond.1.1, by simp [hauth],
      fun _ => hcond.1.2⟩
  | header =>
    rw [hauth] at hkind
    have hcond := reject_eq_ok.mp hkind
    simp only [Bool.or_eq_false_iff, bne_eq_false_iff_eq, Bool.not_eq_false',
      Option.isNone_eq_false_iff] at hcond
    exact ⟨hnone, by simp [hauth], by simp [hauth], by simp [hauth], fun _ => hcond.1.1,
      fun _ => hcond.1.2⟩

/-- What `validate_mcp_shape` establishes of a key and its value. -/
structure ValidPair (pair : String × String) : Prop where
  length : (asBytes pair.1).length ≤ 128
  value : ValidValue pair.2

/-- What the loop over the servers establishes of one of them. -/
structure ValidServer (parse : UrlParser) (server : McpServerSetting) : Prop where
  revision : isRevision "mcp_" server.mcpRevision = true
  name : ValidText server.name
  transport : server.transport = "stdio" ∨ server.transport = "streamable_http"
  endpoint : ValidText server.endpoint
  protocolVersion : server.protocolVersion ∈ protocolVersions
  url : ∀ url, parse server.endpoint = some url → url.isHttp = true →
    validateUrl parse server.endpoint = .ok ()
  argsLength : server.args.length ≤ 64
  mapLengths : server.env.val.length ≤ 64 ∧ server.headers.val.length ≤ 64 ∧
    server.queryParams.val.length ≤ 64
  args : ∀ arg ∈ server.args, ValidValue arg
  pairs : ∀ pair ∈ server.pairs, ValidPair pair
  stdio : server.transport = "stdio" → server.headers.val = [] ∧ server.queryParams.val = []
  http : server.transport = "streamable_http" → server.args = [] ∧ server.env.val = []
  auth : ∀ auth, server.auth = some auth → ValidAuth server auth

lemma validPair_of_ok {pair : String × String} (h : validateMcpPair pair = .ok ()) :
    ValidPair pair := by
  obtain ⟨_, hkey, hvalue⟩ := bind_eq_ok.mp h
  have hcond := reject_eq_ok.mp hkey
  simp only [Bool.or_eq_false_iff, decide_eq_false_iff_not, gt_iff_lt, not_lt] at hcond
  exact ⟨hcond.1.1.2, validValue_of_ok hvalue⟩

lemma validServer_of_ok (h : validateServer parse server = .ok ()) : ValidServer parse server := by
  obtain ⟨_, hrevision, h⟩ := bind_eq_ok.mp h
  obtain ⟨_, hname, h⟩ := bind_eq_ok.mp h
  obtain ⟨_, htransport, h⟩ := bind_eq_ok.mp h
  obtain ⟨_, hendpoint, h⟩ := bind_eq_ok.mp h
  obtain ⟨_, -, h⟩ := bind_eq_ok.mp h
  obtain ⟨_, hversion, h⟩ := bind_eq_ok.mp h
  obtain ⟨_, -, h⟩ := bind_eq_ok.mp h
  obtain ⟨_, hurl, h⟩ := bind_eq_ok.mp h
  obtain ⟨_, -, h⟩ := bind_eq_ok.mp h
  obtain ⟨_, hlengths, h⟩ := bind_eq_ok.mp h
  obtain ⟨_, hquery, h⟩ := bind_eq_ok.mp h
  obtain ⟨_, hargs, h⟩ := bind_eq_ok.mp h
  obtain ⟨_, hpairs, h⟩ := bind_eq_ok.mp h
  obtain ⟨_, hstdio, h⟩ := bind_eq_ok.mp h
  obtain ⟨_, hhttp, hauth⟩ := bind_eq_ok.mp h
  have hlengths' := reject_eq_ok.mp hlengths
  have hquery' := reject_eq_ok.mp hquery
  simp only [Bool.or_eq_false_iff, decide_eq_false_iff_not, gt_iff_lt, not_lt] at hlengths' hquery'
  refine ⟨isRevision_of_ok hrevision, validText_of_ok hname, ?_, validText_of_ok hendpoint, ?_, ?_,
    hlengths'.1.1, ⟨hlengths'.1.2, hlengths'.2, hquery'⟩,
    fun arg harg => validValue_of_ok (forM_eq_ok.mp hargs arg harg),
    fun pair hpair => validPair_of_ok (forM_eq_ok.mp hpairs pair hpair), ?_, ?_, ?_⟩
  · simpa [or_iff_not_imp_left] using reject_eq_ok.mp htransport
  · simpa using reject_eq_ok.mp hversion
  · intro url hparse hisHttp
    simpa [hisHttp] using checkSome_eq_ok.mp hurl url hparse
  · intro ht
    simpa [ht] using reject_eq_ok.mp hstdio
  · intro ht
    simpa [ht] using reject_eq_ok.mp hhttp
  · exact fun auth hsome => validAuth_of_ok (checkSome_eq_ok.mp hauth auth hsome)

/-! ## Documents and snapshots -/

/-- What `validate` establishes of a document. -/
structure ValidDocument (parse : UrlParser) (document : SettingsDocument) : Prop where
  servers : document.mcpServers.length ≤ 128
  profile : ∀ profile ∈ document.profiles, ValidProfile parse document.mcpServers profile
  server : ∀ server ∈ document.mcpServers, ValidServer parse server

lemma validDocument_of_ok {document : SettingsDocument} (h : document.validate parse = .ok ()) :
    ValidDocument parse document := by
  obtain ⟨_, -, h⟩ := bind_eq_ok.mp h
  obtain ⟨_, hlengths, h⟩ := bind_eq_ok.mp h
  obtain ⟨_, -, h⟩ := bind_eq_ok.mp h
  obtain ⟨_, hprofiles, h⟩ := bind_eq_ok.mp h
  obtain ⟨_, hservers, -⟩ := bind_eq_ok.mp h
  have hcond := reject_eq_ok.mp hlengths
  simp only [Bool.or_eq_false_iff, decide_eq_false_iff_not, gt_iff_lt, not_lt, maxMcpServers] at hcond
  exact ⟨hcond.2, fun profile hp => validProfile_of_ok (forM_eq_ok.mp hprofiles profile hp),
    fun server hs => validServer_of_ok (forM_eq_ok.mp hservers server hs)⟩

lemma mem_of_mem_selectServers {settings : SettingsDocument} {profile : ProfileSetting}
    (h : server ∈ selectServers settings profile) :
    server ∈ settings.mcpServers := by
  rw [selectServers] at h
  cases hselected : profile.mcpRevisions with
  | none =>
    rw [hselected] at h
    exact List.mem_of_mem_filter h
  | some revisions =>
    rw [hselected] at h
    obtain ⟨revision, -, hfind⟩ := List.mem_filterMap.mp h
    exact List.mem_of_mem_filter (List.mem_of_find?_eq_some hfind)

/-- A replay snapshot of valid settings. -/
structure ValidReplay (parse : UrlParser) (replay : RuntimeReplayConfig) : Prop where
  profile : ∃ servers, ValidProfile parse servers replay.profile
  skills : replay.skillRevisions = replay.profile.skillRevisions
  server : ∀ server ∈ replay.mcpServers, ValidServer parse server
  length : replay.mcpServers.length ≤ 128

lemma validReplay_of_fromInput {resolveRoot : String → Option String}
    {input : RuntimeConfigureInput} {replay : RuntimeReplayConfig}
    (h : RuntimeReplayConfig.fromInput parse resolveRoot input = .ok replay) :
    ValidReplay parse replay := by
  obtain ⟨_, hvalid, h⟩ := bind_eq_ok.mp h
  obtain ⟨_, -, h⟩ := bind_eq_ok.mp h
  obtain ⟨root, -, h⟩ := bind_eq_ok.mp h
  obtain ⟨active, -, h⟩ := bind_eq_ok.mp h
  obtain ⟨profile, hprofile, h⟩ := bind_eq_ok.mp h
  obtain ⟨_, -, h⟩ := bind_eq_ok.mp h
  obtain rfl := Except.ok.inj h
  have hdocument : ValidDocument parse input.settings :=
    validDocument_of_ok (mapError_eq_ok.mp hvalid)
  have hmem : profile ∈ input.settings.profiles := by
    cases hfind : input.settings.profiles.find? fun profile => profile.profileRevision == active with
    | none => simp [hfind] at hprofile
    | some found =>
      rw [hfind] at hprofile
      obtain rfl := Except.ok.inj hprofile
      exact List.mem_of_find?_eq_some hfind
  refine ⟨⟨_, hdocument.profile profile hmem⟩, rfl,
    fun server hs => hdocument.server server (mem_of_mem_selectServers hs), ?_⟩
  show (selectServers input.settings profile).length ≤ 128
  rw [selectServers]
  cases hselected : profile.mcpRevisions with
  | none => exact (List.length_filter_le _ _).trans hdocument.servers
  | some revisions =>
    exact (List.length_filterMap_le _ _).trans
      ((hdocument.profile profile hmem).selected revisions hselected).length

end JaDesktop.Settings
