import JaDesktop.Settings.Store

/-!
# What a saved document is read back as

The writer checks a document with `validate`, the reader with the checks of `parse_document`.  A
document that is saved is small enough and not too deep for the reader, and the reader rebuilds it
exactly; the one check that a saved document can fail is the deny-list of keys, which the writer
applies to the maps of a server in another form.  A saved document is loaded back from the primary
file exactly when none of those keys is refused.
-/

namespace JaDesktop.Settings

open Host

/-! ## The form of a written document -/

/-- A value as the store writes it: distinct keys, integers only, and at most `n` levels deep. -/
structure Written (n : ℕ) (v : Value) : Prop where
  keys : v.EachObject List.Nodup
  ints : v.EachNumber Number.IsInt
  depth : v.depth ≤ n

namespace Written

variable {n : ℕ}

lemma null : Written n .null := ⟨.null, .null, Nat.zero_le n⟩

lemma bool (b : Bool) : Written n (.bool b) := ⟨.bool b, .bool b, Nat.zero_le n⟩

lemma string (s : String) : Written n (.string s) := ⟨.string s, .string s, Nat.zero_le n⟩

lemma u32 (k : UInt32) : Written n (u32Value k) := ⟨.number _, .number trivial, Nat.zero_le n⟩

lemma u64 (k : UInt64) : Written n (u64Value k) := ⟨.number _, .number trivial, Nat.zero_le n⟩

lemma optional {α : Type} {toValue : α → Value} (h : ∀ a, Written n (toValue a)) :
    ∀ a, Written n (optional toValue a)
  | some a => h a
  | none => null

lemma array {items : List Value} (h : ∀ c ∈ items, Written n c) : Written (n + 1) (.array items) where
  keys := .array fun c hc => (h c hc).keys
  ints := .array fun c hc => (h c hc).ints
  depth := Nat.add_le_add_right (Json.depthItems_le.mpr fun c hc => (h c hc).depth) 1

lemma list {α : Type} {toValue : α → Value} (h : ∀ a, Written n (toValue a)) (l : List α) :
    Written (n + 1) (.array (l.map toValue)) :=
  array (List.forall_mem_map.mpr fun a _ => h a)

lemma object {members : Map} (hkeys : (members.map Prod.fst).Nodup)
    (h : ∀ m ∈ members, Written n m.2) : Written (n + 1) (.object members) where
  keys := .object hkeys fun m hm => (h m hm).keys
  ints := .object fun m hm => (h m hm).ints
  depth := Nat.add_le_add_right (Json.depthMembers_le.mpr fun m hm => (h m hm).depth) 1

lemma reference (r : Option CredentialRef) : Written n (referenceValue r) :=
  optional (fun _ => string _) r

lemma strings (l : List String) : Written (n + 1) (stringsValue l) := list string l

lemma stringMap (m : StringMap) : Written (n + 1) m.toValue := by
  refine object ?_ (List.forall_mem_map.mpr fun _ _ => string _)
  rw [List.map_map]
  exact m.2.nodup

lemma auth (a : McpAuthSetting) : Written 1 a.toValue := by
  refine object (by simp) ?_
  simp [string, optional string, reference]

lemma profile (p : ProfileSetting) : Written 2 p.toValue := by
  refine object (by simp) ?_
  simp [string, bool, optional string, reference, strings, optional strings]

lemma server (s : McpServerSetting) : Written 2 s.toValue := by
  refine object (by simp) ?_
  simp [string, bool, strings, stringMap, reference, optional auth]

lemma document (d : SettingsDocument) : Written 4 d.toValue := by
  have hwindow : Written 3 d.window.toValue := by
    refine object (by simp) ?_
    simp [u32, bool]
  refine object (by simp) ?_
  simp [u32, u64, string, optional string, list profile, list server, hwindow]

end Written

lemma jsonDepth_le (v : Value) (current : ℕ) : jsonDepth current v ≤ current + v.depth := by
  induction v using Json.ind generalizing current with
  | null | bool | number | string => exact le_rfl
  | array items ih =>
    simp only [jsonDepth, Json.depth]
    induction items with
    | nil => simp [jsonDepthItems]
    | cons c items ihi =>
      have hc := ih c (by simp) (current + 1)
      have hrest := ihi fun d hd => ih d (by simp [hd])
      simp only [jsonDepthItems, Json.depthItems]
      omega
  | object members ih =>
    simp only [jsonDepth, Json.depth]
    induction members with
    | nil => simp [jsonDepthMembers]
    | cons m members ihm =>
      have hm := ih m (by simp) (current + 1)
      have hrest := ihm fun d hd => ih d (by simp [hd])
      simp only [jsonDepthMembers, Json.depthMembers]
      omega

/-! ## The keys of a written document -/

/-- The keys that a user chooses: those of the maps of a server. -/
def SettingsDocument.chosenKeys (document : SettingsDocument) : List String :=
  document.mcpServers.flatMap fun server => server.pairs.map Prod.fst

/-- No key that a user has chosen is refused by the reader. -/
def SettingsDocument.ReadableKeys (document : SettingsDocument) : Prop :=
  ∀ key ∈ document.chosenKeys, isRefusedKey key = false

/-- Does a value have a refused key? -/
def hasRefusedKey (value : Value) : Bool := value.anyMark isRefusedKey fun _ => false

/-- The names of the fields of the document and its parts. -/
def fieldNames : List String := ["kind", "name", "credentialRef", "profileRevision", "provider",
  "protocol", "model", "baseUrl", "supportsVision", "accessMode", "skillRevisions", "mcpRevisions",
  "mcpRevision", "transport", "endpoint", "protocolVersion", "args", "env", "headers",
  "queryParams", "auth", "enabled", "width", "height", "maximized", "schemaVersion", "revision",
  "theme", "activeProfileRevision", "profiles", "mcpServers", "window"]

lemma fieldNames_not_refused : ∀ key ∈ fieldNames, isRefusedKey key = false :=
  forall_mem_of_all (by decide +kernel)

lemma hasRefusedKey_object (members : Map) : hasRefusedKey (.object members) =
    members.any fun m => isRefusedKey m.1 || hasRefusedKey m.2 := by
  have h : Json.anyMarkMembers isRefusedKey (fun _ => false) (members.map id) =
      members.any fun m => isRefusedKey m.1 || hasRefusedKey m.2 := Json.anyMarkMembers_map id members
  rwa [List.map_id] at h

lemma hasRefusedKey_list {α : Type} (toValue : α → Value) (l : List α) :
    hasRefusedKey (.array (l.map toValue)) = l.any fun a => hasRefusedKey (toValue a) :=
  Json.anyMarkItems_map toValue l

/-- An object under the names of fields has the refused keys of its members. -/
lemma hasRefusedKey_struct {members : Map} (h : ∀ m ∈ members, m.1 ∈ fieldNames) :
    hasRefusedKey (.object members) = members.any fun m => hasRefusedKey m.2 := by
  rw [hasRefusedKey_object, Bool.eq_iff_iff, List.any_eq_true, List.any_eq_true]
  refine exists_congr fun m => and_congr_right fun hm => ?_
  rw [fieldNames_not_refused m.1 (h m hm), Bool.false_or]

lemma hasRefusedKey_string (s : String) : hasRefusedKey (.string s) = false := rfl

lemma hasRefusedKey_optional {α : Type} {toValue : α → Value}
    (h : ∀ a, hasRefusedKey (toValue a) = false) :
    ∀ a, hasRefusedKey (optional toValue a) = false
  | some a => h a
  | none => rfl

lemma hasRefusedKey_reference (r : Option CredentialRef) :
    hasRefusedKey (referenceValue r) = false :=
  hasRefusedKey_optional (fun _ => rfl) r

lemma hasRefusedKey_strings (l : List String) : hasRefusedKey (stringsValue l) = false := by
  rw [stringsValue, hasRefusedKey_list]
  simp [hasRefusedKey_string]

lemma hasRefusedKey_stringMap (m : StringMap) :
    hasRefusedKey m.toValue = m.val.any fun pair => isRefusedKey pair.1 := by
  rw [StringMap.toValue, hasRefusedKey_object, List.any_map]
  simp [Function.comp_def, hasRefusedKey_string]

lemma hasRefusedKey_auth (a : McpAuthSetting) : hasRefusedKey a.toValue = false := by
  rw [McpAuthSetting.toValue, hasRefusedKey_struct (by simp [fieldNames])]
  simp [hasRefusedKey_string, hasRefusedKey_optional hasRefusedKey_string, hasRefusedKey_reference]

lemma hasRefusedKey_profile (p : ProfileSetting) : hasRefusedKey p.toValue = false := by
  rw [ProfileSetting.toValue, hasRefusedKey_struct (by simp [fieldNames])]
  simp [hasRefusedKey_string, hasRefusedKey_optional hasRefusedKey_string, hasRefusedKey_reference,
    hasRefusedKey_strings, hasRefusedKey_optional hasRefusedKey_strings,
    show ∀ b, hasRefusedKey (.bool b) = false from fun _ => rfl]

lemma hasRefusedKey_server (s : McpServerSetting) :
    hasRefusedKey s.toValue = s.pairs.any fun pair => isRefusedKey pair.1 := by
  rw [McpServerSetting.toValue, hasRefusedKey_struct (by simp [fieldNames])]
  simp [hasRefusedKey_string, hasRefusedKey_strings, hasRefusedKey_reference,
    hasRefusedKey_optional hasRefusedKey_auth, hasRefusedKey_stringMap, McpServerSetting.pairs,
    List.any_append, show ∀ b, hasRefusedKey (.bool b) = false from fun _ => rfl]

/-- The refused keys of a written document are among those that the user has chosen. -/
theorem hasRefusedKey_document (d : SettingsDocument) :
    hasRefusedKey d.toValue = false ↔ d.ReadableKeys := by
  have hwindow : hasRefusedKey d.window.toValue = false := by
    rw [WindowSettings.toValue, hasRefusedKey_struct (by simp [fieldNames])]
    rfl
  have hdocument : hasRefusedKey d.toValue =
      d.mcpServers.any fun s => s.pairs.any fun pair => isRefusedKey pair.1 := by
    rw [SettingsDocument.toValue, hasRefusedKey_struct (by simp [fieldNames])]
    have hschema : hasRefusedKey (u32Value d.schemaVersion) = false := rfl
    have hrevision : hasRefusedKey (u64Value d.revision) = false := rfl
    simp [hwindow, hschema, hrevision, hasRefusedKey_string, hasRefusedKey_list,
      hasRefusedKey_optional hasRefusedKey_string, hasRefusedKey_profile, hasRefusedKey_server]
  rw [hdocument, SettingsDocument.ReadableKeys, SettingsDocument.chosenKeys]
  simp only [List.any_eq_false, List.any_eq_true, List.mem_flatMap, List.mem_map, not_exists,
    not_and, Bool.not_eq_true]
  constructor
  · rintro h key ⟨s, hs, pair, hpair, rfl⟩
    exact h s hs pair hpair
  · intro h s hs pair hpair
    exact h pair.1 ⟨s, hs, pair, hpair, rfl⟩

/-! ## Reading what was written -/

section Reading

variable {S : SettingsSerde} {parse : UrlParser} {d : SettingsDocument}

lemma schemaVersion_written (d : SettingsDocument) :
    (Value.get "schemaVersion" d.toValue.sort).bind Value.asU64 = some d.schemaVersion.toNat := by
  have hkeys : ((Json.sortMembers [("schemaVersion", u32Value d.schemaVersion),
      ("revision", u64Value d.revision), ("theme", Json.string d.theme.name),
      ("activeProfileRevision", optional .string d.activeProfileRevision),
      ("profiles", .array (d.profiles.map ProfileSetting.toValue)),
      ("mcpServers", .array (d.mcpServers.map McpServerSetting.toValue)),
      ("window", d.window.toValue)]).map Prod.fst).Nodup := by
    rw [Json.keys_sortMembers]
    simp
  rw [SettingsDocument.toValue, Json.sort, Value.get_object, SortedMap.get_ofList hkeys,
    Json.get_sortMembers]
  simp [SortedMap.get, u32Value, Json.sort, Value.asU64]

/-- **Reading a written document**: its keys decide, and nothing but the document comes back. -/
theorem parseDocument_written (hS : S.Faithful) (hschema : d.schemaVersion = settingsSchemaVersion)
    (hlength : (S.toVecPretty d.toValue).length ≤ maxSettingsBytes) :
    parseDocument S parse (S.toVecPretty d.toValue) =
      if hasRefusedKey d.toValue then .error .secretField else .ok (d, false) := by
  have hw := Written.document d
  have hvalue : S.fromSlice (S.toVecPretty d.toValue) = some d.toValue.sort :=
    hS.roundTrip _ hw.keys (by have := hw.depth; omega) hw.ints
  have hdepth : jsonDepth 0 d.toValue.sort ≤ maxJsonDepth := by
    have hbound := jsonDepth_le d.toValue.sort 0
    have hsort := Json.depth_sort_le d.toValue
    have hfour := hw.depth
    simp only [maxJsonDepth]
    omega
  have hmarks : d.toValue.sort.anyMark isRefusedKey (fun _ => false) = hasRefusedKey d.toValue :=
    Json.anyMark_sort hw.keys
  have hsmall : decide ((S.toVecPretty d.toValue).length > maxSettingsBytes) = false := by
    simpa using hlength
  have hshallow : decide (jsonDepth 0 d.toValue.sort > maxJsonDepth) = false := by
    simpa using hdepth
  have hread : fromValueOr SettingsDocument.fromValue d.toValue.sort = .ok d := by
    rw [fromValueOr, SettingsDocument.reads d]
  simp only [parseDocument, hsmall, reject_false, ok_bind, hvalue, hshallow, rejectSensitiveKeys,
    hmarks, schemaVersion_written, hschema, Option.getD_some, if_true, hread]
  cases hasRefusedKey d.toValue <;> rfl

lemma loadFile_written (hS : S.Faithful) (hschema : d.schemaVersion = settingsSchemaVersion)
    (hlength : (S.toVecPretty d.toValue).length ≤ maxSettingsBytes) :
    loadFile S parse (.file (S.toVecPretty d.toValue)) =
      if hasRefusedKey d.toValue then .error .secretField
      else .ok (d, false, S.toVecPretty d.toValue) := by
  have hsmall : ¬ (S.toVecPretty d.toValue).length > maxSettingsBytes := by omega
  rw [loadFile, readBounded, if_neg hsmall, ok_bind, parseDocument_written hS hschema hlength]
  cases hasRefusedKey d.toValue <;> rfl

end Reading

/-! ## What a write leaves behind -/

section Writing

variable {S : SettingsSerde} {parse : UrlParser} {io : Answers} {files files' : Files}
  {d : SettingsDocument}

/-- A document was saved: `save` or `compare_and_save` answered without an error. -/
def Saved (S : SettingsSerde) (parse : UrlParser) (io : Answers) (files : Files)
    (document : SettingsDocument) (files' : Files) : Prop :=
  save S parse io files document = (.ok (), files') ∨
    ∃ expected answer, compareAndSave S parse io files expected document = (.ok answer, files')

/-- A write that succeeds has replaced the primary file, within the size limit of the reader. -/
lemma persist_ok {backupCurrent : Bool}
    (h : persistDocumentLocked S io files d backupCurrent = (.ok (), files')) :
    files'.primary = .file (S.toVecPretty d.toValue) ∧
      (S.toVecPretty d.toValue).length ≤ maxSettingsBytes := by
  unfold persistDocumentLocked at h
  by_cases hlarge : (S.toVecPretty d.toValue).length > maxSettingsBytes
  · rw [if_pos hlarge] at h
    simp at h
  · rw [if_neg hlarge] at h
    -- how the copy of the old primary went does not matter, only that it did not fail
    generalize (if backupCurrent && files.primary.exists then
      atomicCopy io.backup files.primary files.backup else (.ok (), files.backup)) = copied at h
    obtain ⟨outcome, backup⟩ := copied
    cases outcome with
    | error e => simp at h
    | ok u =>
      obtain ⟨hreplaced, rfl⟩ := Prod.mk.inj h
      cases hio : io.primary with
      | done => exact ⟨by simp [atomicReplace], by omega⟩
      | failed left => simp [hio, atomicReplace] at hreplaced

/-- A saved document has passed `validate` and stands in the primary file. -/
lemma Saved.primary (h : Saved S parse io files d files') :
    d.validate parse = .ok () ∧ files'.primary = .file (S.toVecPretty d.toValue) ∧
      (S.toVecPretty d.toValue).length ≤ maxSettingsBytes := by
  rcases h with h | ⟨expected, answer, h⟩
  · simp only [save] at h
    split at h
    · simp at h
    · rename_i hvalid
      split at h
      · simp at h
      · exact ⟨mapError_eq_ok.mp hvalid, persist_ok h⟩
  · simp only [compareAndSave] at h
    split at h
    · simp at h
    · split at h
      · simp at h
      · split_ifs at h
        · simp at h
        · split at h
          · simp at h
          · rename_i hvalid
            obtain ⟨hok, hfiles⟩ := Prod.mk.inj h
            obtain ⟨u, hu, -⟩ := map_eq_ok.mp hok
            exact ⟨mapError_eq_ok.mp hvalid, persist_ok (Prod.ext hu hfiles)⟩

lemma schemaVersion_of_validate (h : d.validate parse = .ok ()) :
    d.schemaVersion = settingsSchemaVersion := by
  obtain ⟨_, hschema, -⟩ := bind_eq_ok.mp h
  simpa using reject_eq_ok.mp hschema

/-- What follows a save: the primary file is read back when its keys are accepted, and is refused
otherwise. -/
lemma Saved.loadFile (hS : S.Faithful) (h : Saved S parse io files d files') :
    loadFile S parse files'.primary =
      if hasRefusedKey d.toValue then .error .secretField
      else .ok (d, false, S.toVecPretty d.toValue) := by
  obtain ⟨hvalid, hprimary, hlength⟩ := h.primary
  rw [hprimary]
  exact loadFile_written hS (schemaVersion_of_validate hvalid) hlength

/-- A document with an accepted set of keys comes back from the primary file. -/
lemma Saved.load_of_readable (hS : S.Faithful) (h : Saved S parse io files d files')
    (hkeys : d.ReadableKeys) (io' : Answers) :
    load S parse io' files' = (.ok ⟨d, .primary, false, false⟩, files') := by
  have hfile := h.loadFile hS
  rw [(hasRefusedKey_document d).mpr hkeys] at hfile
  rw [load, hfile]
  rfl

/-- Any other document does not: whatever `load` answers, it is not from the primary file. -/
lemma Saved.load_of_not_readable (hS : S.Faithful) (h : Saved S parse io files d files')
    (hkeys : ¬ d.ReadableKeys) (io' : Answers) {loaded : LoadedSettings}
    (hload : (load S parse io' files').1 = .ok loaded) : loaded.source ≠ .primary := by
  have hrefused : hasRefusedKey d.toValue = true := by
    rw [← Bool.not_eq_false, hasRefusedKey_document]
    exact hkeys
  have hfile := h.loadFile hS
  rw [hrefused, if_pos rfl] at hfile
  simp only [load, hfile] at hload
  split at hload
  · obtain ⟨u, -, rfl⟩ := map_eq_ok.mp hload
    simp
  · split_ifs at hload
    · cases hload
      simp

/-- **When a saved document comes back.**  After a successful save the next load answers from the
primary file, without recovery and with exactly the saved document, if and only if the reader
refuses none of the keys that the user chose for the maps of a server. -/
theorem load_saved_iff (hS : S.Faithful) (h : Saved S parse io files d files') (io' : Answers) :
    (∃ loaded, (load S parse io' files').1 = .ok loaded ∧ loaded.source = .primary ∧
      loaded.recovered = false ∧ loaded.document = d) ↔ d.ReadableKeys := by
  constructor
  · rintro ⟨loaded, hload, hsource, -, -⟩
    by_contra hkeys
    exact h.load_of_not_readable hS hkeys io' hload hsource
  · intro hkeys
    exact ⟨_, by rw [h.load_of_readable hS hkeys io'], rfl, rfl, rfl⟩

end Writing

/-! ## A key that only the reader refuses -/

/-- A server whose environment has a variable with the given name. -/
def serverWithVariable (key : String) : McpServerSetting where
  mcpRevision := "mcp_files"
  name := "files"
  transport := "stdio"
  endpoint := "node"
  protocolVersion := "2025-06-18"
  args := []
  env := ⟨[(key, "on")], by simp [SortedMap.Sorted]⟩
  headers := .empty
  queryParams := .empty
  auth := none
  credentialRef := none
  enabled := true

/-- The first settings of a user, with such a server. -/
def settingsWithVariable (key : String) : SettingsDocument :=
  { revision := 1, mcpServers := [serverWithVariable key] }

/-- An empty settings directory. -/
def emptyFiles : Files := { primary := .absent, backup := .absent }

/-- The directory after the first save of these settings. -/
def filesWithVariable (key : String) : Files :=
  (save prettySerde (fun _ => none) {} emptyFiles (settingsWithVariable key)).2

/-- The first save of settings that pass `validate` succeeds. -/
lemma saved_settingsWithVariable (key : String)
    (hvalid : (settingsWithVariable key).validate (fun _ => none) = .ok ())
    (hlength : ((JsonText.renderPretty 0 ((settingsWithVariable key).toValue.mapNumbers
      Number.toInt)).flatMap String.utf8EncodeChar).length ≤ maxSettingsBytes) :
    Saved prettySerde (fun _ => none) {} emptyFiles (settingsWithVariable key)
      (filesWithVariable key) := by
  refine Or.inl (Prod.ext ?_ rfl)
  have hrevision : checkRevision prettySerde (fun _ => none) emptyFiles
      (settingsWithVariable key) = .ok () := rfl
  have hsmall : ¬ (prettySerde.toVecPretty (settingsWithVariable key).toValue).length >
      maxSettingsBytes := by
    show ¬ (asBytes (String.ofList _)).length > maxSettingsBytes
    rw [asBytes_eq_flatMap, String.toList_ofList]
    omega
  rw [save, hvalid]
  simp only [Except.mapError, hrevision, persistDocumentLocked, if_neg hsmall]
  rfl

/-- The language of a server is read back. -/
theorem load_saved_iff_lang :
    Saved prettySerde (fun _ => none) {} emptyFiles (settingsWithVariable "LANG")
      (filesWithVariable "LANG") ∧
    ((∃ loaded, (load prettySerde (fun _ => none) {} (filesWithVariable "LANG")).1 = .ok loaded ∧
      loaded.source = .primary ∧ loaded.recovered = false ∧
      loaded.document = settingsWithVariable "LANG") ↔
        (settingsWithVariable "LANG").ReadableKeys) ∧
    (settingsWithVariable "LANG").ReadableKeys := by
  have hsaved := saved_settingsWithVariable "LANG" (by decide +kernel) (by decide +kernel)
  exact ⟨hsaved, load_saved_iff prettySerde_faithful hsaved {}, forall_mem_of_all (by decide +kernel)⟩

/-- `validate` accepts a variable `PRIVATE_KEY`; the reader then refuses the whole document. -/
theorem not_load_every_saved :
    ¬ ∀ (S : SettingsSerde) (parse : UrlParser) (io io' : Answers) (files files' : Files)
      (d : SettingsDocument), S.Faithful → Saved S parse io files d files' →
      ∃ loaded, (load S parse io' files').1 = .ok loaded ∧ loaded.source = .primary ∧
        loaded.recovered = false ∧ loaded.document = d := by
  intro h
  have hsaved := saved_settingsWithVariable "PRIVATE_KEY" (by decide +kernel) (by decide +kernel)
  obtain ⟨loaded, hload, hsource, -⟩ :=
    h prettySerde (fun _ => none) {} {} emptyFiles _ _ prettySerde_faithful hsaved
  have hkeys : ¬ (settingsWithVariable "PRIVATE_KEY").ReadableKeys := by
    intro hkeys
    have hkey := hkeys "PRIVATE_KEY" (by decide)
    exact absurd hkey (by decide +kernel)
  exact hsaved.load_of_not_readable prettySerde_faithful hkeys {} hload hsource

end JaDesktop.Settings
