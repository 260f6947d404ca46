import JaDesktop.Interop.Wire

/-!
# Error responses across the wire

The sidecar builds an error response from a constant of `JaErrorCode`; the host reads it with
its own catalogue and its own policy for messages.  The two catalogues agree on every constant,
and the host accepts the response of every constant but two: the public messages of
`SECRET_NOT_FOUND` and `SECRET_ACCESS_DENIED` contain the word that the host's scanner takes for
the label of a credential.
-/

namespace JaDesktop.Interop

open Host (Number Value Map I64)
open Sidecar (JaErrorCode JavaNumber JsonNode ObjectNode java)

/-! ## The tables -/

lemma wireCode_range (c : JaErrorCode) : -32768 ≤ c.wireCode ∧ c.wireCode ≤ -32000 := by
  cases c <;> decide

/-- The wire code of a constant, as the host holds it. -/
def hostCode (c : JaErrorCode) : I64 :=
  ⟨c.wireCode, by have := wireCode_range c; omega, by have := wireCode_range c; omega⟩

/-- **The two catalogues agree**: every constant has its row in the host's table. -/
theorem catalogEntry_isSome (c : JaErrorCode) :
    (Host.catalogEntry c.wireCode c.name c.retryable).isSome = true ∧
      Host.validJaCode c.name = true ∧ Host.isTokenShaped c.name = false := by
  have htable : JaErrorCode.values.all (fun c =>
      (Host.catalogEntry c.wireCode c.name c.retryable).isSome && Host.validJaCode c.name &&
        !Host.isTokenShaped c.name) = true := by
    decide +kernel
  have h := JaErrorCode.of_values htable c
  simp only [Bool.and_eq_true, Bool.not_eq_true'] at h
  exact ⟨h.1.1, h.1.2, h.2⟩

/-- The public messages are plain words, and two of them hold the label of a credential. -/
lemma publicMessage_words (c : JaErrorCode) :
    (∀ b ∈ asBytes c.publicMessage, Host.isWordByte b = true) ∧
    (∃ b ∈ asBytes c.publicMessage, isAsciiAlphabetic b = true) ∧
    (∃ b ∈ asBytes c.publicMessage, isAsciiHexdigit b = false) ∧
    (asBytes c.publicMessage).length ≤ 512 ∧ Host.hasHexRun (asBytes c.publicMessage) = false ∧
    (Host.hasSecretMarker (asBytes c.publicMessage) = true ↔
      c = .secretNotFound ∨ c = .secretAccessDenied) := by
  have htable : JaErrorCode.values.all (fun c =>
      (asBytes c.publicMessage).all Host.isWordByte &&
      (asBytes c.publicMessage).any isAsciiAlphabetic &&
      (asBytes c.publicMessage).any (fun b => !isAsciiHexdigit b) &&
      decide ((asBytes c.publicMessage).length ≤ 512) &&
      !Host.hasHexRun (asBytes c.publicMessage) &&
      (Host.hasSecretMarker (asBytes c.publicMessage) ==
        decide (c = .secretNotFound ∨ c = .secretAccessDenied))) = true := by
    decide +kernel
  have h := JaErrorCode.of_values htable c
  simp only [Bool.and_eq_true, List.all_eq_true, List.any_eq_true, decide_eq_true_eq,
    Bool.not_eq_true', beq_iff_eq] at h
  obtain ⟨⟨⟨⟨⟨hword, halpha⟩, hhex⟩, hlen⟩, hrun⟩, hsecret⟩ := h
  exact ⟨hword, halpha, hhex, hlen, hrun, by rw [hsecret, decide_eq_true_eq]⟩

/-- The messages that the host's policy lets pass. -/
theorem validErrorMessage_publicMessage (c : JaErrorCode) :
    Host.validErrorMessage c.publicMessage = true ↔
      c ≠ .secretNotFound ∧ c ≠ .secretAccessDenied := by
  obtain ⟨hword, ⟨b, hb, -⟩, -, hlen, hrun, hsecret⟩ := publicMessage_words c
  have hpos : (asBytes c.publicMessage).length ≠ 0 := by
    have := List.length_pos_of_mem hb
    omega
  have hbound : ((asBytes c.publicMessage).length == 0 ||
      decide (512 < (asBytes c.publicMessage).length)) = false := by
    simp [hpos, hlen]
  simp only [Host.validErrorMessage, hbound, Host.isSafe_of_words hword, hrun, Bool.not_false,
    Bool.and_true, Bool.not_eq_true', Bool.false_eq_true, if_false]
  rw [← not_or, ← hsecret, Bool.not_eq_true]

lemma not_tokenShaped_of_mem {s : String} {b : UInt8} (hb : b ∈ asBytes s)
    (hhex : isAsciiHexdigit b = false) : Host.isTokenShaped s = false := by
  rw [Host.isTokenShaped, Bool.and_eq_false_iff]
  refine Or.inr ?_
  rw [List.all_eq_false]
  exact ⟨b, hb, by simp [hhex]⟩

lemma checkError_publicMessage (c : JaErrorCode) (data : Sidecar.RpcErrorData)
    (hname : data.jaCode = java c.name) (hretry : data.retryable = c.retryable) :
    Sidecar.checkError c.wireCode (java c.publicMessage) data = true := by
  obtain ⟨hword, ⟨b, hb, halpha⟩, -, hlen, -, -⟩ := publicMessage_words c
  have hascii : ∀ b ∈ asBytes c.publicMessage, b.toNat < 0x80 := fun b hb => by
    have := (Host.toNat_of_words hword hb).2
    omega
  have hunits : java c.publicMessage = (asBytes c.publicMessage).map fun b => UInt16.ofNat b.toNat :=
    utf16Encode_of_ascii hascii
  have hunit : ∀ u ∈ java c.publicMessage, 0x20 ≤ u.toNat ∧ u.toNat < 0x7F := by
    rw [hunits]
    simp only [List.mem_map]
    rintro _ ⟨b, hb, rfl⟩
    have := Host.toNat_of_words hword hb
    simp only [UInt16.toNat_ofNat']
    omega
  have hblank : Sidecar.isBlank (java c.publicMessage) = false := by
    rw [Sidecar.isBlank, hunits, List.all_eq_false]
    have hletter : ∀ n < 0x80, isAsciiAlphabetic (UInt8.ofNat n) = true →
        Sidecar.isWhitespace (UInt16.ofNat n) = false := by decide
    refine ⟨_, List.mem_map_of_mem hb, ?_⟩
    have := hletter b.toNat (hascii b hb) (by simpa using halpha)
    simpa using this
  have hlength : (java c.publicMessage).length ≤ 512 := by
    rw [hunits, List.length_map]
    exact hlen
  have hnone : ∀ u : UInt16, u.toNat < 0x20 → u ∉ java c.publicMessage := by
    intro u hu hmem
    have := (hunit u hmem).1
    omega
  have hwell : Sidecar.wellFormed (java c.publicMessage) = true :=
    Sidecar.wellFormed_of_ascii fun u hu => by have := (hunit u hu).2; omega
  have hrange := wireCode_range c
  have hbyName : JaErrorCode.fromName (java c.name) = some c := JaErrorCode.fromName_name c
  simp [Sidecar.checkError, hrange, hblank, hlength, hnone 0x0A (by decide), hnone 0x0D (by decide),
    hwell, JaErrorCode.fromWireCode_wireCode, hname, hbyName, hretry]

/-! ## The response of a constant -/

/-- The error data of a constant, as the host sees it. -/
def dataMembers (c : JaErrorCode) (diagnosticId : Option String) : Map :=
  [("jaCode", .string c.name), ("retryable", .bool c.retryable)] ++
    (diagnosticId.map fun d => ("diagnosticId", .string d)).toList

/-- The error object of a constant, as the host sees it. -/
def errorMembers (c : JaErrorCode) (diagnosticId : Option String) : Map :=
  [("code", .number (.ofI64 (hostCode c))), ("message", .string c.publicMessage),
    ("data", .object (dataMembers c diagnosticId))]

/-- The root members of the response, as the host sees them. -/
def failureMembers (id : String) (c : JaErrorCode) (diagnosticId : Option String) : Map :=
  [("jsonrpc", .string "2.0"), ("id", .string id), ("error", .object (errorMembers c diagnosticId))]

/-- The tree of the response, as the host sees it. -/
def failureValue (id : String) (c : JaErrorCode) (diagnosticId : Option String) : Value :=
  .object (failureMembers id c diagnosticId)

/-- The frame that the host makes of it. -/
def failureFrame (id : String) (c : JaErrorCode) : Host.RpcFrame :=
  ⟨some id, none, none, .missing,
    some ⟨hostCode c, c.publicMessage, Host.errorData c.name c.retryable⟩⟩

lemma failure_built (c : JaErrorCode) {diagnosticId : Option JavaString}
    (hdiag : diagnosticId.all (Sidecar.matchesHeadTail "diag_") = true) {id : JavaString}
    (hid : Sidecar.requestId id .clientToServer = true) :
    ∃ error response, Sidecar.RpcError.of c diagnosticId = .ok error ∧
      Sidecar.RpcResponse.failure id error = .ok response ∧
      response.toJson = [(java "jsonrpc", .string (java "2.0")), (java "id", .string id),
        (java "error", .object [(java "code", .number (.integral c.wireCode)),
          (java "message", .string (java c.publicMessage)),
          (java "data", .object ([(java "jaCode", .string (java c.name)),
            (java "retryable", .bool c.retryable)] ++
            (diagnosticId.map fun d => (java "diagnosticId", Json.string d)).toList))])] := by
  have hbyName : JaErrorCode.fromName (java c.name) = some c := JaErrorCode.fromName_name c
  have hdata : Sidecar.checkErrorData (java c.name) diagnosticId none none = true := by
    simp [Sidecar.checkErrorData, hbyName, hdiag]
  have herror := Sidecar.RpcError.of_eq_ok hdata (checkError_publicMessage c _ rfl rfl)
  refine ⟨_, _, herror, Sidecar.RpcResponse.create_eq_ok ?_, ?_⟩
  · have hgeneric : Sidecar.genericRequestId id = true := by
      rw [Sidecar.requestId, Bool.and_eq_true] at hid
      exact hid.1
    simp only [Sidecar.checkResponse, hgeneric, Sidecar.require, Sum.elim_inr, if_true, ok_bind]
    decide
  · simp [Sidecar.RpcResponse.toJson, Sidecar.RpcError.toJson, ObjectNode.set]

/-- Where identifier and diagnostic handle are Unicode texts, the host sees `failureValue`. -/
lemma toValue_failure {P : Peers} (hP : P.Faithful) (c : JaErrorCode) {id : JavaString} {t : String}
    (hid : utf16Decode id = some t) {diagnosticId : Option JavaString} {d : Option String}
    (hdiag : diagnosticId.bind utf16Decode = d) (hsome : diagnosticId.isSome = d.isSome) :
    toValue P.number (.object [(java "jsonrpc", .string (java "2.0")), (java "id", .string id),
        (java "error", .object [(java "code", .number (.integral c.wireCode)),
          (java "message", .string (java c.publicMessage)),
          (java "data", .object ([(java "jaCode", .string (java c.name)),
            (java "retryable", .bool c.retryable)] ++
            (diagnosticId.map fun d => (java "diagnosticId", Json.string d)).toList))])]) =
      some (failureValue t c d) := by
  have hcode : P.number (.integral c.wireCode) = some (.ofI64 (hostCode c)) :=
    hP.integral c.wireCode _
  cases diagnosticId with
  | none =>
    cases hdiag
    simp [toValue, toMembers, utf16Decode_java, hid, hcode, failureValue, failureMembers, errorMembers, dataMembers]
  | some diag =>
    cases d with
    | none => cases hsome
    | some text =>
      have hdecode : utf16Decode diag = some text := hdiag
      simp [toValue, toMembers, utf16Decode_java, hid, hcode, failureValue,
        failureMembers, errorMembers, dataMembers, hdecode]

/-! ## Reading the response -/

section Reading

variable {t : String} {d : Option String} (c : JaErrorCode)

lemma nodupKeys_failureValue : (failureValue t c d).EachObject List.Nodup := by
  refine .object (by simp [failureMembers]) ?_
  simp only [failureMembers, List.mem_cons, List.not_mem_nil, or_false]
  rintro m (rfl | rfl | rfl)
  · exact .string _
  · exact .string _
  · refine .object (by simp [errorMembers]) ?_
    simp only [errorMembers, List.mem_cons, List.not_mem_nil, or_false]
    rintro m (rfl | rfl | rfl)
    · exact .number _
    · exact .string _
    · refine .object (by cases d <;> simp [dataMembers]) ?_
      simp only [dataMembers, List.cons_append, List.nil_append, List.mem_cons, Option.mem_toList,
        Option.map_eq_some_iff]
      rintro m (rfl | rfl | ⟨_, -, rfl⟩)
      · exact .string _
      · exact .bool _
      · exact .string _

lemma no_mark_failureValue (hid : Host.isTokenShaped t = false)
    (hdiag : ∀ text, d = some text → Host.isTokenShaped text = false) :
    Host.containsTokenShapedMarker (failureValue t c d) = false := by
  have hkeys : ∀ k ∈ ["jsonrpc", "id", "error", "code", "message", "data", "jaCode", "retryable",
      "diagnosticId"], Host.isMarkerKey k = false := by decide
  simp only [List.mem_cons, List.not_mem_nil, or_false, forall_eq_or_imp, forall_eq] at hkeys
  have hversion : Host.isTokenShaped "2.0" = false := by decide
  obtain ⟨b, hb, hhex⟩ := (publicMessage_words c).2.2.1
  have hmessage := not_tokenShaped_of_mem hb hhex
  cases d with
  | none =>
    simp [Host.containsTokenShapedMarker, failureValue, failureMembers, errorMembers, dataMembers,
      Json.anyMark, Json.anyMarkMembers, hkeys,
      hversion, hid, hmessage, (catalogEntry_isSome c).2.2]
  | some text =>
    simp [Host.containsTokenShapedMarker, failureValue, failureMembers, errorMembers, dataMembers,
      Json.anyMark, Json.anyMarkMembers, hkeys,
      hversion, hid, hmessage, (catalogEntry_isSome c).2.2, hdiag text rfl]

/-- The host parses the error object exactly when it lets the message pass. -/
lemma parseError_failure {error : Host.RpcError} :
    Host.parseError (SortedMap.ofList (Json.sortMembers (errorMembers c d))) = .ok error ↔
      Host.validErrorMessage c.publicMessage = true ∧
        error = ⟨hostCode c, c.publicMessage, Host.errorData c.name c.retryable⟩ := by
  have hget := fun key => get_sortedMembers (m := errorMembers c d) (by simp [errorMembers]) key
  have hdata := fun key => get_sortedMembers (m := dataMembers c d)
    (by cases d <;> simp [dataMembers]) key
  have hcode : Host.validErrorCode (hostCode c) = true := by
    have := wireCode_range c
    simp [Host.validErrorCode, hostCode, this]
  obtain ⟨hcatalog, hname, -⟩ := catalogEntry_isSome c
  rw [Host.parseError_eq_ok]
  constructor
  · rintro ⟨code, message, dataObject, jaCode, retryable, h₁, -, h₂, hmessage, h₃, h₄, -, h₅, rfl, -⟩
    rw [hget] at h₁ h₂ h₃
    simp [errorMembers, SortedMap.get, Json.sort] at h₁ h₂ h₃
    subst h₁ h₂ h₃
    rw [hdata] at h₄ h₅
    simp [dataMembers, SortedMap.get, Json.sort] at h₄ h₅
    subst h₄ h₅
    exact ⟨hmessage, rfl⟩
  · rintro ⟨hmessage, rfl⟩
    refine ⟨hostCode c, c.publicMessage, SortedMap.ofList (Json.sortMembers (dataMembers c d)),
      c.name, c.retryable, ?_, hcode, ?_, hmessage, ?_, ?_, hname, ?_, rfl, ?_⟩
    · rw [hget]
      simp [errorMembers, SortedMap.get, Json.sort]
    · rw [hget]
      simp [errorMembers, SortedMap.get, Json.sort]
    · rw [hget]
      simp [errorMembers, SortedMap.get, Json.sort]
    · rw [hdata]
      simp [dataMembers, SortedMap.get, Json.sort]
    · rw [hdata]
      simp [dataMembers, SortedMap.get, Json.sort]
    · refine Host.validateError_eq_ok.mpr ⟨hcode, hmessage, _, c.name, c.retryable, rfl, ?_, hname,
        ?_, hcatalog⟩
      · simp [SortedMap.get]
      · simp [SortedMap.get]

/-- The frame of the response passes the host's validation, when its message does. -/
lemma validate_failureFrame (hvalid : Host.validId t = true)
    (hclient : Host.startsWith "c:" t = true)
    (hmessage : Host.validErrorMessage c.publicMessage = true) :
    (failureFrame t c).validate = .ok .response := by
  obtain ⟨-, -, -, -, -, -, -, -, -, -, -, -, -, -, herror⟩ :=
    Host.parseError_eq_ok.mp ((parseError_failure (d := none) c).mpr ⟨hmessage, rfl⟩)
  have hkeys : Host.isMarkerKey "jaCode" = false ∧ Host.isMarkerKey "retryable" = false := by decide
  refine Host.RpcFrame.validate_eq_ok.mpr ⟨⟨?_, ?_, ?_, ?_, ?_⟩, ?_⟩
  · rintro _ ⟨⟩
    exact hvalid
  · rintro _ ⟨⟩
  · rintro _ ⟨⟩
    exact herror
  · rintro _ ⟨⟩
  · rintro _ ⟨⟩
    simp [Host.containsTokenShapedMarker, Host.errorData, Json.anyMark, Json.anyMarkMembers, hkeys,
      (catalogEntry_isSome c).2.2]
  · have hmissing : (Host.Present.missing : Host.Present Value).present = false := rfl
    simp [Host.RpcFrame.classify, failureFrame, hmissing, hclient]

/-- **What the host makes of the response**: the frame of the constant, provided that the message
passes, and nothing else. -/
theorem decodeEnvelope_failure (hid : Host.validId t = true ∧ Host.startsWith "c:" t = true)
    (htoken : Host.isTokenShaped t = false)
    (hdiag : ∀ text, d = some text → Host.isTokenShaped text = false) {f : Host.RpcFrame} :
    Host.decodeEnvelope (failureValue t c d).sort = .ok f ↔
      Host.validErrorMessage c.publicMessage = true ∧ f = failureFrame t c := by
  set sorted : Map := SortedMap.ofList (Json.sortMembers (failureMembers t c d)) with hsorted
  have hget : ∀ key, SortedMap.get key sorted =
      (SortedMap.get key (failureMembers t c d)).map Json.sort :=
    get_sortedMembers (by simp [failureMembers])
  have hmethod : SortedMap.get "method" sorted = none := by
    rw [hget]
    simp [failureMembers, SortedMap.get]
  have herror : SortedMap.get "error" sorted =
      some (.object (SortedMap.ofList (Json.sortMembers (errorMembers c d)))) := by
    rw [hget]
    simp [failureMembers, SortedMap.get, Json.sort]
  have hdecodeId : Host.decodeId sorted = .ok (some t) := by
    rw [Host.decodeId, hget]
    simp [failureMembers, SortedMap.get, Json.sort, hid.1]
  have hresult : Host.decodeResult sorted = .missing := by
    rw [Host.decodeResult, hget]
    simp [failureMembers, SortedMap.get]
  have hparams : SortedMap.get "params" sorted = none := by
    rw [hget]
    simp [failureMembers, SortedMap.get]
  have hversion : SortedMap.get "jsonrpc" sorted = some (.string "2.0") := by
    rw [hget]
    simp [failureMembers, SortedMap.get, Json.sort]
  have hplain : (Host.isInitializedFrame sorted || Host.isReadyFrame sorted) = false := by
    simp [Host.isInitializedFrame, Host.isReadyFrame, hmethod]
  have hsort : (failureValue t c d).sort = .object sorted := rfl
  rw [hsort, decodeEnvelope_plain hsorted (nodupKeys_failureValue c) hplain, hdecodeId, hresult,
    hparams, Host.decodeMethod, hmethod, Host.decodeError, herror]
  constructor
  · rintro ⟨-, -, hfid, hfmethod, hfparams, -, hfresult, hferror, -⟩
    obtain ⟨error, hparse, hsome⟩ := map_eq_ok.mp hferror
    obtain ⟨hmessage, rfl⟩ := (parseError_failure c).mp hparse
    refine ⟨hmessage, ?_⟩
    obtain ⟨id, method, params, result, error⟩ := f
    cases hfid
    cases hfmethod
    cases hfparams
    cases hfresult
    cases hsome
    rfl
  · rintro ⟨hmessage, rfl⟩
    refine ⟨no_mark_failureValue c htoken hdiag, hversion, rfl, rfl, rfl, by simp [failureFrame],
      rfl, ?_, _, validate_failureFrame c hid.1 hid.2 hmessage⟩
    exact map_eq_ok.mpr ⟨_, (parseError_failure c).mpr ⟨hmessage, rfl⟩, rfl⟩

lemma depth_failureValue : (failureValue t c d).depth = 3 := by
  cases d <;> simp [failureValue, failureMembers, errorMembers, dataMembers, Json.depth,
    Json.depthMembers]

end Reading

/-! ## The exchange -/

lemma diagnosticId_decoded {diagnosticId : Option JavaString}
    (hdiag : diagnosticId.all (Sidecar.matchesHeadTail "diag_") = true) :
    ∃ d : Option String, diagnosticId.bind utf16Decode = d ∧ diagnosticId.isSome = d.isSome ∧
      ∀ text, d = some text → Host.isTokenShaped text = false := by
  cases diagnosticId with
  | none => exact ⟨none, rfl, rfl, by simp⟩
  | some diag =>
    have hmatch : Sidecar.matchesHeadTail "diag_" diag = true := by simpa using hdiag
    obtain ⟨text, htext, hbytes⟩ := decode_of_matchesHeadTail (forall_mem_of_all (by decide)) hmatch
    refine ⟨some text, htext, rfl, ?_⟩
    rintro _ ⟨⟩
    have hmem : (0x5F : UInt16) ∈ diag := by
      rw [Sidecar.matchesHeadTail, Bool.and_eq_true, List.isPrefixOf_iff_prefix] at hmatch
      exact hmatch.1.subset (by decide)
    refine not_tokenShaped_of_mem (b := 0x5F) ?_ (by decide)
    rw [hbytes]
    exact List.mem_map_of_mem hmem

lemma requestId_decoded {id : JavaString} (hid : Sidecar.requestId id .clientToServer = true) :
    ∃ t, utf16Decode id = some t ∧ (Host.validId t = true ∧ Host.startsWith "c:" t = true) ∧
      Host.isTokenShaped t = false := by
  obtain ⟨tail, heq, htail⟩ := split_requestId hid
  have hc : java "c:" = [0x63, 0x3A] := by decide
  have hmatch : Sidecar.matchesHeadTail "c:" id = true := by
    rw [Sidecar.matchesHeadTail, hc, heq]
    simpa using htail
  obtain ⟨t, ht, hbytes⟩ := decode_of_matchesHeadTail (forall_mem_of_all (by decide)) hmatch
  refine ⟨t, ht, validId_of_requestId hid ht, not_tokenShaped_of_mem (b := 0x3A) ?_ (by decide)⟩
  rw [hbytes, heq]
  simp

/-- The response of a constant, built, written and read: the host gets the frame of the constant
or nothing. -/
theorem decodeFrame_failure {P : Peers} (hP : P.Faithful) (c : JaErrorCode)
    {diagnosticId : Option JavaString}
    (hdiag : diagnosticId.all (Sidecar.matchesHeadTail "diag_") = true)
    {id : JavaString} (hid : Sidecar.requestId id .clientToServer = true) :
    ∃ error response t, Sidecar.RpcError.of c diagnosticId = .ok error ∧
      Sidecar.RpcResponse.failure id error = .ok response ∧ utf16Decode id = some t ∧
      ∀ maxFrameBytes, (P.write (.object response.toJson)).length ≤ maxFrameBytes → ∀ f,
        (Host.decodeFrame P.serde (P.write (.object response.toJson) ++ [0x0A]) maxFrameBytes =
            .ok f ↔
          (c ≠ .secretNotFound ∧ c ≠ .secretAccessDenied) ∧ f = failureFrame t c) := by
  obtain ⟨error, response, herror, hresponse, hjson⟩ := failure_built c hdiag hid
  obtain ⟨t, ht, hvalid, htoken⟩ := requestId_decoded hid
  obtain ⟨d, hd, hsome, hshape⟩ := diagnosticId_decoded hdiag
  refine ⟨error, response, t, herror, hresponse, ht, fun maxFrameBytes hlen f => ?_⟩
  have hvalue := toValue_failure hP c ht hd hsome
  rw [← hjson] at hvalue
  have hdepth : (failureValue t c d).depth < P.limit := by
    have := hP.nesting
    rw [depth_failureValue]
    omega
  rw [decodeFrame_write hP hvalue (nodupKeys_failureValue c) hdepth hlen,
    decodeEnvelope_failure c hvalid htoken hshape, validErrorMessage_publicMessage]

/-- What the host recovers of an error response: identifier, code, stable name and the hint
whether to try again. -/
def RecoversError (f : Host.RpcFrame) (id : JavaString) (c : JaErrorCode) : Prop :=
  f.id.map utf16Encode = some id ∧ ∃ error data, f.error = some error ∧
    error.code.val = c.wireCode ∧ error.data = .object data ∧
    SortedMap.get "jaCode" data = some (.string c.name) ∧
    SortedMap.get "retryable" data = some (.bool c.retryable)

/-- **Error responses across the wire.**  The sidecar builds and writes the error response of
every constant, for every diagnostic handle and every identifier of the client; the host reads it
back, with the same identifier, code, name and hint, exactly when the constant is not one of the
two about secrets. -/
theorem errorResponse_accepted_iff {P : Peers} (hP : P.Faithful) (c : JaErrorCode)
    {diagnosticId : Option JavaString}
    (hdiag : diagnosticId.all (Sidecar.matchesHeadTail "diag_") = true)
    {id : JavaString} (hid : Sidecar.requestId id .clientToServer = true) :
    ∃ error response, Sidecar.RpcError.of c diagnosticId = .ok error ∧
      Sidecar.RpcResponse.failure id error = .ok response ∧
      ∀ maxFrameBytes, (P.write (.object response.toJson)).length ≤ maxFrameBytes →
        ((∃ f, Host.decodeFrame P.serde (P.write (.object response.toJson) ++ [0x0A])
              maxFrameBytes = .ok f ∧ RecoversError f id c) ↔
          c ≠ .secretNotFound ∧ c ≠ .secretAccessDenied) := by
  obtain ⟨error, response, t, herror, hresponse, ht, hdecode⟩ := decodeFrame_failure hP c hdiag hid
  refine ⟨error, response, herror, hresponse, fun maxFrameBytes hlen => ?_⟩
  constructor
  · rintro ⟨f, hf, -⟩
    exact ((hdecode maxFrameBytes hlen f).mp hf).1
  · intro hc
    refine ⟨failureFrame t c, (hdecode maxFrameBytes hlen _).mpr ⟨hc, rfl⟩, ?_, _, _, rfl, rfl, rfl,
      by simp [SortedMap.get], by simp [SortedMap.get]⟩
    exact congrArg some (utf16Encode_of_utf16Decode ht)

/-- The response of a constant that the host reads. -/
theorem errorResponse_accepted_frameTooLarge :
    ∃ error response, Sidecar.RpcError.of .frameTooLarge (some (java "diag_7")) = .ok error ∧
      Sidecar.RpcResponse.failure (java "c:1") error = .ok response ∧
      ∀ maxFrameBytes, (compactPeers.write (.object response.toJson)).length ≤ maxFrameBytes →
        ((∃ f, Host.decodeFrame compactPeers.serde
              (compactPeers.write (.object response.toJson) ++ [0x0A]) maxFrameBytes = .ok f ∧
            RecoversError f (java "c:1") .frameTooLarge) ↔
          JaErrorCode.frameTooLarge ≠ .secretNotFound ∧
            JaErrorCode.frameTooLarge ≠ .secretAccessDenied) :=
  errorResponse_accepted_iff compactPeers_faithful .frameTooLarge (by decide) (by decide)

/-- **A response that kills the session**: no limit lets the host read `SECRET_NOT_FOUND`. -/
theorem secretNotFound_rejected :
    ∃ error response, Sidecar.RpcError.of .secretNotFound none = .ok error ∧
      Sidecar.RpcResponse.failure (java "c:1") error = .ok response ∧
      ∀ maxFrameBytes, (compactPeers.write (.object response.toJson)).length ≤ maxFrameBytes →
        ∀ f, Host.decodeFrame compactPeers.serde
          (compactPeers.write (.object response.toJson) ++ [0x0A]) maxFrameBytes ≠ .ok f := by
  obtain ⟨error, response, t, herror, hresponse, -, hdecode⟩ :=
    @decodeFrame_failure _ compactPeers_faithful .secretNotFound none (by decide) (java "c:1")
      (by decide)
  refine ⟨error, response, herror, hresponse, fun maxFrameBytes hlen f hf => ?_⟩
  exact ((hdecode maxFrameBytes hlen f).mp hf).1.1 rfl

end JaDesktop.Interop
