import JaDesktop.Interop.Wire

/-!
# Payloads across the wire

The sidecar refuses to send the challenges it remembers and the field `readyToken`; the host
refuses everything that has the shape of a challenge.  A notification or a result that the
sidecar writes is read back by the host exactly when no field name and no text of it has that
shape, and the host's limit for the method, which counts bytes, is kept.
-/

namespace JaDesktop.Interop

open Host (Number Value Map)
open Sidecar (JavaTime JsonNode ObjectNode Machine RpcEnvelope RpcNotification RpcResponse java)

/-! ## The envelopes -/

/-- A notification to the host other than the status of the runtime, or a result for a request
of the host. -/
def BusinessPayload {T : JavaTime} : RpcEnvelope T → Prop
  | .request _ => False
  | .notification notification => notification.direction = .serverToClient ∧
      notification.method ≠ java "runtime/statusChanged"
  | .response response => (∃ result, response.payload = .inl result) ∧
      (java "c:").isPrefixOf response.id = true

/-- The method is a text of at most 128 bytes. -/
def MethodFits {T : JavaTime} : RpcEnvelope T → Prop
  | .notification notification => ∃ method, utf16Decode notification.method = some method ∧
      (asBytes method).length ≤ Host.maxMethodBytes
  | _ => True

/-- The host recovers identifier, method, parameters and result; objects are ordered by key on
its side. -/
def Recovers {T : JavaTime} (number : Sidecar.JavaNumber → Option Number) (f : Host.RpcFrame) :
    RpcEnvelope T → Prop
  | .request _ => False
  | .notification notification =>
    f.id = none ∧ f.method.map utf16Encode = some notification.method ∧
      (∃ params, toValue number (.object notification.params) = some params ∧
        f.params = some params.sort) ∧
      f.result = .missing ∧ f.error = none
  | .response response =>
    f.id.map utf16Encode = some response.id ∧ f.method = none ∧ f.params = none ∧
      (∃ result value, response.payload = .inl result ∧
        toValue number (result.getD .null) = some value ∧ f.result = .some value.sort) ∧
      f.error = none

/-- No field name and no text has the shape of a challenge. -/
def NoMarks (v : Value) : Prop :=
  (∀ p k c, v.MemberAt p k c → ¬ Host.MarkerKey k) ∧ ∀ p s, v.TextAt p s → ¬ Host.Hex32 s

lemma noMarks_iff {v : Value} : Host.containsTokenShapedMarker v = false ↔ NoMarks v := by
  refine ⟨Host.no_mark_of_contains, fun ⟨hkeys, htexts⟩ => ?_⟩
  rw [← Bool.not_eq_true]
  intro hmark
  rcases Json.anyMark_iff.mp hmark with ⟨p, k, c, hm, hk⟩ | ⟨p, s, ht, hs⟩
  · exact hkeys p k c hm (Host.isMarkerKey_iff.mp hk)
  · exact htexts p s ht (Host.isTokenShaped_iff.mp hs)

/-! ## The root fields -/

lemma get_extensions {extensions : ObjectNode}
    (h : Sidecar.checkExtensions extensions = .ok ()) :
    ∀ key ∈ Host.knownRootFields, ObjectNode.get (java key) extensions = none := by
  intro key hkey
  exact Sidecar.get_of_checkExtensions h (List.mem_map_of_mem hkey)

lemma get_notification {T : JavaTime} (notification : RpcNotification T) {key : String}
    (hkey : key ∈ Host.knownRootFields) :
    ObjectNode.get (java key) notification.toJson =
      if key = "params" then some (.object notification.params)
      else if key = "method" then some (.string notification.method)
      else if key = "jsonrpc" then some (.string (java "2.0"))
      else none := by
  have hchecked := notification.checked
  simp only [Sidecar.checkNotification, bind_eq_ok, exists_unit] at hchecked
  simp only [RpcNotification.toJson, ObjectNode.get_set, Sidecar.java_inj,
    get_extensions hchecked.2.2.1 key hkey]

lemma get_response {response : RpcResponse} {result : Option JsonNode}
    (hpayload : response.payload = .inl result) {key : String}
    (hkey : key ∈ Host.knownRootFields) :
    ObjectNode.get (java key) response.toJson =
      if key = "result" then some (result.getD .null)
      else if key = "id" then some (.string response.id)
      else if key = "jsonrpc" then some (.string (java "2.0"))
      else none := by
  have hchecked := response.checked
  simp only [Sidecar.checkResponse, bind_eq_ok, exists_unit] at hchecked
  simp only [RpcResponse.toJson, hpayload, ObjectNode.get_set, Sidecar.java_inj,
    get_extensions hchecked.2.2 key hkey]

/-! ## What the host makes of them -/

section Decode

variable {number : Sidecar.JavaNumber → Option Number}

/-- The frame that the host makes of a notification. -/
def notificationFrame (method : String) (params : Value) : Host.RpcFrame :=
  ⟨none, some method, some params, .missing, none⟩

/-- The frame that the host makes of a result. -/
def resultFrame (id : String) (value : Value) : Host.RpcFrame :=
  ⟨some id, none, none, .some value, none⟩

lemma validate_notificationFrame {method : String} {params : Map}
    (hne : method ≠ "") (hinit : method ≠ "initialized") (hstatus : method ≠ "runtime/statusChanged")
    (hmark : Host.containsTokenShapedMarker (.object params) = false) :
    (∃ k, (notificationFrame method (.object params)).validate = .ok k) ↔
      (asBytes method).length ≤ Host.maxMethodBytes := by
  have htoken : Host.validateReadyTokenFields method (.object params) = .ok () := by
    simp [Host.validateReadyTokenFields, Value.asObject, hinit, hstatus, hmark]
  simp only [Host.RpcFrame.validate_eq_ok]
  constructor
  · rintro ⟨k, hfields, -⟩
    exact (hfields.method method rfl).2.1
  · intro hlen
    refine ⟨.notification, ⟨?_, ?_, ?_, ?_, ?_⟩, ?_⟩
    · rintro _ ⟨⟩
    · rintro _ ⟨⟩
      exact ⟨hne, hlen, params, rfl, htoken⟩
    · rintro _ ⟨⟩
    · rintro _ ⟨⟩
    · rintro _ ⟨⟩
    · rfl

lemma validate_resultFrame {id : String} {value : Value} (hvalid : Host.validId id = true)
    (hclient : Host.startsWith "c:" id = true)
    (hmark : Host.containsTokenShapedMarker value = false) :
    (resultFrame id value).validate = .ok .response := by
  refine Host.RpcFrame.validate_eq_ok.mpr ⟨⟨?_, ?_, ?_, ?_, ?_⟩, ?_⟩
  · rintro _ ⟨⟩
    exact hvalid
  · rintro _ ⟨⟩
  · rintro _ ⟨⟩
  · rintro _ ⟨⟩
    exact hmark
  · rintro _ ⟨⟩
  · have hpresent : (Host.Present.some value).present = true := rfl
    simp [Host.RpcFrame.classify, resultFrame, hpresent, hclient]

lemma no_mark_of_get {object : Map} (h : Host.containsTokenShapedMarker (.object object) = false)
    {key : String} {c : Value} (hget : SortedMap.get key object = some c) :
    Host.containsTokenShapedMarker c = false := by
  rw [← Bool.not_eq_true] at h ⊢
  exact fun hmark =>
    h (Json.anyMarkMembers_iff.mpr ⟨key, c, SortedMap.mem_of_get hget, Or.inr hmark⟩)

/-- **What the host makes of a notification** of the sidecar. -/
theorem decodeEnvelope_notification {T : JavaTime} {notification : RpcNotification T}
    {members params : Map} (hmembers : toMembers number notification.toJson = some members)
    (hnames : (Json.object notification.toJson : JsonNode).EachObject List.Nodup)
    (hparams : toMembers number notification.params = some params)
    {method : String} (hmethod : utf16Decode notification.method = some method)
    (hne : method ≠ "") (hinit : method ≠ "initialized") (hstatus : method ≠ "runtime/statusChanged")
    {f : Host.RpcFrame} :
    Host.decodeEnvelope (Json.object members : Value).sort = .ok f ↔
      Host.containsTokenShapedMarker (.object members) = false ∧
        (asBytes method).length ≤ Host.maxMethodBytes ∧
        f = notificationFrame method (Json.object params : Value).sort := by
  set sorted : Map := SortedMap.ofList (Json.sortMembers members) with hsorted
  have htree : toValue number (.object notification.toJson) = some (.object members) := by
    simp [toValue, hmembers]
  have hkeys : (Json.object members : Value).EachObject List.Nodup :=
    nodupKeys_toValue htree hnames
  have hroot : ∀ key ∈ Host.knownRootFields, SortedMap.get key sorted =
      (((if key = "params" then some (.object notification.params)
        else if key = "method" then some (.string notification.method)
        else if key = "jsonrpc" then some (.string (java "2.0"))
        else none) : Option JsonNode).bind (toValue number)).map Json.sort := by
    intro key hkey
    rw [← get_notification notification hkey]
    cases hnames with
    | object hnodup _ => exact get_sorted hmembers hnodup key
  have hgetMethod : SortedMap.get "method" sorted = some (.string method) := by
    rw [hroot "method" (by decide)]
    simp [toValue, hmethod, Json.sort]
  have hgetParams : SortedMap.get "params" sorted = some (Json.object params : Value).sort := by
    rw [hroot "params" (by decide)]
    simp [toValue, hparams]
  have hversion : SortedMap.get "jsonrpc" sorted = some (.string "2.0") := by
    rw [hroot "jsonrpc" (by decide)]
    simp [toValue, utf16Decode_java, Json.sort]
  have hid : Host.decodeId sorted = .ok none := by
    rw [Host.decodeId, hroot "id" (by decide)]
    rfl
  have hresult : Host.decodeResult sorted = .missing := by
    rw [Host.decodeResult, hroot "result" (by decide)]
    rfl
  have herror : Host.decodeError sorted = .ok none := by
    rw [Host.decodeError, hroot "error" (by decide)]
    rfl
  have hdecodeMethod : ∀ g, Host.decodeMethod sorted = .ok g ↔
      (asBytes method).length ≤ Host.maxMethodBytes ∧ g = some method := by
    intro g
    rw [Host.decodeMethod, hgetMethod]
    by_cases hlen : (asBytes method).length ≤ Host.maxMethodBytes
    · have hcheck : (!method.isEmpty && decide ((asBytes method).length ≤ Host.maxMethodBytes)) =
          true := by
        simp [hne, hlen]
      simp only [hcheck, if_true, Except.ok.injEq]
      exact ⟨fun h => ⟨hlen, h.symm⟩, fun h => h.2.symm⟩
    · simp [hlen]
  have hplain : (Host.isInitializedFrame sorted || Host.isReadyFrame sorted) = false := by
    simp [Host.isInitializedFrame, Host.isReadyFrame, hgetMethod, Value.asStr, hinit, hstatus]
  have hsort : (Json.object members : Value).sort = .object sorted := rfl
  rw [hsort, decodeEnvelope_plain hsorted hkeys hplain, hid, hresult, hgetParams, herror,
    hdecodeMethod]
  constructor
  · rintro ⟨hmark, -, hfid, ⟨hlen, hfmethod⟩, hfparams, -, hfresult, hferror, -⟩
    refine ⟨hmark, hlen, ?_⟩
    obtain ⟨id, m, p, result, error⟩ := f
    cases hfid
    cases hfmethod
    cases hfparams
    cases hfresult
    cases hferror
    rfl
  · rintro ⟨hmark, hlen, rfl⟩
    have hinner : Host.containsTokenShapedMarker (Json.object params : Value).sort = false := by
      refine no_mark_of_get ?_ hgetParams
      rw [← hmark]
      exact Json.anyMark_sort hkeys
    refine ⟨hmark, hversion, rfl, ⟨hlen, rfl⟩, rfl, fun _ => rfl, rfl, rfl, ?_⟩
    exact (validate_notificationFrame hne hinit hstatus hinner).mpr hlen

/-- **What the host makes of a result** of the sidecar. -/
theorem decodeEnvelope_result {response : RpcResponse} {result : Option JsonNode}
    (hpayload : response.payload = .inl result)
    {members : Map} (hmembers : toMembers number response.toJson = some members)
    (hnames : (Json.object response.toJson : JsonNode).EachObject List.Nodup)
    {value : Value} (hvalue : toValue number (result.getD .null) = some value)
    {id : String} (hdecode : utf16Decode response.id = some id)
    (hvalid : Host.validId id = true ∧ Host.startsWith "c:" id = true) {f : Host.RpcFrame} :
    Host.decodeEnvelope (Json.object members : Value).sort = .ok f ↔
      Host.containsTokenShapedMarker (.object members) = false ∧ f = resultFrame id value.sort := by
  set sorted : Map := SortedMap.ofList (Json.sortMembers members) with hsorted
  have htree : toValue number (.object response.toJson) = some (.object members) := by
    simp [toValue, hmembers]
  have hkeys : (Json.object members : Value).EachObject List.Nodup :=
    nodupKeys_toValue htree hnames
  have hroot : ∀ key ∈ Host.knownRootFields, SortedMap.get key sorted =
      (((if key = "result" then some (result.getD .null)
        else if key = "id" then some (.string response.id)
        else if key = "jsonrpc" then some (.string (java "2.0"))
        else none) : Option JsonNode).bind (toValue number)).map Json.sort := by
    intro key hkey
    rw [← get_response hpayload hkey]
    cases hnames with
    | object hnodup _ => exact get_sorted hmembers hnodup key
  have hgetMethod : SortedMap.get "method" sorted = none := by
    rw [hroot "method" (by decide)]
    rfl
  have hgetParams : SortedMap.get "params" sorted = none := by
    rw [hroot "params" (by decide)]
    rfl
  have hversion : SortedMap.get "jsonrpc" sorted = some (.string "2.0") := by
    rw [hroot "jsonrpc" (by decide)]
    simp [toValue, utf16Decode_java, Json.sort]
  have hid : Host.decodeId sorted = .ok (some id) := by
    rw [Host.decodeId, hroot "id" (by decide)]
    simp [toValue, hdecode, Json.sort, hvalid.1]
  have hgetResult : SortedMap.get "result" sorted = some value.sort := by
    rw [hroot "result" (by decide)]
    simp [hvalue]
  have hresult : Host.decodeResult sorted = .some value.sort := by
    rw [Host.decodeResult, hgetResult]
  have herror : Host.decodeError sorted = .ok none := by
    rw [Host.decodeError, hroot "error" (by decide)]
    rfl
  have hplain : (Host.isInitializedFrame sorted || Host.isReadyFrame sorted) = false := by
    simp [Host.isInitializedFrame, Host.isReadyFrame, hgetMethod]
  have hsort : (Json.object members : Value).sort = .object sorted := rfl
  rw [hsort, decodeEnvelope_plain hsorted hkeys hplain, hid, hresult, hgetParams, herror,
    Host.decodeMethod, hgetMethod]
  constructor
  · rintro ⟨hmark, -, hfid, hfmethod, hfparams, -, hfresult, hferror, -⟩
    refine ⟨hmark, ?_⟩
    obtain ⟨i, m, p, r, error⟩ := f
    cases hfid
    cases hfmethod
    cases hfparams
    cases hfresult
    cases hferror
    rfl
  · rintro ⟨hmark, rfl⟩
    have hinner : Host.containsTokenShapedMarker value.sort = false := by
      refine no_mark_of_get ?_ hgetResult
      rw [← hmark]
      exact Json.anyMark_sort hkeys
    refine ⟨hmark, hversion, rfl, rfl, rfl, by simp [resultFrame], rfl, rfl, .response, ?_⟩
    exact validate_resultFrame hvalid.1 hvalid.2 hinner

end Decode

/-! ## The exchange -/

lemma decodeFrame_outbound {P : Peers} (hP : P.Faithful) {T : JavaTime} {m : Machine}
    {envelope : RpcEnvelope T} {maxFrameBytes : ℕ} {bytes : List UInt8}
    (hencode : (Sidecar.encode P.write m envelope maxFrameBytes).1 = .ok bytes)
    (hnumbers : (Json.object envelope.toJson : JsonNode).EachNumber
      fun n => (P.number n).isSome = true)
    (hnames : (Json.object envelope.toJson : JsonNode).EachObject List.Nodup)
    (hdepth : (Json.object envelope.toJson : JsonNode).depth < P.limit) :
    ∃ members, toMembers P.number envelope.toJson = some members ∧
      Host.decodeFrame P.serde bytes maxFrameBytes =
        Host.decodeEnvelope (Json.object members : Value).sort := by
  obtain ⟨-, hunicode, hlen, rfl⟩ := Sidecar.encode_eq_ok.mp hencode
  obtain ⟨v, hv⟩ := toValue_isSome hunicode hnumbers
  obtain ⟨members, hmembers, rfl⟩ := Option.map_eq_some_iff.mp hv
  refine ⟨members, hmembers, ?_⟩
  exact decodeFrame_write hP hv (nodupKeys_toValue hv hnames) (by rwa [depth_toValue hv]) hlen

/-- A business notification: its parameters cross the wire, and its method is a text other than
those of the handshake. -/
lemma notification_decoded {number : Sidecar.JavaNumber → Option Number} {T : JavaTime}
    {notification : RpcNotification T} (hbusiness : BusinessPayload (.notification notification))
    {members : Map} (hmembers : toMembers number notification.toJson = some members) :
    ∃ params method, toMembers number notification.params = some params ∧
      utf16Decode notification.method = some method ∧ method ≠ "" ∧ method ≠ "initialized" ∧
      method ≠ "runtime/statusChanged" := by
  obtain ⟨hdirection, hstatus⟩ := hbusiness
  have hchecked := notification.checked
  simp only [Sidecar.checkNotification, bind_eq_ok, exists_unit] at hchecked
  obtain ⟨hmethod, -, -, hshape⟩ := hchecked
  have hinit : notification.method ≠ java "initialized" := by
    intro heq
    rw [Sidecar.validateHandshakeShape, if_pos heq, hdirection] at hshape
    cases hshape
  have hblank : notification.method ≠ java "" := by
    intro heq
    rw [Sidecar.checkMethod, heq] at hmethod
    cases hmethod
  obtain ⟨v, hv⟩ := toValue_of_get hmembers (get_notification notification
    (by decide : "params" ∈ Host.knownRootFields))
  obtain ⟨params, hparams, -⟩ := Option.map_eq_some_iff.mp hv
  obtain ⟨w, hw⟩ := toValue_of_get hmembers (get_notification notification
    (by decide : "method" ∈ Host.knownRootFields))
  obtain ⟨method, hdecode, -⟩ := Option.map_eq_some_iff.mp hw
  refine ⟨params, method, hparams, hdecode, ?_, ?_, ?_⟩
  · exact fun heq => hblank ((eq_java_iff hdecode "").mpr heq)
  · exact fun heq => hinit ((eq_java_iff hdecode _).mpr heq)
  · exact fun heq => hstatus ((eq_java_iff hdecode _).mpr heq)

/-- A result for the host: it crosses the wire, and its identifier is one of the host's. -/
lemma response_decoded {number : Sidecar.JavaNumber → Option Number} {response : RpcResponse}
    {result : Option JsonNode} (hpayload : response.payload = .inl result)
    (hclient : (java "c:").isPrefixOf response.id = true)
    {members : Map} (hmembers : toMembers number response.toJson = some members) :
    ∃ value id, toValue number (result.getD .null) = some value ∧
      utf16Decode response.id = some id ∧
      (Host.validId id = true ∧ Host.startsWith "c:" id = true) := by
  have hchecked := response.checked
  simp only [Sidecar.checkResponse, bind_eq_ok, exists_unit, Sidecar.require_eq_ok] at hchecked
  obtain ⟨value, hvalue⟩ := toValue_of_get hmembers (get_response hpayload
    (by decide : "result" ∈ Host.knownRootFields))
  obtain ⟨w, hw⟩ := toValue_of_get hmembers (get_response hpayload
    (by decide : "id" ∈ Host.knownRootFields))
  obtain ⟨id, hid, -⟩ := Option.map_eq_some_iff.mp hw
  have hrequest : Sidecar.requestId response.id .clientToServer = true := by
    rw [Sidecar.requestId, Bool.and_eq_true]
    exact ⟨hchecked.1, hclient⟩
  exact ⟨value, id, hvalue, hid, validId_of_requestId hrequest hid⟩

/-- **Payloads across the wire.**  Whatever the state of the sidecar, the host reads a
notification or a result that the sidecar writes, and recovers its identifier, method, parameters
or result, exactly when nothing in it has the shape of a challenge and the method fits the host's
limit. -/
theorem payload_accepted_iff {P : Peers} (hP : P.Faithful) {T : JavaTime} (m : Machine)
    (envelope : RpcEnvelope T) (hbusiness : BusinessPayload envelope)
    {maxFrameBytes : ℕ} {bytes : List UInt8}
    (hencode : (Sidecar.encode P.write m envelope maxFrameBytes).1 = .ok bytes)
    (hnumbers : (Json.object envelope.toJson : JsonNode).EachNumber
      fun n => (P.number n).isSome = true)
    (hnames : (Json.object envelope.toJson : JsonNode).EachObject List.Nodup)
    (hdepth : (Json.object envelope.toJson : JsonNode).depth < P.limit) :
    ∃ v, toValue P.number (.object envelope.toJson) = some v ∧
      ((∃ f, Host.decodeFrame P.serde bytes maxFrameBytes = .ok f ∧
          Recovers P.number f envelope) ↔
        NoMarks v ∧ MethodFits envelope) := by
  obtain ⟨members, hmembers, hdecode⟩ := decodeFrame_outbound hP hencode hnumbers hnames hdepth
  refine ⟨.object members, by simp [toValue, hmembers], ?_⟩
  rw [hdecode, ← noMarks_iff]
  cases envelope with
  | request request => exact hbusiness.elim
  | notification notification =>
    obtain ⟨params, method, hparams, hmethod, hne, hinit, hstatus⟩ :=
      notification_decoded hbusiness hmembers
    have hframe := fun f => @decodeEnvelope_notification _ _ _ _ _ hmembers hnames hparams _ hmethod
      hne hinit hstatus f
    simp only [hframe]
    constructor
    · rintro ⟨f, ⟨hmark, hlen, -⟩, -⟩
      exact ⟨hmark, method, hmethod, hlen⟩
    · rintro ⟨hmark, method', hmethod', hlen⟩
      cases hmethod.symm.trans hmethod'
      refine ⟨_, ⟨hmark, hlen, rfl⟩, rfl, ?_, ⟨_, ?_, rfl⟩, rfl, rfl⟩
      · exact congrArg some (utf16Encode_of_utf16Decode hmethod)
      · simp [toValue, hparams]
  | response response =>
    obtain ⟨⟨result, hpayload⟩, hclient⟩ := hbusiness
    obtain ⟨value, id, hvalue, hid, hvalid⟩ := response_decoded hpayload hclient hmembers
    have hframe := fun f => @decodeEnvelope_result _ _ _ hpayload _ hmembers hnames _ hvalue _ hid
      hvalid f
    simp only [hframe]
    constructor
    · rintro ⟨f, ⟨hmark, -⟩, -⟩
      exact ⟨hmark, trivial⟩
    · rintro ⟨hmark, -⟩
      refine ⟨_, ⟨hmark, rfl⟩, ?_, rfl, rfl, ⟨result, value, hpayload, hvalue, rfl⟩, rfl⟩
      exact congrArg some (utf16Encode_of_utf16Decode hid)

/-! ## A tool output that the host refuses -/

/-- A clock that knows one instant. -/
def fixedTime : JavaTime where
  Instant := Unit
  parse s := if s = java "2026-01-01T00:00:00Z" then some () else none
  toText _ := java "2026-01-01T00:00:00Z"

def initializedNotification : RpcNotification fixedTime where
  method := java "initialized"
  params := [(java "readyToken", .string (java "0123456789abcdef0123456789abcdef"))]
  direction := .clientToServer
  extensions := []
  checked := by decide +kernel

/-- A generation that went through the handshake. -/
def readyMachine : Machine :=
  Machine.after (Machine.after ⟨⟨java "srv_1", by decide +kernel⟩, [], 1, .new, none⟩
    (.acceptInitialized initializedNotification))
    (.publishReadyEvent ⟨java "evt_1", by decide +kernel⟩ () : Machine.Call fixedTime)

lemma readyMachine_reachable : readyMachine.Reachable fixedTime :=
  ⟨_, 1, _, _, rfl, .snoc (.snoc .nil rfl) rfl⟩

lemma readyMachine_ready : readyMachine.state = .ready := by decide +kernel

/-- A delta of an item with the given text. -/
def deltaFields (text : String) : ObjectNode := [(java "text", .string (java text))]

def deltaNotification (text : String) (h : Sidecar.checkNotification fixedTime (java "item/delta")
    (deltaFields text) .serverToClient [] = .ok ()) : RpcNotification fixedTime :=
  ⟨java "item/delta", deltaFields text, .serverToClient, [], h⟩

/-- A harmless text. -/
def doneDelta : RpcNotification fixedTime := deltaNotification "done" (by decide +kernel)

/-- The MD5 digest of the empty text. -/
def digestDelta : RpcNotification fixedTime :=
  deltaNotification "d41d8cd98f00b204e9800998ecf8427e" (by decide +kernel)

section Delta

variable {text : String} {h : Sidecar.checkNotification fixedTime (java "item/delta")
  (deltaFields text) .serverToClient [] = .ok ()}

lemma toJson_delta : (deltaNotification text h).toJson =
    [(java "jsonrpc", .string (java "2.0")), (java "method", .string (java "item/delta")),
      (java "params", .object (deltaFields text))] := by
  simp [RpcNotification.toJson, deltaNotification, ObjectNode.set]

lemma eachNumber_delta {Q : Sidecar.JavaNumber → Prop} :
    (Json.object (deltaNotification text h).toJson : JsonNode).EachNumber Q := by
  rw [toJson_delta]
  refine .object ?_
  simp only [List.mem_cons, List.not_mem_nil, or_false]
  rintro m (rfl | rfl | rfl)
  · exact .string _
  · exact .string _
  · refine .object ?_
    simp only [deltaFields, List.mem_singleton]
    rintro m rfl
    exact .string _

lemma nodupNames_delta :
    (Json.object (deltaNotification text h).toJson : JsonNode).EachObject List.Nodup := by
  rw [toJson_delta]
  refine .object (by simp) ?_
  simp only [List.mem_cons, List.not_mem_nil, or_false]
  rintro m (rfl | rfl | rfl)
  · exact .string _
  · exact .string _
  · refine .object (by simp [deltaFields]) ?_
    simp only [deltaFields, List.mem_singleton]
    rintro m rfl
    exact .string _

lemma depth_delta :
    (Json.object (deltaNotification text h).toJson : JsonNode).depth < compactPeers.limit := by
  rw [toJson_delta]
  simp [deltaFields, Json.depth, Json.depthMembers, compactPeers]

lemma toMembers_delta {number : Sidecar.JavaNumber → Option Number} :
    toMembers number (deltaNotification text h).toJson =
      some [("jsonrpc", .string "2.0"), ("method", .string "item/delta"),
        ("params", .object [("text", .string text)])] := by
  rw [toJson_delta]
  simp [toMembers, toValue, deltaFields, utf16Decode_java]

end Delta

/-- A delta that the host reads. -/
theorem payload_accepted_done :
    ∃ maxFrameBytes bytes v,
      (Sidecar.encode compactPeers.write readyMachine (.notification doneDelta)
        maxFrameBytes).1 = .ok bytes ∧
      toValue compactPeers.number (.object doneDelta.toJson) = some v ∧
      ((∃ f, Host.decodeFrame compactPeers.serde bytes maxFrameBytes = .ok f ∧
          Recovers compactPeers.number f (.notification doneDelta)) ↔
        NoMarks v ∧ MethodFits (.notification doneDelta)) := by
  have hencode : (Sidecar.encode compactPeers.write readyMachine (.notification doneDelta) _).1 =
      .ok _ :=
    Sidecar.encode_eq_ok.mpr ⟨by decide +kernel, by decide +kernel, le_rfl, rfl⟩
  obtain ⟨v, hv, hiff⟩ := payload_accepted_iff compactPeers_faithful readyMachine
    (.notification doneDelta) ⟨rfl, by decide +kernel⟩ hencode eachNumber_delta nodupNames_delta
    depth_delta
  exact ⟨_, _, v, hencode, hv, hiff⟩

/-- **A tool output that kills the session**: a generation that is ready sends a digest, and the
host does not read the frame. -/
theorem digestDelta_rejected :
    ∃ maxFrameBytes bytes, readyMachine.Reachable fixedTime ∧ readyMachine.state = .ready ∧
      BusinessPayload (.notification digestDelta) ∧
      (Sidecar.encode compactPeers.write readyMachine (.notification digestDelta)
        maxFrameBytes).1 = .ok bytes ∧
      ∀ f, Host.decodeFrame compactPeers.serde bytes maxFrameBytes ≠ .ok f := by
  have hencode : (Sidecar.encode compactPeers.write readyMachine (.notification digestDelta) _).1 =
      .ok _ :=
    Sidecar.encode_eq_ok.mpr ⟨by decide +kernel, by decide +kernel, le_rfl, rfl⟩
  have hbusiness : BusinessPayload (.notification digestDelta) := ⟨rfl, by decide +kernel⟩
  refine ⟨_, _, readyMachine_reachable, readyMachine_ready, hbusiness, hencode, fun f hf => ?_⟩
  obtain ⟨members, hmembers, hdecode⟩ := decodeFrame_outbound compactPeers_faithful hencode
    eachNumber_delta nodupNames_delta depth_delta
  obtain ⟨params, method, hparams, hmethod, hne, hinit, hstatus⟩ :=
    notification_decoded hbusiness hmembers
  rw [hdecode, decodeEnvelope_notification hmembers nodupNames_delta hparams hmethod hne hinit
    hstatus] at hf
  cases toMembers_delta.symm.trans hmembers
  exact absurd hf.1 (by decide +kernel)

end JaDesktop.Interop
