import JaDesktop.Host.CodecSpec

/-!
# Round trip of the codec

A frame that the host can hold was made by one of the constructors of `RpcFrame` or returned by
`decodeFrame` (`RpcFrame.Built`).  Such a frame is canonical: its error data is the two-member
projection, and its result is missing or has a value.  The wire object of a canonical frame
determines every field of the frame, and so decoding what `encode` wrote gives the frame back.
-/

namespace JaDesktop.Host.RpcFrame

/-! ## The frames of the host -/

/-- The frames a caller can hold.  A value handed to a constructor is a `serde_json::Value`,
whose objects are ordered maps. -/
inductive Built (S : SerdeJson) : RpcFrame → Prop
  | clientRequest {id method : String} {params : Value} {f : RpcFrame} :
      params.WellSorted → RpcFrame.clientRequest id method params = .ok f → Built S f
  | serverRequest {id method : String} {params : Value} {f : RpcFrame} :
      params.WellSorted → RpcFrame.serverRequest id method params = .ok f → Built S f
  | notification {method : String} {params : Value} {f : RpcFrame} :
      params.WellSorted → RpcFrame.notification method params = .ok f → Built S f
  | responseResult {id : String} {value : Value} {f : RpcFrame} :
      value.WellSorted → RpcFrame.responseResult id value = .ok f → Built S f
  | responseError {id : String} {code : I64} {message jaCode : String} {retryable : Bool}
      {f : RpcFrame} :
      RpcFrame.responseError id code message jaCode retryable = .ok f → Built S f
  | decoded {bytes : List UInt8} {n : ℕ} {f : RpcFrame} :
      decodeFrame S bytes n = .ok f → Built S f

/-- The shape shared by all of them. -/
structure Canonical (f : RpcFrame) : Prop where
  params : ∀ params, f.params = some params → params.WellSorted
  result : f.result = .missing ∨ ∃ value : Value, f.result = .some value ∧ value.WellSorted
  error : ∀ error, f.error = some error →
    ∃ jaCode retryable, error.data = errorData jaCode retryable

lemma parseError_data {object : Map} {error : RpcError} (h : parseError object = .ok error) :
    ∃ jaCode retryable, error.data = errorData jaCode retryable := by
  obtain ⟨code, message, dataObject, jaCode, retryable, -, -, -, -, -, -, -, -, rfl, -⟩ :=
    parseError_eq_ok.mp h
  exact ⟨jaCode, retryable, rfl⟩

variable {v : Value} {S : SerdeJson} {f : RpcFrame}

lemma wellSorted_of_get {object : Map} {key : String}
    (hobject : (Json.object object : Value).WellSorted) (h : SortedMap.get key object = some v) :
    v.WellSorted := by
  cases hobject with
  | object _ hmembers => exact hmembers (key, v) (SortedMap.mem_of_get h)

lemma wellSorted_of_decodeValue {bytes : List UInt8} {n : ℕ} (h : decodeValue S bytes n = .ok v) :
    v.WellSorted := by
  obtain ⟨payload, text, _, _, _, _, _, _, hparse⟩ := decodeValue_eq_ok.mp h
  exact wellSorted_of_visit (parseStrictValue_eq_ok.mp hparse).1

lemma canonical_of_decodeEnvelope (hv : v.WellSorted) (h : decodeEnvelope v = .ok f) :
    f.Canonical := by
  obtain ⟨object, rfl, _, _, _, _, _, hparams, _, hresult, herror, _⟩ :=
    decodeEnvelope_eq_ok.mp h
  refine ⟨?_, ?_, ?_⟩
  · intro params h
    exact wellSorted_of_get hv (hparams ▸ h)
  · rw [hresult, decodeResult]
    split
    · rename_i value hvalue
      exact Or.inr ⟨value, rfl, wellSorted_of_get hv hvalue⟩
    · exact Or.inl rfl
  · intro error h
    rw [h, decodeError] at herror
    split at herror
    · cases herror
    · obtain ⟨error', hparse, heq⟩ := map_eq_ok.mp herror
      exact Option.some_inj.mp heq ▸ parseError_data hparse
    · cases herror

theorem Built.canonical (h : Built S f) : f.Canonical := by
  cases h with
  | clientRequest hparams h | serverRequest hparams h =>
    obtain ⟨rfl, _⟩ := request_eq_ok h
    exact ⟨by simpa using hparams, Or.inl rfl, by simp⟩
  | notification hparams h =>
    obtain ⟨rfl, _⟩ := validated_eq_ok.mp h
    exact ⟨by simpa using hparams, Or.inl rfl, by simp⟩
  | responseResult hvalue h =>
    obtain ⟨rfl, _⟩ := validated_eq_ok.mp h
    exact ⟨by simp, Or.inr ⟨_, rfl, hvalue⟩, by simp⟩
  | responseError h =>
    obtain ⟨rfl, _⟩ := validated_eq_ok.mp h
    refine ⟨by simp, Or.inl rfl, ?_⟩
    rintro error ⟨⟩
    exact ⟨_, _, rfl⟩
  | decoded h =>
    obtain ⟨v, hv, henvelope⟩ := bind_eq_ok.mp h
    exact canonical_of_decodeEnvelope (wellSorted_of_decodeValue hv) henvelope

/-! ## The wire object -/

lemma nodup_wireFields (f : RpcFrame) : (f.wireFields.map Prod.fst).Nodup := by
  obtain ⟨id, method, params, ⟨present, value⟩, error⟩ := f
  cases id <;> cases method <;> cases params <;> cases present <;> cases error <;>
    simp [wireFields]

lemma known_of_mem_wireFields {e : String × Value} (h : e ∈ f.wireFields) :
    e.1 ∈ knownRootFields := by
  obtain ⟨id, method, params, ⟨present, value⟩, error⟩ := f
  have hkeys : ∀ key ∈ (wireFields ⟨id, method, params, ⟨present, value⟩, error⟩).map Prod.fst,
      key ∈ knownRootFields := by
    cases id <;> cases method <;> cases params <;> cases present <;> cases error <;>
      simp [wireFields, knownRootFields]
  exact hkeys e.1 (List.mem_map_of_mem h)

lemma get_wireFields (f : RpcFrame) :
    let object := SortedMap.ofList f.wireFields
    SortedMap.get "jsonrpc" object = some (.string "2.0") ∧
    SortedMap.get "id" object = f.id.map .string ∧
    SortedMap.get "method" object = f.method.map .string ∧
    SortedMap.get "params" object = f.params ∧
    SortedMap.get "result" object =
      (if f.result.present then some (f.result.value.getD .null) else none) ∧
    SortedMap.get "error" object = f.error.map fun error => .object (SortedMap.ofList
      [("code", .number (.ofI64 error.code)), ("message", .string error.message),
        ("data", error.data)]) := by
  simp only [SortedMap.get_ofList f.nodup_wireFields]
  obtain ⟨id, method, params, ⟨present, value⟩, error⟩ := f
  cases id <;> cases method <;> cases params <;> cases present <;> cases error <;>
    simp [wireFields, SortedMap.get]

lemma wellSorted_errorData (jaCode : String) (retryable : Bool) :
    (errorData jaCode retryable).WellSorted := by
  have hkeys : ["jaCode", "retryable"].Pairwise (· < ·) := by decide
  refine .object hkeys ?_
  simp only [List.mem_cons, List.not_mem_nil, or_false]
  rintro m (rfl | rfl)
  · exact .string _
  · exact .bool _

/-- The wire object of a canonical frame is a value of `serde_json`. -/
theorem Canonical.wellSorted_wireValue (hf : f.Canonical) :
    f.wireValue.WellSorted := by
  refine .object (SortedMap.sorted_ofList _) fun m hm => ?_
  have hm := SortedMap.mem_of_mem_ofList hm
  simp only [wireFields, List.mem_append, List.mem_singleton, Option.mem_toList,
    Option.map_eq_some_iff] at hm
  rcases hm with ((((rfl | ⟨id, -, rfl⟩) | ⟨method, -, rfl⟩) | ⟨params, hp, rfl⟩) | hresult) |
    ⟨error, he, rfl⟩
  · exact .string _
  · exact .string _
  · exact .string _
  · exact hf.params params hp
  · rcases hf.result with hr | ⟨value, hr, hvalue⟩
    · simp [hr, Present.missing] at hresult
    · simp only [hr, Present.some, if_true, List.mem_singleton, Option.getD_some] at hresult
      exact hresult ▸ hvalue
  · refine .object (SortedMap.sorted_ofList _) fun m hm => ?_
    have hm := SortedMap.mem_of_mem_ofList hm
    simp only [List.mem_cons, List.not_mem_nil, or_false] at hm
    rcases hm with rfl | rfl | rfl
    · exact .number _
    · exact .string _
    · obtain ⟨jaCode, retryable, hdata⟩ := hf.error error he
      exact hdata ▸ wellSorted_errorData jaCode retryable

/-! ## Reading the wire object back -/

/-- The error object that `encode` writes is parsed to the same error. -/
lemma parseError_wire {error : RpcError} {jaCode : String} {retryable : Bool}
    (hdata : error.data = errorData jaCode retryable) (h : validateError error = .ok ()) :
    parseError (SortedMap.ofList [("code", .number (.ofI64 error.code)),
      ("message", .string error.message), ("data", error.data)]) = .ok error := by
  obtain ⟨hcode, hmessage, data, jaCode', retryable', hd, hja, hvalid, hretry, -⟩ :=
    validateError_eq_ok.mp h
  obtain ⟨code, message, _⟩ := error
  cases hdata
  cases hd
  have hja' : jaCode' = jaCode := by simpa [SortedMap.get, eq_comm] using hja
  subst hja'
  refine parseError_eq_ok.mpr ⟨code, message, _, jaCode', retryable, ?_, hcode, ?_, hmessage, ?_,
    hja, hvalid, ?_, rfl, h⟩
  all_goals try rw [SortedMap.get_ofList (by simp)]
  · simp [SortedMap.get]
  · simp [SortedMap.get]
  · simp [SortedMap.get]
  · simp [SortedMap.get]

/-- The raw tests of `decode_frame` agree with the test of `encode` on the wire object. -/
lemma allows_wireFields (f : RpcFrame) :
    (isInitializedFrame (SortedMap.ofList f.wireFields) ||
      isReadyFrame (SortedMap.ofList f.wireFields)) = f.allowsReadyTokenPath := by
  obtain ⟨-, -, hmethod, hparams, -, -⟩ := f.get_wireFields
  have hstr : (f.method.map (Json.string (ν := Number))).bind Value.asStr = f.method := by
    cases f.method <;> rfl
  have hstatus : ((f.params.bind Value.asObject).bind fun params =>
      (SortedMap.get "status" params).bind Value.asStr) =
        (f.params.bind (Value.get "status")).bind Value.asStr := by
    cases f.params with
    | none => rfl
    | some params => cases params <;> rfl
  rw [isInitializedFrame, isReadyFrame, hmethod, hparams, hstr, hstatus, allowsReadyTokenPath]

/-- **The wire object determines the frame.**  What `encode` accepts, `decode_frame` takes back
from the value that was written. -/
theorem decodeEnvelope_wireValue (hf : f.Canonical) {k : FrameKind} (hvalid : f.validate = .ok k)
    (hraw : rejectRawTokenMarkers f.wireValue f.allowsReadyTokenPath = .ok ()) :
    decodeEnvelope f.wireValue = .ok f := by
  obtain ⟨hfields, -⟩ := validate_eq_ok.mp hvalid
  obtain ⟨hversion, hid, hmethod, hparams, hresult, herror⟩ := f.get_wireFields
  refine decodeEnvelope_eq_ok.mpr ⟨SortedMap.ofList f.wireFields, rfl, ?_, ?_, hversion, ?_, ?_,
    hparams.symm, ?_, ?_, ?_, k, hvalid⟩
  · rwa [allows_wireFields]
  · -- every member of the wire object is a known one
    rw [rejectUnknownRootTokenMetadata, if_neg]
    simp only [List.any_eq_true, not_exists, not_and]
    intro e he
    simp [known_of_mem_wireFields (SortedMap.mem_of_mem_ofList he)]
  · rw [decodeId, hid]
    cases h : f.id with
    | none => rfl
    | some id => simp [hfields.id id h]
  · rw [decodeMethod, hmethod]
    cases h : f.method with
    | none => rfl
    | some method =>
      obtain ⟨hne, hlen, -⟩ := hfields.method method h
      simp [hne, hlen]
  · intro h
    obtain ⟨method, hm⟩ := Option.isSome_iff_exists.mp h
    obtain ⟨-, -, object, hobject, -⟩ := hfields.method method hm
    simp [hobject, Value.isObject, Value.asObject]
  · rw [decodeResult, hresult]
    rcases hf.result with hr | ⟨value, hr, -⟩ <;> simp [hr, Present.missing, Present.some]
  · rw [decodeError, herror]
    cases h : f.error with
    | none => rfl
    | some error =>
      obtain ⟨jaCode, retryable, hdata⟩ := hf.error error h
      simp only [Option.map_some]
      rw [parseError_wire hdata (hfields.error error h)]
      rfl

/-! ## The round trip -/

section RoundTrip

variable {S : SerdeJson} (hS : S.Faithful) {f : RpcFrame} {n : ℕ}

include hS

lemma decodeFrame_toVec (hf : f.Canonical) (hdepth : f.wireValue.depth < 120)
    (hint : f.wireValue.EachNumber Number.IsInt) {k : FrameKind} (hvalid : f.validate = .ok k)
    (hraw : rejectRawTokenMarkers f.wireValue f.allowsReadyTokenPath = .ok ())
    (hlen : (S.toVec f.wireValue).length ≤ n) :
    decodeFrame S (S.toVec f.wireValue ++ [0x0A]) n = .ok f := by
  obtain ⟨hlf, hcr⟩ := hS.noLineBreak f.wireValue
  have hsorted := hf.wellSorted_wireValue
  obtain ⟨text, htext, hread⟩ := hS.roundTrip _ hsorted hdepth hint
  have hparse : parseStrictValue S text = .ok f.wireValue := by
    rw [parseStrictValue_eq_ok, hread, visit_ofJson hsorted.nodupKeys (hint.imp fun _ => Number.IsInt.valid),
      hsorted.sort_eq]
    exact ⟨rfl, rfl⟩
  have hvalue : decodeValue S (S.toVec f.wireValue ++ [0x0A]) n = .ok f.wireValue := by
    refine decodeValue_eq_ok.mpr ⟨_, text, rfl, hS.nonempty _, hlen, hlf, ?_, htext, hparse⟩
    intro hlast
    exact hcr (List.mem_of_getLast? hlast)
  rw [decodeFrame, hvalue, ok_bind]
  exact decodeEnvelope_wireValue hf hvalid hraw

/-- **Round trip.**  The line that `encode` writes for a frame of the host is one payload
without line feed, of at most the allowed length, followed by a line feed; and `decode_frame`
reads the frame back from it.  The wire value is nested fewer than 120 levels and its numbers
are integers, which is where `serde_json` keeps a value. -/
theorem decodeFrame_encode (hf : Built S f) (hdepth : f.wireValue.depth < 120)
    (hint : f.wireValue.EachNumber Number.IsInt) {bytes : List UInt8}
    (h : f.encode S n = .ok bytes) :
    (∃ payload, bytes = payload ++ [0x0A] ∧ payload.length ≤ n ∧ 0x0A ∉ payload) ∧
      decodeFrame S bytes n = .ok f := by
  obtain ⟨⟨k, hvalid⟩, hraw, hlen, rfl⟩ := encode_eq_ok.mp h
  exact ⟨⟨_, rfl, hlen, (hS.noLineBreak f.wireValue).1⟩,
    decodeFrame_toVec hS hf.canonical hdepth hint hvalid hraw hlen⟩

end RoundTrip

/-- A line that `encode` wrote is read, if at all, as a frame of the same method. -/
theorem method_of_decodeFrame (hS : S.KeepsShape) {g : RpcFrame} {n k : ℕ} {bytes : List UInt8}
    (h : f.encode S n = .ok bytes) (hg : decodeFrame S bytes k = .ok g) :
    g.method = f.method := by
  obtain ⟨-, -, -, rfl⟩ := encode_eq_ok.mp h
  obtain ⟨v, hv, henvelope⟩ := bind_eq_ok.mp hg
  obtain ⟨payload, text, hpayload, -, -, -, -, htext, hparse⟩ := decodeValue_eq_ok.mp hv
  obtain ⟨rfl, -⟩ := List.append_inj' hpayload rfl
  obtain ⟨raw, hraw, hkeys, rfl⟩ := ofJson_of_visit (parseStrictValue_eq_ok.mp hparse).1
  obtain ⟨object, hobject, -, -, -, -, hmethod, -⟩ := decodeEnvelope_eq_ok.mp henvelope
  have hshape := hS _ _ _ htext hraw
  cases raw with
  | object members =>
    cases hkeys with
    | object hnodup _ =>
      cases hobject
      have hget := Json.get_of_shape hshape "method"
      obtain ⟨-, -, hwire, -⟩ := f.get_wireFields
      rw [hwire] at hget
      rw [decodeMethod, SortedMap.get_ofList (by rwa [Json.keys_sortMembers]), Json.get_sortMembers]
        at hmethod
      cases hf : f.method with
      | none =>
        rw [hf, Option.map_none, Option.map_none, Option.map_eq_none_iff] at hget
        rw [hget] at hmethod
        exact (Except.ok.inj hmethod).symm
      | some method =>
        rw [hf] at hget
        obtain ⟨w, hw, hwshape⟩ := Option.map_eq_some_iff.mp hget
        obtain rfl : w = .string method := by
          cases w <;> simp_all [Json.shape, Json.mapNumbers]
        rw [hw] at hmethod
        simp only [Option.map_some, Json.sort] at hmethod
        split_ifs at hmethod
        exact (Except.ok.inj hmethod).symm
  | _ => cases hobject

/-- The numbers of the wire object are those of the parameters, the result and the error. -/
lemma eachNumber_wireValue
    (hparams : ∀ params, f.params = some params → params.EachNumber Number.IsInt)
    (hresult : ∀ value, f.result.value = some value → value.EachNumber Number.IsInt)
    (herror : f.error = none) : f.wireValue.EachNumber Number.IsInt := by
  refine .object fun m hm => ?_
  have hm := SortedMap.mem_of_mem_ofList hm
  simp only [wireFields, herror, List.mem_append, List.mem_singleton, Option.mem_toList,
    Option.map_eq_some_iff, Option.map_none, reduceCtorEq, or_false] at hm
  rcases hm with (((rfl | ⟨id, -, rfl⟩) | ⟨method, -, rfl⟩) | ⟨params, hp, rfl⟩) | hr
  · exact .string _
  · exact .string _
  · exact .string _
  · exact hparams params hp
  · split_ifs at hr
    · rw [List.mem_singleton.mp hr]
      cases hvalue : f.result.value with
      | none => exact .null
      | some value => exact hresult value hvalue
    · simp at hr

/-- The round trip of a response with an explicit null. -/
theorem decodeFrame_encode_null :
    ∃ f bytes, responseResult "c:1" .null = .ok f ∧ f.encode compactSerde 1024 = .ok bytes ∧
      decodeFrame compactSerde bytes 1024 = .ok f := by
  refine ⟨_, _, rfl, rfl, ?_⟩
  have hbuilt : responseResult "c:1" .null = .ok _ := rfl
  refine (decodeFrame_encode compactSerde_faithful (.responseResult .null hbuilt) (by decide) ?_
    rfl).2
  refine eachNumber_wireValue (by simp) ?_ rfl
  rintro value ⟨⟩
  exact .null

end JaDesktop.Host.RpcFrame
