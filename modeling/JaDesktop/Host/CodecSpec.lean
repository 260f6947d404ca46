import JaDesktop.Host.Codec

/-!
# What the codec accepts

Each function of the codec is a chain of guards.  This file reads every chain once and says
when it goes through; the results about the codec start from these statements and never unfold
the functions again.
-/

namespace JaDesktop.Host

@[simp] lemma ensure_eq_ok {c : Bool} {e : CodecError} {u : Unit} :
    ensure c e = .ok u ↔ c = true := by
  cases c <;> simp [ensure]

@[simp] lemma okOr_eq_ok {α : Type} {e : CodecError} {x : Option α} {a : α} :
    okOr e x = .ok a ↔ x = some a := by
  cases x <;> simp [okOr]

/-! ## Validation -/

/-- `validate_error` accepts the codes, messages and catalogue rows of the protocol. -/
theorem validateError_eq_ok {error : RpcError} :
    validateError error = .ok () ↔
      validErrorCode error.code = true ∧ validErrorMessage error.message = true ∧
      ∃ data jaCode retryable, error.data = .object data ∧
        SortedMap.get "jaCode" data = some (.string jaCode) ∧ validJaCode jaCode = true ∧
        SortedMap.get "retryable" data = some (.bool retryable) ∧
        (catalogEntry error.code jaCode retryable).isSome = true := by
  simp only [validateError, bind_eq_ok, ensure_eq_ok, okOr_eq_ok, Option.filter_eq_some_iff,
    Option.bind_eq_some_iff, Value.asObject_eq_some, Value.asStr_eq_some, Value.asBool_eq_some,
    Bool.and_eq_true, exists_eq_right, exists_unit, and_assoc]
  constructor
  · rintro ⟨hcode, hmessage, data, hdata, jaCode, hja, hvalid, retryable, hretry, hcatalog⟩
    exact ⟨hcode, hmessage, data, jaCode, retryable, hdata, hja, hvalid, hretry, hcatalog⟩
  · rintro ⟨hcode, hmessage, data, jaCode, retryable, hdata, hja, hvalid, hretry, hcatalog⟩
    exact ⟨hcode, hmessage, data, hdata, jaCode, hja, hvalid, retryable, hretry, hcatalog⟩

/-- `parse_error` accepts an object with the stable fields, and keeps nothing else of it. -/
theorem parseError_eq_ok {object : Map} {error : RpcError} :
    parseError object = .ok error ↔
      ∃ code message dataObject jaCode retryable,
        (SortedMap.get "code" object).bind Value.asI64 = some code ∧
        validErrorCode code = true ∧
        SortedMap.get "message" object = some (.string message) ∧
        validErrorMessage message = true ∧
        SortedMap.get "data" object = some (.object dataObject) ∧
        SortedMap.get "jaCode" dataObject = some (.string jaCode) ∧ validJaCode jaCode = true ∧
        SortedMap.get "retryable" dataObject = some (.bool retryable) ∧
        error = ⟨code, message, errorData jaCode retryable⟩ ∧ validateError error = .ok () := by
  simp only [parseError, bind_eq_ok, okOr_eq_ok, Option.filter_eq_some_iff,
    Option.bind_eq_some_iff, Value.asObject_eq_some, Value.asStr_eq_some, Value.asBool_eq_some,
    exists_eq_right, exists_unit, pure, Except.pure, Except.ok.injEq]
  constructor
  · rintro ⟨code, ⟨hcode, hcode'⟩, message, ⟨hmessage, hmessage'⟩, data, hdata, dataObject, rfl,
      jaCode, ⟨hja, hja'⟩, retryable, hretry, hvalid, rfl⟩
    exact ⟨code, message, dataObject, jaCode, retryable, hcode, hcode', hmessage, hmessage', hdata,
      hja, hja', hretry, rfl, hvalid⟩
  · rintro ⟨code, message, dataObject, jaCode, retryable, hcode, hcode', hmessage, hmessage',
      hdata, hja, hja', hretry, rfl, hvalid⟩
    exact ⟨code, ⟨hcode, hcode'⟩, message, ⟨hmessage, hmessage'⟩, _, hdata, dataObject, rfl,
      jaCode, ⟨hja, hja'⟩, retryable, hretry, hvalid, rfl⟩

/-- What the first half of `validate` establishes. -/
structure RpcFrame.FieldsOk (f : RpcFrame) : Prop where
  id : ∀ id, f.id = some id → validId id = true
  method : ∀ method, f.method = some method →
    method ≠ "" ∧ (asBytes method).length ≤ maxMethodBytes ∧
      ∃ object, f.params = some (.object object) ∧
        validateReadyTokenFields method (.object object) = .ok ()
  error : ∀ error, f.error = some error → validateError error = .ok ()
  result : ∀ value, f.result.value = some value → containsTokenShapedMarker value = false
  errorData : ∀ error, f.error = some error → containsTokenShapedMarker error.data = false

namespace RpcFrame

lemma validateMethod_eq_ok {method : String} {params : Option Value} :
    validateMethod method params = .ok () ↔
      method ≠ "" ∧ (asBytes method).length ≤ maxMethodBytes ∧
        ∃ object, params = some (.object object) ∧
          validateReadyTokenFields method (.object object) = .ok () := by
  simp only [validateMethod, bind_eq_ok, ensure_eq_ok, okOr_eq_ok, Bool.and_eq_true,
    Bool.not_eq_true', decide_eq_true_eq, exists_unit, and_assoc]
  have hempty : method.isEmpty = false ↔ method ≠ "" := by simp
  rw [hempty]
  refine and_congr_right fun _ => and_congr_right fun _ => ?_
  constructor
  · rintro ⟨hobject, p, rfl, htoken⟩
    obtain ⟨object, rfl⟩ := Value.isObject_iff.mp (by simpa using hobject)
    exact ⟨object, rfl, htoken⟩
  · rintro ⟨object, rfl, htoken⟩
    exact ⟨by simp [Value.isObject, Value.asObject], _, rfl, htoken⟩

lemma elim_eq_ok {α : Type} {x : Option α} {check : α → Except CodecError Unit} :
    x.elim (.ok ()) check = .ok () ↔ ∀ a, x = some a → check a = .ok () := by
  cases x <;> simp

theorem validateFields_eq_ok {f : RpcFrame} : f.validateFields = .ok () ↔ f.FieldsOk := by
  simp only [validateFields, bind_eq_ok, ensure_eq_ok, elim_eq_ok, validateMethod_eq_ok,
    exists_unit, Option.all_eq_true, Bool.not_eq_true', Bool.or_eq_false_iff,
    Option.any_eq_false]
  constructor
  · rintro ⟨hid, hmethod, herror, hresult, hdata⟩
    exact ⟨hid, hmethod, herror, by simpa using hresult, by simpa using hdata⟩
  · rintro ⟨hid, hmethod, herror, hresult, hdata⟩
    exact ⟨hid, hmethod, herror, by simpa using hresult, by simpa using hdata⟩

theorem validate_eq_ok {f : RpcFrame} {k : FrameKind} :
    f.validate = .ok k ↔ f.FieldsOk ∧ f.classify = .ok k := by
  rw [validate, bind_eq_ok]
  constructor
  · rintro ⟨⟨⟩, hfields, hkind⟩
    exact ⟨validateFields_eq_ok.mp hfields, hkind⟩
  · rintro ⟨hfields, hkind⟩
    exact ⟨(), validateFields_eq_ok.mpr hfields, hkind⟩

theorem validated_eq_ok {f g : RpcFrame} :
    f.validated = .ok g ↔ g = f ∧ ∃ k, f.validate = .ok k := by
  rw [validated, bind_eq_ok]
  constructor
  · rintro ⟨k, hk, h⟩
    cases h
    exact ⟨rfl, k, hk⟩
  · rintro ⟨rfl, k, hk⟩
    exact ⟨k, hk, rfl⟩

theorem request_eq_ok {expected : FrameKind} {i m : String} {params : Value} {g : RpcFrame}
    (h : request expected i m params = .ok g) :
    g = ⟨some i, some m, some params, .missing, none⟩ ∧ g.validate = .ok expected := by
  obtain ⟨kind, hkind, h⟩ := bind_eq_ok.mp h
  obtain ⟨⟨⟩, hexpected, h⟩ := bind_eq_ok.mp h
  cases h
  rw [ensure_eq_ok, decide_eq_true_eq] at hexpected
  exact ⟨rfl, hexpected ▸ hkind⟩

theorem encode_eq_ok {S : SerdeJson} {f : RpcFrame} {n : ℕ} {bytes : List UInt8} :
    f.encode S n = .ok bytes ↔
      (∃ k, f.validate = .ok k) ∧
      rejectRawTokenMarkers f.wireValue f.allowsReadyTokenPath = .ok () ∧
      (S.toVec f.wireValue).length ≤ n ∧ bytes = S.toVec f.wireValue ++ [0x0A] := by
  simp only [encode, bind_eq_ok, ensure_eq_ok, decide_eq_true_eq, exists_unit, pure,
    Except.pure, Except.ok.injEq]
  constructor
  · rintro ⟨k, hk, hraw, hlen, rfl⟩
    exact ⟨⟨k, hk⟩, hraw, hlen, rfl⟩
  · rintro ⟨⟨k, hk⟩, hraw, hlen, rfl⟩
    exact ⟨k, hk, hraw, hlen, rfl⟩

end RpcFrame

/-! ## Identifiers -/

lemma validId_of_asBytes {id : String} {first : UInt8} {rest : List UInt8}
    (h : asBytes id = 0x63 :: 0x3A :: first :: rest) (hfirst : isAsciiAlphanumeric first = true)
    (hlen : rest.length ≤ 95) (hrest : rest.all (fun byte =>
      isAsciiAlphanumeric byte || byte == 0x2E || byte == 0x5F || byte == 0x2D) = true) :
    validId id = true ∧ startsWith "c:" id = true := by
  have hsplit : splitOnce 0x3A (asBytes id) = some ([0x63], first :: rest) := by
    rw [h]
    rfl
  have hc : asBytes "c" = [0x63] := by decide
  have hsize : ¬ ((asBytes id).isEmpty || maxRequestIdBytes < (asBytes id).length) = true := by
    simp [h, maxRequestIdBytes]
    omega
  constructor
  · rw [validId, if_neg hsize]
    simp only [hsplit, hc, hfirst, hrest]
    simp
    omega
  · rw [startsWith, h]
    rfl

/-! ## Decoding -/

theorem parseStrictValue_eq_ok {S : SerdeJson} {text : String} {v : Value} :
    parseStrictValue S text = .ok v ↔
      visit (S.fromStr text).1 = .ok v ∧ (S.fromStr text).2 = true := by
  unfold parseStrictValue
  obtain ⟨doc, ended⟩ := S.fromStr text
  cases hvisit : visit doc <;> cases ended <;> simp [hvisit]

theorem decodeValue_eq_ok {S : SerdeJson} {bytes : List UInt8} {n : ℕ} {v : Value} :
    decodeValue S bytes n = .ok v ↔
      ∃ payload text, bytes = payload ++ [0x0A] ∧ payload ≠ [] ∧ payload.length ≤ n ∧
        0x0A ∉ payload ∧ payload.getLast? ≠ some 0x0D ∧ fromUtf8 payload = some text ∧
        parseStrictValue S text = .ok v := by
  simp only [decodeValue, bind_eq_ok, ensure_eq_ok, okOr_eq_ok, exists_unit, Bool.not_eq_true',
    beq_iff_eq, decide_eq_true_eq, Bool.or_eq_false_iff, List.isEmpty_eq_false_iff,
    beq_eq_false_iff_ne]
  constructor
  · rintro ⟨_, hlast, hpayload, hlen, ⟨hlf, hcr⟩, text, htext, hparse⟩
    obtain ⟨payload, rfl⟩ := List.getLast?_eq_some_iff.mp hlast
    rw [List.dropLast_concat] at hpayload hlen hlf hcr htext
    exact ⟨payload, text, rfl, hpayload, hlen, by simpa using hlf, hcr, htext, hparse⟩
  · rintro ⟨payload, text, rfl, hpayload, hlen, hlf, hcr, htext, hparse⟩
    rw [List.dropLast_concat]
    exact ⟨by simp, by simp, hpayload, hlen, ⟨by simpa using hlf, hcr⟩, text, htext, hparse⟩

theorem decodeEnvelope_eq_ok {v : Value} {f : RpcFrame} :
    decodeEnvelope v = .ok f ↔
      ∃ object, v = .object object ∧
        rejectRawTokenMarkers v (isInitializedFrame object || isReadyFrame object) = .ok () ∧
        rejectUnknownRootTokenMetadata object (isReadyFrame object) = .ok () ∧
        SortedMap.get "jsonrpc" object = some (.string "2.0") ∧
        decodeId object = .ok f.id ∧ decodeMethod object = .ok f.method ∧
        f.params = SortedMap.get "params" object ∧
        (f.method.isSome = true → f.params.any Value.isObject = true) ∧
        f.result = decodeResult object ∧ decodeError object = .ok f.error ∧
        ∃ k, f.validate = .ok k := by
  simp only [decodeEnvelope, bind_eq_ok, ensure_eq_ok, okOr_eq_ok, exists_unit,
    Value.asObject_eq_some, beq_iff_eq, RpcFrame.validated_eq_ok]
  constructor
  · rintro ⟨object, rfl, hraw, hunknown, hversion, id, hid, method, hmethod, hparams, error,
      herror, rfl, k, hk⟩
    refine ⟨object, rfl, hraw, hunknown, hversion, hid, hmethod, rfl, ?_, rfl, herror, k, hk⟩
    cases method <;> simp_all
  · rintro ⟨object, rfl, hraw, hunknown, hversion, hid, hmethod, hparams, hobject, hresult,
      herror, k, hk⟩
    obtain ⟨id, method, params, result, error⟩ := f
    cases hparams
    cases hresult
    refine ⟨object, rfl, hraw, hunknown, hversion, id, hid, method, hmethod, ?_, error, herror,
      rfl, k, hk⟩
    cases method <;> simp_all

end JaDesktop.Host
