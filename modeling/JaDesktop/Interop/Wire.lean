import Mathlib.Data.List.Nodup
import JaDesktop.Host.CodecConfinement
import JaDesktop.Sidecar.HandshakeStateMachine

/-!
# The wire between sidecar and host

Jackson writes what `serde_json` reads.  `toValue` is the passage from a Jackson tree to the
tree that the host sees: texts are decoded from UTF-16, and numbers become what `serde_json`
makes of Jackson's spelling of them.  `Peers` gathers the two libraries, and `Peers.Faithful`
what is relied on of the pair; `compactPeers` is an instance that can be run.
-/

namespace JaDesktop.Interop

open Host (Number Value Map SerdeJson)
open Sidecar (JavaNumber JsonNode ObjectNode java)

/-! ## Trees across the wire -/

mutual

/-- The host's tree for a Jackson tree whose texts are Unicode and whose numbers are read. -/
def toValue (number : JavaNumber → Option Number) : JsonNode → Option Value
  | .null => some .null
  | .bool b => some (.bool b)
  | .number n => (number n).map .number
  | .string s => (utf16Decode s).map .string
  | .array items => (toItems number items).map .array
  | .object fields => (toMembers number fields).map .object

def toItems (number : JavaNumber → Option Number) : List JsonNode → Option (List Value)
  | [] => some []
  | child :: items =>
    (toValue number child).bind fun v => (toItems number items).map fun vs => v :: vs

def toMembers (number : JavaNumber → Option Number) : ObjectNode → Option Map
  | [] => some []
  | (name, child) :: fields =>
    (utf16Decode name).bind fun key => (toValue number child).bind fun v =>
      (toMembers number fields).map fun members => (key, v) :: members

end

/-- The two libraries: Jackson's writer, `serde_json`, what the latter makes of a number that the
former writes, and the nesting that both allow. -/
structure Peers where
  write : JsonNode → List UInt8
  serde : SerdeJson
  number : JavaNumber → Option Number
  limit : ℕ

/-- What the two sides rely on: the text of a tree is read as the tree, it has no line break in
it, integers of 64 bits are read exactly, a float that is read is finite, and 120 levels of
nesting are allowed. -/
structure Peers.Faithful (P : Peers) : Prop where
  reads : ∀ (node : JsonNode) (v : Value), toValue P.number node = some v → v.depth < P.limit →
    ∃ text, fromUtf8 (P.write node) = some text ∧ P.serde.fromStr text = (Doc.ofJson v, true)
  noLineBreak : ∀ (node : JsonNode) (v : Value), toValue P.number node = some v →
    0x0A ∉ P.write node ∧ 0x0D ∉ P.write node
  nonempty : ∀ (node : JsonNode) (v : Value), toValue P.number node = some v → P.write node ≠ []
  integral : ∀ (n : ℤ) (h : -2 ^ 63 ≤ n ∧ n < 2 ^ 64), P.number (.integral n) = some (.int ⟨n, h⟩)
  finite : ∀ (n : JavaNumber) (x : Number), P.number n = some x → x.Valid
  nesting : 120 ≤ P.limit

lemma get_sortedMembers {m : Map} (hnodup : (m.map Prod.fst).Nodup) (key : String) :
    SortedMap.get key (SortedMap.ofList (Json.sortMembers m)) =
      (SortedMap.get key m).map Json.sort := by
  rw [SortedMap.get_ofList (by rwa [Json.keys_sortMembers]), Json.get_sortMembers]

section Trees

variable {number : JavaNumber → Option Number}

lemma utf16Decode_java (s : String) : utf16Decode (java s) = some s := utf16Decode_utf16Encode s

variable {name : JavaString} {child node : JsonNode} {fields : ObjectNode} {members : Map}
  {v : Value}

lemma eq_java_iff {key : String} (h : utf16Decode name = some key) (s : String) :
    name = java s ↔ key = s := by
  constructor
  · rintro rfl
    rw [utf16Decode_java] at h
    exact (Option.some_inj.mp h).symm
  · rintro rfl
    exact (utf16Encode_of_utf16Decode h).symm

lemma toMembers_cons :
    toMembers number ((name, child) :: fields) = some members ↔
      ∃ key v rest, utf16Decode name = some key ∧ toValue number child = some v ∧
        toMembers number fields = some rest ∧ members = (key, v) :: rest := by
  simp only [toMembers, Option.bind_eq_some_iff, Option.map_eq_some_iff]
  constructor
  · rintro ⟨key, hkey, v, hv, rest, hrest, rfl⟩
    exact ⟨key, v, rest, hkey, hv, hrest, rfl⟩
  · rintro ⟨key, v, rest, hkey, hv, hrest, rfl⟩
    exact ⟨key, hkey, v, hv, rest, hrest, rfl⟩

lemma toItems_cons {items : List JsonNode} {vs : List Value} :
    toItems number (child :: items) = some vs ↔
      ∃ v rest, toValue number child = some v ∧ toItems number items = some rest ∧
        vs = v :: rest := by
  simp only [toItems, Option.bind_eq_some_iff, Option.map_eq_some_iff]
  constructor
  · rintro ⟨v, hv, rest, hrest, rfl⟩
    exact ⟨v, rest, hv, hrest, rfl⟩
  · rintro ⟨v, rest, hv, hrest, rfl⟩
    exact ⟨v, hv, rest, hrest, rfl⟩

lemma mem_toItems {items : List JsonNode} {vs : List Value} (h : toItems number items = some vs)
    (hv : v ∈ vs) : ∃ c ∈ items, toValue number c = some v := by
  induction items generalizing vs with
  | nil =>
    cases h
    simp at hv
  | cons c items ih =>
    obtain ⟨w, rest, hw, hrest, rfl⟩ := toItems_cons.mp h
    rcases List.mem_cons.mp hv with rfl | hv
    · exact ⟨c, by simp, hw⟩
    · obtain ⟨d, hd, hdv⟩ := ih hrest hv
      exact ⟨d, by simp [hd], hdv⟩

section

variable (h : toMembers number fields = some members)
include h

lemma mem_toMembers {m : String × Value}
    (hm : m ∈ members) :
    ∃ field ∈ fields, utf16Decode field.1 = some m.1 ∧ toValue number field.2 = some m.2 := by
  induction fields generalizing members with
  | nil =>
    cases h
    simp at hm
  | cons field fields ih =>
    obtain ⟨name, child⟩ := field
    obtain ⟨key, v, rest, hkey, hv, hrest, rfl⟩ := toMembers_cons.mp h
    rcases List.mem_cons.mp hm with rfl | hm
    · exact ⟨(name, child), by simp, hkey, hv⟩
    · obtain ⟨field, hfield, hdecode⟩ := ih hrest hm
      exact ⟨field, by simp [hfield], hdecode⟩

lemma toValue_of_get
    (hget : ObjectNode.get name fields = some child) : ∃ v, toValue number child = some v := by
  have hmem := ObjectNode.mem_of_get hget
  clear hget
  induction fields generalizing members with
  | nil => simp at hmem
  | cons field fields ih =>
    obtain ⟨other, c⟩ := field
    obtain ⟨key, v, rest, -, hv, hrest, rfl⟩ := toMembers_cons.mp h
    rcases List.mem_cons.mp hmem with heq | hmem
    · cases heq
      exact ⟨v, hv⟩
    · exact ih hrest hmem

lemma keys_toMembers :
    (members.map Prod.fst).map utf16Encode = fields.map Prod.fst := by
  induction fields generalizing members with
  | nil =>
    cases h
    rfl
  | cons field fields ih =>
    obtain ⟨name, child⟩ := field
    obtain ⟨key, v, rest, hkey, -, hrest, rfl⟩ := toMembers_cons.mp h
    simp only [List.map_cons, ih hrest, utf16Encode_of_utf16Decode hkey]

/-- An object without repeated names has no repeated keys on the other side. -/
lemma nodup_toMembers
    (hnodup : (fields.map Prod.fst).Nodup) :
    (members.map Prod.fst).Nodup := by
  rw [← keys_toMembers h] at hnodup
  exact List.Nodup.of_map _ hnodup

end

theorem nodupKeys_toValue (h : toValue number node = some v) (hnode : node.EachObject List.Nodup) :
    v.EachObject List.Nodup := by
  induction node using Json.ind generalizing v with
  | null => cases h; exact .null
  | bool b => cases h; exact .bool b
  | number n =>
    obtain ⟨x, -, rfl⟩ := Option.map_eq_some_iff.mp h
    exact .number x
  | string s =>
    obtain ⟨t, -, rfl⟩ := Option.map_eq_some_iff.mp h
    exact .string t
  | array items ih =>
    obtain ⟨vs, hvs, rfl⟩ := Option.map_eq_some_iff.mp h
    cases hnode with
    | array hitems =>
      refine .array fun v hv => ?_
      obtain ⟨c, hc, hcv⟩ := mem_toItems hvs hv
      exact ih c hc hcv (hitems c hc)
  | object fields ih =>
    obtain ⟨members, hmembers, rfl⟩ := Option.map_eq_some_iff.mp h
    cases hnode with
    | object hnodup hfields =>
      refine .object (nodup_toMembers hmembers hnodup) fun m hm => ?_
      obtain ⟨field, hfield, -, hvalue⟩ := mem_toMembers hmembers hm
      exact ih field hfield hvalue (hfields field hfield)

/-- What holds of all numbers that are read holds in the host's tree. -/
theorem eachNumber_toValue {Q : Number → Prop} (hvalid : ∀ n x, number n = some x → Q x)
    (h : toValue number node = some v) : v.EachNumber Q := by
  induction node using Json.ind generalizing v with
  | null => cases h; exact .null
  | bool b => cases h; exact .bool b
  | number n =>
    obtain ⟨x, hx, rfl⟩ := Option.map_eq_some_iff.mp h
    exact .number (hvalid n x hx)
  | string s =>
    obtain ⟨t, -, rfl⟩ := Option.map_eq_some_iff.mp h
    exact .string t
  | array items ih =>
    obtain ⟨vs, hvs, rfl⟩ := Option.map_eq_some_iff.mp h
    refine .array fun v hv => ?_
    obtain ⟨c, hc, hcv⟩ := mem_toItems hvs hv
    exact ih c hc hcv
  | object fields ih =>
    obtain ⟨members, hmembers, rfl⟩ := Option.map_eq_some_iff.mp h
    refine .object fun m hm => ?_
    obtain ⟨field, hfield, -, hvalue⟩ := mem_toMembers hmembers hm
    exact ih field hfield hvalue

/-- A tree of Unicode texts and readable numbers crosses the wire. -/
theorem toValue_isSome (htext : Sidecar.unicodeTree node = true)
    (hnumber : node.EachNumber fun n => (number n).isSome = true) :
    ∃ v, toValue number node = some v := by
  rw [Sidecar.unicodeTree, Bool.not_eq_true'] at htext
  induction node using Json.ind with
  | null => exact ⟨.null, rfl⟩
  | bool b => exact ⟨.bool b, rfl⟩
  | number n =>
    cases hnumber with
    | number hn =>
      obtain ⟨x, hx⟩ := Option.isSome_iff_exists.mp hn
      exact ⟨.number x, by simp [toValue, hx]⟩
  | string s =>
    obtain ⟨t, ht⟩ := Sidecar.utf16Decode_of_wellFormed (by simpa [Json.anyMark] using htext)
    exact ⟨.string t, by simp [toValue, ht]⟩
  | array items ih =>
    cases hnumber with
    | array hitems =>
      suffices hvs : ∃ vs, toItems number items = some vs by
        obtain ⟨vs, hvs⟩ := hvs
        exact ⟨.array vs, by simp [toValue, hvs]⟩
      rw [Json.anyMark] at htext
      induction items with
      | nil => exact ⟨[], rfl⟩
      | cons c items ihitems =>
        rw [Json.anyMarkItems, Bool.or_eq_false_iff] at htext
        obtain ⟨v, hv⟩ := ih c (by simp) htext.1 (hitems c (by simp))
        obtain ⟨vs, hvs⟩ := ihitems (fun d hd => ih d (by simp [hd])) htext.2
          fun d hd => hitems d (by simp [hd])
        exact ⟨v :: vs, toItems_cons.mpr ⟨v, vs, hv, hvs, rfl⟩⟩
  | object fields ih =>
    cases hnumber with
    | object hfields =>
      suffices hms : ∃ ms, toMembers number fields = some ms by
        obtain ⟨ms, hms⟩ := hms
        exact ⟨.object ms, by simp [toValue, hms]⟩
      rw [Json.anyMark] at htext
      induction fields with
      | nil => exact ⟨[], rfl⟩
      | cons field fields ihfields =>
        obtain ⟨name, c⟩ := field
        rw [Json.anyMarkMembers, Bool.or_eq_false_iff, Bool.or_eq_false_iff] at htext
        obtain ⟨key, hkey⟩ := Sidecar.utf16Decode_of_wellFormed (by simpa using htext.1.1)
        obtain ⟨v, hv⟩ := ih (name, c) (by simp) htext.1.2 (hfields (name, c) (by simp))
        obtain ⟨ms, hms⟩ := ihfields (fun d hd => ih d (by simp [hd])) htext.2
          fun d hd => hfields d (by simp [hd])
        exact ⟨(key, v) :: ms, toMembers_cons.mpr ⟨key, v, ms, hkey, hv, hms, rfl⟩⟩

/-- The passage keeps the nesting. -/
theorem depth_toValue (h : toValue number node = some v) :
    v.depth = node.depth := by
  induction node using Json.ind generalizing v with
  | null => cases h; rfl
  | bool b => cases h; rfl
  | number n =>
    obtain ⟨x, -, rfl⟩ := Option.map_eq_some_iff.mp h
    rfl
  | string s =>
    obtain ⟨t, -, rfl⟩ := Option.map_eq_some_iff.mp h
    rfl
  | array items ih =>
    obtain ⟨vs, hvs, rfl⟩ := Option.map_eq_some_iff.mp h
    suffices hitems : Json.depthItems vs = Json.depthItems items by simp [Json.depth, hitems]
    clear h
    induction items generalizing vs with
    | nil => cases hvs; rfl
    | cons c items ihitems =>
      obtain ⟨w, rest, hw, hrest, rfl⟩ := toItems_cons.mp hvs
      simp only [Json.depthItems, ih c (by simp) hw,
        ihitems (fun d hd => ih d (by simp [hd])) rest hrest]
  | object fields ih =>
    obtain ⟨ms, hms, rfl⟩ := Option.map_eq_some_iff.mp h
    suffices hfields : Json.depthMembers ms = Json.depthMembers fields by
      simp [Json.depth, hfields]
    clear h
    induction fields generalizing ms with
    | nil => cases hms; rfl
    | cons field fields ihfields =>
      obtain ⟨name, c⟩ := field
      obtain ⟨key, w, rest, -, hw, hrest, rfl⟩ := toMembers_cons.mp hms
      simp only [Json.depthMembers, ih (name, c) (by simp) hw,
        ihfields (fun d hd => ih d (by simp [hd])) rest hrest]

lemma get_toMembers (h : toMembers number fields = some members) (key : String) :
    SortedMap.get key members = (ObjectNode.get (java key) fields).bind (toValue number) := by
  induction fields generalizing members with
  | nil =>
    cases h
    rfl
  | cons field fields ih =>
    obtain ⟨name, child⟩ := field
    obtain ⟨k, v, rest, hk, hv, hrest, rfl⟩ := toMembers_cons.mp h
    rw [SortedMap.get, ObjectNode.get, List.lookup_cons]
    by_cases heq : key = k
    · have hname : java key = name := ((eq_java_iff hk key).mpr heq.symm).symm
      simp [heq, ← hname, hv]
    · have hname : (java key == name) = false := by
        rw [beq_eq_false_iff_ne]
        exact fun h' => heq ((eq_java_iff hk key).mp h'.symm).symm
      simp only [heq, if_false, hname]
      exact ih hrest

lemma get_sorted (h : toMembers number fields = some members) (hnodup : (fields.map Prod.fst).Nodup)
    (key : String) :
    SortedMap.get key (SortedMap.ofList (Json.sortMembers members)) =
      ((ObjectNode.get (java key) fields).bind (toValue number)).map Json.sort := by
  rw [get_sortedMembers (nodup_toMembers h hnodup), get_toMembers h]

end Trees

/-- **Decoding what Jackson wrote** is decoding the host's tree for it. -/
theorem decodeFrame_write {P : Peers} (hP : P.Faithful) {node : JsonNode} {v : Value}
    (hv : toValue P.number node = some v) (hkeys : v.EachObject List.Nodup)
    (hdepth : v.depth < P.limit) {n : ℕ} (hlen : (P.write node).length ≤ n) :
    Host.decodeFrame P.serde (P.write node ++ [0x0A]) n = Host.decodeEnvelope v.sort := by
  obtain ⟨hlf, hcr⟩ := hP.noLineBreak node v hv
  obtain ⟨text, htext, hread⟩ := hP.reads node v hv hdepth
  have hparse : Host.parseStrictValue P.serde text = .ok v.sort := by
    rw [Host.parseStrictValue_eq_ok, hread]
    exact ⟨Host.visit_ofJson hkeys (eachNumber_toValue hP.finite hv), rfl⟩
  have hvalue : Host.decodeValue P.serde (P.write node ++ [0x0A]) n = .ok v.sort := by
    refine Host.decodeValue_eq_ok.mpr ⟨_, text, rfl, hP.nonempty node v hv, hlen, hlf, ?_, htext,
      hparse⟩
    intro hlast
    exact hcr (List.mem_of_getLast? hlast)
  rw [Host.decodeFrame, hvalue, ok_bind]

/-- **Decoding a plain frame**: outside of the two handshake notifications the guards amount to
the search for marks in the tree as it was sent. -/
theorem decodeEnvelope_plain {members sorted : Map}
    (hsorted : sorted = SortedMap.ofList (Json.sortMembers members))
    (hkeys : (Json.object members : Value).EachObject List.Nodup)
    (hplain : (Host.isInitializedFrame sorted || Host.isReadyFrame sorted) = false)
    {f : Host.RpcFrame} :
    Host.decodeEnvelope (.object sorted) = .ok f ↔
      Host.containsTokenShapedMarker (.object members) = false ∧
      SortedMap.get "jsonrpc" sorted = some (.string "2.0") ∧
      Host.decodeId sorted = .ok f.id ∧ Host.decodeMethod sorted = .ok f.method ∧
      f.params = SortedMap.get "params" sorted ∧
      (f.method.isSome = true → f.params.any Value.isObject = true) ∧
      f.result = Host.decodeResult sorted ∧ Host.decodeError sorted = .ok f.error ∧
      ∃ k, f.validate = .ok k := by
  have hmark : Host.containsTokenShapedMarker (.object sorted) =
      Host.containsTokenShapedMarker (.object members) := by
    rw [hsorted]
    exact Json.anyMark_sort hkeys
  rw [Host.decodeEnvelope_eq_ok, ← hmark, ← Host.guards_of_plain hplain]
  constructor
  · rintro ⟨_, ⟨⟩, hraw, hunknown, hrest⟩
    exact ⟨⟨hraw, hunknown⟩, hrest⟩
  · rintro ⟨⟨hraw, hunknown⟩, hrest⟩
    exact ⟨sorted, rfl, hraw, hunknown, hrest⟩

/-! ## Identifiers -/

lemma isAlphanumeric_byte {u : UInt16} (h : Sidecar.isAlphanumeric u = true) :
    u.toNat < 0x80 ∧ isAsciiAlphanumeric (UInt8.ofNat u.toNat) = true := by
  have hlt := Sidecar.isAlphanumeric_lt h
  have hbyte : ∀ n < 0x80, Sidecar.isAlphanumeric (UInt16.ofNat n) = true →
      isAsciiAlphanumeric (UInt8.ofNat n) = true := by decide
  exact ⟨hlt, hbyte u.toNat hlt (by simpa using h)⟩

lemma isTailUnit_byte {u : UInt16} (h : Sidecar.isTailUnit u = true) :
    u.toNat < 0x80 ∧ (isAsciiAlphanumeric (UInt8.ofNat u.toNat) ||
      UInt8.ofNat u.toNat == 0x2E || UInt8.ofNat u.toNat == 0x5F ||
      UInt8.ofNat u.toNat == 0x2D) = true := by
  simp only [Sidecar.isTailUnit, Bool.or_eq_true, beq_iff_eq] at h
  rcases h with ((h | rfl) | rfl) | rfl
  · obtain ⟨hlt, hbyte⟩ := isAlphanumeric_byte h
    exact ⟨hlt, by simp only [hbyte, Bool.true_or]⟩
  · decide
  · decide
  · decide

variable {s : JavaString}

lemma decode_of_matchesHeadTail {head : String} (hhead : ∀ u ∈ java head, u.toNat < 0x80)
    (hs : Sidecar.matchesHeadTail head s = true) :
    ∃ t, utf16Decode s = some t ∧ asBytes t = s.map fun u => UInt8.ofNat u.toNat := by
  have hascii := Sidecar.ascii_of_matchesHeadTail hhead hs
  have hdecode : utf16Decode s = some (String.ofList (s.map fun u => Char.ofNat u.toNat)) := by
    rw [utf16Decode, utf16Chars_of_ascii hascii]
    rfl
  exact ⟨_, hdecode, asBytes_of_asciiUnits hascii hdecode⟩

lemma split_requestId (hs : Sidecar.requestId s .clientToServer = true) :
    ∃ tail, s = 0x63 :: 0x3A :: tail ∧ Sidecar.matchesTail tail = true := by
  have hc : java "c:" = [0x63, 0x3A] := by decide
  have hsrv : java "s:" = [0x73, 0x3A] := by decide
  simp only [Sidecar.requestId, Sidecar.genericRequestId, Sidecar.RpcDirection.idPrefix,
    Sidecar.matchesHeadTail, hc, hsrv, Bool.and_eq_true, Bool.or_eq_true,
    List.isPrefixOf_iff_prefix] at hs
  obtain ⟨⟨⟨-, hpattern⟩, -⟩, tail, rfl⟩ := hs
  refine ⟨tail, rfl, ?_⟩
  rcases hpattern with ⟨-, htail⟩ | ⟨⟨other, heq⟩, -⟩
  · simpa using htail
  · simp at heq

/-- A request identifier of the sidecar is an identifier for the host. -/
theorem validId_of_requestId {t : String} (hs : Sidecar.requestId s .clientToServer = true)
    (h : utf16Decode s = some t) :
    Host.validId t = true ∧ Host.startsWith "c:" t = true := by
  obtain ⟨tail, rfl, htail⟩ := split_requestId hs
  cases tail with
  | nil => cases htail
  | cons first rest =>
    simp only [Sidecar.matchesTail, Bool.and_eq_true, decide_eq_true_eq, List.all_eq_true] at htail
    obtain ⟨⟨hfirst, hlen⟩, hrest⟩ := htail
    have hbytes : asBytes t = 0x63 :: 0x3A :: UInt8.ofNat first.toNat ::
        rest.map fun u => UInt8.ofNat u.toNat := by
      refine asBytes_of_asciiUnits ?_ h
      simp only [List.mem_cons]
      rintro x (rfl | rfl | rfl | hx)
      · decide
      · decide
      · exact (isAlphanumeric_byte hfirst).1
      · exact (isTailUnit_byte (hrest x hx)).1
    refine Host.validId_of_asBytes hbytes (isAlphanumeric_byte hfirst).2 (by simpa using hlen) ?_
    rw [List.all_eq_true]
    simp only [List.mem_map]
    rintro _ ⟨u, hu, rfl⟩
    exact (isTailUnit_byte (hrest u hu)).2

/-! ## An instance of the two libraries -/

/-- Compact JSON with integer numbers, written and read. -/
def compactPeers : Peers where
  write node := ((toValue (fun
    | .integral n => Number.ofInt? n
    | .floating _ => none) node).map Host.compactSerde.toVec).getD []
  serde := Host.compactSerde
  number
    | .integral n => Number.ofInt? n
    | .floating _ => none
  limit := 128

theorem compactPeers_faithful : compactPeers.Faithful := by
  have hwrite : ∀ (node : JsonNode) (v : Value), toValue compactPeers.number node = some v →
      compactPeers.write node = Host.compactSerde.toVec v := by
    intro node v h
    exact congrArg (fun o => (o.map Host.compactSerde.toVec).getD []) h
  have hint : ∀ (n : JavaNumber) (x : Number), compactPeers.number n = some x → x.IsInt := by
    rintro (n | bits) x h
    · simp only [compactPeers, Number.ofInt?] at h
      split_ifs at h
      cases h
      trivial
    · cases h
  refine ⟨?_, ?_, ?_, ?_, ?_, by decide⟩
  · intro node v h _
    rw [hwrite node v h]
    exact Host.compactSerde_reads (eachNumber_toValue hint h)
  · intro node v h
    rw [hwrite node v h]
    exact Host.compactSerde_faithful.noLineBreak v
  · intro node v h
    rw [hwrite node v h]
    exact Host.compactSerde_faithful.nonempty v
  · intro n h
    exact dif_pos h
  · intro n x h
    exact (hint n x h).valid

end JaDesktop.Interop
