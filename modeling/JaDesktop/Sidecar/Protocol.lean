import JaDesktop.Sidecar.JaErrorCode

/-!
# Wire objects of the Java sidecar

Jackson trees, the checks on texts and identifiers, the two handshake parameter objects and the
three envelopes.  A Java string is a sequence of UTF-16 units; `ObjectNode` keeps its fields in
insertion order.  The library `java.time` is a parameter (`JavaTime`): the sidecar parses and
prints time stamps and looks at nothing else of them.
-/

namespace JaDesktop.Sidecar

/-- The Java string of a literal. -/
def java (s : String) : JavaString := utf16Encode s

@[simp] lemma java_inj {s t : String} : java s = java t ↔ s = t := utf16Encode_injective.eq_iff

/-- A number node of Jackson, integral or floating. -/
inductive JavaNumber
  | integral (n : ℤ)
  | floating (bits : UInt64)
deriving DecidableEq

abbrev JsonNode := Json JavaString JavaNumber

/-- `ObjectNode`, its fields in insertion order. -/
abbrev ObjectNode := List (JavaString × JsonNode)

namespace ObjectNode

/-- `ObjectNode.get`. -/
def get (name : JavaString) (node : ObjectNode) : Option JsonNode := node.lookup name

/-- `ObjectNode.has`. -/
def has (name : JavaString) (node : ObjectNode) : Bool := (get name node).isSome

/-- `ObjectNode.set`: replace the value of a field in its place, or add the field at the end. -/
def set (name : JavaString) (value : JsonNode) : ObjectNode → ObjectNode
  | [] => [(name, value)]
  | (key, old) :: rest =>
    if key = name then (key, value) :: rest else (key, old) :: set name value rest

lemma mem_of_get {name : JavaString} {node : ObjectNode} {value : JsonNode}
    (h : get name node = some value) : (name, value) ∈ node := by
  induction node with
  | nil => cases h
  | cons field node ih =>
    obtain ⟨key, old⟩ := field
    rw [get, List.lookup_cons] at h
    split at h
    · rename_i heq
      rw [eq_of_beq heq, Option.some_inj.mp h]
      exact List.mem_cons_self
    · exact List.mem_cons_of_mem _ (ih h)

lemma get_of_mem {name : JavaString} {node : ObjectNode} {value : JsonNode}
    (hnodup : (node.map Prod.fst).Nodup) (h : (name, value) ∈ node) :
    get name node = some value := by
  induction node with
  | nil => cases h
  | cons field node ih =>
    obtain ⟨key, old⟩ := field
    obtain ⟨hkey, hrest⟩ := List.nodup_cons.mp hnodup
    rw [get, List.lookup_cons]
    rcases List.mem_cons.mp h with heq | hmem
    · cases heq
      simp
    · have hne : (name == key) = false := by
        rw [beq_eq_false_iff_ne]
        rintro rfl
        exact hkey (List.mem_map.mpr ⟨_, hmem, rfl⟩)
      rw [hne]
      exact ih hrest hmem

/-- Reading after `set`. -/
lemma get_set (name other : JavaString) (value : JsonNode) (node : ObjectNode) :
    get other (set name value node) = if other = name then some value else get other node := by
  induction node with
  | nil =>
    by_cases h : other = name
    · simp [set, get, h]
    · have hne : (other == name) = false := by simpa using h
      simp [set, get, List.lookup_cons, hne, h]
  | cons field node ih =>
    obtain ⟨key, old⟩ := field
    simp only [get] at ih
    by_cases hkey : key = name
    · subst hkey
      by_cases h : other = key
      · simp [set, get, h]
      · have hne : (other == key) = false := by simpa using h
        simp [set, get, List.lookup_cons, hne, h]
    · rw [set, if_neg hkey, get, get, List.lookup_cons, List.lookup_cons]
      by_cases h : other = key
      · simp [h, hkey]
      · have hne : (other == key) = false := by simpa using h
        rw [hne]
        exact ih

lemma get_java_cons (name other : String) (value : JsonNode) (node : ObjectNode) :
    get (java name) ((java other, value) :: node) =
      if name = other then some value else get (java name) node := by
  rw [get, get, List.lookup_cons]
  by_cases h : name = other
  · simp [h]
  · have hne : (java name == java other) = false := by simpa using h
    simp [hne, h]

@[simp] lemma get_nil (name : JavaString) : get name [] = none := rfl

end ObjectNode

/-! ## Checks on texts -/

/-- `UnicodeChecks.wellFormed`: every surrogate is half of a pair. -/
def wellFormed : JavaString → Bool
  | [] => true
  | current :: rest =>
    if isHighSurrogate current then
      match rest with
      | [] => false
      | next :: rest => isLowSurrogate next && wellFormed rest
    else if isLowSurrogate current then false
    else wellFormed rest

lemma wellFormed_of_ascii {s : JavaString} (h : ∀ u ∈ s, u.toNat < 0x80) :
    wellFormed s = true := by
  induction s with
  | nil => rfl
  | cons u s ih =>
    have hu : u.toNat < 0x80 := h u (by simp)
    have hhigh : isHighSurrogate u = false := by
      rw [isHighSurrogate, Bool.and_eq_false_iff]
      exact Or.inl (by simpa using by omega)
    have hlow : isLowSurrogate u = false := by
      rw [isLowSurrogate, Bool.and_eq_false_iff]
      exact Or.inl (by simpa using by omega)
    rw [wellFormed.eq_def]
    simp [hhigh, hlow, ih fun v hv => h v (by simp [hv])]

lemma utf16Decode_of_wellFormed {s : JavaString} (h : wellFormed s = true) :
    ∃ text, utf16Decode s = some text := by
  suffices hchars : ∃ cs, utf16Chars s = some cs by
    obtain ⟨cs, hcs⟩ := hchars
    exact ⟨String.ofList cs, by rw [utf16Decode, hcs]; rfl⟩
  fun_induction utf16Chars s with
  | case1 => exact ⟨[], rfl⟩
  | case2 u hu => simp [wellFormed, hu] at h
  | case3 u hu l rest hl ih =>
    rw [wellFormed, if_pos hu, Bool.and_eq_true] at h
    obtain ⟨cs, hcs⟩ := ih h.2
    exact ⟨_, by rw [hcs]; rfl⟩
  | case4 u hu l rest hl => simp [wellFormed, hu, hl] at h
  | case5 u rest hu hl =>
    rw [wellFormed.eq_def] at h
    simp [hu, hl] at h
  | case6 u rest hu hl ih =>
    rw [wellFormed.eq_def] at h
    simp only [hu, hl] at h
    obtain ⟨cs, hcs⟩ := ih h
    exact ⟨_, by rw [hcs]; rfl⟩

lemma wellFormed_append_char (c : Char) (units : JavaString) :
    wellFormed (utf16Char c ++ units) = wellFormed units := by
  rcases utf16Char_cases c with ⟨u, hchar, -, -, hhigh, hlow⟩ | ⟨h, l, hchar, -, hhigh, hlow⟩
  · rw [hchar, List.singleton_append, wellFormed.eq_def]
    simp [hhigh, hlow]
  · rw [hchar, List.cons_append, List.singleton_append, wellFormed.eq_def]
    simp [hhigh, hlow]

lemma wellFormed_java_append (s : String) (units : JavaString) :
    wellFormed (java s ++ units) = wellFormed units := by
  rw [java, utf16Encode]
  generalize s.toList = chars
  induction chars with
  | nil => rfl
  | cons c chars ih => rw [List.flatMap_cons, List.append_assoc, wellFormed_append_char, ih]

lemma wellFormed_java (s : String) : wellFormed (java s) = true := by
  have h := wellFormed_java_append s []
  rwa [List.append_nil] at h

lemma wellFormed_append {s units : JavaString} (hs : wellFormed s = true)
    (hunits : wellFormed units = true) : wellFormed (s ++ units) = true := by
  obtain ⟨t, ht⟩ := utf16Decode_of_wellFormed hs
  have hjava : s = java t := (utf16Encode_of_utf16Decode ht).symm
  rw [hjava, wellFormed_java_append, hunits]

/-- `UnicodeChecks.tree`: every text and field name of a tree is well formed. -/
def unicodeTree (node : JsonNode) : Bool :=
  !node.anyMark (fun key => !wellFormed key) fun text => !wellFormed text

/-- `Character.isWhitespace`, which has no member beyond the basic plane. -/
def isWhitespace (u : UInt16) : Bool :=
  (0x09 ≤ u && u ≤ 0x0D) || (0x1C ≤ u && u ≤ 0x20) || u == 0x1680 ||
    (0x2000 ≤ u && u ≤ 0x200A && u != 0x2007) || u == 0x2028 || u == 0x2029 || u == 0x205F ||
    u == 0x3000

variable (s : JavaString)

/-- `String.isBlank`. -/
def isBlank : Bool := s.all isWhitespace

/-- The class `[0-9a-f]`. -/
def isLowerHex (u : UInt16) : Bool := (0x30 ≤ u && u ≤ 0x39) || (0x61 ≤ u && u ≤ 0x66)

/-- The class `[A-Za-z0-9]`. -/
def isAlphanumeric (u : UInt16) : Bool :=
  (0x41 ≤ u && u ≤ 0x5A) || (0x61 ≤ u && u ≤ 0x7A) || (0x30 ≤ u && u ≤ 0x39)

/-- The class `[A-Za-z0-9._-]`. -/
def isTailUnit (u : UInt16) : Bool := isAlphanumeric u || u == 0x2E || u == 0x5F || u == 0x2D

/-- The pattern `[A-Za-z0-9][A-Za-z0-9._-]{0,95}`. -/
def matchesTail : JavaString → Bool
  | [] => false
  | first :: rest => isAlphanumeric first && rest.length ≤ 95 && rest.all isTailUnit

/-- A literal head followed by the tail pattern. -/
def matchesHeadTail (head : String) (s : JavaString) : Bool :=
  (java head).isPrefixOf s && matchesTail (s.drop (java head).length)

lemma isAlphanumeric_lt {u : UInt16} (h : isAlphanumeric u = true) : u.toNat < 0x80 := by
  simp only [isAlphanumeric, Bool.or_eq_true, Bool.and_eq_true, decide_eq_true_eq,
    UInt16.le_iff_toNat_le] at h
  have h5A : (0x5A : UInt16).toNat = 0x5A := rfl
  have h7A : (0x7A : UInt16).toNat = 0x7A := rfl
  have h39 : (0x39 : UInt16).toNat = 0x39 := rfl
  omega

lemma isTailUnit_lt {u : UInt16} (h : isTailUnit u = true) : u.toNat < 0x80 := by
  simp only [isTailUnit, Bool.or_eq_true, beq_iff_eq] at h
  rcases h with ((h | rfl) | rfl) | rfl
  · exact isAlphanumeric_lt h
  · decide
  · decide
  · decide

lemma ascii_of_matchesTail {s : JavaString} (h : matchesTail s = true) : ∀ u ∈ s, u.toNat < 0x80 := by
  cases s with
  | nil => cases h
  | cons first rest =>
    simp only [matchesTail, Bool.and_eq_true, decide_eq_true_eq, List.all_eq_true] at h
    intro u hu
    rcases List.mem_cons.mp hu with rfl | hu
    · exact isAlphanumeric_lt h.1.1
    · exact isTailUnit_lt (h.2 u hu)

lemma ascii_of_matchesHeadTail {head : String} (hhead : ∀ u ∈ java head, u.toNat < 0x80)
    {s : JavaString} (h : matchesHeadTail head s = true) : ∀ u ∈ s, u.toNat < 0x80 := by
  rw [matchesHeadTail, Bool.and_eq_true, List.isPrefixOf_iff_prefix] at h
  obtain ⟨⟨tail, rfl⟩, htail⟩ := h
  rw [List.drop_left] at htail
  intro u hu
  rcases List.mem_append.mp hu with hu | hu
  · exact hhead u hu
  · exact ascii_of_matchesTail htail u hu

/-! ## Identifiers and tokens -/

/-- A domain identifier that passed `IdChecks.require`. -/
def DomainId (head : String) := {s : JavaString // matchesHeadTail head s = true}

/-- `IdChecks.require`, the check of the record constructors. -/
def DomainId.create (head : String) (s : JavaString) : Except Thrown (DomainId head) :=
  if h : matchesHeadTail head s = true then .ok ⟨s, h⟩ else .error .runtime

instance (head : String) : DecidableEq (DomainId head) :=
  inferInstanceAs (DecidableEq {s : JavaString // matchesHeadTail head s = true})

abbrev ServerInstanceId := DomainId "srv_"

abbrev EventId := DomainId "evt_"

/-- The pattern `^[0-9a-f]{32}$`. -/
def matchesToken : Bool := s.length == 32 && s.all isLowerHex

/-- `ReadyToken`: a text that passed the pattern. -/
def ReadyToken := {s : JavaString // matchesToken s = true}

instance : DecidableEq ReadyToken :=
  inferInstanceAs (DecidableEq {s : JavaString // matchesToken s = true})

/-- `ReadyToken.value`. -/
def ReadyToken.value (token : ReadyToken) : JavaString := token.val

/-- The constructor of `ReadyToken`; a text of the pattern has no surrogates. -/
def ReadyToken.create : Except Thrown ReadyToken :=
  if h : matchesToken s = true then .ok ⟨s, h⟩ else .error handshakeFailure

/-- `ReadyToken.fromJson`. -/
def ReadyToken.fromJson : Option JsonNode → Except Thrown ReadyToken
  | some (.string s) => ReadyToken.create s
  | _ => .error handshakeFailure

inductive RpcDirection
  | clientToServer
  | serverToClient
deriving DecidableEq

/-- `RpcDirection.idPrefix`. -/
def RpcDirection.idPrefix : RpcDirection → String
  | .clientToServer => "c:"
  | .serverToClient => "s:"

/-- `ProtocolChecks.genericRequestId`; the pattern bounds the length already. -/
def genericRequestId (id : JavaString) : Bool :=
  id.length ≤ 98 && (matchesHeadTail "c:" id || matchesHeadTail "s:" id) && wellFormed id

/-- `ProtocolChecks.requestId`. -/
def requestId (id : JavaString) (direction : RpcDirection) : Bool :=
  genericRequestId id && (java direction.idPrefix).isPrefixOf id

/-- `ProtocolChecks.method`. -/
def checkMethod (method : JavaString) : Except Thrown Unit :=
  if isBlank method || 128 < method.length || method.contains 0x0A || method.contains 0x0D then
    .error (.protocol .invalidFrame)
  else if wellFormed method then .ok ()
  else .error .runtime

/-- `ProtocolChecks.RESERVED_ENVELOPE_FIELDS`. -/
def reservedEnvelopeFields : List JavaString :=
  ["jsonrpc", "id", "method", "params", "result", "error"].map java

/-- `ProtocolChecks.extensions`. -/
def checkExtensions (extensions : ObjectNode) : Except Thrown Unit :=
  if reservedEnvelopeFields.any fun name => ObjectNode.has name extensions then
    .error (.protocol .invalidFrame)
  else if unicodeTree (.object extensions) then .ok ()
  else .error .runtime

lemma get_of_checkExtensions {extensions : ObjectNode} (h : checkExtensions extensions = .ok ())
    {name : JavaString} (hname : name ∈ reservedEnvelopeFields) :
    ObjectNode.get name extensions = none := by
  rw [checkExtensions] at h
  split_ifs at h with hany
  simp only [Bool.not_eq_true, List.any_eq_false, ObjectNode.has, Option.isSome_iff_ne_none,
    not_not] at hany
  exact hany name hname

/-! ## Handshake parameters -/

/-- `InitializedParams.fromJson`, which keeps nothing but the token. -/
def initializedParams : Option JsonNode → Except Thrown ReadyToken
  | some (.object object) =>
    if object.length ≠ 1 || !ObjectNode.has (java "readyToken") object then
      .error handshakeFailure
    else ReadyToken.fromJson (ObjectNode.get (java "readyToken") object)
  | _ => .error handshakeFailure

inductive RuntimeStatus
  | starting
  | ready
  | degraded
  | shuttingDown
  | stopped
  | crashed
deriving DecidableEq

/-- `WireEnums.encode`. -/
def RuntimeStatus.encode : RuntimeStatus → String
  | .starting => "starting"
  | .ready => "ready"
  | .degraded => "degraded"
  | .shuttingDown => "shutting_down"
  | .stopped => "stopped"
  | .crashed => "crashed"

/-- `WireEnums.decode`; a text that equals one of the values is in lower case. -/
def RuntimeStatus.decode : Except Thrown RuntimeStatus :=
  match [RuntimeStatus.starting, .ready, .degraded, .shuttingDown, .stopped, .crashed].find?
      fun status => java status.encode == s with
  | some status => .ok status
  | none => .error (.protocol .invalidParams)

/-- The part of `java.time` that the sidecar uses: `Instant.parse` and `Instant.toString`. -/
structure JavaTime where
  Instant : Type
  parse : JavaString → Option Instant
  toText : Instant → JavaString

/-- `RuntimeStatusChangedParams.KNOWN_FIELDS`. -/
def knownStatusFields : List JavaString :=
  ["serverInstanceId", "eventId", "occurredAt", "status", "readyToken", "reason", "health"].map
    java

/-- The checks of the constructor of `RuntimeStatusChangedParams`. -/
def checkStatusParams (status : RuntimeStatus) (readyToken : Option ReadyToken)
    (reason : Option JavaString) (health : Option ObjectNode) (extensions : ObjectNode) :
    Except Thrown Unit := do
  if (status == .ready) != readyToken.isSome then .error handshakeFailure else .ok ()
  if reason.any fun text => decide (1024 < text.length) then .error handshakeFailure else .ok ()
  if reason.all wellFormed then .ok () else .error .runtime
  if health.all fun node => unicodeTree (.object node) then .ok () else .error .runtime
  if knownStatusFields.any fun name => ObjectNode.has name extensions then
    .error handshakeFailure
  else .ok ()
  checkExtensions extensions

structure RuntimeStatusChangedParams (T : JavaTime) where
  serverInstanceId : ServerInstanceId
  eventId : EventId
  occurredAt : T.Instant
  status : RuntimeStatus
  readyToken : Option ReadyToken
  reason : Option JavaString
  health : Option ObjectNode
  extensions : ObjectNode
  checked : checkStatusParams status readyToken reason health extensions = .ok ()

variable (object : ObjectNode)

/-- A text field that has to be there and is not blank. -/
def requiredText (name : String) : Except Thrown JavaString :=
  match ObjectNode.get (java name) object with
  | some (.string s) =>
    if isBlank s then .error handshakeFailure
    else if wellFormed s then .ok s
    else .error .runtime
  | _ => .error handshakeFailure

/-- A text field that may be missing. -/
def optionalText (name : String) : Except Thrown (Option JavaString) :=
  match ObjectNode.get (java name) object with
  | none => .ok none
  | some (.string s) => if wellFormed s then .ok (some s) else .error .runtime
  | some _ => .error handshakeFailure

/-- A token field that may be missing. -/
def optionalToken : Except Thrown (Option ReadyToken) :=
  if ObjectNode.has (java "readyToken") object then
    (ReadyToken.fromJson (ObjectNode.get (java "readyToken") object)).map some
  else .ok none

/-- An object field that may be missing. -/
def optionalObject (name : String) : Except Thrown (Option ObjectNode) :=
  match ObjectNode.get (java name) object with
  | none => .ok none
  | some (.object node) => if unicodeTree (.object node) then .ok (some node) else .error .runtime
  | some _ => .error handshakeFailure

def parseInstant (T : JavaTime) (s : JavaString) : Except Thrown T.Instant :=
  (T.parse s).elim (.error handshakeFailure) .ok

namespace RuntimeStatusChangedParams

variable {T : JavaTime}

/-- The constructor. -/
def create (serverInstanceId : ServerInstanceId) (eventId : EventId) (occurredAt : T.Instant)
    (status : RuntimeStatus) (readyToken : Option ReadyToken) (reason : Option JavaString)
    (health : Option ObjectNode) (extensions : ObjectNode) :
    Except Thrown (RuntimeStatusChangedParams T) :=
  match h : checkStatusParams status readyToken reason health extensions with
  | .ok () => .ok ⟨serverInstanceId, eventId, occurredAt, status, readyToken, reason, health,
      extensions, h⟩
  | .error e => .error e

/-- The body of `fromJson`, before its exceptions are mapped. -/
def parse (T : JavaTime) : Option JsonNode → Except Thrown (RuntimeStatusChangedParams T)
  | some (.object object) => do
    let server ← DomainId.create "srv_" (← requiredText object "serverInstanceId")
    let event ← DomainId.create "evt_" (← requiredText object "eventId")
    let occurredAt ← parseInstant T (← requiredText object "occurredAt")
    let status ← RuntimeStatus.decode (← requiredText object "status")
    let token ← optionalToken object
    let reason ← optionalText object "reason"
    let health ← optionalObject object "health"
    let extensions := object.filter fun field => !knownStatusFields.contains field.1
    create server event occurredAt status token reason health extensions
  | _ => .error handshakeFailure

/-- `fromJson`: any exception but a `ProtocolException` becomes the handshake failure. -/
def fromJson (T : JavaTime) (node : Option JsonNode) :
    Except Thrown (RuntimeStatusChangedParams T) :=
  match parse T node with
  | .error .runtime => .error handshakeFailure
  | outcome => outcome

def toJson (params : RuntimeStatusChangedParams T) : ObjectNode :=
  let node := params.extensions
  let node := ObjectNode.set (java "serverInstanceId") (.string params.serverInstanceId.val) node
  let node := ObjectNode.set (java "eventId") (.string params.eventId.val) node
  let node := ObjectNode.set (java "occurredAt") (.string (T.toText params.occurredAt)) node
  let node := ObjectNode.set (java "status") (.string (java params.status.encode)) node
  let node := params.readyToken.elim node fun token =>
    ObjectNode.set (java "readyToken") (.string token.value) node
  let node := params.reason.elim node fun reason =>
    ObjectNode.set (java "reason") (.string reason) node
  params.health.elim node fun health => ObjectNode.set (java "health") (.object health) node

end RuntimeStatusChangedParams

end JaDesktop.Sidecar
