import JaDesktop.Sidecar.HandshakeStateMachine

/-!
# Confinement of the ready challenge in the sidecar

`Confined` states what the raw guard of the sidecar is there for: the field `readyToken` stands
only in the parameters of a handshake notification, and no other key or text is a challenge.
The guard recognises the legal position by the text of its path.  A field with an empty name at
an empty path leaves the path empty, so the guard takes the position for the root once more;
`confined_iff` says that this is the only way in which an accepted frame fails to be confined.
-/

namespace JaDesktop.Sidecar

/-! ## Confined documents -/

/-- The two notifications whose parameters carry the challenge. -/
def CarriesChallenge (document : ObjectNode) : Prop :=
  ObjectNode.get (java "id") document = none ∧
    (ObjectNode.get (java "method") document = some (.string (java "initialized")) ∨
      ObjectNode.get (java "method") document = some (.string (java "runtime/statusChanged")) ∧
        ∃ params, ObjectNode.get (java "params") document = some (.object params) ∧
          ObjectNode.get (java "status") params = some (.string (java "ready")))

/-- The challenge that a document carries. -/
def Carried (document : ObjectNode) (token : JavaString) : Prop :=
  CarriesChallenge document ∧ ∃ params,
    ObjectNode.get (java "params") document = some (.object params) ∧
      ObjectNode.get (java "readyToken") params = some (.string token)

/-- The field `readyToken` stands only directly under `params` in a frame that carries the
challenge, and no other key or text, at any depth, is a remembered challenge or the challenge
that the frame carries. -/
structure Confined (known : List JavaString) (document : ObjectNode) : Prop where
  fields : ∀ p value, (Json.object document).MemberAt p (java "readyToken") value →
    p = [.key (java "params")] ∧ CarriesChallenge document
  keys : ∀ token, token ∈ known ∨ Carried document token →
    ∀ p name value, (Json.object document).MemberAt p name value → name ≠ token
  texts : ∀ token, token ∈ known ∨ Carried document token →
    ∀ p, (Json.object document).TextAt p token →
      p = [.key (java "params"), .key (java "readyToken")]

/-! ## The text of a path -/

/-- The path text that the visitors have built when they arrive at a position. -/
def textPath (path : JavaString) : List (Json.Seg JavaString) → JavaString
  | [] => path
  | .key k :: p => textPath (childPath path k) p
  | .index i :: p => textPath (elementPath path i) p

lemma textPath_of_ne_nil {path : JavaString} (hpath : path ≠ []) (p : List (Json.Seg JavaString)) :
    ∃ rest, textPath path p = path ++ rest ∧ (p ≠ [] → 0x2E ∈ rest ∨ 0x5B ∈ rest) := by
  induction p generalizing path with
  | nil => exact ⟨[], by simp [textPath], by simp⟩
  | cons seg p ih =>
    cases seg with
    | key k =>
      have hchild : childPath path k = path ++ (java "." ++ k) := by
        simp [childPath, hpath, List.isEmpty_iff]
      have hne : childPath path k ≠ [] := by simp [hchild, hpath]
      obtain ⟨rest, hrest, -⟩ := ih hne
      refine ⟨java "." ++ k ++ rest, by rw [textPath, hrest, hchild]; simp, fun _ => Or.inl ?_⟩
      simp [java, utf16Encode, utf16Char]
    | index i =>
      have hne : elementPath path i ≠ [] := by simp [elementPath, hpath]
      obtain ⟨rest, hrest, -⟩ := ih hne
      refine ⟨java "[" ++ java (toString i) ++ java "]" ++ rest, ?_, fun _ => Or.inr ?_⟩
      · rw [textPath, hrest, elementPath]
        simp
      · simp [java, utf16Encode, utf16Char]

variable {p : List (Json.Seg JavaString)} {m : Machine}

lemma eq_of_textPath_of_ne_nil {path : JavaString} (hpath : path ≠ [])
    (h : textPath path p = java "params") :
    p = [] ∧ path = java "params" := by
  obtain ⟨rest, hrest, hsep⟩ := textPath_of_ne_nil hpath p
  rw [hrest] at h
  have hnone : (0x2E : UInt16) ∉ java "params" ∧ (0x5B : UInt16) ∉ java "params" := by decide
  have hp : p = [] := by
    by_contra hp
    rw [← h] at hnone
    rcases hsep hp with hmem | hmem
    · exact hnone.1 (List.mem_append_right _ hmem)
    · exact hnone.2 (List.mem_append_right _ hmem)
  subst hp
  exact ⟨rfl, hrest.trans h⟩

/-- The positions with the path text `params`: under any number of empty names. -/
lemma eq_of_textPath (h : textPath [] p = java "params") :
    ∃ n, p = List.replicate n (.key []) ++ [.key (java "params")] := by
  induction p with
  | nil => exact absurd h (by decide)
  | cons seg p ih =>
    cases seg with
    | key k =>
      by_cases hk : k = []
      · subst hk
        obtain ⟨n, rfl⟩ := ih h
        exact ⟨n + 1, rfl⟩
      · obtain ⟨rfl, rfl⟩ := eq_of_textPath_of_ne_nil hk h
        exact ⟨0, rfl⟩
    | index i =>
      have hne : elementPath [] i ≠ [] := by simp [elementPath, java, utf16Encode, utf16Char]
      obtain ⟨-, hpath⟩ := eq_of_textPath_of_ne_nil hne h
      have hmem : (0x5B : UInt16) ∈ elementPath [] i := by
        simp [elementPath, java, utf16Encode, utf16Char]
      rw [hpath] at hmem
      exact absurd hmem (by decide)

lemma eq_of_childPath (h : childPath (textPath [] p) (java "readyToken") = java "params.readyToken") :
    ∃ n, p = List.replicate n (.key []) ++ [.key (java "params")] := by
  refine eq_of_textPath ?_
  rw [childPath] at h
  split_ifs at h with hempty
  · exact absurd h (by decide)
  · have hsplit : java "params.readyToken" = java "params" ++ java "." ++ java "readyToken" := by
      decide
    rw [hsplit] at h
    exact List.append_cancel_right (List.append_cancel_right h)

/-! ## What a visit looks at -/

section Visit

variable {forbidden : List JavaString} {legalToken : Option ReadyToken}

variable {path : JavaString} {value node : JsonNode} {p : List (Json.Seg JavaString)}

lemma isLegalPath_iff :
    isLegalPath legalToken path value = true ↔
      path = java "params.readyToken" ∧
        ∃ token, legalToken = some token ∧ value = .string token.value := by
  simp [isLegalPath, Option.any_eq_true]

lemma visitFields_mem {fields : ObjectNode}
    (h : visitFields forbidden legalToken path fields = true) {name : JavaString}
    (hm : (name, value) ∈ fields) :
    (name = java "readyToken" →
      isLegalPath legalToken (childPath path name) value = true) ∧
    (name ≠ java "readyToken" →
      name ∉ forbidden ∧ visit forbidden legalToken (childPath path name) value = true) := by
  induction fields with
  | nil => simp at hm
  | cons field fields ih =>
    obtain ⟨k, c⟩ := field
    rw [visitFields, Bool.and_eq_true] at h
    rcases List.mem_cons.mp hm with heq | hm
    · cases heq
      refine ⟨fun hk => by simpa [hk] using h.1, fun hk => ?_⟩
      have h1 := h.1
      rw [if_neg hk] at h1
      simp only [Bool.and_eq_true, Bool.not_eq_true', Bool.or_eq_false_iff] at h1
      exact ⟨by simpa using h1.1.1, h1.2⟩
    · exact ih h.2 hm

lemma visitItems_getElem {items : List JsonNode} {start : ℕ}
    (h : visitItems forbidden legalToken path start items = true) {i : ℕ} {c : JsonNode}
    (hi : items[i]? = some c) :
    visit forbidden legalToken (elementPath path (start + i)) c = true := by
  induction items generalizing start i with
  | nil => simp at hi
  | cons d items ih =>
    rw [visitItems, Bool.and_eq_true] at h
    cases i with
    | zero =>
      cases hi
      exact h.1
    | succ i =>
      have := ih h.2 (i := i) (by simpa using hi)
      rwa [show start + (i + 1) = start + 1 + i by omega]

/-- **The visit reaches every position**, except that it does not look into the text at a field
`readyToken` that it takes for the legal one. -/
theorem visit_at {w : JsonNode} (hat : node.At p w)
    (h : visit forbidden legalToken path node = true) :
    visit forbidden legalToken (textPath path p) w = true ∨
      ∃ q token, p = q ++ [.key (java "readyToken")] ∧ legalToken = some token ∧
        w = .string token.value ∧
        childPath (textPath path q) (java "readyToken") = java "params.readyToken" := by
  induction hat generalizing path with
  | here => exact Or.inl h
  | @member members k c w p hm hat ih =>
    obtain ⟨hlegal, hother⟩ := visitFields_mem h hm
    by_cases hk : k = java "readyToken"
    · obtain ⟨hpath, token, htoken, rfl⟩ := isLegalPath_iff.mp (hlegal hk)
      subst hk
      cases hat
      exact Or.inr ⟨[], token, rfl, htoken, rfl, hpath⟩
    · rcases ih (hother hk).2 with hvisit | ⟨q, token, rfl, htoken, hw, hpath⟩
      · exact Or.inl hvisit
      · exact Or.inr ⟨.key k :: q, token, rfl, htoken, hw, hpath⟩
  | @item items i c w p hi _ ih =>
    have hitems : visitItems forbidden legalToken path 0 items = true := h
    have hvisit := visitItems_getElem hitems hi
    rw [Nat.zero_add] at hvisit
    rcases ih hvisit with hvisit | ⟨q, token, rfl, htoken, hw, hpath⟩
    · exact Or.inl hvisit
    · exact Or.inr ⟨.index i :: q, token, rfl, htoken, hw, hpath⟩

/-- The fields `readyToken` of a tree that the visit passes. -/
lemma visit_readyToken (h : visit forbidden legalToken path node = true)
    (hm : node.MemberAt p (java "readyToken") value) :
    childPath (textPath path p) (java "readyToken") = java "params.readyToken" ∧
      ∃ token, legalToken = some token ∧ value = .string token.value := by
  obtain ⟨members, hat, hmem⟩ := hm
  rcases visit_at hat h with hvisit | ⟨_, _, -, -, hw, -⟩
  · exact isLegalPath_iff.mp ((visitFields_mem hvisit hmem).1 rfl)
  · cases hw

lemma visit_key {name : JavaString} (h : visit forbidden legalToken path node = true)
    (hm : node.MemberAt p name value) (hname : name ≠ java "readyToken") : name ∉ forbidden := by
  obtain ⟨members, hat, hmem⟩ := hm
  rcases visit_at hat h with hvisit | ⟨_, _, -, -, hw, -⟩
  · exact ((visitFields_mem hvisit hmem).2 hname).1
  · cases hw

lemma visit_text {s : JavaString} (h : visit forbidden legalToken path node = true)
    (ht : node.TextAt p s) (hs : s ∈ forbidden) :
    ∃ q, p = q ++ [.key (java "readyToken")] ∧
      childPath (textPath path q) (java "readyToken") = java "params.readyToken" := by
  rcases visit_at ht h with hvisit | ⟨q, _, hp, -, -, hpath⟩
  · simp [visit, hs] at hvisit
  · exact ⟨q, hp, hpath⟩

end Visit

/-! ## The legal token -/

lemma readyToken_fromJson {node : Option JsonNode} {token : ReadyToken}
    (h : ReadyToken.fromJson node = .ok token) : node = some (.string token.value) := by
  unfold ReadyToken.fromJson at h
  split at h
  · rw [ReadyToken.create] at h
    split_ifs at h with hmatch
    cases h
    rfl
  · cases h

lemma initializedParams_eq_ok {node : Option JsonNode} {token : ReadyToken}
    (h : initializedParams node = .ok token) :
    ∃ object, node = some (.object object) ∧
      ObjectNode.get (java "readyToken") object = some (.string token.value) := by
  unfold initializedParams at h
  split at h
  · rename_i object
    split_ifs at h with hsize
    exact ⟨object, rfl, readyToken_fromJson h⟩
  · cases h

lemma decode_eq_ready {s : JavaString} :
    RuntimeStatus.decode s = .ok .ready ↔ s = java "ready" := by
  constructor
  · intro h
    unfold RuntimeStatus.decode at h
    split at h
    · rename_i status hfind
      cases h
      have := List.find?_some hfind
      exact (eq_of_beq this).symm
    · cases h
  · rintro rfl
    decide

section Status

variable {T : JavaTime}

lemma requiredText_eq_ok {object : ObjectNode} {name : String} {s : JavaString}
    (h : requiredText object name = .ok s) :
    ObjectNode.get (java name) object = some (.string s) := by
  unfold requiredText at h
  split at h
  · rename_i text hget
    split_ifs at h
    cases h
    exact hget
  · cases h

lemma optionalToken_eq_ok {object : ObjectNode} {token : Option ReadyToken}
    (h : optionalToken object = .ok token) :
    ObjectNode.get (java "readyToken") object = token.map fun t => .string t.value := by
  unfold optionalToken at h
  split_ifs at h with hhas
  · obtain ⟨t, ht, rfl⟩ := map_eq_ok.mp h
    exact readyToken_fromJson ht
  · cases h
    simpa [ObjectNode.has] using hhas

lemma create_eq_ok {server : ServerInstanceId} {event : EventId} {occurredAt : T.Instant}
    {status : RuntimeStatus} {token : Option ReadyToken} {reason : Option JavaString}
    {health : Option ObjectNode} {extensions : ObjectNode}
    {params : RuntimeStatusChangedParams T}
    (h : RuntimeStatusChangedParams.create server event occurredAt status token reason health
      extensions = .ok params) :
    params.status = status ∧ params.readyToken = token := by
  unfold RuntimeStatusChangedParams.create at h
  split at h
  · cases h
    exact ⟨rfl, rfl⟩
  · cases h

/-- What `fromJson` reads of the status and the token. -/
lemma fromJson_eq_ok {node : Option JsonNode} {params : RuntimeStatusChangedParams T}
    (h : RuntimeStatusChangedParams.fromJson T node = .ok params) :
    ∃ object s, node = some (.object object) ∧
      ObjectNode.get (java "status") object = some (.string s) ∧
      RuntimeStatus.decode s = .ok params.status ∧
      ObjectNode.get (java "readyToken") object =
        params.readyToken.map fun token => .string token.value := by
  have hparse : RuntimeStatusChangedParams.parse T node = .ok params := by
    unfold RuntimeStatusChangedParams.fromJson at h
    split at h
    · cases h
    · exact h
  unfold RuntimeStatusChangedParams.parse at hparse
  split at hparse
  · rename_i object
    simp only [bind_eq_ok] at hparse
    obtain ⟨_, _, _, _, _, _, _, _, _, _, _, _, s, hs, status, hstatus, token, htoken, _, _, _, _,
      hcreate⟩ := hparse
    obtain ⟨hst, htok⟩ := create_eq_ok hcreate
    exact ⟨object, s, rfl, requiredText_eq_ok hs, hst ▸ hstatus, htok ▸ optionalToken_eq_ok htoken⟩
  · cases hparse

lemma has_id_false {document : ObjectNode}
    (h : (!ObjectNode.has (java "id") document) = true) :
    ObjectNode.get (java "id") document = none := by
  simpa [ObjectNode.has] using h

/-- The legal token of a raw frame is the challenge that the frame carries. -/
theorem legalRawToken_eq_ok {m : Machine} {document : ObjectNode} {direction : RpcDirection}
    {legal : Option ReadyToken} (h : m.legalRawToken T document direction = .ok legal)
    (s : JavaString) : Carried document s ↔ ∃ token, legal = some token ∧ token.value = s := by
  simp only [Machine.legalRawToken] at h
  split_ifs at h with hinit hstatus
  · simp only [bind_eq_ok, exists_unit, require_eq_ok, Bool.and_eq_true] at h
    obtain ⟨⟨-, hid⟩, token, htoken, -, h⟩ := h
    cases h
    obtain ⟨params, hparams, hget⟩ := initializedParams_eq_ok htoken
    have hcarries : CarriesChallenge document := ⟨has_id_false hid, Or.inl hinit⟩
    constructor
    · rintro ⟨-, params', hparams', hget'⟩
      rw [hparams] at hparams'
      cases hparams'
      rw [hget] at hget'
      cases hget'
      exact ⟨token, rfl, rfl⟩
    · rintro ⟨_, ⟨⟩, rfl⟩
      exact ⟨hcarries, params, hparams, hget⟩
  · simp only [bind_eq_ok, exists_unit, require_eq_ok] at h
    obtain ⟨hid, params, hparams, h⟩ := h
    obtain ⟨object, text, hobject, htext, hdecode, htoken⟩ := fromJson_eq_ok hparams
    split_ifs at h with hready
    · simp only [bind_eq_ok, exists_unit, require_eq_ok] at h
      obtain ⟨-, h⟩ := h
      cases h
      rw [hready, decode_eq_ready] at hdecode
      subst hdecode
      constructor
      · rintro ⟨-, object', hobject', hget⟩
        rw [hobject] at hobject'
        cases hobject'
        rw [htoken, Option.map_eq_some_iff] at hget
        obtain ⟨token, hsome, heq⟩ := hget
        cases heq
        exact ⟨token, hsome, rfl⟩
      · rintro ⟨token, hsome, rfl⟩
        refine ⟨⟨has_id_false hid, Or.inr ⟨hstatus, object, hobject, htext⟩⟩, object, hobject, ?_⟩
        rw [htoken, hsome]
        rfl
    · cases h
      constructor
      · rintro ⟨⟨-, hmethod | ⟨-, object', hobject', htext'⟩⟩, -⟩
        · exact absurd hmethod hinit
        · rw [hobject] at hobject'
          cases hobject'
          rw [htext] at htext'
          cases htext'
          rw [decode_eq_ready.mpr rfl] at hdecode
          exact absurd (Except.ok.inj hdecode).symm hready
      · rintro ⟨_, ⟨⟩, -⟩
  · cases h
    constructor
    · rintro ⟨⟨-, hmethod | ⟨hmethod, -⟩⟩, -⟩
      · exact absurd hmethod hinit
      · exact absurd hmethod hstatus
    · rintro ⟨_, ⟨⟩, -⟩

end Status

/-! ## Remembered challenges -/

/-- The machine forgets no challenge, and adds at most one. -/
def Remembers (m m' : Machine) : Prop :=
  m'.knownTokenValues = m.knownTokenValues ∨
    ∃ token : ReadyToken, m'.knownTokenValues = m.knownTokenValues ++ [token.value]

lemma failing_known {α : Type} {x : Except Thrown (α × Machine)}
    (h : ∀ a m', x = .ok (a, m') → Remembers m m') : Remembers m (m.failing x).2 := by
  unfold Machine.failing
  split
  · exact h _ _ rfl
  · exact Or.inl rfl

section Remembers

variable {T : JavaTime} (m : Machine)

lemma acceptInitialized_known (notification : RpcNotification T) :
    Remembers m (m.acceptInitialized notification).2 := by
  refine failing_known fun a m' h => ?_
  simp only [bind_eq_ok, exists_unit] at h
  obtain ⟨-, -, -, token, -, m'', haccept, h⟩ := h
  cases h
  unfold Machine.acceptChallenge at haccept
  split_ifs at haccept
  cases haccept
  exact Or.inr ⟨token, rfl⟩

lemma acceptInitializedParams_known (params : ObjectNode) :
    Remembers m (Machine.acceptInitializedParams T m params).2 := by
  unfold Machine.acceptInitializedParams
  split
  · exact Or.inl rfl
  · rename_i notification _
    have h := acceptInitialized_known m notification
    split <;> rename_i hm' <;> rw [hm'] at h <;> exact h

lemma publishReady_known (params : RuntimeStatusChangedParams T) :
    (m.publishReady params).2.knownTokenValues = m.knownTokenValues := by
  unfold Machine.publishReady Machine.failing
  split
  · rename_i ready m' h
    simp only [bind_eq_ok, exists_unit] at h
    obtain ⟨-, -, _, -, -, h⟩ := h
    cases h
    rfl
  · rfl

lemma publishReadyEvent_known (eventId : EventId) (occurredAt : T.Instant) :
    (m.publishReadyEvent eventId occurredAt).2.knownTokenValues = m.knownTokenValues := by
  unfold Machine.publishReadyEvent
  split
  · rfl
  · split
    · rfl
    · split
      · rfl
      · rename_i params _
        have h := publishReady_known m params
        split <;> rename_i hm' <;> rw [hm'] at h <;> exact h

lemma mapThrown_known {α : Type} (e : Thrown) :
    (m.mapThrown e : Except Thrown α × Machine).2.knownTokenValues = m.knownTokenValues := by
  unfold Machine.mapThrown
  split
  · split <;> rfl
  · rfl

/-- A check that leaves the machine alone keeps its history, also when it throws. -/
lemma checked_known {α : Type} (check : Except Thrown Unit) (a : α) :
    (match check with
      | .ok () => ((.ok a, m) : Except Thrown α × Machine)
      | .error e => m.mapThrown e).2.knownTokenValues = m.knownTokenValues := by
  split
  · rfl
  · exact mapThrown_known m _

lemma admitInbound_known (envelope : RpcEnvelope T) :
    Remembers m (m.admitInbound envelope).2 := by
  unfold Machine.admitInbound
  split
  · rename_i notification
    split_ifs
    · have h := acceptInitialized_known m notification
      split <;> rename_i hm' <;> rw [hm'] at h
      · exact h
      · rw [Remembers, mapThrown_known]
        exact h
    · split
      · exact Or.inl (mapThrown_known m _)
      · split_ifs
        · exact Or.inl (mapThrown_known m _)
        · exact Or.inl rfl
        · exact Or.inl rfl
    · exact Or.inl (checked_known m m.requireReady _)
  · split_ifs
    · exact Or.inl rfl
    · exact Or.inl (checked_known m m.requireReady _)

/-- One step of the machine. -/
theorem remembers_after (call : Machine.Call T) : Remembers m (m.after call) := by
  cases call with
  | acceptInitialized notification => exact acceptInitialized_known m notification
  | acceptInitializedParams params => exact acceptInitializedParams_known m params
  | publishReady params => exact Or.inl (publishReady_known m params)
  | publishReadyEvent eventId occurredAt => exact Or.inl (publishReadyEvent_known m eventId _)
  | acceptInitializedAndPublishReady notification eventId occurredAt =>
    have h := acceptInitialized_known m notification
    simp only [Machine.after, Machine.acceptInitializedAndPublishReady]
    split <;> rename_i hm' <;> rw [hm'] at h
    · exact h
    · rw [Remembers, publishReadyEvent_known]
      exact h
  | acceptInbound envelope =>
    simp only [Machine.after, Machine.acceptInbound]
    split
    · exact Or.inl (mapThrown_known m _)
    · exact admitInbound_known m envelope
  | validateRawFrame document direction =>
    simp only [Machine.after, Machine.validateRawFrame]
    split
    · exact Or.inl rfl
    · split_ifs <;> exact Or.inl rfl
    · exact Or.inl rfl
  | validateOutboundFrame envelope =>
    simp only [Machine.after, Machine.validateOutboundFrame]
    split
    · split_ifs
      · exact Or.inl rfl
      · exact Or.inl (checked_known m (m.validateEnvelope _) ())
    · exact Or.inl (checked_known m (m.validateEnvelope _) ())
  | shutdown => exact Or.inl rfl
  | restart generation id =>
    simp only [Machine.after, Machine.restart]
    split_ifs <;> exact Or.inl rfl

end Remembers

/-- **Remembered challenges are tokens**, in every reachable machine. -/
theorem matchesToken_of_reachable {T : JavaTime} (hm : m.Reachable T) :
    ∀ s ∈ m.knownTokenValues, matchesToken s = true := by
  obtain ⟨id, generation, m₀, calls, hcreate, hrun⟩ := hm
  refine hrun.stateInvariant (I := fun m => ∀ s ∈ m.knownTokenValues, matchesToken s = true) ?_ ?_
  · unfold Machine.create at hcreate
    split_ifs at hcreate
    cases hcreate
    simp
  · rintro m call m' ih rfl s hs
    rcases remembers_after m call with hknown | ⟨token, hknown⟩
    · rw [hknown] at hs
      exact ih s hs
    · rw [hknown, List.mem_append, List.mem_singleton] at hs
      rcases hs with hs | rfl
      · exact ih s hs
      · exact token.2

/-! ## The guard -/

lemma not_matchesToken_readyToken : matchesToken (java "readyToken") = false := by decide

lemma memberAt_of_at_snoc {node w : JsonNode} {q : List (Json.Seg JavaString)} {k : JavaString}
    (h : node.At (q ++ [.key k]) w) : node.MemberAt q k w := by
  induction q generalizing node with
  | nil =>
    cases h with
    | member hm hat =>
      cases hat
      exact ⟨_, .here _, hm⟩
  | cons seg q ih =>
    cases h with
    | member hm hat =>
      obtain ⟨members, hat', hmem⟩ := ih hat
      exact ⟨members, .member hm hat', hmem⟩
    | item hi hat =>
      obtain ⟨members, hat', hmem⟩ := ih hat
      exact ⟨members, .item hi hat', hmem⟩

lemma visit_of_validateRawFrame {T : JavaTime} {document : ObjectNode} {direction : RpcDirection}
    (h : (m.validateRawFrame T document direction).1 = .ok ()) :
    ∃ legal, m.legalRawToken T document direction = .ok legal ∧
      visit (m.knownTokenValues ++ (legal.map ReadyToken.value).toList) legal []
        (.object document) = true := by
  have hraw : m.validateRaw T document direction = .ok () := by
    unfold Machine.validateRawFrame at h
    split at h
    · assumption
    · split_ifs at h
    · cases h
  simp only [Machine.validateRaw, bind_eq_ok, exists_unit, Machine.visitWith, require_eq_ok] at hraw
  exact hraw.2

/-- **When an accepted raw frame is confined.**  In every reachable machine, a frame that passes
`validateRawFrame` is confined exactly when it has no field `readyToken` under `params` under one
or more fields with an empty name. -/
theorem confined_iff {T : JavaTime} {m : Machine} (hm : m.Reachable T) {document : ObjectNode}
    {direction : RpcDirection} (h : (m.validateRawFrame T document direction).1 = .ok ()) :
    Confined m.knownTokenValues document ↔
      ∀ n value, ¬ (Json.object document).MemberAt
        (List.replicate (n + 1) (.key []) ++ [.key (java "params")]) (java "readyToken") value := by
  obtain ⟨legal, hlegal, hvisit⟩ := visit_of_validateRawFrame h
  have hcarried := legalRawToken_eq_ok hlegal
  constructor
  · intro hconfined n value hmember
    have hlen := congrArg List.length (hconfined.fields _ value hmember).1
    simp at hlen
  · intro hnone
    -- an accepted field `readyToken` lies under `params` under some number of empty names
    have hfield : ∀ p value, (Json.object document).MemberAt p (java "readyToken") value →
        p = [.key (java "params")] := by
      intro p value hmember
      obtain ⟨n, rfl⟩ := eq_of_childPath (visit_readyToken hvisit hmember).1
      cases n with
      | zero => rfl
      | succ n => exact absurd hmember (hnone n value)
    have hforbidden : ∀ token, token ∈ m.knownTokenValues ∨ Carried document token →
        token ∈ m.knownTokenValues ++ (legal.map ReadyToken.value).toList ∧
          matchesToken token = true := by
      rintro token (hknown | hcarry)
      · exact ⟨List.mem_append_left _ hknown, matchesToken_of_reachable hm token hknown⟩
      · obtain ⟨t, rfl, rfl⟩ := (hcarried token).mp hcarry
        exact ⟨by simp, t.2⟩
    refine ⟨?_, ?_, ?_⟩
    · intro p value hmember
      obtain ⟨-, token, htoken, -⟩ := visit_readyToken hvisit hmember
      exact ⟨hfield p value hmember, ((hcarried _).mpr ⟨token, htoken, rfl⟩).1⟩
    · rintro token htoken p name value hmember rfl
      obtain ⟨hmem, hmatch⟩ := hforbidden name htoken
      refine visit_key hvisit hmember ?_ hmem
      rintro rfl
      rw [not_matchesToken_readyToken] at hmatch
      cases hmatch
    · intro token htoken p htext
      obtain ⟨q, rfl, -⟩ := visit_text hvisit htext (hforbidden token htoken).1
      rw [hfield q _ (memberAt_of_at_snoc htext)]
      rfl

/-- A challenge, for concrete frames. -/
def sampleToken : JavaString := java "0123456789abcdef0123456789abcdef"

/-- The initialized notification of the protocol is accepted by a fresh machine, and confined. -/
theorem confined_initialized :
    ∃ (T : JavaTime) (m : Machine) (document : ObjectNode), m.Reachable T ∧
      ObjectNode.get (java "method") document = some (.string (java "initialized")) ∧
      (m.validateRawFrame T document .clientToServer).1 = .ok () ∧
      Confined m.knownTokenValues document := by
  let T : JavaTime := ⟨Unit, fun _ => some (), fun _ => []⟩
  let id : ServerInstanceId := ⟨java "srv_1", by decide⟩
  let document : ObjectNode := [(java "method", .string (java "initialized")),
    (java "params", .object [(java "readyToken", .string sampleToken)])]
  have hreachable : Machine.Reachable T ⟨id, [], 1, .new, none⟩ := ⟨id, 1, _, [], rfl, .nil⟩
  have haccept : (Machine.validateRawFrame T ⟨id, [], 1, .new, none⟩ document
      .clientToServer).1 = .ok () := by decide
  refine ⟨T, _, document, hreachable, by decide, haccept, ?_⟩
  refine (confined_iff hreachable haccept).mpr ?_
  rintro n value ⟨members, hat, -⟩
  cases hat with
  | member hm _ =>
    have hname : ([] : JavaString) ∈ document.map Prod.fst := List.mem_map.mpr ⟨_, hm, rfl⟩
    exact absurd hname (by decide)

/-! ## A frame that is accepted and not confined -/

/-- An initialized notification with the challenge once more under an empty name. -/
def shadowedFrame : ObjectNode :=
  [(java "jsonrpc", .string (java "2.0")), (java "method", .string (java "initialized")),
    (java "params", .object [(java "readyToken", .string sampleToken)]),
    ([], .object [(java "params", .object [(java "readyToken", .string sampleToken)])])]

/-- A reachable machine accepts the frame, which is not confined. -/
theorem shadowedFrame_not_confined :
    ∃ (T : JavaTime) (m : Machine), m.Reachable T ∧
      (m.validateRawFrame T shadowedFrame .clientToServer).1 = .ok () ∧
      ¬ Confined m.knownTokenValues shadowedFrame := by
  let T : JavaTime := ⟨Unit, fun _ => some (), fun _ => []⟩
  let id : ServerInstanceId := ⟨java "srv_1", by decide⟩
  refine ⟨T, ⟨id, [], 1, .new, none⟩, ⟨id, 1, _, [], rfl, .nil⟩, by decide, ?_⟩
  intro hconfined
  have hmember : (Json.object shadowedFrame).MemberAt [.key [], .key (java "params")]
      (java "readyToken") (.string sampleToken) := by
    refine ⟨[(java "readyToken", .string sampleToken)], ?_, by simp⟩
    refine .member (c := .object [(java "params",
      .object [(java "readyToken", .string sampleToken)])]) (by simp [shadowedFrame]) ?_
    exact .member (by simp) (.here _)
  have hlen := congrArg List.length (hconfined.fields _ _ hmember).1
  simp at hlen

end JaDesktop.Sidecar
