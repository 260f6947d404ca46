import JaDesktop.Host.CodecRoundTrip

/-!
# Confinement of the ready challenge in the Rust codec

The challenge may stand in one place only: as the member `readyToken` of the parameters of the
two handshake notifications.  `Confined` states this of a whole JSON tree, over all paths.  A
frame that `decode_frame` accepts, or that `encode` emits, has a confined tree: the raw visit
looks at every position outside the legal one, and skips the subtree there, which the later
check of the parameters then finds to be a text.
-/

namespace JaDesktop.Host

/-! ## What a mark is -/

/-- A hexadecimal digit. -/
def IsHexDigit (c : Char) : Prop :=
  ('0' ≤ c ∧ c ≤ '9') ∨ ('a' ≤ c ∧ c ≤ 'f') ∨ ('A' ≤ c ∧ c ≤ 'F')

/-- A lower-case hexadecimal digit. -/
def IsLowerHexDigit (c : Char) : Prop := ('0' ≤ c ∧ c ≤ '9') ∨ ('a' ≤ c ∧ c ≤ 'f')

/-- A text of exactly 32 hexadecimal digits. -/
def Hex32 (s : String) : Prop := s.toList.length = 32 ∧ ∀ c ∈ s.toList, IsHexDigit c

/-- A text of exactly 32 lower-case hexadecimal digits. -/
def LowerHex32 (s : String) : Prop := s.toList.length = 32 ∧ ∀ c ∈ s.toList, IsLowerHexDigit c

/-- The text `readyToken` up to ASCII case. -/
def ReadyTokenLike (s : String) : Prop := s.toList.map Char.toLower = "readytoken".toList

variable {s : String} {v raw : Value} {allow : Bool} {path : List String} {object : Map}

/-- The byte test of a fixed number of ASCII characters, as a test of the characters. -/
lemma length_all_asBytes_iff {p : UInt8 → Bool} {Q : Char → Prop} {n : ℕ}
    (hp : ∀ b, p b = true → b.toNat < 0x80)
    (hQ : ∀ c : Char, Q c ↔ c.toNat < 0x80 ∧ p (UInt8.ofNat c.toNat) = true) :
    ((asBytes s).length == n && (asBytes s).all p) = true ↔
      s.toList.length = n ∧ ∀ c ∈ s.toList, Q c := by
  rw [Bool.and_eq_true, beq_iff_eq, List.all_eq_true]
  have hall : (∀ b ∈ asBytes s, p b = true) ↔ ∀ c ∈ s.toList, Q c := by
    rw [forall_asBytes_iff hp]
    simp only [hQ]
  rw [hall]
  refine and_congr_left fun h => ?_
  rw [asBytes_of_ascii fun c hc => ((hQ c).mp (h c hc)).1, List.length_map]

lemma toNat_lt_of_le {b c : UInt8} (h : b ≤ c) (hc : c.toNat < 0x80) : b.toNat < 0x80 :=
  lt_of_le_of_lt (UInt8.le_iff_toNat_le.mp h) hc

theorem isTokenShaped_iff : isTokenShaped s = true ↔ Hex32 s := by
  refine length_all_asBytes_iff ?_ ?_
  · intro b hb
    simp only [isAsciiHexdigit, isAsciiDigit, Bool.or_eq_true, Bool.and_eq_true,
      decide_eq_true_eq] at hb
    rcases hb with (hb | hb) | hb <;> exact toNat_lt_of_le hb.2 (by decide)
  · intro c
    have hbyte : ∀ n < 0x80, isAsciiHexdigit (UInt8.ofNat n) = true ↔
        (0x30 ≤ n ∧ n ≤ 0x39) ∨ (0x61 ≤ n ∧ n ≤ 0x66) ∨ (0x41 ≤ n ∧ n ≤ 0x46) := by decide
    constructor
    · intro h
      have hlt : c.toNat < 0x80 := by
        rcases h with h | h | h <;> exact lt_of_le_of_lt h.2 (by decide)
      exact ⟨hlt, (hbyte _ hlt).mpr h⟩
    · rintro ⟨hlt, h⟩
      exact (hbyte _ hlt).mp h

theorem validReadyToken_iff : validReadyToken s = true ↔ LowerHex32 s := by
  refine length_all_asBytes_iff ?_ ?_
  · intro b hb
    simp only [Bool.or_eq_true, Bool.and_eq_true, decide_eq_true_eq] at hb
    rcases hb with hb | hb <;> exact toNat_lt_of_le hb.2 (by decide)
  · intro c
    have hbyte : ∀ n < 0x80, ((0x30 ≤ UInt8.ofNat n && UInt8.ofNat n ≤ 0x39) ||
        (0x61 ≤ UInt8.ofNat n && UInt8.ofNat n ≤ 0x66)) = true ↔
        (0x30 ≤ n ∧ n ≤ 0x39) ∨ (0x61 ≤ n ∧ n ≤ 0x66) := by decide
    constructor
    · intro h
      have hlt : c.toNat < 0x80 := by
        rcases h with h | h <;> exact lt_of_le_of_lt h.2 (by decide)
      exact ⟨hlt, (hbyte _ hlt).mpr h⟩
    · rintro ⟨hlt, h⟩
      exact (hbyte _ hlt).mp h

lemma toLower_of_le {c : Char} (h : 0x80 ≤ c.toNat) : c.toLower = c := by
  have hupper : ¬ (c.val ≥ 'A'.val ∧ c.val ≤ 'Z'.val) := by
    rintro ⟨-, hle⟩
    have : c.toNat ≤ 0x5A := hle
    omega
  exact dif_neg hupper

/-- Lower-casing the bytes of an ASCII text is lower-casing its characters. -/
lemma map_toAsciiLowercase_asBytes (h : ∀ c ∈ s.toList, c.toNat < 0x80) :
    (asBytes s).map toAsciiLowercase =
      (s.toList.map Char.toLower).map fun c => UInt8.ofNat c.toNat := by
  have hbyte : ∀ n < 0x80, toAsciiLowercase (UInt8.ofNat n) =
      UInt8.ofNat (Char.ofNat n).toLower.toNat := by decide
  rw [asBytes_of_ascii h, List.map_map, List.map_map]
  refine List.map_congr_left fun c hc => ?_
  have := hbyte c.toNat (h c hc)
  rwa [Char.ofNat_toNat] at this

lemma map_byte_injective {cs ds : List Char} (hcs : ∀ c ∈ cs, c.toNat < 0x80)
    (hds : ∀ d ∈ ds, d.toNat < 0x80)
    (h : (cs.map fun c => UInt8.ofNat c.toNat) = ds.map fun d => UInt8.ofNat d.toNat) :
    cs = ds := by
  have hback : ∀ l : List Char, (∀ c ∈ l, c.toNat < 0x80) →
      (l.map fun c => UInt8.ofNat c.toNat).map (fun b => Char.ofNat b.toNat) = l := by
    intro l hl
    rw [List.map_map]
    refine (List.map_congr_left fun c hc => ?_).trans (List.map_id l)
    have hc := hl c hc
    simp [Nat.mod_eq_of_lt (show c.toNat < 256 by omega)]
  rw [← hback cs hcs, h, hback ds hds]

theorem isReadyTokenKey_iff : isReadyTokenKey s = true ↔ ReadyTokenLike s := by
  have htarget : (asBytes readyTokenField).map toAsciiLowercase =
      "readytoken".toList.map fun c => UInt8.ofNat c.toNat := by decide
  have hascii : ∀ b ∈ (asBytes readyTokenField).map toAsciiLowercase, b.toNat < 0x80 :=
    forall_mem_of_all (by decide)
  have hchars : ∀ c ∈ "readytoken".toList, c.toNat < 0x80 := forall_mem_of_all (by decide)
  rw [isReadyTokenKey, beq_iff_eq, ReadyTokenLike]
  constructor
  · intro h
    have hs : ∀ c ∈ s.toList, c.toNat < 0x80 := by
      refine ascii_of_asBytes fun b hb => ?_
      by_contra hge
      have hb' : toAsciiLowercase b = b := by
        rw [toAsciiLowercase, if_neg]
        simp only [isAsciiUppercase, Bool.and_eq_true, decide_eq_true_eq, not_and]
        exact fun _ hle => hge (toNat_lt_of_le hle (by decide))
      exact hge (hb' ▸ hascii _ (h ▸ List.mem_map_of_mem hb))
    rw [map_toAsciiLowercase_asBytes hs, htarget] at h
    have hlower : ∀ n < 0x80, (Char.ofNat n).toLower.toNat < 0x80 := by decide
    refine map_byte_injective ?_ hchars h
    simp only [List.mem_map]
    rintro _ ⟨c, hc, rfl⟩
    have := hlower c.toNat (hs c hc)
    rwa [Char.ofNat_toNat] at this
  · intro h
    have hs : ∀ c ∈ s.toList, c.toNat < 0x80 := by
      intro c hc
      by_contra hge
      have hmem : c.toLower ∈ "readytoken".toList := h ▸ List.mem_map_of_mem hc
      rw [toLower_of_le (by omega)] at hmem
      exact hge (hchars c hmem)
    rw [map_toAsciiLowercase_asBytes hs, h, htarget]

/-- A key that is reserved for the challenge. -/
def MarkerKey (key : String) : Prop := ReadyTokenLike key ∨ Hex32 key

lemma isMarkerKey_iff {key : String} : isMarkerKey key = true ↔ MarkerKey key := by
  rw [isMarkerKey, Bool.or_eq_true, isReadyTokenKey_iff, isTokenShaped_iff, MarkerKey]

/-! ## Confined trees -/

/-- The two notifications whose parameters carry the challenge. -/
def CarriesChallenge (root : Value) : Prop :=
  root.get "method" = some (.string "initialized") ∨
    root.get "method" = some (.string "runtime/statusChanged") ∧
      ∃ params, root.get "params" = some params ∧ params.get "status" = some (.string "ready")

/-- No key and no text of the tree, at any depth, is a mark of the challenge, except for the
member `readyToken` of the parameters in a frame that carries it, whose value then is a text of
32 lower-case hexadecimal digits. -/
structure Confined (root : Value) : Prop where
  keys : ∀ p k c, root.MemberAt p k c → MarkerKey k →
    CarriesChallenge root ∧ p = [.key "params"] ∧ k = "readyToken" ∧
      ∃ token, c = .string token ∧ LowerHex32 token
  texts : ∀ p s, root.TextAt p s → Hex32 s →
    CarriesChallenge root ∧ p = [.key "params", .key "readyToken"] ∧ LowerHex32 s

lemma no_mark_of_contains (h : containsTokenShapedMarker v = false) :
    (∀ p k c, v.MemberAt p k c → ¬ MarkerKey k) ∧ ∀ p s, v.TextAt p s → ¬ Hex32 s := by
  have hnot : ¬ v.anyMark isMarkerKey isTokenShaped = true := by
    rw [← containsTokenShapedMarker, h]
    simp
  rw [Json.anyMark_iff, not_or] at hnot
  refine ⟨fun p k c hm hk => hnot.1 ⟨p, k, c, hm, isMarkerKey_iff.mpr hk⟩, fun p s ht hs => ?_⟩
  exact hnot.2 ⟨p, s, ht, isTokenShaped_iff.mpr hs⟩

lemma containsTokenShapedMarker_string (s : String) :
    containsTokenShapedMarker (.string s) = isTokenShaped s := rfl

/-! ## The raw visit -/

/-- The stack of keys is outside the part of the tree where the visit makes its exception. -/
def OffPath (allow : Bool) (path : List String) : Prop :=
  allow = false ∨ 2 ≤ path.length ∨ ∃ k rest, path = k :: rest ∧ k ≠ "params"

lemma OffPath.snoc (h : OffPath allow path) (k : String) :
    OffPath allow (path ++ [k]) := by
  rcases h with h | h | ⟨l, rest, rfl, hl⟩
  · exact Or.inl h
  · refine Or.inr (Or.inl ?_)
    rw [List.length_append]
    omega
  · exact Or.inr (Or.inr ⟨l, rest ++ [k], rfl, hl⟩)

/-- The exception that `visit` makes at a member. -/
lemma legal_of_offPath (h : OffPath allow path) (k : String) :
    (allow && (path ++ [k]).length == 2 && (path ++ [k])[0]? == some "params" &&
      k == "readyToken") = false := by
  rcases h with rfl | h | ⟨l, rest, rfl, hl⟩
  · rfl
  · have : ((path ++ [k]).length == 2) = false := by simp; omega
    simp only [this, Bool.and_false, Bool.false_and]
  · have : ((l :: rest ++ [k])[0]? == some "params") = false := by simpa using hl
    simp only [this, Bool.and_false, Bool.false_and]

/-- The value check of `visit` repeats what the visit of the child finds. -/
lemma asStr_or_contains (v : Value) :
    (v.asStr.any isTokenShaped || containsTokenShapedMarker v) = containsTokenShapedMarker v := by
  cases v <;> simp [Value.asStr, containsTokenShapedMarker_string]

/-- **Off the path the visit is a plain search.** -/
theorem visitRaw_of_offPath (v : Value) (h : OffPath allow path) :
    visitRaw allow path v = containsTokenShapedMarker v := by
  induction v using Json.ind generalizing path with
  | null | bool | number | string => rfl
  | array items ih =>
    have hitems : ∀ (items : List Value), (∀ c ∈ items, ∀ {path}, OffPath allow path →
        visitRaw allow path c = containsTokenShapedMarker c) → ∀ index,
        visitRawItems allow path index items = Json.anyMarkItems isMarkerKey isTokenShaped items := by
      intro items
      induction items with
      | nil => intros; rfl
      | cons c items ihitems =>
        intro hc index
        rw [visitRawItems, hc c (by simp) (h.snoc _), Json.anyMarkItems,
          ihitems (fun d hd => hc d (by simp [hd])) (index + 1)]
        rfl
    exact hitems items ih 0
  | object members ih =>
    have hmembers : ∀ (members : Map), (∀ m ∈ members, ∀ {path}, OffPath allow path →
        visitRaw allow path m.2 = containsTokenShapedMarker m.2) →
        visitRawMembers allow path members =
          Json.anyMarkMembers isMarkerKey isTokenShaped members := by
      intro members
      induction members with
      | nil => intros; rfl
      | cons m members ihmembers =>
        obtain ⟨k, c⟩ := m
        intro hc
        rw [visitRawMembers, Json.anyMarkMembers, ihmembers fun d hd => hc d (by simp [hd])]
        simp only [legal_of_offPath h k, hc (k, c) (by simp) (h.snoc k), Bool.not_false,
          Bool.and_true, Bool.true_and]
        rw [Bool.or_assoc (isReadyTokenKey k || isTokenShaped k), asStr_or_contains]
        rfl
    exact hmembers members ih

/-- A visit that finds nothing has looked at every member but the legal one. -/
lemma visitRawMembers_eq_false {members : Map} (h : visitRawMembers allow path members = false)
    {k : String} {c : Value} (hm : (k, c) ∈ members)
    (hlegal : (allow && (path ++ [k]).length == 2 && (path ++ [k])[0]? == some "params" &&
      k == "readyToken") = false) :
    isMarkerKey k = false ∧ visitRaw allow (path ++ [k]) c = false := by
  induction members with
  | nil => simp at hm
  | cons m members ih =>
    obtain ⟨l, d⟩ := m
    rw [visitRawMembers, Bool.or_eq_false_iff] at h
    rcases List.mem_cons.mp hm with heq | hm
    · cases heq
      simp only [hlegal, Bool.not_false, Bool.and_true, Bool.true_and, Bool.or_eq_false_iff] at h
      exact ⟨by simp [isMarkerKey, h.1.1.1], h.1.2⟩
    · exact ih h.2 hm

/-! ## The guards together -/

lemma rejectUnknown_of_no_mark (h : containsTokenShapedMarker (.object object) = false)
    (readyFrame : Bool) :
    rejectUnknownRootTokenMetadata object readyFrame = .ok () := by
  rw [rejectUnknownRootTokenMetadata, if_neg]
  intro hany
  obtain ⟨⟨key, value⟩, hmem, hmark⟩ := List.any_eq_true.mp hany
  have hfound : containsTokenShapedMarker (.object object) = true := by
    refine Json.anyMarkMembers_iff.mpr ⟨key, value, hmem, ?_⟩
    have hmark := (Bool.and_eq_true _ _ ▸ hmark).2
    exact Bool.or_eq_true _ _ ▸ hmark
  simp [h] at hfound

/-- **The guards on a plain frame**: outside of the two handshake notifications they pass exactly
the trees without marks. -/
theorem guards_of_plain (hplain : (isInitializedFrame object || isReadyFrame object) = false) :
    rejectRawTokenMarkers (.object object) (isInitializedFrame object || isReadyFrame object) =
        .ok () ∧
      rejectUnknownRootTokenMetadata object (isReadyFrame object) = .ok () ↔
    containsTokenShapedMarker (.object object) = false := by
  have hraw : rejectRawTokenMarkers (.object object) false = .ok () ↔
      containsTokenShapedMarker (.object object) = false := by
    rw [rejectRawTokenMarkers, visitRaw_of_offPath _ (Or.inl rfl)]
    cases containsTokenShapedMarker (.object object) <;> simp
  rw [hplain, hraw]
  exact ⟨And.left, fun h => ⟨h, rejectUnknown_of_no_mark h _⟩⟩

lemma carriesChallenge_iff :
    (isInitializedFrame object || isReadyFrame object) = true ↔
      CarriesChallenge (.object object) := by
  rw [Bool.or_eq_true, isInitializedFrame, isReadyFrame, Bool.and_eq_true, beq_iff_eq, beq_iff_eq,
    beq_iff_eq, CarriesChallenge]
  simp only [Option.bind_eq_some_iff, Value.asStr_eq_some, exists_eq_right, Value.get_object,
    Value.asObject_eq_some]
  refine or_congr_right (and_congr_right fun _ => ?_)
  constructor
  · rintro ⟨params, hparams, hstatus⟩
    exact ⟨.object params, hparams, hstatus⟩
  · rintro ⟨params, hparams, hstatus⟩
    cases params with
    | object params => exact ⟨params, hparams, hstatus⟩
    | _ => cases hstatus

lemma token_of_validate {method : String}
    (hmethod : method = "initialized" ∨ method = "runtime/statusChanged" ∧
      SortedMap.get "status" object = some (.string "ready"))
    (h : validateReadyTokenFields method (.object object) = .ok ()) :
    ∃ token, SortedMap.get "readyToken" object = some (.string token) ∧ LowerHex32 token := by
  have hhas : ((SortedMap.get readyTokenField object).bind Value.asStr).any validReadyToken
      = true := by
    by_contra hnot
    rw [Bool.not_eq_true] at hnot
    rcases hmethod with rfl | ⟨rfl, hstatus⟩
    · simp [validateReadyTokenFields, Value.asObject, hnot] at h
    · simp [validateReadyTokenFields, Value.asObject, hstatus, Value.asStr, hnot] at h
  rw [Option.any_eq_true] at hhas
  obtain ⟨token, htoken, hvalid⟩ := hhas
  simp only [Option.bind_eq_some_iff, Value.asStr_eq_some, exists_eq_right] at htoken
  exact ⟨token, htoken, validReadyToken_iff.mp hvalid⟩

/-- If all members but one are free of marks, every mark lies at that member or below it. -/
lemma marks_of_member {members : Map} {key : String} {child : Value}
    (hnodup : (members.map Prod.fst).Nodup) (hget : SortedMap.get key members = some child)
    (hother : ∀ k d, (k, d) ∈ members → k ≠ key →
      isMarkerKey k = false ∧ containsTokenShapedMarker d = false) :
    (∀ p k c, (Json.object members : Value).MemberAt p k c → MarkerKey k →
      (p = [] ∧ k = key ∧ c = child) ∨ ∃ q, p = .key key :: q ∧ child.MemberAt q k c) ∧
    ∀ p s, (Json.object members : Value).TextAt p s → Hex32 s →
      ∃ q, p = .key key :: q ∧ child.TextAt q s := by
  constructor
  · rintro p k c ⟨inner, hat, hm⟩ hk
    cases hat with
    | here =>
      by_cases hkey : k = key
      · subst hkey
        exact Or.inl ⟨rfl, rfl, SortedMap.eq_of_get_of_mem hnodup hget hm⟩
      · have := (hother k c hm hkey).1
        rw [isMarkerKey_iff.mpr hk] at this
        cases this
    | @member _ l d _ p hl hat =>
      by_cases hkey : l = key
      · subst hkey
        rw [SortedMap.eq_of_get_of_mem hnodup hget hl] at hat
        exact Or.inr ⟨p, rfl, inner, hat, hm⟩
      · exact absurd hk ((no_mark_of_contains (hother l d hl hkey).2).1 _ _ _ ⟨inner, hat, hm⟩)
  · intro p s hat hs
    cases hat with
    | @member _ l d _ p hl hat =>
      by_cases hkey : l = key
      · subst hkey
        rw [SortedMap.eq_of_get_of_mem hnodup hget hl] at hat
        exact ⟨p, rfl, hat⟩
      · exact absurd hs ((no_mark_of_contains (hother l d hl hkey).2).2 _ _ hat)

/-- What the visit of a frame that carries the challenge has looked at: no root key is a mark,
and neither are the other root members or the other parameters. -/
lemma visited_of_carries {params : Map} (hvisit : visitRaw true [] (.object object : Value) = false)
    (hparams : SortedMap.get "params" object = some (.object params)) :
    (∀ k c, (k, c) ∈ object → isMarkerKey k = false) ∧
    (∀ k c, (k, c) ∈ object → k ≠ "params" → containsTokenShapedMarker c = false) ∧
    ∀ k d, (k, d) ∈ params → k ≠ "readyToken" →
      isMarkerKey k = false ∧ containsTokenShapedMarker d = false := by
  have hroot : ∀ k c, (k, c) ∈ object →
      isMarkerKey k = false ∧ visitRaw true [k] c = false := fun k c hm =>
    visitRawMembers_eq_false hvisit hm (by simp)
  refine ⟨fun k c hm => (hroot k c hm).1, ?_, ?_⟩
  · intro k c hm hk
    rw [← visitRaw_of_offPath c (Or.inr (Or.inr ⟨k, [], rfl, hk⟩) : OffPath true [k])]
    exact (hroot k c hm).2
  · intro k d hm hk
    have hvisitParams := (hroot _ _ (SortedMap.mem_of_get hparams)).2
    obtain ⟨hkey, hchild⟩ := visitRawMembers_eq_false hvisitParams hm (by simp [hk])
    rw [visitRaw_of_offPath d (Or.inr (Or.inl le_rfl))] at hchild
    exact ⟨hkey, hchild⟩

/-- **The guards confine the challenge.**  The raw visit leaves only the member at the legal
path unseen, and that member is a token. -/
theorem confined_of_guards (hkeys : (Json.object object : Value).WellSorted)
    (hraw : rejectRawTokenMarkers (.object object)
      (isInitializedFrame object || isReadyFrame object) = .ok ())
    (htoken : CarriesChallenge (.object object) → ∃ params token,
      SortedMap.get "params" object = some (.object params) ∧
      SortedMap.get "readyToken" params = some (.string token) ∧ LowerHex32 token) :
    Confined (.object object) := by
  have hvisit : visitRaw (isInitializedFrame object || isReadyFrame object) [] (.object object)
      = false := by
    rw [rejectRawTokenMarkers] at hraw
    split_ifs at hraw with h
    exact Bool.not_eq_true _ ▸ h
  by_cases hcarries : CarriesChallenge (.object object)
  · rw [carriesChallenge_iff.mpr hcarries] at hvisit
    obtain ⟨params, token, hparams, htok, hhex⟩ := htoken hcarries
    obtain ⟨hroot, hoff, hother⟩ := visited_of_carries hvisit hparams
    obtain ⟨hnodupRoot, hnodupParams⟩ : (object.map Prod.fst).Nodup ∧
        (params.map Prod.fst).Nodup := by
      cases hkeys.nodupKeys with
      | object h h' =>
        cases h' _ (SortedMap.mem_of_get hparams) with
        | object h'' _ => exact ⟨h, h''⟩
    obtain ⟨hmembers, htexts⟩ := marks_of_member hnodupRoot hparams fun k c hm hk =>
      ⟨hroot k c hm, hoff k c hm hk⟩
    obtain ⟨hmembers', htexts'⟩ := marks_of_member hnodupParams htok hother
    constructor
    · intro p k c hm hk
      rcases hmembers p k c hm hk with ⟨-, rfl, -⟩ | ⟨q, rfl, hm'⟩
      · have := hroot _ _ (SortedMap.mem_of_get hparams)
        rw [isMarkerKey_iff.mpr hk] at this
        cases this
      · rcases hmembers' q k c hm' hk with ⟨rfl, rfl, rfl⟩ | ⟨q', -, _, hat, -⟩
        · exact ⟨hcarries, rfl, rfl, token, rfl, hhex⟩
        · cases hat
    · intro p s ht hs
      obtain ⟨q, rfl, ht'⟩ := htexts p s ht hs
      obtain ⟨q', rfl, ht''⟩ := htexts' q s ht' hs
      cases ht''
      exact ⟨hcarries, rfl, hhex⟩
  · -- no exception is made, and the visit is a search of the whole tree
    rw [Bool.eq_false_iff.mpr fun h => hcarries (carriesChallenge_iff.mp h),
      visitRaw_of_offPath _ (Or.inl rfl)] at hvisit
    obtain ⟨hmembers, htexts⟩ := no_mark_of_contains hvisit
    exact ⟨fun p k c hm hk => absurd hk (hmembers p k c hm),
      fun p s ht hs => absurd hs (htexts p s ht)⟩

/-! ## Accepted and emitted frames -/

lemma sort_eq_string (h : v.sort = .string s) : v = .string s := by
  cases v <;> simp_all [Json.sort]

lemma get_sort (hkeys : raw.EachObject List.Nodup) (key : String) :
    Value.get key raw.sort = (Value.get key raw).map Json.sort := by
  cases raw with
  | object members =>
    cases hkeys with
    | object hnodup _ =>
      rw [Json.sort, Value.get_object, Value.get_object,
        SortedMap.get_ofList (by rwa [Json.keys_sortMembers]), Json.get_sortMembers]
  | _ => rfl

lemma CarriesChallenge.of_sort (hkeys : raw.EachObject List.Nodup) (h : CarriesChallenge raw.sort) :
    CarriesChallenge raw := by
  have htext : ∀ {v : Value} {key s : String}, v.EachObject List.Nodup →
      Value.get key v.sort = some (.string s) → Value.get key v = some (.string s) := by
    intro v key s hv hget
    rw [get_sort hv, Option.map_eq_some_iff] at hget
    obtain ⟨c, hc, hsort⟩ := hget
    rw [hc, sort_eq_string hsort]
  rcases h with h | ⟨h, params, hparams, hstatus⟩
  · exact Or.inl (htext hkeys h)
  · rw [get_sort hkeys, Option.map_eq_some_iff] at hparams
    obtain ⟨params, hparams, rfl⟩ := hparams
    have hchild : params.EachObject List.Nodup := by
      cases raw with
      | object members =>
        cases hkeys with
        | object _ hmembers => exact hmembers _ (SortedMap.mem_of_get hparams)
      | _ => cases hparams
    exact Or.inr ⟨htext hkeys h, params, hparams, htext hchild hstatus⟩

lemma confined_of_sort (hkeys : raw.EachObject List.Nodup) (h : Confined raw.sort) :
    Confined raw := by
  constructor
  · intro p k c hm hk
    obtain ⟨hcarries, hp, hkey, token, hc, hhex⟩ := h.keys p k c.sort (hm.sort hkeys) hk
    exact ⟨hcarries.of_sort hkeys, hp, hkey, token, sort_eq_string hc, hhex⟩
  · intro p s ht hs
    obtain ⟨hcarries, hp, hhex⟩ := h.texts p s (Json.At.sort hkeys ht) hs
    exact ⟨hcarries.of_sort hkeys, hp, hhex⟩

/-- A valid frame has its token where the raw object carries the challenge. -/
lemma token_of_fieldsOk {f : RpcFrame} (hf : f.FieldsOk)
    (hmethod : SortedMap.get "method" object = f.method.map .string)
    (hparams : SortedMap.get "params" object = f.params)
    (hcarries : CarriesChallenge (.object object)) :
    ∃ params token, SortedMap.get "params" object = some (.object params) ∧
      SortedMap.get "readyToken" params = some (.string token) ∧ LowerHex32 token := by
  simp only [CarriesChallenge, Value.get_object, hmethod, Option.map_eq_some_iff,
    Json.string.injEq, exists_eq_right] at hcarries
  have hsome : ∃ method, f.method = some method := by
    rcases hcarries with h | ⟨h, -⟩ <;> exact ⟨_, h⟩
  obtain ⟨method, hm⟩ := hsome
  obtain ⟨-, -, params, hp, hvalid⟩ := hf.method method hm
  rw [hparams, hp]
  refine ⟨params, ?_⟩
  simp only [true_and]
  refine token_of_validate ?_ hvalid
  rcases hcarries with h | ⟨h, v, hv, hstatus⟩
  · exact Or.inl (Option.some_inj.mp (hm.symm.trans h))
  · rw [hparams, hp, Option.some_inj] at hv
    subst hv
    exact Or.inr ⟨Option.some_inj.mp (hm.symm.trans h), hstatus⟩

lemma method_of_decodeMethod {method : Option String} (h : decodeMethod object = .ok method) :
    SortedMap.get "method" object = method.map .string := by
  rw [decodeMethod] at h
  split at h
  · rename_i hget
    cases h
    exact hget
  · rename_i name hget
    split_ifs at h
    cases h
    exact hget
  · cases h

lemma confined_of_decodeEnvelope (hv : v.WellSorted) {f : RpcFrame} (h : decodeEnvelope v = .ok f) :
    Confined v := by
  obtain ⟨object, rfl, hraw, -, -, -, hmethod, hparams, -, -, -, k, hvalid⟩ :=
    decodeEnvelope_eq_ok.mp h
  exact confined_of_guards hv hraw
    (token_of_fieldsOk (RpcFrame.validate_eq_ok.mp hvalid).1 (method_of_decodeMethod hmethod)
      hparams.symm)

/-- **The codec confines the challenge.**  If `decode_frame` accepts a line, the JSON tree of the
line is confined, with all that the frame drops of it; and if `encode` emits a line, the tree
it writes is confined. -/
theorem challenge_confined (S : SerdeJson) :
    (∀ (bytes : List UInt8) (n : ℕ) (f : RpcFrame), decodeFrame S bytes n = .ok f →
      ∃ (payload : List UInt8) (text : String) (raw : Value), bytes = payload ++ [0x0A] ∧
        fromUtf8 payload = some text ∧ S.fromStr text = (Doc.ofJson raw, true) ∧ Confined raw) ∧
    (∀ (f : RpcFrame) (n : ℕ) (bytes : List UInt8), f.Built S → f.encode S n = .ok bytes →
      bytes = S.toVec f.wireValue ++ [0x0A] ∧ Confined f.wireValue) := by
  constructor
  · intro bytes n f h
    obtain ⟨v, hv, henvelope⟩ := bind_eq_ok.mp h
    obtain ⟨payload, text, hbytes, -, -, -, -, htext, hparse⟩ := decodeValue_eq_ok.mp hv
    obtain ⟨hvisit, hended⟩ := parseStrictValue_eq_ok.mp hparse
    obtain ⟨raw, hdoc, hkeys, rfl⟩ := ofJson_of_visit hvisit
    refine ⟨payload, text, raw, hbytes, htext, Prod.ext hdoc hended, confined_of_sort hkeys ?_⟩
    exact confined_of_decodeEnvelope (Json.wellSorted_sort raw) henvelope
  · intro f n bytes hf h
    obtain ⟨⟨k, hvalid⟩, hraw, -, rfl⟩ := RpcFrame.encode_eq_ok.mp h
    have hwire := RpcFrame.decodeEnvelope_wireValue hf.canonical hvalid hraw
    exact ⟨rfl, confined_of_decodeEnvelope hf.canonical.wellSorted_wireValue hwire⟩

/-- The initialized notification that the host sends, and reads back. -/
theorem challenge_confined_initialized :
    ∃ f bytes, RpcFrame.notification "initialized"
        (.object [("readyToken", .string "0123456789abcdef0123456789abcdef")]) = .ok f ∧
      f.encode compactSerde 1024 = .ok bytes ∧ Confined f.wireValue ∧
      decodeFrame compactSerde bytes 1024 = .ok f ∧
      ∃ payload text raw, bytes = payload ++ [0x0A] ∧ fromUtf8 payload = some text ∧
        compactSerde.fromStr text = (Doc.ofJson raw, true) ∧ Confined raw := by
  have hparams : (Json.object [("readyToken", .string "0123456789abcdef0123456789abcdef")] :
      Value).WellSorted := by
    refine .object (by simp) ?_
    simp only [List.mem_singleton]
    rintro m rfl
    exact .string _
  obtain ⟨f, hf⟩ : ∃ f, RpcFrame.notification "initialized"
      (.object [("readyToken", .string "0123456789abcdef0123456789abcdef")]) = .ok f := ⟨_, rfl⟩
  have hbuilt : f.Built compactSerde := .notification hparams hf
  obtain ⟨bytes, hbytes⟩ : ∃ bytes, f.encode compactSerde 1024 = .ok bytes := by
    cases hf
    exact ⟨_, rfl⟩
  have hdecode : decodeFrame compactSerde bytes 1024 = .ok f := by
    obtain ⟨⟨k, hvalid⟩, hraw, hlen, rfl⟩ := RpcFrame.encode_eq_ok.mp hbytes
    refine RpcFrame.decodeFrame_toVec compactSerde_faithful hbuilt.canonical ?_ ?_ hvalid hraw hlen
    · cases hf
      decide
    · cases hf
      refine RpcFrame.eachNumber_wireValue ?_ (by rintro value ⟨⟩) rfl
      rintro params ⟨⟩
      refine .object ?_
      simp only [List.mem_singleton]
      rintro m rfl
      exact .string _
  exact ⟨f, bytes, hf, hbytes, ((challenge_confined compactSerde).2 f 1024 bytes hbuilt hbytes).2,
    hdecode, (challenge_confined compactSerde).1 bytes 1024 f hdecode⟩

end JaDesktop.Host
