import Mathlib.Algebra.Order.Ring.Int
import JaDesktop.Lib.JsonText
import JaDesktop.Lib.Outcomes
import JaDesktop.Lib.SortedMap

/-!
# JSON values of the Rust host

The host keeps JSON in `serde_json::Value`, whose objects are ordered maps.  Writing a value
and tokenising text are done by `serde_json` itself and are a parameter here (`SerdeJson`),
with the documented behaviour the host relies on in `SerdeJson.Faithful`.  What the host does
with the reports of the reader is its own code: `visit` is the visitor of `codec_json.rs`, which
rejects a repeated key on every level.  `compactSerde` is an instance of the parameter that
can be run.
-/

namespace JaDesktop.Host

/-! ## Values -/

/-- An integer that `serde_json::Number` holds exactly: a `u64` or a negative `i64`. -/
abbrev WireInt := {n : ℤ // -2 ^ 63 ≤ n ∧ n < 2 ^ 64}

abbrev I64 := {n : ℤ // -2 ^ 63 ≤ n ∧ n < 2 ^ 63}

/-- `serde_json::Number`; a float is kept as its bit pattern. -/
inductive Number
  | int (n : WireInt)
  | float (bits : UInt64)
deriving DecidableEq

/-- `f64::is_finite` on a bit pattern: the exponent is not all ones. -/
def isFinite (bits : UInt64) : Bool := (bits >>> 52) &&& 0x7FF != 0x7FF

/-- `Number::from_f64`. -/
def Number.fromF64 (bits : UInt64) : Option Number :=
  if isFinite bits then some (.float bits) else none

/-- `Number::from` on an `i64`. -/
def Number.ofI64 (n : I64) : Number := .int ⟨n.val, n.2.1, by have := n.2.2; omega⟩

/-- A number that a `serde_json::Value` can hold: floats are finite. -/
def Number.Valid : Number → Prop
  | .int _ => True
  | .float bits => isFinite bits = true

/-- A number without fraction or exponent. -/
def Number.IsInt : Number → Prop
  | .int _ => True
  | .float _ => False

lemma Number.IsInt.valid {n : Number} (h : n.IsInt) : n.Valid := by
  cases n with
  | int => trivial
  | float => exact h.elim

/-- `serde_json::Value`. -/
abbrev Value := Json String Number

/-- `serde_json::Map`, an ordered map. -/
abbrev Map := List (String × Value)

namespace Value

def asStr : Value → Option String
  | .string s => some s
  | _ => none

def asBool : Value → Option Bool
  | .bool b => some b
  | _ => none

def asObject : Value → Option Map
  | .object m => some m
  | _ => none

/-- `Value::as_i64`: an unsigned number is an `i64` only below `2 ^ 63`. -/
def asI64 : Value → Option I64
  | .number (.int n) => if h : n.val < 2 ^ 63 then some ⟨n.val, n.2.1, h⟩ else none
  | _ => none

/-- `Value::as_u64`. -/
def asU64 : Value → Option ℕ
  | .number (.int n) => if 0 ≤ n.val then some n.val.toNat else none
  | _ => none

def asArray : Value → Option (List Value)
  | .array items => some items
  | _ => none

def isObject (v : Value) : Bool := (asObject v).isSome

/-- `Value::get` with a key: only an object has members. -/
def get (key : String) (v : Value) : Option Value := (asObject v).bind (SortedMap.get key)

@[simp] lemma asStr_eq_some {v : Value} {s : String} : asStr v = some s ↔ v = .string s := by
  cases v <;> simp [asStr]

@[simp] lemma asObject_eq_some {v : Value} {m : Map} : asObject v = some m ↔ v = .object m := by
  cases v <;> simp [asObject]

@[simp] lemma asBool_eq_some {v : Value} {b : Bool} : asBool v = some b ↔ v = .bool b := by
  cases v <;> simp [asBool]

@[simp] lemma asI64_ofI64 (n : I64) : asI64 (.number (Number.ofI64 n)) = some n := by
  exact dif_pos n.2.2

lemma isObject_iff {v : Value} : isObject v = true ↔ ∃ m, v = .object m := by
  cases v <;> simp [isObject, asObject]

@[simp] lemma get_object (key : String) (m : Map) :
    get key (.object m) = SortedMap.get key m := rfl

end Value

/-! ## The `serde_json` library -/

/-- The two services of `serde_json` that the host calls: `to_vec` on a value, and the reports
of `Deserializer::from_str` on a text, with the answer of `Deserializer::end` after it. -/
structure SerdeJson where
  toVec : Value → List UInt8
  fromStr : String → Doc Number × Bool

/-- What the host relies on: values with integer numbers, nested fewer than 120 levels, survive
writing and reading, and written text is not empty and has no line break in it. -/
structure SerdeJson.Faithful (S : SerdeJson) : Prop where
  roundTrip : ∀ v : Value, v.WellSorted → v.depth < 120 → v.EachNumber Number.IsInt →
    ∃ text, fromUtf8 (S.toVec v) = some text ∧ S.fromStr text = (Doc.ofJson v, true)
  noLineBreak : ∀ v : Value, 0x0A ∉ S.toVec v ∧ 0x0D ∉ S.toVec v
  nonempty : ∀ v : Value, S.toVec v ≠ []

/-- Reading written text gives the value back, but for its numbers, or fails. -/
def SerdeJson.KeepsShape (S : SerdeJson) : Prop :=
  ∀ (v raw : Value) (text : String), fromUtf8 (S.toVec v) = some text →
    (S.fromStr text).1 = Doc.ofJson raw → raw.shape = v.shape

/-! ## The strict visitor -/

mutual

/-- `StrictValueVisitor`; a failure carries the `duplicate` flag as it stands then. -/
def visit : Doc Number → Except Bool Value
  | .null => .ok .null
  | .bool b => .ok (.bool b)
  | .number (.int n) => .ok (.number (.int n))
  | .number (.float bits) =>
    match Number.fromF64 bits with
    | some n => .ok (.number n)
    | none => .error false
  | .string s => .ok (.string s)
  | .seq items closed => visitSeq [] items closed
  | .map entries closed => visitMap [] [] entries closed
  | .malformed => .error false

/-- `visit_seq`, with the values pushed so far. -/
def visitSeq (values : List Value) : List (Doc Number) → Bool → Except Bool Value
  | [], closed => if closed then .ok (.array values) else .error false
  | d :: items, closed => do
    let value ← visit d
    visitSeq (values ++ [value]) items closed

/-- `visit_map`, with the keys seen and the object built so far. -/
def visitMap (seen : List String) (object : Map) :
    List (String × Doc Number) → Bool → Except Bool Value
  | [], closed => if closed then .ok (.object object) else .error false
  | (key, d) :: entries, closed =>
    if key ∈ seen then .error true
    else do
      let value ← visit d
      visitMap (key :: seen) (SortedMap.insert key value object) entries closed

end

lemma visitSeq_ofItems {items : List Value} (h : ∀ c ∈ items, visit (Doc.ofJson c) = .ok c.sort)
    (values : List Value) :
    visitSeq values (Doc.ofItems items) true = .ok (.array (values ++ Json.sortItems items)) := by
  induction items generalizing values with
  | nil => simp [Doc.ofItems, visitSeq, Json.sortItems]
  | cons c items ih =>
    simp [Doc.ofItems, visitSeq, h c (by simp), Json.sortItems,
      ih fun d hd => h d (by simp [hd])]

lemma visitMap_ofMembers {members : Map}
    (h : ∀ m ∈ members, visit (Doc.ofJson m.2) = .ok m.2.sort)
    (hnodup : (members.map Prod.fst).Nodup) {seen : List String} (object : Map)
    (hseen : ∀ m ∈ members, m.1 ∉ seen) :
    visitMap seen object (Doc.ofMembers members) true = .ok (.object
      ((Json.sortMembers members).foldl (fun m e => SortedMap.insert e.1 e.2 m) object)) := by
  induction members generalizing seen object with
  | nil => simp [Doc.ofMembers, visitMap, Json.sortMembers]
  | cons m members ih =>
    obtain ⟨k, c⟩ := m
    simp only [List.map_cons, List.nodup_cons] at hnodup
    have hk : k ∉ seen := hseen (k, c) (by simp)
    have hc : visit (Doc.ofJson c) = .ok c.sort := h (k, c) (by simp)
    have hseen' : ∀ m ∈ members, m.1 ∉ k :: seen := by
      intro m hm
      simp only [List.mem_cons, not_or]
      refine ⟨?_, hseen m (by simp [hm])⟩
      rintro rfl
      exact hnodup.1 (List.mem_map.mpr ⟨m, hm, rfl⟩)
    simp [Doc.ofMembers, visitMap, hk, hc, Json.sortMembers,
      ih (fun d hd => h d (by simp [hd])) hnodup.2 _ hseen']

/-- Visiting a complete document without repeated keys builds its value, sorted. -/
theorem visit_ofJson {v : Value} (hkeys : v.EachObject List.Nodup)
    (hint : v.EachNumber Number.Valid) : visit (Doc.ofJson v) = .ok v.sort := by
  induction v using Json.ind with
  | null | bool | string => simp [Doc.ofJson, visit, Json.sort]
  | number n =>
    cases hint with
    | number hn =>
      cases n with
      | int n => simp [Doc.ofJson, visit, Json.sort]
      | float bits =>
        have hfinite : isFinite bits = true := hn
        simp [Doc.ofJson, visit, Json.sort, Number.fromF64, hfinite]
  | array items ih =>
    cases hkeys with
    | array hk =>
      cases hint with
      | array hi =>
        have hitems : ∀ c ∈ items, visit (Doc.ofJson c) = .ok c.sort :=
          fun c hc => ih c hc (hk c hc) (hi c hc)
        simp [Doc.ofJson, visit, visitSeq_ofItems hitems, Json.sort]
  | object members ih =>
    cases hkeys with
    | object hnodup hk =>
      cases hint with
      | object hi =>
        have hmembers : ∀ m ∈ members, visit (Doc.ofJson m.2) = .ok m.2.sort :=
          fun m hm => ih m hm (hk m hm) (hi m hm)
        have hseen : ∀ m ∈ members, m.1 ∉ ([] : List String) := by simp
        simp [Doc.ofJson, visit, visitMap_ofMembers hmembers hnodup [] hseen, Json.sort,
          SortedMap.ofList]

mutual

/-- What the visitor accepts is a complete document without repeated keys, and the value it
builds is that document, sorted. -/
theorem ofJson_of_visit : ∀ {d : Doc Number} {v : Value}, visit d = .ok v →
    ∃ raw : Value, d = Doc.ofJson raw ∧ raw.EachObject List.Nodup ∧ raw.sort = v
  | .null, v, h => by
    cases h
    exact ⟨.null, rfl, .null, rfl⟩
  | .bool b, v, h => by
    cases h
    exact ⟨.bool b, rfl, .bool b, rfl⟩
  | .number (.int n), v, h => by
    cases h
    exact ⟨.number (.int n), rfl, .number _, rfl⟩
  | .number (.float bits), v, h => by
    simp only [visit, Number.fromF64] at h
    split_ifs at h
    cases h
    exact ⟨.number (.float bits), rfl, .number _, rfl⟩
  | .string s, v, h => by
    cases h
    exact ⟨.string s, rfl, .string s, rfl⟩
  | .seq items closed, v, h => by
    obtain ⟨raw, rfl, rfl, hkeys, rfl⟩ := ofItems_of_visitSeq h
    exact ⟨.array raw, rfl, .array hkeys, rfl⟩
  | .map entries closed, v, h => by
    obtain ⟨raw, rfl, rfl, hnodup, -, hkeys, rfl⟩ := ofMembers_of_visitMap h
    exact ⟨.object raw, rfl, .object hnodup hkeys, rfl⟩
  | .malformed, v, h => by cases h

theorem ofItems_of_visitSeq {values : List Value} :
    ∀ {items : List (Doc Number)} {closed : Bool} {v : Value},
      visitSeq values items closed = .ok v →
      ∃ raw : List Value, items = Doc.ofItems raw ∧ closed = true ∧
        (∀ c ∈ raw, c.EachObject List.Nodup) ∧ v = .array (values ++ Json.sortItems raw)
  | [], closed, v, h => by
    simp only [visitSeq] at h
    split_ifs at h with hclosed
    cases h
    exact ⟨[], rfl, hclosed, by simp, by simp [Json.sortItems]⟩
  | d :: items, closed, v, h => by
    simp only [visitSeq] at h
    obtain ⟨value, hvalue, hrest⟩ := bind_eq_ok.mp h
    obtain ⟨raw, rfl, hkeys, rfl⟩ := ofJson_of_visit hvalue
    obtain ⟨raws, rfl, rfl, hkeys', rfl⟩ := ofItems_of_visitSeq hrest
    refine ⟨raw :: raws, rfl, rfl, ?_, by simp [Json.sortItems]⟩
    simp only [List.mem_cons]
    rintro c (rfl | hc)
    · exact hkeys
    · exact hkeys' c hc

theorem ofMembers_of_visitMap {seen : List String} {object : Map} :
    ∀ {entries : List (String × Doc Number)} {closed : Bool} {v : Value},
      visitMap seen object entries closed = .ok v →
      ∃ raw : Map, entries = Doc.ofMembers raw ∧ closed = true ∧ (raw.map Prod.fst).Nodup ∧
        (∀ m ∈ raw, m.1 ∉ seen) ∧ (∀ m ∈ raw, m.2.EachObject List.Nodup) ∧
        v = .object ((Json.sortMembers raw).foldl (fun m e => SortedMap.insert e.1 e.2 m) object)
  | [], closed, v, h => by
    simp only [visitMap] at h
    split_ifs at h with hclosed
    cases h
    exact ⟨[], rfl, hclosed, by simp, by simp, by simp, by simp [Json.sortMembers]⟩
  | (key, d) :: entries, closed, v, h => by
    simp only [visitMap] at h
    split_ifs at h with hseen
    obtain ⟨value, hvalue, hrest⟩ := bind_eq_ok.mp h
    obtain ⟨raw, rfl, hkeys, rfl⟩ := ofJson_of_visit hvalue
    obtain ⟨raws, rfl, rfl, hnodup, hnot, hkeys', rfl⟩ := ofMembers_of_visitMap hrest
    simp only [List.mem_cons, not_or] at hnot
    refine ⟨(key, raw) :: raws, rfl, rfl, ?_, ?_, ?_, by simp [Json.sortMembers]⟩
    · simp only [List.map_cons, List.nodup_cons, List.mem_map, not_exists, not_and]
      exact ⟨fun m hm => (hnot m hm).1, hnodup⟩
    · simp only [List.mem_cons]
      rintro m (rfl | hm)
      · exact hseen
      · exact (hnot m hm).2
    · simp only [List.mem_cons]
      rintro m (rfl | hm)
      · exact hkeys
      · exact hkeys' m hm

end

lemma wellSorted_of_visit {d : Doc Number} {v : Value} (h : visit d = .ok v) : v.WellSorted := by
  obtain ⟨raw, -, -, rfl⟩ := ofJson_of_visit h
  exact Json.wellSorted_sort raw

/-! ## An instance of the parameter -/

/-- The integer a number stands for; floats are outside what the instance is used for. -/
def Number.toInt : Number → ℤ
  | .int n => n.val
  | .float _ => 0

/-- The number of an integer literal. -/
def Number.ofInt? (n : ℤ) : Option Number :=
  if h : -2 ^ 63 ≤ n ∧ n < 2 ^ 64 then some (.int ⟨n, h⟩) else none

/-- Compact JSON text, as `serde_json` writes it for values without floats. -/
def compactSerde : SerdeJson where
  toVec v := asBytes (String.ofList (JsonText.render (v.mapNumbers Number.toInt)))
  fromStr text :=
    let (doc, ended) := JsonText.read text.toList
    (doc.mapNumbers Number.ofInt?, ended)

/-- The instance reads back what it writes, whatever the order of the members. -/
lemma compactSerde_reads {v : Value} (hint : v.EachNumber Number.IsInt) :
    ∃ text, fromUtf8 (compactSerde.toVec v) = some text ∧
      compactSerde.fromStr text = (Doc.ofJson v, true) := by
  refine ⟨_, fromUtf8_asBytes _, ?_⟩
  have hback : v.EachNumber fun n => Number.ofInt? n.toInt = some n := by
    refine hint.imp ?_
    rintro (n | bits) hn
    · exact dif_pos n.2
    · exact hn.elim
  simp [compactSerde, JsonText.read_render, Doc.mapNumbers_ofJson hback]

theorem compactSerde_faithful : compactSerde.Faithful where
  roundTrip _ _ _ hint := compactSerde_reads hint
  noLineBreak v := by
    have hprintable : ∀ b ∈ compactSerde.toVec v, 0x20 ≤ b.toNat := by
      intro b hb
      simp only [compactSerde, asBytes_eq_flatMap, List.mem_flatMap, String.toList_ofList] at hb
      obtain ⟨c, hc, hb⟩ := hb
      have := JsonText.printable_render _ c hc
      by_contra hlt
      have := toNat_of_mem_utf8EncodeChar hb (by omega)
      omega
    exact ⟨fun h => absurd (hprintable _ h) (by decide),
      fun h => absurd (hprintable _ h) (by decide)⟩
  nonempty v := by
    intro h
    have htext := congrArg fromUtf8 h
    simp only [compactSerde, fromUtf8_asBytes] at htext
    have hempty : fromUtf8 [] = some "" := by decide
    rw [hempty, Option.some_inj] at htext
    exact JsonText.render_ne_nil _ (by simpa using congrArg String.toList htext)

lemma compactSerde_keepsShape : compactSerde.KeepsShape := by
  intro v raw text htext hread
  have htext' : text = String.ofList (JsonText.render (v.mapNumbers Number.toInt)) := by
    rw [compactSerde, fromUtf8_asBytes, Option.some_inj] at htext
    exact htext.symm
  subst htext'
  simp only [compactSerde, String.toList_ofList, JsonText.read_render] at hread
  rw [Doc.shape_of_mapNumbers_ofJson hread, Json.shape, Json.mapNumbers_mapNumbers]
  rfl

end JaDesktop.Host
