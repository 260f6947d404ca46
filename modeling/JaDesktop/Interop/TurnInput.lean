import JaDesktop.Interop.Replay
import JaDesktop.Settings.TurnStart
import JaDesktop.Sidecar.TurnInput

/-!
# A turn across the wire

The host limits each part of the input to a mebibyte; `Input.parse` reads a part with the helper for
short texts, whose limit is 1024 units.  A turn is admitted, with the same text for the store and for
the model, exactly when each part is that short.
-/

namespace JaDesktop.Interop

open Host (Value Map)
open Sidecar (JsonNode ObjectNode Thrown java java_inj)
open Sidecar.AgentScopeTurnRuntime
open Settings

/-! ## Counting bytes -/

variable {maxBytes : ℕ} {joined text : String} {texts : List String}

lemma growBytes_eq_ok {bytes increment n : ℕ} :
    growBytes maxBytes bytes increment = .ok n ↔
      bytes + increment ≤ maxBytes ∧ bytes + increment = n := by
  rw [growBytes]
  split_ifs with h
  · simp [Nat.not_le.mpr h]
  · simp [Nat.not_lt.mp h]

lemma countBytes_char (maxBytes bytes : ℕ) (c : Char) (units : JavaString) :
    countBytes maxBytes bytes (utf16Char c ++ units) =
      growBytes maxBytes bytes (String.utf8EncodeChar c).length >>= fun n =>
        countBytes maxBytes n units := by
  rcases utf16Char_cases c with ⟨u, hchar, -, -, hhigh, hlow⟩ | ⟨h, l, hchar, hlarge, hhigh, hlow⟩
  · rw [hchar, List.singleton_append, countBytes.eq_def]
    simp only [hhigh, hlow, Bool.false_eq_true, if_false, unitBytes_of_char hchar]
  · rw [hchar, List.cons_append, List.singleton_append, countBytes.eq_def]
    simp only [hhigh, hlow, if_true, length_utf8_of_large hlarge]

lemma countBytes_java {bytes : ℕ} {s : String} (h : bytes + (asBytes s).length ≤ maxBytes) :
    countBytes maxBytes bytes (java s) = .ok (bytes + (asBytes s).length) := by
  rw [asBytes_eq_flatMap] at h ⊢
  rw [java, utf16Encode]
  generalize s.toList = chars at h ⊢
  induction chars generalizing bytes with
  | nil => rfl
  | cons c cs ih =>
    rw [List.flatMap_cons, List.length_append] at h
    rw [List.flatMap_cons, countBytes_char, growBytes_eq_ok.mpr ⟨by omega, rfl⟩, ok_bind,
      ih (by omega), List.flatMap_cons, List.length_append, Nat.add_assoc]

/-! ## Joining the parts -/

/-- The texts after the first, each on a new line. -/
abbrev addLines (joined : String) (texts : List String) : String :=
  texts.foldl (fun joined next => joined ++ "\n" ++ next) joined

/-- The texts of the parts, with a line end between one and the next. -/
def joinLines : List String → String
  | [] => ""
  | text :: texts => addLines text texts

lemma length_addLines (joined : String) (texts : List String) :
    (asBytes joined).length ≤
      (asBytes (addLines joined texts)).length := by
  induction texts generalizing joined with
  | nil => exact le_rfl
  | cons text texts ih =>
    refine le_trans ?_ (ih _)
    simp only [asBytes_append, List.length_append]
    omega

lemma visible_addLines (texts : List String) (h : Sidecar.isBlank (java joined) = false) :
    Sidecar.isBlank (java (addLines joined texts)) =
      false := by
  induction texts generalizing joined with
  | nil => exact h
  | cons text texts ih =>
    refine ih ?_
    simp only [Sidecar.isBlank, java, utf16Encode_append, List.all_append]
    simp only [Sidecar.isBlank, java] at h
    rw [h, Bool.false_and, Bool.false_and]

/-- A part of the input, as the sidecar finds it. -/
def partFields (text : String) : ObjectNode :=
  toFields (SortedMap.ofList [("type", .string "text"), ("text", .string text)])

lemma toNode_part (text : String) : toNode (partParams text) = .object (partFields text) := rfl

lemma get_part (text : String) :
    ObjectNode.get (java "type") (partFields text) = some (.string (java "text")) ∧
      ObjectNode.get (java "text") (partFields text) = some (.string (java text)) := by
  have hkeys : (([("type", .string "text"), ("text", .string text)] : Map).map Prod.fst).Nodup := by
    simp
  have hget := get_jsonObject hkeys
  exact ⟨hget "type", hget "text"⟩

/-! ## The text that is stored -/

lemma appendInput_lines (hjoined : joined ≠ "") (texts : List String) :
    Sidecar.StdioRuntime.appendInput (java joined) (texts.map fun text => toNode (partParams text)) =
      .ok (java (addLines joined texts)) := by
  induction texts generalizing joined with
  | nil => rfl
  | cons text texts ih =>
    obtain ⟨htype, htext⟩ := get_part text
    have hpos : (java joined).length > 0 := by
      rw [gt_iff_lt, List.length_pos_iff_ne_nil]
      intro hnil
      exact hjoined (java_inj.mp hnil)
    have hnext : joined ++ "\n" ++ text ≠ "" := by
      intro hempty
      have hlist := congrArg String.toList hempty
      simp [String.toList_append] at hlist
    rw [List.map_cons, toNode_part, Sidecar.StdioRuntime.appendInput, htype, htext]
    simp only [if_true, if_pos hpos, List.foldl_cons]
    rw [← ih hnext]
    simp only [java, utf16Encode_append]

lemma inputText_eq {params : ObjectNode} (hget : ObjectNode.get (java "input") params =
      some (.array ((text :: texts).map fun text => toNode (partParams text))))
    (hvisible : Sidecar.isBlank (java text) = false)
    (hunits : (java (addLines text texts)).length ≤ 1048576) :
    Sidecar.StdioRuntime.inputText params = .ok (java (addLines text texts)) := by
  obtain ⟨htype, htext⟩ := get_part text
  have hnonempty : text ≠ "" := by
    rintro rfl
    simp [Sidecar.isBlank, java, utf16Encode] at hvisible
  have hparts : Sidecar.StdioRuntime.appendInput [] ((text :: texts).map fun text =>
      toNode (partParams text)) = .ok (java (addLines text texts)) := by
    rw [List.map_cons, toNode_part, Sidecar.StdioRuntime.appendInput, htype, htext]
    simp only [if_true, List.length_nil, gt_iff_lt, lt_self_iff_false, if_false, List.nil_append]
    exact appendInput_lines hnonempty texts
  have hlimit : (Sidecar.isBlank (java (addLines text texts)) ||
      decide ((java (addLines text texts)).length > 1048576)) = false := by
    rw [visible_addLines texts hvisible, Bool.false_or, decide_eq_false_iff_not]
    omega
  rw [Sidecar.StdioRuntime.inputText, hget, List.map_cons]
  rw [List.map_cons] at hparts
  simp only [hparts, ok_bind, hlimit, reject_false]
  rfl

/-! ## The text that the model gets -/

lemma required_ok_iff {params : ObjectNode} {name s : String} {v : JavaString}
    (hget : ObjectNode.get (java name) params = some (.string (java s))) :
    Sidecar.AgentScopeTurnRuntime.required params name = .ok v ↔ java s = v ∧ TextFits 1024 s := by
  simp only [Sidecar.AgentScopeTurnRuntime.required, hget, TextFits]
  cases hblank : Sidecar.isBlank (java s) with
  | true => simp
  | false =>
    by_cases hlength : (java s).length ≤ 1024
    · simp [hlength, Nat.not_lt.mpr hlength]
    · simp [hlength, Nat.lt_of_not_le hlength]

lemma textFits_of_appendPart {builder result : BoundedTextBuilder}
    (h : appendPart builder (partFields text) = .ok result) : TextFits 1024 text := by
  obtain ⟨htype, htext⟩ := get_part text
  obtain ⟨type, ht, h⟩ := bind_eq_ok.mp h
  obtain ⟨rfl, -⟩ := (required_ok_iff htype).mp ht
  rw [if_pos rfl] at h
  obtain ⟨value, hv, -⟩ := bind_eq_ok.mp h
  exact ((required_ok_iff htext).mp hv).2

lemma append_java {chunk : String} (h : (asBytes (joined ++ chunk)).length ≤ maxBytes) :
    (BoundedTextBuilder.mk maxBytes (java joined) (asBytes joined).length).append (java chunk) =
      .ok ⟨maxBytes, java (joined ++ chunk), (asBytes (joined ++ chunk)).length⟩ := by
  rw [asBytes_append, List.length_append] at h ⊢
  rw [BoundedTextBuilder.append, countBytes_java h, ok_bind]
  simp only [java, utf16Encode_append]
  rfl

lemma appendPart_java (hfits : TextFits 1024 text)
    (h : (asBytes (joined ++ text)).length ≤ maxBytes) :
    appendPart ⟨maxBytes, java joined, (asBytes joined).length⟩ (partFields text) =
      .ok ⟨maxBytes, java (joined ++ text), (asBytes (joined ++ text)).length⟩ := by
  obtain ⟨htype, htext⟩ := get_part text
  have hkind : TextFits 1024 "text" := ⟨by decide, by decide⟩
  refine bind_eq_ok.mpr ⟨_, (required_ok_iff htype).mpr ⟨rfl, hkind⟩, ?_⟩
  rw [if_pos rfl]
  exact bind_eq_ok.mpr ⟨_, (required_ok_iff htext).mpr ⟨rfl, hfits⟩, append_java h⟩

lemma appendParts_lines {index : ℕ} (hindex : 0 < index)
    (hfits : ∀ text ∈ texts, TextFits 1024 text)
    (h : (asBytes (addLines joined texts)).length ≤ maxBytes) :
    appendParts ⟨maxBytes, java joined, (asBytes joined).length⟩ index
        (texts.map fun text => toNode (partParams text)) =
      .ok ⟨maxBytes, java (addLines joined texts), (asBytes (addLines joined texts)).length⟩ := by
  induction texts generalizing joined index with
  | nil => rfl
  | cons text texts ih =>
    have hnext : (asBytes (joined ++ "\n" ++ text)).length ≤ maxBytes :=
      (length_addLines _ texts).trans h
    have hline : (asBytes (joined ++ "\n")).length ≤ maxBytes := by
      rw [asBytes_append (joined ++ "\n"), List.length_append] at hnext
      omega
    rw [List.map_cons, toNode_part, appendParts, separate, if_pos hindex, append_java hline,
      ok_bind, appendPart_java (hfits text (by simp)) hnext, ok_bind]
    exact ih (Nat.succ_pos index) (fun t ht => hfits t (by simp [ht])) h

lemma textFits_of_appendParts {builder result : BoundedTextBuilder} {index : ℕ}
    (h : appendParts builder index (texts.map fun text => toNode (partParams text)) = .ok result) :
    ∀ text ∈ texts, TextFits 1024 text := by
  induction texts generalizing builder index with
  | nil => simp
  | cons text texts ih =>
    rw [List.map_cons, toNode_part, appendParts] at h
    obtain ⟨_, -, h⟩ := bind_eq_ok.mp h
    obtain ⟨_, hpart, h⟩ := bind_eq_ok.mp h
    exact List.forall_mem_cons.mpr ⟨textFits_of_appendPart hpart, ih h⟩

lemma appendParts_iff (h : (asBytes (addLines text texts)).length ≤ maxBytes)
    (result : BoundedTextBuilder) :
    appendParts ⟨maxBytes, [], 0⟩ 0 ((text :: texts).map fun text => toNode (partParams text)) =
        .ok result ↔
      ⟨maxBytes, java (addLines text texts), (asBytes (addLines text texts)).length⟩ = result ∧
        ∀ t ∈ text :: texts, TextFits 1024 t := by
  have hrun : (∀ t ∈ text :: texts, TextFits 1024 t) →
      appendParts ⟨maxBytes, [], 0⟩ 0 ((text :: texts).map fun text => toNode (partParams text)) =
        .ok ⟨maxBytes, java (addLines text texts), (asBytes (addLines text texts)).length⟩ := by
    intro hfits
    have hfirst : (asBytes ("" ++ text)).length ≤ maxBytes := by
      rw [String.empty_append]
      exact (length_addLines text texts).trans h
    have hpart := appendPart_java (hfits text (by simp)) hfirst
    rw [String.empty_append] at hpart
    rw [List.map_cons, toNode_part, appendParts, separate, if_neg (lt_irrefl 0), ok_bind]
    refine bind_eq_ok.mpr ⟨_, hpart, ?_⟩
    exact appendParts_lines Nat.one_pos (fun t ht => hfits t (by simp [ht])) h
  constructor
  · intro hok
    have hfits := textFits_of_appendParts hok
    rw [hrun hfits] at hok
    exact ⟨Except.ok.inj hok, hfits⟩
  · rintro ⟨rfl, hfits⟩
    exact hrun hfits

/-! ## The request -/

section Request

variable {request : TurnStartInput} {text : String} {texts : List String}

lemma get_turn (request : TurnStartInput) (texts : List String) :
    let fields := toFields (SortedMap.ofList (turnMembers request texts))
    ObjectNode.get (java "threadId") fields = some (.string (java request.threadId)) ∧
      ObjectNode.get (java "accessMode") fields = some (.string (java request.accessMode)) ∧
      ObjectNode.get (java "input") fields =
        some (.array (texts.map fun text => toNode (partParams text))) ∧
      (∀ name ∈ ["userId", "sessionId", "turnId", "mode"],
        ObjectNode.get (java name) fields = none) := by
  have hkeys : ((turnMembers request texts).map Prod.fst).Nodup := by simp [turnMembers]
  have hget := get_jsonObject hkeys
  refine ⟨hget "threadId", hget "accessMode", ?_, ?_⟩
  · have hnodes : toNode (.array (texts.map partParams)) =
        .array (texts.map fun text => toNode (partParams text)) := by
      rw [toNode, toNodes_eq_map, List.map_map]
      rfl
    rw [← hnodes]
    exact hget "input"
  · intro name hname
    rw [hget name]
    simp only [List.mem_cons, List.not_mem_nil, or_false] at hname
    rcases hname with rfl | rfl | rfl | rfl <;> rfl

lemma optional_absent {params : ObjectNode} {name : String} {fallback : JavaString}
    (h : ObjectNode.get (java name) params = none) :
    Sidecar.AgentScopeTurnRuntime.optional params name fallback = .ok fallback := by
  simp [Sidecar.AgentScopeTurnRuntime.optional, ObjectNode.has, h]

/-- The parser takes a request of the host, with its joined text, exactly when each part is
short. -/
lemma parse_ok_iff (hv : ValidTurn request) (htexts : request.texts = text :: texts)
    (hthread : Sidecar.matchesHeadTail "thr_" (java request.threadId) = true)
    (hvisible : Sidecar.isBlank (java text) = false) {maxInputBytes : ℕ}
    (hbytes : (asBytes (addLines text texts)).length ≤ maxInputBytes) :
    (∃ input, Input.parse (toFields (SortedMap.ofList (turnMembers request (text :: texts))))
        maxInputBytes = .ok input ∧ input.text = java (addLines text texts)) ↔
      ∀ t ∈ text :: texts, TextFits 1024 t := by
  obtain ⟨hthreadId, hmode, hinput, habsent⟩ := get_turn request (text :: texts)
  have hlength : (asBytes request.threadId).length ≤ 128 := by
    have hid := hv.threadId
    simp only [validTextId, Bool.and_eq_true, decide_eq_true_eq] at hid
    exact hid.1.2
  have hthreadFits : TextFits 1024 request.threadId := by
    refine ⟨not_blank_of_head (show java "thr_" = 0x74 :: java "hr_" by decide) (by decide)
      (isPrefixOf_java hthread), ?_⟩
    have hunits := length_utf16Encode_le request.threadId
    rw [java]
    omega
  have hmodeFits : TextFits 1024 request.accessMode ∧
      (["read_only", "workspace", "full_access"].any fun mode =>
        java mode == java request.accessMode) = true := by
    have hmem := hv.accessMode
    simp only [List.mem_cons, List.not_mem_nil, or_false] at hmem
    rcases hmem with h | h | h <;> rw [h] <;> exact ⟨⟨by decide, by decide⟩, by decide⟩
  have hturn : requestedTurn (toFields (SortedMap.ofList (turnMembers request (text :: texts)))) =
      .ok none := by
    simp [requestedTurn, ObjectNode.has, habsent "turnId" (by simp)]
  have haccess : accessModeOf (toFields (SortedMap.ofList (turnMembers request (text :: texts)))) =
      .ok (java request.accessMode) := by
    rw [accessModeOf, if_pos (by simp [ObjectNode.has, hmode])]
    exact (required_ok_iff hmode).mpr ⟨rfl, hmodeFits.1⟩
  have hparts : inputParts (toFields (SortedMap.ofList (turnMembers request (text :: texts)))) =
      .ok ((text :: texts).map fun text => toNode (partParams text)) := by
    have hcount := hv.length
    rw [htexts] at hcount
    have hsmall : ((List.isEmpty ((text :: texts).map fun text => toNode (partParams text))) ||
        decide (((text :: texts).map fun text => toNode (partParams text)).length > 128)) =
          false := by
      simpa using hcount
    rw [inputParts, hinput]
    simp only [hsmall, Bool.false_eq_true, if_false]
  obtain ⟨threadId, hparsed⟩ : ∃ threadId,
      Sidecar.DomainId.create "thr_" (java request.threadId) = .ok threadId := ⟨_, dif_pos hthread⟩
  have hknown : (!(["read_only", "workspace", "full_access"].any fun mode =>
      java mode == java request.accessMode)) = false := by rw [hmodeFits.2]; rfl
  have hshown : Sidecar.isBlank (java (addLines text texts)) = false :=
    visible_addLines texts hvisible
  simp only [Input.parse, mapError_eq_ok, Input.parseChecked,
    (required_ok_iff hthreadId).mpr ⟨rfl, hthreadFits⟩, ok_bind, hparsed,
    optional_absent (habsent "userId" (by simp)), optional_absent (habsent "sessionId" (by simp)),
    hturn, Option.any_none, reject_false, optional_absent (habsent "mode" (by simp)), haccess,
    hknown, hparts, bind_ok_iff (appendParts_iff hbytes), hshown]
  constructor
  · rintro ⟨input, ⟨hfits, -⟩, -⟩
    exact hfits
  · exact fun hfits => ⟨_, ⟨hfits, rfl⟩, rfl⟩

/-- The sidecar admits a turn: `inputText` and `Input.parse` both take the parameters, and both find
this text. -/
def Admitted (params : JsonNode) (text : JavaString) : Prop :=
  ∃ node, params = .object node ∧ Sidecar.StdioRuntime.inputText node = .ok text ∧
    ∃ input, Input.parse node defaultMaxInputBytes = .ok input ∧ input.text = text

/-- **Admission of a turn**: a request that the host sends, with a thread that the sidecar can know,
parts that show something and a text within the limits of the whole, is admitted with its parts
joined exactly when no part has more than 1024 units. -/
theorem admitted_iff {params : Value} (h : request.intoParams = .ok params)
    (hthread : Sidecar.matchesHeadTail "thr_" (java request.threadId) = true)
    (hvisible : ∀ t ∈ request.texts, Sidecar.isBlank (java t) = false)
    (hunits : (java (joinLines request.texts)).length ≤ 1048576)
    (hbytes : (asBytes (joinLines request.texts)).length ≤ 4 * 1024 * 1024) :
    Admitted (toNode params) (java (joinLines request.texts)) ↔
      ∀ t ∈ request.texts, (java t).length ≤ 1024 := by
  obtain ⟨hv, rfl⟩ := validTurn_of_intoParams h
  obtain ⟨text, texts, htexts⟩ := List.exists_cons_of_ne_nil hv.nonempty
  rw [htexts] at hvisible hunits hbytes ⊢
  have hfirst := hvisible text (by simp)
  have hstored := inputText_eq (get_turn request (text :: texts)).2.2.1 hfirst hunits
  have hparse := parse_ok_iff hv htexts hthread hfirst hbytes
  have hfits : (∀ t ∈ text :: texts, TextFits 1024 t) ↔
      ∀ t ∈ text :: texts, (java t).length ≤ 1024 :=
    forall₂_congr fun t ht => and_iff_right (hvisible t ht)
  constructor
  · rintro ⟨node, hnode, -, hinput⟩
    obtain rfl := Json.object.inj hnode
    exact hfits.mp (hparse.mp hinput)
  · intro hshort
    exact ⟨_, rfl, hstored, hparse.mpr (hfits.mpr hshort)⟩

end Request

section Examples

/-- A request with one part. -/
def requestOf (text : String) : TurnStartInput where
  threadId := "thr_main"
  accessMode := "workspace"
  profileRevision := "profile_default"
  input := [⟨"text", some text⟩]

lemma intoParams_requestOf (text : String) (hnonempty : text ≠ "")
    (hlength : (asBytes text).length ≤ 1048576) :
    (requestOf text).intoParams = .ok (jsonObject (turnMembers (requestOf text) [text])) := by
  have hpart : TurnInputPart.checked ⟨"text", some text⟩ = .ok text := by
    simp [TurnInputPart.checked, hnonempty, hlength]
  have hhead : (requestOf text).checkHead = .ok () := by
    have hid : validTextId "thr_main" 128 = true := by decide
    have hrevision : (asBytes "profile_").isPrefixOf (asBytes "profile_default") = true := by decide
    have hsmall : (asBytes "profile_default").length ≤ 128 := by decide
    have hmode : ["read_only", "workspace", "full_access"].contains "workspace" = true := by decide
    refine reject_eq_ok.mpr ?_
    show (!validTextId "thr_main" 128 ||
      !(["read_only", "workspace", "full_access"].contains "workspace") ||
      !(asBytes "profile_").isPrefixOf (asBytes "profile_default") ||
      decide ((asBytes "profile_default").length > 128) || false || false) = false
    rw [hid, hmode, hrevision, decide_eq_false (Nat.not_lt.mpr hsmall)]
    rfl
  refine bind_eq_ok.mpr ⟨(), hhead, bind_eq_ok.mpr ⟨[text], ?_, rfl⟩⟩
  show [(⟨"text", some text⟩ : TurnInputPart)].mapM TurnInputPart.checked = .ok [text]
  rw [List.mapM_cons, hpart]
  rfl

/-- A short request is admitted. -/
theorem admitted_iff_hello :
    Admitted (toNode (jsonObject (turnMembers (requestOf "hello") ["hello"]))) (java "hello") ↔
      ∀ t ∈ ["hello"], (java t).length ≤ 1024 :=
  admitted_iff (intoParams_requestOf "hello" (by decide) (by decide)) (by decide)
    (forall_mem_of_all (by decide)) (by decide) (by decide)

/-- A text of so many letters. -/
def letters (n : ℕ) : String := String.ofList (List.replicate n 'a')

lemma letters_size (n : ℕ) : (java (letters n)).length = n ∧ (asBytes (letters n)).length = n := by
  have hunit : (utf16Char 'a').length = 1 := by decide
  have hbyte : 'a'.utf8Size = 1 := by decide
  rw [java, utf16Encode, asBytes_eq_flatMap, letters, String.toList_ofList]
  simp [List.length_flatMap, hunit, hbyte]

lemma letters_plain (n : ℕ) :
    '\x00' ∉ (letters (n + 1)).toList ∧ Sidecar.isBlank (java (letters (n + 1))) = false := by
  have hletter : (utf16Char 'a').all Sidecar.isWhitespace = false := by decide
  rw [java, utf16Encode, letters, String.toList_ofList]
  constructor
  · exact fun hmem => absurd (List.eq_of_mem_replicate hmem) (by decide)
  · rw [Sidecar.isBlank, List.replicate_succ, List.flatMap_cons, List.all_append, hletter,
      Bool.false_and]

/-- A longer part is refused. -/
theorem not_admitted_long :
    ¬ ∀ (request : TurnStartInput) (params : Value), request.intoParams = .ok params →
        Sidecar.matchesHeadTail "thr_" (java request.threadId) = true →
        (∀ t ∈ request.texts, '\x00' ∉ t.toList ∧ Sidecar.isBlank (java t) = false) →
        (java (joinLines request.texts)).length ≤ 1048576 →
        (asBytes (joinLines request.texts)).length ≤ 4 * 1024 * 1024 →
        Admitted (toNode params) (java (joinLines request.texts)) := by
  intro hall
  obtain ⟨hunits, hbytes⟩ := letters_size 1025
  have hsent := intoParams_requestOf (letters 1025) (by
    intro hempty
    rw [hempty] at hunits
    cases hunits) (by omega)
  have hadmitted := hall (requestOf (letters 1025)) _ hsent (by decide)
    (fun t ht => by rw [List.mem_singleton.mp ht]; exact letters_plain 1024)
    (by show (java (letters 1025)).length ≤ 1048576; omega)
    (by show (asBytes (letters 1025)).length ≤ 4 * 1024 * 1024; omega)
  obtain ⟨node, hnode, -, hinput⟩ := hadmitted
  obtain rfl := Json.object.inj hnode
  have hv := (validTurn_of_intoParams hsent).1
  have htexts : (requestOf (letters 1025)).texts = [letters 1025] := rfl
  have hfits := (parse_ok_iff hv htexts (by decide) (letters_plain 1024).2
    (by show (asBytes (letters 1025)).length ≤ defaultMaxInputBytes; rw [hbytes]; decide)).mp hinput
  have hshort := (hfits (letters 1025) (by simp)).2
  omega

end Examples

end JaDesktop.Interop
