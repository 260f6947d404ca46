import JaDesktop.Lib.AssocMap
import JaDesktop.Lib.Utf8
import JaDesktop.Sidecar.Protocol

/-!
# The agent state store

A list of states is stored as JSON lines: the writer puts a line feed between the serialised values,
and the reader splits the text at every line break that the regular expression `\R` knows.  The
JSON codec of the agent framework is a parameter; `CodecRule` is what the store relies on and what a
JSON codec does with a text that is cut inside a string.
-/

namespace JaDesktop.Persistence.AgentState

open Sidecar

/-! ## Lines -/

/-- A character that `\R` takes for a line break. -/
def isLineBreak (c : Char) : Bool :=
  c == '\n' || c == '\x0B' || c == '\x0C' || c == '\r' || c == '\u0085' || c == '\u2028' ||
    c == '\u2029'

/-- A line that starts with this character. -/
def consLine (c : Char) : List (List Char) → List (List Char)
  | [] => [[c]]
  | line :: lines => (c :: line) :: lines

/-- `text.split("\\R", -1)`; a carriage return and a line feed after it are one break. -/
def splitLines : List Char → List (List Char)
  | [] => [[]]
  | '\r' :: '\n' :: rest => [] :: splitLines rest
  | c :: rest => if isLineBreak c then [] :: splitLines rest else consLine c (splitLines rest)

/-- `Character.isWhitespace` of a code point; none beyond the basic plane is one. -/
def isWhitespaceChar (c : Char) : Bool := c.toNat < 0x10000 && isWhitespace (UInt16.ofNat c.toNat)

/-- `line.isBlank()`. -/
def isBlankLine (line : List Char) : Bool := line.all isWhitespaceChar

lemma splitLines_cons {c : Char} (hc : isLineBreak c = false) (rest : List Char) :
    splitLines (c :: rest) = consLine c (splitLines rest) := by
  rw [splitLines.eq_3]
  · rw [if_neg (by rw [hc]; exact Bool.false_ne_true)]
  · rintro _ rfl -
    cases hc

lemma splitLines_newline (rest : List Char) : splitLines ('\n' :: rest) = [] :: splitLines rest := by
  rw [splitLines.eq_3]
  · rfl
  · intro _ h
    exact absurd h (by decide)

lemma splitLines_append {line : List Char} (hline : ∀ c ∈ line, isLineBreak c = false)
    {rest : List Char} {lines : List (List Char)} (hrest : splitLines rest = [] :: lines) :
    splitLines (line ++ rest) = line :: lines := by
  induction line with
  | nil => exact hrest
  | cons c line ih =>
    rw [List.cons_append, splitLines_cons (hline c (by simp)),
      ih fun d hd => hline d (List.mem_cons_of_mem _ hd)]
    rfl

lemma splitLines_of_noBreak {line : List Char} (hline : ∀ c ∈ line, isLineBreak c = false) :
    splitLines line = [line] := by
  simpa using splitLines_append hline (rfl : splitLines [] = [] :: [])

/-- At a break the next line begins, and it may be more than one character that is a break. -/
lemma exists_splitLines_break {b : Char} (hb : isLineBreak b = true) (rest : List Char) :
    ∃ lines, splitLines (b :: rest) = [] :: lines := by
  by_cases hcr : ∃ rest', b = '\r' ∧ rest = '\n' :: rest'
  · obtain ⟨rest', rfl, rfl⟩ := hcr
    exact ⟨splitLines rest', rfl⟩
  · refine ⟨splitLines rest, ?_⟩
    rw [splitLines.eq_3, if_pos hb]
    rintro rest' rfl rfl
    exact hcr ⟨rest', rfl, rfl⟩

/-! ## The JSON codec -/

/-- `JsonUtils.getJsonCodec()` on the states of one type; `none` is a `RuntimeException`. -/
structure StateCodec (State : Type) where
  toJson : State → List Char
  fromJson : List Char → Option State

/-- Where a scan of JSON text stands. -/
inductive Scan
  | outside
  | inside
  | escaped
deriving DecidableEq

/-- One character of a scan: a quote opens and closes a string, a backslash inside it takes the next
character along. -/
def Scan.next : Scan → Char → Scan
  | .outside, c => if c = '"' then .inside else .outside
  | .inside, c => if c = '"' then .outside else if c = '\\' then .escaped else .inside
  | .escaped, _ => .inside

/-- The scan of a text from its start. -/
def scan (text : List Char) : Scan := text.foldl Scan.next .outside

/-- What a JSON codec does. -/
structure CodecRule {State : Type} (codec : StateCodec State) : Prop where
  /-- Reading undoes writing. -/
  fromJson_toJson : ∀ value, codec.fromJson (codec.toJson value) = some value
  /-- The control characters of ASCII are escaped, and the values are written without line feeds
  between their tokens. -/
  noControl : ∀ value, ∀ c ∈ codec.toJson value, 0x20 ≤ c.toNat
  /-- A value is written with a character that is visible. -/
  visible : ∀ value, ∃ c ∈ codec.toJson value, isWhitespaceChar c = false
  /-- Other characters than those of ASCII stand inside strings only. -/
  ascii_outside : ∀ value before c after, codec.toJson value = before ++ c :: after →
    0x80 ≤ c.toNat → scan before = .inside
  /-- A text that ends inside a string is refused. -/
  unclosed : ∀ text, scan text = .inside → codec.fromJson text = none

/-! ## The store -/

/-- What the store throws. -/
inductive StateFailure
  | invalidArgument
  | invalidState
deriving DecidableEq

/-- The primary key of a row of `agent_state`. -/
abbrev Slot := JavaString × JavaString × JavaString

/-- The table `agent_state`; its column `updated_at` is read by nothing. -/
abbrev AgentStateTable := AssocMap Slot (List UInt8)

def requireText (value : JavaString) : Except StateFailure Unit :=
  if isBlank value || 256 < value.length || value.contains 0x00 || value.contains 0x0A ||
      value.contains 0x0D then .error .invalidArgument
  else .ok ()

/-- `normalizeUser`; a missing user is the blank one. -/
def normalizeUser (userId : JavaString) : Except StateFailure JavaString :=
  if isBlank userId then .ok [] else (requireText userId).map fun _ => userId

/-- The checked slot of a call. -/
def requireSlot (userId sessionId key : JavaString) : Except StateFailure Slot := do
  let user ← normalizeUser userId
  requireText sessionId
  requireText key
  return (user, sessionId, key)

section Store

variable {State : Type} (codec : StateCodec State) (maxStateBytes : ℕ)

/-- The text of a list of states: a line feed before every value that does not come first. -/
def jsonLines (values : List State) : List Char :=
  values.foldl (fun lines value =>
    (if lines.isEmpty then lines else lines ++ ['\n']) ++ codec.toJson value) []

/-- `saveJson`: the row is inserted or updated. -/
def saveJson (userId sessionId key : JavaString) (payload : List UInt8) (table : AgentStateTable) :
    Except StateFailure AgentStateTable := do
  let slot ← requireSlot userId sessionId key
  if maxStateBytes < payload.length then .error .invalidState
  else .ok (table.insert slot payload)

/-- `save` of one state, which is encoded before the identity is checked. -/
def save (userId sessionId key : JavaString) (value : State) (table : AgentStateTable) :
    Except StateFailure AgentStateTable :=
  let payload := utf8 (codec.toJson value)
  if maxStateBytes < payload.length then .error .invalidState
  else (requireSlot userId sessionId key).map fun slot => table.insert slot payload

/-- `save` of a list of states. -/
def saveList (userId sessionId key : JavaString) (values : List State) (table : AgentStateTable) :
    Except StateFailure AgentStateTable :=
  saveJson maxStateBytes userId sessionId key (utf8 (jsonLines codec values)) table

/-- `readPayload`; `none` stands for a missing row. -/
def readPayload (userId sessionId key : JavaString) (table : AgentStateTable) :
    Except StateFailure (Option (List UInt8)) := do
  let slot ← requireSlot userId sessionId key
  match table.lookup slot with
  | none => .ok none
  | some payload => if maxStateBytes < payload.length then .error .invalidState else .ok (some payload)

def decode (payload : List UInt8) : Except StateFailure State :=
  match codec.fromJson (decodeUtf8 payload) with
  | some value => .ok value
  | none => .error .invalidState

/-- The loop of `getList`: blank lines are passed over. -/
def decodeLines : List (List Char) → Except StateFailure (List State)
  | [] => .ok []
  | line :: lines =>
    if isBlankLine line then decodeLines lines
    else do
      let value ← decode codec (utf8 line)
      let values ← decodeLines lines
      return value :: values

def get (userId sessionId key : JavaString) (table : AgentStateTable) :
    Except StateFailure (Option State) := do
  match ← readPayload maxStateBytes userId sessionId key table with
  | none => .ok none
  | some payload => (decode codec payload).map some

def getList (userId sessionId key : JavaString) (table : AgentStateTable) :
    Except StateFailure (List State) := do
  match ← readPayload maxStateBytes userId sessionId key table with
  | none => .ok []
  | some payload =>
    if payload.isEmpty then .ok [] else decodeLines codec (splitLines (decodeUtf8 payload))

end Store

/-! ## One state -/

section Proofs

variable {State : Type} {codec : StateCodec State} {maxStateBytes : ℕ}
variable {userId sessionId key : JavaString} {table stored : AgentStateTable}

lemma decode_toJson (rule : CodecRule codec) (value : State) :
    decode codec (utf8 (codec.toJson value)) = .ok value := by
  rw [decode, decodeUtf8_utf8, rule.fromJson_toJson]

lemma readPayload_insert {slot : Slot} {payload : List UInt8}
    (hslot : requireSlot userId sessionId key = .ok slot) (hsize : payload.length ≤ maxStateBytes) :
    readPayload maxStateBytes userId sessionId key (table.insert slot payload) =
      .ok (some payload) := by
  rw [readPayload, hslot, ok_bind, AssocMap.lookup_insert, if_pos rfl]
  exact if_neg (by omega)

/-! ## The text of a list -/

lemma toJson_ne_nil (rule : CodecRule codec) (value : State) : codec.toJson value ≠ [] := by
  obtain ⟨c, hc, -⟩ := rule.visible value
  exact List.ne_nil_of_mem hc

lemma foldl_lines (values : List State) {lines : List Char}
    (h : lines ≠ []) :
    values.foldl (fun lines value =>
      (if lines.isEmpty then lines else lines ++ ['\n']) ++ codec.toJson value) lines =
      lines ++ values.flatMap fun value => '\n' :: codec.toJson value := by
  induction values generalizing lines with
  | nil => simp
  | cons value values ih =>
    have hempty : lines.isEmpty = false := by
      rw [List.isEmpty_eq_false_iff]
      exact h
    rw [List.foldl_cons, hempty, ih, List.flatMap_cons]
    · simp
    · simp

lemma jsonLines_singleton (value : State) : jsonLines codec [value] = codec.toJson value := rfl

lemma jsonLines_cons (rule : CodecRule codec) (value next : State) (values : List State) :
    jsonLines codec (value :: next :: values) =
      codec.toJson value ++ '\n' :: jsonLines codec (next :: values) := by
  have hrest : jsonLines codec (next :: values) =
      codec.toJson next ++ values.flatMap fun value => '\n' :: codec.toJson value :=
    foldl_lines values (toJson_ne_nil rule next)
  have hall : jsonLines codec (value :: next :: values) = codec.toJson value ++
      (next :: values).flatMap fun value => '\n' :: codec.toJson value :=
    foldl_lines (next :: values) (toJson_ne_nil rule value)
  rw [hall, hrest, List.flatMap_cons, List.cons_append]

/-! ## Lines and values -/

/-- The line breaks that a serialised value can contain. -/
def LineSafe (text : List Char) : Prop :=
  ∀ c ∈ text, c ≠ '\u0085' ∧ c ≠ '\u2028' ∧ c ≠ '\u2029'

instance (text : List Char) : Decidable (LineSafe text) := inferInstanceAs (Decidable (∀ c ∈ _, _))

/-- A control character of ASCII is written as an escape, so it is no break inside a value. -/
lemma lineSafe_iff (rule : CodecRule codec) (value : State) :
    LineSafe (codec.toJson value) ↔ ∀ c ∈ codec.toJson value, isLineBreak c = false := by
  refine forall₂_congr fun c hc => ?_
  have hlow := rule.noControl value c hc
  have hne : ∀ {d : Char}, d.toNat < 0x20 → (c == d) = false := by
    intro d hd
    rw [beq_eq_false_iff_ne]
    rintro rfl
    omega
  have h0A : ('\n').toNat < 0x20 := by decide
  have h0B : ('\x0B').toNat < 0x20 := by decide
  have h0C : ('\x0C').toNat < 0x20 := by decide
  have h0D : ('\r').toNat < 0x20 := by decide
  rw [isLineBreak, hne h0A, hne h0B, hne h0C, hne h0D]
  simp [and_assoc]

lemma not_blank (rule : CodecRule codec) (value : State) :
    isBlankLine (codec.toJson value) = false := by
  obtain ⟨c, hc, hvisible⟩ := rule.visible value
  rw [isBlankLine, List.all_eq_false]
  exact ⟨c, hc, by rw [hvisible]; exact Bool.false_ne_true⟩

lemma decodeLines_toJson (rule : CodecRule codec) (value : State) (lines : List (List Char)) :
    decodeLines codec (codec.toJson value :: lines) =
      (decodeLines codec lines).map fun values => value :: values := by
  rw [decodeLines, not_blank rule, decode_toJson rule]
  cases decodeLines codec lines <;> rfl

lemma quote_mem_of_scan {text : List Char} (h : scan text = .inside) : '"' ∈ text := by
  have hscan : ∀ (text : List Char) (s : Scan), s = .outside → '"' ∉ text →
      text.foldl Scan.next s = .outside := by
    intro text
    induction text with
    | nil =>
      intro s hs _
      exact hs
    | cons c text ih =>
      intro s hs hnot
      subst hs
      have hc : c ≠ '"' := fun hc => hnot (by simp [hc])
      exact ih _ (if_neg hc) fun hmem => hnot (List.mem_cons_of_mem _ hmem)
  by_contra hnot
  rw [scan, hscan text .outside rfl hnot] at h
  cases h

/-- A value with a break inside is cut there, and its first part is refused. -/
lemma decodeLines_cut (rule : CodecRule codec) {value : State}
    (h : ¬LineSafe (codec.toJson value)) (rest : List Char) :
    decodeLines codec (splitLines (codec.toJson value ++ rest)) = .error .invalidState := by
  have hbreak : ∃ c ∈ codec.toJson value, isLineBreak c = true := by
    rw [lineSafe_iff rule] at h
    push Not at h
    obtain ⟨c, hc, hne⟩ := h
    exact ⟨c, hc, by simpa using hne⟩
  obtain ⟨b, hfind⟩ := Option.isSome_iff_exists.mp (List.find?_isSome.mpr hbreak)
  obtain ⟨hb, before, after, htext, hbefore⟩ := List.find?_eq_some_iff_append.mp hfind
  -- the break is no ASCII character, so it stands inside a string
  have hscan : scan before = .inside := by
    refine rule.ascii_outside value before b after htext ?_
    by_contra hascii
    have hmem : b ∈ codec.toJson value := by
      rw [htext]
      simp
    have hlow := rule.noControl value b hmem
    simp only [isLineBreak, Bool.or_eq_true, beq_iff_eq] at hb
    rcases hb with (((((rfl | rfl) | rfl) | rfl) | rfl) | rfl) | rfl <;> revert hlow hascii <;> decide
  obtain ⟨lines, hlines⟩ := exists_splitLines_break hb (after ++ rest)
  have hsplit : splitLines (codec.toJson value ++ rest) = before :: lines := by
    rw [htext, List.append_assoc, List.cons_append]
    exact splitLines_append (fun c hc => by simpa using hbefore c hc) hlines
  have hvisible : isBlankLine before = false := by
    rw [isBlankLine, List.all_eq_false]
    exact ⟨'"', quote_mem_of_scan hscan, by decide⟩
  rw [hsplit, decodeLines, hvisible, if_neg Bool.false_ne_true, decode, decodeUtf8_utf8,
    rule.unclosed before hscan]
  rfl

/-- **The lines of a list give the list back exactly when no value contains a break.** -/
lemma decodeLines_jsonLines (rule : CodecRule codec) (value : State) (values : List State) :
    decodeLines codec (splitLines (jsonLines codec (value :: values))) = .ok (value :: values) ↔
      ∀ v ∈ value :: values, LineSafe (codec.toJson v) := by
  induction values generalizing value with
  | nil =>
    rw [jsonLines_singleton, List.forall_mem_singleton]
    by_cases hsafe : LineSafe (codec.toJson value)
    · rw [splitLines_of_noBreak ((lineSafe_iff rule value).mp hsafe), decodeLines_toJson rule]
      exact ⟨fun _ => hsafe, fun _ => rfl⟩
    · have hcut := decodeLines_cut rule hsafe []
      rw [List.append_nil] at hcut
      rw [hcut]
      exact ⟨fun h => (by cases h), fun h => absurd h hsafe⟩
  | cons next values ih =>
    rw [jsonLines_cons rule, List.forall_mem_cons]
    by_cases hsafe : LineSafe (codec.toJson value)
    · rw [splitLines_append ((lineSafe_iff rule value).mp hsafe) (splitLines_newline _),
        decodeLines_toJson rule, map_eq_ok, ← ih next]
      constructor
      · rintro ⟨read, hread, hcons⟩
        rw [List.cons.injEq] at hcons
        exact ⟨hsafe, by rw [hread, hcons.2]⟩
      · rintro ⟨-, hread⟩
        exact ⟨_, hread, rfl⟩
    · rw [decodeLines_cut rule hsafe]
      exact ⟨fun h => (by cases h), fun h => absurd h.1 hsafe⟩

lemma saveList_eq_ok {values : List State} :
    saveList codec maxStateBytes userId sessionId key values table = .ok stored ↔
      ∃ slot, requireSlot userId sessionId key = .ok slot ∧
        (utf8 (jsonLines codec values)).length ≤ maxStateBytes ∧
        stored = table.insert slot (utf8 (jsonLines codec values)) := by
  rw [saveList, saveJson, bind_eq_ok]
  refine exists_congr fun slot => and_congr_right fun _ => ?_
  split_ifs with hsize
  · exact ⟨fun h => (by cases h), fun h => absurd h.1 (by omega)⟩
  · exact ⟨fun h => ⟨by omega, (Except.ok.inj h).symm⟩, fun h => by rw [h.2]⟩

end Proofs

/-- **A stored list of states comes back as it was exactly when no serialised state contains one of
the line breaks U+0085, U+2028 and U+2029.** -/
theorem getList_saved_iff {State : Type} {codec : StateCodec State} (rule : CodecRule codec)
    (maxStateBytes : ℕ) (userId sessionId key : JavaString) (values : List State)
    (table stored : AgentStateTable)
    (h : saveList codec maxStateBytes userId sessionId key values table = .ok stored) :
    getList codec maxStateBytes userId sessionId key stored = .ok values ↔
      ∀ value ∈ values, LineSafe (codec.toJson value) := by
  obtain ⟨slot, hslot, hsize, rfl⟩ := saveList_eq_ok.mp h
  rw [getList, readPayload_insert hslot hsize, ok_bind]
  dsimp only
  cases values with
  | nil => exact ⟨fun _ v hv => (by cases hv), fun _ => rfl⟩
  | cons value values =>
    have hempty : (utf8 (jsonLines codec (value :: values))).isEmpty = false := by
      rw [List.isEmpty_eq_false_iff, Ne, utf8_eq_nil_iff]
      cases values with
      | nil => exact toJson_ne_nil rule value
      | cons next values =>
        rw [jsonLines_cons rule]
        simp
    rw [hempty, if_neg Bool.false_ne_true, decodeUtf8_utf8]
    exact decodeLines_jsonLines rule value values

/-! ## A state that is a plain text -/

/-- A character that stands in a JSON string as it is. -/
def isPlain (c : Char) : Bool := 0x20 ≤ c.toNat && c != '"' && c != '\\'

/-- A text of such characters. -/
def PlainText := {text : List Char // text.all isPlain = true}

instance : DecidableEq PlainText :=
  inferInstanceAs (DecidableEq {text : List Char // text.all isPlain = true})

/-- The text between the quotes of a JSON string without escapes. -/
def readPlain : List Char → Option PlainText
  | [] => none
  | first :: rest =>
    if h : rest.dropLast.all isPlain = true then
      if first = '"' ∧ rest.getLast? = some '"' then some ⟨rest.dropLast, h⟩ else none
    else none

/-- A codec for these texts. -/
def plainCodec : StateCodec PlainText where
  toJson value := '"' :: (value.val ++ ['"'])
  fromJson := readPlain

lemma scan_plain {text : List Char} (h : text.all isPlain = true) :
    text.foldl Scan.next .inside = .inside := by
  induction text with
  | nil => rfl
  | cons c text ih =>
    simp only [List.all_cons, Bool.and_eq_true, isPlain, bne_iff_ne, ne_eq] at h
    rw [List.foldl_cons, Scan.next, if_neg h.1.1.2, if_neg h.1.2]
    exact ih h.2

lemma plainCodec_rule : CodecRule plainCodec where
  fromJson_toJson := by
    rintro ⟨text, htext⟩
    show readPlain ('"' :: (text ++ ['"'])) = _
    rw [readPlain, dif_pos (by rwa [List.dropLast_concat]), if_pos ⟨rfl, List.getLast?_concat⟩]
    congr 1
    exact Subtype.ext List.dropLast_concat
  noControl := by
    rintro ⟨text, htext⟩ c hc
    simp only [plainCodec, List.mem_cons, List.mem_append, List.not_mem_nil, or_false] at hc
    rcases hc with rfl | hc | rfl
    · decide
    · have hplain := List.all_eq_true.mp htext c hc
      simp only [isPlain, Bool.and_eq_true, decide_eq_true_eq] at hplain
      exact hplain.1.1
    · decide
  visible := fun value => ⟨'"', by simp [plainCodec], by decide⟩
  ascii_outside := by
    rintro ⟨text, htext⟩ before c after heq hc
    -- neither quote is the character, so it is one of the text
    cases before with
    | nil =>
      obtain ⟨rfl, -⟩ := List.cons.inj heq
      exact absurd hc (by decide)
    | cons d before =>
      obtain ⟨rfl, hrest⟩ := List.cons.inj heq
      rcases List.eq_nil_or_concat after with rfl | ⟨after', last, rfl⟩
      · obtain ⟨-, hlast⟩ := List.append_inj' hrest rfl
        obtain rfl := List.singleton_inj.mp hlast
        exact absurd hc (by decide)
      · have hsplit : text ++ ['"'] = (before ++ c :: after') ++ [last] := by simpa using hrest
        obtain ⟨rfl, -⟩ := List.append_inj' hsplit rfl
        rw [List.all_append, Bool.and_eq_true] at htext
        exact scan_plain htext.1
  unclosed := by
    intro text hscan
    cases hread : plainCodec.fromJson text with
    | none => rfl
    | some value =>
      exfalso
      change readPlain text = some value at hread
      cases text with
      | nil => cases hread
      | cons first rest =>
        rw [readPlain] at hread
        split_ifs at hread with hplain hquotes
        obtain ⟨rfl, hlast⟩ := hquotes
        have hrest : rest = rest.dropLast ++ ['"'] :=
          (List.dropLast_append_getLast? '"' hlast).symm
        rw [scan, List.foldl_cons, hrest, List.foldl_append] at hscan
        have hinside : Scan.next .outside '"' = .inside := rfl
        rw [hinside, scan_plain hplain] at hscan
        cases hscan

/-- The states `a` and `b`. -/
def plainStates : List PlainText := [⟨['a'], by decide⟩, ⟨['b'], by decide⟩]

/-- The slot of a session of the blank user. -/
def sampleSlot : Slot := ([], [0x73], [0x6B])

theorem getList_plainStates :
    getList plainCodec 64 [] [0x73] [0x6B]
        ((∅ : AgentStateTable).insert sampleSlot (utf8 (jsonLines plainCodec plainStates))) =
      .ok plainStates := by
  have hstored : saveList plainCodec 64 [] [0x73] [0x6B] plainStates ∅ = .ok
      ((∅ : AgentStateTable).insert sampleSlot (utf8 (jsonLines plainCodec plainStates))) :=
    saveList_eq_ok.mpr ⟨sampleSlot, rfl, by decide, rfl⟩
  refine (getList_saved_iff plainCodec_rule 64 [] [0x73] [0x6B] plainStates ∅ _ hstored).mpr ?_
  intro value hvalue
  rcases List.mem_pair.mp hvalue with rfl | rfl
  · simp [LineSafe, plainCodec]
  · simp [LineSafe, plainCodec]

/-- A state whose text has a line separator between two letters. -/
def brokenState : PlainText := ⟨['a', '\u2028', 'b'], by decide⟩

/-- A list with that state is stored and cannot be read any more. -/
theorem getList_brokenState :
    CodecRule plainCodec ∧
      ∃ stored, saveList plainCodec 64 [] [0x73] [0x6B] [brokenState] ∅ = .ok stored ∧
        getList plainCodec 64 [] [0x73] [0x6B] stored = .error .invalidState :=
  ⟨plainCodec_rule, (∅ : AgentStateTable).insert sampleSlot (utf8 (jsonLines plainCodec [brokenState])),
    saveList_eq_ok.mpr ⟨sampleSlot, rfl, by decide, rfl⟩, by decide +kernel⟩

end JaDesktop.Persistence.AgentState
