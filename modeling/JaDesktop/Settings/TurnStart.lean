import JaDesktop.Settings.Replay

/-!
# The request for a turn

`TurnStartInput` of `app_runtime/config.rs`: what the WebView sends to start a turn, and the
parameters of `turn/start` that the host makes of it.
-/

namespace JaDesktop.Settings

open Host

structure TurnInputPart where
  kind : String
  text : Option String

structure TurnStartInput where
  threadId : String
  accessMode : String
  profileRevision : String
  input : List TurnInputPart

variable (request : TurnStartInput)

/-- The checks of `into_params` before the loop over the parts. -/
def TurnStartInput.checkHead : Except RuntimeCommandError Unit :=
  reject (!validTextId request.threadId 128 ||
    !(["read_only", "workspace", "full_access"].contains request.accessMode) ||
    !(asBytes "profile_").isPrefixOf (asBytes request.profileRevision) ||
    (asBytes request.profileRevision).length > 128 || request.input.isEmpty ||
    request.input.length > 128) .invalidParams

/-- The body of the loop over the parts: the text that is sent. -/
def TurnInputPart.checked (part : TurnInputPart) : Except RuntimeCommandError String :=
  if part.kind = "text" then
    match part.text with
    | none => .error .invalidParams
    | some text =>
      if text = "" || (asBytes text).length > 1048576 then .error .invalidParams else .ok text
  else .error .invalidParams

def partParams (text : String) : Value :=
  jsonObject [("type", .string "text"), ("text", .string text)]

def turnMembers (texts : List String) : Map :=
  [("threadId", .string request.threadId), ("accessMode", .string request.accessMode),
    ("profileRevision", .string request.profileRevision),
    ("input", .array (texts.map partParams))]

/-- `TurnStartInput::into_params`. -/
def TurnStartInput.intoParams : Except RuntimeCommandError Value := do
  request.checkHead
  let texts ← request.input.mapM TurnInputPart.checked
  return jsonObject (turnMembers request texts)

/-- The texts of the parts that have one. -/
def TurnStartInput.texts : List String :=
  request.input.filterMap (·.text)

/-- What `into_params` establishes of a request. -/
structure ValidTurn (request : TurnStartInput) : Prop where
  threadId : validTextId request.threadId 128 = true
  accessMode : request.accessMode ∈ ["read_only", "workspace", "full_access"]
  nonempty : request.texts ≠ []
  length : request.texts.length ≤ 128

lemma mapM_checked {parts : List TurnInputPart} {texts : List String}
    (h : parts.mapM TurnInputPart.checked = .ok texts) :
    parts.filterMap (·.text) = texts ∧ texts.length = parts.length := by
  induction parts generalizing texts with
  | nil =>
    obtain rfl := Except.ok.inj h
    exact ⟨rfl, rfl⟩
  | cons part parts ih =>
    rw [List.mapM_cons] at h
    obtain ⟨text, htext, h⟩ := bind_eq_ok.mp h
    obtain ⟨rest, hrest, h⟩ := bind_eq_ok.mp h
    obtain rfl := Except.ok.inj h
    obtain ⟨htexts, hlength⟩ := ih hrest
    have hsome : part.text = some text := by
      rw [TurnInputPart.checked] at htext
      split_ifs at htext
      cases hp : part.text with
      | none => simp [hp] at htext
      | some t =>
        simp only [hp] at htext
        split_ifs at htext
        rw [Except.ok.inj htext]
    exact ⟨by rw [List.filterMap_cons, hsome, htexts], by simp [hlength]⟩

lemma validTurn_of_intoParams {request : TurnStartInput} {params : Value}
    (h : request.intoParams = .ok params) :
    ValidTurn request ∧ params = jsonObject (turnMembers request request.texts) := by
  obtain ⟨_, hhead, h⟩ := bind_eq_ok.mp h
  obtain ⟨texts, htexts, h⟩ := bind_eq_ok.mp h
  obtain ⟨heq, hlength⟩ := mapM_checked htexts
  have hcond := reject_eq_ok.mp hhead
  simp only [Bool.or_eq_false_iff, Bool.not_eq_false', decide_eq_false_iff_not, gt_iff_lt,
    not_lt, List.isEmpty_eq_false_iff, List.contains_iff_mem] at hcond
  obtain ⟨⟨⟨⟨⟨hthread, hmode⟩, -⟩, -⟩, hnonempty⟩, hcount⟩ := hcond
  have hsame : request.texts = texts := heq
  refine ⟨⟨hthread, hmode, ?_, by rw [hsame]; omega⟩, ?_⟩
  · rw [hsame, ← List.length_pos_iff_ne_nil, hlength]
    exact List.length_pos_iff_ne_nil.mpr hnonempty
  · rw [hsame]
    exact (Except.ok.inj h).symm

end JaDesktop.Settings
