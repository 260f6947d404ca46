import JaDesktop.Lib.Encoder
import JaDesktop.Lib.Outcomes
import JaDesktop.Sidecar.Protocol

/-!
# The fragments of a prompt

What a prompt is compiled from: pieces of text, each with the layer that says how much it counts, an
identifier and a source.  The texts are strings of UTF-16 units without unpaired surrogates, as their
constructor makes sure.  An `int` is an integer that every computation keeps in its range; one that
left it would be the fault `overflow`.
-/

namespace JaDesktop.Prompt

open JaDesktop.Sidecar

/-! ## Numbers -/

/-- `Integer.MAX_VALUE`. -/
def intMax : ℕ := 2147483647

/-- How a computation stops: with an `IllegalArgumentException`, or because an `int` is too large. -/
inductive Fault
  | illegalArgument (message : JavaString)
  | overflow
deriving DecidableEq

/-- The value of an `int` computation. -/
def int (z : ℤ) : Except Fault ℤ :=
  if -(intMax : ℤ) - 1 ≤ z ∧ z ≤ intMax then .ok z else .error .overflow

lemma int_of_le {z : ℤ} (hlow : -(intMax : ℤ) - 1 ≤ z) (hhigh : z ≤ intMax) : int z = .ok z :=
  if_pos ⟨hlow, hhigh⟩

/-! ## Limits -/

def maxFragmentCodePoints : ℕ := 1000000

def maxFragmentUtf8Bytes : ℕ := 8 * 1024 * 1024

def maxTotalCodePoints : ℕ := 2000000

def maxTotalUtf8Bytes : ℕ := 16 * 1024 * 1024

def maxFragments : ℕ := 10000

def maxMetadataChars : ℕ := 512

/-! ## Texts -/

def hasUnpairedSurrogate : JavaString → Bool
  | [] => false
  | [u] => isHighSurrogate u || isLowSurrogate u
  | u :: l :: rest =>
    if isHighSurrogate u then !isLowSurrogate l || hasUnpairedSurrogate rest
    else isLowSurrogate u || hasUnpairedSurrogate (l :: rest)

def codePointCount : JavaString → ℕ
  | [] => 0
  | [_] => 1
  | u :: l :: rest =>
    if isHighSurrogate u && isLowSurrogate l then codePointCount rest + 1
    else codePointCount (l :: rest) + 1

def utf8Bytes (s : JavaString) : ℕ := (getBytes s).length

def requireMetadata (value name : JavaString) : Except Fault JavaString :=
  if isBlank value || decide (value.length > maxMetadataChars) then
    .error (.illegalArgument (name ++ java " must be non-blank and bounded"))
  else .ok value

def requireText (value : JavaString) : Except Fault JavaString :=
  if value.contains 0 || hasUnpairedSurrogate value then
    .error (.illegalArgument (java "text contains invalid control or Unicode encoding"))
  else if codePointCount value > maxFragmentCodePoints ∨ utf8Bytes value > maxFragmentUtf8Bytes then
    .error (.illegalArgument (java "prompt fragment exceeds hard input limits"))
  else .ok value

/-- The strings that `requireText` lets through. -/
lemma requireText_eq_ok {value text : JavaString} (h : requireText value = .ok text) :
    text = value ∧ hasUnpairedSurrogate text = false ∧ utf8Bytes text ≤ maxFragmentUtf8Bytes := by
  rw [requireText] at h
  split_ifs at h with hinvalid hlarge
  obtain rfl := Except.ok.inj h
  rw [Bool.or_eq_true, not_or] at hinvalid
  exact ⟨rfl, Bool.eq_false_iff.mpr hinvalid.2, Nat.le_of_not_lt (not_or.mp hlarge).2⟩

/-! ## Fragments -/

inductive PromptLayer
  | system
  | project
  | skill
  | runtime
deriving DecidableEq

def PromptLayer.order : PromptLayer → ℕ
  | system => 0
  | project => 1
  | skill => 2
  | runtime => 3

/-- `PromptFragment`, whose constructor has checked the identifier, the source and the text. -/
structure PromptFragment where
  layer : PromptLayer
  id : JavaString
  source : JavaString
  text : JavaString
  trustedSystem : Bool
  id_ok : requireMetadata id (java "id") = .ok id
  source_ok : requireMetadata source (java "source") = .ok source
  text_ok : requireText text = .ok text
deriving DecidableEq

structure TrustedSystemPrompt where
  id : JavaString
  source : JavaString
  text : JavaString
  id_ok : requireMetadata id (java "id") = .ok id
  source_ok : requireMetadata source (java "source") = .ok source
  text_ok : requireText text = .ok text

/-- `PromptFragment.trustedSystem`. -/
def TrustedSystemPrompt.fragment (prompt : TrustedSystemPrompt) : PromptFragment where
  layer := .system
  id := prompt.id
  source := prompt.source
  text := prompt.text
  trustedSystem := true
  id_ok := prompt.id_ok
  source_ok := prompt.source_ok
  text_ok := prompt.text_ok

/-- `PromptBudget`, of two `int`s that are not negative. -/
structure PromptBudget where
  maxUtf8Bytes : ℕ
  maxTokens : ℕ
  maxUtf8Bytes_le : maxUtf8Bytes ≤ intMax
  maxTokens_le : maxTokens ≤ intMax

def PromptBudget.unlimited : PromptBudget := ⟨intMax, intMax, le_rfl, le_rfl⟩

end JaDesktop.Prompt
